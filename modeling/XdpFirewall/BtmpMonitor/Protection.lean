import XdpFirewall.BtmpMonitor.Submit
import XdpFirewall.Net.HostNet

/-!
# Protection — which of the candidates end up banned

After a round an address that has failed too often is banned when it was banned for the protocol and
port before, or when it was sent to the API in a chunk that was accepted. A ban of the same address
for another port keeps it from being sent, and a candidate that the API refuses keeps its chunk and
all later ones from being accepted.
-/

namespace XdpFirewall
namespace BtmpMonitor

open Lib Net Policy ControlPlane Api

/-! ## Bans of single hosts -/

/-- How the network of one address is written and read. -/
structure HostText (env : ApiEnv) (ip : IpAddr) : Prop where
  untrimmed : trim (ipCidr env ip).toList = (ipCidr env ip).toList
  read : env.text.ipNet (ipCidr env ip) = some (hostNet ip)
  written : env.display (hostNet ip) = ipCidr env ip

/-- An unexpired ban of the address for the protocol and the port of the configuration. -/
structure BanCovers (env : ApiEnv) (config : Config) (ip : IpAddr) (row : TempBanRow) : Prop where
  policyName : row.policyName = defaultPolicyName
  unexpired : env.now < row.expiresAt
  contains : ∃ net, env.text.ipNet row.cidr = some net ∧ net.contains ip = true
  protocol : row.protocol = "any" ∨ row.protocol = config.ban.protocol
  port : row.port = none ∨ row.port = config.banPort

section Items

variable {Cursor : Type} {round : Round Cursor} {config : Config}

theorem slash_mem_ipCidr (env : ApiEnv) (ip : IpAddr) : '/' ∈ (ipCidr env ip).toList := by
  cases ip <;> simp [ipCidr]

theorem normalizeCidr_ipCidr {env : ApiEnv} {ip : IpAddr} (h : HostText env ip) :
    normalizeCidr env (ipCidr env ip) = .ok (ipCidr env ip) := by
  simp only [normalizeCidr, h.untrimmed, String.ofList_toList, slash_mem_ipCidr, if_true, h.read,
    trunc_hostNet, h.written]

/-- No node of the policy has an interface in the network, and all their addresses can be read. -/
theorem firstContained_ok_iff {cidr : IpNet} {refusal : IpAddr → ApiError}
    {ips : List IpAddr} :
    (match ips.find? cidr.contains with
      | some ip => .error (refusal ip)
      | none => .ok () : ApiResult Unit) = .ok () ↔ ∀ ip ∈ ips, cidr.contains ip = false := by
  cases hfind : ips.find? cidr.contains with
  | none => simpa using hfind
  | some ip =>
      constructor
      · intro h
        cases h
      · intro h
        have hin := List.find?_some hfind
        rw [h ip (List.mem_of_find?_eq_some hfind)] at hin
        cases hin

theorem rejectNodeIpBlock_ok_iff {env : ApiEnv} {cidr : IpNet} {resource : String} :
    rejectNodeIpBlock env cidr resource = .ok () ↔
      ∀ row ∈ env.nodes, row.policyName = defaultPolicyName →
        ∃ ips, parseNodeInterfaceIps env row.interfaceIps = .ok ips ∧
          ∀ ip ∈ ips, cidr.contains ip = false := by
  rw [rejectNodeIpBlock, forM_ok_iff]
  simp only [List.mem_filter, decide_eq_true_eq, and_imp]
  refine forall_congr' fun row => imp_congr_right fun _ => imp_congr_right fun _ => ?_
  cases hips : parseNodeInterfaceIps env row.interfaceIps with
  | error message =>
      constructor
      · intro h
        cases h
      · rintro ⟨ips, h, -⟩
        cases h
  | ok ips =>
      refine firstContained_ok_iff.trans ?_
      constructor
      · intro h
        exact ⟨ips, rfl, h⟩
      · rintro ⟨ips', hsame, h⟩
        cases hsame
        exact h

theorem rejectTempBanNodeIp_banItem {candidate : IpAddr × Nat}
    (htext : HostText round.env candidate.1) :
    TempBans.rejectTempBanNodeIp round.env (banItem round config candidate) =
      rejectNodeIpBlock round.env (hostNet candidate.1) "temporary ban" := by
  have hparse : parseNormalizedCidr round.env (ipCidr round.env candidate.1) =
      .ok (hostNet candidate.1) := by
    simp only [parseNormalizedCidr, normalizeCidr_ipCidr htext, bind, Except.bind, htext.read]
  simp only [TempBans.rejectTempBanNodeIp, banItem, hparse, fromAnyhow, bind, Except.bind]

/-- What the check of a configuration has left. -/
theorem validate_spec (h : config.validate = .ok ()) :
    1 ≤ config.ban.durationSeconds ∧ config.ban.durationSeconds ≤ maxTempBanSeconds ∧
      config.ban.validatePort = .ok () := by
  rw [Config.validate] at h
  split at h
  · cases h
  · split at h
    · cases h
    · split at h
      · cases h
      · split at h
        · cases h
        · rename_i hduration
          refine ⟨by omega, by omega, ?_⟩
          cases hport : config.ban.validatePort with
          | error message =>
              rw [hport] at h
              cases h
          | ok _ => rfl

theorem protocol_of_validatePort {ban : BanConfig} (h : ban.validatePort = .ok ()) :
    ban.protocol = "any" ∨ ban.protocol = "tcp" ∨ ban.protocol = "udp" := by
  rw [BanConfig.validatePort] at h
  split at h
  · rename_i hprotocol
    exact .inl hprotocol
  · rename_i hprotocol
    exact .inr (.inl hprotocol)
  · rename_i hprotocol
    exact .inr (.inr hprotocol)
  · cases h

/-- A checked configuration has a protocol as the API stores it. -/
theorem normalizeProtocol_of_valid (h : config.validate = .ok ()) :
    normalizeProtocol config.ban.protocol = .ok config.ban.protocol := by
  have hany : "any".toLower = "any" := toLower_eq_self (by decide)
  have htcp : "tcp".toLower = "tcp" := toLower_eq_self (by decide)
  have hudp : "udp".toLower = "udp" := toLower_eq_self (by decide)
  rcases protocol_of_validatePort (validate_spec h).2.2 with hknown | hknown | hknown
  · rw [hknown, normalizeProtocol, hany]
    rfl
  · rw [hknown, normalizeProtocol, htcp]
    rfl
  · rw [hknown, normalizeProtocol, hudp]
    rfl

theorem validateDynamicRatePort_of_valid (h : config.validate = .ok ()) :
    validateDynamicRatePort config.ban.protocol config.banPort = .ok config.banPort := by
  have hport := (validate_spec h).2.2
  rw [BanConfig.validatePort] at hport
  rw [Config.banPort]
  split at hport
  · rename_i hprotocol
    rw [if_pos hprotocol]
    rfl
  · rename_i hprotocol
    split at hport
    · rename_i hrange
      rw [hprotocol, if_neg (by decide), validateDynamicRatePort, validatePortFor,
        if_pos ⟨by omega, by omega⟩]
    · cases hport
  · rename_i hprotocol
    split at hport
    · rename_i hrange
      rw [hprotocol, if_neg (by decide), validateDynamicRatePort, validatePortFor,
        if_pos ⟨by omega, by omega⟩]
    · cases hport
  · cases hport

/-- What is stored for a candidate, if its ban can expire at all. -/
theorem tempBanInput_banItem (hvalid : config.validate = .ok ()) {candidate : IpAddr × Nat}
    (htext : HostText round.env candidate.1) :
    TempBans.tempBanInput round.env (banItem round config candidate) = (do
      return {
        cidr := ipCidr round.env candidate.1
        protocol := config.ban.protocol
        port := config.banPort
        expiresAt := ← expiration round.env.now config.ban.durationSeconds
        comment := (banItem round config candidate).comment }) := by
  obtain ⟨hpositive, hbound, -⟩ := validate_spec hvalid
  have hprotocol : (some config.ban.protocol).mapM normalizeProtocol =
      .ok (some config.ban.protocol) := by
    simp [normalizeProtocol_of_valid hvalid]
  have hduration : validateDuration (some config.ban.durationSeconds) =
      .ok config.ban.durationSeconds := by
    rw [validateDuration, Option.getD_some, if_neg (by omega), if_neg (by omega)]
  have hbind {B C : Type} (b : B) (f : B → Except String C) : (Except.ok b >>= f) = f b := rfl
  simp only [TempBans.tempBanInput, banItem, normalizeCidr_ipCidr htext, hbind, hprotocol,
    Option.getD_some, validateDynamicRatePort_of_valid hvalid, hduration]

theorem lt_of_expiration {now seconds expiresAt : Int} (hseconds : 1 ≤ seconds)
    (h : expiration now seconds = .ok expiresAt) : now < expiresAt := by
  simp only [expiration] at h
  split at h
  · cases h
    omega
  · cases h

/-- What is stored for a candidate that passes its checks. -/
theorem banCovers_of_checks (hvalid : config.validate = .ok ()) {candidate : IpAddr × Nat}
    (htext : HostText round.env candidate.1) {input : TempBans.TempBanInput}
    (h : Checks round.env (banItem round config candidate) input) (id : Int32) :
    BanCovers round.env config candidate.1 (input.row id) ∧
      input.cidr = ipCidr round.env candidate.1 := by
  have hinput := h.2
  rw [tempBanInput_banItem hvalid htext] at hinput
  obtain ⟨expiresAt, hexpires, rfl⟩ := map_ok hinput
  refine ⟨?_, rfl⟩
  exact {
    policyName := rfl
    unexpired := lt_of_expiration (validate_spec hvalid).1 hexpires
    contains := ⟨_, htext.read, hostNet_contains_iff.mpr rfl⟩
    protocol := .inr rfl
    port := .inr rfl }

end Items

/-! ## The queue -/

section Queue

variable {Cursor : Type} (round : Round Cursor) (config : Config) (db : PolicyDb) (window : Counts)

/-- The candidates of a round as the map is walked: addresses that have failed too often, are not
trusted and have no unexpired ban of their own network. -/
def queue : List (IpAddr × Nat) :=
  candidates round.env config ((unexpiredBans round.env db).map TempBanRow.cidr)
    (round.iterate window)

/-- An address that has failed too often, is not trusted, and that the API would ban alone. -/
structure Due (candidate : IpAddr × Nat) : Prop where
  inWindow : ∃ times, (candidate.1, times) ∈ window ∧ candidate.2 = times.length
  failures : config.ban.threshold ≤ candidate.2
  untrusted : isTrusted candidate.1 config.monitor.trustedCidrs = false
  accepted : Accepted round.env db (banItem round config candidate)

/-- The candidate is sent, and whatever the API would refuse stands in a later chunk. -/
def Unhindered (candidate : IpAddr × Nat) : Prop :=
  candidate ∈ queue round config db window ∧
    ∀ other ∈ queue round config db window,
      ¬ Accepted round.env db (banItem round config other) →
        place moreFailures (queue round config db window) candidate / maxBatchItems <
          place moreFailures (queue round config db window) other / maxBatchItems

variable {round config db window}

theorem mem_queue_iff (hiterate : (round.iterate window).Perm window.entries)
    {candidate : IpAddr × Nat} :
    candidate ∈ queue round config db window ↔
      (∃ times, (candidate.1, times) ∈ window ∧ candidate.2 = times.length) ∧
        config.ban.threshold ≤ candidate.2 ∧
        isTrusted candidate.1 config.monitor.trustedCidrs = false ∧
        ∀ row ∈ unexpiredBans round.env db, row.cidr ≠ ipCidr round.env candidate.1 := by
  have hverdict : ∀ entry : IpAddr × List Int,
      verdict round.env config ((unexpiredBans round.env db).map TempBanRow.cidr) entry =
          .candidate ↔
        config.ban.threshold ≤ entry.2.length ∧
          isTrusted entry.1 config.monitor.trustedCidrs = false ∧
          ∀ row ∈ unexpiredBans round.env db, row.cidr ≠ ipCidr round.env entry.1 := by
    intro entry
    unfold verdict
    -- The checks in the order of `run_once`: failures, trust, bans that are there.
    split
    · rename_i hfew
      exact ⟨nofun, fun h => absurd h.1 (Nat.not_le.mpr hfew)⟩
    · rename_i hmany
      split
      · rename_i htrusted
        exact ⟨nofun, fun h => absurd (htrusted.symm.trans h.2.1) (by decide)⟩
      · rename_i htrusted
        split
        · rename_i hlisted
          refine ⟨nofun, fun h => ?_⟩
          obtain ⟨row, hrow, hcidr⟩ := List.mem_map.mp (List.contains_iff_mem.mp hlisted)
          exact absurd hcidr (h.2.2 row hrow)
        · rename_i hunlisted
          refine ⟨fun _ => ⟨Nat.le_of_not_lt hmany, by simpa using htrusted, ?_⟩, fun _ => rfl⟩
          intro row hrow hcidr
          exact hunlisted (List.contains_iff_mem.mpr (List.mem_map.mpr ⟨row, hrow, hcidr⟩))
  rw [queue, candidates, List.mem_map]
  constructor
  · rintro ⟨entry, hentry, rfl⟩
    obtain ⟨hmem, hcandidate⟩ := List.mem_filter.mp hentry
    obtain ⟨hmany, huntrusted, hunlisted⟩ := (hverdict entry).mp (of_decide_eq_true hcandidate)
    exact ⟨⟨entry.2, hiterate.mem_iff.mp hmem, rfl⟩, hmany, huntrusted, hunlisted⟩
  · rintro ⟨⟨times, hmem, hcount⟩, hmany, huntrusted, hunlisted⟩
    refine ⟨(candidate.1, times), List.mem_filter.mpr ⟨hiterate.mem_iff.mpr hmem, ?_⟩, ?_⟩
    · rw [hcount] at hmany
      exact decide_eq_true ((hverdict _).mpr ⟨hmany, huntrusted, hunlisted⟩)
    · exact Prod.ext rfl hcount.symm

/-- Each address is in the queue once. -/
theorem nodup_queue (hiterate : (round.iterate window).Perm window.entries) :
    (queue round config db window).Nodup := by
  refine List.Nodup.of_map Prod.fst ?_
  have hkeys : ((round.iterate window).map Prod.fst).Nodup :=
    (hiterate.map Prod.fst).nodup_iff.mpr window.nodup
  rw [queue, candidates, List.map_map]
  exact hkeys.sublist (List.filter_sublist.map _)

theorem length_queue_le (hiterate : (round.iterate window).Perm window.entries) :
    (queue round config db window).length ≤ window.size := by
  rw [queue, candidates, List.length_map, KeyedStore.size, ← hiterate.length_eq]
  exact List.length_filter_le _ _

theorem moreFailures_trans (a b c : IpAddr × Nat) (hab : moreFailures a b = true)
    (hbc : moreFailures b c = true) : moreFailures a c = true := by
  simp only [moreFailures, decide_eq_true_eq] at hab hbc ⊢
  exact hbc.trans hab

theorem moreFailures_total (a b : IpAddr × Nat) : (moreFailures a b || moreFailures b a) = true := by
  simp only [moreFailures, Bool.or_eq_true, decide_eq_true_eq]
  exact Nat.le_total b.2 a.2

end Queue

/-! ## A round -/

section Round

variable {Cursor : Type} {m : Monitor Cursor} {round : Round Cursor} {db : PolicyDb}
  {attempts : List FailedAttempt} {cursor : Cursor} {start : Int}

/-- What a round does to the database is what becomes of the sorted queue. -/
theorem runOnce_db (hattempts : round.attempts = .ok (attempts, cursor))
    (hstart : cutoff m.config round.now = some start) (hreach : round.unreachable = none) :
    (m.runOnce round false db).2.2 =
      (createTempBansBatch round db
        (((queue round m.config db (mergeAttempts m.counts attempts start)).mergeSort
          moreFailures).map (banItem round m.config))).2 := by
  simp only [Monitor.runOnce, hattempts, hstart, listTempBanCidrs_ok hreach, Bool.false_eq_true,
    if_false]
  split
  · rename_i hempty
    have hnil := List.isEmpty_iff.mp hempty
    rw [queue, hnil]
    rfl
  · cases hbatch : createTempBansBatch round db
        (((queue round m.config db (mergeAttempts m.counts attempts start)).mergeSort
          moreFailures).map (banItem round m.config)) with
    | mk result after =>
        rw [queue] at hbatch
        rw [hbatch]
        cases result <;> rfl

end Round

section Sent

variable {Cursor : Type} {round : Round Cursor} {config : Config} {db : PolicyDb} {window : Counts}

/-- Two candidates with the same item are the same. -/
theorem banItem_injOn (hiterate : (round.iterate window).Perm window.entries)
    (htexts : ∀ ip times, (ip, times) ∈ window → HostText round.env ip) {a b : IpAddr × Nat}
    (ha : a ∈ queue round config db window) (hb : b ∈ queue round config db window)
    (h : banItem round config a = banItem round config b) : a = b := by
  obtain ⟨⟨times, hmem, hcount⟩, -⟩ := (mem_queue_iff hiterate).mp ha
  obtain ⟨⟨times', hmem', hcount'⟩, -⟩ := (mem_queue_iff hiterate).mp hb
  have hcidr : ipCidr round.env a.1 = ipCidr round.env b.1 :=
    congrArg TempBans.CreateTempBanRequest.cidr h
  have hread : hostNet a.1 = hostNet b.1 := by
    refine Option.some.inj ((htexts _ _ hmem).read.symm.trans ?_)
    rw [hcidr, (htexts _ _ hmem').read]
  have hip : a.1 = b.1 := by
    rw [← hostNet_addr a.1, ← hostNet_addr b.1, hread]
  have hentry := window.eq_of_ident_eq hmem hmem' hip
  refine Prod.ext hip ?_
  rw [hcount, hcount', (Prod.mk.inj hentry).2]

/-- A candidate is sent when no candidate up to the end of its chunk is refused. -/
theorem mem_sent_queue_iff (hiterate : (round.iterate window).Perm window.entries)
    (htexts : ∀ ip times, (ip, times) ∈ window → HostText round.env ip) {candidate : IpAddr × Nat}
    (hcandidate : candidate ∈ queue round config db window) :
    banItem round config candidate ∈ sent (accepts round.env) (chunks maxBatchItems
        (((queue round config db window).mergeSort moreFailures).map (banItem round config))) ↔
      ∀ other ∈ queue round config db window,
        accepts round.env (banItem round config other) = false →
          place moreFailures (queue round config db window) candidate / maxBatchItems <
            place moreFailures (queue round config db window) other / maxBatchItems := by
  -- A place in the sorted queue is an index into it, and chunks are cut by the index.
  have hplace : ∀ i c, ((queue round config db window).mergeSort moreFailures)[i]? = some c →
      place moreFailures (queue round config db window) c = i := fun i c h =>
    place_of_getElem?_mergeSort moreFailures_trans moreFailures_total (nodup_queue hiterate) h
  have hindex : ∀ c ∈ queue round config db window,
      ∃ i, ((queue round config db window).mergeSort moreFailures)[i]? = some c := fun c hc =>
    List.mem_iff_getElem?.mp (List.mem_mergeSort.mpr hc)
  rw [mem_sent_chunks_iff (by decide)]
  constructor
  · rintro ⟨i, hi, hlater⟩ other hother hrefused
    rw [List.getElem?_map, Option.map_eq_some_iff] at hi
    obtain ⟨c, hc, hitem⟩ := hi
    have hmem := List.mem_mergeSort.mp (List.mem_iff_getElem?.mpr ⟨i, hc⟩)
    obtain rfl := banItem_injOn hiterate htexts hmem hcandidate hitem
    obtain ⟨j, hj⟩ := hindex other hother
    rw [hplace i c hc, hplace j other hj]
    refine hlater j _ ?_ hrefused
    rw [List.getElem?_map, hj, Option.map_some]
  · intro hlater
    obtain ⟨i, hi⟩ := hindex candidate hcandidate
    refine ⟨i, ?_, fun j b hj hrefused => ?_⟩
    · rw [List.getElem?_map, hi, Option.map_some]
    · rw [List.getElem?_map, Option.map_eq_some_iff] at hj
      obtain ⟨other, hother, rfl⟩ := hj
      have hmem := List.mem_mergeSort.mp (List.mem_iff_getElem?.mpr ⟨j, hother⟩)
      have hless := hlater other hmem hrefused
      rw [hplace i candidate hi, hplace j other hother] at hless
      exact hless

/-- The rows that are added ban exactly the addresses that were sent. -/
theorem exists_banCovers_iff (hvalid : config.validate = .ok ())
    (hiterate : (round.iterate window).Perm window.entries)
    (htexts : ∀ ip times, (ip, times) ∈ window → HostText round.env ip) {rows : List TempBanRow}
    (hrows : RowsOf round.env (sent (accepts round.env) (chunks maxBatchItems
      (((queue round config db window).mergeSort moreFailures).map (banItem round config)))) rows)
    {candidate : IpAddr × Nat}
    (hcandidate : ∃ times, (candidate.1, times) ∈ window ∧ candidate.2 = times.length) :
    (∃ row ∈ rows, BanCovers round.env config candidate.1 row) ↔
      candidate ∈ queue round config db window ∧
        banItem round config candidate ∈ sent (accepts round.env) (chunks maxBatchItems
          (((queue round config db window).mergeSort moreFailures).map (banItem round config))) := by
  constructor
  · rintro ⟨row, hrow, hcovers⟩
    obtain ⟨request, hrequest, input, id, hchecks, rfl⟩ := exists_left_of_forall₂ hrows hrow
    -- The request is the item of some candidate, and its ban contains one address only.
    obtain ⟨hmem, -⟩ := mem_of_mem_sent (by decide) hrequest
    obtain ⟨other, hother, rfl⟩ := List.mem_map.mp hmem
    have hother := List.mem_mergeSort.mp hother
    obtain ⟨⟨times', hmem', hcount'⟩, -⟩ := (mem_queue_iff hiterate).mp hother
    obtain ⟨times, hmem, hcount⟩ := hcandidate
    obtain ⟨net, hread, hcontains⟩ := hcovers.contains
    have hcidr := (banCovers_of_checks hvalid (htexts _ _ hmem') hchecks id).2
    have hnet : net = hostNet other.1 := by
      refine Option.some.inj (hread.symm.trans ?_)
      rw [← (htexts _ _ hmem').read, ← hcidr]
      rfl
    rw [hnet] at hcontains
    have hip : candidate.1 = other.1 := hostNet_contains_iff.mp hcontains
    have hentry := window.eq_of_ident_eq hmem hmem' hip
    have hsame : candidate = other := by
      refine Prod.ext hip ?_
      rw [hcount, hcount', (Prod.mk.inj hentry).2]
    rw [hsame]
    exact ⟨hother, hrequest⟩
  · rintro ⟨-, hsent⟩
    obtain ⟨times, hmem, -⟩ := hcandidate
    obtain ⟨row, hrow, input, id, hchecks, rfl⟩ := exists_right_of_forall₂ hrows hsent
    exact ⟨_, hrow, (banCovers_of_checks hvalid (htexts _ _ hmem) hchecks id).1⟩

end Sent

section Round

variable {Cursor : Type} {m : Monitor Cursor} {round : Round Cursor} {db : PolicyDb}
  {attempts : List FailedAttempt} {cursor : Cursor} {start : Int}

theorem runOnce_rows (hattempts : round.attempts = .ok (attempts, cursor))
    (hstart : cutoff m.config round.now = some start) (hreach : round.unreachable = none)
    (hiterate : (round.iterate (mergeAttempts m.counts attempts start)).Perm
      (mergeAttempts m.counts attempts start).entries)
    (hfresh : FreshIds round.env (mergeAttempts m.counts attempts start).size
      (db.tempBans.map TempBanRow.id)) (htransaction : round.env.transactionFails = none) :
    ∃ rows, (m.runOnce round false db).2.2.tempBans = db.tempBans ++ rows ∧
      RowsOf round.env (sent (accepts round.env) (chunks maxBatchItems
        (((queue round m.config db (mergeAttempts m.counts attempts start)).mergeSort
          moreFailures).map (banItem round m.config)))) rows := by
  rw [runOnce_db hattempts hstart hreach, createTempBansBatch]
  refine submitChunks_rows hreach htransaction
    (fun chunk hchunk => length_of_mem_chunks (by decide) hchunk) (hfresh.mono ?_) 0
  rw [flatten_chunks (by decide), List.length_map, List.length_mergeSort]
  exact length_queue_le hiterate

/-- After a round every address that is due has a ban, if and only if it had one before or nothing
that the API refuses kept it from getting one. -/
theorem runOnce_protects_iff (hattempts : round.attempts = .ok (attempts, cursor))
    (hstart : cutoff m.config round.now = some start) (hreach : round.unreachable = none)
    (hiterate : (round.iterate (mergeAttempts m.counts attempts start)).Perm
      (mergeAttempts m.counts attempts start).entries)
    (htexts : ∀ ip times, (ip, times) ∈ mergeAttempts m.counts attempts start →
      HostText round.env ip)
    (hfresh : FreshIds round.env (mergeAttempts m.counts attempts start).size
      (db.tempBans.map TempBanRow.id)) :
    (∀ candidate, Due round m.config db (mergeAttempts m.counts attempts start) candidate →
        ∃ row ∈ (m.runOnce round false db).2.2.tempBans,
          BanCovers round.env m.config candidate.1 row) ↔
      ∀ candidate, Due round m.config db (mergeAttempts m.counts attempts start) candidate →
        (∃ row ∈ db.tempBans, BanCovers round.env m.config candidate.1 row) ∨
          Unhindered round m.config db (mergeAttempts m.counts attempts start) candidate := by
  refine forall_congr' fun candidate => imp_congr_right fun hdue => ?_
  obtain ⟨times, hmem, hcount⟩ := hdue.inWindow
  have hone : FreshIds round.env 1 (db.tempBans.map TempBanRow.id) :=
    hfresh.mono (List.length_pos_of_mem hmem)
  have htransaction := ((accepted_iff hone).mp hdue.accepted).1
  obtain ⟨rows, hdb, hrows⟩ := runOnce_rows hattempts hstart hreach hiterate hfresh htransaction
  have hrefused : ∀ other, ¬ Accepted round.env db (banItem round m.config other) ↔
      accepts round.env (banItem round m.config other) = false := by
    intro other
    rw [accepted_iff hone, ← accepts_iff]
    simp [htransaction]
  have hadded := exists_banCovers_iff m.valid hiterate htexts hrows hdue.inWindow
  -- A round adds rows and takes none away.
  have hsplit : (∃ row ∈ (m.runOnce round false db).2.2.tempBans,
        BanCovers round.env m.config candidate.1 row) ↔
      (∃ row ∈ db.tempBans, BanCovers round.env m.config candidate.1 row) ∨
        ∃ row ∈ rows, BanCovers round.env m.config candidate.1 row := by
    simp only [hdb, List.mem_append, or_and_right, exists_or]
  rw [hsplit, hadded, Unhindered]
  refine or_congr_right (and_congr_right fun hqueue => ?_)
  rw [mem_sent_queue_iff hiterate htexts hqueue]
  simp only [hrefused]

/-- A queue of one chunk with a candidate that is refused leaves the database as it is, and so does
every later round that finds the same. -/
theorem runOnce_db_of_refused (hattempts : round.attempts = .ok (attempts, cursor))
    (hstart : cutoff m.config round.now = some start) (hreach : round.unreachable = none)
    {other : IpAddr × Nat}
    (hother : other ∈ queue round m.config db (mergeAttempts m.counts attempts start))
    (hrefused : ∀ input, ¬ Checks round.env (banItem round m.config other) input)
    (hsmall : (queue round m.config db (mergeAttempts m.counts attempts start)).length ≤
      maxBatchItems) :
    (m.runOnce round false db).2.2 = db := by
  let items := ((queue round m.config db (mergeAttempts m.counts attempts start)).mergeSort
    moreFailures).map (banItem round m.config)
  have hitem : banItem round m.config other ∈ items :=
    List.mem_map_of_mem (List.mem_mergeSort.mpr hother)
  have hchunks : chunks maxBatchItems items = [items] := by
    refine chunks_of_length_le (by decide) (List.ne_nil_of_mem hitem) ?_
    rw [List.length_map, List.length_mergeSort]
    exact hsmall
  have hbatch : (∃ e, (TempBans.createBatch round.env db items).answer = .error e) ∧
      (TempBans.createBatch round.env db items).db = db :=
    createBatch_refused (.inr ⟨_, hitem, hrefused⟩)
  obtain ⟨⟨e, he⟩, hsame⟩ := hbatch
  have hchunk : createTempBanChunk round db items = (.error (.status e), db) := by
    simp only [createTempBanChunk, hreach, he, hsame]
  rw [runOnce_db hattempts hstart hreach, createTempBansBatch]
  change (submitChunks round 0 db (chunks maxBatchItems items)).2 = db
  rw [hchunks, submitChunks, hchunk]

end Round

/-! ## A node among the candidates -/

/-- `203.0.113.9` -/
def attacker : IpAddr := .v4 0xCB007109

/-- `10.0.0.5` -/
def nodeAddress : IpAddr := .v4 0x0A000005

def sshEnv : ApiEnv where
  text :=
    { ipNet := fun value =>
        if value = "203.0.113.9/32" then some (hostNet attacker)
        else if value = "10.0.0.5/32" then some (hostNet nodeAddress)
        else none
      ipAddr := fun value => if value = "10.0.0.5" then some nodeAddress else none
      cidrArray := fun _ => []
      stringArray := fun _ => none }
  display net := if net = hostNet attacker then "203.0.113.9/32" else "10.0.0.5/32"
  displayAddr ip := if ip = attacker then "203.0.113.9" else "10.0.0.5"
  keyDigest := id
  urlScheme _ := some "https"
  nodes :=
    [{ nodeId := "node-a"
       policyName := defaultPolicyName
       interfaceName := "eth0"
       interfaceIps := "10.0.0.5" }]
  now := 0
  nextId ids := Int32.ofNat (ids.length + 1)
  transactionFails := none
  versionReadFails := none

def sshConfig : Config where
  apiUrl := "http://127.0.0.1:8080"
  ban :=
    { threshold := 1
      windowSeconds := 3600
      durationSeconds := 600
      protocol := "any"
      port := 0
      comment := "btmp auto-ban: brute-force SSH" }
  monitor :=
    { btmpPath := "/var/log/btmp"
      trustedCidrs := [] }

def sshMonitor : Monitor Unit where
  config := sshConfig
  valid := by decide
  cursor := none
  counts := .empty

def sshRound (failures : List IpAddr) : Round Unit where
  now := 0
  attempts := .ok (failures.map fun ip => { ip := ip, time := 0 }, ())
  iterate := KeyedStore.entries
  unreachable := none
  env := sshEnv

theorem hostText_attacker : HostText sshEnv attacker := by
  constructor <;> decide

theorem hostText_nodeAddress : HostText sshEnv nodeAddress := by
  constructor <;> decide

/-- The start of the window. -/
def sshStart : Int := -3600000000000

def sshWindow (failures : List IpAddr) : Counts :=
  mergeAttempts sshMonitor.counts (failures.map fun ip => { ip := ip, time := 0 }) sshStart

theorem cutoff_sshConfig : cutoff sshConfig 0 = some sshStart := by
  decide

theorem freshIds_sshEnv : FreshIds sshEnv 2 [] := by
  decide

/-- The API bans the attacker when it is asked for that alone. -/
theorem accepted_attacker (failures : List IpAddr) :
    Accepted sshEnv .empty (banItem (sshRound failures) sshConfig (attacker, 1)) := by
  have htext : HostText (sshRound failures).env ((attacker, 1) : IpAddr × Nat).1 :=
    hostText_attacker
  have hreject : TempBans.rejectTempBanNodeIp sshEnv
      (banItem (sshRound failures) sshConfig (attacker, 1)) = .ok () := by
    refine (rejectTempBanNodeIp_banItem htext).trans (rejectNodeIpBlock_ok_iff.mpr ?_)
    intro row hrow _
    rw [List.mem_singleton.mp hrow]
    exact ⟨[nodeAddress], rfl, by decide⟩
  have hinput := tempBanInput_banItem sshMonitor.valid htext
  exact (accepted_iff (freshIds_sshEnv.mono (by decide))).mpr ⟨rfl, _, hreject, hinput⟩

theorem due_attacker {failures : List IpAddr} (h : (attacker, [0]) ∈ sshWindow failures) :
    Due (sshRound failures) sshConfig .empty (sshWindow failures) (attacker, 1) where
  inWindow := ⟨[0], h, rfl⟩
  failures := Nat.le_refl 1
  untrusted := rfl
  accepted := accepted_attacker failures

/-- Both have failed to log in. -/
theorem entries_sshWindow :
    (sshWindow [attacker, nodeAddress]).entries = [(nodeAddress, [0]), (attacker, [0])] := by
  decide

theorem attacker_mem_sshWindow : (attacker, [0]) ∈ (sshWindow [attacker, nodeAddress]).entries := by
  rw [entries_sshWindow]
  exact List.mem_cons_of_mem _ List.mem_cons_self

theorem size_sshWindow : (sshWindow [attacker, nodeAddress]).size = 2 := by
  rw [KeyedStore.size, entries_sshWindow]
  rfl

theorem hostText_sshWindow :
    ∀ ip times, (ip, times) ∈ sshWindow [attacker, nodeAddress] → HostText sshEnv ip := by
  intro ip times h
  have hmem : (ip, times) ∈ (sshWindow [attacker, nodeAddress]).entries := h
  rw [entries_sshWindow] at hmem
  rcases List.mem_cons.mp hmem with heq | hmem
  · rw [(Prod.mk.inj heq).1]
    exact hostText_nodeAddress
  · rw [(Prod.mk.inj (List.mem_singleton.mp hmem)).1]
    exact hostText_attacker

theorem freshIds_sshWindow :
    FreshIds sshEnv (sshWindow [attacker, nodeAddress]).size
      (PolicyDb.empty.tempBans.map TempBanRow.id) := by
  rw [size_sshWindow]
  exact freshIds_sshEnv

/-- The operator trusts the node. -/
def trustingConfig : Config :=
  { sshConfig with
    monitor :=
      { btmpPath := "/var/log/btmp"
        trustedCidrs := [hostNet nodeAddress] } }

def trustingMonitor : Monitor Unit where
  config := trustingConfig
  valid := by decide
  cursor := none
  counts := .empty

theorem due_trustingConfig : Due (sshRound [attacker, nodeAddress]) trustingConfig .empty
    (sshWindow [attacker, nodeAddress]) (attacker, 1) where
  inWindow := ⟨[0], attacker_mem_sshWindow, rfl⟩
  failures := Nat.le_refl 1
  untrusted := by decide
  accepted := accepted_attacker [attacker, nodeAddress]

/-- The API would refuse the node, which is not in the queue. -/
theorem runOnce_protects_iff_trusted :
    (nodeAddress, [0]) ∈ sshWindow [attacker, nodeAddress] ∧
      Due (sshRound [attacker, nodeAddress]) trustingConfig .empty
        (sshWindow [attacker, nodeAddress]) (attacker, 1) ∧
      ∃ row ∈ (trustingMonitor.runOnce (sshRound [attacker, nodeAddress]) false
          .empty).2.2.tempBans,
        BanCovers sshEnv trustingConfig attacker row := by
  have hnode : (nodeAddress, [0]) ∈ (sshWindow [attacker, nodeAddress]).entries := by
    rw [entries_sshWindow]
    exact List.mem_cons_self
  have hdue := due_trustingConfig
  have hqueue : ∀ candidate ∈ queue (sshRound [attacker, nodeAddress]) trustingConfig .empty
      (sshWindow [attacker, nodeAddress]), candidate = (attacker, 1) := by
    intro candidate hcandidate
    obtain ⟨⟨times, hmem, hcount⟩, -, huntrusted, -⟩ := (mem_queue_iff (.refl _)).mp hcandidate
    have hmem : (candidate.1, times) ∈ (sshWindow [attacker, nodeAddress]).entries := hmem
    rw [entries_sshWindow] at hmem
    rcases List.mem_cons.mp hmem with heq | hmem
    · rw [(Prod.mk.inj heq).1] at huntrusted
      exact absurd huntrusted (by decide)
    · obtain ⟨hip, htimes⟩ := Prod.mk.inj (List.mem_singleton.mp hmem)
      exact Prod.ext hip (hcount.trans (congrArg List.length htimes))
  have hattempts : (sshRound [attacker, nodeAddress]).attempts =
      .ok ([{ ip := attacker, time := 0 }, { ip := nodeAddress, time := 0 }], ()) := rfl
  have hstart : cutoff trustingMonitor.config (sshRound [attacker, nodeAddress]).now =
      some sshStart := cutoff_sshConfig
  refine ⟨hnode, hdue, (runOnce_protects_iff hattempts hstart rfl (.refl _) hostText_sshWindow
    freshIds_sshWindow).mpr ?_ (attacker, 1) hdue⟩
  intro candidate hcandidate
  refine .inr ⟨(mem_queue_iff (.refl _)).mpr ⟨hcandidate.inWindow, hcandidate.failures,
    hcandidate.untrusted, by simp [unexpiredBans, PolicyDb.empty]⟩, fun other hother hrefused => ?_⟩
  rw [hqueue other hother] at hrefused
  exact absurd (accepted_attacker [attacker, nodeAddress]) hrefused

/-- As long as a node fails to log in too, the attacker is not banned. -/
theorem attacker_shielded :
    ¬ ∀ (m : Monitor Unit) (round : Round Unit) (db : PolicyDb) (attempts : List FailedAttempt)
        (start : Int), round.attempts = .ok (attempts, ()) →
      cutoff m.config round.now = some start → round.unreachable = none →
      (round.iterate (mergeAttempts m.counts attempts start)).Perm
        (mergeAttempts m.counts attempts start).entries →
      (∀ ip times, (ip, times) ∈ mergeAttempts m.counts attempts start →
        HostText round.env ip) →
      FreshIds round.env (mergeAttempts m.counts attempts start).size
        (db.tempBans.map TempBanRow.id) →
      ∀ candidate, Due round m.config db (mergeAttempts m.counts attempts start) candidate →
        ∃ row ∈ (m.runOnce round false db).2.2.tempBans,
          BanCovers round.env m.config candidate.1 row := by
  intro hall
  have hnode : (nodeAddress, [0]) ∈ (sshWindow [attacker, nodeAddress]).entries := by
    rw [entries_sshWindow]
    exact List.mem_cons_self
  have hsmall : (sshWindow [attacker, nodeAddress]).size ≤ maxBatchItems := by
    rw [size_sshWindow]
    decide
  obtain ⟨row, hrow, -⟩ := hall sshMonitor (sshRound [attacker, nodeAddress]) .empty _ sshStart rfl
    cutoff_sshConfig rfl (.refl _) hostText_sshWindow freshIds_sshWindow (attacker, 1)
    (due_attacker attacker_mem_sshWindow)
  have hqueue : (nodeAddress, 1) ∈ queue (sshRound [attacker, nodeAddress]) sshConfig .empty
      (sshWindow [attacker, nodeAddress]) := by
    refine (mem_queue_iff (.refl _)).mpr ⟨⟨[0], hnode, rfl⟩, Nat.le_refl 1, rfl, ?_⟩
    simp [unexpiredBans, PolicyDb.empty]
  -- The address of a node is refused, and both candidates are in one chunk.
  have hrefused : ∀ input, ¬ Checks sshEnv
      (banItem (sshRound [attacker, nodeAddress]) sshConfig (nodeAddress, 1)) input := by
    rintro input ⟨hreject, -⟩
    have htext : HostText (sshRound [attacker, nodeAddress]).env
        ((nodeAddress, 1) : IpAddr × Nat).1 := hostText_nodeAddress
    obtain ⟨ips, hips, hnone⟩ := rejectNodeIpBlock_ok_iff.mp
      ((rejectTempBanNodeIp_banItem htext).symm.trans hreject) _ List.mem_cons_self rfl
    cases hips
    exact absurd (hnone nodeAddress List.mem_cons_self) (by decide)
  have hsame : (sshMonitor.runOnce (sshRound [attacker, nodeAddress]) false .empty).2.2 = .empty :=
    runOnce_db_of_refused rfl cutoff_sshConfig rfl hqueue hrefused
      ((length_queue_le (.refl _)).trans hsmall)
  rw [hsame] at hrow
  cases hrow

end BtmpMonitor
end XdpFirewall
