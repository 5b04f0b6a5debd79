import XdpFirewall.DataPlane.ApplyOrder
import XdpFirewall.Enforcement.RuleMap
import XdpFirewall.Enforcement.TempBans

/-!
# LocalSafety — what the filter of the agent's own addresses keeps out, and what it loses

Neither a deny rule nor a temporary ban that would hit an address of the agent's interface gets
into the maps. A refused rule does not hold back another one with its key. Bans are compacted before
they are filtered, though: a ban that a refused one covers is lost with it.
-/

namespace XdpFirewall
namespace Enforcement

open Net Policy Lib DataPlane Bpf

/-! ## Keys and addresses -/

/-- The CIDR of a key contains the address: the kernel takes the key for packets from there. -/
def KeyContains (key : LpmKey L4Data) (ip : IpAddr) : Prop :=
  key.bits <+: (packetKey (family ip) key.data.proto key.data.dport (addrBytes ip)).bits

theorem keyContains_iff {net : Network} {protocol : L4Protocol} {port : U16} {ip : IpAddr} :
    KeyContains (l4Key net.addr net.prefixLen protocol port) ip ↔ net.Contains ip := by
  rw [KeyContains, l4Key_matches_iff]
  exact ⟨fun h => h.2.2, fun h => ⟨rfl, rfl, h⟩⟩

/-- No address of the interface is in the network. -/
def AvoidsLocalIps (localCidrs : List LocalInterfaceCidr) (net : Network) : Prop :=
  ∀ own ∈ localCidrs, ¬ net.Contains own.ip

instance (localCidrs : List LocalInterfaceCidr) (net : Network) :
    Decidable (AvoidsLocalIps localCidrs net) :=
  inferInstanceAs (Decidable (∀ own ∈ localCidrs, _))

theorem tempBanMatchesLocalInterface_eq_false_iff {localCidrs : List LocalInterfaceCidr}
    {ban : XdpTempBan} :
    tempBanMatchesLocalInterface localCidrs ban = false ↔
      AvoidsLocalIps localCidrs ban.toNetwork := by
  rw [tempBanMatchesLocalInterface, tempBanMatchingLocalCidr, Option.isSome_eq_false_iff,
    Option.isNone_iff_eq_none, List.find?_eq_none]
  simp only [prefixContainsIp_iff]
  rfl

theorem unrefused_iff {localCidrs : List LocalInterfaceCidr} {rule : XdpPrefixRule} :
    Unrefused localCidrs rule ↔
      rule.action = .allow ∨ AvoidsLocalIps localCidrs rule.toNetwork := by
  rw [Unrefused, ← Bool.not_eq_true, denyRuleMatchesLocalInterface_iff, AvoidsLocalIps]
  cases rule.action <;> simp

/-! ## Safety -/

section Safety

variable {env : ApplyEnv} {policy : CompiledPolicy} {m m' : LinuxXdpManager}

theorem avoidsLocalIps_of_deny (h : (applyToCurrentMaps env policy).run m = .ok () m')
    {entry : RuleKey × RuleValue} (hentry : entry ∈ m'.maps.ruleCidrs)
    (hdeny : entry.2.action = actionDeny) {own : LocalInterfaceCidr}
    (hown : own ∈ m.localInterfaceCidrs) : ¬ KeyContains entry.1 own.ip := by
  obtain ⟨rule, hstored, rfl⟩ := (mem_ruleCidrs_iff_stored h).mp hentry
  have haction : rule.action = .deny := actionCode_injective hdeny
  rcases unrefused_iff.mp hstored.unrefused with hallow | havoids
  · rw [haction] at hallow
    cases hallow
  · exact fun hcontains => havoids own hown (keyContains_iff.mp hcontains)

/-- Even an entry of an earlier apply is left only under the key of a pending ban. -/
theorem avoidsLocalIps_of_tempBan (h : (applyToCurrentMaps env policy).run m = .ok () m')
    {entry : TempBanKey × TempBanValue} (hentry : entry ∈ m'.maps.tempBans)
    {own : LocalInterfaceCidr} (hown : own ∈ m.localInterfaceCidrs) :
    ¬ KeyContains entry.1 own.ip := by
  obtain ⟨monotonicNow, -, -, rfl⟩ := applyToCurrentMaps_ok h
  have hid := (KeyedStore.mem_retain.mp hentry).2
  rw [decide_eq_true_eq, buildPendingPolicyKeys, pendingTempBans_eq,
    Collected.mem_ids_iff_mem_items, ← pendingTempBans_eq] at hid
  obtain ⟨item, hitem, hsame⟩ := hid
  obtain ⟨-, hkey, -, hlocal⟩ := mem_of_mem_pendingTempBans hitem
  rw [← l4KeyId_injective hsame, hkey]
  intro hcontains
  exact tempBanMatchesLocalInterface_eq_false_iff.mp hlocal own hown (keyContains_iff.mp hcontains)

theorem represented (h : (applyToCurrentMaps env policy).run m = .ok () m')
    {rule : XdpPrefixRule} (hmem : rule ∈ allRules policy)
    (hrule : rule.action = .allow ∨ AvoidsLocalIps m.localInterfaceCidrs rule.toNetwork) :
    ∃ value, (keyOfRule rule, value) ∈ m'.maps.ruleCidrs := by
  obtain ⟨winner, hstored, hkey⟩ := exists_stored hmem (unrefused_iff.mpr hrule)
  exact ⟨ruleValue winner, (mem_ruleCidrs_iff_stored h).mpr ⟨winner, hstored, by rw [hkey]⟩⟩

/-- After a successful apply no deny rule and no ban hits an address of the interface, and every
rule that may be written has its key in the map. -/
theorem apply_sparesLocal (h : (apply env policy).run m = .ok () m') :
    (∀ entry ∈ m'.maps.ruleCidrs, entry.2.action = actionDeny →
      ∀ own ∈ m'.localInterfaceCidrs, ¬ KeyContains entry.1 own.ip) ∧
    (∀ entry ∈ m'.maps.tempBans, ∀ own ∈ m'.localInterfaceCidrs, ¬ KeyContains entry.1 own.ip) ∧
    ∀ rule ∈ policy.threatPrefixes ++ policy.rules,
      rule.action = .allow ∨ AvoidsLocalIps m'.localInterfaceCidrs rule.toNetwork →
        ∃ value, (keyOfRule rule, value) ∈ m'.maps.ruleCidrs := by
  obtain ⟨current, -, hwrite⟩ := apply_ok h
  rw [(frame_of_applied hwrite).2.1]
  refine ⟨?_, ?_, ?_⟩
  · exact fun entry hentry hdeny own hown => avoidsLocalIps_of_deny hwrite hentry hdeny hown
  · exact fun entry hentry own hown => avoidsLocalIps_of_tempBan hwrite hentry hown
  · exact fun rule hmem hrule => represented hwrite hmem hrule

end Safety

/-- A manager that has just created its maps, on an interface with an address. -/
def addressedManager : LinuxXdpManager :=
  { emptyManager with
    localInterfaceCidrs :=
      [{ ip := .v4 0xCB007107
         prefixLen := 24 }] }

/-- A network of the interface is denied first and allowed afterwards, with one key. -/
def ownNetworkPolicy : CompiledPolicy :=
  { CompiledPolicy.unloaded 1 with
    rules :=
      [{ toNetwork := (IpNet.v4 (.slash 0xCB007100 24)).toNetwork
         priority := 1
         action := .deny
         protocol := .any
         port := 0
         source := .firewallRule },
       { toNetwork := (IpNet.v4 (.slash 0xCB007100 24)).toNetwork
         priority := 2
         action := .allow
         protocol := .any
         port := 0
         source := .firewallRule }] }

theorem apply_ownNetwork :
    ∃ m', (apply idleEnv ownNetworkPolicy).run addressedManager = .ok () m' := by
  have hreq : ∃ required,
      requiredPolicyMapSizes addressedManager ownNetworkPolicy = .ok required ∧
        validateMapCapacity required addressedManager.mapSizes = .ok () := ⟨_, rfl, rfl⟩
  obtain ⟨required, hrequired, hvalid⟩ := hreq
  rw [run_apply_of_valid hrequired hvalid]
  have hadm : Admitted idleEnv ownNetworkPolicy addressedManager 1000000000 :=
    ⟨⟨required, hrequired, hvalid⟩, rfl⟩
  refine run_applyToCurrentMaps_of_fresh rfl hadm ?_
  intro item hitem
  cases hitem

theorem apply_sparesLocal_ownNetwork :
    ∃ m', (apply idleEnv ownNetworkPolicy).run addressedManager = .ok () m' ∧
      (∀ entry ∈ m'.maps.ruleCidrs, entry.2.action = actionDeny →
        ∀ own ∈ m'.localInterfaceCidrs, ¬ KeyContains entry.1 own.ip) ∧
      (∀ entry ∈ m'.maps.tempBans, ∀ own ∈ m'.localInterfaceCidrs,
        ¬ KeyContains entry.1 own.ip) ∧
      ∀ rule ∈ ownNetworkPolicy.threatPrefixes ++ ownNetworkPolicy.rules,
        rule.action = .allow ∨ AvoidsLocalIps m'.localInterfaceCidrs rule.toNetwork →
          ∃ value, (keyOfRule rule, value) ∈ m'.maps.ruleCidrs := by
  obtain ⟨m', hrun⟩ := apply_ownNetwork
  exact ⟨m', hrun, apply_sparesLocal hrun⟩

/-! ## Lost bans -/

/-- A ban that gets into the map when compaction keeps it: the filter does not refuse it, and the
time until it expires fits into signed 64-bit nanoseconds. -/
def Writable (localCidrs : List LocalInterfaceCidr) (wallNow : Int) (ban : XdpTempBan) : Prop :=
  AvoidsLocalIps localCidrs ban.toNetwork ∧ ban.expiresAt - wallNow < 2 ^ 63

/-- `other` bans the source as `ban` does, and as long. -/
structure StandsFor (other ban : XdpTempBan) (src : IpAddr) : Prop where
  protocol : other.protocol = ban.protocol
  port : other.port = ban.port
  contains : other.toNetwork.Contains src
  expires : ban.expiresAt ≤ other.expiresAt

/-- The entry bans the source as `ban` does, and as long. -/
structure Enforces (wallNow : Int) (monotonicNow : U64) (entry : TempBanKey × TempBanValue)
    (ban : XdpTempBan) (src : IpAddr) : Prop where
  protocol : entry.1.data.proto = protoCode ban.protocol
  port : entry.1.data.dport = toBe ban.port
  contains : KeyContains entry.1 src
  expires : monotonicNow.toNat + (ban.expiresAt - wallNow).toNat ≤ entry.2.expiresAtNs.toNat

/-- The entries that an apply writes for the bans of a policy. -/
def writtenBans (localCidrs : List LocalInterfaceCidr) (policy : CompiledPolicy) (wallNow : Int)
    (monotonicNow : U64) : List (TempBanKey × TempBanValue) :=
  (buildPendingPolicyKeys localCidrs policy wallNow).tempBanEntries wallNow monotonicNow

section Bans

variable {policy : CompiledPolicy} {localCidrs : List LocalInterfaceCidr} {wallNow : Int}
  {monotonicNow : U64} {ban kept : XdpTempBan} {src : IpAddr}

/-- The entry of a live ban, if there is one. -/
theorem tempBanEntry_eq_some_iff {item : TempBanKey × XdpTempBan}
    {entry : TempBanKey × TempBanValue} (hlive : wallNow < item.2.expiresAt)
    (hconv : ∃ value, tempBanEntry wallNow monotonicNow item = .ok value) :
    tempBanEntry wallNow monotonicNow item = .ok (some entry) ↔
      item.2.expiresAt - wallNow < 2 ^ 63 ∧ entry = banEntry wallNow monotonicNow item := by
  by_cases hrange : item.2.expiresAt - wallNow < 2 ^ 63
  · obtain ⟨value, hvalue⟩ := hconv
    rw [hvalue, (tempBanEntry_eq hlive hrange hvalue).1, Except.ok.injEq, Option.some.injEq,
      eq_comm]
    exact (and_iff_right hrange).symm
  · have hnanos : numNanoseconds (item.2.expiresAt - wallNow) = none :=
      if_neg fun h => hrange h.2
    have hnone : tempBanEntry wallNow monotonicNow item = .ok none := by
      simp [tempBanEntry, tempBanValue, hnanos, Except.map]
    rw [hnone]
    constructor
    · intro h
      cases h
    · intro h
      exact absurd h.1 hrange

theorem mem_writtenBans_iff
    (hconv : Convertible (buildPendingPolicyKeys localCidrs policy wallNow) wallNow monotonicNow)
    {entry : TempBanKey × TempBanValue} :
    entry ∈ writtenBans localCidrs policy wallNow monotonicNow ↔
      ∃ ban ∈ compactTempBans policy.tempBans, wallNow < ban.expiresAt ∧
        Writable localCidrs wallNow ban ∧
        entry = banEntry wallNow monotonicNow (keyOfTempBan ban, ban) := by
  rw [writtenBans, PendingPolicyKeys.tempBanEntries, KeyedStore.mem_computed_iff hconv]
  constructor
  · rintro ⟨⟨key, ban⟩, hitem, hentry⟩
    obtain ⟨hmem, hkey, hlive, hlocal⟩ := mem_pendingTempBans_filtered_iff.mp hitem
    obtain ⟨hrange, rfl⟩ := (tempBanEntry_eq_some_iff hlive (hconv _ hitem)).mp hentry
    refine ⟨ban, hmem, hlive, ⟨tempBanMatchesLocalInterface_eq_false_iff.mp hlocal, hrange⟩, ?_⟩
    exact congrArg (fun key => banEntry _ _ (key, ban)) hkey
  · rintro ⟨ban, hmem, hlive, ⟨havoids, hrange⟩, rfl⟩
    have hitem : (keyOfTempBan ban, ban) ∈
        (pendingTempBans localCidrs policy.tempBans wallNow).items :=
      mem_pendingTempBans_filtered_iff.mpr
        ⟨hmem, rfl, hlive, tempBanMatchesLocalInterface_eq_false_iff.mpr havoids⟩
    exact ⟨_, hitem, (tempBanEntry_eq_some_iff hlive (hconv _ hitem)).mpr ⟨hrange, rfl⟩⟩

/-- The expiry of a written ban on the monotonic clock. -/
theorem expiresAtNs_of_convertible
    (hconv : Convertible (buildPendingPolicyKeys localCidrs policy wallNow) wallNow monotonicNow)
    (hkept : kept ∈ compactTempBans policy.tempBans) (hlive : wallNow < kept.expiresAt)
    (hwritable : Writable localCidrs wallNow kept) :
    (banEntry wallNow monotonicNow (keyOfTempBan kept, kept)).2.expiresAtNs.toNat =
      monotonicNow.toNat + (kept.expiresAt - wallNow).toNat := by
  have hitem : (keyOfTempBan kept, kept) ∈
      (pendingTempBans localCidrs policy.tempBans wallNow).items :=
    mem_pendingTempBans_filtered_iff.mpr
      ⟨hkept, rfl, hlive, tempBanMatchesLocalInterface_eq_false_iff.mpr hwritable.1⟩
  obtain ⟨value, hvalue⟩ := hconv _ hitem
  have hfits : monotonicNow.toNat + (kept.expiresAt - wallNow).toNat < 2 ^ 64 :=
    (tempBanEntry_eq hlive hwritable.2 hvalue).2
  simp only [banEntry, BitVec.toNat_add, BitVec.toNat_ofNat]
  omega

/-- The entry of a written ban enforces what the ban stands for. -/
theorem enforces_iff
    (hconv : Convertible (buildPendingPolicyKeys localCidrs policy wallNow) wallNow monotonicNow)
    (hkept : kept ∈ compactTempBans policy.tempBans) (hlive : wallNow < kept.expiresAt)
    (hwritable : Writable localCidrs wallNow kept) (hban : wallNow < ban.expiresAt) :
    Enforces wallNow monotonicNow (banEntry wallNow monotonicNow (keyOfTempBan kept, kept)) ban
        src ↔ StandsFor kept ban src := by
  have hexpiry := expiresAtNs_of_convertible hconv hkept hlive hwritable
  constructor
  · rintro ⟨hprotocol, hport, hcontains, hexpires⟩
    refine ⟨protoCode_injective hprotocol, toBe_injective hport, keyContains_iff.mp hcontains, ?_⟩
    rw [hexpiry] at hexpires
    omega
  · rintro ⟨hprotocol, hport, hcontains, hexpires⟩
    refine ⟨congrArg protoCode hprotocol, congrArg toBe hport, keyContains_iff.mpr hcontains, ?_⟩
    rw [hexpiry]
    omega

/-- The source is banned by a ban that compaction can only replace by bans that are written. -/
def Unshielded (localCidrs : List LocalInterfaceCidr) (bans : List XdpTempBan) (wallNow : Int)
    (ban : XdpTempBan) (src : IpAddr) : Prop :=
  ∃ other ∈ bans, StandsFor other ban src ∧ Writable localCidrs wallNow other ∧
    ∀ cover ∈ bans, tempBanCoversOrSupersedes cover other → Writable localCidrs wallNow cover

/-- One source of one ban. -/
theorem exists_enforces_iff
    (hconv : Convertible (buildPendingPolicyKeys localCidrs policy wallNow) wallNow monotonicNow)
    (hban : wallNow < ban.expiresAt) :
    (∃ entry ∈ writtenBans localCidrs policy wallNow monotonicNow,
        Enforces wallNow monotonicNow entry ban src) ↔
      Unshielded localCidrs policy.tempBans wallNow ban src := by
  constructor
  · rintro ⟨entry, hentry, henforces⟩
    obtain ⟨kept, hkept, hlive, hwritable, rfl⟩ := (mem_writtenBans_iff hconv).mp hentry
    have hstands := (enforces_iff hconv hkept hlive hwritable hban).mp henforces
    obtain ⟨hmem, hfree⟩ := (mem_compact isCovering_tempBanCoversOrSupersedes.irrefl).mp hkept
    refine ⟨kept, hmem, hstands, hwritable, fun cover hcover hcovers => ?_⟩
    rw [hfree cover hcover] at hcovers
    cases hcovers
  · rintro ⟨other, hother, hstands, hwritable, hcovers⟩
    -- Compaction leaves this ban or one above it, which stands for the ban as well.
    obtain ⟨kept, hkept, habove⟩ := exists_mem_compact isCovering_tempBanCoversOrSupersedes hother
    have hkeptWritable : Writable localCidrs wallNow kept := by
      rcases habove with rfl | hcover
      · exact hwritable
      · exact hcovers kept (mem_of_mem_compactTempBans hkept) hcover
    have hkeptStands : StandsFor kept ban src := by
      rcases habove with rfl | hcover
      · exact hstands
      · obtain ⟨hprotocol, hport, hwithin, hexpires⟩ := tempBanCoversOrSupersedes_iff.mp hcover
        refine ⟨hprotocol.trans hstands.protocol, hport.trans hstands.port,
          hstands.contains.of_within hwithin, hstands.expires.trans ?_⟩
        rcases hexpires with hlt | ⟨-, heq⟩
        · exact Int.le_of_lt hlt
        · exact heq.le
    have hlive : wallNow < kept.expiresAt := Int.lt_of_lt_of_le hban hkeptStands.expires
    exact ⟨_, (mem_writtenBans_iff hconv).mpr ⟨kept, hkept, hlive, hkeptWritable, rfl⟩,
      (enforces_iff hconv hkept hlive hkeptWritable hban).mpr hkeptStands⟩

/-- What is written for the bans is in the map. -/
theorem mem_tempBans_of_written {env : ApplyEnv} {m m' : LinuxXdpManager}
    (h : (applyToCurrentMaps env policy).run m = .ok () m')
    (hclock : monotonicNowNs env = .ok monotonicNow) {entry : TempBanKey × TempBanValue}
    (hentry : entry ∈ writtenBans m.localInterfaceCidrs policy env.wallNow monotonicNow) :
    entry ∈ m'.maps.tempBans := by
  obtain ⟨now, hnow, -, hmem⟩ := mem_tempBans_of_applied_iff h
  cases hclock.symm.trans hnow
  exact (hmem entry).mpr (Or.inl hentry)

end Bans

/-- Every live ban without an address of the interface is enforced on all of its sources, by
entries of the map that this apply has written. -/
def KeepsBans (maps : PolicyMaps) (localCidrs : List LocalInterfaceCidr) (policy : CompiledPolicy)
    (wallNow : Int) (monotonicNow : U64) : Prop :=
  ∀ ban ∈ policy.tempBans, wallNow < ban.expiresAt → AvoidsLocalIps localCidrs ban.toNetwork →
    ∀ src, ban.toNetwork.Contains src → ∃ entry ∈ maps.tempBans,
      entry ∈ writtenBans localCidrs policy wallNow monotonicNow ∧
        Enforces wallNow monotonicNow entry ban src

section Kept

variable {env : ApplyEnv} {policy : CompiledPolicy} {m m' : LinuxXdpManager}

theorem keepsBans_iff (h : (applyToCurrentMaps env policy).run m = .ok () m') :
    ∃ monotonicNow, monotonicNowNs env = .ok monotonicNow ∧
      (KeepsBans m'.maps m.localInterfaceCidrs policy env.wallNow monotonicNow ↔
        ∀ ban ∈ policy.tempBans, env.wallNow < ban.expiresAt →
          AvoidsLocalIps m.localInterfaceCidrs ban.toNetwork → ∀ src, ban.toNetwork.Contains src →
            Unshielded m.localInterfaceCidrs policy.tempBans env.wallNow ban src) := by
  obtain ⟨monotonicNow, hadm, hconv, -⟩ := applyToCurrentMaps_ok h
  refine ⟨monotonicNow, hadm.clock, ?_⟩
  refine forall₃_congr fun ban _ hlive => forall₃_congr fun _ src _ => ?_
  rw [← exists_enforces_iff hconv hlive]
  constructor
  · rintro ⟨entry, -, hwritten, henforces⟩
    exact ⟨entry, hwritten, henforces⟩
  · rintro ⟨entry, hwritten, henforces⟩
    exact ⟨entry, mem_tempBans_of_written h hadm.clock hwritten, hwritten, henforces⟩

/-- A successful apply enforces the bans that do not hit the interface exactly when each of their
sources is banned by a ban that compaction cannot replace by one that the filter refuses. -/
theorem apply_keepsBans_iff (h : (apply env policy).run m = .ok () m') :
    ∃ monotonicNow, monotonicNowNs env = .ok monotonicNow ∧
      (KeepsBans m'.maps m'.localInterfaceCidrs policy env.wallNow monotonicNow ↔
        ∀ ban ∈ policy.tempBans, env.wallNow < ban.expiresAt →
          AvoidsLocalIps m'.localInterfaceCidrs ban.toNetwork → ∀ src, ban.toNetwork.Contains src →
            Unshielded m'.localInterfaceCidrs policy.tempBans env.wallNow ban src) := by
  obtain ⟨current, -, hwrite⟩ := apply_ok h
  rw [(frame_of_applied hwrite).2.1]
  exact keepsBans_iff hwrite

end Kept

/-- A host next to the agent is banned, and then its network, in which the agent is. -/
def shieldedPolicy : CompiledPolicy :=
  { CompiledPolicy.unloaded 1 with
    tempBans :=
      [{ toNetwork := (IpNet.v4 (.slash 0xCB007109 32)).toNetwork
         protocol := .any
         port := 0
         expiresAt := 3600000000000 },
       { toNetwork := (IpNet.v4 (.slash 0xCB007100 24)).toNetwork
         protocol := .any
         port := 0
         expiresAt := 7200000000000 }] }

theorem apply_shielded :
    ∃ m', (apply idleEnv shieldedPolicy).run addressedManager = .ok () m' ∧
      (applyToCurrentMaps idleEnv shieldedPolicy).run addressedManager = .ok () m' := by
  have hreq : ∃ required, requiredPolicyMapSizes addressedManager shieldedPolicy = .ok required ∧
      validateMapCapacity required addressedManager.mapSizes = .ok () := ⟨_, rfl, rfl⟩
  have hconv : Convertible (pendingOf idleEnv shieldedPolicy addressedManager) idleEnv.wallNow
      1000000000 := by
    intro item hitem
    have hban := mem_of_mem_compactTempBans (mem_of_mem_pendingTempBans hitem).1
    simp only [shieldedPolicy, List.mem_cons, List.not_mem_nil, or_false] at hban
    rw [tempBanEntry]
    rcases hban with h | h <;> rw [h] <;> exact ⟨_, rfl⟩
  obtain ⟨required, hrequired, hvalid⟩ := hreq
  rw [run_apply_of_valid hrequired hvalid]
  obtain ⟨m', hrun⟩ :=
    run_applyToCurrentMaps_of_fresh rfl ⟨⟨required, hrequired, hvalid⟩, rfl⟩ hconv
  exact ⟨m', hrun, hrun⟩

theorem apply_keepsBans_iff_shielded :
    ∃ m', (apply idleEnv shieldedPolicy).run addressedManager = .ok () m' ∧
      ∃ monotonicNow, monotonicNowNs idleEnv = .ok monotonicNow ∧
        (KeepsBans m'.maps m'.localInterfaceCidrs shieldedPolicy idleEnv.wallNow monotonicNow ↔
          ∀ ban ∈ shieldedPolicy.tempBans, idleEnv.wallNow < ban.expiresAt →
            AvoidsLocalIps m'.localInterfaceCidrs ban.toNetwork →
              ∀ src, ban.toNetwork.Contains src →
                Unshielded m'.localInterfaceCidrs shieldedPolicy.tempBans idleEnv.wallNow ban
                  src) := by
  obtain ⟨m', hrun, -⟩ := apply_shielded
  exact ⟨m', hrun, apply_keepsBans_iff hrun⟩

/-- The host is left without a ban: compaction drops its own for that of the network, and the
filter refuses that one. -/
theorem shielded_lost :
    ∃ m' monotonicNow, (apply idleEnv shieldedPolicy).run addressedManager = .ok () m' ∧
      monotonicNowNs idleEnv = .ok monotonicNow ∧
      ¬ KeepsBans m'.maps m'.localInterfaceCidrs shieldedPolicy idleEnv.wallNow monotonicNow := by
  obtain ⟨m', hrun, hwrite⟩ := apply_shielded
  obtain ⟨monotonicNow, hclock, hiff⟩ := keepsBans_iff hwrite
  refine ⟨m', monotonicNow, hrun, hclock, ?_⟩
  rw [(frame_of_applied hwrite).2.1, hiff]
  intro hall
  obtain ⟨other, hother, -, hwritable, hcovers⟩ :=
    hall _ List.mem_cons_self (by decide) (by decide) (.v4 0xCB007109) (by decide)
  simp only [shieldedPolicy, List.mem_cons, List.not_mem_nil, or_false] at hother
  rcases hother with rfl | rfl
  · have hnetwork := hcovers _ (List.mem_cons_of_mem _ List.mem_cons_self) (by decide)
    exact absurd hnetwork.1 (by decide)
  · exact absurd hwritable.1 (by decide)

end Enforcement
end XdpFirewall
