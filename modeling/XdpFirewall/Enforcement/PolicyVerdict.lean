import XdpFirewall.Bpf.ParsePacket
import XdpFirewall.DataPlane.ApplyExact
import XdpFirewall.Enforcement.DecisionOrder
import XdpFirewall.Enforcement.LocalSafety
import XdpFirewall.Enforcement.Ties
import XdpFirewall.Enforcement.Whitelist
import XdpFirewall.Lib.FirstLongest
import XdpFirewall.Lib.Mealy

/-!
# PolicyVerdict — the filter as the policy describes it

A policy says of each frame whether it passes, without any map: the lists of the policy are
searched for the packet. After an apply the filter answers every sequence of frames as the policy
does. What it keeps beside the maps of the policy, its buckets, develops in the same way.
-/

namespace XdpFirewall
namespace Enforcement

open Net Policy Lib DataPlane Bpf

/-! ## The policy's answer -/

instance (prefixes : List XdpTrustedPrefix) (src : IpAddr) : Decidable (Covers prefixes src) :=
  inferInstanceAs (Decidable (∃ trusted ∈ prefixes, _))

/-- A ban that compaction keeps and that no address of the interface is in selects the packet and
has not expired at `t`. -/
def Banned (localCidrs : List LocalInterfaceCidr) (bans : List XdpTempBan) (t : Int) (proto : U8)
    (dport : U16) (src : IpAddr) : Prop :=
  ∃ ban ∈ compactTempBans bans, AvoidsLocalIps localCidrs ban.toNetwork ∧ t < ban.expiresAt ∧
    Selects ban.toNetwork ban.protocol ban.port proto dport src

instance (localCidrs : List LocalInterfaceCidr) (bans : List XdpTempBan) (t : Int) (proto : U8)
    (dport : U16) (src : IpAddr) : Decidable (Banned localCidrs bans t proto dport src) :=
  inferInstanceAs (Decidable (∃ ban ∈ compactTempBans bans, _))

/-- The rules of one class that may be written, in the order of their priority. -/
def rulesInClass (localCidrs : List LocalInterfaceCidr) (policy : CompiledPolicy) (src : IpAddr)
    (c : U8 × U16) : List XdpPrefixRule :=
  (orderedPolicyRules policy).filter fun rule =>
    decide (Unrefused localCidrs rule ∧ InClass c src rule)

/-- The rule for a packet: the first longest of the first class that has any. -/
def ruleFor (localCidrs : List LocalInterfaceCidr) (policy : CompiledPolicy) (proto : U8)
    (dport : U16) (src : IpAddr) : Option XdpPrefixRule :=
  (classes proto dport).findSome? fun c =>
    firstLongest? (fun rule => rule.prefixLen) (rulesInClass localCidrs policy src c)

/-- The country of a source: that of the first longest prefix that contains it. -/
def countryFor (policy : CompiledPolicy) (src : IpAddr) : Option U16 :=
  (firstLongest? (fun geo : XdpGeoPrefix => geo.prefixLen)
    (policy.geoPrefixes.filter fun geo => decide (geo.toNetwork.Contains src))).map
      fun geo => geo.country

/-- The first action for a country. -/
def actionFor (policy : CompiledPolicy) (country : U16) : Option RuleAction :=
  (policy.countryRules.find? fun rule => decide (rule.country = country)).map
    fun rule => rule.action

/-- The custom limit for a packet: the first of the first class that has any. -/
def limitFor (policy : CompiledPolicy) (proto : U8) (dport : U16) : Option MatchedRate :=
  (classes proto dport).findSome? fun c =>
    (policy.dynamicRateLimits.find? fun limit =>
      decide (protoCode limit.protocol = c.1 ∧ toBe limit.port = c.2)).map fun limit =>
        { proto := c.1
          dport := c.2
          limit := customRateValue limit }

/-- A limit with the bucket it is charged to, at the time the filter reads for it. -/
structure Charge where
  now : U64
  key : RateKey
  limit : RateLimit

/-- The limits that a packet is charged to, in this order. -/
def chargesFor (policy : CompiledPolicy) (env : PacketEnv) (packet : Packet) : List Charge :=
  let defense := policy.dynamicDefense
  let custom := (limitFor policy packet.proto packet.dport).toList.map fun matched =>
    { now := env.customNow
      key := bucketKey rateKindCustom packet matched.proto matched.dport
      limit := customLimit matched.limit }
  let flood : Charge :=
    { now := env.floodNow
      key := bucketKey rateKindFlood packet protoAny 0
      limit := floodLimit (defenseValue defense) }
  let ip : Charge :=
    { now := env.ipNow
      key := bucketKey rateKindIp packet protoAny 0
      limit := ipLimit (defenseValue defense) }
  if defense.enabled then
    custom ++ (if defense.floodEnabled then [flood] else []) ++
      (if defense.ipRateLimitEnabled then [ip] else [])
  else
    []

/-- The first limit that refuses drops the packet, and the limits after it are not charged. -/
def charge (env : PacketEnv) : List Charge → RateBuckets → XdpAction × RateBuckets
  | [], buckets => (.pass, buckets)
  | next :: rest, buckets =>
      match tokenBucketLimited env next.now next.key next.limit buckets with
      | (true, buckets) => (.drop, buckets)
      | (false, buckets) => charge env rest buckets

/-- The answer to a packet from `src` at the time `t`. -/
def policyHandle (localCidrs : List LocalInterfaceCidr) (policy : CompiledPolicy) (t : Int)
    (env : PacketEnv) (src : IpAddr) (packet : Packet) (buckets : RateBuckets) :
    XdpAction × RateBuckets :=
  if Covers policy.trustedPrefixes src then
    (.pass, buckets)
  else if Banned localCidrs policy.tempBans t packet.proto packet.dport src then
    (.drop, buckets)
  else
    match ruleFor localCidrs policy packet.proto packet.dport src with
    | some rule => (if rule.action = .deny then .drop else .pass, buckets)
    | none =>
        if (countryFor policy src).bind (actionFor policy) = some .deny then
          (.drop, buckets)
        else
          charge env (chargesFor policy env packet) buckets

/-- A frame, the time it comes in, and what the kernel answers while it is handled. -/
structure Arrival where
  time : Int
  env : PacketEnv
  data : Frame

/-- The answer to a frame: what is no IP packet passes, what is cut off is dropped. -/
def policyFrame (localCidrs : List LocalInterfaceCidr) (policy : CompiledPolicy)
    (buckets : RateBuckets) (arrival : Arrival) : XdpAction × RateBuckets :=
  match parseFrame arrival.data with
  | .notIp => (.pass, buckets)
  | .malformed .. => (.drop, buckets)
  | .packet packet =>
      policyHandle localCidrs policy arrival.time arrival.env (sourceAddr arrival.data) packet
        buckets

/-- The filter, as a machine. -/
def filterFrame (s : FilterState) (arrival : Arrival) : XdpAction × FilterState :=
  xdpFirewall arrival.env arrival.data s

/-! ## Rules -/

section Rules

variable {localCidrs : List LocalInterfaceCidr} {policy : CompiledPolicy} {maps : PolicyMaps}
  {src : IpAddr} {c : U8 × U16} {rule other : XdpPrefixRule}

theorem mem_rulesInClass :
    rule ∈ rulesInClass localCidrs policy src c ↔
      rule ∈ allRules policy ∧ Unrefused localCidrs rule ∧ InClass c src rule := by
  rw [rulesInClass, List.mem_filter, orderedPolicyRules, List.mem_mergeSort, decide_eq_true_eq]
  rfl

/-- The first longest rule of a class is the one that is stored under its key. -/
theorem stored_of_firstLongest
    (h : firstLongest? (fun rule => rule.prefixLen) (rulesInClass localCidrs policy src c) =
      some rule) : Stored localCidrs policy rule := by
  obtain ⟨-, hunrefused, hin⟩ := mem_rulesInClass.mp (mem_of_firstLongest? h)
  refine stored_iff_find?.mpr (find?_of_firstLongest? h (competes_iff.mpr ⟨hunrefused, rfl⟩) ?_)
  intro other _ hcompetes
  obtain ⟨hother, hkey⟩ := competes_iff.mp hcompetes
  refine ⟨decide_eq_true ⟨hother, (inClass_congr hkey).mpr hin⟩, ?_⟩
  rw [congrArg Network.prefixLen (keyOfRule_eq_iff.mp hkey).1]

theorem lookupElem_eq_firstLongest (h : HoldsRules maps localCidrs policy) :
    lookupElem maps.ruleCidrs (packetKey (family src) c.1 c.2 (addrBytes src)) =
      (firstLongest? (fun rule => rule.prefixLen) (rulesInClass localCidrs policy src c)).map
        fun rule => (keyOfRule rule, ruleValue rule) := by
  cases hfirst : firstLongest? (fun rule => rule.prefixLen)
      (rulesInClass localCidrs policy src c) with
  | none =>
      rw [Option.map_none, lookupElem_rule_eq_none_iff h]
      intro rule hmem hunrefused hin
      have hcandidate : rule ∈ rulesInClass localCidrs policy src c :=
        mem_rulesInClass.mpr ⟨hmem, hunrefused, hin⟩
      rw [firstLongest?_eq_none_iff.mp hfirst] at hcandidate
      cases hcandidate
  | some rule =>
      obtain ⟨-, -, hin⟩ := mem_rulesInClass.mp (mem_of_firstLongest? hfirst)
      rw [Option.map_some, lookupElem_rule_eq_some_iff h]
      refine ⟨rule, stored_of_firstLongest hfirst, rfl, hin, ?_⟩
      intro other hmem hunrefused hother
      exact size_le_of_firstLongest? hfirst other
        (mem_rulesInClass.mpr ⟨hmem, hunrefused, hother⟩)

/-- The filter finds the entry of the rule that the policy has for the packet. -/
theorem lookupRule_eq_ruleFor (h : HoldsRules maps localCidrs policy) {proto : U8} {dport : U16} :
    lookupRule maps (family src) proto dport (addrBytes src) =
      (ruleFor localCidrs policy proto dport src).map
        fun rule => (keyOfRule rule, ruleValue rule) := by
  rw [lookupRule_eq_findSome?, ruleFor, List.map_findSome?]
  exact congrArg (fun f => (classes proto dport).findSome? f)
    (funext fun c => lookupElem_eq_firstLongest h)

end Rules

/-! ## Countries -/

section Countries

variable {env : ApplyEnv} {policy : CompiledPolicy} {m m' : LinuxXdpManager} {src : IpAddr}

/-- The entry of a geo prefix. -/
def entryOfGeo (geo : XdpGeoPrefix) : GeoKey × GeoValue :=
  geoEntry (geoKey geo.addr geo.prefixLen, geo)

theorem mem_geoEntries_iff {localCidrs : List LocalInterfaceCidr} {wallNow : Int}
    {entry : GeoKey × GeoValue} :
    entry ∈ (buildPendingPolicyKeys localCidrs policy wallNow).geoEntries ↔
      ∃ geo, (policy.geoPrefixes.find? fun other => decide (other.toNetwork = geo.toNetwork)) =
          some geo ∧ entry = entryOfGeo geo := by
  have hsame (a b : XdpGeoPrefix) : geoKeyId (geoKey a.addr a.prefixLen) =
      geoKeyId (geoKey b.addr b.prefixLen) ↔ a.toNetwork = b.toNetwork :=
    ⟨fun h => network_eq_of_paddedKeyId h, fun h => by rw [h]⟩
  rw [PendingPolicyKeys.geoEntries, List.mem_map]
  constructor
  · rintro ⟨item, hmem, rfl⟩
    obtain ⟨geo, hfind, rfl⟩ := (Collected.mem_items_keyed hsame).mp hmem
    exact ⟨geo, hfind, rfl⟩
  · rintro ⟨geo, hfind, rfl⟩
    exact ⟨_, (Collected.mem_items_keyed hsame).mpr ⟨geo, hfind, rfl⟩, rfl⟩

theorem entryOfGeo_matches_iff {geo : XdpGeoPrefix} :
    (entryOfGeo geo).1.bits <+: (packetPaddedKey (family src) (addrBytes src)).bits ↔
      geo.toNetwork.Contains src :=
  paddedKey_matches_iff

theorem length_entryOfGeo (geo : XdpGeoPrefix) :
    (entryOfGeo geo).1.bits.length = lpmPrefixLen geo.prefixLen := by
  simp [entryOfGeo, geoEntry, geoKey, LpmKey.bits, paddedKey]

/-- The entries of the geo map that a packet can match are those of the policy. -/
theorem mem_geoCidrs_matching_iff (h : (applyToCurrentMaps env policy).run m = .ok () m')
    {entry : GeoKey × GeoValue}
    (hmatch : entry.1.bits <+: (packetPaddedKey (family src) (addrBytes src)).bits) :
    entry ∈ m'.maps.geoCidrs ↔
      ∃ geo, (policy.geoPrefixes.find? fun other => decide (other.toNetwork = geo.toNetwork)) =
          some geo ∧ entry = entryOfGeo geo := by
  rw [mem_geoCidrs_of_applied h, pendingOf, mem_geoEntries_iff, or_iff_left]
  rintro ⟨-, hpad, hid⟩
  obtain ⟨item, hitem, hsame⟩ := Collected.mem_ids_iff_mem_items.mp hid
  obtain ⟨geo, -, rfl⟩ := List.mem_map.mp (Collected.mem_of_mem_items_collect hitem)
  have hstray : paddedKeyId entry.1 =
      paddedKeyId (paddedKey geo.toNetwork.addr geo.toNetwork.prefixLen) := hsame.symm
  exact not_matches_of_pad_ne hstray hpad hmatch

/-- The filter finds the country that the policy has for the source. -/
theorem lookupGeo_eq_countryFor (h : (applyToCurrentMaps env policy).run m = .ok () m') :
    (lookupGeo m'.maps (family src) (addrBytes src)).map Prod.snd =
      (countryFor policy src).map fun country => { country := country } := by
  rw [countryFor, Option.map_map]
  cases hfirst : firstLongest? (fun geo : XdpGeoPrefix => geo.prefixLen)
      (policy.geoPrefixes.filter fun geo => decide (geo.toNetwork.Contains src)) with
  | none =>
      have hnone : lookupGeo m'.maps (family src) (addrBytes src) = none := by
        rw [lookupGeo, lookupElem, KeyedStore.longest?_eq_none_iff]
        intro entry hentry hmatch
        obtain ⟨geo, hfind, rfl⟩ := (mem_geoCidrs_matching_iff h hmatch).mp hentry
        have hcandidate : geo ∈
            policy.geoPrefixes.filter fun geo => decide (geo.toNetwork.Contains src) :=
          List.mem_filter.mpr ⟨List.mem_of_find?_eq_some hfind,
            decide_eq_true (entryOfGeo_matches_iff.mp hmatch)⟩
        rw [firstLongest?_eq_none_iff.mp hfirst] at hcandidate
        cases hcandidate
      rw [hnone]
      rfl
  | some geo =>
      obtain ⟨hmem, hcontains⟩ := List.mem_filter.mp (mem_of_firstLongest? hfirst)
      have hcontains := of_decide_eq_true hcontains
      have hfind : (policy.geoPrefixes.find? fun other =>
          decide (other.toNetwork = geo.toNetwork)) = some geo := by
        refine find?_of_firstLongest? hfirst (decide_eq_true rfl) fun other _ hnet => ?_
        have hnet := of_decide_eq_true hnet
        rw [hnet]
        exact ⟨decide_eq_true hcontains, le_rfl⟩
      have hmatch := entryOfGeo_matches_iff.mpr hcontains
      have hsome : lookupGeo m'.maps (family src) (addrBytes src) = some (entryOfGeo geo) := by
        rw [lookupGeo, lookupElem, KeyedStore.longest?_eq_some_iff]
        refine ⟨(mem_geoCidrs_matching_iff h hmatch).mpr ⟨geo, hfind, rfl⟩, hmatch, ?_⟩
        intro entry hentry hother
        obtain ⟨other, hfindOther, rfl⟩ := (mem_geoCidrs_matching_iff h hother).mp hentry
        have hle := size_le_of_firstLongest? hfirst other (List.mem_filter.mpr
          ⟨List.mem_of_find?_eq_some hfindOther,
            decide_eq_true (entryOfGeo_matches_iff.mp hother)⟩)
        rw [length_entryOfGeo, length_entryOfGeo]
        exact Nat.add_le_add_left hle 32
      rw [hsome]
      rfl

theorem mem_countryEntries_iff {localCidrs : List LocalInterfaceCidr} {wallNow : Int}
    {entry : U32 × CountryValue} :
    entry ∈ (buildPendingPolicyKeys localCidrs policy wallNow).countryEntries ↔
      ∃ rule, (policy.countryRules.find? fun other => decide (other.country = rule.country)) =
          some rule ∧ entry = countryEntry (countryKey rule.country, rule) := by
  have hsame (a b : XdpCountryRule) :
      id (countryKey a.country) = id (countryKey b.country) ↔ a.country = b.country :=
    ⟨fun h => countryKey_injective h, fun h => congrArg countryKey h⟩
  rw [PendingPolicyKeys.countryEntries, List.mem_map]
  constructor
  · rintro ⟨item, hmem, rfl⟩
    obtain ⟨rule, hfind, rfl⟩ := (Collected.mem_items_keyed hsame).mp hmem
    exact ⟨rule, hfind, rfl⟩
  · rintro ⟨rule, hfind, rfl⟩
    exact ⟨_, (Collected.mem_items_keyed hsame).mpr ⟨rule, hfind, rfl⟩, rfl⟩

/-- The filter finds the action that the policy has for the country. -/
theorem lookupCountry_eq_actionFor (h : (applyToCurrentMaps env policy).run m = .ok () m')
    {geo : GeoValue} :
    lookupCountry m'.maps geo =
      (actionFor policy geo.country).map fun action => { action := actionCode action } := by
  rw [lookupCountry, actionFor, Option.map_map]
  cases hfind : policy.countryRules.find? fun rule => decide (rule.country = geo.country) with
  | none =>
      have hnone : m'.maps.countryRules.get? (countryKey geo.country) = none := by
        rw [KeyedStore.get?_eq_none_iff]
        intro entry hentry hkey
        obtain ⟨rule, hrule, rfl⟩ :=
          mem_countryEntries_iff.mp ((mem_countryRules_of_applied h).mp hentry)
        exact List.find?_eq_none.mp hfind rule (List.mem_of_find?_eq_some hrule)
          (decide_eq_true (countryKey_injective hkey))
      rw [hnone]
      rfl
  | some rule =>
      have hcountry : rule.country = geo.country := by simpa using List.find?_some hfind
      rw [← hcountry] at hfind ⊢
      have hsome : m'.maps.countryRules.get? (countryKey rule.country) =
          some (countryEntry (countryKey rule.country, rule)) :=
        KeyedStore.get?_eq_some_iff.mpr ⟨(mem_countryRules_of_applied h).mpr
          (mem_countryEntries_iff.mpr ⟨rule, hfind, rfl⟩), rfl⟩
      rw [hsome]
      rfl

end Countries

/-! ## Limits -/

section Limits

variable {env : ApplyEnv} {policy : CompiledPolicy} {m m' : LinuxXdpManager}

/-- The entry of a custom limit. -/
def entryOfLimit (limit : XdpDynamicRateLimit) : CustomRateKey × CustomRateValue :=
  customRateEntry (customRateKey limit.protocol limit.port, limit)

theorem mem_customRateEntries_iff_find? {localCidrs : List LocalInterfaceCidr} {wallNow : Int}
    {entry : CustomRateKey × CustomRateValue} :
    entry ∈ (buildPendingPolicyKeys localCidrs policy wallNow).customRateEntries ↔
      ∃ limit, (policy.dynamicRateLimits.find? fun other =>
          decide (protoCode other.protocol = protoCode limit.protocol ∧
            toBe other.port = toBe limit.port)) = some limit ∧ entry = entryOfLimit limit := by
  have hsame (a b : XdpDynamicRateLimit) : customRateKeyId (customRateKey a.protocol a.port) =
      customRateKeyId (customRateKey b.protocol b.port) ↔
        protoCode a.protocol = protoCode b.protocol ∧ toBe a.port = toBe b.port :=
    Prod.mk_inj
  rw [PendingPolicyKeys.customRateEntries, List.mem_map]
  constructor
  · rintro ⟨item, hmem, rfl⟩
    obtain ⟨limit, hfind, rfl⟩ := (Collected.mem_items_keyed hsame).mp hmem
    exact ⟨limit, hfind, rfl⟩
  · rintro ⟨limit, hfind, rfl⟩
    exact ⟨_, (Collected.mem_items_keyed hsame).mpr ⟨limit, hfind, rfl⟩, rfl⟩

/-- A lookup in one class finds the first limit of the class. -/
theorem lookupCustomRateElem_eq_find? (h : (applyToCurrentMaps env policy).run m = .ok () m')
    {c : U8 × U16} :
    lookupCustomRateElem m'.maps c.1 c.2 =
      (policy.dynamicRateLimits.find? fun limit =>
        decide (protoCode limit.protocol = c.1 ∧ toBe limit.port = c.2)).map fun limit =>
          { proto := c.1
            dport := c.2
            limit := customRateValue limit } := by
  rw [lookupCustomRateElem]
  cases hfind : policy.dynamicRateLimits.find? fun limit =>
      decide (protoCode limit.protocol = c.1 ∧ toBe limit.port = c.2) with
  | none =>
      have hnone : m'.maps.customRateLimits.get? { proto := c.1, pad := 0, dport := c.2 } =
          none := by
        rw [KeyedStore.get?_eq_none_iff]
        intro entry hentry hkey
        have hkey : entry.1 = { proto := c.1, pad := 0, dport := c.2 } := hkey
        rcases (mem_customRateLimits_of_applied h).mp hentry with hpending | ⟨-, hpad, -⟩
        · obtain ⟨limit, hfirst, rfl⟩ := mem_customRateEntries_iff_find?.mp hpending
          obtain ⟨hproto, -, hport⟩ := CustomRateKey.mk.inj hkey
          exact List.find?_eq_none.mp hfind limit (List.mem_of_find?_eq_some hfirst)
            (decide_eq_true ⟨hproto, hport⟩)
        · exact hpad (by rw [hkey])
      rw [hnone]
      rfl
  | some limit =>
      obtain ⟨hproto, hport⟩ : protoCode limit.protocol = c.1 ∧ toBe limit.port = c.2 := by
        simpa using List.find?_some hfind
      rw [← hproto, ← hport] at hfind ⊢
      have hsome : m'.maps.customRateLimits.get?
          { proto := protoCode limit.protocol, pad := 0, dport := toBe limit.port } =
          some (entryOfLimit limit) := by
        rw [KeyedStore.get?_eq_some_iff]
        refine ⟨(mem_customRateLimits_of_applied h).mpr (Or.inl ?_), rfl⟩
        exact mem_customRateEntries_iff_find?.mpr ⟨limit, hfind, rfl⟩
      rw [hsome]
      rfl

/-- The filter finds the custom limit that the policy has for the packet. -/
theorem lookupCustomRate_eq_limitFor (h : (applyToCurrentMaps env policy).run m = .ok () m')
    {proto : U8} {dport : U16} :
    lookupCustomRate m'.maps proto dport = limitFor policy proto dport := by
  rw [lookupCustomRate_eq_findSome?, limitFor]
  exact congrArg (fun f => (classes proto dport).findSome? f)
    (funext fun c => lookupCustomRateElem_eq_find? h)

theorem boolCode_ne_zero_iff {flag : Bool} : boolCode flag ≠ 0 ↔ flag = true := by
  cases flag <;> decide

/-- Drop or pass. -/
def refusal (limited : Bool) : XdpAction :=
  if limited then .drop else .pass

section Charge

variable {penv : PacketEnv} {packet : Packet} {buckets : RateBuckets}

theorem charge_append_of_drop {charges : List Charge} {after : RateBuckets}
    (h : charge penv charges buckets = (.drop, after)) (others : List Charge) :
    charge penv (charges ++ others) buckets = (.drop, after) := by
  induction charges generalizing buckets with
  | nil => cases h
  | cons next rest ih =>
      rw [charge] at h
      rw [List.cons_append, charge]
      cases hlimited : tokenBucketLimited penv next.now next.key next.limit buckets with
      | mk limited left =>
          rw [hlimited] at h
          cases limited with
          | true => exact h
          | false => exact ih h

theorem charge_append_of_pass {charges : List Charge} {after : RateBuckets}
    (h : charge penv charges buckets = (.pass, after)) (others : List Charge) :
    charge penv (charges ++ others) buckets = charge penv others after := by
  induction charges generalizing buckets with
  | nil =>
      cases h
      rfl
  | cons next rest ih =>
      rw [charge] at h
      rw [List.cons_append, charge]
      cases hlimited : tokenBucketLimited penv next.now next.key next.limit buckets with
      | mk limited left =>
          rw [hlimited] at h
          cases limited with
          | true => cases h
          | false => exact ih h

theorem charge_singleton (next : Charge) :
    charge penv [next] buckets =
      (refusal (tokenBucketLimited penv next.now next.key next.limit buckets).1,
        (tokenBucketLimited penv next.now next.key next.limit buckets).2) := by
  rw [charge]
  cases tokenBucketLimited penv next.now next.key next.limit buckets with
  | mk limited after => cases limited <;> rfl

theorem charge_custom (h : (applyToCurrentMaps env policy).run m = .ok () m')
    (penv : PacketEnv) (packet : Packet) (buckets : RateBuckets) :
    charge penv ((limitFor policy packet.proto packet.dport).toList.map fun matched =>
        { now := penv.customNow
          key := bucketKey rateKindCustom packet matched.proto matched.dport
          limit := customLimit matched.limit }) buckets =
      (refusal (customDynamicRateLimited penv m'.maps packet buckets).1.isSome,
        (customDynamicRateLimited penv m'.maps packet buckets).2) := by
  rw [customDynamicRateLimited, lookupCustomRate_eq_limitFor h]
  cases limitFor policy packet.proto packet.dport with
  | none => rfl
  | some matched =>
      rw [Option.toList_some, List.map_singleton, charge_singleton]
      dsimp only
      cases tokenBucketLimited penv penv.customNow
          (bucketKey rateKindCustom packet matched.proto matched.dport)
          (customLimit matched.limit) buckets with
      | mk limited after => cases limited <;> rfl

theorem charge_flood (defense : XdpDynamicDefense) (penv : PacketEnv) (packet : Packet)
    (buckets : RateBuckets) :
    charge penv (if defense.floodEnabled then
        [{ now := penv.floodNow
           key := bucketKey rateKindFlood packet protoAny 0
           limit := floodLimit (defenseValue defense) }] else []) buckets =
      (refusal (floodLimited penv (defenseValue defense) packet buckets).1,
        (floodLimited penv (defenseValue defense) packet buckets).2) := by
  have hflag : (defenseValue defense).floodEnabled ≠ 0 ↔ defense.floodEnabled = true :=
    boolCode_ne_zero_iff
  rw [floodLimited]
  by_cases henabled : defense.floodEnabled = true
  · rw [if_pos henabled, if_pos (hflag.mpr henabled), charge_singleton]
  · rw [if_neg henabled, if_neg (mt hflag.mp henabled), charge]
    rfl

theorem charge_ip (defense : XdpDynamicDefense) (penv : PacketEnv) (packet : Packet)
    (buckets : RateBuckets) :
    charge penv (if defense.ipRateLimitEnabled then
        [{ now := penv.ipNow
           key := bucketKey rateKindIp packet protoAny 0
           limit := ipLimit (defenseValue defense) }] else []) buckets =
      (refusal (ipLimited penv (defenseValue defense) packet buckets).1,
        (ipLimited penv (defenseValue defense) packet buckets).2) := by
  have hflag : (defenseValue defense).ipRateLimitEnabled ≠ 0 ↔ defense.ipRateLimitEnabled = true :=
    boolCode_ne_zero_iff
  rw [ipLimited]
  by_cases henabled : defense.ipRateLimitEnabled = true
  · rw [if_pos henabled, if_pos (hflag.mpr henabled), charge_singleton]
  · rw [if_neg henabled, if_neg (mt hflag.mp henabled), charge]
    rfl

/-- The policy charges its limits as the filter does. -/
theorem charge_eq_dynamicDefenseLimited (h : (applyToCurrentMaps env policy).run m = .ok () m') :
    charge penv (chargesFor policy penv packet) buckets =
      (refusal (dynamicDefenseLimited penv m'.maps packet buckets).1.isSome,
        (dynamicDefenseLimited penv m'.maps packet buckets).2) := by
  have hflag : (defenseValue policy.dynamicDefense).enabled ≠ 0 ↔
      policy.dynamicDefense.enabled = true := boolCode_ne_zero_iff
  rw [dynamicDefenseLimited, (frame_of_applied h).2.2, chargesFor]
  by_cases henabled : policy.dynamicDefense.enabled = true
  · rw [if_pos henabled, if_neg (hflag.mpr henabled)]
    have hcustom := charge_custom h penv packet buckets
    cases hreason : customDynamicRateLimited penv m'.maps packet buckets with
    | mk custom afterCustom =>
      rw [hreason] at hcustom
      cases custom with
      | some stat => exact charge_append_of_drop (charge_append_of_drop hcustom _) _
      | none =>
        have hflood := charge_flood policy.dynamicDefense penv packet afterCustom
        rw [← charge_append_of_pass hcustom] at hflood
        cases hflooded : floodLimited penv (defenseValue policy.dynamicDefense) packet
            afterCustom with
        | mk flooded afterFlood =>
          rw [hflooded] at hflood
          cases flooded with
          | true =>
            rw [charge_append_of_drop hflood]
            simp only [hflooded]
            rfl
          | false =>
            rw [charge_append_of_pass hflood, charge_ip]
            simp only [hflooded]
            cases ipLimited penv (defenseValue policy.dynamicDefense) packet afterFlood with
            | mk limited afterIp => cases limited <;> rfl
  · rw [if_neg henabled, if_pos (not_ne_iff.mp (mt hflag.mp henabled)), charge]
    rfl

end Charge

end Limits

/-! ## Bans -/

section Bans

variable {env : ApplyEnv} {policy : CompiledPolicy} {m m' : LinuxXdpManager} {src : IpAddr}
  {monotonicNow : U64}

/-- The bans of the map are the kept ones that no address of the interface is in. -/
theorem mem_tempBans_iff (hrange : ExpiresInRange policy env.wallNow)
    (hclock : monotonicNowNs env = .ok monotonicNow)
    (h : (applyToCurrentMaps env policy).run m = .ok () m') {entry : TempBanKey × TempBanValue} :
    entry ∈ m'.maps.tempBans ↔
      ∃ ban ∈ compactTempBans policy.tempBans, AvoidsLocalIps m.localInterfaceCidrs ban.toNetwork ∧
        env.wallNow < ban.expiresAt ∧
          entry = banEntry env.wallNow monotonicNow (keyOfTempBan ban, ban) := by
  obtain ⟨now, hnow, hbans⟩ := mem_tempBans_of_applied hrange h
  rw [hclock] at hnow
  cases hnow
  rw [hbans, pendingOf, buildPendingPolicyKeys, List.mem_map]
  constructor
  · rintro ⟨⟨key, ban⟩, hitem, rfl⟩
    obtain ⟨hmem, hkey, hlive, hlocal⟩ := mem_pendingTempBans_filtered_iff.mp hitem
    exact ⟨ban, hmem, tempBanMatchesLocalInterface_eq_false_iff.mp hlocal, hlive,
      congrArg (fun k => banEntry _ _ (k, ban)) hkey⟩
  · rintro ⟨ban, hmem, havoids, hlive, rfl⟩
    exact ⟨(keyOfTempBan ban, ban), mem_pendingTempBans_filtered_iff.mpr
      ⟨hmem, rfl, hlive, tempBanMatchesLocalInterface_eq_false_iff.mpr havoids⟩, rfl⟩

/-- An entry is active as long as its ban, on the clock of the filter. -/
theorem banEntry_active_iff_of_applied (hrange : ExpiresInRange policy env.wallNow)
    (hclock : monotonicNowNs env = .ok monotonicNow)
    (h : (applyToCurrentMaps env policy).run m = .ok () m') {ban : XdpTempBan}
    (hkept : ban ∈ compactTempBans policy.tempBans)
    (havoids : AvoidsLocalIps m.localInterfaceCidrs ban.toNetwork)
    (hlive : env.wallNow < ban.expiresAt)
    {t : Int} {now : U64} (htime : Together env.wallNow monotonicNow t now) :
    tempBanValueActive (some (banEntry env.wallNow monotonicNow (keyOfTempBan ban, ban))) now ↔
      t < ban.expiresAt := by
  obtain ⟨monotonicNow', hadm, hconv, -⟩ := applyToCurrentMaps_ok h
  cases hclock.symm.trans hadm.clock
  have hexpiry := expiresAtNs_of_convertible hconv hkept hlive
    ⟨havoids, hrange ban (mem_of_mem_compactTempBans hkept)⟩
  obtain ⟨hlater, helapsed⟩ := htime
  simp only [tempBanValueActive, decide_eq_true_eq, BitVec.lt_def, hexpiry, helapsed]
  omega

/-- In one class, the longest entry is active exactly when a ban of the class is. -/
theorem lookupElem_tempBan_active_iff (hrange : ExpiresInRange policy env.wallNow)
    (hclock : monotonicNowNs env = .ok monotonicNow)
    (h : (applyToCurrentMaps env policy).run m = .ok () m') {t : Int} {now : U64}
    (htime : Together env.wallNow monotonicNow t now) {c : U8 × U16} :
    tempBanValueActive
        (lookupElem m'.maps.tempBans (packetKey (family src) c.1 c.2 (addrBytes src))) now ↔
      ∃ ban ∈ compactTempBans policy.tempBans, AvoidsLocalIps m.localInterfaceCidrs ban.toNetwork ∧
        t < ban.expiresAt ∧ BanInClass c src ban := by
  cases hfound : lookupElem m'.maps.tempBans (packetKey (family src) c.1 c.2 (addrBytes src)) with
  | none =>
      refine iff_of_false Bool.false_ne_true ?_
      rintro ⟨ban, hkept, havoids, hactive, hin⟩
      have hlive : env.wallNow < ban.expiresAt := Int.lt_of_le_of_lt htime.later hactive
      exact KeyedStore.longest?_eq_none_iff.mp hfound _
        ((mem_tempBans_iff hrange hclock h).mpr ⟨ban, hkept, havoids, hlive, rfl⟩)
        (keyOfTempBan_matches_iff.mpr hin)
  | some entry =>
      obtain ⟨hmem, hmatch, hlong⟩ := KeyedStore.longest?_eq_some_iff.mp hfound
      obtain ⟨ban, hkept, havoids, hlive, rfl⟩ := (mem_tempBans_iff hrange hclock h).mp hmem
      have hin : BanInClass c src ban := keyOfTempBan_matches_iff.mp hmatch
      rw [banEntry_active_iff_of_applied hrange hclock h hkept havoids hlive htime]
      constructor
      · intro hactive
        exact ⟨ban, hkept, havoids, hactive, hin⟩
      · rintro ⟨other, hother, havoids', hactive, hin'⟩
        have hlive' : env.wallNow < other.expiresAt := Int.lt_of_le_of_lt htime.later hactive
        have hle := hlong _
          ((mem_tempBans_iff hrange hclock h).mpr ⟨other, hother, havoids', hlive', rfl⟩)
          (keyOfTempBan_matches_iff.mpr hin')
        rw [banEntry_fst, banEntry_fst, length_keyOfTempBan, length_keyOfTempBan] at hle
        -- A kept ban is not outlived by a shorter kept one of its class.
        exact Int.lt_of_lt_of_le hactive
          (expiresAt_le_of_longer hkept hother hin hin' (Nat.le_of_add_le_add_left hle))

/-- The filter finds a ban active exactly when the policy bans the packet. -/
theorem tempBanActive_iff_banned (hrange : ExpiresInRange policy env.wallNow)
    (hclock : monotonicNowNs env = .ok monotonicNow)
    (h : (applyToCurrentMaps env policy).run m = .ok () m') {t : Int} {now : U64}
    (htime : Together env.wallNow monotonicNow t now) {proto : U8} {dport : U16} :
    tempBanActive m'.maps (family src) proto dport (addrBytes src) now ↔
      Banned m.localInterfaceCidrs policy.tempBans t proto dport src := by
  rw [tempBanActive_eq_any, List.any_eq_true]
  constructor
  · rintro ⟨c, hc, hactive⟩
    obtain ⟨ban, hkept, havoids, hlive, hin⟩ :=
      (lookupElem_tempBan_active_iff hrange hclock h htime).mp hactive
    exact ⟨ban, hkept, havoids, hlive, selects_iff_exists_class.mpr ⟨c, hc, hin⟩⟩
  · rintro ⟨ban, hkept, havoids, hlive, hselects⟩
    obtain ⟨c, hc, hin⟩ := selects_iff_exists_class.mp hselects
    exact ⟨c, hc, (lookupElem_tempBan_active_iff hrange hclock h htime).mpr
      ⟨ban, hkept, havoids, hlive, hin⟩⟩

end Bans

/-! ## The filter after an apply -/

section Applied

variable {env : ApplyEnv} {policy : CompiledPolicy} {m m' : LinuxXdpManager}
  {monotonicNow : U64} {s : FilterState} {buckets : RateBuckets}

/-- The filter has the maps of the apply and the buckets of the policy's machine. -/
structure Mirrors (maps : PolicyMaps) (s : FilterState) (buckets : RateBuckets) : Prop where
  maps : s.maps = maps
  rateBuckets : s.rateBuckets = buckets

theorem mirrors_passPacket {maps : PolicyMaps} (h : Mirrors maps s buckets) :
    Simulates (Mirrors maps) (passPacket s) (.pass, buckets) :=
  ⟨rfl, h.maps, h.rateBuckets⟩

theorem mirrors_dropPacket {maps : PolicyMaps} (h : Mirrors maps s buckets) (penv : PacketEnv)
    (reason : Stat) (packet : Packet) (detail : DropDetail) :
    Simulates (Mirrors maps) (dropPacket penv reason packet detail s) (.drop, buckets) := by
  refine ⟨rfl, ?_, ?_⟩
  · rw [maps_dropPacket, h.maps]
  · rw [← h.rateBuckets, dropPacket, emitDropEvent]
    split <;> rfl

theorem mirrors_limitPacket (h : (applyToCurrentMaps env policy).run m = .ok () m')
    (hs : Mirrors m'.maps s buckets) (penv : PacketEnv) (packet : Packet) :
    Simulates (Mirrors m'.maps) (limitPacket penv packet s)
      (charge penv (chargesFor policy penv packet) buckets) := by
  rw [charge_eq_dynamicDefenseLimited h, ← hs.maps, ← hs.rateBuckets, limitPacket]
  cases dynamicDefenseLimited penv s.maps packet s.rateBuckets with
  | mk reason after =>
      have hafter : Mirrors s.maps { s with rateBuckets := after } after := ⟨rfl, rfl⟩
      cases reason with
      | none => exact mirrors_passPacket hafter
      | some reason => exact mirrors_dropPacket hafter _ _ _ _

theorem mirrors_screenCountry (h : (applyToCurrentMaps env policy).run m = .ok () m')
    (hs : Mirrors m'.maps s buckets) (penv : PacketEnv) {src : IpAddr} {packet : Packet}
    (hfamily : packet.family = family src) (hsrc : packet.src = addrBytes src) :
    Simulates (Mirrors m'.maps) (screenCountry penv packet s)
      (if (countryFor policy src).bind (actionFor policy) = some .deny then
        (.drop, buckets)
      else
        charge penv (chargesFor policy penv packet) buckets) := by
  have hlimit := mirrors_limitPacket h hs penv packet
  have hgeo : (lookupGeo m'.maps (family src) (addrBytes src)).map Prod.snd =
      (countryFor policy src).map fun country => { country := country } :=
    lookupGeo_eq_countryFor h
  rw [screenCountry, hs.maps, hfamily, hsrc]
  cases hfound : lookupGeo m'.maps (family src) (addrBytes src) with
  | none =>
      rw [hfound, Option.map_none, eq_comm, Option.map_eq_none_iff] at hgeo
      rw [hgeo]
      exact hlimit
  | some geo =>
      rw [hfound, Option.map_some, eq_comm, Option.map_eq_some_iff] at hgeo
      obtain ⟨country, hcountry, hvalue⟩ := hgeo
      have haction : lookupCountry m'.maps geo.2 =
          (actionFor policy country).map fun action => { action := actionCode action } := by
        rw [lookupCountry_eq_actionFor h, ← hvalue]
      rw [hcountry, Option.bind_some]
      dsimp only
      rw [haction]
      cases actionFor policy country with
      | none => exact hlimit
      | some action =>
          cases action with
          | allow => exact hlimit
          | deny => exact mirrors_dropPacket hs _ _ _ _

/-- The filter answers a packet as the policy does. -/
theorem mirrors_handlePacket (hrange : ExpiresInRange policy env.wallNow)
    (hclock : monotonicNowNs env = .ok monotonicNow)
    (h : (applyToCurrentMaps env policy).run m = .ok () m') (hs : Mirrors m'.maps s buckets)
    {penv : PacketEnv} {t : Int} (htime : Together env.wallNow monotonicNow t penv.banNow)
    {src : IpAddr} {packet : Packet} (hfamily : packet.family = family src)
    (hsrc : packet.src = addrBytes src) :
    Simulates (Mirrors m'.maps) (handlePacket penv packet s)
      (policyHandle m'.localInterfaceCidrs policy t penv src packet buckets) := by
  have hscreen := mirrors_screenCountry h hs penv hfamily hsrc
  have hholds : HoldsRules m'.maps m'.localInterfaceCidrs policy := by
    intro entry
    rw [(frame_of_applied h).2.1]
    exact mem_ruleCidrs_iff_stored h
  rw [handlePacket, policyHandle, hs.maps, hfamily, hsrc]
  simp only [lookupTrusted_isSome_iff h, tempBanActive_iff_banned hrange hclock h htime,
    lookupRule_eq_ruleFor hholds, (frame_of_applied h).2.1]
  split
  · exact mirrors_passPacket hs
  · split
    · exact mirrors_dropPacket hs _ _ _ _
    · cases ruleFor m.localInterfaceCidrs policy packet.proto packet.dport src with
      | none => exact hscreen
      | some rule =>
          cases haction : rule.action with
          | allow =>
              simp only [Option.map_some, ruleValue, haction, actionCode]
              exact mirrors_passPacket hs
          | deny =>
              simp only [Option.map_some, ruleValue, haction, actionCode]
              exact mirrors_dropPacket hs _ _ _ _

theorem mirrors_filterFrame (hrange : ExpiresInRange policy env.wallNow)
    (hclock : monotonicNowNs env = .ok monotonicNow)
    (h : (applyToCurrentMaps env policy).run m = .ok () m') (hs : Mirrors m'.maps s buckets)
    {arrival : Arrival} (htime : Together env.wallNow monotonicNow arrival.time arrival.env.banNow) :
    Simulates (Mirrors m'.maps) (filterFrame s arrival)
      (policyFrame m'.localInterfaceCidrs policy buckets arrival) := by
  rw [filterFrame, xdpFirewall, policyFrame]
  cases hparse : parseFrame arrival.data with
  | notIp => exact ⟨rfl, hs⟩
  | malformed family proto src => exact mirrors_dropPacket hs _ _ _ _
  | packet packet =>
      obtain ⟨hfamily, hsrc⟩ := source_of_parseFrame hparse
      exact mirrors_handlePacket hrange hclock h hs htime hfamily hsrc

end Applied

/-- A TCP segment to port 443 from the host that `nestedBansPolicy` bans, in an IPv4 packet. -/
def bannedFrame : Frame :=
  List.replicate 12 0 ++ [0x08, 0x00] ++
    [0x45, 0, 0, 40, 0, 0, 0x40, 0, 64, 6, 0, 0, 203, 0, 113, 7, 10, 0, 0, 1] ++
    [0x9C, 0x40, 0x01, 0xBB] ++ List.replicate 16 0

/-- The frame comes in one hour and a half after the apply, when the ban of the network is over. -/
def bannedArrival : Arrival where
  time := 5400000000000
  env := { momentEnv with banNow := 5401000000000 }
  data := bannedFrame

/-- The filter before the first packet. -/
def freshFilter (maps : PolicyMaps) : FilterState where
  maps := maps
  rateBuckets := KeyedStore.empty
  stats _ := 0
  dropConfig := 0
  dropEvents := []

example : (answerAll (policyFrame [] nestedBansPolicy) KeyedStore.empty [bannedArrival]).1 =
    [.drop] := by
  decide +kernel

end Enforcement
end XdpFirewall
