import XdpFirewall.DataPlane.ApplyRun

/-!
# ApplyContent — what the maps hold after an apply

For each map the identity by which user space keeps a key is compared with the one by which the
kernel does. Rule, ban and country keys have the same identities on both sides. The other keys
have padding, which the kernel compares and user space does not.
-/

namespace XdpFirewall
namespace DataPlane

open Net Policy Lib

/-! ## Keys without padding -/

theorem l4KeyId_injective {a b : LpmKey L4Data} (h : l4KeyId a = l4KeyId b) : a = b := by
  obtain ⟨alen, afamily, aproto, adport, aaddr⟩ := a
  obtain ⟨blen, bfamily, bproto, bdport, baddr⟩ := b
  simp only [l4KeyId, Prod.mk.injEq] at h
  obtain ⟨rfl, rfl, rfl, rfl, rfl⟩ := h
  rfl

section L4

variable {V : Type} {entries : List (LpmKey L4Data × V)}
  {ids : Finset (Nat × U8 × U8 × U16 × AddrBytes)}

/-- Keys that the kernel compares by bits are told apart by user space as well. -/
theorem mem_settled_l4 {old : LpmTrie L4Data V}
    (hnodup : (entries.map fun entry => entry.1.bits).Nodup)
    (hids : ∀ id, id ∈ ids ↔ ∃ entry ∈ entries, l4KeyId entry.1 = id)
    {entry : LpmKey L4Data × V} :
    entry ∈ (old.setAll entries).retain (fun key => l4KeyId key ∈ ids) ↔ entry ∈ entries := by
  have hkeep : ∀ item ∈ entries, decide (l4KeyId item.1 ∈ ids) = true := by
    intro item hitem
    rw [decide_eq_true_eq, hids]
    exact ⟨item, hitem, rfl⟩
  rw [KeyedStore.mem_retain_setAll hnodup hkeep]
  constructor
  · rintro (hitem | ⟨-, hid, hnew⟩)
    · exact hitem
    · -- An old key with a pending identity is the pending key.
      rw [decide_eq_true_eq, hids] at hid
      obtain ⟨item, hitem, hsame⟩ := hid
      have hmem : entry.1.bits ∈ entries.map fun entry => entry.1.bits :=
        List.mem_map.mpr ⟨item, hitem, by rw [l4KeyId_injective hsame]⟩
      exact absurd hmem hnew
  · exact Or.inl

end L4

/-! ## Rules and temporary bans -/

/-- The pending keys of an apply in state `m`. -/
def pendingOf (env : ApplyEnv) (policy : CompiledPolicy) (m : LinuxXdpManager) :
    PendingPolicyKeys :=
  buildPendingPolicyKeys m.localInterfaceCidrs policy env.wallNow

theorem nodup_pendingRules (localCidrs : List LocalInterfaceCidr) (policy : CompiledPolicy) :
    ((pendingRules localCidrs policy).items.map fun item => item.1.bits).Nodup := by
  rw [pendingRules_eq]
  refine Collected.nodup_items_map ?_
  intro a ha b hb hbits
  obtain ⟨r, -, hr⟩ := List.mem_filterMap.mp ha
  obtain ⟨t, -, ht⟩ := List.mem_filterMap.mp hb
  obtain ⟨-, rfl⟩ := encodeRule?_eq_some_iff.mp hr
  obtain ⟨-, rfl⟩ := encodeRule?_eq_some_iff.mp ht
  exact congrArg ruleKeyId (keyOfRule_congr (keyOfRule_bits_injective hbits))

theorem nodup_pendingTempBans (localCidrs : List LocalInterfaceCidr) (bans : List XdpTempBan)
    (wallNow : Int) :
    ((pendingTempBans localCidrs bans wallNow).items.map fun item => item.1.bits).Nodup := by
  rw [pendingTempBans_eq]
  refine Collected.nodup_items_map ?_
  intro a ha b hb hbits
  obtain ⟨x, -, hx⟩ := List.mem_filterMap.mp ha
  obtain ⟨y, -, hy⟩ := List.mem_filterMap.mp hb
  obtain ⟨-, rfl⟩ := encodeTempBan?_eq_some_iff.mp hx
  obtain ⟨-, rfl⟩ := encodeTempBan?_eq_some_iff.mp hy
  exact congrArg tempBanKeyId (keyOfTempBan_congr (keyOfTempBan_bits_injective hbits))

/-- The rule map holds the pending rules and nothing else. -/
theorem mem_ruleCidrs_of_applied {env : ApplyEnv} {policy : CompiledPolicy}
    {m m' : LinuxXdpManager} (h : (applyToCurrentMaps env policy).run m = .ok () m')
    {entry : RuleKey × RuleValue} :
    entry ∈ m'.maps.ruleCidrs ↔ entry ∈ (pendingOf env policy m).ruleEntries := by
  obtain ⟨monotonicNow, -, -, rfl⟩ := applyToCurrentMaps_ok h
  refine mem_settled_l4 ?_ ?_
  · rw [PendingPolicyKeys.ruleEntries, List.map_map]
    exact nodup_pendingRules _ _
  · intro id
    rw [buildPendingPolicyKeys, pendingRules_eq, Collected.mem_ids_iff_mem_items]
    simp [PendingPolicyKeys.ruleEntries, ruleEntry, ruleKeyId]

/-- The bans of a policy expire within the range of signed 64-bit nanoseconds, 292 years. -/
def ExpiresInRange (policy : CompiledPolicy) (wallNow : Int) : Prop :=
  ∀ ban ∈ policy.tempBans, ban.expiresAt - wallNow < 2 ^ 63

/-- The entry of a ban: its expiry moved from the wall clock to the monotonic clock. -/
def banEntry (wallNow : Int) (monotonicNow : U64) (item : TempBanKey × XdpTempBan) :
    TempBanKey × TempBanValue :=
  (item.1,
    { expiresAtNs := monotonicNow + BitVec.ofNat 64 (item.2.expiresAt - wallNow).toNat })

@[simp] theorem banEntry_fst (wallNow : Int) (monotonicNow : U64)
    (item : TempBanKey × XdpTempBan) : (banEntry wallNow monotonicNow item).1 = item.1 := rfl

theorem tempBanEntry_eq {wallNow : Int} {monotonicNow : U64} {item : TempBanKey × XdpTempBan}
    {entry : Option (TempBanKey × TempBanValue)} (hlive : wallNow < item.2.expiresAt)
    (hrange : item.2.expiresAt - wallNow < 2 ^ 63)
    (h : tempBanEntry wallNow monotonicNow item = .ok entry) :
    entry = some (banEntry wallNow monotonicNow item) ∧
      monotonicNow.toNat + (item.2.expiresAt - wallNow).toNat < 2 ^ 64 := by
  have hpos : ¬ item.2.expiresAt - wallNow ≤ 0 := by omega
  have hnanos : numNanoseconds (item.2.expiresAt - wallNow) =
      some (item.2.expiresAt - wallNow) := by
    rw [numNanoseconds, if_pos ⟨by omega, hrange⟩]
  simp only [tempBanEntry, tempBanValue, hnanos, if_neg hpos] at h
  split at h
  · rename_i hfit
    simp only [Except.map, Option.map, Except.ok.injEq] at h
    exact ⟨h.symm, hfit⟩
  · cases h

theorem mem_of_mem_pendingTempBans {localCidrs : List LocalInterfaceCidr}
    {bans : List XdpTempBan} {wallNow : Int} {item : TempBanKey × XdpTempBan}
    (h : item ∈ (pendingTempBans localCidrs bans wallNow).items) :
    item.2 ∈ compactTempBans bans ∧ item.1 = keyOfTempBan item.2 ∧
      wallNow < item.2.expiresAt ∧ tempBanMatchesLocalInterface localCidrs item.2 = false := by
  rw [pendingTempBans_eq] at h
  obtain ⟨ban, hban, hitem⟩ := List.mem_filterMap.mp (Collected.mem_of_mem_items_collect h)
  obtain ⟨⟨hlive, hlocal⟩, rfl⟩ := encodeTempBan?_eq_some_iff.mp hitem
  exact ⟨hban, rfl, hlive, hlocal⟩

theorem mem_of_mem_compactTempBans {bans : List XdpTempBan} {ban : XdpTempBan}
    (h : ban ∈ compactTempBans bans) : ban ∈ bans :=
  ((mem_compact isCovering_tempBanCoversOrSupersedes.irrefl).mp h).1

/-- With expiries in range every pending ban has an entry. -/
theorem tempBanEntries_eq {localCidrs : List LocalInterfaceCidr} {policy : CompiledPolicy}
    {wallNow : Int} {monotonicNow : U64} (hrange : ExpiresInRange policy wallNow)
    (hconv : Convertible (buildPendingPolicyKeys localCidrs policy wallNow) wallNow
      monotonicNow) :
    (buildPendingPolicyKeys localCidrs policy wallNow).tempBanEntries wallNow monotonicNow =
      (buildPendingPolicyKeys localCidrs policy wallNow).tempBans.items.map
        (banEntry wallNow monotonicNow) := by
  refine KeyedStore.computed_eq_map ?_
  intro item hitem
  obtain ⟨hmem, -, hlive, -⟩ := mem_of_mem_pendingTempBans hitem
  obtain ⟨entry, hentry⟩ := hconv item hitem
  have hban := hrange item.2 (mem_of_mem_compactTempBans hmem)
  rw [hentry, (tempBanEntry_eq hlive hban hentry).1]

/-- The ban map holds the pending bans and nothing else. -/
theorem mem_tempBans_of_applied {env : ApplyEnv} {policy : CompiledPolicy}
    {m m' : LinuxXdpManager} (hrange : ExpiresInRange policy env.wallNow)
    (h : (applyToCurrentMaps env policy).run m = .ok () m') :
    ∃ monotonicNow, monotonicNowNs env = .ok monotonicNow ∧
      ∀ entry : TempBanKey × TempBanValue, entry ∈ m'.maps.tempBans ↔
        entry ∈ (pendingOf env policy m).tempBans.items.map
          (banEntry env.wallNow monotonicNow) := by
  obtain ⟨monotonicNow, hadm, hconv, rfl⟩ := applyToCurrentMaps_ok h
  refine ⟨monotonicNow, hadm.clock, ?_⟩
  intro entry
  rw [tempBanEntries_eq hrange hconv]
  refine mem_settled_l4 ?_ ?_
  · rw [List.map_map]
    exact nodup_pendingTempBans _ _ _
  · intro id
    rw [buildPendingPolicyKeys, pendingTempBans_eq, Collected.mem_ids_iff_mem_items]
    simp [banEntry, tempBanKeyId]

/-! ## Padded keys -/

/-- The padding that every key of the program has. -/
def zeroPad : Vector U8 3 :=
  Vector.replicate 3 0

theorem paddedKey_eq_of_id {net : Network} {key : LpmKey PaddedData}
    (h : paddedKeyId key = paddedKeyId (paddedKey net.addr net.prefixLen)) :
    key = { prefixLen := lpmPrefixLen net.prefixLen
            data :=
              { family := family net.addr
                pad := key.data.pad
                addr := addrBytes net.addr } } := by
  obtain ⟨len, fam, pad, addr⟩ := key
  simp only [paddedKeyId, paddedKey, Prod.mk.injEq] at h
  obtain ⟨rfl, rfl, rfl⟩ := h
  rfl

/-- The kernel tells a key with other padding from every key of the program. -/
theorem bits_ne_of_pad_ne {net other : Network} {key : LpmKey PaddedData}
    (hid : paddedKeyId key = paddedKeyId (paddedKey net.addr net.prefixLen))
    (hpad : key.data.pad ≠ zeroPad) :
    key.bits ≠ (paddedKey other.addr other.prefixLen).bits := by
  intro hbits
  rw [paddedKey_eq_of_id hid, bits_padded _ _ _ (prefixLen_le_length net), bits_paddedKey] at hbits
  obtain ⟨hhead, -⟩ := List.append_inj hbits (by simp [paddedHeader])
  have hbytes := header_injective (by simp) (by simp) hhead
  simp only [List.cons.injEq] at hbytes
  exact hpad (Vector.toList_inj.mp hbytes.2)

theorem paddedKey_eq_of_pad_eq {net : Network} {key : LpmKey PaddedData}
    (hid : paddedKeyId key = paddedKeyId (paddedKey net.addr net.prefixLen))
    (hpad : key.data.pad = zeroPad) : key = paddedKey net.addr net.prefixLen := by
  rw [paddedKey_eq_of_id hid, hpad]
  rfl

section Padded

variable {V : Type} {entries : List (LpmKey PaddedData × V)} {ids : Finset (Nat × U8 × AddrBytes)}

/-- Among the old keys, those that differ from a pending one in the padding only are left. -/
theorem mem_settled_padded {old : LpmTrie PaddedData V}
    (hkeys : ∀ entry ∈ entries, ∃ net : Network, entry.1 = paddedKey net.addr net.prefixLen)
    (hnodup : (entries.map fun entry => entry.1.bits).Nodup)
    (hids : ∀ id, id ∈ ids ↔ ∃ entry ∈ entries, paddedKeyId entry.1 = id)
    {entry : LpmKey PaddedData × V} :
    entry ∈ (old.setAll entries).retain (fun key => paddedKeyId key ∈ ids) ↔
      entry ∈ entries ∨
        entry ∈ old ∧ entry.1.data.pad ≠ zeroPad ∧ paddedKeyId entry.1 ∈ ids := by
  have hkeep : ∀ item ∈ entries, decide (paddedKeyId item.1 ∈ ids) = true := by
    intro item hitem
    rw [decide_eq_true_eq, hids]
    exact ⟨item, hitem, rfl⟩
  rw [KeyedStore.mem_retain_setAll hnodup hkeep]
  refine or_congr_right ?_
  rw [decide_eq_true_eq]
  constructor
  · rintro ⟨hold, hid, hnew⟩
    refine ⟨hold, ?_, hid⟩
    intro hpad
    obtain ⟨item, hitem, hsame⟩ := (hids _).mp hid
    obtain ⟨net, hkey⟩ := hkeys item hitem
    rw [hkey] at hsame
    have hmem : entry.1.bits ∈ entries.map fun entry => entry.1.bits :=
      List.mem_map.mpr ⟨item, hitem, by rw [paddedKey_eq_of_pad_eq hsame.symm hpad, hkey]⟩
    exact hnew hmem
  · rintro ⟨hold, hpad, hid⟩
    refine ⟨hold, hid, ?_⟩
    obtain ⟨item, hitem, hsame⟩ := (hids _).mp hid
    obtain ⟨net, hkey⟩ := hkeys item hitem
    rw [hkey] at hsame
    intro hmem
    obtain ⟨other, hother, hbits⟩ := List.mem_map.mp hmem
    obtain ⟨net', hkey'⟩ := hkeys other hother
    rw [hkey'] at hbits
    exact bits_ne_of_pad_ne hsame.symm hpad hbits.symm

end Padded

theorem nodup_bits_of_paddedKeys {X : Type} {l : List X} {keyOf : X → LpmKey PaddedData}
    (hkeys : ∀ x ∈ l, ∃ net : Network, keyOf x = paddedKey net.addr net.prefixLen) :
    ((Collected.collect (fun x => paddedKeyId (keyOf x)) l).items.map fun x =>
      (keyOf x).bits).Nodup := by
  refine Collected.nodup_items_map ?_
  intro a ha b hb hbits
  obtain ⟨na, hna⟩ := hkeys a ha
  obtain ⟨nb, hnb⟩ := hkeys b hb
  rw [hna, hnb] at hbits ⊢
  rw [paddedKey_bits_injective hbits]

/-- The geo map: the pending prefixes and old keys with other padding. -/
theorem mem_geoCidrs_of_applied {env : ApplyEnv} {policy : CompiledPolicy}
    {m m' : LinuxXdpManager} (h : (applyToCurrentMaps env policy).run m = .ok () m')
    {entry : GeoKey × GeoValue} :
    entry ∈ m'.maps.geoCidrs ↔
      entry ∈ (pendingOf env policy m).geoEntries ∨
        entry ∈ m.maps.geoCidrs ∧ entry.1.data.pad ≠ zeroPad ∧
          geoKeyId entry.1 ∈ (pendingOf env policy m).geoPrefixes.ids := by
  obtain ⟨monotonicNow, -, -, rfl⟩ := applyToCurrentMaps_ok h
  have hkeys : ∀ item ∈ policy.geoPrefixes.map fun geo => (geoKey geo.addr geo.prefixLen, geo),
      ∃ net : Network, item.1 = paddedKey net.addr net.prefixLen := by
    intro item hitem
    obtain ⟨geo, -, rfl⟩ := List.mem_map.mp hitem
    exact ⟨geo.toNetwork, rfl⟩
  refine mem_settled_padded ?_ ?_ ?_
  · intro entry hentry
    obtain ⟨item, hitem, rfl⟩ := List.mem_map.mp hentry
    exact hkeys item (Collected.mem_of_mem_items_collect hitem)
  · rw [PendingPolicyKeys.geoEntries, List.map_map]
    exact nodup_bits_of_paddedKeys hkeys
  · intro id
    rw [buildPendingPolicyKeys, pendingGeoPrefixes, Collected.mem_ids_iff_mem_items]
    simp [PendingPolicyKeys.geoEntries, geoEntry, geoKeyId]

/-- The trusted map: the pending keys and old keys with other padding. -/
theorem mem_trustedCidrs_of_applied {env : ApplyEnv} {policy : CompiledPolicy}
    {m m' : LinuxXdpManager} (h : (applyToCurrentMaps env policy).run m = .ok () m')
    {entry : TrustedKey × TrustedValue} :
    entry ∈ m'.maps.trustedCidrs ↔
      entry ∈ (pendingOf env policy m).trustedEntries ∨
        entry ∈ m.maps.trustedCidrs ∧ entry.1.data.pad ≠ zeroPad ∧
          trustedKeyId entry.1 ∈ (pendingOf env policy m).trustedKeys.ids := by
  obtain ⟨monotonicNow, -, -, rfl⟩ := applyToCurrentMaps_ok h
  have hkeys : ∀ key ∈ (compactTrustedPrefixes policy.trustedPrefixes).map
      fun trusted => trustedKey trusted.addr trusted.prefixLen,
      ∃ net : Network, key = paddedKey net.addr net.prefixLen := by
    intro key hkey
    obtain ⟨trusted, -, rfl⟩ := List.mem_map.mp hkey
    exact ⟨trusted.toNetwork, rfl⟩
  refine mem_settled_padded ?_ ?_ ?_
  · intro entry hentry
    obtain ⟨key, hkey, rfl⟩ := List.mem_map.mp hentry
    exact hkeys key (Collected.mem_of_mem_items_collect hkey)
  · rw [PendingPolicyKeys.trustedEntries, List.map_map]
    exact nodup_bits_of_paddedKeys hkeys
  · intro id
    rw [buildPendingPolicyKeys, pendingTrustedKeys, Collected.mem_ids_iff_mem_items]
    simp [PendingPolicyKeys.trustedEntries, trustedEntry, trustedKeyId]

/-! ## Hash maps -/

section Hash

variable {K V J : Type} [DecidableEq K] [DecidableEq J] {entries : List (K × V)}
  {ids : Finset J} {idOf : K → J}

/-- Among the old keys, those that only user space takes for a pending key are left. -/
theorem mem_settled_hash {old : HashMap K V} (hnodup : (entries.map Prod.fst).Nodup)
    (hids : ∀ id, id ∈ ids ↔ ∃ entry ∈ entries, idOf entry.1 = id) {entry : K × V} :
    entry ∈ (old.setAll entries).retain (fun key => idOf key ∈ ids) ↔
      entry ∈ entries ∨
        entry ∈ old ∧ idOf entry.1 ∈ ids ∧ entry.1 ∉ entries.map Prod.fst := by
  have hkeep : ∀ item ∈ entries, decide (idOf item.1 ∈ ids) = true := by
    intro item hitem
    rw [decide_eq_true_eq, hids]
    exact ⟨item, hitem, rfl⟩
  rw [KeyedStore.mem_retain_setAll hnodup hkeep, decide_eq_true_eq]
  rfl

end Hash

/-- The country map holds the pending countries and nothing else. -/
theorem mem_countryRules_of_applied {env : ApplyEnv} {policy : CompiledPolicy}
    {m m' : LinuxXdpManager} (h : (applyToCurrentMaps env policy).run m = .ok () m')
    {entry : U32 × CountryValue} :
    entry ∈ m'.maps.countryRules ↔ entry ∈ (pendingOf env policy m).countryEntries := by
  obtain ⟨monotonicNow, -, -, rfl⟩ := applyToCurrentMaps_ok h
  have hids : ∀ id, id ∈ (pendingOf env policy m).countryRules.ids ↔
      ∃ entry ∈ (pendingOf env policy m).countryEntries, entry.1 = id := by
    intro id
    rw [pendingOf, buildPendingPolicyKeys, pendingCountryRules, Collected.mem_ids_iff_mem_items]
    simp [PendingPolicyKeys.countryEntries, countryEntry]
  have hnodup : ((pendingOf env policy m).countryEntries.map Prod.fst).Nodup := by
    rw [PendingPolicyKeys.countryEntries, List.map_map]
    exact (Collected.collect_sound _ _).nodup
  refine (mem_settled_hash hnodup hids).trans ?_
  constructor
  · rintro (hitem | ⟨-, hid, hnew⟩)
    · exact hitem
    · obtain ⟨item, hitem, hsame⟩ := (hids _).mp hid
      exact absurd (List.mem_map.mpr ⟨item, hitem, hsame⟩) hnew
  · exact Or.inl

/-- The custom rate map: the pending limits and old keys with other padding. -/
theorem mem_customRateLimits_of_applied {env : ApplyEnv} {policy : CompiledPolicy}
    {m m' : LinuxXdpManager} (h : (applyToCurrentMaps env policy).run m = .ok () m')
    {entry : CustomRateKey × CustomRateValue} :
    entry ∈ m'.maps.customRateLimits ↔
      entry ∈ (pendingOf env policy m).customRateEntries ∨
        entry ∈ m.maps.customRateLimits ∧ entry.1.pad ≠ 0 ∧
          customRateKeyId entry.1 ∈ (pendingOf env policy m).customRateLimits.ids := by
  obtain ⟨monotonicNow, -, -, rfl⟩ := applyToCurrentMaps_ok h
  have hids : ∀ id, id ∈ (pendingOf env policy m).customRateLimits.ids ↔
      ∃ entry ∈ (pendingOf env policy m).customRateEntries, customRateKeyId entry.1 = id := by
    intro id
    rw [pendingOf, buildPendingPolicyKeys, pendingCustomRateLimits,
      Collected.mem_ids_iff_mem_items]
    simp [PendingPolicyKeys.customRateEntries, customRateEntry]
  have hpads : ∀ item ∈ (pendingOf env policy m).customRateEntries, item.1.pad = 0 := by
    intro item hitem
    obtain ⟨source, hsource, rfl⟩ := List.mem_map.mp hitem
    obtain ⟨limit, -, rfl⟩ := List.mem_map.mp (Collected.mem_of_mem_items_collect hsource)
    rfl
  have hnodup : ((pendingOf env policy m).customRateEntries.map Prod.fst).Nodup := by
    rw [PendingPolicyKeys.customRateEntries, List.map_map]
    refine Collected.nodup_items_map ?_
    intro a _ b _ hsame
    exact congrArg customRateKeyId hsame
  refine (mem_settled_hash hnodup hids).trans (or_congr_right (and_congr_right fun _ => ?_))
  constructor
  · rintro ⟨hid, hnew⟩
    refine ⟨?_, hid⟩
    intro hpad
    obtain ⟨item, hitem, hsame⟩ := (hids _).mp hid
    have hkey : item.1 = entry.1 := by
      have hzero := hpads item hitem
      obtain ⟨⟨proto, pad, dport⟩, value⟩ := item
      obtain ⟨⟨proto', pad', dport'⟩, value'⟩ := entry
      simp_all [customRateKeyId]
    exact hnew (List.mem_map.mpr ⟨item, hitem, hkey⟩)
  · rintro ⟨hpad, hid⟩
    refine ⟨hid, ?_⟩
    intro hmem
    obtain ⟨item, hitem, hkey⟩ := List.mem_map.mp hmem
    exact hpad (hkey ▸ hpads item hitem)

end DataPlane
end XdpFirewall
