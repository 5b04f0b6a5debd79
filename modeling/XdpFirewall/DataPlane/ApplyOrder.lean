import XdpFirewall.DataPlane.ApplyExact
import XdpFirewall.Lib.Traverse

/-!
# ApplyOrder — what an apply owes to the order of a policy's lists

The lists of a policy need the same room in every order. What an apply leaves in the maps depends on
the entries and identities that are pending, not on the order in which they are written.
-/

namespace XdpFirewall
namespace DataPlane

open Net Policy Lib

/-! ## Room -/

/-- The same policy up to the order of its lists. -/
structure PolicyPerm (a b : CompiledPolicy) : Prop where
  trustedPrefixes : a.trustedPrefixes.Perm b.trustedPrefixes
  rules : a.rules.Perm b.rules
  countryRules : a.countryRules.Perm b.countryRules
  tempBans : a.tempBans.Perm b.tempBans
  dynamicDefense : a.dynamicDefense = b.dynamicDefense
  dynamicRateLimits : a.dynamicRateLimits.Perm b.dynamicRateLimits
  geoPrefixes : a.geoPrefixes.Perm b.geoPrefixes
  threatPrefixes : a.threatPrefixes.Perm b.threatPrefixes

variable {a b : CompiledPolicy} {env : ApplyEnv} {m m' m'' : LinuxXdpManager}

theorem requiredPolicyMapSizes_perm (h : PolicyPerm a b) (m : LinuxXdpManager) :
    requiredPolicyMapSizes m a = requiredPolicyMapSizes m b := by
  have htrusted : (compactTrustedPrefixes a.trustedPrefixes).length =
      (compactTrustedPrefixes b.trustedPrefixes).length :=
    (compact_perm isCovering_trustedPrefixCovers.irrefl h.trustedPrefixes).length_eq
  have hbans : (compactTempBans a.tempBans).length = (compactTempBans b.tempBans).length :=
    (compact_perm isCovering_tempBanCoversOrSupersedes.irrefl h.tempBans).length_eq
  have hcountries : (a.countryRules.map fun country => country.country).toFinset =
      (b.countryRules.map fun country => country.country).toFinset :=
    List.toFinset_eq_of_perm _ _ (h.countryRules.map _)
  simp only [requiredPolicyMapSizes, h.rules.length_eq, h.threatPrefixes.length_eq,
    h.geoPrefixes.length_eq, h.dynamicRateLimits.length_eq, htrusted, hbans, hcountries]

theorem growMaps_perm (h : PolicyPerm a b) : growMaps env a = growMaps env b := by
  simp only [growMaps, requiredPolicyMapSizes_perm h]

/-! ## A manager with just the room that a policy needs -/

theorem requiredPolicyMapSizes_congr {manager : LinuxXdpManager}
    (h : m.mapSizes.rateEntries = manager.mapSizes.rateEntries) (policy : CompiledPolicy) :
    requiredPolicyMapSizes m policy = requiredPolicyMapSizes manager policy := by
  simp only [requiredPolicyMapSizes, h]

/-- The room that is left when a policy loses its bans. -/
theorem requiredPolicyMapSizes_of_noBans {required : XdpMapSizes}
    (h : requiredPolicyMapSizes m a = .ok required) :
    ∃ required', requiredPolicyMapSizes m { a with tempBans := [] } = .ok required' ∧
      required'.rateEntries = m.mapSizes.rateEntries := by
  unfold requiredPolicyMapSizes at h ⊢
  dsimp only at h ⊢
  split at h
  · cases h
  rename_i hcount
  obtain ⟨rules, hrules, h⟩ := bind_ok_iff.mp h
  obtain ⟨geo, hgeo, h⟩ := bind_ok_iff.mp h
  obtain ⟨trusted, htrusted, h⟩ := bind_ok_iff.mp h
  obtain ⟨country, hcountry, h⟩ := bind_ok_iff.mp h
  obtain ⟨custom, hcustom, -⟩ := bind_ok_iff.mp h
  rw [if_neg hcount, hrules, hgeo, htrusted, hcountry, hcustom]
  exact ⟨_, rfl, rfl⟩

/-- A manager that has just created maps of these sizes, on an interface without addresses. -/
def freshManager (sizes : XdpMapSizes) : LinuxXdpManager where
  maps := PolicyMaps.fresh (defenseValue XdpDynamicDefense.default)
  mapSizes := sizes
  localInterfaceCidrs := []
  autoResizeMaps := false

theorem run_freshManager {required : XdpMapSizes} (hbans : a.tempBans = [])
    (hreq : requiredPolicyMapSizes (freshManager required) a = .ok required) :
    ∃ m', (applyToCurrentMaps idleEnv a).run (freshManager required) = .ok () m' ∧
      (apply idleEnv a).run (freshManager required) = .ok () m' := by
  have hvalid : validateMapCapacity required required = .ok () :=
    validateMapCapacity_ok_iff.mpr ⟨le_rfl, le_rfl, le_rfl, le_rfl, le_rfl, le_rfl⟩
  have hadmitted : Admitted idleEnv a (freshManager required) 1000000000 :=
    ⟨⟨required, hreq, hvalid⟩, rfl⟩
  have hconvertible : Convertible (pendingOf idleEnv a (freshManager required)) idleEnv.wallNow
      1000000000 := by
    intro item hitem
    rw [pendingOf, buildPendingPolicyKeys, hbans] at hitem
    cases hitem
  obtain ⟨m', happlied⟩ := run_applyToCurrentMaps_of_fresh rfl hadmitted hconvertible
  exact ⟨m', happlied, (run_apply_of_valid hreq hvalid).trans happlied⟩

/-! ## Bans -/

theorem key_of_tempBanEntry {wallNow : Int} {monotonicNow : U64}
    {item : TempBanKey × XdpTempBan} {entry : TempBanKey × TempBanValue}
    (h : tempBanEntry wallNow monotonicNow item = .ok (some entry)) : entry.1 = item.1 := by
  rw [tempBanEntry] at h
  cases hvalue : tempBanValue item.2 wallNow monotonicNow with
  | error e =>
      rw [hvalue] at h
      cases h
  | ok value =>
      cases value with
      | none =>
          rw [hvalue] at h
          cases h
      | some value =>
          rw [hvalue] at h
          cases h
          rfl

/-- The ban map holds the entries that were written and, of the old ones, those of pending bans for
which nothing was written. -/
theorem mem_tempBans_of_applied_iff (h : (applyToCurrentMaps env a).run m = .ok () m') :
    ∃ monotonicNow, monotonicNowNs env = .ok monotonicNow ∧
      Convertible (pendingOf env a m) env.wallNow monotonicNow ∧
      ∀ entry, entry ∈ m'.maps.tempBans ↔
        entry ∈ (pendingOf env a m).tempBanEntries env.wallNow monotonicNow ∨
          entry ∈ m.maps.tempBans ∧ tempBanKeyId entry.1 ∈ (pendingOf env a m).tempBans.ids ∧
            entry.1.bits ∉ ((pendingOf env a m).tempBanEntries env.wallNow monotonicNow).map
              fun entry => entry.1.bits := by
  obtain ⟨monotonicNow, hadm, hconv, rfl⟩ := applyToCurrentMaps_ok h
  refine ⟨monotonicNow, hadm.clock, hconv, fun entry => ?_⟩
  let items := (pendingTempBans m.localInterfaceCidrs a.tempBans env.wallNow).items
  have hkeys : (((pendingOf env a m).tempBanEntries env.wallNow monotonicNow).map
      Prod.fst).Sublist (items.map Prod.fst) :=
    KeyedStore.map_computed_sublist fun item _ entry hvalue => key_of_tempBanEntry hvalue
  have hnodup : (((pendingOf env a m).tempBanEntries env.wallNow monotonicNow).map
      fun entry => entry.1.bits).Nodup := by
    have hbits := hkeys.map LpmKey.bits
    rw [List.map_map, List.map_map] at hbits
    exact (nodup_pendingTempBans _ _ _).sublist hbits
  have hkept : ∀ written ∈ (pendingOf env a m).tempBanEntries env.wallNow monotonicNow,
      decide (tempBanKeyId written.1 ∈ (pendingOf env a m).tempBans.ids) = true := by
    intro written hwritten
    obtain ⟨item, hitem, hkey⟩ := List.mem_map.mp (hkeys.subset (List.mem_map_of_mem hwritten))
    rw [decide_eq_true_eq, pendingOf, buildPendingPolicyKeys, pendingTempBans_eq,
      Collected.mem_ids_iff_mem_items, ← pendingTempBans_eq]
    exact ⟨item, hitem, congrArg tempBanKeyId hkey⟩
  refine (KeyedStore.mem_retain_setAll hnodup hkept).trans ?_
  rw [decide_eq_true_eq]
  rfl

/-! ## What is pending -/

/-- The same entries and identities are pending. -/
structure SamePending (a b : PendingPolicyKeys) : Prop where
  rules : ∀ entry, entry ∈ a.ruleEntries ↔ entry ∈ b.ruleEntries
  geo : ∀ entry, entry ∈ a.geoEntries ↔ entry ∈ b.geoEntries
  geoIds : a.geoPrefixes.ids = b.geoPrefixes.ids
  trusted : ∀ entry, entry ∈ a.trustedEntries ↔ entry ∈ b.trustedEntries
  trustedIds : a.trustedKeys.ids = b.trustedKeys.ids
  country : ∀ entry, entry ∈ a.countryEntries ↔ entry ∈ b.countryEntries
  customRate : ∀ entry, entry ∈ a.customRateEntries ↔ entry ∈ b.customRateEntries
  customRateIds : a.customRateLimits.ids = b.customRateLimits.ids
  tempBans : ∀ item, item ∈ a.tempBans.items ↔ item ∈ b.tempBans.items
  tempBanIds : a.tempBans.ids = b.tempBans.ids

/-- The same entries in every map. -/
structure SameEntries (a b : PolicyMaps) : Prop extends SameButBans a b where
  tempBans : ∀ entry, entry ∈ a.tempBans ↔ entry ∈ b.tempBans

theorem mem_tempBans_congr (h : (applyToCurrentMaps env a).run m = .ok () m')
    (h' : (applyToCurrentMaps env b).run m = .ok () m'')
    (hitems : ∀ item, item ∈ (pendingOf env a m).tempBans.items ↔
      item ∈ (pendingOf env b m).tempBans.items)
    (hids : (pendingOf env a m).tempBans.ids = (pendingOf env b m).tempBans.ids)
    (entry : TempBanKey × TempBanValue) :
    entry ∈ m'.maps.tempBans ↔ entry ∈ m''.maps.tempBans := by
  obtain ⟨now, hnow, hconv, hmem⟩ := mem_tempBans_of_applied_iff h
  obtain ⟨now', hnow', hconv', hmem'⟩ := mem_tempBans_of_applied_iff h'
  cases hnow.symm.trans hnow'
  have hwritten : ∀ entry, entry ∈ (pendingOf env a m).tempBanEntries env.wallNow now ↔
      entry ∈ (pendingOf env b m).tempBanEntries env.wallNow now := by
    intro entry
    refine (KeyedStore.mem_computed_iff hconv).trans
      (Iff.trans ?_ (KeyedStore.mem_computed_iff hconv').symm)
    simp only [hitems]
  rw [hmem, hmem', hwritten, hids]
  simp only [List.mem_map, hwritten]

/-- Two policies for which the same entries are pending leave the same entries in all maps. -/
theorem sameEntries_of_applied (hdefense : a.dynamicDefense = b.dynamicDefense)
    (hpending : SamePending (pendingOf env a m) (pendingOf env b m))
    (h : (applyToCurrentMaps env a).run m = .ok () m')
    (h' : (applyToCurrentMaps env b).run m = .ok () m'') : SameEntries m'.maps m''.maps where
  rules entry := by
    rw [mem_ruleCidrs_of_applied h, mem_ruleCidrs_of_applied h', hpending.rules]
  geo entry := by
    rw [mem_geoCidrs_of_applied h, mem_geoCidrs_of_applied h', hpending.geo, hpending.geoIds]
  trusted entry := by
    rw [mem_trustedCidrs_of_applied h, mem_trustedCidrs_of_applied h', hpending.trusted,
      hpending.trustedIds]
  country entry := by
    rw [mem_countryRules_of_applied h, mem_countryRules_of_applied h', hpending.country]
  customRate entry := by
    rw [mem_customRateLimits_of_applied h, mem_customRateLimits_of_applied h',
      hpending.customRate, hpending.customRateIds]
  defense := by
    rw [(frame_of_applied h).2.2, (frame_of_applied h').2.2, hdefense]
  tempBans := mem_tempBans_congr h h' hpending.tempBans hpending.tempBanIds

end DataPlane
end XdpFirewall
