import XdpFirewall.DataPlane.ApplyContent

/-!
# ApplyCapacity — when an apply runs out of room

The capacity check compares the new policy with the size of the maps. Stale keys are removed
after the new ones are written, so what has to fit is the old keys and the new ones together. In
empty maps the check is enough.
-/

namespace XdpFirewall
namespace DataPlane

open Net Policy Lib

/-- Old and pending keys of every map fit together. The loops after the one over the bans are
reached when every expiry can be converted. -/
structure FitsBeside (m : LinuxXdpManager) (pending : PendingPolicyKeys) (wallNow : Int)
    (monotonicNow : U64) : Prop where
  tempBans : (m.maps.tempBans.joint (pending.tempBanEntries wallNow monotonicNow)).card ≤
    m.mapSizes.tempBanEntries
  customRate : Convertible pending wallNow monotonicNow →
    (m.maps.customRateLimits.joint pending.customRateEntries).card ≤
      m.mapSizes.customRateLimitEntries
  trusted : Convertible pending wallNow monotonicNow →
    (m.maps.trustedCidrs.joint pending.trustedEntries).card ≤ m.mapSizes.trustedEntries
  rules : Convertible pending wallNow monotonicNow →
    (m.maps.ruleCidrs.joint pending.ruleEntries).card ≤ m.mapSizes.ruleEntries
  geo : Convertible pending wallNow monotonicNow →
    (m.maps.geoCidrs.joint pending.geoEntries).card ≤ m.mapSizes.geoEntries
  country : Convertible pending wallNow monotonicNow →
    (m.maps.countryRules.joint pending.countryEntries).card ≤ m.mapSizes.countryEntries

theorem fitsBeside_iff {m : LinuxXdpManager} {pending : PendingPolicyKeys} {wallNow : Int}
    {monotonicNow : U64} :
    FitsBeside m pending wallNow monotonicNow ↔
      RoomForBans m (pending.tempBanEntries wallNow monotonicNow) ∧
        (Convertible pending wallNow monotonicNow → RoomForRest m pending) := by
  constructor
  · intro h
    refine ⟨?_, fun hconv => ⟨?_, ?_, ?_, ?_, ?_⟩⟩
    · rw [RoomForBans, KeyedStore.size_setAll]
      exact h.tempBans
    · rw [KeyedStore.size_setAll]
      exact h.customRate hconv
    · rw [KeyedStore.size_setAll]
      exact h.trusted hconv
    · rw [KeyedStore.size_setAll]
      exact h.rules hconv
    · rw [KeyedStore.size_setAll]
      exact h.geo hconv
    · rw [KeyedStore.size_setAll]
      exact h.country hconv
  · rintro ⟨hbans, hrest⟩
    rw [RoomForBans, KeyedStore.size_setAll] at hbans
    refine ⟨hbans, ?_, ?_, ?_, ?_, ?_⟩ <;> intro hconv <;> rw [← KeyedStore.size_setAll]
    · exact (hrest hconv).customRate
    · exact (hrest hconv).trusted
    · exact (hrest hconv).rules
    · exact (hrest hconv).geo
    · exact (hrest hconv).country

/-- Writing the pending keys ends with a full map exactly when they do not fit. -/
theorem writePending_endsFull_iff {m : LinuxXdpManager} (hcap : m.WithinCapacity)
    {pending : PendingPolicyKeys} {wallNow : Int} {monotonicNow : U64} :
    EndsFull ((writePending m.mapSizes pending wallNow monotonicNow).run m) ↔
      ¬ FitsBeside m pending wallNow monotonicNow := by
  rw [fitsBeside_iff]
  have hout := run_writePending hcap pending wallNow monotonicNow
  generalize (writePending m.mapSizes pending wallNow monotonicNow).run m = r at hout ⊢
  cases hout with
  | done hconv hbans hrest =>
      constructor
      · rintro ⟨map, m', h⟩
        cases h
      · intro h
        exact absurd ⟨hbans, fun _ => hrest⟩ h
  | overflow m' hconv hbans =>
      constructor
      · rintro ⟨map, m'', h⟩
        cases h
      · intro h
        exact absurd ⟨hbans, fun hc => absurd hc hconv⟩ h
  | full map m' hwhy =>
      constructor
      · rintro - ⟨hbans, hrest⟩
        obtain ⟨hconv, hnot⟩ := hwhy hbans
        exact hnot (hrest hconv)
      · exact fun _ => ⟨map, m', rfl⟩

theorem monotonicNowNs_error {env : ApplyEnv} {e : ApplyError}
    (h : monotonicNowNs env = .error e) : ∃ reason, e = .clock reason := by
  unfold monotonicNowNs at h
  split at h
  · cases h
    exact ⟨_, rfl⟩
  · split at h
    · cases h
      exact ⟨_, rfl⟩
    · split at h
      · cases h
        exact ⟨_, rfl⟩
      · split at h
        · cases h
        · cases h
          exact ⟨_, rfl⟩

/-! ## Empty maps -/

/-- The maps of a fresh attach. -/
def PolicyMaps.fresh (defensePolicy : DefenseValue) : PolicyMaps where
  ruleCidrs := .empty
  geoCidrs := .empty
  trustedCidrs := .empty
  countryRules := .empty
  defensePolicy := defensePolicy
  customRateLimits := .empty
  tempBans := .empty

theorem usizeToU32_ok {map : String} {value n : Nat} (h : usizeToU32 map value = .ok n) :
    n = value := by
  unfold usizeToU32 at h
  split at h
  · cases h
    rfl
  · cases h

theorem requiredPolicyMapSizes_ok {m : LinuxXdpManager} {policy : CompiledPolicy}
    {required : XdpMapSizes} (h : requiredPolicyMapSizes m policy = .ok required) :
    required.ruleEntries = policy.rules.length + policy.threatPrefixes.length ∧
      required.geoEntries = policy.geoPrefixes.length ∧
      required.trustedEntries = (compactTrustedPrefixes policy.trustedPrefixes).length ∧
      required.countryEntries =
        (policy.countryRules.map fun country => country.country).toFinset.card ∧
      required.customRateLimitEntries = policy.dynamicRateLimits.length ∧
      required.tempBanEntries = (compactTempBans policy.tempBans).length := by
  have hbind : ∀ {A B : Type} {x : Except ApplyError A} {f : A → Except ApplyError B} {b : B},
      (x >>= f) = .ok b → ∃ a, x = .ok a ∧ f a = .ok b := by
    intro A B x f b hx
    cases x with
    | ok a => exact ⟨a, rfl, hx⟩
    | error e => cases hx
  unfold requiredPolicyMapSizes at h
  dsimp only at h
  split at h
  · cases h
  obtain ⟨rules, hrules, h⟩ := hbind h
  obtain ⟨geo, hgeo, h⟩ := hbind h
  obtain ⟨trusted, htrusted, h⟩ := hbind h
  obtain ⟨country, hcountry, h⟩ := hbind h
  obtain ⟨custom, hcustom, h⟩ := hbind h
  obtain ⟨bans, hbans, h⟩ := hbind h
  cases h
  exact ⟨usizeToU32_ok hrules, usizeToU32_ok hgeo, usizeToU32_ok htrusted,
    usizeToU32_ok hcountry, usizeToU32_ok hcustom, usizeToU32_ok hbans⟩

/-- Pending countries are pairwise different countries of the policy. -/
theorem length_pendingCountryRules_le (rules : List XdpCountryRule) :
    (pendingCountryRules rules).items.length ≤
      (rules.map fun country => country.country).toFinset.card := by
  have hnodup : ((pendingCountryRules rules).items.map Prod.fst).Nodup :=
    (Collected.collect_sound _ _).nodup
  have hsub : ((pendingCountryRules rules).items.map Prod.fst).toFinset ⊆
      (rules.map fun country => country.country).toFinset.image countryKey := by
    intro key hkey
    obtain ⟨item, hitem, rfl⟩ := List.mem_map.mp (List.mem_toFinset.mp hkey)
    obtain ⟨rule, hrule, rfl⟩ := List.mem_map.mp (Collected.mem_of_mem_items_collect hitem)
    refine Finset.mem_image.mpr ⟨rule.country, ?_, rfl⟩
    exact List.mem_toFinset.mpr (List.mem_map_of_mem hrule)
  calc (pendingCountryRules rules).items.length
      = ((pendingCountryRules rules).items.map Prod.fst).toFinset.card := by
        rw [List.toFinset_card_of_nodup hnodup, List.length_map]
    _ ≤ ((rules.map fun country => country.country).toFinset.image countryKey).card :=
        Finset.card_le_card hsub
    _ ≤ (rules.map fun country => country.country).toFinset.card := Finset.card_image_le

/-- No pending list is longer than the size that was checked for its map. -/
theorem pending_lengths_le {m : LinuxXdpManager} {policy : CompiledPolicy}
    {required : XdpMapSizes} (h : requiredPolicyMapSizes m policy = .ok required)
    (localCidrs : List LocalInterfaceCidr) (wallNow : Int) :
    let pending := buildPendingPolicyKeys localCidrs policy wallNow
    pending.rules.items.length ≤ required.ruleEntries ∧
      pending.geoPrefixes.items.length ≤ required.geoEntries ∧
      pending.trustedKeys.items.length ≤ required.trustedEntries ∧
      pending.countryRules.items.length ≤ required.countryEntries ∧
      pending.customRateLimits.items.length ≤ required.customRateLimitEntries ∧
      pending.tempBans.items.length ≤ required.tempBanEntries := by
  obtain ⟨hrules, hgeo, htrusted, hcountry, hcustom, hbans⟩ := requiredPolicyMapSizes_ok h
  refine ⟨?_, ?_, ?_, ?_, ?_, ?_⟩
  · rw [hrules, buildPendingPolicyKeys, pendingRules_eq]
    calc (Collected.collect (fun item => ruleKeyId item.1) _).items.length
        ≤ ((orderedPolicyRules policy).filterMap (encodeRule? localCidrs)).length :=
          Collected.length_items_collect_le _ _
      _ ≤ (orderedPolicyRules policy).length := List.length_filterMap_le _ _
      _ = policy.rules.length + policy.threatPrefixes.length := by
          rw [orderedPolicyRules, List.length_mergeSort, List.length_append, Nat.add_comm]
  · rw [hgeo]
    exact (Collected.length_items_collect_le _ _).trans_eq (List.length_map _)
  · rw [htrusted]
    exact (Collected.length_items_collect_le _ _).trans_eq (List.length_map _)
  · rw [hcountry]
    exact length_pendingCountryRules_le policy.countryRules
  · rw [hcustom]
    exact (Collected.length_items_collect_le _ _).trans_eq (List.length_map _)
  · rw [hbans, buildPendingPolicyKeys, pendingTempBans_eq]
    exact (Collected.length_items_collect_le _ _).trans (List.length_filterMap_le _ _)

/-- In empty maps a policy that passes the check fits. -/
theorem fitsBeside_of_fresh {m : LinuxXdpManager} {policy : CompiledPolicy}
    {required : XdpMapSizes} {defense : DefenseValue} (hfresh : m.maps = PolicyMaps.fresh defense)
    (hreq : requiredPolicyMapSizes m policy = .ok required)
    (hvalid : validateMapCapacity required m.mapSizes = .ok ())
    (localCidrs : List LocalInterfaceCidr) (wallNow : Int) (monotonicNow : U64) :
    FitsBeside m (buildPendingPolicyKeys localCidrs policy wallNow) wallNow monotonicNow := by
  obtain ⟨hrules, hgeo, htrusted, hcountry, hcustom, hbans⟩ :=
    pending_lengths_le hreq localCidrs wallNow
  obtain ⟨crules, ctrusted, cgeo, ccountry, ccustom, cbans⟩ :=
    validateMapCapacity_ok_iff.mp hvalid
  have hempty : ∀ {K V I : Type} [DecidableEq I] {ident : K → I} (items : List (K × V))
      {needed cap : Nat}, items.length ≤ needed → needed ≤ cap →
        ((KeyedStore.empty : KeyedStore K V ident).joint items).card ≤ cap :=
    fun items _ _ hle hcap => ((KeyedStore.card_joint_empty_le items).trans hle).trans hcap
  rw [← List.length_map ruleEntry] at hrules
  rw [← List.length_map geoEntry] at hgeo
  rw [← List.length_map trustedEntry] at htrusted
  rw [← List.length_map countryEntry] at hcountry
  rw [← List.length_map customRateEntry] at hcustom
  constructor
  · rw [hfresh]
    exact hempty _ ((KeyedStore.length_computed_le _ _).trans hbans) cbans
  · intro _
    rw [hfresh]
    exact hempty _ hcustom ccustom
  · intro _
    rw [hfresh]
    exact hempty _ htrusted ctrusted
  · intro _
    rw [hfresh]
    exact hempty _ hrules crules
  · intro _
    rw [hfresh]
    exact hempty _ hgeo cgeo
  · intro _
    rw [hfresh]
    exact hempty _ hcountry ccountry

/-- A policy that fits beside the old keys can be applied, unless a ban's expiry overflows. -/
theorem run_applyToCurrentMaps_of_fits {env : ApplyEnv} {m : LinuxXdpManager}
    {policy : CompiledPolicy} {monotonicNow : U64} (hcap : m.WithinCapacity)
    (hadm : Admitted env policy m monotonicNow)
    (hconv : Convertible (pendingOf env policy m) env.wallNow monotonicNow)
    (hfits : FitsBeside m (pendingOf env policy m) env.wallNow monotonicNow) :
    ∃ m', (applyToCurrentMaps env policy).run m = .ok () m' := by
  have hcap' : (withDefense m policy).WithinCapacity :=
    ⟨hcap.rules, hcap.geo, hcap.trusted, hcap.country, hcap.customRate, hcap.tempBans⟩
  obtain ⟨hbans, hrest⟩ := fitsBeside_iff.mp hfits
  have hout := run_writePending hcap' (pendingOf env policy m) env.wallNow monotonicNow
  rw [run_applyToCurrentMaps_of_admitted hadm]
  change WriteOutcome _ _ _ _ ((writePending m.mapSizes (pendingOf env policy m) env.wallNow
    monotonicNow).run (withDefense m policy)) at hout
  change ∃ m', (writePending m.mapSizes (pendingOf env policy m) env.wallNow monotonicNow).run
    (withDefense m policy) = .ok () m'
  generalize (writePending m.mapSizes (pendingOf env policy m) env.wallNow monotonicNow).run
    (withDefense m policy) = r at hout ⊢
  cases hout with
  | done _ _ _ => exact ⟨_, rfl⟩
  | overflow m' hnot _ => exact absurd hconv hnot
  | full map m' hwhy =>
      have hroom := hrest hconv
      exact absurd ⟨hroom.customRate, hroom.trusted, hroom.rules, hroom.geo, hroom.country⟩
        (hwhy hbans).2

theorem withinCapacity_of_fresh {m : LinuxXdpManager} {defense : DefenseValue}
    (hfresh : m.maps = PolicyMaps.fresh defense) : m.WithinCapacity := by
  constructor <;> simp [hfresh, PolicyMaps.fresh, KeyedStore.size, KeyedStore.empty]

/-- A policy that passes the check can be applied to empty maps, unless a ban's expiry overflows. -/
theorem run_applyToCurrentMaps_of_fresh {env : ApplyEnv} {m : LinuxXdpManager}
    {policy : CompiledPolicy} {defense : DefenseValue} {monotonicNow : U64}
    (hfresh : m.maps = PolicyMaps.fresh defense) (hadm : Admitted env policy m monotonicNow)
    (hconv : Convertible (pendingOf env policy m) env.wallNow monotonicNow) :
    ∃ m', (applyToCurrentMaps env policy).run m = .ok () m' := by
  obtain ⟨required, hreq, hvalid⟩ := hadm.sizes
  exact run_applyToCurrentMaps_of_fits (withinCapacity_of_fresh hfresh) hadm hconv
    (fitsBeside_of_fresh hfresh hreq hvalid m.localInterfaceCidrs env.wallNow monotonicNow)

/-- An operating system that has been up for a second and cannot attach again. -/
def idleEnv : ApplyEnv where
  wallNow := 0
  clockGettime := some (1, 0)
  attach _ _ := .error "no attach"

/-- A manager that has just created its maps, on an interface without addresses. -/
def emptyManager : LinuxXdpManager where
  maps := PolicyMaps.fresh (defenseValue XdpDynamicDefense.default)
  mapSizes :=
    { ruleEntries := 16
      geoEntries := 16
      trustedEntries := 16
      countryEntries := 16
      rateEntries := 16
      customRateLimitEntries := 16
      tempBanEntries := 16 }
  localInterfaceCidrs := []
  autoResizeMaps := false

/-! ## The check and the old keys -/

/-- After the capacity check has passed, an apply never finds a map full exactly when the old and
the pending keys fit together, whatever the clock shows. -/
theorem applyToCurrentMaps_not_endsFull_iff {env : ApplyEnv} {policy : CompiledPolicy}
    {m : LinuxXdpManager} {required : XdpMapSizes} (hcap : m.WithinCapacity)
    (hreq : requiredPolicyMapSizes m policy = .ok required)
    (hvalid : validateMapCapacity required m.mapSizes = .ok ()) :
    ¬ EndsFull ((applyToCurrentMaps env policy).run m) ↔
      ∀ monotonicNow, monotonicNowNs env = .ok monotonicNow →
        FitsBeside m (pendingOf env policy m) env.wallNow monotonicNow := by
  cases hclock : monotonicNowNs env with
  | error e =>
      have hnot : ∀ monotonicNow, ¬ Admitted env policy m monotonicNow := by
        intro monotonicNow hadm
        have := hadm.clock
        rw [hclock] at this
        cases this
      obtain ⟨e', m', hrun, hwhy⟩ := run_applyToCurrentMaps_of_not_admitted hnot
      have hnow : ∀ monotonicNow, (.error e : Except ApplyError U64) = .ok monotonicNow →
          FitsBeside m (pendingOf env policy m) env.wallNow monotonicNow := by
        intro monotonicNow h
        cases h
      refine iff_of_true ?_ hnow
      rintro ⟨map, m'', hfull⟩
      rw [hrun] at hfull
      cases hfull
      rcases hwhy with h | ⟨required', h⟩ | h
      · rw [hreq] at h
        cases h
      · obtain ⟨name, needed, available, hcapacity, -⟩ := validateMapCapacity_error h
        cases hcapacity
      · obtain ⟨reason, hreason⟩ := monotonicNowNs_error h
        cases hreason
  | ok monotonicNow =>
      have hadm : Admitted env policy m monotonicNow := ⟨⟨required, hreq, hvalid⟩, hclock⟩
      have hcap' : (withDefense m policy).WithinCapacity :=
        ⟨hcap.rules, hcap.geo, hcap.trusted, hcap.country, hcap.customRate, hcap.tempBans⟩
      have hfits : FitsBeside (withDefense m policy) (pendingOf env policy m) env.wallNow
          monotonicNow ↔ FitsBeside m (pendingOf env policy m) env.wallNow monotonicNow :=
        ⟨fun h => ⟨h.tempBans, h.customRate, h.trusted, h.rules, h.geo, h.country⟩,
          fun h => ⟨h.tempBans, h.customRate, h.trusted, h.rules, h.geo, h.country⟩⟩
      have hends : EndsFull ((applyToCurrentMaps env policy).run m) ↔
          ¬ FitsBeside (withDefense m policy) (pendingOf env policy m) env.wallNow
            monotonicNow := by
        rw [run_applyToCurrentMaps_of_admitted hadm]
        exact writePending_endsFull_iff hcap'
      rw [hends, hfits, not_not]
      constructor
      · rintro h now hnow
        cases hnow
        exact h
      · exact fun h => h monotonicNow rfl

/-- Room for one country, which another country of an earlier policy takes up. -/
def oneCountryManager : LinuxXdpManager where
  maps :=
    { PolicyMaps.fresh (defenseValue XdpDynamicDefense.default) with
      countryRules := KeyedStore.empty.set 0x5553 { action := actionDeny } }
  mapSizes :=
    { ruleEntries := 1
      geoEntries := 1
      trustedEntries := 1
      countryEntries := 1
      rateEntries := 1
      customRateLimitEntries := 1
      tempBanEntries := 1 }
  localInterfaceCidrs := []
  autoResizeMaps := false

def oneCountryPolicy : CompiledPolicy :=
  { CompiledPolicy.unloaded 1 with countryRules := [{ country := 0x434E, action := .deny }] }

theorem applyToCurrentMaps_not_endsFull_iff_oneCountry :
    ¬ EndsFull ((applyToCurrentMaps idleEnv oneCountryPolicy).run oneCountryManager) ↔
      ∀ monotonicNow, monotonicNowNs idleEnv = .ok monotonicNow →
        FitsBeside oneCountryManager (pendingOf idleEnv oneCountryPolicy oneCountryManager)
          idleEnv.wallNow monotonicNow :=
  applyToCurrentMaps_not_endsFull_iff (by constructor <;> decide) (by rfl) (by rfl)

/-- The check passes and the maps are within their capacities, yet the apply finds a map full: the
old country is still there when the new one is written. -/
theorem oneCountry_endsFull :
    oneCountryManager.WithinCapacity ∧
      (∃ required, requiredPolicyMapSizes oneCountryManager oneCountryPolicy = .ok required ∧
        validateMapCapacity required oneCountryManager.mapSizes = .ok ()) ∧
      EndsFull ((applyToCurrentMaps idleEnv oneCountryPolicy).run oneCountryManager) := by
  have hcap : oneCountryManager.WithinCapacity := by constructor <;> decide
  have hsizes : ∃ required,
      requiredPolicyMapSizes oneCountryManager oneCountryPolicy = .ok required ∧
        validateMapCapacity required oneCountryManager.mapSizes = .ok () := ⟨_, rfl, rfl⟩
  have hclock : monotonicNowNs idleEnv = .ok 1000000000 := rfl
  have hcap' : (withDefense oneCountryManager oneCountryPolicy).WithinCapacity :=
    ⟨hcap.rules, hcap.geo, hcap.trusted, hcap.country, hcap.customRate, hcap.tempBans⟩
  refine ⟨hcap, hsizes, ?_⟩
  rw [run_applyToCurrentMaps_of_admitted ⟨hsizes, hclock⟩]
  refine (writePending_endsFull_iff hcap').mpr ?_
  intro hfits
  have hconv : Convertible (pendingOf idleEnv oneCountryPolicy oneCountryManager) idleEnv.wallNow
      1000000000 := by
    intro item hitem
    cases hitem
  -- Two countries do not fit a map for one.
  have hcountry := hfits.country hconv
  revert hcountry
  decide

end DataPlane
end XdpFirewall
