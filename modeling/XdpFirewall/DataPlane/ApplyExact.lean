import XdpFirewall.DataPlane.ApplyCapacity

/-!
# ApplyExact — an apply as a function of the policy

A successful apply leaves the pending entries in every map. The keys of geo prefixes, trusted
prefixes and custom limits have padding that user space does not look at: of the old keys, those
that differ from a pending key in the padding alone stay. A second apply changes nothing but the
conversion of the bans' expiries.
-/

namespace XdpFirewall
namespace DataPlane

open Net Policy Lib

/-! ## Content -/

/-- The maps hold the pending entries, and of the `old` entries those whose key has the identity
of a pending key and a padding other than the one the program writes. -/
structure HoldsPending (maps old : PolicyMaps) (pending : PendingPolicyKeys) (wallNow : Int)
    (monotonicNow : U64) : Prop where
  rules : ∀ entry, entry ∈ maps.ruleCidrs ↔ entry ∈ pending.ruleEntries
  geo : ∀ entry, entry ∈ maps.geoCidrs ↔
    entry ∈ pending.geoEntries ∨
      entry ∈ old.geoCidrs ∧ entry.1.data.pad ≠ zeroPad ∧
        geoKeyId entry.1 ∈ pending.geoPrefixes.ids
  trusted : ∀ entry, entry ∈ maps.trustedCidrs ↔
    entry ∈ pending.trustedEntries ∨
      entry ∈ old.trustedCidrs ∧ entry.1.data.pad ≠ zeroPad ∧
        trustedKeyId entry.1 ∈ pending.trustedKeys.ids
  country : ∀ entry, entry ∈ maps.countryRules ↔ entry ∈ pending.countryEntries
  customRate : ∀ entry, entry ∈ maps.customRateLimits ↔
    entry ∈ pending.customRateEntries ∨
      entry ∈ old.customRateLimits ∧ entry.1.pad ≠ 0 ∧
        customRateKeyId entry.1 ∈ pending.customRateLimits.ids
  tempBans : ∀ entry, entry ∈ maps.tempBans ↔
    entry ∈ pending.tempBans.items.map (banEntry wallNow monotonicNow)

/-- The same entries in every map but that of the bans. -/
structure SameButBans (a b : PolicyMaps) : Prop where
  rules : ∀ entry, entry ∈ a.ruleCidrs ↔ entry ∈ b.ruleCidrs
  geo : ∀ entry, entry ∈ a.geoCidrs ↔ entry ∈ b.geoCidrs
  trusted : ∀ entry, entry ∈ a.trustedCidrs ↔ entry ∈ b.trustedCidrs
  country : ∀ entry, entry ∈ a.countryRules ↔ entry ∈ b.countryRules
  customRate : ∀ entry, entry ∈ a.customRateLimits ↔ entry ∈ b.customRateLimits
  defense : a.defensePolicy = b.defensePolicy

variable {env env' : ApplyEnv} {policy : CompiledPolicy} {m m' m'' : LinuxXdpManager}

theorem holdsPending_of_applied (hrange : ExpiresInRange policy env.wallNow)
    (h : (applyToCurrentMaps env policy).run m = .ok () m') :
    ∃ monotonicNow, monotonicNowNs env = .ok monotonicNow ∧
      HoldsPending m'.maps m.maps (pendingOf env policy m) env.wallNow monotonicNow := by
  obtain ⟨monotonicNow, hclock, hbans⟩ := mem_tempBans_of_applied hrange h
  refine ⟨monotonicNow, hclock, ?_⟩
  constructor
  · exact fun entry => mem_ruleCidrs_of_applied h
  · exact fun entry => mem_geoCidrs_of_applied h
  · exact fun entry => mem_trustedCidrs_of_applied h
  · exact fun entry => mem_countryRules_of_applied h
  · exact fun entry => mem_customRateLimits_of_applied h
  · exact hbans

/-- What an apply does not touch. -/
theorem frame_of_applied (h : (applyToCurrentMaps env policy).run m = .ok () m') :
    m'.mapSizes = m.mapSizes ∧ m'.localInterfaceCidrs = m.localInterfaceCidrs ∧
      m'.maps.defensePolicy = defenseValue policy.dynamicDefense := by
  obtain ⟨monotonicNow, -, -, rfl⟩ := applyToCurrentMaps_ok h
  exact ⟨rfl, rfl, rfl⟩

/-! ## The second apply -/

theorem or_and_absorb {new old fits : Prop} :
    new ∨ (new ∨ old ∧ fits) ∧ fits ↔ new ∨ old ∧ fits := by
  tauto

theorem sameButBans_of_applied_again (h : (applyToCurrentMaps env policy).run m = .ok () m')
    (h' : (applyToCurrentMaps env' policy).run m' = .ok () m'') :
    SameButBans m''.maps m'.maps := by
  obtain ⟨-, hlocal, hdefense⟩ := frame_of_applied h
  obtain ⟨-, -, hdefense'⟩ := frame_of_applied h'
  have hpending : pendingOf env' policy m' =
      buildPendingPolicyKeys m.localInterfaceCidrs policy env'.wallNow := by
    rw [pendingOf, hlocal]
  constructor
  · intro entry
    rw [mem_ruleCidrs_of_applied h', mem_ruleCidrs_of_applied h, hpending]
    rfl
  · intro entry
    rw [mem_geoCidrs_of_applied h', mem_geoCidrs_of_applied h, hpending]
    exact or_and_absorb
  · intro entry
    rw [mem_trustedCidrs_of_applied h', mem_trustedCidrs_of_applied h, hpending]
    exact or_and_absorb
  · intro entry
    rw [mem_countryRules_of_applied h', mem_countryRules_of_applied h, hpending]
    rfl
  · intro entry
    rw [mem_customRateLimits_of_applied h', mem_customRateLimits_of_applied h, hpending]
    exact or_and_absorb
  · rw [hdefense, hdefense']

/-- With the same clocks the bans stay the same as well. -/
theorem tempBans_of_applied_again (hrange : ExpiresInRange policy env.wallNow)
    (h : (applyToCurrentMaps env policy).run m = .ok () m')
    (h' : (applyToCurrentMaps env' policy).run m' = .ok () m'')
    (hwall : env'.wallNow = env.wallNow) (hclock : env'.clockGettime = env.clockGettime)
    (entry : TempBanKey × TempBanValue) :
    entry ∈ m''.maps.tempBans ↔ entry ∈ m'.maps.tempBans := by
  obtain ⟨now, hnow, hbans⟩ := mem_tempBans_of_applied hrange h
  obtain ⟨now', hnow', hbans'⟩ := mem_tempBans_of_applied (hwall ▸ hrange) h'
  obtain ⟨-, hlocal, -⟩ := frame_of_applied h
  have hsame : monotonicNowNs env' = monotonicNowNs env := by
    rw [monotonicNowNs, monotonicNowNs, hclock]
  rw [hsame, hnow] at hnow'
  cases hnow'
  rw [hbans, hbans', pendingOf, pendingOf, hlocal, hwall]

theorem withinCapacity_of_applied (hcap : m.WithinCapacity)
    (h : (applyToCurrentMaps env policy).run m = .ok () m') : m'.WithinCapacity := by
  obtain ⟨monotonicNow, hadm, -, -⟩ := applyToCurrentMaps_ok h
  have hcap' : (withDefense m policy).WithinCapacity :=
    ⟨hcap.rules, hcap.geo, hcap.trusted, hcap.country, hcap.customRate, hcap.tempBans⟩
  rw [run_applyToCurrentMaps_of_admitted hadm] at h
  have hout := run_writePending hcap' (pendingOf env policy m) env.wallNow monotonicNow
  have hrun : (writePending (withDefense m policy).mapSizes (pendingOf env policy m) env.wallNow
    monotonicNow).run (withDefense m policy) = .ok () m' := h
  rw [hrun] at hout
  cases hout with
  | done _ hbans hrest =>
      constructor
      · exact (KeyedStore.size_retain_le _ _).trans hrest.rules
      · exact (KeyedStore.size_retain_le _ _).trans hrest.geo
      · exact (KeyedStore.size_retain_le _ _).trans hrest.trusted
      · exact (KeyedStore.size_retain_le _ _).trans hrest.country
      · exact (KeyedStore.size_retain_le _ _).trans hrest.customRate
      · exact (KeyedStore.size_retain_le _ _).trans hbans

/-- A second apply finds room: all its keys are there. -/
theorem exists_applied_again (hrange : ExpiresInRange policy env.wallNow)
    (hcap : m.WithinCapacity) (h : (applyToCurrentMaps env policy).run m = .ok () m') :
    ∃ m'', (applyToCurrentMaps env policy).run m' = .ok () m'' := by
  obtain ⟨now, hadm, hconv, -⟩ := applyToCurrentMaps_ok h
  obtain ⟨now', hclock, hholds⟩ := holdsPending_of_applied hrange h
  obtain ⟨hsizes, hlocal, -⟩ := frame_of_applied h
  obtain rfl : now = now' := by
    have hsame := hadm.clock.symm.trans hclock
    cases hsame
    rfl
  have hcap' := withinCapacity_of_applied hcap h
  have hpending : pendingOf env policy m' = pendingOf env policy m := by
    rw [pendingOf, pendingOf, hlocal]
  have hadm' : Admitted env policy m' now := by
    obtain ⟨required, hreq, hvalid⟩ := hadm.sizes
    refine ⟨⟨required, ?_, by rw [hsizes]; exact hvalid⟩, hadm.clock⟩
    rw [requiredPolicyMapSizes, hsizes]
    exact hreq
  refine run_applyToCurrentMaps_of_fits hcap' hadm' (hpending ▸ hconv) ?_
  rw [hpending]
  constructor
  · rw [pendingOf, tempBanEntries_eq hrange hconv, KeyedStore.card_joint_of_held]
    · exact hcap'.tempBans
    · exact fun entry hentry => (hholds.tempBans entry).mpr hentry
  · rw [KeyedStore.card_joint_of_held fun entry he => (hholds.customRate entry).mpr (Or.inl he)]
    exact fun _ => hcap'.customRate
  · rw [KeyedStore.card_joint_of_held fun entry he => (hholds.trusted entry).mpr (Or.inl he)]
    exact fun _ => hcap'.trusted
  · rw [KeyedStore.card_joint_of_held fun entry he => (hholds.rules entry).mpr he]
    exact fun _ => hcap'.rules
  · rw [KeyedStore.card_joint_of_held fun entry he => (hholds.geo entry).mpr (Or.inl he)]
    exact fun _ => hcap'.geo
  · rw [KeyedStore.card_joint_of_held fun entry he => (hholds.country entry).mpr he]
    exact fun _ => hcap'.country

/-! ## Both together -/

/-- A successful apply leaves what the policy asks for and the keys that differ from it in their
padding. A second one can be made, and changes nothing but the conversion of expiries. -/
theorem applyToCurrentMaps_exact (hrange : ExpiresInRange policy env.wallNow)
    (h : (applyToCurrentMaps env policy).run m = .ok () m') :
    (∃ monotonicNow, monotonicNowNs env = .ok monotonicNow ∧
      HoldsPending m'.maps m.maps (pendingOf env policy m) env.wallNow monotonicNow) ∧
    (∀ env' m'', (applyToCurrentMaps env' policy).run m' = .ok () m'' →
      SameButBans m''.maps m'.maps ∧
        (env'.wallNow = env.wallNow → env'.clockGettime = env.clockGettime →
          ∀ entry, entry ∈ m''.maps.tempBans ↔ entry ∈ m'.maps.tempBans)) ∧
    (m.WithinCapacity → ∃ m'', (applyToCurrentMaps env policy).run m' = .ok () m'') :=
  ⟨holdsPending_of_applied hrange h,
    fun _ _ h' => ⟨sameButBans_of_applied_again h h', tempBans_of_applied_again hrange h h'⟩,
    fun hcap => exists_applied_again hrange hcap h⟩

/-- A key of another writer for the limit of `oneLimitPolicy`, with its padding set. -/
def strayKey : CustomRateKey where
  proto := protoTcp
  pad := 1
  dport := toBe 443

/-- Maps in which another writer has left one limit. -/
def strayManager : LinuxXdpManager where
  maps :=
    { PolicyMaps.fresh (defenseValue XdpDynamicDefense.default) with
      customRateLimits := KeyedStore.empty.set strayKey { packetsPerSecond := 7, burst := 7 } }
  mapSizes :=
    { ruleEntries := 4
      geoEntries := 4
      trustedEntries := 4
      countryEntries := 4
      rateEntries := 4
      customRateLimitEntries := 4
      tempBanEntries := 4 }
  localInterfaceCidrs := []
  autoResizeMaps := false

def oneLimitPolicy : CompiledPolicy :=
  { CompiledPolicy.unloaded 1 with
    dynamicRateLimits := [{ protocol := .tcp, port := 443, packetsPerSecond := 10, burst := 20 }] }

theorem expiresInRange_oneLimit : ExpiresInRange oneLimitPolicy idleEnv.wallNow := by
  intro ban hban
  cases hban

theorem applyToCurrentMaps_oneLimit :
    ∃ m', (applyToCurrentMaps idleEnv oneLimitPolicy).run strayManager = .ok () m' := by
  have hadm : Admitted idleEnv oneLimitPolicy strayManager 1000000000 := ⟨⟨_, rfl, rfl⟩, rfl⟩
  refine run_applyToCurrentMaps_of_fits (by constructor <;> decide) hadm ?_ ?_
  · intro item hitem
    cases hitem
  · have hrules : (pendingOf idleEnv oneLimitPolicy strayManager).ruleEntries = [] := by
      simp [pendingOf, buildPendingPolicyKeys, pendingRules, orderedPolicyRules, oneLimitPolicy,
        CompiledPolicy.unloaded, PendingPolicyKeys.ruleEntries, Collected.empty]
    constructor
    case tempBans => decide
    case rules =>
      rw [hrules]
      exact fun _ => by decide
    all_goals exact fun _ => by decide

theorem applyToCurrentMaps_exact_oneLimit :
    ∃ m', (applyToCurrentMaps idleEnv oneLimitPolicy).run strayManager = .ok () m' ∧
      (∃ monotonicNow, monotonicNowNs idleEnv = .ok monotonicNow ∧
        HoldsPending m'.maps strayManager.maps (pendingOf idleEnv oneLimitPolicy strayManager)
          idleEnv.wallNow monotonicNow) ∧
      (∀ env' m'', (applyToCurrentMaps env' oneLimitPolicy).run m' = .ok () m'' →
        SameButBans m''.maps m'.maps ∧
          (env'.wallNow = idleEnv.wallNow → env'.clockGettime = idleEnv.clockGettime →
            ∀ entry, entry ∈ m''.maps.tempBans ↔ entry ∈ m'.maps.tempBans)) ∧
      (strayManager.WithinCapacity →
        ∃ m'', (applyToCurrentMaps idleEnv oneLimitPolicy).run m' = .ok () m'') := by
  obtain ⟨m', hrun⟩ := applyToCurrentMaps_oneLimit
  exact ⟨m', hrun, applyToCurrentMaps_exact expiresInRange_oneLimit hrun⟩

/-- The stray limit is not pending and yet survives a successful apply. -/
theorem stray_survives :
    ∃ m' entry, (applyToCurrentMaps idleEnv oneLimitPolicy).run strayManager = .ok () m' ∧
      entry ∈ m'.maps.customRateLimits ∧
      entry ∉ (pendingOf idleEnv oneLimitPolicy strayManager).customRateEntries := by
  obtain ⟨m', hrun⟩ := applyToCurrentMaps_oneLimit
  refine ⟨m', (strayKey, { packetsPerSecond := 7, burst := 7 }), hrun, ?_, by decide⟩
  rw [mem_customRateLimits_of_applied hrun]
  exact Or.inr ⟨KeyedStore.mem_entries.mp (by decide), by decide, by decide⟩

end DataPlane
end XdpFirewall
