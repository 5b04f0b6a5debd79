import XdpFirewall.DataPlane.ApplyCapacity
import XdpFirewall.Lib.Guard

/-!
# GuardedApply — an apply whose map operations the kernel can refuse

Every insertion, removal and write of an apply is a system call of its own, and any of them can
fail. The apply then stops and leaves the maps as they are at that moment.
-/

namespace XdpFirewall
namespace DataPlane

open Net Policy Lib

abbrev GuardedApply := Guarded ApplyError LinuxXdpManager

/-! ## Writing and removing -/

def guardedPutTempBanKey (sizes : XdpMapSizes) (key : TempBanKey) (ban : XdpTempBan)
    (wallNow : Int) (monotonicNow : U64) : GuardedApply Unit :=
  match tempBanValue ban wallNow monotonicNow with
  | .error e => throw (.error e)
  | .ok none => pure ()
  | .ok (some value) =>
      attempt (focus LinuxXdpManager.tempBans
        (KeyedStore.put (.mapFull "temp_bans") sizes.tempBanEntries key value))

/-- List the keys of a map, then remove those that are not wanted, one by one. -/
def guardedSweep {K V I : Type} [DecidableEq I] {ident : K → I}
    (part : Part LinuxXdpManager (KeyedStore K V ident)) (missing : ApplyError)
    (keep : K → Bool) : GuardedApply Unit := do
  let m ← unguarded get
  forM (part.get m).keys fun key =>
    if keep key then pure () else attempt (focus part (KeyedStore.remove missing key))

def guardedRemoveStalePolicyKeys (pending : PendingPolicyKeys) : GuardedApply Unit := do
  guardedSweep LinuxXdpManager.ruleCidrs (.keyNotFound "rule_cidrs")
    fun key => ruleKeyId key ∈ pending.rules.ids
  guardedSweep LinuxXdpManager.geoCidrs (.keyNotFound "geo_cidrs")
    fun key => geoKeyId key ∈ pending.geoPrefixes.ids
  guardedSweep LinuxXdpManager.trustedCidrs (.keyNotFound "trusted_cidrs")
    fun key => trustedKeyId key ∈ pending.trustedKeys.ids
  guardedSweep LinuxXdpManager.countryRules (.keyNotFound "country_rules")
    fun key => key ∈ pending.countryRules.ids
  guardedSweep LinuxXdpManager.customRateLimits (.keyNotFound "custom_rate_limits")
    fun key => customRateKeyId key ∈ pending.customRateLimits.ids
  guardedSweep LinuxXdpManager.tempBans (.keyNotFound "temp_bans")
    fun key => tempBanKeyId key ∈ pending.tempBans.ids

def guardedWriteBans (sizes : XdpMapSizes) (pending : PendingPolicyKeys) (wallNow : Int)
    (monotonicNow : U64) : GuardedApply Unit :=
  forM pending.tempBans.items fun item =>
    guardedPutTempBanKey sizes item.1 item.2 wallNow monotonicNow

def guardedWriteRest (sizes : XdpMapSizes) (pending : PendingPolicyKeys) : GuardedApply Unit := do
  forM pending.customRateLimits.items fun item => attempt (putCustomRateKey sizes item.1 item.2)
  forM pending.trustedKeys.items fun key => attempt (putTrustedKey sizes key)
  forM pending.rules.items fun item => attempt (putRuleKey sizes item.1 item.2)
  forM pending.geoPrefixes.items fun item => attempt (putGeoKey sizes item.1 item.2)
  forM pending.countryRules.items fun item => attempt (putCountryKey sizes item.1 item.2)
  guardedRemoveStalePolicyKeys pending

/-- `apply_to_current_maps` with an operation of the kernel behind every write. -/
def guardedApplyToCurrentMaps (env : ApplyEnv) (policy : CompiledPolicy) : GuardedApply Unit := do
  let m ← unguarded get
  let required ← unguarded (ofExcept (requiredPolicyMapSizes m policy))
  unguarded (ofExcept (validateMapCapacity required m.mapSizes))
  attempt (putDynamicDefense policy.dynamicDefense)
  let monotonicNow ← unguarded (ofExcept (monotonicNowNs env))
  let pending := buildPendingPolicyKeys m.localInterfaceCidrs policy env.wallNow
  guardedWriteBans m.mapSizes pending env.wallNow monotonicNow
  guardedWriteRest m.mapSizes pending

/-! ## What the guard leaves as it is -/

theorem guards_guardedPutTempBanKey (sizes : XdpMapSizes) (key : TempBanKey) (ban : XdpTempBan)
    (wallNow : Int) (monotonicNow : U64) :
    Guards (guardedPutTempBanKey sizes key ban wallNow monotonicNow)
      (putTempBanKey sizes key ban wallNow monotonicNow) := by
  unfold guardedPutTempBanKey putTempBanKey
  cases tempBanValue ban wallNow monotonicNow with
  | error e => exact guards_throw e
  | ok value =>
      cases value with
      | none => exact guards_pure ()
      | some value => exact guards_attempt _

section Sweep

variable {K V I : Type} [DecidableEq I] {ident : K → I}

theorem focus_sweep (part : Part LinuxXdpManager (KeyedStore K V ident)) (missing : ApplyError)
    (keep : K → Bool) :
    focus part (KeyedStore.sweep missing keep) =
      (do
        let m ← get
        forM (part.get m).keys fun key =>
          if keep key then pure () else focus part (KeyedStore.remove missing key)) := by
  funext m
  have hkey (key : K) :
      (if keep key then pure () else focus part (KeyedStore.remove missing key) :
        Apply Unit) =
        focus part (if keep key then pure () else KeyedStore.remove missing key) := by
    cases keep key with
    | true => exact (focus_pure part ()).symm
    | false => rfl
  have hloop : (forM (part.get m).keys fun key =>
      if keep key then pure () else focus part (KeyedStore.remove missing key) : Apply Unit) =
      focus part (forM (part.get m).keys fun key =>
        if keep key then pure () else KeyedStore.remove missing key) := by
    rw [← forM_focus]
    exact congrArg (forM (part.get m).keys) (funext hkey)
  exact congrArg (fun x : Apply Unit => x.run m) hloop.symm

theorem guards_guardedSweep (part : Part LinuxXdpManager (KeyedStore K V ident))
    (missing : ApplyError) (keep : K → Bool) :
    Guards (guardedSweep part missing keep) (focus part (KeyedStore.sweep missing keep)) := by
  rw [focus_sweep]
  refine (guards_unguarded get).bind fun m => guards_forM _ fun key _ => ?_
  cases keep key with
  | true => exact guards_pure ()
  | false => exact guards_attempt _

theorem rests_guardedSweep (part : Part LinuxXdpManager (KeyedStore K V ident))
    (missing : ApplyError) (keep : K → Bool) : Rests (guardedSweep part missing keep) := by
  refine rests_get.bind fun m => rests_forM _ fun key _ => ?_
  cases keep key with
  | true => exact rests_pure ()
  | false => exact rests_attempt _

end Sweep

theorem guards_guardedWriteBans (sizes : XdpMapSizes) (pending : PendingPolicyKeys)
    (wallNow : Int) (monotonicNow : U64) :
    Guards (guardedWriteBans sizes pending wallNow monotonicNow)
      (forM pending.tempBans.items fun item =>
        putTempBanKey sizes item.1 item.2 wallNow monotonicNow) :=
  guards_forM _ fun _ _ => guards_guardedPutTempBanKey _ _ _ _ _

theorem guards_guardedWriteRest (sizes : XdpMapSizes) (pending : PendingPolicyKeys) :
    Guards (guardedWriteRest sizes pending) (writeRest sizes pending) := by
  refine (guards_forM _ fun _ _ => guards_attempt _).bind fun _ => ?_
  refine (guards_forM _ fun _ _ => guards_attempt _).bind fun _ => ?_
  refine (guards_forM _ fun _ _ => guards_attempt _).bind fun _ => ?_
  refine (guards_forM _ fun _ _ => guards_attempt _).bind fun _ => ?_
  refine (guards_forM _ fun _ _ => guards_attempt _).bind fun _ => ?_
  refine (guards_guardedSweep _ _ _).bind fun _ => ?_
  refine (guards_guardedSweep _ _ _).bind fun _ => ?_
  refine (guards_guardedSweep _ _ _).bind fun _ => ?_
  refine (guards_guardedSweep _ _ _).bind fun _ => ?_
  refine (guards_guardedSweep _ _ _).bind fun _ => ?_
  exact guards_guardedSweep _ _ _

/-- When no operation is refused, this is the apply of the maps. -/
theorem guards_guardedApplyToCurrentMaps (env : ApplyEnv) (policy : CompiledPolicy) :
    Guards (guardedApplyToCurrentMaps env policy) (applyToCurrentMaps env policy) := by
  refine (guards_unguarded _).bind fun m => ?_
  refine (guards_unguarded _).bind fun required => ?_
  refine (guards_unguarded _).bind fun _ => ?_
  refine (guards_attempt _).bind fun _ => ?_
  refine (guards_unguarded _).bind fun monotonicNow => ?_
  exact (guards_guardedWriteBans _ _ _ _).bind fun _ => guards_guardedWriteRest _ _

/-! ## When nothing is granted any more -/

theorem rests_guardedWriteBans (sizes : XdpMapSizes) (pending : PendingPolicyKeys)
    (wallNow : Int) (monotonicNow : U64) :
    Rests (guardedWriteBans sizes pending wallNow monotonicNow) := by
  refine rests_forM _ fun item _ => ?_
  unfold guardedPutTempBanKey
  cases tempBanValue item.2 wallNow monotonicNow with
  | error e => exact rests_throw _
  | ok value =>
      cases value with
      | none => exact rests_pure ()
      | some value => exact rests_attempt _

theorem rests_guardedWriteRest (sizes : XdpMapSizes) (pending : PendingPolicyKeys) :
    Rests (guardedWriteRest sizes pending) := by
  refine (rests_forM _ fun _ _ => rests_attempt _).bind fun _ => ?_
  refine (rests_forM _ fun _ _ => rests_attempt _).bind fun _ => ?_
  refine (rests_forM _ fun _ _ => rests_attempt _).bind fun _ => ?_
  refine (rests_forM _ fun _ _ => rests_attempt _).bind fun _ => ?_
  refine (rests_forM _ fun _ _ => rests_attempt _).bind fun _ => ?_
  refine (rests_guardedSweep _ _ _).bind fun _ => ?_
  refine (rests_guardedSweep _ _ _).bind fun _ => ?_
  refine (rests_guardedSweep _ _ _).bind fun _ => ?_
  refine (rests_guardedSweep _ _ _).bind fun _ => ?_
  refine (rests_guardedSweep _ _ _).bind fun _ => ?_
  exact rests_guardedSweep _ _ _

/-! ## Maps without rules -/

/-- All maps are empty and dynamic defense is disabled. -/
def PolicyMaps.Unloaded (maps : PolicyMaps) : Prop :=
  ∃ defense, maps = PolicyMaps.fresh defense ∧ defense.enabled = 0

theorem retain_eq_empty {K V I : Type} {ident : K → I} (s : KeyedStore K V ident)
    {keep : K → Bool} (h : ∀ key, keep key = false) : s.retain keep = .empty := by
  apply KeyedStore.ext
  refine List.filter_eq_nil_iff.mpr fun entry _ => ?_
  rw [h entry.1]
  exact Bool.false_ne_true

/-- The policy without entries has no pending keys. -/
theorem pending_unloaded (localCidrs : List LocalInterfaceCidr) (version wallNow : Int) :
    buildPendingPolicyKeys localCidrs (CompiledPolicy.unloaded version) wallNow =
      { rules := Collected.empty
        geoPrefixes := Collected.empty
        trustedKeys := Collected.empty
        countryRules := Collected.empty
        customRateLimits := Collected.empty
        tempBans := Collected.empty } := by
  have hrules : pendingRules localCidrs (CompiledPolicy.unloaded version) = Collected.empty := by
    simp [pendingRules, orderedPolicyRules, CompiledPolicy.unloaded]
  simp only [buildPendingPolicyKeys, hrules]
  rfl

/-- Applying the policy without entries unloads the maps. -/
theorem unloaded_of_applied {env : ApplyEnv} {version : Int} {m m' : LinuxXdpManager}
    (h : (applyToCurrentMaps env (CompiledPolicy.unloaded version)).run m = .ok () m') :
    m'.maps.Unloaded := by
  obtain ⟨now, -, -, rfl⟩ := applyToCurrentMaps_ok h
  rw [pending_unloaded]
  refine ⟨defenseValue XdpDynamicDefense.default, ?_, rfl⟩
  simp only [swept, written, withDefense, PolicyMaps.fresh]
  congr 1 <;> exact retain_eq_empty _ fun key => by simp [Collected.empty]

/-! ## Applies that stop before they write an entry -/

/-- An apply to empty maps that stops before it has written an entry or enabled dynamic defense:
the sizes are refused, or the first operation is; or dynamic defense stays disabled and what stops
the apply is the second operation, the clock, or a ban before which none is written. -/
def StopsEarly (env : ApplyEnv) (policy : CompiledPolicy) (m : LinuxXdpManager)
    (granted : Option Nat) : Prop :=
  (∀ required, requiredPolicyMapSizes m policy = .ok required →
      validateMapCapacity required m.mapSizes ≠ .ok ()) ∨
    granted = some 0 ∨
    policy.dynamicDefense.enabled = false ∧
      (granted = some 1 ∨ ∀ monotonicNow, monotonicNowNs env = .ok monotonicNow →
        ¬ Convertible (pendingOf env policy m) env.wallNow monotonicNow ∧
          (pendingOf env policy m).tempBanEntries env.wallNow monotonicNow = [])

/-- Bans before which none is written change nothing, and end the loop. -/
theorem run_guardedWriteBans_of_none (sizes : XdpMapSizes) {pending : PendingPolicyKeys}
    {wallNow : Int} {monotonicNow : U64} (hconv : ¬ Convertible pending wallNow monotonicNow)
    (hnone : pending.tempBanEntries wallNow monotonicNow = [])
    (s : LinuxXdpManager × Option Nat) :
    ∃ e, (guardedWriteBans sizes pending wallNow monotonicNow).run s = .error e s := by
  unfold Convertible at hconv
  unfold PendingPolicyKeys.tempBanEntries at hnone
  unfold guardedWriteBans
  generalize pending.tempBans.items = items at hconv hnone ⊢
  induction items with
  | nil => exact absurd (fun item hitem => nomatch hitem) hconv
  | cons item items ih =>
      rw [List.forM_cons, EStateM.run_bind]
      cases hvalue : tempBanValue item.2 wallNow monotonicNow with
      | error e =>
          have hput : guardedPutTempBanKey sizes item.1 item.2 wallNow monotonicNow =
              throw (.error e) := by
            rw [guardedPutTempBanKey, hvalue]
          rw [hput]
          exact ⟨.error e, rfl⟩
      | ok value =>
          have hentry : tempBanEntry wallNow monotonicNow item =
              .ok (value.map (Prod.mk item.1)) := by
            rw [tempBanEntry, hvalue]
            rfl
          cases value with
          | none =>
              have hput : guardedPutTempBanKey sizes item.1 item.2 wallNow monotonicNow =
                  pure () := by
                rw [guardedPutTempBanKey, hvalue]
              rw [hput, EStateM.run_pure]
              refine ih (fun hall => hconv fun other hother => ?_) ?_
              · rcases List.mem_cons.mp hother with rfl | hother
                · exact ⟨_, hentry⟩
                · exact hall other hother
              · rw [KeyedStore.computed, hentry] at hnone
                exact hnone
          | some value =>
              rw [KeyedStore.computed, hentry] at hnone
              cases hnone

theorem unloaded_withDefense {m : LinuxXdpManager} {policy : CompiledPolicy}
    (h : m.maps.Unloaded) (hdisabled : policy.dynamicDefense.enabled = false) :
    (withDefense m policy).maps.Unloaded := by
  obtain ⟨defense, hmaps, -⟩ := h
  refine ⟨defenseValue policy.dynamicDefense, ?_, ?_⟩
  · rw [withDefense, hmaps]
    rfl
  · rw [defenseValue, hdisabled]
    rfl

theorem run_check_bind {A B : Type} (check : Except ApplyError A) (rest : A → GuardedApply B)
    (s : LinuxXdpManager × Option Nat) :
    (unguarded (ofExcept check) >>= rest).run s =
      match check with
      | .ok a => (rest a).run s
      | .error e => .error (.error e) s := by
  cases check <;> rfl

theorem run_defense_bind {B : Type} (policy : CompiledPolicy) (rest : Unit → GuardedApply B)
    (m : LinuxXdpManager) {granted : Option Nat} (hgranted : granted ≠ some 0) :
    (attempt (putDynamicDefense policy.dynamicDefense) >>= rest).run (m, granted) =
      (rest ()).run (withDefense m policy, granted.map (· - 1)) := by
  match granted with
  | none => rfl
  | some 0 => exact absurd rfl hgranted
  | some (n + 1) => rfl

/-- An apply either stops at its first checks or goes on with the dynamic defense written. -/
theorem run_guardedApplyToCurrentMaps (env : ApplyEnv) (policy : CompiledPolicy)
    (m : LinuxXdpManager) (granted : Option Nat) :
    (∃ e, (guardedApplyToCurrentMaps env policy).run (m, granted) = .error e (m, granted)) ∨
      granted ≠ some 0 ∧
        (∃ required, requiredPolicyMapSizes m policy = .ok required ∧
          validateMapCapacity required m.mapSizes = .ok ()) ∧
        (guardedApplyToCurrentMaps env policy).run (m, granted) =
          (do
            let monotonicNow ← unguarded (ofExcept (monotonicNowNs env))
            guardedWriteBans m.mapSizes (pendingOf env policy m) env.wallNow monotonicNow
            guardedWriteRest m.mapSizes (pendingOf env policy m) : GuardedApply Unit).run
            (withDefense m policy, granted.map (· - 1)) := by
  rw [guardedApplyToCurrentMaps, run_unguarded_get_bind, run_check_bind]
  cases hreq : requiredPolicyMapSizes m policy with
  | error e => exact Or.inl ⟨_, rfl⟩
  | ok required =>
      dsimp only
      rw [run_check_bind]
      cases hvalid : validateMapCapacity required m.mapSizes with
      | error e => exact Or.inl ⟨_, rfl⟩
      | ok _ =>
          by_cases hgranted : granted = some 0
          · rw [hgranted]
            exact Or.inl ⟨.refused, run_refused_bind _ _ m⟩
          · exact Or.inr ⟨hgranted, ⟨required, rfl, hvalid⟩,
              run_defense_bind policy _ m hgranted⟩

/-- An apply whose checks pass, and that is granted one operation, stops after the write of the
dynamic defense, or it has nothing else to do. -/
theorem run_guardedApplyToCurrentMaps_one {env : ApplyEnv} {policy : CompiledPolicy}
    {m : LinuxXdpManager} {now : U64} (h : Admitted env policy m now) :
    (guardedApplyToCurrentMaps env policy).run (m, some 1) =
        .ok () (withDefense m policy, some 0) ∨
      ∃ e, (guardedApplyToCurrentMaps env policy).run (m, some 1) =
        .error e (withDefense m policy, some 0) := by
  obtain ⟨required, hreq, hvalid⟩ := h.sizes
  have hrest := (rests_guardedWriteBans m.mapSizes (pendingOf env policy m) env.wallNow now).bind
    fun _ => rests_guardedWriteRest m.mapSizes (pendingOf env policy m)
  rw [guardedApplyToCurrentMaps, run_unguarded_get_bind, run_check_bind, hreq]
  dsimp only
  rw [run_check_bind, hvalid]
  dsimp only
  rw [@run_defense_bind _ policy _ m (some 1) (by simp), run_check_bind, h.clock]
  rcases hrest (withDefense m policy) with ⟨a, hrest⟩ | ⟨e, hrest⟩
  · exact Or.inl hrest
  · exact Or.inr ⟨e, hrest⟩

/-- Such an apply leaves the maps without rules. -/
theorem unloaded_of_stopsEarly {env : ApplyEnv} {policy : CompiledPolicy}
    {m m' : LinuxXdpManager} {granted left : Option Nat} {e : Fault ApplyError}
    (h : m.maps.Unloaded) (hstops : StopsEarly env policy m granted)
    (hrun : (guardedApplyToCurrentMaps env policy).run (m, granted) = .error e (m', left)) :
    m'.maps.Unloaded := by
  rcases run_guardedApplyToCurrentMaps env policy m granted with ⟨e', hstop⟩ | hgoes
  · rw [hstop] at hrun
    cases hrun
    exact h
  · obtain ⟨hgranted, ⟨required, hreq, hvalid⟩, hrest⟩ := hgoes
    rcases hstops with hsizes | hzero | ⟨hdisabled, hstops⟩
    · exact absurd hvalid (hsizes required hreq)
    · exact absurd hzero hgranted
    · -- What follows the write of the defense leaves everything as it is.
      have hdefense : (withDefense m policy).maps.Unloaded := unloaded_withDefense h hdisabled
      suffices hsame : m' = withDefense m policy by
        rw [hsame]
        exact hdefense
      rw [hrest, run_check_bind] at hrun
      cases hclock : monotonicNowNs env with
      | error e' =>
          rw [hclock] at hrun
          cases hrun
          rfl
      | ok now =>
          rw [hclock] at hrun
          dsimp only at hrun
          rcases hstops with hone | hnone
          · have hrests := (rests_guardedWriteBans m.mapSizes (pendingOf env policy m) env.wallNow
              now).bind fun _ => rests_guardedWriteRest m.mapSizes (pendingOf env policy m)
            rw [hone] at hrun
            rcases hrests (withDefense m policy) with ⟨a, hrests⟩ | ⟨e', hrests⟩
            · exact absurd (hrests.symm.trans hrun) nofun
            · have hsame := hrests.symm.trans hrun
              cases hsame
              rfl
          · obtain ⟨hconv, hbans⟩ := hnone now hclock
            obtain ⟨e', hstop⟩ := run_guardedWriteBans_of_none m.mapSizes hconv hbans
              (withDefense m policy, granted.map (· - 1))
            rw [EStateM.run_bind, hstop] at hrun
            cases hrun
            rfl

end DataPlane
end XdpFirewall
