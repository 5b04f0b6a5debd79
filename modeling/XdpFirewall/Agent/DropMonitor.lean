import XdpFirewall.Agent.RuntimeSteps

/-!
# DropMonitor — the handle of the reporter and the flag in the maps

The handle lives in the agent, and the flag in a map of the program. A setting changes both. An
apply that attaches again brings new maps, whose flag is zero, and leaves the handle as it is.
-/

namespace XdpFirewall
namespace Agent

open DataPlane Lib Net Policy

/-- The agent has a handle exactly when the maps of the program on the interface report drops, and
the reporter reads the events of these maps. -/
structure AgentRuntime.MonitorAgrees (s : AgentRuntime) : Prop where
  flag : ∀ program set, s.host.program = some program → program.set = some set →
    (s.dropMonitor.isSome = true ↔ (s.host.sets set).dropConfig = 1)
  reads : ∀ program set, s.host.program = some program → program.set = some set →
    ∀ reporter reading, s.dropMonitor = some reporter → reporter.reading = some reading →
      reading = set

/-! ## The invariant -/

/-- What the program uses and what is pinned are the maps of the manager, and the handle agrees
with these. -/
structure MonitorInv (s : AgentRuntime) : Prop where
  set_lt : s.xdp.set < s.host.nextSet
  program : ∀ program set, s.host.program = some program → program.set = some set →
    set = s.xdp.set
  pins : ∀ set, s.host.pins = some set → set = s.xdp.set
  flag : s.dropMonitor.isSome = true ↔ (s.host.sets s.xdp.set).dropConfig = 1
  reads : ∀ reporter reading, s.dropMonitor = some reporter → reporter.reading = some reading →
    reading = s.xdp.set

theorem MonitorInv.monitorAgrees {s : AgentRuntime} (h : MonitorInv s) : s.MonitorAgrees where
  flag := by
    intro program set hrun hset
    rw [h.program program set hrun hset]
    exact h.flag
  reads := by
    intro program set hrun hset reporter reading hreporter hreading
    rw [h.program program set hrun hset]
    exact h.reads reporter reading hreporter hreading

theorem monitorInv_attached {env : HostEnv} {interface : String} {sizes : XdpMapSizes}
    {options : XdpAttachOptions} {before host : Host} {m : XdpManager}
    (hpinned : ∀ set, before.pins = some set → set < before.nextSet)
    (hattach : (attach env interface sizes options).run before = .ok m host) :
    MonitorInv (AgentRuntime.attached host m) := by
  have hdone := (attach_ends env interface sizes options before).of_ok hattach
  obtain ⟨id, dispatcher, hprogram⟩ := hdone.program
  have hflag : (host.sets m.set).dropConfig = 0 := hdone.dropConfig
  refine ⟨hdone.nextSet hpinned, ?_, ?_, ?_, nofun⟩
  · intro program set hrun hset
    change host.program = some program at hrun
    rw [hprogram] at hrun
    cases hrun
    cases hset
    rfl
  · intro set hset
    change host.pins = some set at hset
    rw [hdone.pins] at hset
    cases hset
    rfl
  · change false = true ↔ (host.sets m.set).dropConfig = 1
    rw [hflag]
    decide

/-! ## Settings -/

theorem writeDropConfig_dropConfig (set : Nat) (enabled : Bool) (host : Host) :
    ((writeDropConfig set enabled host).sets set).dropConfig = boolCode enabled := by
  simp only [writeDropConfig, Function.update_self]

/-- A write of the flag together with the change of the handle. -/
theorem MonitorInv.set {s : AgentRuntime} (h : MonitorInv s) (enabled : Bool)
    (monitor : Option DropReporter) (hsome : monitor.isSome = enabled)
    (hreads : ∀ reporter, monitor = some reporter → reporter.reading = none) :
    MonitorInv { s with
      host := writeDropConfig s.xdp.set enabled s.host
      dropMonitor := monitor } where
  set_lt := h.set_lt
  program := h.program
  pins := h.pins
  flag := by
    change monitor.isSome = true ↔
      ((writeDropConfig s.xdp.set enabled s.host).sets s.xdp.set).dropConfig = 1
    rw [writeDropConfig_dropConfig, hsome]
    cases enabled <;> decide
  reads := by
    intro reporter reading hreporter hreading
    rw [hreads reporter hreporter] at hreading
    cases hreading

/-- The flag can be cleared when a handle is dropped. -/
def DisablesCleanly (env : HostEnv) (s : AgentRuntime) : Prop :=
  s.dropMonitor.isSome = true → env.fails .setDropConfig = none

/-- The path of the events is known when the flag is set. -/
def EnablesCleanly (env : HostEnv) (s : AgentRuntime) : Prop :=
  s.dropMonitor = none → env.fails .setDropConfig = none → env.fails .dropEventsPath = none

theorem monitorInv_disable {s : AgentRuntime} (h : MonitorInv s) {env : HostEnv}
    (hclean : DisablesCleanly env s) : MonitorInv (disableDropMonitor env s) := by
  unfold disableDropMonitor
  split
  case isFalse => exact h
  case isTrue hsome =>
    rcases setDropMonitorEnabled_cases env false { s with dropMonitor := none } with
      ⟨heq, -⟩ | ⟨-, hfails⟩
    · rw [heq]
      exact h.set false none rfl nofun
    · exact absurd (hclean hsome) hfails

theorem monitorInv_enable {s : AgentRuntime} (h : MonitorInv s) {env : HostEnv}
    (hnone : s.dropMonitor = none) (hclean : EnablesCleanly env s) :
    MonitorInv (enableDropMonitor env s) := by
  unfold enableDropMonitor
  rcases setDropMonitorEnabled_cases env true s with ⟨heq, hworks⟩ | ⟨heq, -⟩
  · rw [heq]
    dsimp only
    rw [if_pos (hclean hnone hworks)]
    refine h.set true (some { reading := none }) rfl ?_
    intro reporter hreporter
    cases hreporter
    rfl
  · rw [heq]
    exact h

theorem monitorInv_reconcile {s : AgentRuntime} (h : MonitorInv s) {env : HostEnv} (enabled : Bool)
    (henables : enabled = true → EnablesCleanly env s)
    (hdisables : enabled = false → DisablesCleanly env s) :
    MonitorInv (reconcile env enabled s) := by
  unfold reconcile
  split
  case isTrue henabled => exact monitorInv_enable h henabled.2 (henables henabled.1)
  case isFalse =>
    split
    case isTrue hdisabled => exact monitorInv_disable h (hdisables hdisabled)
    case isFalse => exact h

/-! ## Applies -/

/-- When the policy needs larger maps, they do not take the place of the old ones while the agent
has a handle, and an attach that fails is undone. -/
def ResizesCleanly (env : HostEnv) (policy : CompiledPolicy) (s : AgentRuntime) : Prop :=
  ∀ resized, resizeOf (s.xdp.view s.host) policy = .ok (some resized) →
    (∀ after, (resizeMaps env resized).run (s.host, s.xdp) = .ok () after → s.dropMonitor = none) ∧
      ∀ reason after, (resizeMaps env resized).run (s.host, s.xdp) = .error reason after →
        Undoes env s.xdp.options.strategy

theorem withMaps_dropConfig (host : Host) (set : Nat) (maps : PolicyMaps) (other : Nat) :
    ((host.withMaps set maps).sets other).dropConfig = (host.sets other).dropConfig := by
  by_cases hother : other = set
  · simp only [Host.withMaps, hother, Function.update_self]
  · rw [withMaps_of_ne host maps hother]

/-- Writing a policy leaves the flags alone. -/
theorem MonitorInv.afterWrite {s : AgentRuntime} {host : Host} {m : XdpManager}
    (h : MonitorInv { s with host := host, xdp := m }) {env : HostEnv} {policy : CompiledPolicy}
    {r : EStateM.Result (Fault ApplyError) (Host × XdpManager) Unit}
    (hr : Written env policy host m r) : MonitorInv (s.afterApply r).1 := by
  have hwrite (maps : PolicyMaps) :
      MonitorInv { s with host := host.withMaps m.set maps, xdp := m } := by
    refine ⟨h.set_lt, h.program, h.pins, ?_, h.reads⟩
    change s.dropMonitor.isSome = true ↔ ((host.withMaps m.set maps).sets m.set).dropConfig = 1
    rw [withMaps_dropConfig]
    exact h.flag
  cases hr with
  | ok view hrun => exact hwrite view.maps
  | error e view left hrun => exact hwrite view.maps

theorem monitorInv_applyCompiled {s : AgentRuntime} (h : MonitorInv s) {env : HostEnv}
    {policy : CompiledPolicy} (hclean : ResizesCleanly env policy s) :
    MonitorInv (applyCompiled env policy s).1 := by
  have hmove := apply_move env policy s.host s.xdp
  rw [applyCompiled_eq]
  generalize (apply env policy).run (s.host, s.xdp) = r at hmove ⊢
  cases hmove with
  | sizes e hsizes => exact ⟨h.set_lt, h.program, h.pins, h.flag, h.reads⟩
  | inPlace hsizes =>
      exact MonitorInv.afterWrite h (applyToMaps_written env policy s.host s.xdp)
  | resized resized host' m' hsizes hresize hdone =>
      -- The new maps report nothing, and there is no handle.
      have hnone : s.dropMonitor = none := (hclean resized hsizes).1 _ hresize
      refine MonitorInv.afterWrite ⟨hdone.nextSet, ?_, ?_, ?_, ?_⟩
        (applyToMaps_written env policy host' m')
      · intro program set hrun hset
        change host'.program = some program at hrun
        rcases hdone.program with hgone | ⟨program', hrun', hset'⟩
        · rw [hgone] at hrun
          cases hrun
        · rw [hrun'] at hrun
          cases hrun
          rw [hset'] at hset
          cases hset
          rfl
      · intro set hset
        change host'.pins = some set at hset
        rw [hdone.pins] at hset
        cases hset
        rfl
      · have hzero : (host'.sets m'.set).dropConfig = 0 := by
          rw [hdone.sets, hdone.set, Function.update_self]
          rfl
        change s.dropMonitor.isSome = true ↔ (host'.sets m'.set).dropConfig = 1
        rw [hnone, hzero]
        decide
      · intro reporter reading hreporter
        exact absurd (hnone.symm.trans hreporter) nofun
  | resizeFailed resized reason host' m' hsizes hresize hfailed =>
      have hundoes := (hclean resized hsizes).2 reason _ hresize
      obtain ⟨hlt, hsame⟩ := hfailed.sets_of_lt h.set_lt
      refine ⟨?_, ?_, ?_, ?_, ?_⟩
      · change m'.set < host'.nextSet
        rw [hfailed.set]
        exact hlt
      · intro program set hrun hset
        change host'.program = some program at hrun
        change set = m'.set
        rw [hfailed.set]
        rcases hfailed.program with hkept | hgone | ⟨hnot, -⟩
        · rw [hkept] at hrun
          exact h.program program set hrun hset
        · rw [hgone] at hrun
          cases hrun
        · exact absurd hundoes hnot
      · intro set hset
        change host'.pins = some set at hset
        change set = m'.set
        rw [hfailed.set]
        rcases hfailed.pins hundoes with hkept | hgone
        · rw [hkept] at hset
          exact h.pins set hset
        · rw [hgone] at hset
          cases hset
      · change s.dropMonitor.isSome = true ↔ (host'.sets m'.set).dropConfig = 1
        rw [hfailed.set, hsame]
        exact h.flag
      · intro reporter reading hreporter hreading
        change reading = m'.set
        rw [hfailed.set]
        exact h.reads reporter reading hreporter hreading

/-- The sizes that the policy without entries needs. -/
def noEntries (m : LinuxXdpManager) : XdpMapSizes where
  ruleEntries := 0
  geoEntries := 0
  trustedEntries := 0
  countryEntries := 0
  rateEntries := m.mapSizes.rateEntries
  customRateLimitEntries := 0
  tempBanEntries := 0

/-- The policy without entries fits any maps. -/
theorem resizeOf_unloaded (m : LinuxXdpManager) (version : Int) :
    resizeOf m (CompiledPolicy.unloaded version) = .ok none := by
  have hrequired : requiredPolicyMapSizes m (CompiledPolicy.unloaded version) =
      .ok (noEntries m) := rfl
  have hkeeps (map : String) (current : Nat) : expandedCapacity map current 0 = .ok current :=
    if_pos (Nat.zero_le current)
  have hresized : resizedMapSizes m.mapSizes (noEntries m) = .ok none := by
    simp only [resizedMapSizes, noEntries, hkeeps]
    exact congrArg Except.ok (if_neg (not_not_intro rfl))
  have hbind {A B : Type} (a : A) (f : A → Except ApplyError B) : (Except.ok a >>= f) = f a := rfl
  rw [resizeOf, hrequired, hbind, hresized]
  rfl

/-! ## Runs -/

/-- What a step has to do for the handle and the flag to stay together. -/
def KeepsMonitor (args : AgentArgs) (s : AgentRuntime) : AgentEvent → Prop
  | .update enabled policy env =>
      (enabled = true → EnablesCleanly env s) ∧ (enabled = false → DisablesCleanly env s) ∧
        ∀ compiled, policy = some (.ok compiled) →
          ResizesCleanly env compiled (reconcile env enabled s)
  | .failure env =>
      shouldUnloadRules args (recordControlPlaneFailure s) = true → DisablesCleanly env s
  | _ => True

theorem monitorInv_update {s : AgentRuntime} (h : MonitorInv s) {args : AgentArgs} {env : HostEnv}
    {enabled : Bool} {policy : Option (Except String CompiledPolicy)}
    (hkeeps : KeepsMonitor args s (.update enabled policy env)) :
    MonitorInv (processPolicyUpdate env enabled policy s) := by
  obtain ⟨henables, hdisables, hresizes⟩ := hkeeps
  have hreconciled := monitorInv_reconcile h enabled henables hdisables
  unfold processPolicyUpdate
  match policy, hresizes with
  | none, _ => exact hreconciled
  | some (.error _), _ => exact hreconciled
  | some (.ok compiled), hresizes =>
      have happlied := monitorInv_applyCompiled hreconciled (hresizes compiled rfl)
      dsimp only
      cases hresult : applyCompiled env compiled (reconcile env enabled s) with
      | mk s' done =>
          rw [hresult] at happlied
          cases done with
          | true => exact ⟨happlied.set_lt, happlied.program, happlied.pins, happlied.flag,
              happlied.reads⟩
          | false => exact happlied

theorem monitorInv_failure {s : AgentRuntime} (h : MonitorInv s) {args : AgentArgs}
    {env : HostEnv} (hkeeps : KeepsMonitor args s (.failure env)) :
    MonitorInv (handleControlPlaneFailure args env s) := by
  have hrecorded : MonitorInv (recordControlPlaneFailure s) :=
    ⟨h.set_lt, h.program, h.pins, h.flag, h.reads⟩
  rw [handleControlPlaneFailure_eq]
  split
  case isFalse => exact hrecorded
  case isTrue hunloads =>
    have hbefore : MonitorInv (s.beforeUnload env) := monitorInv_disable hrecorded (hkeeps hunloads)
    have happlied : MonitorInv (applyUnloaded env s).1 := by
      refine monitorInv_applyCompiled hbefore fun resized hsizes => ?_
      rw [resizeOf_unloaded] at hsizes
      cases hsizes
    cases hresult : applyUnloaded env s with
    | mk s' done =>
        rw [hresult] at happlied
        cases done <;>
          exact ⟨happlied.set_lt, happlied.program, happlied.pins, happlied.flag, happlied.reads⟩

/-- The reporter opens what is pinned, which is what the manager has. -/
theorem monitorInv_openEvents {s : AgentRuntime} (h : MonitorInv s) :
    MonitorInv (openEvents s) := by
  refine ⟨h.set_lt, h.program, h.pins, ?_, ?_⟩
  · change (s.dropMonitor.map _).isSome = true ↔ _
    rw [Option.isSome_map]
    exact h.flag
  · intro reporter reading hreporter hreading
    obtain ⟨old, -, rfl⟩ := Option.map_eq_some_iff.mp hreporter
    exact h.pins reading hreading

theorem monitorInv_closeEvents {s : AgentRuntime} (h : MonitorInv s) :
    MonitorInv (closeEvents s) := by
  refine ⟨h.set_lt, h.program, h.pins, ?_, ?_⟩
  · change (s.dropMonitor.map _).isSome = true ↔ _
    rw [Option.isSome_map]
    exact h.flag
  · intro reporter reading hreporter hreading
    obtain ⟨old, -, rfl⟩ := Option.map_eq_some_iff.mp hreporter
    cases hreading

/-- One step of the agent keeps the invariant. -/
theorem monitorInv_step {args : AgentArgs} (s : AgentRuntime) (e : AgentEvent) (s' : AgentRuntime)
    (h : MonitorInv s) (hstep : agentStep args s e = some s') (hkeeps : KeepsMonitor args s e) :
    MonitorInv s' := by
  unfold agentStep at hstep
  split at hstep
  case isFalse => cases hstep
  case isTrue hrunning =>
    cases e with
    | failure env =>
        cases hstep
        exact monitorInv_failure h hkeeps
    | healthy =>
        cases hstep
        exact ⟨h.set_lt, h.program, h.pins, h.flag, h.reads⟩
    | update enabled policy env =>
        cases hstep
        exact monitorInv_update h hkeeps
    | openEvents =>
        cases hstep
        exact monitorInv_openEvents h
    | closeEvents =>
        cases hstep
        exact monitorInv_closeEvents h

/-- An update whose resize ends well writes to the new maps, and does not look at the handle. -/
theorem processPolicyUpdate_resized {s : AgentRuntime} {env : HostEnv} {policy : CompiledPolicy}
    {enabled : Bool} {resized : XdpMapSizes} {host' : Host} {m' : XdpManager}
    (hreconcile : reconcile env enabled s = s)
    (hsizes : resizeOf (s.xdp.view s.host) policy = .ok (some resized))
    (hresize : (resizeMaps env resized).run (s.host, s.xdp) = .ok () (host', m')) :
    ∃ maps, (processPolicyUpdate env enabled (some (.ok policy)) s).host =
        host'.withMaps m'.set maps ∧
      (processPolicyUpdate env enabled (some (.ok policy)) s).xdp = m' ∧
      (processPolicyUpdate env enabled (some (.ok policy)) s).dropMonitor = s.dropMonitor ∧
      (processPolicyUpdate env enabled (some (.ok policy)) s).running = s.running := by
  -- The new maps are written, whether or not all of the entries get into them.
  have happlied : ∃ maps, (applyCompiled env policy s).1 =
      { s with host := host'.withMaps m'.set maps, xdp := m' } := by
    rw [applyCompiled_eq, run_apply, hsizes]
    dsimp only
    rw [hresize]
    have hwritten := applyToMaps_written env policy host' m'
    dsimp only
    generalize (applyToMaps env policy).run (host', m') = r at hwritten ⊢
    cases hwritten with
    | ok view hrun => exact ⟨view.maps, rfl⟩
    | error e view left hrun => exact ⟨view.maps, rfl⟩
  obtain ⟨maps, happlied⟩ := happlied
  refine ⟨maps, ?_⟩
  unfold processPolicyUpdate
  rw [hreconcile]
  dsimp only
  cases hresult : applyCompiled env policy s with
  | mk s' done =>
      rw [hresult] at happlied
      have hsame : s' = { s with host := host'.withMaps m'.set maps, xdp := m' } := happlied
      subst hsame
      cases done <;> exact ⟨rfl, rfl, rfl, rfl⟩

def replacingOptions : XdpAttachOptions :=
  { directOptions with allowReplace := true }

/-- The manager of the first attach. -/
def replacingManager : XdpManager :=
  { ownManager with options := replacingOptions }

/-- The host of the agent, before or after its monitor was enabled. -/
def monitoredHost (enabled : Bool) (host : Host) : Host :=
  if enabled then writeDropConfig 0 true host else host

theorem exists_replacedHost (enabled : Bool) : ∃ host host' m',
    (attach quietHostEnv "eth0" oneEntry replacingOptions).run blankHost =
        .ok replacingManager host ∧
      resizeOf (replacingManager.view (monitoredHost enabled host)) twoCountryPolicy =
        .ok (some twoCountries) ∧
      (resizeMaps quietHostEnv twoCountries).run
        (monitoredHost enabled host, replacingManager) = .ok () (host', m') ∧
      host'.program = some { id := 1, set := some m'.set, dispatcher := false } ∧
      host'.pins = some m'.set ∧ (host'.sets m'.set).dropConfig = 0 ∧ m'.set = 1 := by
  cases enabled with
  | false => exact ⟨_, _, _, rfl, by decide, rfl, rfl, rfl, rfl, rfl⟩
  | true => exact ⟨_, _, _, rfl, by decide, rfl, rfl, rfl, rfl, rfl⟩

def keepingAgent : AgentArgs where
  offlineMode := .keepRules
  offlineFailureLimit := 5

/-- The maps are replaced before the monitor is enabled, and the reporter reads the new ones. -/
def resizedEvents : List AgentEvent :=
  [.update false (some (.ok twoCountryPolicy)) quietHostEnv, .update true none quietHostEnv,
    .openEvents]

theorem run_resizedEvents : ∃ start s, start.JustAttached ∧
    run (agentStep keepingAgent) start resizedEvents = some s ∧ s.xdp.set ≠ start.xdp.set ∧
    s.dropMonitor = some { reading := some s.xdp.set } := by
  obtain ⟨host, host', m', hattach, hsizes, hresize, -, hpins, -, hnew⟩ :=
    exists_replacedHost false
  have hjust : (AgentRuntime.attached host replacingManager).JustAttached :=
    .intro _ _ _ _ _ _ _ (fun set hset => by cases hset) hattach
  obtain ⟨maps, hhost, hxdp, hmonitor, hrunning⟩ :=
    @processPolicyUpdate_resized (AgentRuntime.attached host replacingManager) quietHostEnv
      twoCountryPolicy false twoCountries host' m' rfl hsizes hresize
  generalize hresized : processPolicyUpdate quietHostEnv false (some (.ok twoCountryPolicy))
    (AgentRuntime.attached host replacingManager) = resized at hhost hxdp hmonitor hrunning
  -- The maps are replaced while nobody watches; the monitor that comes later reads the new ones.
  have hnone : resized.dropMonitor = none := hmonitor
  have hon : resized.running = true := hrunning
  let enabled : AgentRuntime :=
    { resized with
      host := writeDropConfig resized.xdp.set true resized.host
      dropMonitor := some { reading := none } }
  have hfirst : agentStep keepingAgent (AgentRuntime.attached host replacingManager)
      (.update false (some (.ok twoCountryPolicy)) quietHostEnv) = some resized := by
    rw [← hresized]
    rfl
  have hsecond : agentStep keepingAgent resized (.update true none quietHostEnv) =
      some enabled := by
    rw [agentStep, if_pos hon, processPolicyUpdate, reconcile, if_pos ⟨rfl, hnone⟩]
    rfl
  have hthird : agentStep keepingAgent enabled .openEvents = some (openEvents enabled) :=
    if_pos hon
  refine ⟨_, openEvents enabled, hjust, ?_, ?_, ?_⟩
  · exact run_cons_eq_some_iff.mpr ⟨_, hfirst, run_cons_eq_some_iff.mpr ⟨_, hsecond,
      run_cons_eq_some_iff.mpr ⟨_, hthird, rfl⟩⟩⟩
  · change resized.xdp.set ≠ 0
    rw [hxdp, hnew]
    decide
  · have hread : resized.host.pins = some resized.xdp.set := by
      rw [hhost, hxdp]
      exact hpins
    exact congrArg (fun reading => some (DropReporter.mk reading)) hread

end Agent
end XdpFirewall
