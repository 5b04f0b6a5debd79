import XdpFirewall.Agent.Runtime

/-!
# RuntimeSteps — what the parts of an agent's step change

A change of the drop monitor leaves the policy maps alone, and an apply leaves the drop monitor
and the counters alone. The failure that unloads the rules is both, one after the other.
-/

namespace XdpFirewall
namespace Agent

open DataPlane Lib Net Policy

/-! ## What leaves the maps alone -/

/-- Nothing but drop configurations has changed. -/
structure SamePolicyMaps (host host' : Host) : Prop where
  maps : ∀ set, (host'.sets set).maps = (host.sets set).maps
  nextSet : host'.nextSet = host.nextSet
  pins : host'.pins = host.pins
  program : host'.program = host.program

theorem SamePolicyMaps.refl (host : Host) : SamePolicyMaps host host :=
  ⟨fun _ => rfl, rfl, rfl, rfl⟩

theorem writeDropConfig_samePolicyMaps (set : Nat) (enabled : Bool) (host : Host) :
    SamePolicyMaps host (writeDropConfig set enabled host) := by
  refine ⟨fun other => ?_, rfl, rfl, rfl⟩
  by_cases hother : other = set
  · simp only [writeDropConfig, hother, Function.update_self]
  · simp only [writeDropConfig, Function.update_of_ne hother]

/-- A change of the drop monitor: the policy maps, the manager and the counters are as before. -/
structure OnlyMonitor (s s' : AgentRuntime) : Prop where
  host : SamePolicyMaps s.host s'.host
  xdp : s'.xdp = s.xdp
  consecutiveFailures : s'.consecutiveFailures = s.consecutiveFailures
  rulesUnloaded : s'.rulesUnloaded = s.rulesUnloaded
  running : s'.running = s.running

theorem OnlyMonitor.refl (s : AgentRuntime) : OnlyMonitor s s :=
  ⟨SamePolicyMaps.refl _, rfl, rfl, rfl, rfl⟩

theorem setDropMonitorEnabled_cases (env : HostEnv) (enabled : Bool) (s : AgentRuntime) :
    setDropMonitorEnabled env enabled s =
        ({ s with host := writeDropConfig s.xdp.set enabled s.host }, true) ∧
          env.fails .setDropConfig = none ∨
      setDropMonitorEnabled env enabled s = (s, false) ∧ env.fails .setDropConfig ≠ none := by
  unfold setDropMonitorEnabled setDropConfig ask
  cases hfails : env.fails .setDropConfig with
  | none => exact Or.inl ⟨rfl, rfl⟩
  | some reason => exact Or.inr ⟨rfl, Option.some_ne_none reason⟩

theorem setDropMonitorEnabled_onlyMonitor (env : HostEnv) (enabled : Bool) (s : AgentRuntime) :
    OnlyMonitor s (setDropMonitorEnabled env enabled s).1 := by
  rcases setDropMonitorEnabled_cases env enabled s with ⟨heq, -⟩ | ⟨heq, -⟩
  · rw [heq]
    exact ⟨writeDropConfig_samePolicyMaps _ _ _, rfl, rfl, rfl, rfl⟩
  · rw [heq]
    exact OnlyMonitor.refl s

theorem disableDropMonitor_onlyMonitor (env : HostEnv) (s : AgentRuntime) :
    OnlyMonitor s (disableDropMonitor env s) := by
  unfold disableDropMonitor
  split
  · have h := setDropMonitorEnabled_onlyMonitor env false { s with dropMonitor := none }
    exact ⟨h.host, h.xdp, h.consecutiveFailures, h.rulesUnloaded, h.running⟩
  · exact OnlyMonitor.refl s

theorem enableDropMonitor_onlyMonitor (env : HostEnv) (s : AgentRuntime) :
    OnlyMonitor s (enableDropMonitor env s) := by
  have h := setDropMonitorEnabled_onlyMonitor env true s
  unfold enableDropMonitor
  generalize setDropMonitorEnabled env true s = result at h ⊢
  obtain ⟨s', done⟩ := result
  cases done with
  | false => exact h
  | true =>
      dsimp only
      split
      · exact ⟨h.host, h.xdp, h.consecutiveFailures, h.rulesUnloaded, h.running⟩
      · exact h

theorem reconcile_onlyMonitor (env : HostEnv) (enabled : Bool) (s : AgentRuntime) :
    OnlyMonitor s (reconcile env enabled s) := by
  unfold reconcile
  split
  · exact enableDropMonitor_onlyMonitor env s
  · split
    · exact disableDropMonitor_onlyMonitor env s
    · exact OnlyMonitor.refl s

/-! ## Applies -/

/-- How writing to the maps of the manager ends. -/
inductive Written (env : HostEnv) (policy : CompiledPolicy) (host : Host) (m : XdpManager) :
    EStateM.Result (Fault ApplyError) (Host × XdpManager) Unit → Prop
  | ok (view : LinuxXdpManager)
      (hrun : (applyToCurrentMaps env.applyEnv policy).run (m.view host) = .ok () view) :
      Written env policy host m (.ok () (host.withMaps m.set view.maps, m))
  | error (e : Fault ApplyError) (view : LinuxXdpManager) (left : Option Nat)
      (hrun : (guardedApplyToCurrentMaps env.applyEnv policy).run (m.view host, env.granted) =
        .error e (view, left)) :
      Written env policy host m (.error e (host.withMaps m.set view.maps, m))

theorem run_applyToMaps (env : HostEnv) (policy : CompiledPolicy) (host : Host)
    (m : XdpManager) :
    (applyToMaps env policy).run (host, m) =
      match (guardedApplyToCurrentMaps env.applyEnv policy).run (m.view host, env.granted) with
      | .ok _ (view, _) => .ok () (host.withMaps m.set view.maps, m)
      | .error e (view, _) => .error e (host.withMaps m.set view.maps, m) := rfl

theorem applyToMaps_written (env : HostEnv) (policy : CompiledPolicy) (host : Host)
    (m : XdpManager) : Written env policy host m ((applyToMaps env policy).run (host, m)) := by
  rw [run_applyToMaps]
  cases hresult : (guardedApplyToCurrentMaps env.applyEnv policy).run
      (m.view host, env.granted) with
  | ok _ after =>
      exact .ok after.1 ((guards_guardedApplyToCurrentMaps env.applyEnv policy).run_ok hresult)
  | error e after => exact .error e after.1 after.2 hresult

theorem withMaps_self (host : Host) (set : Nat) (maps : PolicyMaps) :
    ((host.withMaps set maps).sets set).maps = maps := by
  simp only [Host.withMaps, Function.update_self]

theorem withMaps_of_ne (host : Host) {set other : Nat} (maps : PolicyMaps) (h : other ≠ set) :
    (host.withMaps set maps).sets other = host.sets other :=
  Function.update_of_ne h _ _

/-- The agent after an apply. -/
def AgentRuntime.afterApply (s : AgentRuntime) :
    EStateM.Result (Fault ApplyError) (Host × XdpManager) Unit → AgentRuntime × Bool
  | .ok _ after => ({ s with host := after.1, xdp := after.2 }, true)
  | .error _ after => ({ s with host := after.1, xdp := after.2 }, false)

theorem applyCompiled_eq (env : HostEnv) (policy : CompiledPolicy) (s : AgentRuntime) :
    applyCompiled env policy s = s.afterApply ((apply env policy).run (s.host, s.xdp)) := by
  unfold applyCompiled
  cases (apply env policy).run (s.host, s.xdp) <;> rfl

/-- An apply touches the host and the manager only. -/
theorem applyCompiled_frame (env : HostEnv) (policy : CompiledPolicy) (s : AgentRuntime) :
    (applyCompiled env policy s).1.rulesUnloaded = s.rulesUnloaded ∧
      (applyCompiled env policy s).1.appliedVersion = s.appliedVersion ∧
      (applyCompiled env policy s).1.dropMonitor = s.dropMonitor ∧
      (applyCompiled env policy s).1.consecutiveFailures = s.consecutiveFailures ∧
      (applyCompiled env policy s).1.running = s.running := by
  rw [applyCompiled_eq]
  cases (apply env policy).run (s.host, s.xdp) <;> exact ⟨rfl, rfl, rfl, rfl, rfl⟩

/-- A failed resize leaves the sets that were there as they were. -/
theorem ResizeFailed.sets_of_lt {env : HostEnv} {resized : XdpMapSizes} {host host' : Host}
    {m m' : XdpManager} (h : ResizeFailed env resized host m host' m') {set : Nat}
    (hlt : set < host.nextSet) :
    set < host'.nextSet ∧ host'.sets set = host.sets set := by
  rcases h.sets with ⟨hsets, hnext⟩ | ⟨hsets, hnext⟩
  · rw [hsets, hnext]
    exact ⟨hlt, rfl⟩
  · rw [hsets, hnext]
    exact ⟨Nat.lt_succ_of_lt hlt, Function.update_of_ne (Nat.ne_of_lt hlt) _ _⟩

/-! ## The apply that unloads the rules -/

/-- The agent that has recorded a failure and is about to unload its rules. -/
def AgentRuntime.beforeUnload (env : HostEnv) (s : AgentRuntime) : AgentRuntime :=
  disableDropMonitor env (recordControlPlaneFailure s)

/-- The apply that unloads the rules. -/
def applyUnloaded (env : HostEnv) (s : AgentRuntime) : AgentRuntime × Bool :=
  applyCompiled env (CompiledPolicy.unloaded (max (s.beforeUnload env).appliedVersion 0))
    (s.beforeUnload env)

theorem handleControlPlaneFailure_eq (args : AgentArgs) (env : HostEnv) (s : AgentRuntime) :
    handleControlPlaneFailure args env s =
      if shouldUnloadRules args (recordControlPlaneFailure s) then
        match applyUnloaded env s with
        | (s, true) => { s with appliedVersion := -1, rulesUnloaded := true }
        | (s, false) => { s with running := false }
      else
        recordControlPlaneFailure s := rfl

end Agent
end XdpFirewall
