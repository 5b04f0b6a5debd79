import XdpFirewall.Agent.RuntimeSteps

/-!
# OfflineRules — an agent that unloads its rules while it is offline

The flag that the rules are unloaded is set when the maps have been emptied, and taken back when a
policy is applied. An apply that stops half way is neither: it may put rules into the maps under
the flag.
-/

namespace XdpFirewall
namespace Agent

open DataPlane Lib Net Policy

/-! ## The maps of the program -/

/-- The maps of a manager may change, the others stay. -/
theorem RunsOwnMaps.withMaps {s : AgentRuntime} {host : Host} {m : XdpManager}
    (hset_lt : m.set < host.nextSet)
    (hprogram : ∀ program set, host.program = some program → program.set = some set →
      set = m.set ∨ set < host.nextSet ∧ (host.sets set).maps.Unloaded) (maps : PolicyMaps) :
    RunsOwnMaps { s with host := host.withMaps m.set maps, xdp := m } where
  set_lt := hset_lt
  program := by
    intro program set hrun hset
    by_cases hown : set = m.set
    · exact Or.inl hown
    · rcases hprogram program set hrun hset with h | ⟨hlt, hunloaded⟩
      · exact Or.inl h
      · refine Or.inr ⟨hlt, ?_⟩
        change ((host.withMaps m.set maps).sets set).maps.Unloaded
        rw [withMaps_of_ne host maps hown]
        exact hunloaded

theorem fresh_unloaded (sizes : XdpMapSizes) : (MapSet.fresh sizes).maps.Unloaded :=
  ⟨_, rfl, rfl⟩

theorem ResizeDone.unloaded {resized : XdpMapSizes} {host host' : Host} {m m' : XdpManager}
    (h : ResizeDone resized host m host' m') : (host'.sets m'.set).maps.Unloaded := by
  rw [h.sets, h.set, Function.update_self]
  exact fresh_unloaded resized

theorem RunsOwnMaps.afterWrite {s : AgentRuntime} {env : HostEnv} {policy : CompiledPolicy}
    {host : Host} {m : XdpManager} (hset_lt : m.set < host.nextSet)
    (hprogram : ∀ program set, host.program = some program → program.set = some set →
      set = m.set ∨ set < host.nextSet ∧ (host.sets set).maps.Unloaded)
    {r : EStateM.Result (Fault ApplyError) (Host × XdpManager) Unit}
    (hr : Written env policy host m r) : RunsOwnMaps (s.afterApply r).1 := by
  cases hr with
  | ok view hrun => exact RunsOwnMaps.withMaps hset_lt hprogram view.maps
  | error e view left hrun => exact RunsOwnMaps.withMaps hset_lt hprogram view.maps

/-- After any apply the interface runs with the maps of the manager, or with maps without rules. -/
theorem runsOwnMaps_applyCompiled {s : AgentRuntime} (h : RunsOwnMaps s) (env : HostEnv)
    (policy : CompiledPolicy) : RunsOwnMaps (applyCompiled env policy s).1 := by
  have hmove := apply_move env policy s.host s.xdp
  rw [applyCompiled_eq]
  generalize (apply env policy).run (s.host, s.xdp) = r at hmove ⊢
  cases hmove with
  | sizes e hsizes => exact ⟨h.set_lt, h.program⟩
  | inPlace hsizes =>
      exact RunsOwnMaps.afterWrite h.set_lt h.program (applyToMaps_written env policy s.host s.xdp)
  | resized resized host' m' hsizes hresize hdone =>
      refine RunsOwnMaps.afterWrite hdone.nextSet ?_ (applyToMaps_written env policy host' m')
      intro program set hrun hset
      rcases hdone.program with hnone | ⟨program', hrun', hset'⟩
      · rw [hnone] at hrun
        cases hrun
      · rw [hrun'] at hrun
        cases hrun
        rw [hset'] at hset
        cases hset
        exact Or.inl rfl
  | resizeFailed resized reason host' m' hsizes hresize hfailed =>
      have hset_lt : m'.set < host'.nextSet := by
        rw [hfailed.set]
        exact (hfailed.sets_of_lt h.set_lt).1
      refine ⟨hset_lt, fun program set hrun hset => ?_⟩
      change set = m'.set ∨ set < host'.nextSet ∧ (host'.sets set).maps.Unloaded
      change host'.program = some program at hrun
      rw [hfailed.set]
      rcases hfailed.program with hsame | hnone | ⟨-, hnext, program', hrun', hset'⟩
      · rw [hsame] at hrun
        rcases h.program program set hrun hset with hown | ⟨hlt, hunloaded⟩
        · exact Or.inl hown
        · obtain ⟨hlt', hsame⟩ := hfailed.sets_of_lt hlt
          rw [hsame]
          exact Or.inr ⟨hlt', hunloaded⟩
      · rw [hnone] at hrun
        cases hrun
      · -- A program that a failed attach has left in the dispatcher, with new maps.
        rw [hrun'] at hrun
        cases hrun
        rw [hset'] at hset
        cases hset
        rcases hfailed.sets with ⟨-, hnext'⟩ | ⟨hsets, -⟩
        · omega
        · rw [hsets, hnext, Function.update_self]
          exact Or.inr ⟨Nat.lt_succ_self _, fresh_unloaded resized⟩

/-- The host and the manager whose maps an apply writes to. -/
inductive WritesTo (env : HostEnv) (policy : CompiledPolicy) (host : Host) (m : XdpManager) :
    Host → XdpManager → Prop
  | inPlace (hsizes : resizeOf (m.view host) policy = .ok none) :
      WritesTo env policy host m host m
  | resized (resized : XdpMapSizes) (host' : Host) (m' : XdpManager)
      (hsizes : resizeOf (m.view host) policy = .ok (some resized))
      (hresize : (resizeMaps env resized).run (host, m) = .ok () (host', m')) :
      WritesTo env policy host m host' m'

/-- The apply ends well, or it stops before it has put a rule into the maps. -/
def AllOrNothing (env : HostEnv) (policy : CompiledPolicy) (s : AgentRuntime) : Prop :=
  ∀ host m, WritesTo env policy s.host s.xdp host m →
    (∃ after, (applyToMaps env policy).run (host, m) = .ok () after) ∨
      StopsEarly env.applyEnv policy (m.view host) env.granted

theorem mapsUnloaded_of_writes {s : AgentRuntime} {env : HostEnv} {policy : CompiledPolicy}
    {host : Host} {m : XdpManager} {r : EStateM.Result (Fault ApplyError) (Host × XdpManager) Unit}
    (h : (host.sets m.set).maps.Unloaded) (hr : Written env policy host m r)
    (hfits : (∃ after, r = .ok () after) ∨
      StopsEarly env.applyEnv policy (m.view host) env.granted)
    (hfails : (s.afterApply r).2 = false) : (s.afterApply r).1.MapsUnloaded := by
  cases hr with
  | ok view hrun => cases hfails
  | error e view left hrun =>
      rcases hfits with ⟨after, hok⟩ | hstops
      · cases hok
      · change ((host.withMaps m.set view.maps).sets m.set).maps.Unloaded
        rw [withMaps_self]
        exact unloaded_of_stopsEarly h hstops hrun

/-- Such an apply, when it fails, leaves unloaded maps unloaded. -/
theorem mapsUnloaded_applyCompiled {s : AgentRuntime} (hruns : RunsOwnMaps s)
    (h : s.MapsUnloaded) {env : HostEnv} {policy : CompiledPolicy}
    (hfits : AllOrNothing env policy s) (hfails : (applyCompiled env policy s).2 = false) :
    (applyCompiled env policy s).1.MapsUnloaded := by
  have hmove := apply_move env policy s.host s.xdp
  rw [applyCompiled_eq] at hfails ⊢
  generalize (apply env policy).run (s.host, s.xdp) = r at hmove hfails ⊢
  cases hmove with
  | sizes e hsizes => exact h
  | inPlace hsizes =>
      exact mapsUnloaded_of_writes h (applyToMaps_written env policy s.host s.xdp)
        (hfits _ _ (.inPlace hsizes)) hfails
  | resized resized host' m' hsizes hresize hdone =>
      exact mapsUnloaded_of_writes hdone.unloaded (applyToMaps_written env policy host' m')
        (hfits _ _ (.resized resized host' m' hsizes hresize)) hfails
  | resizeFailed resized reason host' m' hsizes hresize hfailed =>
      change (host'.sets m'.set).maps.Unloaded
      rw [hfailed.set, (hfailed.sets_of_lt hruns.set_lt).2]
      exact h

/-! ## Unloading -/

theorem mapsUnloaded_of_unload {s : AgentRuntime} {env : HostEnv} {version : Int} {host : Host}
    {m : XdpManager} {r : EStateM.Result (Fault ApplyError) (Host × XdpManager) Unit}
    (hr : Written env (CompiledPolicy.unloaded version) host m r)
    (hdone : (s.afterApply r).2 = true) : (s.afterApply r).1.MapsUnloaded := by
  cases hr with
  | ok view hrun =>
      change ((host.withMaps m.set view.maps).sets m.set).maps.Unloaded
      rw [withMaps_self]
      exact unloaded_of_applied hrun
  | error e view left hrun => cases hdone

/-- When the apply of the policy without entries ends well, the maps are unloaded. -/
theorem mapsUnloaded_applyCompiled_unloaded {s : AgentRuntime} {env : HostEnv} {version : Int}
    (hdone : (applyCompiled env (CompiledPolicy.unloaded version) s).2 = true) :
    (applyCompiled env (CompiledPolicy.unloaded version) s).1.MapsUnloaded := by
  have hmove := apply_move env (CompiledPolicy.unloaded version) s.host s.xdp
  rw [applyCompiled_eq] at hdone ⊢
  generalize (apply env (CompiledPolicy.unloaded version)).run (s.host, s.xdp) = r
    at hmove hdone ⊢
  cases hmove with
  | sizes e hsizes => cases hdone
  | inPlace hsizes =>
      exact mapsUnloaded_of_unload (applyToMaps_written env _ s.host s.xdp) hdone
  | resized resized host' m' hsizes hresize hresized =>
      exact mapsUnloaded_of_unload (applyToMaps_written env _ host' m') hdone
  | resizeFailed resized reason host' m' hsizes hresize hfailed => cases hdone

/-! ## Runs -/

/-- Nothing that runs on the interface has a rule. -/
def AgentRuntime.EnforcesNothing (s : AgentRuntime) : Prop :=
  ∀ program set, s.host.program = some program → program.set = some set →
    (s.host.sets set).maps.Unloaded

/-- The invariant of an agent whose applies are all or nothing while its rules are unloaded. -/
structure OfflineInv (s : AgentRuntime) : Prop where
  runs : RunsOwnMaps s
  unloaded : s.rulesUnloaded = true → s.MapsUnloaded

theorem OfflineInv.enforcesNothing {s : AgentRuntime} (h : OfflineInv s)
    (hflag : s.rulesUnloaded = true) : s.EnforcesNothing := by
  intro program set hrun hset
  rcases h.runs.program program set hrun hset with hown | ⟨-, hunloaded⟩
  · rw [hown]
    exact h.unloaded hflag
  · exact hunloaded

/-- What the apply of a step has to do: while the rules are unloaded, an apply that fails must
stop early; and unloading must end well. -/
def KeepsUnloaded (args : AgentArgs) (s : AgentRuntime) : AgentEvent → Prop
  | .update enabled (some (.ok policy)) env =>
      s.rulesUnloaded = true → AllOrNothing env policy (reconcile env enabled s)
  | .failure env =>
      shouldUnloadRules args (recordControlPlaneFailure s) = true →
        (applyUnloaded env s).2 = true
  | _ => True

/-- The event applies a policy. -/
def AppliesPolicy (s : AgentRuntime) : AgentEvent → Prop
  | .update enabled (some (.ok policy)) env =>
      (applyCompiled env policy (reconcile env enabled s)).2 = true
  | _ => False

theorem OnlyMonitor.runsOwnMaps {s s' : AgentRuntime} (h : OnlyMonitor s s')
    (hruns : RunsOwnMaps s) : RunsOwnMaps s' where
  set_lt := by
    rw [h.xdp, h.host.nextSet]
    exact hruns.set_lt
  program := by
    intro program set hrun hset
    rw [h.host.program] at hrun
    rw [h.xdp, h.host.nextSet, h.host.maps]
    exact hruns.program program set hrun hset

theorem OnlyMonitor.mapsUnloaded {s s' : AgentRuntime} (h : OnlyMonitor s s')
    (hmaps : s.MapsUnloaded) : s'.MapsUnloaded := by
  unfold AgentRuntime.MapsUnloaded
  rw [h.xdp, h.host.maps]
  exact hmaps

theorem OnlyMonitor.offlineInv {s s' : AgentRuntime} (h : OnlyMonitor s s') (hinv : OfflineInv s) :
    OfflineInv s' where
  runs := h.runsOwnMaps hinv.runs
  unloaded hflag := h.mapsUnloaded (hinv.unloaded (h.rulesUnloaded ▸ hflag))

theorem offlineInv_update {s : AgentRuntime} (h : OfflineInv s) (args : AgentArgs) (env : HostEnv)
    (enabled : Bool) (policy : Option (Except String CompiledPolicy))
    (hkeeps : KeepsUnloaded args s (.update enabled policy env)) :
    OfflineInv (processPolicyUpdate env enabled policy s) := by
  have hmonitor := reconcile_onlyMonitor env enabled s
  have hreconciled := hmonitor.offlineInv h
  unfold processPolicyUpdate
  match policy with
  | none => exact hreconciled
  | some (.error e) => exact hreconciled
  | some (.ok compiled) =>
      have hruns := runsOwnMaps_applyCompiled hreconciled.runs env compiled
      have hframe := (applyCompiled_frame env compiled (reconcile env enabled s)).1
      dsimp only
      cases happlied : applyCompiled env compiled (reconcile env enabled s) with
      | mk s' done =>
          rw [happlied] at hruns hframe
          -- The flag goes only with an apply that ends well.
          cases done with
          | true => exact ⟨⟨hruns.set_lt, hruns.program⟩, nofun⟩
          | false =>
              refine ⟨hruns, fun hflag => ?_⟩
              have hflag : s.rulesUnloaded = true := by
                rw [← hmonitor.rulesUnloaded, ← hframe]
                exact hflag
              have hmaps := mapsUnloaded_applyCompiled hreconciled.runs
                (hmonitor.mapsUnloaded (h.unloaded hflag)) (hkeeps hflag) (by rw [happlied])
              rw [happlied] at hmaps
              exact hmaps

theorem offlineInv_failure {s : AgentRuntime} (h : OfflineInv s) {args : AgentArgs}
    {env : HostEnv} (hkeeps : KeepsUnloaded args s (.failure env)) :
    OfflineInv (handleControlPlaneFailure args env s) := by
  have hrecorded : OfflineInv (recordControlPlaneFailure s) :=
    ⟨⟨h.runs.set_lt, h.runs.program⟩, h.unloaded⟩
  rw [handleControlPlaneFailure_eq]
  split
  case isFalse => exact hrecorded
  case isTrue hunloads =>
    have hbefore : OfflineInv (s.beforeUnload env) :=
      (disableDropMonitor_onlyMonitor env _).offlineInv hrecorded
    have hdone := hkeeps hunloads
    have hruns : RunsOwnMaps (applyUnloaded env s).1 :=
      runsOwnMaps_applyCompiled hbefore.runs env _
    have hmaps : (applyUnloaded env s).1.MapsUnloaded := mapsUnloaded_applyCompiled_unloaded hdone
    cases hresult : applyUnloaded env s with
    | mk s' done =>
        rw [hresult] at hdone hruns hmaps
        cases hdone
        exact ⟨⟨hruns.set_lt, hruns.program⟩, fun _ => hmaps⟩

/-- One step of the agent keeps the invariant. -/
theorem offlineInv_step {args : AgentArgs} (s : AgentRuntime) (e : AgentEvent) (s' : AgentRuntime)
    (h : OfflineInv s) (hstep : agentStep args s e = some s') (hkeeps : KeepsUnloaded args s e) :
    OfflineInv s' := by
  unfold agentStep at hstep
  split at hstep
  case isFalse => cases hstep
  case isTrue hrunning =>
    cases e with
    | failure env =>
        cases hstep
        exact offlineInv_failure h hkeeps
    | healthy =>
        cases hstep
        exact ⟨⟨h.runs.set_lt, h.runs.program⟩, h.unloaded⟩
    | update enabled policy env =>
        cases hstep
        exact offlineInv_update h args env enabled policy hkeeps
    | openEvents =>
        cases hstep
        exact ⟨⟨h.runs.set_lt, h.runs.program⟩, h.unloaded⟩
    | closeEvents =>
        cases hstep
        exact ⟨⟨h.runs.set_lt, h.runs.program⟩, h.unloaded⟩

/-- An attach that ends well gives a program with the maps of the manager. -/
theorem offlineInv_attached {env : HostEnv} {interface : String} {sizes : XdpMapSizes}
    {options : XdpAttachOptions} {start host : Host} {m : XdpManager}
    (hpinned : ∀ set, start.pins = some set → set < start.nextSet)
    (hattach : (attach env interface sizes options).run start = .ok m host) :
    OfflineInv (AgentRuntime.attached host m) := by
  have hdone := (attach_ends env interface sizes options start).of_ok hattach
  obtain ⟨id, dispatcher, hprogram⟩ := hdone.program
  refine ⟨⟨hdone.nextSet hpinned, fun program set hrun hset => Or.inl ?_⟩, nofun⟩
  change host.program = some program at hrun
  rw [hprogram] at hrun
  cases hrun
  cases hset
  rfl

/-! ## The flag -/

/-- The flag is only taken back by a policy that is applied. -/
theorem rulesUnloaded_step {args : AgentArgs} (s : AgentRuntime) (e : AgentEvent)
    (s' : AgentRuntime) (hflag : s.rulesUnloaded = true) (hstep : agentStep args s e = some s')
    (hnone : ¬ AppliesPolicy s e) : s'.rulesUnloaded = true := by
  unfold agentStep at hstep
  split at hstep
  case isFalse => cases hstep
  case isTrue hrunning =>
    cases e with
    | failure env =>
        cases hstep
        -- Rules that are unloaded are not unloaded again.
        have hno : shouldUnloadRules args (recordControlPlaneFailure s) = false := by
          simp [shouldUnloadRules, recordControlPlaneFailure, hflag]
        rw [handleControlPlaneFailure_eq, hno]
        exact hflag
    | update enabled policy env =>
        cases hstep
        have hreconciled : (reconcile env enabled s).rulesUnloaded = true := by
          rw [(reconcile_onlyMonitor env enabled s).rulesUnloaded]
          exact hflag
        match policy with
        | none => exact hreconciled
        | some (.error _) => exact hreconciled
        | some (.ok compiled) =>
            have hframe := (applyCompiled_frame env compiled (reconcile env enabled s)).1
            unfold processPolicyUpdate
            change ¬ (applyCompiled env compiled (reconcile env enabled s)).2 = true at hnone
            dsimp only
            cases happlied : applyCompiled env compiled (reconcile env enabled s) with
            | mk s' done =>
                rw [happlied] at hframe hnone
                cases done with
                | true => exact absurd rfl hnone
                | false => exact hframe.trans hreconciled
    | healthy =>
        cases hstep
        exact hflag
    | openEvents =>
        cases hstep
        exact hflag
    | closeEvents =>
        cases hstep
        exact hflag

/-- A failure that reaches the limit leaves the flag set. -/
theorem rulesUnloaded_failure {args : AgentArgs} {env : HostEnv} {s : AgentRuntime}
    (hmode : args.offlineMode = .unloadRules)
    (hlimit : args.offlineFailureLimit.toNat ≤ (recordControlPlaneFailure s).consecutiveFailures)
    (hkeeps : KeepsUnloaded args s (.failure env)) :
    (handleControlPlaneFailure args env s).rulesUnloaded = true := by
  rw [handleControlPlaneFailure_eq]
  cases hflag : s.rulesUnloaded with
  | true =>
      have hno : shouldUnloadRules args (recordControlPlaneFailure s) = false := by
        simp [shouldUnloadRules, recordControlPlaneFailure, hflag]
      rw [hno]
      exact hflag
  | false =>
      have hunloads : shouldUnloadRules args (recordControlPlaneFailure s) = true := by
        have hflag' : (recordControlPlaneFailure s).rulesUnloaded = false := hflag
        simp [shouldUnloadRules, hmode, hflag', hlimit]
      have hdone := hkeeps hunloads
      rw [if_pos hunloads]
      cases hresult : applyUnloaded env s with
      | mk s' done =>
          rw [hresult] at hdone
          cases hdone
          rfl

/-- In every run whose applies are all or nothing while the rules are unloaded, and whose unloads
end well, the flag says what the maps hold; and after a failure that reaches the limit nothing is
enforced until a policy is applied. -/
theorem run_offlineSound {args : AgentArgs} {start s : AgentRuntime} {events : List AgentEvent}
    (hstart : start.JustAttached) (hrun : run (agentStep args) start events = some s)
    (hkeeps : EachStep (agentStep args) (fun s e _ => KeepsUnloaded args s e) start events) :
    (s.rulesUnloaded = true → s.MapsUnloaded ∧ s.EnforcesNothing) ∧
      ∀ before env later reached, events = before ++ .failure env :: later →
        run (agentStep args) start before = some reached → args.offlineMode = .unloadRules →
        args.offlineFailureLimit.toNat ≤ (recordControlPlaneFailure reached).consecutiveFailures →
        EachStep (agentStep args) (fun s e _ => ¬ AppliesPolicy s e)
          (handleControlPlaneFailure args env reached) later →
        s.EnforcesNothing := by
  obtain ⟨env, interface, sizes, options, host₀, host, m, hpinned, hattach⟩ := hstart
  have hinv : OfflineInv s :=
    run_invariant_of_each offlineInv_step (offlineInv_attached hpinned hattach) hkeeps hrun
  refine ⟨fun hflag => ⟨hinv.unloaded hflag, hinv.enforcesNothing hflag⟩, ?_⟩
  intro before env later reached hevents hbefore hmode hlimit hnone
  rw [hevents] at hrun hkeeps
  rw [run_append, hbefore, Option.bind_some] at hrun
  obtain ⟨unloaded, hstep, hlater⟩ := run_cons_eq_some_iff.mp hrun
  have hfailure : unloaded = handleControlPlaneFailure args env reached := by
    unfold agentStep at hstep
    split at hstep
    · cases hstep
      rfl
    · cases hstep
  -- From the failure that unloads on, the flag stays until a policy is applied.
  have hflag : unloaded.rulesUnloaded = true := by
    rw [hfailure]
    exact rulesUnloaded_failure hmode hlimit (hkeeps.of_append hbefore unloaded hstep).1
  rw [← hfailure] at hnone
  exact hinv.enforcesNothing (run_invariant_of_each rulesUnloaded_step hflag hnone hlater)

/-! ### A policy that is refused after its first write -/

def unloadAtOnce : AgentArgs where
  offlineMode := .unloadRules
  offlineFailureLimit := 1

/-- Deny a country, with dynamic defense. -/
def denyOneCountry : CompiledPolicy :=
  { CompiledPolicy.unloaded 1 with
    countryRules := [{ country := 1, action := .deny }]
    dynamicDefense := { XdpDynamicDefense.default with enabled := true } }

/-- A host that grants so many map operations. -/
def grantingEnv (granted : Nat) : HostEnv :=
  { quietHostEnv with granted := some granted }

/-- The agent after its first failure. -/
def unloadedAgent (host : Host) : AgentRuntime :=
  { AgentRuntime.attached host ownManager with
    consecutiveFailures := 1
    rulesUnloaded := true }

theorem applyToMaps_unloaded_own {host : Host} {defense : DefenseValue}
    (hfresh : (host.sets 0).maps = PolicyMaps.fresh defense) :
    ∃ maps, maps.Unloaded ∧ (applyToMaps quietHostEnv (CompiledPolicy.unloaded 0)).run
      (host, ownManager) = .ok () (host.withMaps 0 maps, ownManager) := by
  have hadmitted : Admitted quietHostEnv.applyEnv (CompiledPolicy.unloaded 0)
      (ownManager.view host) 1000000000 := ⟨⟨_, rfl, rfl⟩, rfl⟩
  have hconv : Convertible (pendingOf quietHostEnv.applyEnv (CompiledPolicy.unloaded 0)
      (ownManager.view host)) quietHostEnv.applyEnv.wallNow 1000000000 := by
    rw [pendingOf, pending_unloaded]
    exact fun item hitem => absurd hitem List.not_mem_nil
  obtain ⟨view, hview⟩ := run_applyToCurrentMaps_of_fresh (m := ownManager.view host) hfresh
    hadmitted hconv
  have hwritten := applyToMaps_written quietHostEnv (CompiledPolicy.unloaded 0) host ownManager
  generalize (applyToMaps quietHostEnv (CompiledPolicy.unloaded 0)).run (host, ownManager) = r
    at hwritten ⊢
  cases hwritten with
  | ok view hrun => exact ⟨view.maps, unloaded_of_applied hrun, rfl⟩
  | error e view' left hrun =>
      -- Without a limit the apply ends as the unguarded one does.
      rcases (guards_guardedApplyToCurrentMaps quietHostEnv.applyEnv
        (CompiledPolicy.unloaded 0)).run_none (ownManager.view host) with
        ⟨a, t, -, hguarded⟩ | ⟨e', t, left', hplain, -⟩
      · cases hguarded.symm.trans hrun
      · cases hview.symm.trans hplain

theorem step_failure_own {host : Host} {defense : DefenseValue}
    (hfresh : (host.sets 0).maps = PolicyMaps.fresh defense) :
    ∃ maps, maps.Unloaded ∧
      agentStep unloadAtOnce (AgentRuntime.attached host ownManager) (.failure quietHostEnv) =
        some (unloadedAgent (host.withMaps 0 maps)) := by
  obtain ⟨maps, hmaps, hrun⟩ := applyToMaps_unloaded_own hfresh
  have happlied : applyUnloaded quietHostEnv (AgentRuntime.attached host ownManager) =
      ({ AgentRuntime.attached (host.withMaps 0 maps) ownManager with
          consecutiveFailures := 1 }, true) := by
    rw [applyUnloaded, applyCompiled_eq]
    change AgentRuntime.afterApply _ ((apply quietHostEnv (CompiledPolicy.unloaded 0)).run
      (host, ownManager)) = _
    have happly : (apply quietHostEnv (CompiledPolicy.unloaded 0)).run (host, ownManager) =
        (applyToMaps quietHostEnv (CompiledPolicy.unloaded 0)).run (host, ownManager) := rfl
    rw [happly, hrun]
    rfl
  refine ⟨maps, hmaps, ?_⟩
  change some (handleControlPlaneFailure _ _ _) = _
  rw [handleControlPlaneFailure_eq, happlied]
  rfl

/-- An update whose apply fails leaves what the apply left. -/
theorem processPolicyUpdate_of_failed {env : HostEnv} {enabled : Bool} {compiled : CompiledPolicy}
    {s : AgentRuntime} {e : Fault ApplyError} {after : Host × XdpManager}
    (hreconcile : reconcile env enabled s = s)
    (hrun : (apply env compiled).run (s.host, s.xdp) = .error e after) :
    processPolicyUpdate env enabled (some (.ok compiled)) s =
      { s with
        host := after.1
        xdp := after.2 } := by
  rw [processPolicyUpdate, hreconcile, applyCompiled_eq, hrun]
  rfl

/-- The host refuses everything after the write of the dynamic defense. -/
theorem step_update_own {host : Host} (hunloaded : (host.sets 0).maps.Unloaded) :
    ∃ maps, maps.defensePolicy.enabled = 1 ∧
      agentStep unloadAtOnce (unloadedAgent host)
        (.update false (some (.ok denyOneCountry)) (grantingEnv 1)) =
          some (unloadedAgent (host.withMaps 0 maps)) := by
  obtain ⟨defense, hfresh, -⟩ := hunloaded
  have hadmitted : Admitted (grantingEnv 1).applyEnv denyOneCountry (ownManager.view host)
      1000000000 := ⟨⟨_, rfl, rfl⟩, rfl⟩
  have hstops : ∃ e, (guardedApplyToCurrentMaps (grantingEnv 1).applyEnv denyOneCountry).run
      (ownManager.view host, (grantingEnv 1).granted) =
        .error e (withDefense (ownManager.view host) denyOneCountry, some 0) := by
    rcases run_guardedApplyToCurrentMaps_one hadmitted with hok | herror
    · -- An apply that ends well would have written the country.
      have happlied := (guards_guardedApplyToCurrentMaps (grantingEnv 1).applyEnv
        denyOneCountry).run_ok hok
      have hpending : (pendingOf (grantingEnv 1).applyEnv denyOneCountry
          (ownManager.view host)).countryEntries =
          [countryEntry (1, { country := 1, action := .deny })] := rfl
      have hmem := (mem_countryRules_of_applied happlied).mpr
        (hpending ▸ List.mem_singleton_self _)
      have hempty : (withDefense (ownManager.view host) denyOneCountry).maps.countryRules =
          .empty := congrArg PolicyMaps.countryRules hfresh
      rw [hempty] at hmem
      cases hmem
    · exact herror
  obtain ⟨e, hstops⟩ := hstops
  refine ⟨(withDefense (ownManager.view host) denyOneCountry).maps, rfl, ?_⟩
  have hreconcile : reconcile (grantingEnv 1) false (unloadedAgent host) = unloadedAgent host := rfl
  have happly : (apply (grantingEnv 1) denyOneCountry).run (host, ownManager) =
      (applyToMaps (grantingEnv 1) denyOneCountry).run (host, ownManager) := rfl
  have hwrite : (applyToMaps (grantingEnv 1) denyOneCountry).run (host, ownManager) =
      .error e (host.withMaps 0 (withDefense (ownManager.view host) denyOneCountry).maps,
        ownManager) := by
    simp only [applyToMaps, EStateM.run] at hstops ⊢
    rw [hstops]
    rfl
  change some (processPolicyUpdate _ _ _ _) = _
  rw [processPolicyUpdate_of_failed hreconcile (happly.trans hwrite)]
  rfl

theorem ownHost_of_attach {ownHost : Host}
    (hattach : (attach quietHostEnv "eth0" oneEntry directOptions).run blankHost =
      .ok ownManager ownHost) :
    (AgentRuntime.attached ownHost ownManager).JustAttached ∧
      (∃ defense, (ownHost.sets 0).maps = PolicyMaps.fresh defense) ∧
      ∃ program, ownHost.program = some program ∧ program.set = some 0 := by
  have hdone := (attach_ends quietHostEnv "eth0" oneEntry directOptions blankHost).of_ok hattach
  obtain ⟨-, hsets, -⟩ := hdone.new rfl
  obtain ⟨id, dispatcher, hprogram⟩ := hdone.program
  have hpinned (set : Nat) (hset : blankHost.pins = some set) : set < blankHost.nextSet := by
    cases hset
  refine ⟨.intro _ _ _ _ _ _ _ hpinned hattach, ?_, _, hprogram, rfl⟩
  rw [hsets]
  exact ⟨_, rfl⟩

/-- After an unload, an apply that is refused after its first write enables dynamic defense under
the flag. -/
theorem refilled_under_flag : ∃ start s, start.JustAttached ∧
    run (agentStep unloadAtOnce) start
      [.failure quietHostEnv, .update false (some (.ok denyOneCountry)) (grantingEnv 1)] =
        some s ∧
    s.rulesUnloaded = true ∧ ¬ s.MapsUnloaded ∧ ¬ s.EnforcesNothing := by
  obtain ⟨ownHost, hattach, -⟩ := exists_ownHost
  obtain ⟨hjust, ⟨defense, hfresh⟩, program, hprogram, hset⟩ := ownHost_of_attach hattach
  obtain ⟨unloaded, hunloaded, hfailure⟩ := step_failure_own hfresh
  have hempty : ((ownHost.withMaps 0 unloaded).sets 0).maps.Unloaded := by
    rw [withMaps_self]
    exact hunloaded
  obtain ⟨refilled, henabled, hupdate⟩ := step_update_own hempty
  have hrefilled : ¬ (((ownHost.withMaps 0 unloaded).withMaps 0 refilled).sets 0).maps.Unloaded := by
    rw [withMaps_self]
    rintro ⟨left, hleft, hdisabled⟩
    rw [hleft] at henabled
    exact absurd (hdisabled.symm.trans henabled) (by decide)
  refine ⟨_, unloadedAgent ((ownHost.withMaps 0 unloaded).withMaps 0 refilled), hjust, ?_, rfl,
    hrefilled, fun hnothing => ?_⟩
  · rw [run, hfailure, Option.bind_some, run, hupdate]
    rfl
  · exact hrefilled (hnothing program 0 hprogram hset)

/-! ### An agent that goes offline with rules in its maps -/

/-- The host after a first attach. -/
def attachedHost : Host :=
  writeDropConfig 0 false ((blankHost.withNewSet oneEntry).run (some 0) false)

theorem attach_attachedHost :
    (attach quietHostEnv "eth0" oneEntry directOptions).run blankHost =
      .ok ownManager attachedHost := rfl

/-- The agent has applied a policy that denies a country. -/
def enforcingAgent : AgentRuntime :=
  processPolicyUpdate quietHostEnv false (some (.ok denyOneCountry))
    (AgentRuntime.attached attachedHost ownManager)

/-- The control plane fails, and the rules are unloaded. -/
def offlineAgent : AgentRuntime :=
  handleControlPlaneFailure unloadAtOnce quietHostEnv enforcingAgent

/-- The next policy is refused by the host before its first write. -/
def stoppedAgent : AgentRuntime :=
  processPolicyUpdate (grantingEnv 0) false (some (.ok denyOneCountry)) offlineAgent

def offlineEvents : List AgentEvent :=
  [.update false (some (.ok denyOneCountry)) quietHostEnv,
    .failure quietHostEnv,
    .update false (some (.ok denyOneCountry)) (grantingEnv 0)]

theorem step_enforcingAgent :
    agentStep unloadAtOnce (AgentRuntime.attached attachedHost ownManager)
      (.update false (some (.ok denyOneCountry)) quietHostEnv) = some enforcingAgent := rfl

theorem step_offlineAgent :
    agentStep unloadAtOnce enforcingAgent (.failure quietHostEnv) = some offlineAgent := by
  have hrunning : enforcingAgent.running = true := by decide +kernel
  exact if_pos hrunning

theorem step_stoppedAgent :
    agentStep unloadAtOnce offlineAgent
      (.update false (some (.ok denyOneCountry)) (grantingEnv 0)) = some stoppedAgent := by
  have hrunning : offlineAgent.running = true := by decide +kernel
  exact if_pos hrunning

theorem enforcingAgent_enforces : ¬ enforcingAgent.EnforcesNothing := by
  intro hnothing
  have hprogram : enforcingAgent.host.program =
      some { id := 0, set := some 0, dispatcher := false } := by decide +kernel
  obtain ⟨defense, hmaps, -⟩ := hnothing _ 0 hprogram rfl
  have hcountries : (enforcingAgent.host.sets 0).maps.countryRules.size = 1 := by decide +kernel
  rw [hmaps] at hcountries
  cases hcountries

/-- The update that stops early leaves the rules unloaded. -/
theorem run_offlineSound_stoppedAgent :
    (AgentRuntime.attached attachedHost ownManager).JustAttached ∧
      run (agentStep unloadAtOnce) (AgentRuntime.attached attachedHost ownManager) offlineEvents =
        some stoppedAgent ∧
      ¬ enforcingAgent.EnforcesNothing ∧
      stoppedAgent.rulesUnloaded = true ∧ stoppedAgent.EnforcesNothing := by
  have hjust := (ownHost_of_attach attach_attachedHost).1
  have hrun : run (agentStep unloadAtOnce) (AgentRuntime.attached attachedHost ownManager)
      offlineEvents = some stoppedAgent := by
    rw [offlineEvents, run, step_enforcingAgent, Option.bind_some, run, step_offlineAgent,
      Option.bind_some, run, step_stoppedAgent]
    rfl
  have hunload : (applyUnloaded quietHostEnv enforcingAgent).2 = true := by decide +kernel
  have hrefused : ¬ AppliesPolicy offlineAgent
      (.update false (some (.ok denyOneCountry)) (grantingEnv 0)) := by
    have hfails : (applyCompiled (grantingEnv 0) denyOneCountry
        (reconcile (grantingEnv 0) false offlineAgent)).2 = false := by decide +kernel
    exact fun happlies => Bool.false_ne_true (hfails.symm.trans happlies)
  have hkeeps : EachStep (agentStep unloadAtOnce) (fun s e _ => KeepsUnloaded unloadAtOnce s e)
      (AgentRuntime.attached attachedHost ownManager) offlineEvents := by
    intro enforcing henforcing
    obtain rfl := Option.some.inj (step_enforcingAgent.symm.trans henforcing)
    refine ⟨fun hfailure => (by cases hfailure), fun offline hoffline => ?_⟩
    obtain rfl := Option.some.inj (step_offlineAgent.symm.trans hoffline)
    -- The host grants the last apply nothing at all.
    exact ⟨fun _ => hunload, fun _ _ => ⟨fun _ _ _ _ => Or.inr (Or.inr (Or.inl rfl)), trivial⟩⟩
  have hsound := run_offlineSound hjust hrun hkeeps
  refine ⟨hjust, hrun, enforcingAgent_enforces, by decide +kernel, ?_⟩
  exact hsound.2 [.update false (some (.ok denyOneCountry)) quietHostEnv] quietHostEnv
    [.update false (some (.ok denyOneCountry)) (grantingEnv 0)] enforcingAgent rfl rfl rfl
    (by decide +kernel) fun _ _ => ⟨hrefused, trivial⟩

end Agent
end XdpFirewall
