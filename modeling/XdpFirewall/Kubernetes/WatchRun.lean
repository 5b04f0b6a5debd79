import XdpFirewall.Kubernetes.WatchLoop

/-!
# WatchRun — the cached networks are those of the cluster

An open watch tells of every change after the list that it started from. The cached networks come
from another list, which was read before. They are those of the cluster as long as nothing changes
between the two.
-/

namespace XdpFirewall
namespace Kubernetes

open ControlPlane Lib Net

variable {text : TextReaders} {api : ServiceCidrApi}

/-! ## The invariant -/

/-- A watch that has no event to deliver leaves its list as the last refresh saw it. -/
def TaskOk (text : TextReaders) (s : World) (target : K8sTarget) : WatchTask → Prop
  | .listing | .reported => True
  | .opening resourceVersion | .streaming resourceVersion =>
      resourceVersion ≤ s.version ∧
        (s.changedAt target ≤ resourceVersion → s.Unchanged text target)
  | .unsupported => s.Unchanged text target

structure Inv (text : TextReaders) (api : ServiceCidrApi) (s : World) : Prop where
  discovering : ∀ initial d, s.phase = .discovering initial d → d.Faithful text api
  cached : ∀ listed, s.listed = some listed → ∃ discovered,
    discover text api listed = .ok discovered ∧ s.cache.cidrs = discovered.cidrs ∧
      s.cache.serviceCidrPartial = discovered.serviceCidrPartial
  waiting : ∀ w, s.phase = .waiting w → w.watchServices = s.cache.serviceCidrPartial ∧
    ∀ target, TaskOk text s target (w.task target)

theorem inv_start (cluster : Cluster) (version : Nat) :
    Inv text api (World.start cluster version) where
  discovering := by
    intro initial d h
    cases h
    trivial
  cached := nofun
  waiting := nofun

/-! ## The cluster changes -/

theorem networksOf_apply_of_ne {change : Change} {target : K8sTarget}
    (hne : target ≠ change.target) (cluster : Cluster) (cidrs : List IpNet) :
    networksOf text (change.apply cluster) cidrs target = networksOf text cluster cidrs target := by
  cases change with
  | nodes items =>
      cases target with
      | nodes => exact absurd rfl hne
      | services => rfl
      | serviceCidrs => rfl
  | services items =>
      cases target with
      | nodes => rfl
      | services => exact absurd rfl hne
      | serviceCidrs => rfl
  | serviceCidrs items =>
      cases target with
      | nodes => rfl
      | services => rfl
      | serviceCidrs => exact absurd rfl hne

theorem unchanged_of_ne {s s' : World} {change : Change} {target : K8sTarget}
    (hs' : step text api s (.change change) = some s') (hne : target ≠ change.target)
    (h : s.Unchanged text target) : s'.Unchanged text target := by
  cases hs'
  intro listed hlisted cidrs
  calc
    networksOf text (change.apply s.cluster) cidrs target
      = networksOf text s.cluster cidrs target := networksOf_apply_of_ne hne ..
    _ = networksOf text listed cidrs target := h listed hlisted cidrs

/-- The change of its own list is an event for an open watch, that of another one is none. -/
theorem watching_change {s s' : World} {change : Change} {target : K8sTarget}
    {resourceVersion : Nat} (hs' : step text api s (.change change) = some s')
    (h : resourceVersion ≤ s.version ∧
      (s.changedAt target ≤ resourceVersion → s.Unchanged text target)) :
    resourceVersion ≤ s'.version ∧
      (s'.changedAt target ≤ resourceVersion → s'.Unchanged text target) := by
  obtain ⟨hversion, hunchanged⟩ := h
  by_cases htarget : target = change.target
  · have hat : s'.changedAt target = s.version + 1 := by
      cases hs'
      rw [htarget]
      exact Function.update_self ..
    have hversion' : s'.version = s.version + 1 := by
      cases hs'
      rfl
    rw [hat, hversion']
    exact ⟨Nat.le_succ_of_le hversion, fun hle => absurd hle (by omega)⟩
  · have hat : s'.changedAt target = s.changedAt target := by
      cases hs'
      exact Function.update_of_ne htarget ..
    have hversion' : s'.version = s.version + 1 := by
      cases hs'
      rfl
    rw [hat, hversion']
    exact ⟨Nat.le_succ_of_le hversion, fun hle => unchanged_of_ne hs' htarget (hunchanged hle)⟩

theorem taskOk_change {s s' : World} {change : Change} {target : K8sTarget} {task : WatchTask}
    (hs' : step text api s (.change change) = some s') (hok : TaskOk text s target task)
    (hunwatched : target = change.target → task = .unsupported → s'.Unchanged text target) :
    TaskOk text s' target task := by
  cases task with
  | listing => trivial
  | opening resourceVersion => exact watching_change hs' hok
  | streaming resourceVersion => exact watching_change hs' hok
  | unsupported =>
      by_cases htarget : target = change.target
      · exact hunwatched htarget rfl
      · exact unchanged_of_ne hs' htarget hok
  | reported => trivial

theorem inv_change {s s' : World} {change : Change} (h : Inv text api s)
    (hs' : step text api s (.change change) = some s')
    (hnoticed : Noticed text s (.change change) s') : Inv text api s' where
  discovering := by
    cases hs'
    exact h.discovering
  cached := by
    cases hs'
    exact h.cached
  waiting := by
    intro w hw
    have hphase : s.phase = .waiting w := by
      cases hs'
      exact hw
    have hcache : s'.cache = s.cache := by
      cases hs'
      rfl
    obtain ⟨hservices, htasks⟩ := h.waiting w hphase
    refine ⟨by rw [hcache, hservices], fun target => ?_⟩
    refine taskOk_change hs' (htasks target) ?_
    rintro rfl htask
    exact hnoticed ⟨w, hphase, htask⟩

/-! ## A refresh -/

theorem inv_refreshFailed (s : World) (initial : Bool) :
    Inv text api (s.refreshFailed initial) where
  discovering := by
    intro _ _ hphase
    cases initial <;> cases hphase
  cached := nofun
  waiting := by
    intro _ hphase
    cases initial <;> cases hphase

theorem inv_refreshDone {s : World} {initial : Bool} {listed : Cluster}
    {result : Except String KubernetesRuntimeCidrs}
    (hresult : discover text api listed = result) :
    Inv text api (s.refreshDone initial listed result) := by
  cases result with
  | error e => exact inv_refreshFailed s initial
  | ok discovered =>
      refine ⟨?_, ?_, ?_⟩
      · intro _ _ hphase
        cases initial <;> cases hphase
      · intro _ hlisted
        cases hlisted
        exact ⟨discovered, hresult, rfl, rfl⟩
      · intro _ hphase
        cases initial <;> cases hphase

theorem inv_answered {s s' : World} (h : Inv text api s)
    (hs' : step text api s .answered = some s') : Inv text api s' := by
  rw [step] at hs'
  split at hs'
  · rename_i initial d hphase
    have hd := h.discovering initial d hphase
    cases hanswer : d.answer text api s.cluster with
    | request next =>
        rw [hanswer] at hs'
        cases hs'
        refine ⟨?_, h.cached, nofun⟩
        intro _ _ hnext
        cases hnext
        exact faithful_of_answer hd hanswer
    | done listed result =>
        rw [hanswer] at hs'
        cases hs'
        exact inv_refreshDone (discover_of_answer hd hanswer)
  · cases hs'

/-! ## The watches -/

theorem inv_of_phase {s : World} {phase : Phase} (h : Inv text api s)
    (hdiscovering : ∀ initial d, phase = .discovering initial d → d.Faithful text api)
    (hwaiting : ∀ w, phase = .waiting w → w.watchServices = s.cache.serviceCidrPartial ∧
      ∀ target, TaskOk text s target (w.task target)) :
    Inv text api { s with phase := phase } :=
  ⟨hdiscovering, h.cached, hwaiting⟩

theorem inv_watchFailed {s : World} (h : Inv text api s) : Inv text api s.watchFailed :=
  ⟨nofun, h.cached, nofun⟩

/-- A task that goes on keeps the version that its watch starts at. -/
theorem taskOk_goesOn {s : World} {target : K8sTarget} {task next : WatchTask} {event : TaskEvent}
    {s' : World} (hok : TaskOk text s target task)
    (hnoticed : Noticed text s (.task target event) s')
    (h : taskStep api s.version (s.changedAt target) target task event = some (.goesOn next)) :
    TaskOk text s target next := by
  cases task with
  | listing =>
      cases event with
      | listAnswered =>
          have hnext : next = .opening s.version := by
            cases target <;> cases api <;> cases h <;> rfl
          rw [hnext]
          exact ⟨Nat.le_refl _, fun _ => hnoticed⟩
      | listUnavailable => cases h
      | opened => cases h
      | unavailable => cases h
      | line line => cases h
      | streamEnded => cases h
      | failed e => cases h
  | opening resourceVersion =>
      cases event with
      | opened =>
          cases h
          exact hok
      | listAnswered => cases h
      | listUnavailable => cases h
      | unavailable => cases h
      | line line => cases h
      | streamEnded => cases h
      | failed e => cases h
  | streaming resourceVersion =>
      cases event with
      | line line =>
          simp only [taskStep] at h
          split at h
          · split at h <;> cases h
          · cases h
            exact hok
          · cases h
      | listAnswered => cases h
      | listUnavailable => cases h
      | opened => cases h
      | unavailable => cases h
      | streamEnded => cases h
      | failed e => cases h
  | unsupported => cases event <;> cases h
  | reported => cases event <;> cases h

/-- Only a list or a watch that is not there makes a target unsupported. -/
theorem taskOk_sends {s : World} {target : K8sTarget} {task : WatchTask} {event : TaskEvent}
    {result : Except String KubernetesWatchOutcome} {s' : World}
    (hnoticed : Noticed text s (.task target event) s')
    (h : taskStep api s.version (s.changedAt target) target task event = some (.sends result)) :
    TaskOk text s target (sentTask result) := by
  cases task with
  | listing =>
      cases event with
      | listAnswered =>
          have hresult : result = .ok .unsupported ∨ ∃ e, result = .error e := by
            cases target <;> cases api <;> cases h
            · exact Or.inl rfl
            · exact Or.inr ⟨_, rfl⟩
          rcases hresult with rfl | ⟨e, rfl⟩
          · exact hnoticed
          · trivial
      | listUnavailable =>
          cases h
          exact hnoticed
      | failed e =>
          cases h
          trivial
      | opened => cases h
      | unavailable => cases h
      | line line => cases h
      | streamEnded => cases h
  | opening resourceVersion =>
      cases event with
      | unavailable =>
          cases h
          exact hnoticed
      | failed e =>
          cases h
          trivial
      | opened => cases h
      | listAnswered => cases h
      | listUnavailable => cases h
      | line line => cases h
      | streamEnded => cases h
  | streaming resourceVersion =>
      cases event with
      | line line =>
          simp only [taskStep] at h
          split at h
          · split at h
            · cases h
              trivial
            · cases h
          · cases h
          · cases h
            trivial
      | streamEnded =>
          cases h
          trivial
      | failed e =>
          cases h
          trivial
      | listAnswered => cases h
      | listUnavailable => cases h
      | opened => cases h
      | unavailable => cases h
  | unsupported => cases event <;> cases h
  | reported => cases event <;> cases h

theorem taskOk_update {s : World} {task : K8sTarget → WatchTask} {target : K8sTarget}
    {next : WatchTask} (h : ∀ target, TaskOk text s target (task target))
    (hnext : TaskOk text s target next) (other : K8sTarget) :
    TaskOk text s other (Function.update task target next other) := by
  by_cases hother : other = target
  · subst hother
    rw [Function.update_self]
    exact hnext
  · rw [Function.update_of_ne hother]
    exact h other

theorem inv_task {s s' : World} {target : K8sTarget} {event : TaskEvent} (h : Inv text api s)
    (hs' : step text api s (.task target event) = some s')
    (hnoticed : Noticed text s (.task target event) s') : Inv text api s' := by
  rw [step] at hs'
  split at hs'
  case h_2 => cases hs'
  case h_1 w hphase =>
  split at hs'
  case isFalse => cases hs'
  case isTrue =>
  obtain ⟨hservices, htasks⟩ := h.waiting w hphase
  obtain ⟨next, hnext, rfl⟩ := Option.map_eq_some_iff.mp hs'
  refine inv_of_phase h nofun fun w' hw' => ?_
  cases hw'
  cases next with
  | goesOn task =>
      exact ⟨hservices, taskOk_update htasks (taskOk_goesOn (htasks target) hnoticed hnext)⟩
  | sends result =>
      exact ⟨hservices, taskOk_update htasks (taskOk_sends hnoticed hnext)⟩

theorem inv_received {s s' : World} {w : Watches} (h : Inv text api s)
    (hphase : s.phase = .waiting w) (hs' : s.received w = some s') : Inv text api s' := by
  rw [World.received] at hs'
  split at hs'
  · cases hs'
  · cases hs'
    refine inv_of_phase h ?_ nofun
    intro _ _ hd
    cases hd
    trivial
  · cases hs'
    exact inv_of_phase h nofun nofun
  · split at hs'
    · cases hs'
      exact inv_watchFailed h
    · cases hs'
      refine inv_of_phase h nofun fun w' hw' => ?_
      cases hw'
      exact h.waiting w hphase
  · cases hs'
    exact inv_watchFailed h

/-! ## Runs -/

theorem inv_step {s s' : World} {e : Event} (h : Inv text api s)
    (hs' : step text api s e = some s') (hnoticed : Noticed text s e s') : Inv text api s' := by
  cases e with
  | change change => exact inv_change h hs' hnoticed
  | answered => exact inv_answered h hs'
  | requestFailed =>
      rw [step] at hs'
      split at hs'
      · cases hs'
        exact inv_refreshFailed s _
      · cases hs'
  | watch =>
      rw [step] at hs'
      split at hs'
      · cases hs'
        refine inv_of_phase h nofun fun w hw => ?_
        cases hw
        exact ⟨rfl, fun _ => trivial⟩
      · cases hs'
  | task target event => exact inv_task h hs' hnoticed
  | received =>
      rw [step] at hs'
      split at hs'
      · rename_i w hphase
        exact inv_received h hphase hs'
      · cases hs'
  | woken =>
      rw [step] at hs'
      split at hs'
      · cases hs'
        exact inv_of_phase h nofun nofun
      · cases hs'

theorem Inv.current {s : World} (h : Inv text api s) (hquiet : s.Quiet)
    (hlisted : s.listed.isSome) : s.Current text api := by
  obtain ⟨listed, hlisted⟩ := Option.isSome_iff_exists.mp hlisted
  obtain ⟨w, hphase, -, hopen⟩ := hquiet
  obtain ⟨discovered, hdiscover, hcidrs, hserved⟩ := h.cached listed hlisted
  obtain ⟨hservices, htasks⟩ := h.waiting w hphase
  have hsame : ∀ target ∈ k8sWatchTargets w.watchServices, ∀ cidrs,
      networksOf text s.cluster cidrs target = networksOf text listed cidrs target := by
    intro target hmem
    have htask := htasks target
    rcases hopen target hmem with ⟨resourceVersion, hstreaming, hseen⟩ | hunsupported
    · rw [hstreaming] at htask
      exact htask.2 hseen listed hlisted
    · rw [hunsupported] at htask
      exact htask listed hlisted
  -- The last refresh has told the loop which of the two service lists it has read.
  have hwatched : w.watchServices = decide (api ≠ .available) := by
    rw [hservices, hserved, serviceCidrPartial_of_discover hdiscover]
  have htargets : k8sWatchTargets w.watchServices = [.nodes, api.target] := by
    rw [hwatched]
    cases api <;> rfl
  rw [htargets] at hsame
  have hnodes := hsame .nodes List.mem_cons_self
  have hservice := hsame api.target (List.mem_cons_of_mem _ List.mem_cons_self)
  calc
    KubernetesRuntimeCidrs.cidrs <$> discover text api s.cluster
      = KubernetesRuntimeCidrs.cidrs <$> discover text api listed := by
        rw [cidrs_discover, cidrs_discover, hnodes]
        congr 1
        funext cidrs
        exact hservice cidrs
    _ = .ok s.cache.cidrs := by
        rw [hdiscover, hcidrs]
        rfl

/-- In every run that meets the condition, whenever the loop waits after a refresh that succeeded,
the cached networks are those of the cluster. -/
theorem current_of_quiet {cluster : Cluster} {version : Nat} {es : List Event} {s : World}
    (hrun : run (step text api) (World.start cluster version) es = some s)
    (hnoticed : EachStep (step text api) (Noticed text) (World.start cluster version) es)
    (hquiet : s.Quiet) (hlisted : s.listed.isSome) : s.Current text api :=
  (run_invariant_of_each (fun _ _ _ => inv_step) (inv_start cluster version) hnoticed
    hrun).current hquiet hlisted

/-! ## A round that nothing disturbs -/

/-- A round up to where both watches are open. -/
def openWatches : List Event :=
  [.watch, .task .nodes .listAnswered, .task .serviceCidrs .listAnswered, .task .nodes .opened,
    .task .serviceCidrs .opened]

theorem run_openWatches {s : World} (hphase : s.phase = .starting)
    (hserved : s.cache.serviceCidrPartial = false)
    (hchanged : ∀ target, s.changedAt target ≤ s.version) :
    ∃ s', run (step text .available) s openWatches = some s' ∧ s'.Quiet ∧
      s'.cluster = s.cluster ∧ s'.cache = s.cache ∧ s'.listed = s.listed := by
  obtain ⟨cluster, version, changedAt, ⟨cidrs, initialized, serviceCidrPartial, failed⟩, phase,
    listed⟩ := s
  cases hphase
  cases hserved
  refine ⟨_, rfl, ⟨_, rfl, rfl, ?_⟩, rfl, rfl, rfl⟩
  intro target hmem
  refine Or.inl ⟨version, ?_, hchanged target⟩
  rcases List.mem_pair.mp hmem with rfl | rfl
  · rfl
  · rfl

/-! ## A node joins -/

/-- A reader that knows one text. -/
def podText : TextReaders where
  ipNet := fun value =>
    if value = "10.42.0.0/24" then some (.v4 (.slash 0x0a2a0000 24)) else none
  ipAddr := fun _ => none
  cidrArray := fun _ => []
  stringArray := fun _ => none

def emptyCluster : Cluster where
  nodes := []
  serviceCidrs := []
  services := []

def joinedNode : Node where
  status := none
  spec := some { podCidr := none, podCidrs := some ["10.42.0.0/24"] }

/-- The node joins while its watch is open. -/
def noticedEvents : List Event :=
  [.answered, .answered] ++ openWatches ++
    [.change (.nodes [joinedNode]), .task .nodes (.line (.event .added)), .received, .answered,
      .answered, .woken]

/-- The node joins between the initial refresh and the first watch. -/
def missedEvents : List Event :=
  [.answered, .answered, .change (.nodes [joinedNode])]

/-- The lists are those that the last refresh has read, and every target is watched. -/
def SameLists (s : World) (e : Event) (_ : World) : Prop :=
  match e with
  | .task _ .listAnswered => s.listed = some s.cluster
  | .task _ .listUnavailable | .task _ .unavailable => False
  | .change change =>
      match s.phase with
      | .waiting w => w.task change.target ≠ .unsupported
      | _ => True
  | _ => True

instance (s : World) (e : Event) (s' : World) : Decidable (SameLists s e s') := by
  unfold SameLists
  split <;> try infer_instance
  split <;> infer_instance

theorem SameLists.noticed {s s' : World} {e : Event} (h : SameLists s e s') :
    Noticed text s e s' := by
  cases e with
  | change change =>
      rintro ⟨w, hphase, htask⟩
      simp only [SameLists, hphase] at h
      exact absurd htask h
  | task target event =>
      cases event with
      | listAnswered =>
          intro listed hlisted cidrs
          cases h.symm.trans hlisted
          rfl
      | listUnavailable => exact absurd h id
      | unavailable => exact absurd h id
      | opened => trivial
      | line line => trivial
      | streamEnded => trivial
      | failed e => trivial
  | answered => trivial
  | requestFailed => trivial
  | watch => trivial
  | received => trivial
  | woken => trivial

/-- The process after a refresh that has read the joined node. -/
def joinedWorld (cidrs : List IpNet) (podCidrs : Nat) (listed : Cluster) : World where
  cluster := { emptyCluster with nodes := [joinedNode] }
  version := 8
  changedAt := Function.update (fun _ => 7) .nodes 8
  cache := .refreshed
    { cidrs := cidrs
      nodeIps := 0
      podCidrs := podCidrs
      serviceCidrs := 0
      serviceCidrPartial := false }
  phase := .starting
  listed := some listed

theorem current_of_quiet_noticed :
    ∃ s, run (step podText .available) (World.start emptyCluster 7)
        (noticedEvents ++ openWatches) = some s ∧ s.Current podText .available := by
  let joined : World :=
    joinedWorld [.v4 (.slash 0x0a2a0000 24)] 1 { emptyCluster with nodes := [joinedNode] }
  have hnoticed : run (step podText .available) (World.start emptyCluster 7) noticedEvents =
      some joined := rfl
  obtain ⟨s, hs, hquiet, -, -, hlisted⟩ :=
    @run_openWatches podText joined rfl rfl fun target => by cases target <;> decide
  have hrun : run (step podText .available) (World.start emptyCluster 7)
      (noticedEvents ++ openWatches) = some s := by
    rw [run_append, hnoticed]
    exact hs
  have hsame : EachStep (step podText .available) SameLists (World.start emptyCluster 7)
      (noticedEvents ++ openWatches) := by decide
  refine ⟨s, hrun, current_of_quiet hrun (hsame.mono fun _ _ _ => SameLists.noticed) hquiet ?_⟩
  rw [hlisted]
  rfl

/-- The new pods are not trusted, and no event tells of them. -/
theorem joined_missed :
    ∃ s, run (step podText .available) (World.start emptyCluster 7)
        (missedEvents ++ openWatches) = some s ∧
      s.Quiet ∧ s.listed.isSome ∧ ¬ s.Current podText .available := by
  let missed : World := joinedWorld [] 0 emptyCluster
  have hmissed : run (step podText .available) (World.start emptyCluster 7) missedEvents =
      some missed := rfl
  obtain ⟨s, hs, hquiet, hcluster, hcache, hlisted⟩ :=
    @run_openWatches podText missed rfl rfl fun target => by cases target <;> decide
  refine ⟨s, ?_, hquiet, ?_, ?_⟩
  · rw [run_append, hmissed]
    exact hs
  · rw [hlisted]
    rfl
  · rw [World.Current, hcluster, hcache]
    decide

end Kubernetes
end XdpFirewall
