import Mathlib.Data.List.Basic
import XdpFirewall.ControlPlane.Revocation

/-!
# MonitorAgreement — the drop monitor of an agent and those who watch it

The setting travels with policies and in messages of its own. The stream task remembers what it
sent last and looks at the subscriptions again when they change. A new stream takes what it finds
in the hub for sent, and sends it only when somebody watches; an agent that comes back with its
monitor on, after the last viewer has left, keeps it on until something else is sent.
-/

namespace XdpFirewall
namespace ControlPlane

open Lib Net Policy

/-! ## What the agent will have -/

/-- The drop monitor once the agent is done with its task. -/
def AgentTask.monitor (current : Bool) : AgentTask → Bool
  | .asking fetch | .granted fetch | .paging fetch _ _ => fetch.dropMonitorEnabled
  | .offline | .waiting | .applying _ => current

/-- The drop monitor once the agent is done with its task and its messages. -/
def SyncState.comingMonitor (s : SyncState) : Bool :=
  (s.queue.map PolicyUpdate.dropMonitorEnabled).getLastD (s.agent.task.monitor s.agent.dropMonitor)

/-- The stream task waits with no notification, and the agent with no message. -/
def Settled (s : SyncState) : Prop :=
  s.queue = [] ∧ s.agent.task = .waiting ∧
    ∃ stream, s.stream = some stream ∧ stream.task = .waiting ∧ stream.changed = false

/-- When an agent subscribes, somebody watches it, or its monitor is off, or the first look at the
version will send it the policy. -/
def MonitorTold (env : SyncEnv) (s : SyncState) (e : SyncEvent) : Prop :=
  e = .subscribe → s.monitored env = true ∨ s.agent.dropMonitor = false ∨
    s.runtime.enabled = true ∨ s.agent.appliedVersion < s.version

section

variable {env : SyncEnv} {s s' : SyncState}

/-! ## Agent moves -/

theorem comingMonitor_afterPage (fetch : GeoFetch) (page : GeoPrefixPage)
    (htask : s.agent.task.monitor s.agent.dropMonitor = fetch.dropMonitorEnabled) :
    (s.afterPage fetch page).comingMonitor = s.comingMonitor := by
  unfold SyncState.comingMonitor SyncState.afterPage
  rw [htask]
  cases page.next <;> rfl

theorem comingMonitor_received (update : PolicyUpdate) (queue : List PolicyUpdate)
    (snapshot : PolicySnapshot) (hqueue : s.queue = update :: queue) :
    (({ s with queue := queue } : SyncState).received update snapshot).comingMonitor =
      s.comingMonitor := by
  unfold SyncState.comingMonitor
  rw [hqueue, List.map_cons, List.getLastD_cons]
  unfold SyncState.received
  split <;> rfl

/-- The agent works towards the setting that was sent last. -/
theorem AgentMove.comingMonitor (h : AgentMove env s s') (hstream : s'.stream ≠ none) :
    s'.comingMonitor = s.comingMonitor := by
  cases h with
  | monitor update queue htask hqueue hpolicy =>
      unfold SyncState.comingMonitor
      rw [hqueue, List.map_cons, List.getLastD_cons, htask]
      rfl
  | policy update queue snapshot htask hqueue hpolicy =>
      exact comingMonitor_received update queue snapshot hqueue
  | granted fetch htask | countries fetch htask =>
      unfold SyncState.comingMonitor
      rw [htask]
      rfl
  | country fetch page page' country countryIndex countries htask hcollect hnext =>
      unfold SyncState.comingMonitor
      rw [htask]
      rfl
  | full fetch page page' country countryIndex countries htask hcollect hnext =>
      exact comingMonitor_afterPage fetch page' (by rw [htask]; rfl)
  | lastCountry fetch page htask => exact comingMonitor_afterPage fetch page (by rw [htask]; rfl)
  | applied snapshot htask =>
      unfold SyncState.comingMonitor
      rw [htask]
      rfl
  | failed | disconnect => exact absurd rfl hstream

theorem AgentMove.online (h : AgentMove env s s') (htask : s.agent.task ≠ .offline)
    (hstream : s'.stream ≠ none) : s'.agent.task ≠ .offline := by
  have hafter (fetch : GeoFetch) (page : GeoPrefixPage) :
      (s.afterPage fetch page).agent.task ≠ .offline := by
    unfold SyncState.afterPage
    cases page.next <;> exact nofun
  cases h with
  | monitor => exact htask
  | policy update queue snapshot =>
      unfold SyncState.received
      split <;> exact nofun
  | full fetch page page' => exact hafter fetch page'
  | lastCountry fetch page => exact hafter fetch page
  | failed | disconnect => exact absurd rfl hstream
  | _ => exact nofun

/-! ## The invariant -/

/-- The stream has sent no policy so far, and will at the look that it has taken. -/
def PushOwed (s : SyncState) (stream : PolicyStream) : Prop :=
  stream.cursor.runtimeFingerprint = none ∧
    match stream.task with
    | .waiting => False
    | .ticking => s.runtime.enabled = true ∨ stream.cursor.version < s.version
    | .versionRead version => s.runtime.enabled = true ∨ stream.cursor.version < version
    | .runtimeRead _ _ | .loading _ _ _ _ => True

/-- The cursor has what the agent will have, unless a policy is owed, and what the hub says,
unless that has changed. -/
structure MonitorInv (env : SyncEnv) (s : SyncState) (stream : PolicyStream) : Prop where
  online : s.agent.task ≠ .offline
  agent : s.comingMonitor = stream.cursor.dropMonitorEnabled ∨ PushOwed s stream
  hub : stream.changed = false → stream.cursor.dropMonitorEnabled = s.monitored env

theorem PushOwed.of_version_le {stream : PolicyStream} (h : PushOwed s stream)
    (hruntime : s'.runtime.enabled = s.runtime.enabled) (hversion : s.version ≤ s'.version) :
    PushOwed s' stream := by
  obtain ⟨hnone, htask⟩ := h
  refine ⟨hnone, ?_⟩
  cases heq : stream.task with
  | waiting => rw [heq] at htask; exact htask
  | ticking =>
      rw [heq] at htask
      rw [hruntime]
      exact htask.imp id fun hlt => Int.lt_of_lt_of_le hlt hversion
  | versionRead version => rw [heq] at htask; rw [hruntime]; exact htask
  | runtimeRead version runtime => trivial
  | loading version runtime snapshot toLoad => trivial

theorem comingMonitor_append (update : PolicyUpdate) (stream : Option PolicyStream) :
    ({ s with stream := stream, queue := s.queue ++ [update] } : SyncState).comingMonitor =
      update.dropMonitorEnabled := by
  simp [SyncState.comingMonitor]

/-- A message leaves cursor and agent with the same setting. -/
theorem monitorInv_trySend {stream stream' : PolicyStream} {update : PolicyUpdate}
    {accepted : Bool} (honline : s.agent.task ≠ .offline)
    (hcursor : stream.cursor.dropMonitorEnabled = s.monitored env)
    (hupdate : update.dropMonitorEnabled = s.monitored env)
    (hstream : (s.trySend update stream accepted).stream = some stream') :
    MonitorInv env (s.trySend update stream accepted) stream' := by
  cases accepted with
  | false => cases hstream
  | true =>
      cases hstream
      refine ⟨honline, Or.inl ?_, fun _ => hcursor⟩
      exact (comingMonitor_append update _).trans (hupdate.trans hcursor.symm)

/-- A look that finds nothing new owes no policy. -/
theorem not_pushOwed_of_unchanged {stream : PolicyStream} {version : Int}
    (htask : stream.task = .versionRead version)
    (hsame : policyUpdateUnchanged version stream.cursor.version s.runtime
      stream.cursor.runtimeFingerprint (env.fingerprint s.runtime.currentSnapshot) = true) :
    ¬ PushOwed s stream := by
  rintro ⟨hnone, howed⟩
  rw [htask] at howed
  rw [policyUpdateUnchanged, hnone, Bool.and_eq_true, decide_eq_true_eq] at hsame
  obtain ⟨hversion, henabled⟩ := hsame
  rcases howed with howed | hlt
  · simp [howed] at henabled
  · exact absurd hversion (Int.not_le.mpr hlt)

theorem MonitorInv.streamMove {stream stream' : PolicyStream} {e : SyncEvent}
    (h : MonitorInv env s stream) (hmove : StreamMove env s stream e s')
    (hstream : s'.stream = some stream') : MonitorInv env s' stream' := by
  -- Where nothing is sent the cursor stays, and so does what the agent will have.
  have hkeep (task : StreamTask)
      (howed : PushOwed s stream → PushOwed s { stream with task := task }) :
      MonitorInv env (s.withStream { stream with task := task }) { stream with task := task } :=
    ⟨h.online, h.agent.imp id howed, h.hub⟩
  have hwaiting (htask : stream.task = .waiting) : ¬ PushOwed s stream := by
    rintro ⟨-, howed⟩
    rw [htask] at howed
    exact howed
  cases hmove with
  | tick htask =>
      cases hstream
      exact hkeep _ fun howed => absurd howed (hwaiting htask)
  | version htask =>
      cases hstream
      refine hkeep _ fun howed => ⟨howed.1, ?_⟩
      have howed := howed.2
      rw [htask] at howed
      exact howed
  | unchanged version htask hsame =>
      cases hstream
      exact hkeep _ fun howed => absurd howed (not_pushOwed_of_unchanged htask hsame)
  | runtime version htask hnew =>
      cases hstream
      exact hkeep _ fun howed => ⟨howed.1, trivial⟩
  | policyVersion version runtime htask =>
      cases hstream
      exact hkeep _ fun howed => ⟨howed.1, trivial⟩
  | table version runtime snapshot snapshot' table toLoad now htask hload =>
      cases hstream
      exact hkeep _ fun howed => ⟨howed.1, trivial⟩
  | update version runtime snapshot accepted htask =>
      exact monitorInv_trySend h.online rfl rfl hstream
  | monitorSame accepted htask hchanged hsame =>
      cases hstream
      exact ⟨h.online, Or.inl (h.agent.resolve_right (hwaiting htask)), fun _ => hsame.symm⟩
  | monitor accepted htask hchanged hnew => exact monitorInv_trySend h.online rfl rfl hstream
  | close => cases hstream

theorem MonitorInv.agentMove {stream : PolicyStream} (h : MonitorInv env s stream)
    (hmove : AgentMove env s s') (hstream : s'.stream = some stream) :
    MonitorInv env s' stream := by
  have hne : s'.stream ≠ none := by
    rw [hstream]
    exact nofun
  have hsame := hmove.sameSurroundings
  have hversion : s'.version = s.version := by rw [SyncState.version, hsame.db]; rfl
  refine ⟨hmove.online h.online hne, ?_, fun hchanged => ?_⟩
  · rw [hmove.comingMonitor hne]
    exact h.agent.imp id fun howed =>
      howed.of_version_le (by rw [hsame.runtime]) (Int.le_of_eq hversion.symm)
  · rw [h.hub hchanged, SyncState.monitored, SyncState.monitored, hsame.hub]

/-- A new stream sends the setting when somebody watches. Otherwise the agent has to have it off
already, unless the first look sends a policy. -/
theorem monitorInv_subscribe {stream : PolicyStream} (htold : MonitorTold env s .subscribe)
    (hstep : offlineStep env s .subscribe = some s') (hstream : s'.stream = some stream) :
    MonitorInv env s' stream := by
  cases hstep
  cases hstream
  refine ⟨nofun, ?_, fun _ => rfl⟩
  cases hmonitored : s.monitored env with
  | true => exact Or.inl (by simp [SyncState.comingMonitor, dropMonitorUpdate])
  | false =>
      rcases htold rfl with htrue | hoff | hpush
      · rw [hmonitored] at htrue
        cases htrue
      · exact Or.inl hoff
      · exact Or.inr ⟨rfl, hpush⟩

/-- Every stream there is keeps the invariant. -/
def MonitorsOk (env : SyncEnv) (s : SyncState) : Prop :=
  ∀ stream, s.stream = some stream → MonitorInv env s stream

theorem MonitorsOk.step {e : SyncEvent} (h : MonitorsOk env s) (htold : MonitorTold env s e)
    (hstep : syncStep env s e = some s') : MonitorsOk env s' := by
  cases syncStep_move hstep with
  | commit db hok =>
      intro stream hstream
      have hinv := h stream hstream
      exact ⟨hinv.online,
        hinv.agent.imp id fun howed => howed.of_version_le rfl (version_le_of_commit hok), hinv.hub⟩
  | discover cidrs hk8s =>
      intro stream hstream
      have hinv := h stream hstream
      exact ⟨hinv.online, hinv.agent, hinv.hub⟩
  | restart configured k8sDiscovery =>
      intro stream hstream
      cases hstream
  | hub e hub =>
      intro stream hstream
      obtain ⟨old, hold, rfl⟩ := Option.map_eq_some_iff.mp hstream
      have hinv := h old hold
      refine ⟨hinv.online, hinv.agent, fun hchanged => ?_⟩
      cases hchanged
  | offline e s' htask hoffline =>
      intro stream hstream
      cases e with
      | subscribe => exact monitorInv_subscribe htold hoffline hstream
      | unload | startAgent =>
          cases hoffline
          exact absurd htask (h stream hstream).online
      | _ => cases hoffline
  | agent e s' htask hmove =>
      intro stream hstream
      have hold : s.stream = some stream := by
        rcases hmove.stream with heq | heq
        · rw [← heq]
          exact hstream
        · rw [heq] at hstream
          cases hstream
      exact (h stream hold).agentMove hmove hstream
  | stream e s' stream hstream hmove =>
      exact fun stream' hstream' => (h stream hstream).streamMove hmove hstream'

theorem MonitorInv.agrees {stream : PolicyStream} (h : MonitorInv env s stream)
    (hqueue : s.queue = []) (htask : s.agent.task = .waiting) (hwaiting : stream.task = .waiting)
    (hchanged : stream.changed = false) : s.agent.dropMonitor = s.monitored env := by
  have hcoming : s.comingMonitor = s.agent.dropMonitor := by
    simp [SyncState.comingMonitor, hqueue, htask, AgentTask.monitor]
  have hagent : s.comingMonitor = stream.cursor.dropMonitorEnabled := by
    refine h.agent.resolve_right ?_
    rintro ⟨-, howed⟩
    rw [hwaiting] at howed
    exact howed
  calc
    s.agent.dropMonitor = s.comingMonitor := hcoming.symm
    _ = stream.cursor.dropMonitorEnabled := hagent
    _ = s.monitored env := h.hub hchanged

/-- Where everything is settled, the agent reports drops exactly when somebody watches its node,
as long as no agent comes back with its monitor on to a stream that says nothing. -/
theorem dropMonitor_iff_of_settled {runtime : RuntimeTrustedCidrs} {es : List SyncEvent}
    (htold : EachStep (syncStep env) (fun s e _ => MonitorTold env s e)
      (SyncState.start runtime) es)
    (hrun : run (syncStep env) (SyncState.start runtime) es = some s) (hsettled : Settled s) :
    s.agent.dropMonitor = true ↔ s.hub.enabledForNode env.nodeId = true := by
  have hstep (s : SyncState) (e : SyncEvent) (s' : SyncState) (h : MonitorsOk env s)
      (hstep : syncStep env s e = some s') (htold : MonitorTold env s e) : MonitorsOk env s' :=
    h.step htold hstep
  have hstart : MonitorsOk env (SyncState.start runtime) := by
    intro stream hstream
    cases hstream
  have hinv : MonitorsOk env s := run_invariant_of_each hstep hstart htold hrun
  obtain ⟨hqueue, htask, stream, hstream, hwaiting, hchanged⟩ := hsettled
  rw [(hinv stream hstream).agrees hqueue htask hwaiting hchanged]
  rfl

/-! ## An agent that comes back -/

theorem settled_resubscribed : Settled s.resubscribed :=
  ⟨rfl, rfl, _, rfl, rfl, rfl⟩

/-- Whenever the condition fails, three steps lead to a settled stream and an agent that reports
drops for nobody. -/
theorem watched_by_nobody_of_not_told (htask : s.agent.task = .offline)
    (htold : ¬ MonitorTold env s .subscribe) :
    ∃ s', run (syncStep env) s [.subscribe, .readVersion, .readRuntime] = some s' ∧
      Settled s' ∧ s'.agent.dropMonitor = true ∧ s'.hub.enabledForNode env.nodeId = false := by
  unfold MonitorTold at htold
  push Not at htold
  obtain ⟨-, hmonitored, hon, henabled, happlied⟩ := htold
  have hmonitored : s.monitored env = false := by simpa using hmonitored
  have henabled : s.runtime.enabled = false := by simpa using henabled
  have hon : s.agent.dropMonitor = true := by simpa using hon
  exact ⟨s.resubscribed, run_resubscribe htask hmonitored henabled happlied,
    settled_resubscribed, hon, hmonitored⟩

end

/-! ## A viewer comes and goes -/

section Viewer

variable {env : SyncEnv} {s : SyncState} {stream : PolicyStream}

/-- Somebody watches all nodes, and the agent has been told. -/
def SyncState.watched (s : SyncState) (stream : PolicyStream) : SyncState :=
  { s with
    hub := s.hub.add none
    stream := some
      { cursor := { stream.cursor with dropMonitorEnabled := true }
        task := .ticking
        changed := false }
    queue := []
    agent := { s.agent with task := .waiting, dropMonitor := true } }

theorem monitored_withHub_add : (s.withHub (s.hub.add none)).monitored env = true := by
  simp [SyncState.monitored, SyncState.withHub, DropSubscriptions.enabledForNode,
    DropSubscriptions.add, normalizeDropNodeFilter]

theorem run_watch (hstream : s.stream = some stream) (hwaiting : stream.task = .waiting)
    (hoff : stream.cursor.dropMonitorEnabled = false) (hqueue : s.queue = [])
    (htask : s.agent.task = .waiting) :
    run (syncStep env) s [.watch none, .monitorChanged true, .receive] =
      some (s.watched stream) := by
  let told : SyncState :=
    { s.watched stream with
      queue := [dropMonitorUpdate stream.cursor.version true]
      agent := s.agent }
  have hmonitored : (s.withHub (s.hub.add none)).monitored env = true := monitored_withHub_add
  have hchanged : syncStep env (s.withHub (s.hub.add none)) (.monitorChanged true) =
      some told := by
    have hwithHub : (s.withHub (s.hub.add none)).stream = some { stream with changed := true } := by
      simp [SyncState.withHub, hstream]
    simp only [syncStep, hwithHub, streamStep, hwaiting, hmonitored, hoff]
    simp [SyncState.trySend, SyncState.withHub, hqueue, told, SyncState.watched]
  have hreceive : syncStep env told .receive = some (s.watched stream) := by
    have htold : told.agent.task = .waiting := htask
    simp only [syncStep, htold, AgentTask.isOffline, agentStep]
    rfl
  exact run_cons_eq_some_iff.mpr ⟨_, rfl, run_cons_eq_some_iff.mpr ⟨_, hchanged,
    run_cons_eq_some_iff.mpr ⟨_, hreceive, rfl⟩⟩⟩

theorem idle_watched (hversion : s.version ≤ stream.cursor.version)
    (henabled : s.runtime.enabled = false) :
    run (syncStep env) (s.watched stream) [.readVersion, .readRuntime] =
      some ((s.watched stream).withStream
        { cursor := { stream.cursor with dropMonitorEnabled := true }
          task := .waiting
          changed := false }) := by
  have hunchanged : policyUpdateUnchanged s.version stream.cursor.version s.runtime
      stream.cursor.runtimeFingerprint (env.fingerprint s.runtime.currentSnapshot) = true := by
    simp [policyUpdateUnchanged, henabled, hversion]
  exact run_cons_eq_some_iff.mpr ⟨_, rfl, run_cons_eq_some_iff.mpr ⟨_, if_pos hunchanged, rfl⟩⟩

end Viewer

/-- A process without networks. -/
def plainRuntime : RuntimeTrustedCidrs where
  configured := []
  k8sDiscovery := false
  cache := []

/-- The agent has the first policy, and somebody begins to watch. -/
def watchEvents : List SyncEvent :=
  [.commit (versionDb 1), .subscribe] ++ deliveryEvents 100 ++
    [.watch none, .monitorChanged true, .receive]

def deliveredState : SyncState :=
  { SyncState.start plainRuntime with db := versionDb 1 }.delivered operatorEnv false
    (PolicySnapshot.unread 1)

def deliveredStream : PolicyStream where
  cursor :=
    { version := 1
      runtimeFingerprint := some (operatorEnv.fingerprint plainRuntime.currentSnapshot)
      dropMonitorEnabled := false }
  task := .waiting
  changed := false

theorem stream_deliveredState : deliveredState.stream = some deliveredStream :=
  rfl

theorem run_watchEvents :
    run (syncStep operatorEnv) (SyncState.start plainRuntime) watchEvents =
      some (deliveredState.watched deliveredStream) := by
  have hdelivered : run (syncStep operatorEnv) (SyncState.start plainRuntime)
      ([.commit (versionDb 1), .subscribe] ++ deliveryEvents 100) = some deliveredState :=
    run_first_delivery (by decide) (loadPolicy_versionDb noText 1 100)
      (enabledGeoCountries_versionDb 1)
  rw [watchEvents, run_append, hdelivered, Option.bind_some]
  exact run_watch stream_deliveredState rfl rfl rfl rfl

/-- The agent reports drops once it has been told. -/
theorem dropMonitor_iff_of_settled_watched :
    ∃ s, run (syncStep operatorEnv) (SyncState.start plainRuntime)
        (watchEvents ++ [.readVersion, .readRuntime]) = some s ∧
      (s.agent.dropMonitor = true ↔ s.hub.enabledForNode operatorEnv.nodeId = true) := by
  have hrun : run (syncStep operatorEnv) (SyncState.start plainRuntime)
      (watchEvents ++ [.readVersion, .readRuntime]) =
        some ((deliveredState.watched deliveredStream).withStream
          { deliveredStream with
            cursor := { deliveredStream.cursor with dropMonitorEnabled := true } }) := by
    rw [run_append, run_watchEvents, Option.bind_some]
    exact idle_watched (by decide) (by decide)
  refine ⟨_, hrun, dropMonitor_iff_of_settled ?_ hrun ⟨rfl, rfl, _, rfl, rfl, rfl⟩⟩
  intro s hs
  have hs : (if CommitOk PolicyDb.empty (versionDb 1) then
      some { SyncState.start plainRuntime with db := versionDb 1 } else none) = some s := hs
  rw [if_pos (by decide)] at hs
  cases hs
  -- The only subscription is that of an agent that has just been started.
  refine ⟨nofun, fun s' _ => ⟨fun _ => Or.inr (Or.inl rfl), ?_⟩⟩
  have hnone : ∀ e ∈ deliveryEvents 100 ++ [.watch none, .monitorChanged true, .receive] ++
      [.readVersion, .readRuntime], e ≠ .subscribe := by
    intro e he heq
    subst heq
    simp [deliveryEvents, loadEvents] at he
  exact (eachStep_of_forall_mem hnone).mono fun s e s' hne heq => absurd heq hne

/-- The viewer leaves while the agent is away. The agent comes back and reports drops to nobody. -/
theorem dropMonitor_left_on :
    ∃ s, run (syncStep operatorEnv) (SyncState.start plainRuntime)
        (watchEvents ++ [.disconnect, .unwatch none, .subscribe, .readVersion, .readRuntime]) =
          some s ∧
      Settled s ∧
        ¬ (s.agent.dropMonitor = true ↔ s.hub.enabledForNode operatorEnv.nodeId = true) := by
  let away : SyncState :=
    { (deliveredState.watched deliveredStream).disconnected with
      hub := (deliveredState.hub.add none).remove none }
  have haway : run (syncStep operatorEnv) (deliveredState.watched deliveredStream)
      [.disconnect, .unwatch none] = some away := rfl
  have hnobody : away.monitored operatorEnv = false := by decide
  have hback : run (syncStep operatorEnv) away [.subscribe, .readVersion, .readRuntime] =
      some away.resubscribed :=
    run_resubscribe rfl hnobody (by decide) (by decide)
  refine ⟨away.resubscribed, ?_, settled_resubscribed, fun hagree => ?_⟩
  · have hevents : watchEvents ++ [.disconnect, .unwatch none, .subscribe, .readVersion,
        .readRuntime] = watchEvents ++ ([.disconnect, .unwatch none] ++
          [.subscribe, .readVersion, .readRuntime]) := rfl
    rw [hevents, run_append, run_watchEvents, Option.bind_some, run_append, haway]
    exact hback
  · have hwatched : away.monitored operatorEnv = true := hagree.mp rfl
    rw [hnobody] at hwatched
    cases hwatched

end ControlPlane
end XdpFirewall
