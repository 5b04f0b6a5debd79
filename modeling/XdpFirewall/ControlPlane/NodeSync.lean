import XdpFirewall.ControlPlane.Convergence
import XdpFirewall.ControlPlane.NodeRegistry

/-!
# NodeSync — what it means that a node is shown in sync

An agent reports the version that it has applied. Its reports can arrive late, in any order or not
at all, while the policy changes, streams break and applies fail. A node that is shown in sync has
nothing in its maps that was not read from the tables as they are.
-/

namespace XdpFirewall
namespace ControlPlane

open Api Lib Net IpText Policy

/-! ## The system -/

/-- What the heartbeats of an agent say. -/
inductive AgentReport
  | starting
  | ok
  | error (details : String)
  | stopped

/-- The interface of an agent and its addresses. -/
structure AgentInterface where
  name : String
  ips : List IpAddr

deriving instance DecidableEq for HeartbeatRequest

/-- `report_heartbeat` of the client -/
def heartbeatRequest (env : SyncEnv) (interface : AgentInterface) (lastAppliedVersion : Int)
    (status : String) (error : Option String) : HeartbeatRequest where
  nodeId := env.nodeId
  interfaceName := interface.name
  interfaceIps := interface.ips.map fun ip => String.ofList (displayIpAddr ip)
  lastAppliedVersion := lastAppliedVersion
  status := status
  error := error.getD ""

/-- `report_starting_heartbeat`, `report_ok_heartbeat`, `report_error_heartbeat`, and the heartbeat
of an agent that is stopped. -/
def AgentReport.request (env : SyncEnv) (interface : AgentInterface) (appliedVersion : Int) :
    AgentReport → HeartbeatRequest
  | .starting => heartbeatRequest env interface 0 "starting" none
  | .ok => heartbeatRequest env interface (max appliedVersion 0) "ok" none
  | .error details => heartbeatRequest env interface (max appliedVersion 0) "error" (some details)
  | .stopped => heartbeatRequest env interface (max appliedVersion 0) "stopped" none

/-- An agent that does well is between two messages of its stream. -/
def AgentReport.possible : AgentTask → AgentReport → Bool
  | .offline, .starting => true
  | .waiting, .ok => true
  | .waiting, .stopped => true
  | _, .error _ => true
  | _, _ => false

/-- The stream and its agent, the heartbeats on their way, and what the registry has seen. -/
structure Watched where
  sync : SyncState
  sent : List HeartbeatRequest
  seen : List RegistryEvent

def Watched.start (runtime : RuntimeTrustedCidrs) : Watched where
  sync := SyncState.start runtime
  sent := []
  seen := []

/-- A step of the stream or of its agent, a heartbeat that is sent, arrives or is lost, one of
another node, and the maintenance. -/
inductive WatchedEvent
  | sync (e : SyncEvent)
  | report (report : AgentReport)
  | arrive (now : Int) (request : HeartbeatRequest)
  | lose (request : HeartbeatRequest)
  | other (now : Int) (request : HeartbeatRequest)
  | prune (now maxAgeSeconds : Int)

def watchedStep (env : SyncEnv) (interface : AgentInterface) (w : Watched) :
    WatchedEvent → Option Watched
  | .sync e => (syncStep env w.sync e).map fun s => { w with sync := s }
  | .report report =>
      if report.possible w.sync.agent.task then
        some { w with
          sent := report.request env interface w.sync.agent.appliedVersion :: w.sent }
      else
        none
  | .arrive now request =>
      if request ∈ w.sent then
        some { w with
          sent := w.sent.erase request
          seen := w.seen ++ [.heartbeat now request] }
      else
        none
  | .lose request => some { w with sent := w.sent.erase request }
  | .other now request =>
      if request.nodeId ≠ env.nodeId then
        some { w with seen := w.seen ++ [.heartbeat now request] }
      else
        none
  | .prune now maxAgeSeconds => some { w with seen := w.seen ++ [.prune now maxAgeSeconds] }

/-! ## While the version stays -/

/-- The version that the loading snapshot has. -/
def StreamTask.loadingVersion : StreamTask → Option Int
  | .loading _ _ snapshot _ => some snapshot.version
  | _ => none

/-- Everything on its way to the maps, and in them, has the version of the database. -/
structure AllAt (s : SyncState) (version : Int) : Prop where
  current : s.version = version
  applied : s.agent.appliedVersion = version ∨ s.agent.appliedVersion = -1
  written : ∀ policy ∈ s.agent.written, policy.version = version
  flight : ∀ other ∈ s.flight, other = version
  loading : ∀ stream, s.stream = some stream →
    ∀ other ∈ stream.task.loadingVersion, other = version

section Moves

variable {env : SyncEnv} {s s' : SyncState} {version : Int}

theorem AllAt.withStream (h : AllAt s version) {stream : PolicyStream}
    (hloading : ∀ other ∈ stream.task.loadingVersion, other = version) :
    AllAt (s.withStream stream) version := by
  refine { h with loading := fun stream' hstream => ?_ }
  cases hstream
  exact hloading

theorem AllAt.trySend (h : AllAt s version) {update : PolicyUpdate} {stream : PolicyStream}
    {accepted : Bool} (hpolicy : ∀ policy ∈ update.policy, policy.version = version)
    (hloading : stream.task.loadingVersion = none) :
    AllAt (s.trySend update stream accepted) version := by
  unfold SyncState.trySend
  split
  · refine { h with flight := fun other hother => ?_, loading := fun stream' hstream => ?_ }
    · obtain ⟨policy, hpolicy', rfl⟩ := List.mem_map.mp hother
      rcases List.mem_append.mp hpolicy' with hagent | hqueue
      · exact h.flight _ (List.mem_map_of_mem (List.mem_append_left _ hagent))
      · obtain ⟨other, hmem, hsome⟩ := List.mem_filterMap.mp hqueue
        rcases List.mem_append.mp hmem with hmem | hmem
        · refine h.flight _ (List.mem_map_of_mem (List.mem_append_right _ ?_))
          exact List.mem_filterMap.mpr ⟨other, hmem, hsome⟩
        · rw [List.mem_singleton.mp hmem] at hsome
          exact hpolicy policy hsome
    · cases hstream
      rw [hloading]
      intro other hother
      cases hother
  · exact { h with loading := fun stream' hstream => by cases hstream }

theorem AllAt.streamMove {stream : PolicyStream} {e : SyncEvent} (h : AllAt s version)
    (hstream : s.stream = some stream) (hmove : StreamMove env s stream e s') :
    AllAt s' version := by
  have hnone : ∀ other ∈ (none : Option Int), other = version := fun _ hother => by cases hother
  cases hmove with
  | tick htask => exact h.withStream hnone
  | version htask => exact h.withStream hnone
  | unchanged version htask hsame => exact h.withStream hnone
  | runtime version htask hnew => exact h.withStream hnone
  | policyVersion version runtime htask =>
      refine h.withStream fun other hother => ?_
      cases hother
      exact h.current
  | table version runtime snapshot snapshot' table toLoad now htask hload =>
      refine h.withStream fun other hother => ?_
      cases hother
      rw [version_of_loadTable hload]
      exact h.loading stream hstream _ (by rw [htask]; rfl)
  | update version runtime snapshot accepted htask =>
      refine h.trySend (fun policy hpolicy => ?_) rfl
      cases hpolicy
      exact h.loading stream hstream _ (by rw [htask]; rfl)
  | monitorSame accepted htask hchanged hsame => exact h.withStream hnone
  | monitor accepted htask hchanged hnew =>
      exact h.trySend (fun policy hpolicy => by cases hpolicy) rfl
  | close e => exact { h with loading := fun stream' hstream => by cases hstream }

/-- What the agent works on, what is in its queue and what it has written afterwards decides. -/
theorem AllAt.of_agent (h : AllAt s version) (hdb : s'.db = s.db)
    (happlied : s'.agent.appliedVersion = version ∨ s'.agent.appliedVersion = -1)
    (hwritten : ∀ policy ∈ s'.agent.written, policy.version = version)
    (htask : ∀ policy, s'.agent.task.policy = some policy → policy.version = version)
    (hqueue : ∀ policy ∈ policies s'.queue, policy.version = version)
    (hstream : ∀ stream, s'.stream = some stream →
      ∀ other ∈ stream.task.loadingVersion, other = version) : AllAt s' version where
  current := by
    rw [SyncState.version, hdb]
    exact h.current
  applied := happlied
  written := hwritten
  flight := by
    intro other hother
    obtain ⟨policy, hpolicy, rfl⟩ := List.mem_map.mp hother
    rcases List.mem_append.mp hpolicy with hagent | hmem
    · exact htask policy (Option.mem_toList.mp hagent)
    · exact hqueue policy hmem
  loading := hstream

theorem AllAt.taskPolicy (h : AllAt s version) {policy : PolicySnapshot}
    (hpolicy : s.agent.task.policy = some policy) : policy.version = version :=
  h.flight _ (List.mem_map_of_mem (List.mem_append_left _ (Option.mem_toList.mpr hpolicy)))

theorem AllAt.queued (h : AllAt s version) {policy : PolicySnapshot}
    (hpolicy : policy ∈ policies s.queue) : policy.version = version :=
  h.flight _ (List.mem_map_of_mem (List.mem_append_right _ hpolicy))

theorem AllAt.withTask (h : AllAt s version) {task : AgentTask}
    (htask : ∀ policy, task.policy = some policy → policy.version = version) :
    AllAt (s.withTask task) version :=
  h.of_agent rfl h.applied h.written htask (fun _ hpolicy => h.queued hpolicy) h.loading

theorem AllAt.disconnected (h : AllAt s version) : AllAt s.disconnected version :=
  h.of_agent rfl h.applied h.written (fun _ hpolicy => by cases hpolicy)
    (fun _ hpolicy => by cases hpolicy) fun _ hstream => by cases hstream

theorem AllAt.afterPage (h : AllAt s version) {fetch : GeoFetch} {page : GeoPrefixPage}
    (hfetch : fetch.snapshot.version = version) : AllAt (s.afterPage fetch page) version := by
  unfold SyncState.afterPage
  dsimp only
  split
  · refine h.withTask fun policy hpolicy => ?_
    cases hpolicy
    exact hfetch
  · refine h.of_agent rfl h.applied h.written (fun policy hpolicy => ?_)
      (fun _ hpolicy => h.queued hpolicy) h.loading
    cases hpolicy
    exact hfetch

theorem AllAt.agentMove (h : AllAt s version) (hmove : AgentMove env s s') :
    AllAt s' version := by
  cases hmove with
  | monitor update queue htask hqueue hpolicy =>
      refine h.of_agent rfl h.applied h.written (fun policy hpolicy => h.taskPolicy hpolicy)
        (fun policy hmem => h.queued ?_) h.loading
      rw [hqueue, policies, List.filterMap_cons_none hpolicy]
      exact hmem
  | policy update queue snapshot htask hqueue hpolicy =>
      have hhead : snapshot.version = version := by
        refine h.queued ?_
        rw [hqueue, policies, List.filterMap_cons_some hpolicy]
        exact List.mem_cons_self
      have htail : ∀ policy ∈ policies queue, policy.version = version := by
        intro policy hmem
        refine h.queued ?_
        rw [hqueue, policies, List.filterMap_cons_some hpolicy]
        exact List.mem_cons_of_mem _ hmem
      have htask : ∀ policy, some snapshot = some policy → policy.version = version := by
        intro policy hsame
        cases hsame
        exact hhead
      unfold SyncState.received
      split <;> exact h.of_agent rfl h.applied h.written htask htail h.loading
  | granted fetch htask =>
      refine h.withTask fun policy hpolicy => h.taskPolicy ?_
      rw [htask]
      exact hpolicy
  | countries fetch htask =>
      refine h.withTask fun policy hpolicy => h.taskPolicy ?_
      rw [htask]
      exact hpolicy
  | country fetch page page' country countryIndex countries htask hcollect hnext =>
      refine h.withTask fun policy hpolicy => h.taskPolicy ?_
      rw [htask]
      exact hpolicy
  | full fetch page page' country countryIndex countries htask hcollect hnext =>
      exact h.afterPage (h.taskPolicy (by rw [htask]; rfl))
  | lastCountry fetch page htask => exact h.afterPage (h.taskPolicy (by rw [htask]; rfl))
  | applied snapshot htask =>
      have hsnapshot : snapshot.version = version := h.taskPolicy (by rw [htask]; rfl)
      refine h.of_agent rfl (Or.inl hsnapshot) (fun policy hpolicy => ?_)
        (fun _ hpolicy => by cases hpolicy) (fun _ hpolicy => h.queued hpolicy) h.loading
      rw [List.mem_singleton.mp hpolicy]
      exact hsnapshot
  | failed snapshot htask =>
      have hsnapshot : snapshot.version = version := h.taskPolicy (by rw [htask]; rfl)
      refine h.of_agent rfl h.applied (fun policy hpolicy => ?_)
        (fun _ hpolicy => by cases hpolicy)
        (fun _ hpolicy => by cases hpolicy) fun _ hstream => by cases hstream
      rcases List.mem_cons.mp hpolicy with rfl | hpolicy
      · exact hsnapshot
      · exact h.written policy hpolicy
  | disconnect => exact h.disconnected

theorem AllAt.offlineStep {e : SyncEvent} (h : AllAt s version)
    (htask : s.agent.task = .offline) (hstep : offlineStep env s e = some s') :
    AllAt s' version := by
  have hnone : ∀ policy, AgentTask.offline.policy = some policy → policy.version = version :=
    fun _ hpolicy => by cases hpolicy
  cases e <;> simp only [ControlPlane.offlineStep] at hstep <;> cases hstep
  case subscribe =>
    refine h.of_agent rfl h.applied h.written (fun _ hpolicy => by cases hpolicy)
      (fun policy hpolicy => ?_) fun stream hstream other hother => ?_
    · obtain ⟨update, hupdate, hsome⟩ := List.mem_filterMap.mp hpolicy
      split at hupdate
      · rw [List.mem_singleton.mp hupdate] at hsome
        cases hsome
      · cases hupdate
    · cases hstream
      cases hother
  case unload =>
    exact h.of_agent rfl (Or.inr rfl) (fun _ hpolicy => by cases hpolicy) hnone
      (fun _ hpolicy => h.queued hpolicy) h.loading
  case startAgent =>
    refine h.of_agent rfl (Or.inr rfl) h.written ?_ (fun _ hpolicy => h.queued hpolicy) h.loading
    rw [htask]
    exact hnone

/-- As long as the version stays, nothing with another version comes up. -/
theorem AllAt.step {e : SyncEvent} (h : AllAt s version) (hstep : syncStep env s e = some s')
    (hcurrent : s'.version = version) : AllAt s' version := by
  cases syncStep_move hstep with
  | commit db hok => exact { h with current := hcurrent }
  | discover cidrs hk8s => exact { h with current := h.current }
  | restart configured k8sDiscovery => exact { h with loading := fun _ hstream => by cases hstream }
  | hub e hub =>
      refine { h with loading := fun stream hstream => ?_ }
      obtain ⟨old, hold, rfl⟩ := Option.map_eq_some_iff.mp hstream
      exact h.loading old hold
  | offline e s' htask hoffline => exact h.offlineStep htask hoffline
  | agent e s' htask hmove => exact h.agentMove hmove
  | stream e s' stream hstream hmove => exact h.streamMove hstream hmove

theorem version_le_of_step {e : SyncEvent} (hstep : syncStep env s e = some s') :
    s.version ≤ s'.version := by
  have hsame (h : s'.db = s.db) : s.version ≤ s'.version :=
    Int.le_of_eq (congrArg (fun db => policyVersion db defaultPolicyName) h.symm)
  cases syncStep_move hstep with
  | commit db hok => exact version_le_of_commit hok
  | discover | restart | hub => exact hsame rfl
  | offline e s' htask hoffline => exact hsame (offlineStep_sameSurroundings hoffline).db
  | agent e s' htask hmove => exact hsame hmove.sameSurroundings.db
  | stream e s' stream hstream hmove => exact hsame hmove.sameSurroundings.db

end Moves

/-! ## Reports -/

/-- An agent may have reported the version. While the database still has it, there is nothing else
on its way to the maps and in them. -/
def Reported (s : SyncState) (version : Int) : Prop :=
  version ≤ s.version ∧ (version = s.version → 0 < version → AllAt s version)

theorem Reported.step {env : SyncEnv} {s s' : SyncState} {version : Int} {e : SyncEvent}
    (h : Reported s version) (hstep : syncStep env s e = some s') : Reported s' version := by
  have hle := version_le_of_step hstep
  refine ⟨Int.le_trans h.1 hle, fun hcurrent hpos => ?_⟩
  have hsame : version = s.version := Int.le_antisymm h.1 (hcurrent ▸ hle)
  exact (h.2 hsame hpos).step hstep hcurrent.symm

section Reports

variable {env : SyncEnv} {clock : Int → Prop} {K : RuntimeTrustedCidrSnapshot → Prop}
  {s : SyncState}

/-- When an agent has applied the version of the database, everything has that version. -/
theorem SyncInv.allAt (h : SyncInv env clock K s) (hpos : 0 ≤ s.version)
    (happlied : s.agent.appliedVersion = s.version) : AllAt s s.version where
  current := rfl
  applied := Or.inl happlied
  written := by
    intro policy hpolicy
    obtain ⟨hle, runtime, -, hwritten⟩ := h.written policy hpolicy
    exact Int.le_antisymm hwritten.1 (happlied ▸ hle (happlied ▸ hpos))
  flight := by
    intro version hversion
    have hle := (List.pairwise_cons.mp h.ordered).1 version hversion
    exact Int.le_antisymm (h.flight_le version hversion) (happlied ▸ hle)
  loading := by
    intro stream hstream version hversion
    have htask := (h.stream stream hstream).task
    cases hst : stream.task with
    | loading read networks snapshot toLoad =>
        rw [hst] at htask hversion
        cases hversion
        obtain ⟨-, -, hle, -, done, -, hstamped⟩ := htask
        exact Int.le_antisymm hstamped.1 (happlied ▸ hle)
    | _ =>
        rw [hst] at hversion
        cases hversion

theorem SyncInv.reported (h : SyncInv env clock K s) (interface : AgentInterface)
    (report : AgentReport) : Reported s
      (report.request env interface s.agent.appliedVersion).lastAppliedVersion := by
  have hle := h.applied_le
  have hnonneg := h.version_nonneg
  have hmax : Reported s (max s.agent.appliedVersion 0) := by
    refine ⟨Int.max_le.mpr ⟨hle, hnonneg⟩, fun hcurrent hpos => ?_⟩
    have happlied : s.agent.appliedVersion = s.version := by omega
    rw [hcurrent]
    exact h.allAt hnonneg happlied
  cases report with
  | starting => exact ⟨hnonneg, fun _ hpos => absurd hpos (Int.lt_irrefl 0)⟩
  | ok => exact hmax
  | error details => exact hmax
  | stopped => exact hmax

end Reports

theorem version_le_of_healthy {apiEnv : ApiEnv} {row : NodeModel} {version shownAt : Int}
    (h : (NodeResponse.new apiEnv row version shownAt).healthy = true) :
    version ≤ row.lastAppliedVersion := by
  have hshown : syncStatus row.status row.lastAppliedVersion version row.lastSeenAt shownAt
      defaultUnhealthyNodeAfterSeconds = "ok" := of_decide_eq_true h
  unfold syncStatus at hshown
  dsimp only at hshown
  split at hshown
  · exact absurd hshown (by decide)
  · split at hshown
    · next hne => exact absurd hshown hne
    · split at hshown
      · exact absurd hshown (by decide)
      · omega

/-! ## Runs -/

section Runs

variable {env : SyncEnv} {interface : AgentInterface} {runtime : RuntimeTrustedCidrs}

/-- The invariant of a stream and its agent, and what is known of the agent's reports. -/
structure WatchedInv (env : SyncEnv) (clock : Int → Prop) (K : RuntimeTrustedCidrSnapshot → Prop)
    (w : Watched) : Prop where
  sync : SyncInv env clock K w.sync
  sent : ∀ request ∈ w.sent, Reported w.sync request.lastAppliedVersion
  seen : ∀ now request, .heartbeat now request ∈ w.seen → request.nodeId = env.nodeId →
    Reported w.sync request.lastAppliedVersion

theorem WatchedInv.step {clock : Int → Prop} {K : RuntimeTrustedCidrSnapshot → Prop}
    {w w' : Watched} {e : WatchedEvent} (h : WatchedInv env clock K w)
    (hstep : watchedStep env interface w e = some w')
    (hprocess : ∀ networks, FromProcess w'.sync.runtime networks → K networks)
    (hclock : ∀ now, e = .sync (.readTable now) → clock now) : WatchedInv env clock K w' := by
  cases e <;> simp only [watchedStep] at hstep
  case sync e =>
    obtain ⟨s', hsync, rfl⟩ := Option.map_eq_some_iff.mp hstep
    refine ⟨h.sync.step hsync hprocess fun now hread => hclock now (hread ▸ rfl), ?_, ?_⟩
    · exact fun request hrequest => (h.sent request hrequest).step hsync
    · exact fun now request hmem hnode => (h.seen now request hmem hnode).step hsync
  case report report =>
    split at hstep
    · cases hstep
      refine { h with sent := fun request hrequest => ?_ }
      rcases List.mem_cons.mp hrequest with rfl | hrequest
      · exact h.sync.reported interface report
      · exact h.sent request hrequest
    · cases hstep
  case arrive now request =>
    split at hstep
    · next hsent =>
        cases hstep
        refine ⟨h.sync, fun other hother => h.sent other (List.mem_of_mem_erase hother), ?_⟩
        intro now' other hmem hnode
        rcases List.mem_append.mp hmem with hmem | hmem
        · exact h.seen now' other hmem hnode
        · cases List.mem_singleton.mp hmem
          exact h.sent request hsent
    · cases hstep
  case lose request =>
    cases hstep
    exact { h with sent := fun other hother => h.sent other (List.mem_of_mem_erase hother) }
  case other now request =>
    split at hstep
    · next hother =>
        cases hstep
        refine { h with seen := fun now' other hmem hnode => ?_ }
        rcases List.mem_append.mp hmem with hmem | hmem
        · exact h.seen now' other hmem hnode
        · cases List.mem_singleton.mp hmem
          exact absurd hnode hother
    · cases hstep
  case prune now maxAgeSeconds =>
    cases hstep
    refine { h with seen := fun now' other hmem hnode => ?_ }
    rcases List.mem_append.mp hmem with hmem | hmem
    · exact h.seen now' other hmem hnode
    · cases List.mem_singleton.mp hmem

/-- The configuration of a process of the run. -/
def ProcessOf (runtime : RuntimeTrustedCidrs) (es : List WatchedEvent)
    (process : RuntimeTrustedCidrs) : Prop :=
  SameConfiguration runtime process ∨
    .sync (.restart process.configured process.k8sDiscovery) ∈ es

theorem processOf_step {es : List WatchedEvent} {w w' : Watched} {e : WatchedEvent}
    (h : ProcessOf runtime es w.sync.runtime) (hstep : watchedStep env interface w e = some w')
    (he : e ∈ es) : ProcessOf runtime es w'.sync.runtime := by
  cases e <;> simp only [watchedStep] at hstep
  case sync e =>
    obtain ⟨s', hsync, rfl⟩ := Option.map_eq_some_iff.mp hstep
    rcases (syncStep_move hsync).runtime_cases with heq | ⟨cidrs, -, heq⟩ |
      ⟨configured, k8sDiscovery, rfl, heq⟩
    · rw [ProcessOf, heq]
      exact h
    · rw [ProcessOf, heq]
      exact h
    · rw [ProcessOf, heq]
      exact Or.inr he
  case report | arrive | other =>
    split at hstep <;> cases hstep
    exact h
  case lose | prune =>
    cases hstep
    exact h

theorem run_sync {es : List SyncEvent} {w : Watched} {s : SyncState}
    (hrun : run (syncStep env) w.sync es = some s) :
    run (watchedStep env interface) w (es.map .sync) = some { w with sync := s } := by
  induction es generalizing w with
  | nil =>
      cases hrun
      rfl
  | cons e es ih =>
      obtain ⟨next, hnext, hrest⟩ := run_cons_eq_some_iff.mp hrun
      have hstep : watchedStep env interface w (.sync e) = some { w with sync := next } := by
        rw [watchedStep, hnext]
        rfl
      rw [List.map_cons, run_cons_eq_some_iff]
      exact ⟨_, hstep, ih hrest⟩

def operatorInterface : AgentInterface where
  name := "eth0"
  ips := [.v4 0xCB007101]

def operatorReport : HeartbeatRequest :=
  heartbeatRequest operatorEnv operatorInterface 1 "ok" none

/-- One delivery, and a report of it that arrives. -/
def reportedDelivery : List WatchedEvent :=
  ([SyncEvent.commit (versionDb 1), .subscribe] ++ deliveryEvents 100).map .sync ++
    [.report .ok, .arrive 0 operatorReport]

/-- Where the delivery leaves the node. -/
def operatorSynced : SyncState :=
  { SyncState.start operatorRuntime with db := versionDb 1 }.delivered operatorEnv false
    (PolicySnapshot.unread 1)

theorem run_reportedDelivery :
    run (watchedStep operatorEnv operatorInterface) (Watched.start operatorRuntime)
        reportedDelivery =
      some {
        sync := operatorSynced
        sent := []
        seen := [.heartbeat 0 operatorReport]
      } := by
  have hdelivery := @run_sync operatorEnv operatorInterface _
    (Watched.start operatorRuntime) _ run_operator_delivery
  rw [reportedDelivery, run_append, hdelivery, Option.bind_some]
  rfl

theorem reportedIps_operator :
    reportedIps operatorReport.interfaceIps = .ok [.v4 0xCB007101] := by
  have hreported : (reportedIps operatorReport.interfaceIps).toOption =
      some [.v4 0xCB007101] := by
    decide +kernel
  cases h : reportedIps operatorReport.interfaceIps with
  | error message =>
      rw [h] at hreported
      cases hreported
  | ok ips =>
      rw [h] at hreported
      rw [Option.some.inj hreported]

end Runs

end ControlPlane
end XdpFirewall
