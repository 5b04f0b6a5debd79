import Mathlib.Data.List.Basic
import Mathlib.Algebra.Order.Ring.Int
import XdpFirewall.ControlPlane.SyncInvariant

/-!
# SyncRun — the invariant of a stream and its agent, over every run

Versions grow along the way of a policy: what is applied is not newer than what is in flight,
that not newer than what is being loaded, and that not newer than the database. So a policy that
fails half way mixes with the one before it only when both have the same version, and then both
were read from the same tables.
-/

namespace XdpFirewall
namespace ControlPlane

open Lib Net Policy

/-! ## The invariant -/

/-- The networks of a process, at some time since its start. -/
def FromProcess (runtime : RuntimeTrustedCidrs) (snapshot : RuntimeTrustedCidrSnapshot) : Prop :=
  ∃ cache, snapshot = { runtime with cache := cache }.currentSnapshot

/-- The policy that the agent is working on. -/
def AgentTask.policy : AgentTask → Option PolicySnapshot
  | .offline => none
  | .waiting => none
  | .asking fetch => some fetch.snapshot
  | .granted fetch => some fetch.snapshot
  | .paging fetch _ _ => some fetch.snapshot
  | .applying snapshot => some snapshot

def policies (queue : List PolicyUpdate) : List PolicySnapshot :=
  queue.filterMap PolicyUpdate.policy

/-- The versions of the policies between the stream task and the maps, oldest first. -/
def SyncState.flight (s : SyncState) : List Int :=
  (s.agent.task.policy.toList ++ policies s.queue).map PolicySnapshot.version

section Invariant

variable (env : SyncEnv) (clock : Int → Prop)

def TaskOk (db : PolicyDb) (runtime : RuntimeTrustedCidrSnapshot) : AgentTask → Prop
  | .offline => True
  | .waiting => True
  | .asking fetch | .granted fetch =>
      Stamped db fetch.snapshot.version
        (Built env clock db runtime fetch.snapshot ∧ Received env db fetch.received fetch.token)
  | .paging fetch page countries =>
      page.next = none ∧
        Stamped db fetch.snapshot.version
          (Built env clock db runtime fetch.snapshot ∧ Received env db fetch.received fetch.token ∧
            Paged env db fetch.token page countries)
  | .applying snapshot => Stamped db snapshot.version (BuiltWhole env clock db runtime snapshot)

/-- A policy with entries in the maps. -/
def Written (db : PolicyDb) (runtime : RuntimeTrustedCidrSnapshot) (policy : PolicySnapshot) :
    Prop :=
  Stamped db policy.version (∃ snapshot, BuiltWhole env clock db runtime snapshot ∧
    policy = addControlPlaneTrustedCidrs env.control snapshot)

def UpdateOk (db : PolicyDb) (runtime : RuntimeTrustedCidrSnapshot) (snapshot : PolicySnapshot) :
    Prop :=
  Stamped db snapshot.version (Built env clock db runtime snapshot)

def StreamTaskOk (s : SyncState) : StreamTask → Prop
  | .waiting => True
  | .ticking => True
  | .versionRead version => version ≤ s.version
  | .runtimeRead version runtime => version ≤ s.version ∧ FromProcess s.runtime runtime
  | .loading version runtime snapshot toLoad =>
      version ≤ snapshot.version ∧ FromProcess s.runtime runtime ∧
        s.agent.appliedVersion ≤ snapshot.version ∧
        (∀ version ∈ s.flight, version ≤ snapshot.version) ∧
        ∃ done, loadOrder = done ++ toLoad ∧
          Stamped s.db snapshot.version (Loaded env clock s.db snapshot done)

/-- The agent is working on the last policy that was sent, or has applied it. -/
def HeldOk (db : PolicyDb) (runtime : RuntimeTrustedCidrSnapshot) (version : Int)
    (agent : Agent) : Prop :=
  match agent.task with
  | .offline => False
  | .waiting =>
      ∃ policy, agent.written = [policy] ∧ agent.appliedVersion = policy.version ∧
        version ≤ policy.version ∧ Written env clock db runtime policy
  | task => (∀ policy ∈ task.policy, version ≤ policy.version) ∧ TaskOk env clock db runtime task

/-- The last policy that was sent has these networks and at least this version. -/
def LastOk (s : SyncState) (runtime : RuntimeTrustedCidrSnapshot) (version : Int) : Prop :=
  match (policies s.queue).getLast? with
  | some snapshot => version ≤ snapshot.version ∧ UpdateOk env clock s.db runtime snapshot
  | none => HeldOk env clock s.db runtime version s.agent

/-- The cursor describes what was sent on the stream, or nothing was. -/
def CursorOk (s : SyncState) (cursor : PolicyStreamCursor) : Prop :=
  match cursor.runtimeFingerprint with
  | none => s.flight = [] ∧ cursor.version = s.agent.appliedVersion
  | some fingerprint =>
      ∃ runtime, FromProcess s.runtime runtime ∧ env.fingerprint runtime = fingerprint ∧
        LastOk env clock s runtime cursor.version

structure SessionInv (s : SyncState) (stream : PolicyStream) : Prop where
  task : StreamTaskOk env clock s stream.task
  cursor : CursorOk env clock s stream.cursor

/-- `K` is known of the networks of every policy there is. -/
structure SyncInv (K : RuntimeTrustedCidrSnapshot → Prop) (s : SyncState) : Prop where
  process : ∀ runtime, FromProcess s.runtime runtime → K runtime
  version_nonneg : 0 ≤ s.version
  applied_le : s.agent.appliedVersion ≤ s.version
  written_ne : 0 ≤ s.agent.appliedVersion → s.agent.written ≠ []
  written : ∀ policy ∈ s.agent.written,
    (0 ≤ s.agent.appliedVersion → s.agent.appliedVersion ≤ policy.version) ∧
      ∃ runtime, K runtime ∧ Written env clock s.db runtime policy
  ordered : (s.agent.appliedVersion :: s.flight).Pairwise (· ≤ ·)
  queue : ∀ update ∈ s.queue, ∀ snapshot, update.policy = some snapshot →
    update.externalGeoPrefixes ∧ ∃ runtime, K runtime ∧ UpdateOk env clock s.db runtime snapshot
  task : ∃ runtime, K runtime ∧ TaskOk env clock s.db runtime s.agent.task
  offline : s.agent.task = .offline → s.stream = none ∧ s.queue = []
  stream : ∀ stream, s.stream = some stream → SessionInv env clock s stream

end Invariant

variable {env : SyncEnv} {clock : Int → Prop} {K : RuntimeTrustedCidrSnapshot → Prop} {s s' : SyncState}

/-! ## Commits -/

theorem TaskOk.commit {db db' : PolicyDb} {runtime : RuntimeTrustedCidrSnapshot}
    {task : AgentTask} (h : TaskOk env clock db runtime task) (hcommit : CommitOk db db') :
    TaskOk env clock db' runtime task := by
  cases task with
  | offline => trivial
  | waiting => trivial
  | asking fetch =>
      exact Stamped.commit h hcommit fun hactive hP => ⟨hP.1.commit hactive, hP.2.commit hactive⟩
  | granted fetch =>
      exact Stamped.commit h hcommit fun hactive hP => ⟨hP.1.commit hactive, hP.2.commit hactive⟩
  | paging fetch page countries =>
      exact ⟨h.1, h.2.commit hcommit fun hactive hP =>
        ⟨hP.1.commit hactive, hP.2.1.commit hactive, hP.2.2.commit hactive⟩⟩
  | applying snapshot => exact Stamped.commit h hcommit fun hactive hP => hP.commit hactive

theorem Written.commit {db db' : PolicyDb} {runtime : RuntimeTrustedCidrSnapshot}
    {policy : PolicySnapshot} (h : Written env clock db runtime policy) (hcommit : CommitOk db db') :
    Written env clock db' runtime policy := by
  refine Stamped.commit h hcommit fun hactive hP => ?_
  obtain ⟨snapshot, hwhole, rfl⟩ := hP
  exact ⟨snapshot, hwhole.commit hactive, rfl⟩

theorem UpdateOk.commit {db db' : PolicyDb} {runtime : RuntimeTrustedCidrSnapshot}
    {snapshot : PolicySnapshot} (h : UpdateOk env clock db runtime snapshot)
    (hcommit : CommitOk db db') : UpdateOk env clock db' runtime snapshot :=
  Stamped.commit h hcommit fun hactive hP => hP.commit hactive

theorem HeldOk.commit {db db' : PolicyDb} {runtime : RuntimeTrustedCidrSnapshot} {version : Int}
    {agent : Agent} (h : HeldOk env clock db runtime version agent) (hcommit : CommitOk db db') :
    HeldOk env clock db' runtime version agent := by
  unfold HeldOk at h ⊢
  cases htask : agent.task <;> rw [htask] at h <;> simp only at h ⊢
  case waiting =>
    obtain ⟨policy, hwritten, happlied, hle, hpolicy⟩ := h
    exact ⟨policy, hwritten, happlied, hle, hpolicy.commit hcommit⟩
  all_goals exact ⟨h.1, h.2.commit hcommit⟩

theorem LastOk.commit {db : PolicyDb} {runtime : RuntimeTrustedCidrSnapshot} {version : Int}
    (h : LastOk env clock s runtime version) (hcommit : CommitOk s.db db) :
    LastOk env clock { s with db := db } runtime version := by
  unfold LastOk at h ⊢
  cases hlast : (policies s.queue).getLast? with
  | some snapshot =>
      rw [hlast] at h
      exact ⟨h.1, h.2.commit hcommit⟩
  | none =>
      rw [hlast] at h
      exact h.commit hcommit

theorem SessionInv.commit {db : PolicyDb} {stream : PolicyStream} (h : SessionInv env clock s stream)
    (hcommit : CommitOk s.db db) : SessionInv env clock { s with db := db } stream := by
  have hle : s.version ≤ policyVersion db defaultPolicyName := version_le_of_commit hcommit
  obtain ⟨htask, hcursor⟩ := h
  constructor
  · cases hst : stream.task <;> rw [hst] at htask
    case waiting => trivial
    case ticking => trivial
    case versionRead version => exact htask.trans hle
    case runtimeRead version runtime => exact ⟨htask.1.trans hle, htask.2⟩
    case loading version runtime snapshot toLoad =>
      obtain ⟨hversion, hprocess, happlied, hflight, done, hdone, hloaded⟩ := htask
      exact ⟨hversion, hprocess, happlied, hflight, done, hdone,
        hloaded.commit hcommit fun hactive hP => hP.commit hactive⟩
  · unfold CursorOk at hcursor ⊢
    cases hfp : stream.cursor.runtimeFingerprint with
    | none =>
        rw [hfp] at hcursor
        exact hcursor
    | some fingerprint =>
        rw [hfp] at hcursor
        obtain ⟨runtime, hprocess, heq, hlast⟩ := hcursor
        exact ⟨runtime, hprocess, heq, hlast.commit hcommit⟩

theorem SyncInv.commit {db : PolicyDb} (h : SyncInv env clock K s) (hcommit : CommitOk s.db db) :
    SyncInv env clock K { s with db := db } := by
  have hle : s.version ≤ policyVersion db defaultPolicyName := version_le_of_commit hcommit
  refine ⟨h.process, h.version_nonneg.trans hle, h.applied_le.trans hle, h.written_ne, ?_,
    h.ordered, ?_, ?_, h.offline, fun stream hstream => (h.stream stream hstream).commit hcommit⟩
  · intro policy hpolicy
    obtain ⟨hversion, runtime, hK, hwritten⟩ := h.written policy hpolicy
    exact ⟨hversion, runtime, hK, hwritten.commit hcommit⟩
  · intro update hupdate snapshot hsnapshot
    obtain ⟨hgeo, runtime, hK, hok⟩ := h.queue update hupdate snapshot hsnapshot
    exact ⟨hgeo, runtime, hK, hok.commit hcommit⟩
  · obtain ⟨runtime, hK, htask⟩ := h.task
    exact ⟨runtime, hK, htask.commit hcommit⟩

/-! ## The stream ends or the agent leaves -/

theorem SyncInv.closeStream (h : SyncInv env clock K s) : SyncInv env clock K { s with stream := none } :=
  ⟨h.process, h.version_nonneg, h.applied_le, h.written_ne, h.written, h.ordered, h.queue, h.task,
    fun hoffline => ⟨rfl, (h.offline hoffline).2⟩, fun _ hstream => nomatch hstream⟩

/-- Nothing is in flight to an agent without a stream. -/
theorem SyncInv.offlineAgent (h : SyncInv env clock K s) {agent : Agent}
    (htask : agent.task = .offline) (happlied : agent.appliedVersion ≤ s.version)
    (hne : 0 ≤ agent.appliedVersion → agent.written ≠ [])
    (hwritten : ∀ policy ∈ agent.written,
      (0 ≤ agent.appliedVersion → agent.appliedVersion ≤ policy.version) ∧
        ∃ runtime, K runtime ∧ Written env clock s.db runtime policy) :
    SyncInv env clock K { s with stream := none, queue := [], agent := agent } := by
  refine ⟨h.process, h.version_nonneg, happlied, hne, hwritten, ?_, ?_, ?_,
    fun _ => ⟨rfl, rfl⟩, ?_⟩
  · simp [SyncState.flight, htask, AgentTask.policy, policies]
  · intro update hupdate
    cases hupdate
  · obtain ⟨runtime, hK, -⟩ := h.task
    refine ⟨runtime, hK, ?_⟩
    rw [htask]
    trivial
  · intro stream hstream
    cases hstream

theorem SyncInv.disconnected (h : SyncInv env clock K s) : SyncInv env clock K s.disconnected :=
  h.offlineAgent rfl h.applied_le h.written_ne h.written

/-! ## Steps of the stream task -/

theorem SyncInv.withStream (h : SyncInv env clock K s) (htask : s.agent.task ≠ .offline)
    {stream : PolicyStream} (hstream : SessionInv env clock s stream) :
    SyncInv env clock K (s.withStream stream) := by
  refine ⟨h.process, h.version_nonneg, h.applied_le, h.written_ne, h.written, h.ordered, h.queue,
    h.task, fun hoffline => absurd hoffline htask, fun stream' heq => ?_⟩
  cases heq
  exact ⟨hstream.task, hstream.cursor⟩

theorem policies_append (queue queue' : List PolicyUpdate) :
    policies (queue ++ queue') = policies queue ++ policies queue' :=
  List.filterMap_append

/-- A message without a policy changes nothing about policies. -/
theorem SyncInv.sendMonitor (h : SyncInv env clock K s) (htask : s.agent.task ≠ .offline)
    {stream : PolicyStream} (hstream : SessionInv env clock s stream) (version : Int) (enabled : Bool)
    (accepted : Bool) :
    SyncInv env clock K (s.trySend (dropMonitorUpdate version enabled) stream accepted) := by
  cases accepted with
  | false => exact h.closeStream
  | true =>
      have hpolicies : policies (s.queue ++ [dropMonitorUpdate version enabled]) =
          policies s.queue := by
        rw [policies_append]
        exact List.append_nil _
      have hflight : SyncState.flight
          { s with queue := s.queue ++ [dropMonitorUpdate version enabled] } = s.flight := by
        rw [SyncState.flight, hpolicies, SyncState.flight]
      refine ⟨h.process, h.version_nonneg, h.applied_le, h.written_ne, h.written, ?_, ?_, h.task,
        fun hoffline => absurd hoffline htask, fun stream' heq => ?_⟩
      · have := h.ordered
        rw [← hflight] at this
        exact this
      · intro update hupdate snapshot hsnapshot
        rcases List.mem_append.mp hupdate with hupdate | hupdate
        · exact h.queue update hupdate snapshot hsnapshot
        · rw [List.mem_singleton.mp hupdate] at hsnapshot
          cases hsnapshot
      · cases heq
        obtain ⟨hstreamtask, hcursor⟩ := hstream
        constructor
        · cases hst : stream.task <;> rw [hst] at hstreamtask
          case waiting => trivial
          case ticking => trivial
          case versionRead version => exact hstreamtask
          case runtimeRead version runtime => exact hstreamtask
          case loading version runtime snapshot toLoad =>
            obtain ⟨hversion, hprocess, happlied, hle, hdone⟩ := hstreamtask
            refine ⟨hversion, hprocess, happlied, fun other hother => hle other ?_, hdone⟩
            rw [← hflight]
            exact hother
        · unfold CursorOk at hcursor ⊢
          cases hfp : stream.cursor.runtimeFingerprint with
          | none =>
              rw [hfp] at hcursor
              exact ⟨hflight.trans hcursor.1, hcursor.2⟩
          | some fingerprint =>
              rw [hfp] at hcursor
              obtain ⟨runtime, hprocess, heq, hlast⟩ := hcursor
              refine ⟨runtime, hprocess, heq, ?_⟩
              unfold LastOk at hlast ⊢
              rw [show policies (s.trySend (dropMonitorUpdate version enabled) stream true).queue =
                policies s.queue from hpolicies]
              exact hlast

/-- The policy that has been loaded goes to the end of the queue. -/
theorem SyncInv.sendPolicy (h : SyncInv env clock K s) (htask : s.agent.task ≠ .offline)
    {stream : PolicyStream} {version : Int} {runtime : RuntimeTrustedCidrSnapshot}
    {snapshot : PolicySnapshot}
    (hstream : StreamTaskOk env clock s (.loading version runtime snapshot [])) (enabled : Bool)
    (hcursor : stream.cursor =
      { version := version
        runtimeFingerprint := some (env.fingerprint runtime)
        dropMonitorEnabled := enabled })
    (hwaiting : stream.task = .waiting) (accepted : Bool) :
    SyncInv env clock K
      (s.trySend (policyUpdate version (withRuntimeCidrs snapshot runtime) enabled) stream
        accepted) := by
  obtain ⟨hversion, hprocess, happlied, hle, done, hdone, hloaded⟩ := hstream
  have hbuilt : UpdateOk env clock s.db runtime (withRuntimeCidrs snapshot runtime) := by
    rw [List.append_nil] at hdone
    exact Stamped.mono hloaded fun _ hP => (hdone ▸ hP).built runtime
  cases accepted with
  | false => exact h.closeStream
  | true =>
      have hpolicies : policies
          (s.queue ++ [policyUpdate version (withRuntimeCidrs snapshot runtime) enabled]) =
            policies s.queue ++ [withRuntimeCidrs snapshot runtime] :=
        policies_append _ _
      refine ⟨h.process, h.version_nonneg, h.applied_le, h.written_ne, h.written, ?_, ?_, h.task,
        fun hoffline => absurd hoffline htask, fun stream' heq => ?_⟩
      · simp only [SyncState.trySend, if_true, SyncState.flight, hpolicies]
        rw [← List.append_assoc, List.map_append, ← List.cons_append, List.pairwise_append]
        refine ⟨h.ordered, List.pairwise_singleton _ _, ?_⟩
        intro a ha b hb
        rw [List.map_singleton, List.mem_singleton] at hb
        subst hb
        rcases List.mem_cons.mp ha with rfl | ha
        · exact happlied
        · exact hle a ha
      · intro update hupdate other hother
        rcases List.mem_append.mp hupdate with hupdate | hupdate
        · exact h.queue update hupdate other hother
        · rw [List.mem_singleton.mp hupdate] at hother ⊢
          cases hother
          exact ⟨rfl, runtime, h.process runtime hprocess, hbuilt⟩
      · cases heq
        refine ⟨by rw [hwaiting]; trivial, ?_⟩
        unfold CursorOk
        rw [hcursor]
        refine ⟨runtime, hprocess, rfl, ?_⟩
        unfold LastOk
        rw [show policies (s.trySend (policyUpdate version (withRuntimeCidrs snapshot runtime)
          enabled) stream true).queue = _ from hpolicies, List.getLast?_append]
        exact ⟨hversion, hbuilt⟩

theorem TaskOk.version_le {db : PolicyDb} {runtime : RuntimeTrustedCidrSnapshot}
    {task : AgentTask} (h : TaskOk env clock db runtime task) :
    ∀ policy ∈ task.policy, policy.version ≤ policyVersion db defaultPolicyName := by
  intro policy hpolicy
  cases task with
  | offline => cases hpolicy
  | waiting => cases hpolicy
  | asking fetch =>
      cases hpolicy
      exact h.1
  | granted fetch =>
      cases hpolicy
      exact h.1
  | paging fetch page countries =>
      cases hpolicy
      exact h.2.1
  | applying snapshot =>
      cases hpolicy
      exact h.1

theorem SyncInv.flight_le (h : SyncInv env clock K s) : ∀ version ∈ s.flight, version ≤ s.version := by
  intro version hversion
  obtain ⟨policy, hpolicy, rfl⟩ := List.mem_map.mp hversion
  rcases List.mem_append.mp hpolicy with hpolicy | hpolicy
  · obtain ⟨runtime, -, htask⟩ := h.task
    exact htask.version_le policy (by simpa using hpolicy)
  · obtain ⟨update, hupdate, hsome⟩ := List.mem_filterMap.mp hpolicy
    obtain ⟨-, runtime, -, hok⟩ := h.queue update hupdate policy hsome
    exact hok.1

theorem SyncInv.streamMove {stream : PolicyStream} {e : SyncEvent} (h : SyncInv env clock K s)
    (hstream : s.stream = some stream) (hmove : StreamMove env s stream e s')
    (hclock : ∀ now, e = .readTable now → clock now) : SyncInv env clock K s' := by
  have hinv := h.stream stream hstream
  have htask : s.agent.task ≠ .offline := by
    intro hoffline
    rw [(h.offline hoffline).1] at hstream
    cases hstream
  have hstate := hinv.task
  cases hmove with
  | tick => exact h.withStream htask ⟨trivial, hinv.cursor⟩
  | version => exact h.withStream htask ⟨le_refl s.version, hinv.cursor⟩
  | unchanged => exact h.withStream htask ⟨trivial, hinv.cursor⟩
  | runtime version hst =>
      rw [hst] at hstate
      exact h.withStream htask ⟨⟨hstate, s.runtime.cache, rfl⟩, hinv.cursor⟩
  | policyVersion version runtime hst =>
      rw [hst] at hstate
      refine h.withStream htask ⟨⟨hstate.1, hstate.2, h.applied_le, h.flight_le, [], rfl, ?_⟩,
        hinv.cursor⟩
      exact ⟨le_refl s.version, fun _ => ⟨0, fun hmem => absurd hmem List.not_mem_nil, rfl⟩⟩
  | table version runtime snapshot snapshot' table toLoad now hst hload =>
      rw [hst] at hstate
      obtain ⟨hversion, hprocess, happlied, hle, done, hdone, hloaded⟩ := hstate
      have hsame := version_of_loadTable hload
      have hdone' : loadOrder = (done ++ [table]) ++ toLoad := by
        rw [hdone, List.append_assoc]
        rfl
      have hnodup : (done ++ [table]).Nodup := by
        have hall : loadOrder.Nodup := by decide
        rw [hdone'] at hall
        exact (List.nodup_append.mp hall).1
      refine h.withStream htask ⟨⟨?_, hprocess, ?_, ?_, done ++ [table], hdone', ?_⟩, hinv.cursor⟩
      · rw [hsame]
        exact hversion
      · rw [hsame]
        exact happlied
      · rw [hsame]
        exact hle
      · rw [hsame]
        exact hloaded.mono fun _ hP => hP.table (hclock now rfl) hnodup hload
  | update version runtime snapshot accepted hst =>
      rw [hst] at hstate
      exact h.sendPolicy htask hstate _ rfl rfl accepted
  | monitorSame => exact h.withStream htask ⟨trivial, hinv.cursor⟩
  | monitor accepted =>
      have hnew : SessionInv env clock s
          { cursor := { stream.cursor with dropMonitorEnabled := s.monitored env }
            task := .ticking
            changed := false } := ⟨trivial, hinv.cursor⟩
      exact h.sendMonitor htask hnew _ _ accepted
  | close e => exact h.closeStream

/-! ## Steps of the agent -/

/-- Between receiving a policy and applying it, its version does not change. -/
theorem HeldOk.busy {db : PolicyDb} {runtime : RuntimeTrustedCidrSnapshot} {version held : Int}
    {before after : Agent} (h : HeldOk env clock db runtime version before)
    (hbefore : before.task.policy.map PolicySnapshot.version = some held)
    (hafter : after.task.policy.map PolicySnapshot.version = some held)
    (hok : TaskOk env clock db runtime before.task → TaskOk env clock db runtime after.task) :
    HeldOk env clock db runtime version after := by
  have hheld : version ≤ held ∧ TaskOk env clock db runtime before.task := by
    obtain ⟨policy, hpolicy, rfl⟩ := Option.map_eq_some_iff.mp hbefore
    unfold HeldOk at h
    cases htask : before.task <;> rw [htask] at h hpolicy <;> try cases hpolicy
    all_goals exact ⟨h.1 _ rfl, h.2⟩
  have hle : ∀ policy ∈ after.task.policy, version ≤ policy.version := by
    intro policy hpolicy
    have hpolicy : after.task.policy = some policy := hpolicy
    rw [hpolicy] at hafter
    cases hafter
    exact hheld.1
  have hnew := hok hheld.2
  unfold HeldOk
  cases htask : after.task <;> rw [htask] at hafter hle hnew <;> try cases hafter
  all_goals exact ⟨hle, hnew⟩

/-- The agent goes on with the policy it is working on. -/
theorem SyncInv.agentTask (h : SyncInv env clock K s) {agent : Agent}
    (happlied : agent.appliedVersion = s.agent.appliedVersion)
    (hwritten : agent.written = s.agent.written) {version : Int}
    (hbefore : s.agent.task.policy.map PolicySnapshot.version = some version)
    (hafter : agent.task.policy.map PolicySnapshot.version = some version)
    (hok : ∀ runtime, TaskOk env clock s.db runtime s.agent.task →
      TaskOk env clock s.db runtime agent.task) : SyncInv env clock K { s with agent := agent } := by
  have hflight : SyncState.flight { s with agent := agent } = s.flight := by
    obtain ⟨before, hsome, rfl⟩ := Option.map_eq_some_iff.mp hbefore
    obtain ⟨after, hsome', heq⟩ := Option.map_eq_some_iff.mp hafter
    simp [SyncState.flight, hsome, hsome', heq]
  have honline : agent.task ≠ .offline := by
    intro hoffline
    rw [hoffline] at hafter
    cases hafter
  refine ⟨h.process, h.version_nonneg, happlied ▸ h.applied_le, ?_, ?_, ?_, h.queue, ?_,
    fun hoffline => absurd hoffline honline, ?_⟩
  · rw [happlied, hwritten]
    exact h.written_ne
  · rw [happlied, hwritten]
    exact h.written
  · rw [hflight, happlied]
    exact h.ordered
  · obtain ⟨runtime, hK, htask⟩ := h.task
    exact ⟨runtime, hK, hok runtime htask⟩
  · intro stream hstream
    obtain ⟨htask, hcursor⟩ := h.stream stream hstream
    constructor
    · cases hst : stream.task <;> rw [hst] at htask
      case waiting => trivial
      case ticking => trivial
      case versionRead version => exact htask
      case runtimeRead version runtime => exact htask
      case loading version runtime snapshot toLoad =>
        obtain ⟨hversion, hprocess, hle, hall, hdone⟩ := htask
        exact ⟨hversion, hprocess, happlied ▸ hle, hflight ▸ hall, hdone⟩
    · unfold CursorOk at hcursor ⊢
      cases hfp : stream.cursor.runtimeFingerprint with
      | none =>
          rw [hfp] at hcursor
          exact ⟨hflight.trans hcursor.1, hcursor.2.trans happlied.symm⟩
      | some fingerprint =>
          rw [hfp] at hcursor
          obtain ⟨runtime, hprocess, heq, hlast⟩ := hcursor
          refine ⟨runtime, hprocess, heq, ?_⟩
          unfold LastOk at hlast ⊢
          cases hqueue : (policies s.queue).getLast? with
          | some snapshot =>
              rw [hqueue] at hlast
              exact hlast
          | none =>
              rw [hqueue] at hlast
              exact hlast.busy hbefore hafter (hok runtime)

theorem TaskOk.afterPage {db : PolicyDb} {runtime : RuntimeTrustedCidrSnapshot}
    {fetch : GeoFetch} {page : GeoPrefixPage}
    (h : Stamped db fetch.snapshot.version
      (Built env clock db runtime fetch.snapshot ∧ Received env db fetch.received fetch.token ∧
        loadPersistedGeoPrefixPage env.text db (enabledGeoCountries db) fetch.token
          (geoPrefixPageSize geoPrefixPageSizeDefault) = .ok page)) :
    TaskOk env clock db runtime (s.afterPage fetch page).agent.task := by
  unfold SyncState.afterPage
  cases hnext : page.next with
  | some token => exact h.mono fun _ hP => ⟨hP.1, hP.2.1.page hP.2.2 hnext⟩
  | none => exact h.mono fun _ hP => ⟨_, _, hP.1, hP.2.1.last hP.2.2 hnext, rfl⟩

theorem SyncInv.afterPage {fetch : GeoFetch} {page page' : GeoPrefixPage}
    {countries : List (String × Nat)} (h : SyncInv env clock K s)
    (htask : s.agent.task = .paging fetch page countries)
    (hpage : Paged env s.db fetch.token page countries →
      loadPersistedGeoPrefixPage env.text s.db (enabledGeoCountries s.db) fetch.token
        (geoPrefixPageSize geoPrefixPageSizeDefault) = .ok page') :
    SyncInv env clock K (s.afterPage fetch page') := by
  have hok : ∀ runtime, TaskOk env clock s.db runtime s.agent.task →
      TaskOk env clock s.db runtime (s.afterPage fetch page').agent.task := by
    intro runtime hold
    rw [htask] at hold
    exact TaskOk.afterPage (hold.2.mono fun _ hP => ⟨hP.1, hP.2.1, hpage hP.2.2⟩)
  have hbefore : s.agent.task.policy.map PolicySnapshot.version = some fetch.snapshot.version := by
    rw [htask]
    rfl
  unfold SyncState.afterPage at hok ⊢
  cases hnext : page'.next with
  | some token =>
      rw [hnext] at hok
      exact h.agentTask rfl rfl hbefore rfl hok
  | none =>
      rw [hnext] at hok
      exact h.agentTask rfl rfl hbefore rfl hok

/-- A policy that is applied replaces what was written before. -/
theorem SyncInv.applied {snapshot : PolicySnapshot} (h : SyncInv env clock K s)
    (htask : s.agent.task = .applying snapshot) :
    SyncInv env clock K
      { s with
        agent :=
          { s.agent with
            appliedVersion := (addControlPlaneTrustedCidrs env.control snapshot).version
            task := .waiting
            written := [addControlPlaneTrustedCidrs env.control snapshot] } } := by
  have hflight : s.flight =
      snapshot.version :: (policies s.queue).map PolicySnapshot.version := by
    rw [SyncState.flight, htask]
    rfl
  have hordered := h.ordered
  rw [hflight] at hordered
  have hwritten {runtime : RuntimeTrustedCidrSnapshot}
      (hok : TaskOk env clock s.db runtime (.applying snapshot)) :
      Written env clock s.db runtime (addControlPlaneTrustedCidrs env.control snapshot) :=
    Stamped.mono hok fun _ hP => ⟨snapshot, hP, rfl⟩
  obtain ⟨runtime, hK, hok⟩ := h.task
  rw [htask] at hok
  refine ⟨h.process, h.version_nonneg, hok.1, fun _ => List.cons_ne_nil _ _, ?_,
    (List.pairwise_cons.mp hordered).2, h.queue, ⟨runtime, hK, trivial⟩, ?_, ?_⟩
  · intro policy hpolicy
    rw [List.mem_singleton.mp hpolicy]
    exact ⟨fun _ => le_refl _, runtime, hK, hwritten hok⟩
  · intro hoffline
    cases hoffline
  · intro stream hstream
    obtain ⟨hstreamtask, hcursor⟩ := h.stream stream hstream
    constructor
    · cases hst : stream.task <;> rw [hst] at hstreamtask
      case waiting => trivial
      case ticking => trivial
      case versionRead version => exact hstreamtask
      case runtimeRead version runtime => exact hstreamtask
      case loading version runtime loading toLoad =>
        obtain ⟨hversion, hprocess, hle, hall, hdone⟩ := hstreamtask
        rw [hflight] at hall
        exact ⟨hversion, hprocess, hall _ List.mem_cons_self,
          fun other hother => hall other (List.mem_cons_of_mem _ hother), hdone⟩
    · unfold CursorOk at hcursor ⊢
      cases hfp : stream.cursor.runtimeFingerprint with
      | none =>
          rw [hfp, hflight] at hcursor
          cases hcursor.1
      | some fingerprint =>
          rw [hfp] at hcursor
          obtain ⟨last, hprocess, heq, hlast⟩ := hcursor
          refine ⟨last, hprocess, heq, ?_⟩
          unfold LastOk at hlast ⊢
          cases hqueue : (policies s.queue).getLast? with
          | some other =>
              rw [hqueue] at hlast
              exact hlast
          | none =>
              rw [hqueue] at hlast
              unfold HeldOk at hlast
              rw [htask] at hlast
              exact ⟨_, rfl, rfl, hlast.1 snapshot rfl, hwritten hlast.2⟩

/-- A policy that fails is written over what was there; the agent leaves the stream. -/
theorem SyncInv.failed {snapshot : PolicySnapshot} (h : SyncInv env clock K s)
    (htask : s.agent.task = .applying snapshot) :
    SyncInv env clock K
      { s.disconnected with
        agent :=
          { s.agent with
            task := .offline
            written := addControlPlaneTrustedCidrs env.control snapshot :: s.agent.written } } := by
  have hordered := h.ordered
  rw [SyncState.flight, htask] at hordered
  have hle : s.agent.appliedVersion ≤ snapshot.version :=
    (List.pairwise_cons.mp hordered).1 _ List.mem_cons_self
  obtain ⟨runtime, hK, hok⟩ := h.task
  rw [htask] at hok
  refine h.offlineAgent rfl h.applied_le (fun _ => List.cons_ne_nil _ _) ?_
  intro policy hpolicy
  rcases List.mem_cons.mp hpolicy with rfl | hpolicy
  · exact ⟨fun _ => hle, runtime, hK, Stamped.mono hok fun _ hP => ⟨snapshot, hP, rfl⟩⟩
  · exact h.written policy hpolicy

/-- The agent takes a message from the queue, and what is in flight stays in flight. -/
theorem SyncInv.take {queue : List PolicyUpdate} {agent : Agent} (h : SyncInv env clock K s)
    (honline : agent.task ≠ .offline)
    (happlied : agent.appliedVersion = s.agent.appliedVersion)
    (hwritten : agent.written = s.agent.written) (hqueue : ∀ update ∈ queue, update ∈ s.queue)
    (hflight : SyncState.flight { s with queue := queue, agent := agent } = s.flight)
    (hok : ∃ runtime, K runtime ∧ TaskOk env clock s.db runtime agent.task)
    (hlast : ∀ runtime version, LastOk env clock s runtime version →
      LastOk env clock { s with queue := queue, agent := agent } runtime version) :
    SyncInv env clock K { s with queue := queue, agent := agent } := by
  refine ⟨h.process, h.version_nonneg, happlied ▸ h.applied_le, ?_, ?_, ?_, ?_, hok,
    fun hoffline => absurd hoffline honline, ?_⟩
  · rw [happlied, hwritten]
    exact h.written_ne
  · rw [happlied, hwritten]
    exact h.written
  · rw [hflight, happlied]
    exact h.ordered
  · exact fun update hupdate => h.queue update (hqueue update hupdate)
  · intro stream hstream
    obtain ⟨hstreamtask, hcursor⟩ := h.stream stream hstream
    constructor
    · cases hst : stream.task <;> rw [hst] at hstreamtask
      case waiting => trivial
      case ticking => trivial
      case versionRead version => exact hstreamtask
      case runtimeRead version runtime => exact hstreamtask
      case loading version runtime snapshot toLoad =>
        obtain ⟨hversion, hprocess, hle, hall, hdone⟩ := hstreamtask
        exact ⟨hversion, hprocess, happlied ▸ hle, hflight ▸ hall, hdone⟩
    · unfold CursorOk at hcursor ⊢
      cases hfp : stream.cursor.runtimeFingerprint with
      | none =>
          rw [hfp] at hcursor
          exact ⟨hflight.trans hcursor.1, hcursor.2.trans happlied.symm⟩
      | some fingerprint =>
          rw [hfp] at hcursor
          obtain ⟨runtime, hprocess, heq, hsent⟩ := hcursor
          exact ⟨runtime, hprocess, heq, hlast runtime _ hsent⟩

theorem SyncInv.receiveMonitor {update : PolicyUpdate} {queue : List PolicyUpdate}
    (h : SyncInv env clock K s) (htask : s.agent.task = .waiting)
    (hqueue : s.queue = update :: queue) (hpolicy : update.policy = none) :
    SyncInv env clock K
      { s with
        queue := queue
        agent := { s.agent with dropMonitor := update.dropMonitorEnabled } } := by
  have hpolicies : policies s.queue = policies queue := by
    rw [hqueue, policies, List.filterMap_cons, hpolicy]
    rfl
  refine h.take (by simp [htask]) rfl rfl ?_ ?_ h.task ?_
  · rw [hqueue]
    exact fun _ => List.mem_cons_of_mem _
  · rw [SyncState.flight, SyncState.flight, hpolicies]
  · intro runtime version hlast
    unfold LastOk at hlast ⊢
    rw [hpolicies] at hlast
    exact hlast

theorem SyncInv.receive {update : PolicyUpdate} {queue : List PolicyUpdate}
    {snapshot : PolicySnapshot} (h : SyncInv env clock K s) (htask : s.agent.task = .waiting)
    (hqueue : s.queue = update :: queue) (hpolicy : update.policy = some snapshot) :
    SyncInv env clock K (({ s with queue := queue } : SyncState).received update snapshot) := by
  have hpolicies : policies s.queue = snapshot :: policies queue := by
    rw [hqueue, policies, List.filterMap_cons, hpolicy]
    rfl
  obtain ⟨hgeo, runtime, hK, hok⟩ :=
    h.queue update (hqueue ▸ List.mem_cons_self) snapshot hpolicy
  have hstart {runtime : RuntimeTrustedCidrSnapshot} (hok : UpdateOk env clock s.db runtime snapshot) :
      Stamped s.db snapshot.version
        (Built env clock s.db runtime snapshot ∧ Received env s.db [] (0, 0)) :=
    hok.mono fun _ hP => ⟨hP, received_nil hP⟩
  rw [SyncState.received, if_pos hgeo]
  refine h.take (fun hoffline => ?_) rfl rfl ?_ ?_ ⟨runtime, hK, hstart hok⟩ ?_
  · cases hoffline
  · rw [hqueue]
    exact fun _ => List.mem_cons_of_mem _
  · rw [SyncState.flight, SyncState.flight, hpolicies, htask]
    rfl
  · intro runtime version hlast
    unfold LastOk at hlast ⊢
    rw [hpolicies, List.getLast?_cons] at hlast
    cases hrest : (policies queue).getLast? with
    | some other =>
        rw [hrest] at hlast
        exact hlast
    | none =>
        rw [hrest] at hlast
        refine ⟨fun policy heq => ?_, hstart hlast.2⟩
        cases heq
        exact hlast.1

theorem SyncInv.agentMove (h : SyncInv env clock K s) (hmove : AgentMove env s s') :
    SyncInv env clock K s' := by
  cases hmove with
  | monitor update queue htask hqueue hpolicy => exact h.receiveMonitor htask hqueue hpolicy
  | policy update queue snapshot htask hqueue hpolicy => exact h.receive htask hqueue hpolicy
  | granted fetch htask =>
      refine h.agentTask rfl rfl (by rw [htask]; rfl) rfl fun runtime hok => ?_
      rw [htask] at hok
      exact hok
  | countries fetch htask =>
      refine h.agentTask rfl rfl (by rw [htask]; rfl) rfl fun runtime hok => ⟨rfl, ?_⟩
      rw [htask] at hok
      exact Stamped.mono hok fun _ hP => ⟨hP.1, hP.2, paged_start env s.db fetch.token⟩
  | country fetch page page' country countryIndex countries htask hcollect hnext =>
      refine h.agentTask rfl rfl (by rw [htask]; rfl) rfl fun runtime hok => ⟨hnext, ?_⟩
      rw [htask] at hok
      exact hok.2.mono fun _ hP => ⟨hP.1, hP.2.1, hP.2.2.country hcollect hnext⟩
  | full fetch page page' country countryIndex countries htask hcollect hnext =>
      exact h.afterPage htask fun hpaged => hpaged.complete hcollect hnext
  | lastCountry fetch page htask =>
      exact h.afterPage htask fun hpaged => hpaged.2.symm
  | applied snapshot htask => exact h.applied htask
  | failed snapshot htask => exact h.failed htask
  | disconnect => exact h.disconnected

/-! ## Every step -/

theorem SyncInv.offlineStep {e : SyncEvent} (h : SyncInv env clock K s)
    (htask : s.agent.task = .offline) (hstep : offlineStep env s e = some s') :
    SyncInv env clock K s' := by
  obtain ⟨hstream, hqueue⟩ := h.offline htask
  have hempty : s = { s with stream := none, queue := [] } := by
    cases s
    simp_all
  have hnegative : ¬ (0 : Int) ≤ -1 := by decide
  cases e <;> simp only [ControlPlane.offlineStep] at hstep <;> cases hstep
  case subscribe =>
    have hpolicies : policies (if s.monitored env then
        [dropMonitorUpdate s.agent.appliedVersion (s.monitored env)] else []) = [] := by
      split <;> rfl
    refine ⟨h.process, h.version_nonneg, h.applied_le, h.written_ne, h.written, ?_, ?_, ?_, ?_, ?_⟩
    · simp [SyncState.flight, SyncState.withTask, AgentTask.policy, hpolicies]
    · intro update hupdate snapshot hsnapshot
      have hmem : snapshot ∈ policies (if s.monitored env then
          [dropMonitorUpdate s.agent.appliedVersion (s.monitored env)] else []) :=
        List.mem_filterMap.mpr ⟨update, hupdate, hsnapshot⟩
      rw [hpolicies] at hmem
      cases hmem
    · obtain ⟨runtime, hK, -⟩ := h.task
      exact ⟨runtime, hK, trivial⟩
    · intro hoffline
      cases hoffline
    · intro stream heq
      cases heq
      refine ⟨trivial, ?_, rfl⟩
      simp [SyncState.flight, SyncState.withTask, AgentTask.policy, hpolicies]
  case unload =>
    rw [hempty]
    refine h.offlineAgent rfl ?_ ?_ ?_
    · exact (by decide : (-1 : Int) ≤ 0).trans h.version_nonneg
    · intro hle
      exact absurd hle hnegative
    · intro policy hpolicy
      cases hpolicy
  case startAgent =>
    rw [hempty]
    refine h.offlineAgent htask ?_ ?_ ?_
    · exact (by decide : (-1 : Int) ≤ 0).trans h.version_nonneg
    · intro hle
      exact absurd hle hnegative
    · intro policy hpolicy
      exact ⟨fun hle => absurd hle hnegative, (h.written policy hpolicy).2⟩

/-- A new process keeps the invariant when its networks are known to be in `K`. -/
theorem SyncInv.step {e : SyncEvent} (h : SyncInv env clock K s)
    (hstep : syncStep env s e = some s')
    (hprocess : ∀ runtime, FromProcess s'.runtime runtime → K runtime)
    (hclock : ∀ now, e = .readTable now → clock now) : SyncInv env clock K s' := by
  cases syncStep_move hstep with
  | commit db hok => exact h.commit hok
  | discover cidrs hk8s =>
      exact ⟨h.process, h.version_nonneg, h.applied_le, h.written_ne, h.written, h.ordered, h.queue,
        h.task, h.offline, fun stream hstream =>
          ⟨(h.stream stream hstream).task, (h.stream stream hstream).cursor⟩⟩
  | restart configured k8sDiscovery =>
      exact ⟨hprocess, h.version_nonneg, h.applied_le, h.written_ne, h.written, h.ordered, h.queue,
        h.task, fun hoffline => ⟨rfl, (h.offline hoffline).2⟩, fun _ hstream => nomatch hstream⟩
  | hub e hub =>
      refine ⟨h.process, h.version_nonneg, h.applied_le, h.written_ne, h.written, h.ordered,
        h.queue, h.task, fun hoffline => ⟨?_, (h.offline hoffline).2⟩, fun stream hstream => ?_⟩
      · simp [SyncState.withHub, (h.offline hoffline).1]
      · obtain ⟨stream, hold, rfl⟩ := Option.map_eq_some_iff.mp hstream
        exact ⟨(h.stream stream hold).task, (h.stream stream hold).cursor⟩
  | offline e s' htask hstep => exact h.offlineStep htask hstep
  | agent e s' htask hmove => exact h.agentMove hmove
  | stream e s' stream hstream hmove => exact h.streamMove hstream hmove hclock

end ControlPlane
end XdpFirewall
