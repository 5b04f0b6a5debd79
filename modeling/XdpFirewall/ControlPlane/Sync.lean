import Mathlib.Logic.Function.Basic
import XdpFirewall.ControlPlane.ActiveRows
import XdpFirewall.ControlPlane.RuntimeCidrs
import XdpFirewall.Lib.Transition

/-!
# Sync — a policy stream from the control plane to one agent

The control plane polls the version of the policy, loads the tables one by one and sends what it
has put together. The agent fetches the address blocks of the countries page by page and applies
the result. Every query is a step of its own, and commits, changes of the runtime networks,
failures and reconnects can happen between any two of them. Versions are integers without a bound,
as in the table that they come from.
-/

namespace XdpFirewall
namespace ControlPlane

open Lib Net Policy

/-! ## Messages -/

/-- A message of the stream. One without a policy only sets the drop monitor. -/
structure PolicyUpdate where
  version : Int
  policy : Option PolicySnapshot
  dropMonitorEnabled : Bool
  externalGeoPrefixes : Bool
  geoPrefixVersion : Int

/-- `policy_update` for agents that fetch address blocks themselves. -/
def policyUpdate (version : Int) (snapshot : PolicySnapshot) (dropMonitorEnabled : Bool) :
    PolicyUpdate where
  version := version
  policy := some snapshot
  dropMonitorEnabled := dropMonitorEnabled
  externalGeoPrefixes := true
  geoPrefixVersion := version

/-- `send_drop_monitor_update` -/
def dropMonitorUpdate (version : Int) (dropMonitorEnabled : Bool) : PolicyUpdate where
  version := max version 0
  policy := none
  dropMonitorEnabled := dropMonitorEnabled
  externalGeoPrefixes := false
  geoPrefixVersion := 0

/-! ## Drop monitor subscriptions -/

/-- How many viewers of drop events there are for each filter, `none` standing for all nodes. -/
structure DropSubscriptions where
  count : Option String → Nat

/-- `normalize_drop_node_filter` -/
def normalizeDropNodeFilter : Option String → Option String
  | none => none
  | some value =>
      let value := String.ofList (trim value.toList)
      if value.isEmpty ∨ value.toLower = "all" then none else some value

namespace DropSubscriptions

def add (hub : DropSubscriptions) (nodeId : Option String) : DropSubscriptions where
  count := Function.update hub.count (normalizeDropNodeFilter nodeId)
    (hub.count (normalizeDropNodeFilter nodeId) + 1)

def remove (hub : DropSubscriptions) (nodeId : Option String) : DropSubscriptions where
  count := Function.update hub.count nodeId (hub.count nodeId - 1)

def enabledForNode (hub : DropSubscriptions) (nodeId : String) : Bool :=
  0 < hub.count none || 0 < hub.count (some nodeId)

end DropSubscriptions

/-! ## The control plane -/

structure PolicyStreamCursor where
  version : Int
  runtimeFingerprint : Option String
  dropMonitorEnabled : Bool

/-- What the stream task is doing: it waits for the interval or a notification, or it is so far
with `build_policy_update`. -/
inductive StreamTask
  | waiting
  | ticking
  | versionRead (version : Int)
  | runtimeRead (version : Int) (runtime : RuntimeTrustedCidrSnapshot)
  | loading (version : Int) (runtime : RuntimeTrustedCidrSnapshot) (snapshot : PolicySnapshot)
      (toLoad : List PolicyTable)

/-- `changed` is a notification about drop monitor subscriptions that has not been looked at. -/
structure PolicyStream where
  cursor : PolicyStreamCursor
  task : StreamTask
  changed : Bool

def policyUpdateUnchanged (version currentVersion : Int) (runtime : RuntimeTrustedCidrs)
    (currentRuntimeFingerprint : Option String) (runtimeFingerprint : String) : Bool :=
  version ≤ currentVersion &&
    (!runtime.enabled || currentRuntimeFingerprint = some runtimeFingerprint)

/-! ## The agent -/

/-- The pages that `fetch_geo_prefixes` has so far, and the token of the next one. -/
structure GeoFetch where
  snapshot : PolicySnapshot
  version : Int
  dropMonitorEnabled : Bool
  received : List GeoIpPrefixPolicy
  token : PageToken

/-- What the agent is doing. A page is answered in three kinds of queries: the version, the
enabled countries, the blocks of one country after the other. -/
inductive AgentTask
  | offline
  | waiting
  | asking (fetch : GeoFetch)
  | granted (fetch : GeoFetch)
  | paging (fetch : GeoFetch) (page : GeoPrefixPage) (countries : List (String × Nat))
  | applying (snapshot : PolicySnapshot)

def AgentTask.isOffline : AgentTask → Bool
  | .offline => true
  | _ => false

theorem AgentTask.isOffline_iff {task : AgentTask} : task.isOffline = true ↔ task = .offline := by
  cases task <;> simp [isOffline]

/-- `written` are the policies with entries in the maps: the last one that was applied, preceded
by those that failed since and may have left some of theirs. -/
structure Agent where
  appliedVersion : Int
  task : AgentTask
  written : List PolicySnapshot
  dropMonitor : Bool

/-- `add_control_plane_trusted_cidrs` with the networks of the control URL. -/
def addControlPlaneTrustedCidrs (control : List IpNet) (snapshot : PolicySnapshot) :
    PolicySnapshot :=
  { snapshot with
    trustedCidrs :=
      control.foldl (pushTrusted "local xDS control-plane allow") snapshot.trustedCidrs }

/-! ## The system -/

structure SyncState where
  db : PolicyDb
  runtime : RuntimeTrustedCidrs
  hub : DropSubscriptions
  stream : Option PolicyStream
  queue : List PolicyUpdate
  agent : Agent

/-- What the steps take from outside: readers of texts, the text of a network, the networks of
the agent's control URL and the name of its node. -/
structure SyncEnv where
  text : TextReaders
  display : IpNet → String
  control : List IpNet
  nodeId : String

def SyncState.version (s : SyncState) : Int :=
  policyVersion s.db defaultPolicyName

def SyncEnv.fingerprint (env : SyncEnv) (runtime : RuntimeTrustedCidrSnapshot) : String :=
  cidrFingerprint env.display runtime.all

def SyncState.monitored (env : SyncEnv) (s : SyncState) : Bool :=
  s.hub.enabledForNode env.nodeId

inductive SyncEvent
  | commit (db : PolicyDb)
  | discover (cidrs : List IpNet)
  | restart (configured : List IpNet) (k8sDiscovery : Bool)
  | watch (nodeId : Option String)
  | unwatch (nodeId : Option String)
  | subscribe
  | tick
  | readVersion
  | readRuntime
  | readPolicyVersion
  | readTable (now : Int)
  | sendUpdate (accepted : Bool)
  | monitorChanged (accepted : Bool)
  | closeStream
  | receive
  | grantPage
  | readCountries
  | readCountry
  | apply (succeeds : Bool)
  | disconnect
  | unload
  | startAgent

/-- The agent leaves the stream. -/
def SyncState.disconnected (s : SyncState) : SyncState :=
  { s with stream := none, queue := [], agent := { s.agent with task := .offline } }

def SyncState.withTask (s : SyncState) (task : AgentTask) : SyncState :=
  { s with agent := { s.agent with task := task } }

def SyncState.withStream (s : SyncState) (stream : PolicyStream) : SyncState :=
  { s with stream := some stream }

/-- `notify_changed` reaches the stream task. -/
def SyncState.withHub (s : SyncState) (hub : DropSubscriptions) : SyncState :=
  { s with
    hub := hub
    stream := s.stream.map fun stream => { stream with changed := true } }

/-- A message goes to the channel. When the channel is full or closed, the stream ends. -/
def SyncState.trySend (s : SyncState) (update : PolicyUpdate) (stream : PolicyStream)
    (accepted : Bool) : SyncState :=
  if accepted then
    { s with stream := some stream, queue := s.queue ++ [update] }
  else
    { s with stream := none }

/-! ## Steps -/

/-- A step of the stream task. -/
def streamStep (env : SyncEnv) (s : SyncState) (stream : PolicyStream) :
    SyncEvent → Option SyncState
  | .tick =>
      match stream.task with
      | .waiting => some (s.withStream { stream with task := .ticking })
      | _ => none
  | .readVersion =>
      match stream.task with
      | .ticking => some (s.withStream { stream with task := .versionRead s.version })
      | _ => none
  | .readRuntime =>
      match stream.task with
      | .versionRead version =>
          let runtime := s.runtime.currentSnapshot
          if policyUpdateUnchanged version stream.cursor.version s.runtime
              stream.cursor.runtimeFingerprint (env.fingerprint runtime) then
            some (s.withStream { stream with task := .waiting })
          else
            some (s.withStream { stream with task := .runtimeRead version runtime })
      | _ => none
  | .readPolicyVersion =>
      match stream.task with
      | .runtimeRead version runtime =>
          some (s.withStream
            { stream with
              task := .loading version runtime (PolicySnapshot.unread s.version) loadOrder })
      | _ => none
  | .readTable now =>
      match stream.task with
      | .loading version runtime snapshot (table :: toLoad) =>
          match loadTable env.text s.db defaultPolicyName false now snapshot table with
          | .ok snapshot =>
              some (s.withStream { stream with task := .loading version runtime snapshot toLoad })
          | .error _ => some { s with stream := none }
      | _ => none
  | .sendUpdate accepted =>
      match stream.task with
      | .loading version runtime snapshot [] =>
          some (s.trySend
            (policyUpdate version (withRuntimeCidrs snapshot runtime) (s.monitored env))
            { stream with
              cursor :=
                { version := version
                  runtimeFingerprint := some (env.fingerprint runtime)
                  dropMonitorEnabled := s.monitored env }
              task := .waiting }
            accepted)
      | _ => none
  | .monitorChanged accepted =>
      -- `send_drop_monitor_change`, after which the loop starts over
      match stream.task, stream.changed with
      | .waiting, true =>
          if s.monitored env = stream.cursor.dropMonitorEnabled then
            some (s.withStream { stream with task := .ticking, changed := false })
          else
            some (s.trySend (dropMonitorUpdate stream.cursor.version (s.monitored env))
              { cursor := { stream.cursor with dropMonitorEnabled := s.monitored env }
                task := .ticking
                changed := false }
              accepted)
      | _, _ => none
  | .closeStream => some { s with stream := none }
  | _ => none

/-- A policy update has been taken from the stream. -/
def SyncState.received (s : SyncState) (update : PolicyUpdate) (snapshot : PolicySnapshot) :
    SyncState :=
  if update.externalGeoPrefixes then
    s.withTask (.asking
      { snapshot := snapshot
        version := update.geoPrefixVersion
        dropMonitorEnabled := update.dropMonitorEnabled
        received := []
        token := (0, 0) })
  else
    { s with
      agent :=
        { s.agent with task := .applying snapshot, dropMonitor := update.dropMonitorEnabled } }

/-- A page is complete: the agent asks for the next one, or it has the whole policy and sets the
drop monitor before it applies it. -/
def SyncState.afterPage (s : SyncState) (fetch : GeoFetch) (page : GeoPrefixPage) : SyncState :=
  let received := fetch.received ++ page.items
  match page.next with
  | some token => s.withTask (.asking { fetch with received := received, token := token })
  | none =>
      { s with
        agent :=
          { s.agent with
            task := .applying { fetch.snapshot with geoPrefixes := received }
            dropMonitor := fetch.dropMonitorEnabled } }

/-- The page size of an agent's request, `geo_prefix_page_size(GEO_PREFIX_PAGE_SIZE)`. -/
def agentPageSize : Nat :=
  max (geoPrefixPageSize geoPrefixPageSizeDefault) 1

/-- A step of the agent, which has a stream. -/
def agentStep (env : SyncEnv) (s : SyncState) : SyncEvent → Option SyncState
  | .receive =>
      match s.agent.task, s.queue with
      | .waiting, update :: queue =>
          let s := { s with queue := queue }
          match update.policy with
          | none =>
              some { s with agent := { s.agent with dropMonitor := update.dropMonitorEnabled } }
          | some snapshot => some (s.received update snapshot)
      | _, _ => none
  | .grantPage =>
      match s.agent.task with
      | .asking fetch =>
          -- `ensure_geo_prefix_version_current`
          if 0 < fetch.version ∧ fetch.version ≠ s.version then
            some s.disconnected
          else
            some (s.withTask (.granted fetch))
      | _ => none
  | .readCountries =>
      match s.agent.task with
      | .granted fetch =>
          some (s.withTask (.paging fetch { items := [], next := none }
            ((enabledGeoCountries s.db).zipIdx.drop fetch.token.1)))
      | _ => none
  | .readCountry =>
      match s.agent.task with
      | .paging fetch page [] => some (s.afterPage fetch page)
      | .paging fetch page ((country, countryIndex) :: countries) =>
          match collectCountryPage env.text s.db agentPageSize fetch.token page country
              countryIndex with
          | .ok page =>
              if page.next.isSome then
                some (s.afterPage fetch page)
              else
                some (s.withTask (.paging fetch page countries))
          | .error _ => some s.disconnected
      | _ => none
  | .apply succeeds =>
      match s.agent.task with
      | .applying snapshot =>
          let policy := addControlPlaneTrustedCidrs env.control snapshot
          if succeeds then
            some
              { s with
                agent :=
                  { s.agent with
                    appliedVersion := policy.version
                    task := .waiting
                    written := [policy] } }
          else
            some
              { s.disconnected with
                agent :=
                  { s.agent with
                    task := .offline
                    written := policy :: s.agent.written } }
      | _ => none
  | .disconnect => some s.disconnected
  | _ => none

/-- A step of an agent without a stream. -/
def offlineStep (env : SyncEnv) (s : SyncState) : SyncEvent → Option SyncState
  | .subscribe =>
      let cursor : PolicyStreamCursor :=
        { version := s.agent.appliedVersion
          runtimeFingerprint := none
          dropMonitorEnabled := s.monitored env }
      some
        { s.withTask .waiting with
          stream := some { cursor := cursor, task := .ticking, changed := false }
          queue :=
            if cursor.dropMonitorEnabled then
              [dropMonitorUpdate cursor.version cursor.dropMonitorEnabled]
            else
              [] }
  | .unload =>
      some
        { s with
          agent :=
            { appliedVersion := -1
              task := .offline
              written := []
              dropMonitor := false } }
  | .startAgent =>
      some { s with agent := { s.agent with appliedVersion := -1, dropMonitor := false } }
  | _ => none

/-- A commit that readers can see raises the version. -/
def CommitOk (db db' : PolicyDb) : Prop :=
  policyVersion db defaultPolicyName < policyVersion db' defaultPolicyName ∨
    db'.active defaultPolicyName = db.active defaultPolicyName

instance (db db' : PolicyDb) : Decidable (CommitOk db db') :=
  inferInstanceAs (Decidable (_ ∨ _))

def syncStep (env : SyncEnv) (s : SyncState) (e : SyncEvent) : Option SyncState :=
  match e with
  | .commit db => if CommitOk s.db db then some { s with db := db } else none
  | .discover cidrs =>
      if s.runtime.k8sDiscovery then
        some { s with runtime := { s.runtime with cache := cidrs } }
      else
        none
  | .restart configured k8sDiscovery =>
      some
        { s with
          runtime :=
            { configured := configured
              k8sDiscovery := k8sDiscovery
              cache := [] }
          hub := { count := fun _ => 0 }
          stream := none }
  | .watch nodeId => some (s.withHub (s.hub.add nodeId))
  | .unwatch nodeId => some (s.withHub (s.hub.remove nodeId))
  | .subscribe | .unload | .startAgent =>
      if s.agent.task.isOffline then offlineStep env s e else none
  | .receive | .grantPage | .readCountries | .readCountry | .apply _ | .disconnect =>
      if s.agent.task.isOffline then none else agentStep env s e
  | _ =>
      match s.stream with
      | some stream => streamStep env s stream e
      | none => none

/-- An empty database and an agent that has applied nothing. -/
def SyncState.start (runtime : RuntimeTrustedCidrs) : SyncState where
  db := PolicyDb.empty
  runtime := runtime
  hub := { count := fun _ => 0 }
  stream := none
  queue := []
  agent :=
    { appliedVersion := -1
      task := .offline
      written := []
      dropMonitor := false }

/-- All messages are processed and the next tick of the stream would send nothing. -/
def Idle (env : SyncEnv) (s : SyncState) : Prop :=
  s.queue = [] ∧ s.agent.task = .waiting ∧
    ∃ stream, s.stream = some stream ∧ stream.task = .waiting ∧
      policyUpdateUnchanged s.version stream.cursor.version s.runtime
        stream.cursor.runtimeFingerprint (env.fingerprint s.runtime.currentSnapshot)

/-! ## What a step does -/

section Moves

variable (env : SyncEnv) (s : SyncState)

/-- What a step of the stream task can do. -/
inductive StreamMove (stream : PolicyStream) : SyncEvent → SyncState → Prop
  | tick (htask : stream.task = .waiting) :
      StreamMove stream .tick (s.withStream { stream with task := .ticking })
  | version (htask : stream.task = .ticking) :
      StreamMove stream .readVersion
        (s.withStream { stream with task := .versionRead s.version })
  | unchanged (version : Int) (htask : stream.task = .versionRead version)
      (hsame : policyUpdateUnchanged version stream.cursor.version s.runtime
        stream.cursor.runtimeFingerprint (env.fingerprint s.runtime.currentSnapshot) = true) :
      StreamMove stream .readRuntime (s.withStream { stream with task := .waiting })
  | runtime (version : Int) (htask : stream.task = .versionRead version)
      (hnew : policyUpdateUnchanged version stream.cursor.version s.runtime
        stream.cursor.runtimeFingerprint (env.fingerprint s.runtime.currentSnapshot) = false) :
      StreamMove stream .readRuntime
        (s.withStream { stream with task := .runtimeRead version s.runtime.currentSnapshot })
  | policyVersion (version : Int) (runtime : RuntimeTrustedCidrSnapshot)
      (htask : stream.task = .runtimeRead version runtime) :
      StreamMove stream .readPolicyVersion
        (s.withStream
          { stream with
            task := .loading version runtime (PolicySnapshot.unread s.version) loadOrder })
  | table (version : Int) (runtime : RuntimeTrustedCidrSnapshot)
      (snapshot snapshot' : PolicySnapshot) (table : PolicyTable) (toLoad : List PolicyTable)
      (now : Int) (htask : stream.task = .loading version runtime snapshot (table :: toLoad))
      (hload : loadTable env.text s.db defaultPolicyName false now snapshot table =
        .ok snapshot') :
      StreamMove stream (.readTable now)
        (s.withStream { stream with task := .loading version runtime snapshot' toLoad })
  | update (version : Int) (runtime : RuntimeTrustedCidrSnapshot) (snapshot : PolicySnapshot)
      (accepted : Bool) (htask : stream.task = .loading version runtime snapshot []) :
      StreamMove stream (.sendUpdate accepted)
        (s.trySend
          (policyUpdate version (withRuntimeCidrs snapshot runtime) (s.monitored env))
          { stream with
            cursor :=
              { version := version
                runtimeFingerprint := some (env.fingerprint runtime)
                dropMonitorEnabled := s.monitored env }
            task := .waiting }
          accepted)
  | monitorSame (accepted : Bool) (htask : stream.task = .waiting)
      (hchanged : stream.changed = true) (hsame : s.monitored env = stream.cursor.dropMonitorEnabled) :
      StreamMove stream (.monitorChanged accepted)
        (s.withStream { stream with task := .ticking, changed := false })
  | monitor (accepted : Bool) (htask : stream.task = .waiting) (hchanged : stream.changed = true)
      (hnew : s.monitored env ≠ stream.cursor.dropMonitorEnabled) :
      StreamMove stream (.monitorChanged accepted)
        (s.trySend (dropMonitorUpdate stream.cursor.version (s.monitored env))
          { cursor := { stream.cursor with dropMonitorEnabled := s.monitored env }
            task := .ticking
            changed := false }
          accepted)
  | close (e : SyncEvent) : StreamMove stream e { s with stream := none }

/-- What a step of an agent with a stream can do. -/
inductive AgentMove : SyncState → Prop
  | monitor (update : PolicyUpdate) (queue : List PolicyUpdate)
      (htask : s.agent.task = .waiting) (hqueue : s.queue = update :: queue)
      (hpolicy : update.policy = none) :
      AgentMove
        { s with
          queue := queue
          agent := { s.agent with dropMonitor := update.dropMonitorEnabled } }
  | policy (update : PolicyUpdate) (queue : List PolicyUpdate) (snapshot : PolicySnapshot)
      (htask : s.agent.task = .waiting) (hqueue : s.queue = update :: queue)
      (hpolicy : update.policy = some snapshot) :
      AgentMove (({ s with queue := queue } : SyncState).received update snapshot)
  | granted (fetch : GeoFetch) (htask : s.agent.task = .asking fetch) :
      AgentMove (s.withTask (.granted fetch))
  | countries (fetch : GeoFetch) (htask : s.agent.task = .granted fetch) :
      AgentMove (s.withTask (.paging fetch { items := [], next := none }
        ((enabledGeoCountries s.db).zipIdx.drop fetch.token.1)))
  | country (fetch : GeoFetch) (page page' : GeoPrefixPage) (country : String)
      (countryIndex : Nat) (countries : List (String × Nat))
      (htask : s.agent.task = .paging fetch page ((country, countryIndex) :: countries))
      (hcollect : collectCountryPage env.text s.db agentPageSize fetch.token page country
        countryIndex = .ok page') (hnext : page'.next = none) :
      AgentMove (s.withTask (.paging fetch page' countries))
  | full (fetch : GeoFetch) (page page' : GeoPrefixPage) (country : String)
      (countryIndex : Nat) (countries : List (String × Nat))
      (htask : s.agent.task = .paging fetch page ((country, countryIndex) :: countries))
      (hcollect : collectCountryPage env.text s.db agentPageSize fetch.token page country
        countryIndex = .ok page') (hnext : page'.next.isSome) :
      AgentMove (s.afterPage fetch page')
  | lastCountry (fetch : GeoFetch) (page : GeoPrefixPage)
      (htask : s.agent.task = .paging fetch page []) : AgentMove (s.afterPage fetch page)
  | applied (snapshot : PolicySnapshot) (htask : s.agent.task = .applying snapshot) :
      AgentMove
        { s with
          agent :=
            { s.agent with
              appliedVersion := (addControlPlaneTrustedCidrs env.control snapshot).version
              task := .waiting
              written := [addControlPlaneTrustedCidrs env.control snapshot] } }
  | failed (snapshot : PolicySnapshot) (htask : s.agent.task = .applying snapshot) :
      AgentMove
        { s.disconnected with
          agent :=
            { s.agent with
              task := .offline
              written := addControlPlaneTrustedCidrs env.control snapshot :: s.agent.written } }
  | disconnect : AgentMove s.disconnected

/-- What a step of the system can do. -/
inductive SyncMove : SyncEvent → SyncState → Prop
  | commit (db : PolicyDb) (hok : CommitOk s.db db) : SyncMove (.commit db) { s with db := db }
  | discover (cidrs : List IpNet) (hk8s : s.runtime.k8sDiscovery = true) :
      SyncMove (.discover cidrs) { s with runtime := { s.runtime with cache := cidrs } }
  | restart (configured : List IpNet) (k8sDiscovery : Bool) :
      SyncMove (.restart configured k8sDiscovery)
        { s with
          runtime :=
            { configured := configured
              k8sDiscovery := k8sDiscovery
              cache := [] }
          hub := { count := fun _ => 0 }
          stream := none }
  | hub (e : SyncEvent) (hub : DropSubscriptions) : SyncMove e (s.withHub hub)
  | offline (e : SyncEvent) (s' : SyncState) (htask : s.agent.task = .offline)
      (hstep : offlineStep env s e = some s') : SyncMove e s'
  | agent (e : SyncEvent) (s' : SyncState) (htask : s.agent.task ≠ .offline)
      (hmove : AgentMove env s s') : SyncMove e s'
  | stream (e : SyncEvent) (s' : SyncState) (stream : PolicyStream)
      (hstream : s.stream = some stream) (hmove : StreamMove env s stream e s') : SyncMove e s'

end Moves

variable {env : SyncEnv} {s s' : SyncState} {e : SyncEvent}

theorem streamStep_move {stream : PolicyStream} (h : streamStep env s stream e = some s') :
    StreamMove env s stream e s' := by
  cases e <;> simp only [streamStep] at h
  case tick =>
    split at h <;> cases h
    exact .tick ‹_›
  case readVersion =>
    split at h <;> cases h
    exact .version ‹_›
  case readRuntime =>
    split at h
    · split at h <;> cases h
      · exact .unchanged _ ‹_› ‹_›
      · exact .runtime _ ‹_› (Bool.eq_false_iff.mpr ‹_›)
    · cases h
  case readPolicyVersion =>
    split at h <;> cases h
    exact .policyVersion _ _ ‹_›
  case readTable now =>
    split at h
    · split at h <;> cases h
      · exact .table _ _ _ _ _ _ now ‹_› ‹_›
      · exact .close _
    · cases h
  case sendUpdate accepted =>
    split at h <;> cases h
    exact .update _ _ _ accepted ‹_›
  case monitorChanged accepted =>
    split at h
    · split at h <;> cases h
      · exact .monitorSame accepted ‹_› ‹_› ‹_›
      · exact .monitor accepted ‹_› ‹_› ‹_›
    · cases h
  case closeStream =>
    cases h
    exact .close _
  all_goals cases h

theorem agentStep_move (h : agentStep env s e = some s') : AgentMove env s s' := by
  cases e <;> simp only [agentStep] at h
  case receive =>
    split at h
    · split at h <;> cases h
      · exact .monitor _ _ ‹_› ‹_› ‹_›
      · exact .policy _ _ _ ‹_› ‹_› ‹_›
    · cases h
  case grantPage =>
    split at h
    · split at h <;> cases h
      · exact .disconnect
      · exact .granted _ ‹_›
    · cases h
  case readCountries =>
    split at h <;> cases h
    exact .countries _ ‹_›
  case readCountry =>
    split at h
    · cases h
      exact .lastCountry _ _ ‹_›
    · split at h
      · split at h <;> cases h
        · exact .full _ _ _ _ _ _ ‹_› ‹_› ‹_›
        · exact .country _ _ _ _ _ _ ‹_› ‹_› (Option.not_isSome_iff_eq_none.mp ‹_›)
      · cases h
        exact .disconnect
    · cases h
  case apply succeeds =>
    split at h
    · split at h <;> cases h
      · exact .applied _ ‹_›
      · exact .failed _ ‹_›
    · cases h
  case disconnect =>
    cases h
    exact .disconnect
  all_goals cases h

theorem syncStep_move (h : syncStep env s e = some s') : SyncMove env s e s' := by
  cases e <;> simp only [syncStep] at h
  case commit db =>
    split at h <;> cases h
    exact .commit db ‹_›
  case discover cidrs =>
    split at h <;> cases h
    exact .discover cidrs ‹_›
  case restart configured k8sDiscovery =>
    cases h
    exact .restart configured k8sDiscovery
  case watch nodeId =>
    cases h
    exact .hub _ _
  case unwatch nodeId =>
    cases h
    exact .hub _ _
  case subscribe | unload | startAgent =>
    split at h
    · exact .offline _ _ (AgentTask.isOffline_iff.mp ‹_›) h
    · cases h
  case receive | grantPage | readCountries | readCountry | apply | disconnect =>
    split at h
    · cases h
    · exact .agent _ _ (mt AgentTask.isOffline_iff.mpr ‹_›) (agentStep_move h)
  all_goals
    cases hstream : s.stream with
    | none =>
        rw [hstream] at h
        cases h
    | some stream =>
        rw [hstream] at h
        exact .stream _ _ stream hstream (streamStep_move h)

/-! ## What a step leaves alone -/

/-- The parts of the state that only their own events change. -/
structure SameSurroundings (s s' : SyncState) : Prop where
  db : s'.db = s.db
  runtime : s'.runtime = s.runtime
  hub : s'.hub = s.hub

theorem StreamMove.sameSurroundings {stream : PolicyStream} (h : StreamMove env s stream e s') :
    SameSurroundings s s' := by
  cases h with
  | update version runtime snapshot accepted | monitor accepted =>
      cases accepted <;> exact ⟨rfl, rfl, rfl⟩
  | _ => exact ⟨rfl, rfl, rfl⟩

theorem AgentMove.sameSurroundings (h : AgentMove env s s') : SameSurroundings s s' := by
  have hafter (fetch : GeoFetch) (page : GeoPrefixPage) :
      SameSurroundings s (s.afterPage fetch page) := by
    unfold SyncState.afterPage
    cases page.next <;> exact ⟨rfl, rfl, rfl⟩
  cases h with
  | policy update queue snapshot =>
      unfold SyncState.received
      split <;> exact ⟨rfl, rfl, rfl⟩
  | full fetch page page' => exact hafter fetch page'
  | lastCountry fetch page => exact hafter fetch page
  | _ => exact ⟨rfl, rfl, rfl⟩

theorem StreamMove.agent {stream : PolicyStream} (h : StreamMove env s stream e s') :
    s'.agent = s.agent := by
  cases h with
  | update version runtime snapshot accepted | monitor accepted => cases accepted <;> rfl
  | _ => rfl

/-- A stream keeps its cursor until a policy is sent on it. -/
theorem StreamMove.cursor {stream stream' : PolicyStream} (h : StreamMove env s stream e s')
    (hstream : s'.stream = some stream') (hnone : stream'.cursor.runtimeFingerprint = none) :
    stream.cursor.runtimeFingerprint = none ∧
      stream'.cursor.version = stream.cursor.version := by
  cases h with
  | update version runtime snapshot accepted =>
      cases accepted <;> cases hstream
      cases hnone
  | monitor accepted =>
      cases accepted <;> cases hstream
      exact ⟨hnone, rfl⟩
  | close => cases hstream
  | _ =>
      cases hstream
      exact ⟨hnone, rfl⟩

theorem AgentMove.stream (h : AgentMove env s s') : s'.stream = s.stream ∨ s'.stream = none := by
  have hafter (fetch : GeoFetch) (page : GeoPrefixPage) :
      (s.afterPage fetch page).stream = s.stream := by
    unfold SyncState.afterPage
    cases page.next <;> rfl
  cases h with
  | policy update queue snapshot =>
      unfold SyncState.received
      split <;> exact Or.inl rfl
  | full fetch page page' => exact Or.inl (hafter fetch page')
  | lastCountry fetch page => exact Or.inl (hafter fetch page)
  | failed | disconnect => exact Or.inr rfl
  | _ => exact Or.inl rfl

/-- Only applying a policy writes to the maps. -/
theorem AgentMove.written (h : AgentMove env s s') :
    s'.agent.written = s.agent.written ∨ ∃ snapshot, s.agent.task = .applying snapshot := by
  have hafter (fetch : GeoFetch) (page : GeoPrefixPage) :
      (s.afterPage fetch page).agent.written = s.agent.written := by
    unfold SyncState.afterPage
    cases page.next <;> rfl
  cases h with
  | policy update queue snapshot =>
      unfold SyncState.received
      split <;> exact Or.inl rfl
  | full fetch page page' => exact Or.inl (hafter fetch page')
  | lastCountry fetch page => exact Or.inl (hafter fetch page)
  | applied snapshot htask | failed snapshot htask => exact Or.inr ⟨snapshot, htask⟩
  | _ => exact Or.inl rfl

theorem offlineStep_sameSurroundings (h : offlineStep env s e = some s') :
    SameSurroundings s s' := by
  cases e <;> simp only [offlineStep] at h <;> cases h <;> exact ⟨rfl, rfl, rfl⟩

/-- Only discovery and a restart change the networks of the process. -/
theorem SyncMove.runtime_cases (h : SyncMove env s e s') :
    s'.runtime = s.runtime ∨
      (∃ cidrs, e = .discover cidrs ∧ s'.runtime = { s.runtime with cache := cidrs }) ∨
      ∃ configured k8sDiscovery, e = .restart configured k8sDiscovery ∧
        s'.runtime =
          { configured := configured
            k8sDiscovery := k8sDiscovery
            cache := [] } := by
  cases h with
  | discover cidrs => exact Or.inr (Or.inl ⟨cidrs, rfl, rfl⟩)
  | restart configured k8sDiscovery => exact Or.inr (Or.inr ⟨configured, k8sDiscovery, rfl, rfl⟩)
  | commit | hub => exact Or.inl rfl
  | offline e s' htask hstep => exact Or.inl (offlineStep_sameSurroundings hstep).runtime
  | agent e s' htask hmove => exact Or.inl hmove.sameSurroundings.runtime
  | stream e s' stream hstream hmove => exact Or.inl hmove.sameSurroundings.runtime

end ControlPlane
end XdpFirewall
