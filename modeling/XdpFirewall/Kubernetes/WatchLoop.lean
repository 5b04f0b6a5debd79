import XdpFirewall.Kubernetes.Discover
import XdpFirewall.Lib.Transition
import Mathlib.Logic.Function.Basic

/-!
# WatchLoop — the loop that keeps the discovered networks up to date

A process discovers the networks once and then waits on one watch for each list. A watch starts
where a list of its own was read. When one reports a change, the loop discovers again; when one
ends or fails, the loop drops both and starts new ones. The cluster changes at any time.
-/

namespace XdpFirewall
namespace Kubernetes

open ControlPlane Lib Net

/-! ## The cluster -/

/-- A list of the cluster gets new items. -/
inductive Change
  | nodes (items : List Node)
  | services (items : List Service)
  | serviceCidrs (items : List ServiceCidr)

def Change.target : Change → K8sTarget
  | .nodes _ => .nodes
  | .services _ => .services
  | .serviceCidrs _ => .serviceCidrs

def Change.apply (cluster : Cluster) : Change → Cluster
  | .nodes items => { cluster with nodes := items }
  | .services items => { cluster with services := items }
  | .serviceCidrs items => { cluster with serviceCidrs := items }

/-! ## The lines of a watch -/

/-- `WatchEvent`, without the objects that it carries. -/
inductive WatchEvent
  | added
  | modified
  | deleted
  | bookmark
  | errorStatus (message : Option String)
  | errorOther (error : String)

inductive WatchLine
  | empty
  | unreadable
  | event (event : WatchEvent)

def K8sTarget.label : K8sTarget → String
  | .nodes => "nodes"
  | .services => "services"
  | .serviceCidrs => "servicecidrs"

def K8sTarget.path : K8sTarget → String
  | .nodes => "/api/v1/nodes"
  | .services => "/api/v1/services"
  | .serviceCidrs => "/apis/networking.k8s.io/v1/servicecidrs"

def watchLineChanged (label : String) : WatchLine → Except String Bool
  | .empty => .ok false
  | .unreadable => .error ("Kubernetes watch '" ++ label ++ "' returned invalid event JSON")
  | .event .added | .event .modified | .event .deleted => .ok true
  | .event .bookmark => .ok false
  | .event (.errorStatus message) =>
      .error ("Kubernetes watch '" ++ label ++ "' returned ERROR event: " ++
        message.getD "Kubernetes watch error")
  | .event (.errorOther error) =>
      .error ("Kubernetes watch '" ++ label ++ "' returned non-Status ERROR event: " ++ error)

/-! ## One watch -/

inductive KubernetesWatchOutcome
  | changed
  | ended
  | unsupported
  deriving DecidableEq

/-- How far a watch task is. `opening` and `streaming` know the version that the watch starts at. -/
inductive WatchTask
  | listing
  | opening (resourceVersion : Nat)
  | streaming (resourceVersion : Nat)
  | unsupported
  | reported
  deriving DecidableEq

inductive TaskEvent
  | listAnswered
  /-- The list is not found, or it does not tell its version. -/
  | listUnavailable
  | opened
  /-- The watch is not found or forbidden. -/
  | unavailable
  | line (line : WatchLine)
  | streamEnded
  | failed (error : String)

/-- What a task does next: it goes on, or it sends its result and ends. -/
inductive TaskStep
  | goesOn (task : WatchTask)
  | sends (result : Except String KubernetesWatchOutcome)

/-- `watch_until_typed_change`, for a list last changed at version `changedAt`. The server sends a
change only when there is one that the watch has not seen. -/
def taskStep (api : ServiceCidrApi) (version changedAt : Nat) (target : K8sTarget) :
    WatchTask → TaskEvent → Option TaskStep
  | .listing, .listAnswered =>
      match target, api with
      | .serviceCidrs, .notFound => some (.sends (.ok .unsupported))
      | .serviceCidrs, .forbidden =>
          some (.sends (.error ("Kubernetes API '" ++ target.path ++ "' returned forbidden")))
      | _, _ => some (.goesOn (.opening version))
  | .listing, .listUnavailable => some (.sends (.ok .unsupported))
  | .opening resourceVersion, .opened => some (.goesOn (.streaming resourceVersion))
  | .opening _, .unavailable => some (.sends (.ok .unsupported))
  | .streaming resourceVersion, .line line =>
      match watchLineChanged target.label line with
      | .ok true =>
          if resourceVersion < changedAt then some (.sends (.ok .changed)) else none
      | .ok false => some (.goesOn (.streaming resourceVersion))
      | .error e => some (.sends (.error e))
  | .streaming _, .streamEnded => some (.sends (.ok .ended))
  | .listing, .failed e | .opening _, .failed e | .streaming _, .failed e =>
      some (.sends (.error ("Kubernetes watch '" ++ target.label ++ "' failed: " ++ e)))
  | _, _ => none

/-! ## The watches of one round -/

def k8sWatchTargets (watchServices : Bool) : List K8sTarget :=
  if watchServices then [.nodes, .services] else [.nodes, .serviceCidrs]

/-- `wait_for_k8s_watch_change`: the tasks, the results they have sent, and how many targets were
found to be unsupported. -/
structure Watches where
  watchServices : Bool
  task : K8sTarget → WatchTask
  results : List (K8sTarget × Except String KubernetesWatchOutcome)
  unsupported : Nat

def Watches.start (watchServices : Bool) : Watches where
  watchServices := watchServices
  task := fun _ => .listing
  results := []
  unsupported := 0

/-- The task after it has sent its result. -/
def sentTask : Except String KubernetesWatchOutcome → WatchTask
  | .ok .unsupported => .unsupported
  | _ => .reported

def Watches.after (w : Watches) (target : K8sTarget) : TaskStep → Watches
  | .goesOn task => { w with task := Function.update w.task target task }
  | .sends result =>
      { w with
        task := Function.update w.task target (sentTask result)
        results := w.results ++ [(target, result)] }

/-! ## The process -/

structure K8sDiscoveryCache where
  cidrs : List IpNet
  initialized : Bool
  serviceCidrPartial : Bool
  lastRefreshFailed : Bool
  deriving DecidableEq

def K8sDiscoveryCache.empty : K8sDiscoveryCache where
  cidrs := []
  initialized := false
  serviceCidrPartial := false
  lastRefreshFailed := false

/-- What `refresh_k8s_discovery_cache` stores. -/
def K8sDiscoveryCache.refreshed (discovered : KubernetesRuntimeCidrs) : K8sDiscoveryCache where
  cidrs := discovered.cidrs
  initialized := true
  serviceCidrPartial := discovered.serviceCidrPartial
  lastRefreshFailed := false

/-- `discovering true` is `initial_refresh`; `sleeping` is the debounce or the reconnect delay. -/
inductive Phase
  | discovering (initial : Bool) (d : Discovering)
  | starting
  | waiting (watches : Watches)
  | sleeping

/-- `listed` is not kept by the program: the lists that the last refresh was made from, none when
that refresh failed. -/
structure World where
  cluster : Cluster
  version : Nat
  changedAt : K8sTarget → Nat
  cache : K8sDiscoveryCache
  phase : Phase
  listed : Option Cluster

def World.start (cluster : Cluster) (version : Nat) : World where
  cluster := cluster
  version := version
  changedAt := fun _ => version
  cache := .empty
  phase := .discovering true .nodes
  listed := none

/-- The loop marks a failed refresh; `initial_refresh` only logs it. -/
def World.refreshFailed (s : World) (initial : Bool) : World :=
  { s with
    cache := { s.cache with lastRefreshFailed := s.cache.lastRefreshFailed || !initial }
    phase := if initial then .starting else .sleeping
    listed := none }

def World.refreshDone (s : World) (initial : Bool) (listed : Cluster) :
    Except String KubernetesRuntimeCidrs → World
  | .ok discovered =>
      { s with
        cache := .refreshed discovered
        phase := if initial then .starting else .sleeping
        listed := some listed }
  | .error _ => s.refreshFailed initial

def World.watchFailed (s : World) : World :=
  { s with
    cache := { s.cache with lastRefreshFailed := true }
    phase := .sleeping }

/-- `wait_for_watch_outcome` takes the next result. -/
def World.received (s : World) (w : Watches) : Option World :=
  match w.results with
  | [] => none
  | (_, .ok .changed) :: _ => some { s with phase := .discovering false .nodes }
  | (_, .ok .ended) :: _ => some { s with phase := .starting }
  | (_, .ok .unsupported) :: rest =>
      if w.unsupported + 1 = (k8sWatchTargets w.watchServices).length then
        some s.watchFailed
      else
        some
          { s with
            phase := .waiting { w with results := rest, unsupported := w.unsupported + 1 } }
  | (_, .error _) :: _ => some s.watchFailed

inductive Event
  | change (change : Change)
  /-- The API server answers the list that a refresh has requested, or that request fails. -/
  | answered
  | requestFailed
  | watch
  | task (target : K8sTarget) (event : TaskEvent)
  | received
  | woken

def step (text : TextReaders) (api : ServiceCidrApi) (s : World) : Event → Option World
  | .change change =>
      some
        { s with
          cluster := change.apply s.cluster
          version := s.version + 1
          changedAt := Function.update s.changedAt change.target (s.version + 1) }
  | .answered =>
      match s.phase with
      | .discovering initial d =>
          match d.answer text api s.cluster with
          | .request next => some { s with phase := .discovering initial next }
          | .done listed result => some (s.refreshDone initial listed result)
      | _ => none
  | .requestFailed =>
      match s.phase with
      | .discovering initial _ => some (s.refreshFailed initial)
      | _ => none
  | .watch =>
      match s.phase with
      | .starting => some { s with phase := .waiting (.start s.cache.serviceCidrPartial) }
      | _ => none
  | .task target event =>
      match s.phase with
      | .waiting w =>
          if target ∈ k8sWatchTargets w.watchServices then
            (taskStep api s.version (s.changedAt target) target (w.task target) event).map
              fun next => { s with phase := .waiting (w.after target next) }
          else
            none
      | _ => none
  | .received =>
      match s.phase with
      | .waiting w => s.received w
      | _ => none
  | .woken =>
      match s.phase with
      | .sleeping => some { s with phase := .starting }
      | _ => none

/-! ## When a change is noticed -/

/-- The list gives the networks that it gave to the last refresh. -/
def World.Unchanged (text : TextReaders) (s : World) (target : K8sTarget) : Prop :=
  ∀ listed, s.listed = some listed → ∀ cidrs,
    networksOf text s.cluster cidrs target = networksOf text listed cidrs target

/-- The watch of this target is unsupported. -/
def World.Unwatched (s : World) (target : K8sTarget) : Prop :=
  ∃ w, s.phase = .waiting w ∧ w.task target = .unsupported

/-- A list that a watch is to start from, or that cannot be watched, is as the last refresh saw it,
and it stays so as long as it is not watched. -/
def Noticed (text : TextReaders) (s : World) (e : Event) (s' : World) : Prop :=
  match e with
  | .change change => s.Unwatched change.target → s'.Unchanged text change.target
  | .task target .listAnswered | .task target .listUnavailable | .task target .unavailable =>
      s.Unchanged text target
  | _ => True

/-- The loop waits: each watch is open and has delivered every event, or it is unsupported. -/
def World.Quiet (s : World) : Prop :=
  ∃ w, s.phase = .waiting w ∧ w.results = [] ∧
    ∀ target ∈ k8sWatchTargets w.watchServices,
      (∃ resourceVersion, w.task target = .streaming resourceVersion ∧
        s.changedAt target ≤ resourceVersion) ∨ w.task target = .unsupported

/-- The cache holds what `discover` would compute now. -/
def World.Current (text : TextReaders) (api : ServiceCidrApi) (s : World) : Prop :=
  KubernetesRuntimeCidrs.cidrs <$> discover text api s.cluster = .ok s.cache.cidrs

end Kubernetes
end XdpFirewall
