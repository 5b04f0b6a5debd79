import XdpFirewall.Agent.Resize
import XdpFirewall.Lib.Transition

/-!
# Runtime — the state of an agent between two messages

The agent counts failures of the control plane, unloads its rules when there are too many of them,
follows the drop monitor setting of each update and applies the policies. What the host answers
and what the control plane sends comes with the event.
-/

namespace XdpFirewall
namespace Agent

open DataPlane Lib Net Policy

inductive AgentOfflineMode
  | keepRules
  | unloadRules
  deriving DecidableEq

structure AgentArgs where
  offlineMode : AgentOfflineMode
  offlineFailureLimit : U32

/-- The task that reports drop events, and the maps whose events it has opened. -/
structure DropReporter where
  reading : Option Nat
  deriving DecidableEq

/-- `running` is false once the agent has ended with an error. -/
structure AgentRuntime where
  host : Host
  xdp : XdpManager
  appliedVersion : Int
  dropMonitor : Option DropReporter
  consecutiveFailures : Nat
  rulesUnloaded : Bool
  running : Bool

/-- A failure of the control plane, a heartbeat that arrives, an update with its drop monitor
setting and what its snapshot compiles to, and the reporter opening or losing the pinned events. -/
inductive AgentEvent
  | failure (env : HostEnv)
  | healthy
  | update (dropMonitorEnabled : Bool) (policy : Option (Except String CompiledPolicy))
      (env : HostEnv)
  | openEvents
  | closeEvents

/-! ## Offline -/

/-- `record_control_plane_failure`, with a counter of 32 bits that saturates. -/
def recordControlPlaneFailure (s : AgentRuntime) : AgentRuntime :=
  { s with consecutiveFailures := min (s.consecutiveFailures + 1) (2 ^ 32 - 1) }

def recordControlPlaneHealthy (s : AgentRuntime) : AgentRuntime :=
  { s with consecutiveFailures := 0 }

def recordPolicyApplied (s : AgentRuntime) : AgentRuntime :=
  { s with consecutiveFailures := 0, rulesUnloaded := false }

def shouldUnloadRules (args : AgentArgs) (s : AgentRuntime) : Bool :=
  args.offlineMode = .unloadRules && !s.rulesUnloaded &&
    decide (args.offlineFailureLimit.toNat ≤ s.consecutiveFailures)

/-! ## Drop monitor -/

/-- `set_drop_monitor_enabled`: the state afterwards, and whether it worked. -/
def setDropMonitorEnabled (env : HostEnv) (enabled : Bool) (s : AgentRuntime) :
    AgentRuntime × Bool :=
  match (setDropConfig env .setDropConfig s.xdp.set enabled).run s.host with
  | .ok _ host => ({ s with host := host }, true)
  | .error _ host => ({ s with host := host }, false)

/-- `drop_monitor::disable` -/
def disableDropMonitor (env : HostEnv) (s : AgentRuntime) : AgentRuntime :=
  if s.dropMonitor.isSome then
    (setDropMonitorEnabled env false { s with dropMonitor := none }).1
  else
    s

/-- `drop_monitor::enable` -/
def enableDropMonitor (env : HostEnv) (s : AgentRuntime) : AgentRuntime :=
  match setDropMonitorEnabled env true s with
  | (s, false) => s
  | (s, true) =>
      if env.fails .dropEventsPath = none then
        { s with dropMonitor := some { reading := none } }
      else
        s

/-- `drop_monitor::reconcile` -/
def reconcile (env : HostEnv) (enabled : Bool) (s : AgentRuntime) : AgentRuntime :=
  if enabled = true ∧ s.dropMonitor = none then
    enableDropMonitor env s
  else if enabled = false then
    disableDropMonitor env s
  else
    s

/-! ## Steps -/

/-- `XdpManager::apply` on the manager of the agent. -/
def applyCompiled (env : HostEnv) (policy : CompiledPolicy) (s : AgentRuntime) :
    AgentRuntime × Bool :=
  match (apply env policy).run (s.host, s.xdp) with
  | .ok _ (host, xdp) => ({ s with host := host, xdp := xdp }, true)
  | .error _ (host, xdp) => ({ s with host := host, xdp := xdp }, false)

/-- `handle_control_plane_failure`. When the rules cannot be unloaded, the agent ends. -/
def handleControlPlaneFailure (args : AgentArgs) (env : HostEnv) (s : AgentRuntime) :
    AgentRuntime :=
  let s := recordControlPlaneFailure s
  if shouldUnloadRules args s then
    let s := disableDropMonitor env s
    match applyCompiled env (CompiledPolicy.unloaded (max s.appliedVersion 0)) s with
    | (s, true) => { s with appliedVersion := -1, rulesUnloaded := true }
    | (s, false) => { s with running := false }
  else
    s

/-- `process_policy_update`, as far as the heartbeat that follows an apply. -/
def processPolicyUpdate (env : HostEnv) (dropMonitorEnabled : Bool)
    (policy : Option (Except String CompiledPolicy)) (s : AgentRuntime) : AgentRuntime :=
  let s := reconcile env dropMonitorEnabled s
  match policy with
  | none => s
  | some (.error _) => s
  | some (.ok compiled) =>
      match applyCompiled env compiled s with
      | (s, true) => recordPolicyApplied { s with appliedVersion := compiled.version }
      | (s, false) => s

/-- The reporter opens the events that are pinned. -/
def openEvents (s : AgentRuntime) : AgentRuntime :=
  { s with
    dropMonitor := s.dropMonitor.map fun _ => { reading := s.host.pins } }

def closeEvents (s : AgentRuntime) : AgentRuntime :=
  { s with dropMonitor := s.dropMonitor.map fun _ => { reading := none } }

def agentStep (args : AgentArgs) (s : AgentRuntime) (e : AgentEvent) : Option AgentRuntime :=
  if s.running then
    match e with
    | .failure env => some (handleControlPlaneFailure args env s)
    | .healthy => some (recordControlPlaneHealthy s)
    | .update enabled policy env => some (processPolicyUpdate env enabled policy s)
    | .openEvents => some (openEvents s)
    | .closeEvents => some (closeEvents s)
  else
    none

/-- `AgentRuntime::attach`, after an attach that ended well. -/
def AgentRuntime.attached (host : Host) (xdp : XdpManager) : AgentRuntime where
  host := host
  xdp := xdp
  appliedVersion := -1
  dropMonitor := none
  consecutiveFailures := 0
  rulesUnloaded := false
  running := true

/-- An agent whose first attach, on any host, has ended well. -/
inductive AgentRuntime.JustAttached : AgentRuntime → Prop
  | intro (env : HostEnv) (interface : String) (sizes : XdpMapSizes) (options : XdpAttachOptions)
      (before host : Host) (m : XdpManager)
      (hpinned : ∀ set, before.pins = some set → set < before.nextSet)
      (hattach : (attach env interface sizes options).run before = .ok m host) :
      JustAttached (AgentRuntime.attached host m)

/-! ## The maps of the program -/

/-- What runs on the interface uses the maps of the manager, or maps without rules. -/
structure RunsOwnMaps (s : AgentRuntime) : Prop where
  set_lt : s.xdp.set < s.host.nextSet
  program : ∀ program set, s.host.program = some program → program.set = some set →
    set = s.xdp.set ∨ set < s.host.nextSet ∧ (s.host.sets set).maps.Unloaded

/-- The maps of the manager hold no rules. -/
def AgentRuntime.MapsUnloaded (s : AgentRuntime) : Prop :=
  (s.host.sets s.xdp.set).maps.Unloaded

end Agent
end XdpFirewall
