import Mathlib.Logic.Function.Basic
import XdpFirewall.DataPlane.GuardedApply
import XdpFirewall.Lib.Outcome

/-!
# Host — the program on an interface and its maps

Loading the object makes a set of maps, or takes over the set that is pinned under the directory
of the interface. A program that runs on the interface keeps using the set it was loaded with,
whatever happens to the pins. Each system call and each command of an attach can fail.
-/

namespace XdpFirewall
namespace Agent

open DataPlane Lib

/-! ## Options -/

inductive XdpAttachMode
  | auto
  | driver
  | skb
  deriving DecidableEq

def XdpAttachMode.asStr : XdpAttachMode → String
  | .auto => "auto"
  | .driver => "driver"
  | .skb => "skb"

inductive XdpAttachStrategy
  | direct
  | dispatcher
  deriving DecidableEq

structure XdpAttachOptions where
  mode : XdpAttachMode
  strategy : XdpAttachStrategy
  allowReplace : Bool
  autoResizeMaps : Bool
  deriving DecidableEq

/-! ## The host -/

/-- The maps of one load. -/
structure MapSet where
  maps : PolicyMaps
  sizes : XdpMapSizes
  dropConfig : U8
  tempBansIsLpmTrie : Bool

/-- A program on the interface. The set is absent for a program of someone else. -/
structure Program where
  id : Nat
  set : Option Nat
  dispatcher : Bool
  deriving DecidableEq

/-- The sets of maps by number, the set that is pinned, and the program on the interface. Other
programs in the chain of a dispatcher are left out. -/
structure Host where
  sets : Nat → MapSet
  nextSet : Nat
  pins : Option Nat
  program : Option Program
  nextProgram : Nat

/-- The maps of a load that finds no pins: empty, and arrays of zeros. -/
def MapSet.fresh (sizes : XdpMapSizes) : MapSet where
  maps := PolicyMaps.fresh (defenseValue Policy.XdpDynamicDefense.default)
  sizes := sizes
  dropConfig := 0
  tempBansIsLpmTrie := true

/-! ## What can fail -/

/-- Where programs are unloaded from a dispatcher. -/
inductive UnloadSite
  | incompatible
  | attach
  | resize
  | rollback
  deriving DecidableEq

/-- The calls and commands, by the place that makes them. -/
inductive HostCall
  | objectPath
  | pinDir
  | createPinDir
  | inspectPinnedType
  | inspectIncompatible
  | recreatePinDir
  | loadObject
  | inspectInterface
  | loadProgram
  | inspectProgram (mode : XdpAttachMode)
  | attach (mode : XdpAttachMode)
  | replace (mode : XdpAttachMode)
  | loaderStatus (site : UnloadSite)
  | loaderUnload (site : UnloadSite)
  | loaderLoad (mode : XdpAttachMode)
  | verifyMaps
  | takeMaps
  | mapInfo
  | localInterfaceCidrs
  | resetDropConfig
  | detach
  | removePins
  | rollbackPins
  | setDropConfig
  | dropEventsPath
  deriving DecidableEq

/-- What the host answers: the text of a failure for every call, what `ip -details` prints for
the program on the interface, which program id `ip -j` shows in a mode, the addresses of the
interface, the clocks, and how many map operations are granted. -/
structure HostEnv where
  fails : HostCall → Option String
  ipLinkShow : Option Program → List Char
  programId : Option Program → XdpAttachMode → Option Nat
  localInterfaceCidrs : List LocalInterfaceCidr
  wallNow : Int
  clockGettime : Option (Int × Int)
  granted : Option Nat

abbrev OnHost := EStateM String Host

def ask (env : HostEnv) (call : HostCall) : OnHost Unit :=
  match env.fails call with
  | none => pure ()
  | some reason => throw reason

def withContext {A : Type} (text : String) (x : OnHost A) : OnHost A := fun host =>
  match x.run host with
  | .ok a host => .ok a host
  | .error reason host => .error (text ++ ": " ++ reason) host

/-! ## Programs that are there -/

def contains (text pattern : List Char) : Bool :=
  decide (pattern <:+: text)

def hasXdp (text : List Char) : Bool :=
  contains text [' ', 'x', 'd', 'p', ' '] ||
    contains text [' ', 'x', 'd', 'p', 'g', 'e', 'n', 'e', 'r', 'i', 'c', ' '] ||
    contains text [' ', 'x', 'd', 'p', 'd', 'r', 'v', ' '] ||
    contains text [' ', 'x', 'd', 'p', 'o', 'f', 'f', 'l', 'o', 'a', 'd', ' '] ||
    contains text ['p', 'r', 'o', 'g', '/', 'x', 'd', 'p']

def trimBlanks (text : List Char) : List Char :=
  ((text.dropWhile Char.isWhitespace).reverse.dropWhile Char.isWhitespace).reverse

def summaryLine (line : List Char) : Bool :=
  contains line ['x', 'd', 'p'] || contains line ['p', 'r', 'o', 'g', '/', 'x', 'd', 'p'] ||
    contains line ['i', 'd', ' '] || contains line ['t', 'a', 'g', ' ']

def existingXdpSummary (text : List Char) : Option String :=
  let text := trimBlanks text
  if hasXdp text then
    match ((text.splitOn '\n').map trimBlanks).find? summaryLine with
    | some line => some (String.ofList line)
    | none => some "xdp program present"
  else
    none

def ensureNoExistingXdp (env : HostEnv) (call : HostCall) (interface : String) :
    OnHost Unit := do
  ask env call
  let host ← get
  match existingXdpSummary (env.ipLinkShow host.program) with
  | some existing =>
      throw ("interface '" ++ interface ++ "' already has an XDP program attached (" ++ existing ++
        "); refusing to replace it in direct mode. Use --xdp-allow-replace to replace " ++
        "intentionally, or use --xdp-attach-strategy dispatcher to join the libxdp " ++
        "multiprogram chain")
  | none => pure ()

/-! ## Links -/

/-- The link that `aya` keeps in the loaded object, or the one of a replacement over netlink. -/
structure Links where
  ebpfLink : Option Nat
  directNetlinkLink : Option Nat

/-- Dropping a link takes its own program off the interface. A failure is only logged. -/
def dropLink (env : HostEnv) (link : Option Nat) (host : Host) : Host :=
  match link, host.program, env.fails .detach with
  | some id, some program, none =>
      if program.id = id ∧ program.dispatcher = false then
        { host with program := none }
      else
        host
  | _, _, _ => host

def Links.drop (env : HostEnv) (links : Links) (host : Host) : Host :=
  dropLink env links.ebpfLink (dropLink env links.directNetlinkLink host)

/-- Put a program with this set on the interface. -/
def Host.run (set : Option Nat) (dispatcher : Bool) (host : Host) : Host :=
  { host with
    program := some { id := host.nextProgram, set := set, dispatcher := dispatcher }
    nextProgram := host.nextProgram + 1 }

/-! ## The direct strategy -/

/-- `program.attach`, which needs an interface without a program. -/
def attachFree (set : Nat) : OnHost Links := fun host =>
  match host.program with
  | some _ => .error "device or resource busy" host
  | none =>
      .ok { ebpfLink := some host.nextProgram, directNetlinkLink := none }
        (host.run (some set) false)

/-- The link of `direct_replace_program`. -/
def attachReplacing (set : Nat) : OnHost Links := fun host =>
  .ok { ebpfLink := none, directNetlinkLink := some host.nextProgram } (host.run (some set) false)

def attachProgramMode (env : HostEnv) (interface : String) (mode : XdpAttachMode)
    (allowReplace : Bool) (set : Nat) : OnHost Links := do
  ask env (.inspectProgram mode)
  let host ← get
  match env.programId host.program mode with
  | none => do
      ask env (.attach mode)
      attachFree set
  | some existingId =>
      if allowReplace then do
        ask env (.replace mode)
        attachReplacing set
      else
        throw ("interface '" ++ interface ++ "' already has an XDP program id " ++
          toString existingId ++ " in " ++ mode.asStr ++ " mode")

/-- Driver mode first, and skb mode when that fails. -/
def attachProgramAuto (env : HostEnv) (interface : String) (allowReplace : Bool) (set : Nat) :
    OnHost Links := fun host =>
  match (attachProgramMode env interface .driver allowReplace set).run host with
  | .ok links host => .ok links host
  | .error driverErr host =>
      (withContext ("driver XDP attach failed (" ++ driverErr ++ "); skb attach failed")
        (attachProgramMode env interface .skb allowReplace set)).run host

def attachProgram (env : HostEnv) (interface : String) (mode : XdpAttachMode)
    (allowReplace : Bool) (set : Nat) : OnHost Links :=
  match mode with
  | .auto => attachProgramAuto env interface allowReplace set
  | .driver =>
      withContext "failed to attach XDP program in driver mode"
        (attachProgramMode env interface .driver allowReplace set)
  | .skb =>
      withContext "failed to attach XDP program in skb mode"
        (attachProgramMode env interface .skb allowReplace set)

/-- The check that is left out when replacing is allowed. -/
def ensureReplaceable (env : HostEnv) (call : HostCall) (interface : String)
    (options : XdpAttachOptions) : OnHost Unit :=
  if options.allowReplace then
    pure ()
  else
    ensureNoExistingXdp env call interface

def attachDirectProgram (env : HostEnv) (interface : String) (options : XdpAttachOptions)
    (set : Nat) : OnHost Links := do
  ensureReplaceable env .inspectInterface interface options
  withContext "failed to load XDP program" (ask env .loadProgram)
  attachProgram env interface options.mode options.allowReplace set

/-! ## The dispatcher -/

/-- Our program is found by its name and taken out of the dispatcher. -/
def unloadDispatcherProgramsByName (env : HostEnv) (site : UnloadSite) : OnHost Unit := do
  ask env (.loaderStatus site)
  let host ← get
  match host.program with
  | some program =>
      if program.dispatcher ∧ program.set.isSome then do
        ask env (.loaderUnload site)
        modify fun host => { host with program := none }
      else
        pure ()
  | none => pure ()

def loadMode (env : HostEnv) (mode : XdpAttachMode) : OnHost Unit := do
  ask env (.loaderLoad mode)
  modify fun host => host.run host.pins true

def runXdpLoaderLoad (env : HostEnv) (mode : XdpAttachMode) : OnHost Unit :=
  match mode with
  | .auto => fun host =>
      match (loadMode env .driver).run host with
      | .ok _ host => .ok () host
      | .error driverErr host =>
          (withContext ("dispatcher native XDP attach failed (" ++ driverErr ++
            "); skb attach failed") (loadMode env .skb)).run host
  | mode => loadMode env mode

def attachDispatcherProgram (env : HostEnv) (options : XdpAttachOptions) : OnHost Unit := do
  unloadDispatcherProgramsByName env .attach
  runXdpLoaderLoad env options.mode
  -- `verify_dispatcher_map_identity`
  ask env .verifyMaps

def attachLoadedProgram (env : HostEnv) (interface : String) (options : XdpAttachOptions)
    (set : Nat) : OnHost Links :=
  match options.strategy with
  | .direct => attachDirectProgram env interface options set
  | .dispatcher => do
      attachDispatcherProgram env options
      return { ebpfLink := none, directNetlinkLink := none }

/-! ## Pinned maps -/

/-- What has to be off the interface before its maps are removed. -/
def clearIncompatible (env : HostEnv) (interface : String) (options : XdpAttachOptions) :
    OnHost Unit :=
  match options.strategy with
  | .direct => ensureReplaceable env .inspectIncompatible interface options
  | .dispatcher => unloadDispatcherProgramsByName env .incompatible

def recreateIncompatiblePinnedMaps (env : HostEnv) (interface : String)
    (options : XdpAttachOptions) : OnHost Unit := do
  let host ← get
  match host.pins with
  | none => pure ()
  | some set => do
      ask env .inspectPinnedType
      if (host.sets set).tempBansIsLpmTrie then
        pure ()
      else do
        clearIncompatible env interface options
        ask env .recreatePinDir
        modify fun host => { host with pins := none }

/-- The host with a new set of maps, which is pinned. -/
def Host.withNewSet (sizes : XdpMapSizes) (host : Host) : Host :=
  { host with
    sets := Function.update host.sets host.nextSet (MapSet.fresh sizes)
    nextSet := host.nextSet + 1
    pins := some host.nextSet }

/-- The maps that are pinned, or new ones that are pinned then. -/
def openMaps (sizes : XdpMapSizes) : OnHost Nat := fun host =>
  match host.pins with
  | some set => .ok set host
  | none => .ok host.nextSet (host.withNewSet sizes)

/-- `load_object_with_pinned_maps` -/
def loadObject (env : HostEnv) (sizes : XdpMapSizes) : OnHost Nat := do
  ask env .loadObject
  openMaps sizes

def writeDropConfig (set : Nat) (enabled : Bool) (host : Host) : Host :=
  { host with
    sets := Function.update host.sets set
      { host.sets set with dropConfig := boolCode enabled } }

/-- `set_drop_config` on the maps of a set. -/
def setDropConfig (env : HostEnv) (call : HostCall) (set : Nat) (enabled : Bool) :
    OnHost Unit := do
  ask env call
  modify (writeDropConfig set enabled)

/-! ## Attach -/

/-- What an agent holds of an attached program. The maps are reached through the number of their
set. -/
structure XdpManager where
  interface : String
  options : XdpAttachOptions
  set : Nat
  mapSizes : XdpMapSizes
  localInterfaceCidrs : List LocalInterfaceCidr
  links : Links

/-- The part of an attach that loads the object and the program. -/
def loadAndAttach (env : HostEnv) (interface : String) (sizes : XdpMapSizes)
    (options : XdpAttachOptions) : OnHost (Nat × Links) := do
  ask env .createPinDir
  recreateIncompatiblePinnedMaps env interface options
  let set ← loadObject env sizes
  let links ← attachLoadedProgram env interface options set
  return (set, links)

/-- The part that takes the maps, with `actual_map_sizes` and `build_attached_manager`. -/
def buildAttachedManager (env : HostEnv) (interface : String) (sizes : XdpMapSizes)
    (options : XdpAttachOptions) (set : Nat) (links : Links) : OnHost XdpManager := do
  ask env .takeMaps
  ask env .mapInfo
  let host ← get
  ask env .localInterfaceCidrs
  setDropConfig env .resetDropConfig set false
  return {
    interface := interface
    options := options
    set := set
    mapSizes := { (host.sets set).sizes with rateEntries := sizes.rateEntries }
    localInterfaceCidrs := env.localInterfaceCidrs
    links := links }

/-- The state in which a computation ends. -/
def finalState {ε σ A : Type} : EStateM.Result ε σ A → σ
  | .ok _ s => s
  | .error _ s => s

/-- Failures of the rollback are only logged. -/
def rollbackFailedAttach (env : HostEnv) (pinDirExisted dispatcherLoaded : Bool) (host : Host) :
    Host :=
  let host :=
    if dispatcherLoaded then
      finalState ((unloadDispatcherProgramsByName env .rollback).run host)
    else
      host
  if !pinDirExisted ∧ env.fails .rollbackPins = none then
    { host with pins := none }
  else
    host

/-- The attach proper, which is rolled back when it fails. -/
def attachOrRollBack (env : HostEnv) (interface : String) (sizes : XdpMapSizes)
    (options : XdpAttachOptions) : OnHost XdpManager := fun host =>
  let pinDirExisted := host.pins.isSome
  match (loadAndAttach env interface sizes options).run host with
  | .error reason host => .error reason (rollbackFailedAttach env pinDirExisted false host)
  | .ok (set, links) host =>
      match (buildAttachedManager env interface sizes options set links).run host with
      | .ok manager host => .ok manager host
      | .error reason host =>
          .error reason (rollbackFailedAttach env pinDirExisted
            (options.strategy = .dispatcher) (links.drop env host))

/-- `LinuxXdpManager::attach` -/
def attach (env : HostEnv) (interface : String) (sizes : XdpMapSizes)
    (options : XdpAttachOptions) : OnHost XdpManager := do
  ask env .objectPath
  ask env .pinDir
  attachOrRollBack env interface sizes options

/-! ## Apply -/

/-- What writing a policy reads of the manager. -/
def XdpManager.view (m : XdpManager) (host : Host) : LinuxXdpManager where
  maps := (host.sets m.set).maps
  mapSizes := m.mapSizes
  localInterfaceCidrs := m.localInterfaceCidrs
  autoResizeMaps := m.options.autoResizeMaps

/-- Put the maps of a set back. -/
def Host.withMaps (set : Nat) (maps : PolicyMaps) (host : Host) : Host :=
  { host with sets := Function.update host.sets set { host.sets set with maps := maps } }

def detachForResize (env : HostEnv) (s : Host × XdpManager) :
    EStateM.Result String (Host × XdpManager) Unit :=
  match s.2.options.strategy with
  | .direct =>
      -- Only the link of a replacement is dropped.
      .ok () (dropLink env s.2.links.directNetlinkLink s.1,
        { s.2 with links := { s.2.links with directNetlinkLink := none } })
  | .dispatcher =>
      match (unloadDispatcherProgramsByName env .resize).run s.1 with
      | .ok _ host => .ok () (host, s.2)
      | .error reason host => .error reason (host, s.2)

/-- `remove_map_pin_dir` -/
def removeMapPinDir (env : HostEnv) : OnHost Unit := do
  ask env .removePins
  modify fun host => { host with pins := none }

/-- `resize_maps`: the new manager takes the place of the old one, whose links are dropped. -/
def resizeMaps (env : HostEnv) (resized : XdpMapSizes) : EStateM String (Host × XdpManager) Unit :=
  fun s =>
    match detachForResize env s with
    | .error reason s => .error reason s
    | .ok _ s =>
        match (do
            removeMapPinDir env
            attach env s.2.interface resized s.2.options : OnHost XdpManager).run s.1 with
        | .error reason host => .error reason (host, s.2)
        | .ok replacement host => .ok () (s.2.links.drop env host, replacement)

def HostEnv.applyEnv (env : HostEnv) : ApplyEnv where
  wallNow := env.wallNow
  clockGettime := env.clockGettime
  attach _ _ := .error ""

abbrev OnManager := EStateM (Fault ApplyError) (Host × XdpManager)

/-- `apply_to_current_maps` on the maps of the manager. -/
def applyToMaps (env : HostEnv) (policy : Policy.CompiledPolicy) : OnManager Unit := fun s =>
  match (guardedApplyToCurrentMaps env.applyEnv policy).run (s.2.view s.1, env.granted) with
  | .ok _ (view, _) => .ok () (s.1.withMaps s.2.set view.maps, s.2)
  | .error e (view, _) => .error e (s.1.withMaps s.2.set view.maps, s.2)

/-- The sizes an apply resizes the maps to. -/
def resizeOf (m : LinuxXdpManager) (policy : Policy.CompiledPolicy) :
    Except ApplyError (Option XdpMapSizes) := do
  let required ← requiredPolicyMapSizes m policy
  match ← resizedMapSizes m.mapSizes required with
  | some resized => do
      if !m.autoResizeMaps then
        validateMapCapacity required m.mapSizes
      return some resized
  | none => return none

/-- `LinuxXdpManager::apply` -/
def apply (env : HostEnv) (policy : Policy.CompiledPolicy) : OnManager Unit := fun s =>
  match resizeOf (s.2.view s.1) policy with
  | .error e => .error (.error e) s
  | .ok none => (applyToMaps env policy).run s
  | .ok (some resized) =>
      match (resizeMaps env resized).run s with
      | .error reason s => .error (.error (.attach reason)) s
      | .ok _ s => (applyToMaps env policy).run s

end Agent
end XdpFirewall
