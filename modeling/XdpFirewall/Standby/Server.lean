import XdpFirewall.Lib.Transition

/-!
# Server — what a control plane does with its database

A control plane answers HTTP requests and xDS calls, checks its open streams at every tick and has
loops of its own. In standby mode it must leave the database as it is; each of these paths has its
own guard. A path is described by the kinds of statements that it executes.
-/

namespace XdpFirewall
namespace Standby

open Lib

/-- The kinds of statements. `schema` are those that create or alter tables and indexes. -/
inductive Sql
  | select
  | insert
  | update
  | delete
  | schema
  deriving DecidableEq

def Sql.writes : Sql → Bool
  | .select => false
  | _ => true

/-- `next_policy_version_in_transaction` reads the row of the version, then inserts or updates it. -/
def versionStatements : List Sql :=
  [.select, .insert, .update]

/-! ## HTTP -/

/-- An extension method is none of the others. -/
inductive Method
  | get
  | head
  | post
  | put
  | delete
  | patch
  | options
  | connect
  | trace
  | extension (name : String)
  deriving DecidableEq

/-- `is_write_method` -/
def Method.isWrite : Method → Bool
  | .post | .put | .delete | .patch => true
  | _ => false

/-- The resources with the same set of handlers. -/
inductive Resource
  | firewallRules
  | geoCountries
  | threatSources
  | dynamicRateLimits
  | tempBans
  | trustedCidrs
  deriving DecidableEq

inductive Handler
  | frontendIndex
  | frontendAsset
  | health
  | listCountries
  | removedMultiPolicyApi
  | getPolicyVersion
  | bumpPolicyVersion
  | seedExamplePolicy
  | list (resource : Resource)
  | create (resource : Resource)
  | createBatch (resource : Resource)
  | deleteByQuery (resource : Resource)
  | deleteBatch (resource : Resource)
  | deleteById (resource : Resource)
  | updateThreatSource
  | refreshGeoCountries
  | refreshThreatSources
  | lookupGeo
  | getDynamicDefense
  | updateDynamicDefense
  | listNodes
  | getNode
  | maintainNodes
  | streamDropEvents
  deriving DecidableEq

/-- Those of a refresh of country or threat lists. -/
def refreshStatements : List Sql :=
  [.insert, .update, .delete] ++ versionStatements

/-- The statements that a handler executes, with those of the tasks that it spawns: a new or enabled
threat source starts a refresh. -/
def Handler.statements : Handler → List Sql
  | .frontendIndex | .frontendAsset | .health | .removedMultiPolicyApi | .lookupGeo
  | .streamDropEvents => []
  | .listCountries | .getPolicyVersion | .list _ | .getDynamicDefense | .listNodes | .getNode =>
      [.select]
  | .bumpPolicyVersion => versionStatements
  | .create .threatSources | .createBatch .threatSources | .updateThreatSource
  | .refreshGeoCountries | .refreshThreatSources => refreshStatements
  | .create _ | .createBatch _ => .insert :: versionStatements
  | .deleteByQuery _ | .deleteBatch _ | .deleteById _ => .delete :: versionStatements
  | .updateDynamicDefense => [.insert, .update] ++ versionStatements
  | .seedExamplePolicy => [.insert, .delete] ++ versionStatements
  | .maintainNodes => [.delete]

inductive Segment
  | text (text : String)
  | param
  | rest
  deriving DecidableEq

/-- Whether a path, split at its slashes, matches; `rest` stands for one segment or more. -/
def matchesPath : List Segment → List String → Bool
  | [], [] => true
  | [.rest], _ :: _ => true
  | .text text :: pattern, segment :: path => segment == text && matchesPath pattern path
  | .param :: pattern, _ :: path => matchesPath pattern path
  | _, _ => false

/-- The routes of the API are behind the token and the standby check. -/
structure Route where
  pattern : List Segment
  isProtected : Bool
  handler : Method → Option Handler

/-- `get(..)` answers HEAD too. -/
def onGet (handler : Handler) : Method → Option Handler
  | .get | .head => some handler
  | _ => none

def onPost (handler : Handler) : Method → Option Handler
  | .post => some handler
  | _ => none

def onDelete (handler : Handler) : Method → Option Handler
  | .delete => some handler
  | _ => none

def onPut (handler : Handler) : Method → Option Handler
  | .put => some handler
  | _ => none

def orElse (first second : Method → Option Handler) (method : Method) : Option Handler :=
  (first method).or (second method)

def protectedRoute (pattern : List Segment) (handler : Method → Option Handler) : Route where
  pattern := pattern
  isProtected := true
  handler := handler

/-- The routes that most resources have. -/
def resourceRoutes (name : String) (resource : Resource) : List Route :=
  [protectedRoute [.text name] (orElse (onGet (.list resource))
      (orElse (onPost (.create resource)) (onDelete (.deleteByQuery resource)))),
    protectedRoute [.text name, .text "batch"]
      (orElse (onPost (.createBatch resource)) (onDelete (.deleteBatch resource)))]

def policyRoutes : List Route :=
  [protectedRoute [.text "policy", .text "version"] (onGet .getPolicyVersion),
    protectedRoute [.text "policy", .text "bump-version"] (onPost .bumpPolicyVersion),
    protectedRoute [.text "policy", .text "seed-example"] (onPost .seedExamplePolicy),
    protectedRoute [.text "policies"] fun _ => some .removedMultiPolicyApi,
    protectedRoute [.text "policies", .rest] fun _ => some .removedMultiPolicyApi]

def ruleRoutes : List Route :=
  resourceRoutes "rules" .firewallRules ++
    [protectedRoute [.text "rules", .param] (onDelete (.deleteById .firewallRules))]

def geoRoutes : List Route :=
  resourceRoutes "geo-countries" .geoCountries ++
    [protectedRoute [.text "geo-countries", .text "refresh"] (onPost .refreshGeoCountries),
      protectedRoute [.text "geo", .text "lookup"] (onGet .lookupGeo),
      protectedRoute [.text "geo-countries", .param] (onDelete (.deleteById .geoCountries))]

def threatRoutes : List Route :=
  resourceRoutes "threat-sources" .threatSources ++
    [protectedRoute [.text "threat-sources", .text "refresh"] (onPost .refreshThreatSources),
      protectedRoute [.text "threat-sources", .param]
        (orElse (onPut .updateThreatSource) (onDelete (.deleteById .threatSources)))]

def dynamicPolicyRoutes : List Route :=
  protectedRoute [.text "dynamic-defense"]
      (orElse (onGet .getDynamicDefense) (onPut .updateDynamicDefense)) ::
    resourceRoutes "dynamic-rate-limits" .dynamicRateLimits ++
    [protectedRoute [.text "dynamic-rate-limits", .param]
      (onDelete (.deleteById .dynamicRateLimits))]

/-- Temporary bans cannot be deleted by a query. -/
def tempBanRoutes : List Route :=
  [protectedRoute [.text "temp-bans"]
      (orElse (onGet (.list .tempBans)) (onPost (.create .tempBans))),
    protectedRoute [.text "temp-bans", .text "batch"]
      (orElse (onPost (.createBatch .tempBans)) (onDelete (.deleteBatch .tempBans))),
    protectedRoute [.text "temp-bans", .param] (onDelete (.deleteById .tempBans))]

def trustedCidrRoutes : List Route :=
  resourceRoutes "trusted-cidrs" .trustedCidrs ++
    [protectedRoute [.text "trusted-cidrs", .param] (onDelete (.deleteById .trustedCidrs))]

def nodeRoutes : List Route :=
  [protectedRoute [.text "nodes"] (onGet .listNodes),
    protectedRoute [.text "nodes", .text "maintenance"] (onPost .maintainNodes),
    protectedRoute [.text "nodes", .param] (onGet .getNode)]

def publicRoutes : List Route :=
  [{ pattern := [], isProtected := false, handler := onGet .frontendIndex },
    { pattern := [.text "assets", .rest], isProtected := false, handler := onGet .frontendAsset },
    { pattern := [.text "health"], isProtected := false, handler := onGet .health },
    { pattern := [.text "countries"], isProtected := false, handler := onGet .listCountries }]

def apiRoutes : List Route :=
  policyRoutes ++ ruleRoutes ++ geoRoutes ++ threatRoutes ++ dynamicPolicyRoutes ++
    tempBanRoutes ++ trustedCidrRoutes ++ nodeRoutes ++
    [protectedRoute [.text "drop-events", .text "stream"] (onGet .streamDropEvents)]

structure Request where
  method : Method
  path : List String
  /-- No token is configured, or the request has the right one. -/
  authorized : Bool

/-- The handler that runs for a request, if any. Of two patterns that match, the one with the fixed
text comes first in the list. -/
def route (standby : Bool) (request : Request) : Option Handler :=
  match (publicRoutes ++ apiRoutes).find? fun route => matchesPath route.pattern request.path with
  | none => onGet .frontendIndex request.method
  | some route =>
      if route.isProtected && (!request.authorized || standby && request.method.isWrite) then
        none
      else
        route.handler request.method

/-! ## xDS -/

inductive XdsCall
  | fetchPolicy
  | fetchGeoPrefixes
  | streamPolicy
  | reportHeartbeat
  | reportDropEvents
  deriving DecidableEq

/-- A stream that is opened reads at its ticks only. -/
def XdsCall.statements (standby : Bool) : XdsCall → List Sql
  | .fetchPolicy | .fetchGeoPrefixes | .reportDropEvents => [.select]
  | .streamPolicy => []
  | .reportHeartbeat => if standby then [] else [.insert, .update]

structure TempBanCleanup where
  lastSuccess : Option Nat
  running : Bool
  interval : Nat
  standby : Bool

/-- `try_start`, behind the check of the standby mode. -/
def TempBanCleanup.starts (cleanup : TempBanCleanup) (now : Nat) : Bool :=
  !cleanup.standby && !cleanup.running && !cleanup.lastSuccess.any fun last =>
    last ≤ now && now - last < cleanup.interval

def TempBanCleanup.finish (cleanup : TempBanCleanup) (startedAt : Nat) (succeeded : Bool) :
    TempBanCleanup :=
  { cleanup with
    running := false
    lastSuccess := if succeeded then some startedAt else cleanup.lastSuccess }

/-- `cleanup_expired_temp_bans` -/
def cleanupStatements : List Sql :=
  .delete :: versionStatements

/-! ## Loops -/

inductive BackgroundLoop
  | geoRefresh
  | threatRefresh
  | nodeMaintenance
  deriving DecidableEq

def BackgroundLoop.statements : BackgroundLoop → List Sql
  | .geoRefresh | .threatRefresh => refreshStatements
  | .nodeMaintenance => [.delete]

/-- `start_background_tasks`, besides the one rebuild of the threat lookup. -/
def backgroundLoops (standby : Bool) : List BackgroundLoop :=
  if standby then [] else [.geoRefresh, .threatRefresh, .nodeMaintenance]

/-! ## The server -/

/-- `executed` are the statements since the start. -/
structure Server where
  standby : Bool
  servesHttp : Bool
  cleanup : TempBanCleanup
  loops : List BackgroundLoop
  executed : List Sql

/-- `TEMP_BAN_CLEANUP_INTERVAL`, in seconds -/
def tempBanCleanupInterval : Nat := 60

def Server.start (standby servesHttp : Bool) (executed : List Sql) : Server where
  standby := standby
  servesHttp := servesHttp
  cleanup :=
    { lastSuccess := none
      running := false
      interval := tempBanCleanupInterval
      standby := standby }
  loops := backgroundLoops standby
  executed := executed

/-- `ran` are the statements that are executed at the event. A cleanup begins at a tick and ends
later. -/
inductive Event
  | http (request : Request) (ran : List Sql)
  | xds (call : XdsCall) (authorized : Bool) (ran : List Sql)
  | streamTick (now : Nat) (ran : List Sql)
  | cleanupEnds (startedAt : Nat) (succeeded : Bool) (ran : List Sql)
  | rebuildThreatLookup (ran : List Sql)
  | loopStep (loop : BackgroundLoop) (ran : List Sql)

/-- Every statement is of one of these kinds. -/
def among (kinds ran : List Sql) : Bool :=
  ran.all kinds.contains

def Server.execute (s : Server) (kinds ran : List Sql) : Option Server :=
  if among kinds ran then some { s with executed := s.executed ++ ran } else none

def step (s : Server) : Event → Option Server
  | .http request ran =>
      if s.servesHttp then
        s.execute ((route s.standby request).elim [] Handler.statements) ran
      else
        none
  | .xds call authorized ran =>
      s.execute (if authorized then call.statements s.standby else []) ran
  | .streamTick now ran =>
      if s.cleanup.starts now then
        ({ s with cleanup := { s.cleanup with running := true } } : Server).execute [.select] ran
      else
        s.execute [.select] ran
  | .cleanupEnds startedAt succeeded ran =>
      if s.cleanup.running then
        ({ s with cleanup := s.cleanup.finish startedAt succeeded } : Server).execute
          cleanupStatements ran
      else
        none
  | .rebuildThreatLookup ran => s.execute [.select] ran
  | .loopStep loop ran => if loop ∈ s.loops then s.execute loop.statements ran else none

end Standby
end XdpFirewall
