import XdpFirewall.Api.Transaction

/-!
# Resources — the requests that change a policy

One section for each resource of the API, with what its requests carry and their handlers. Most
handlers differ in the table, in the row that they make of a request, and in their errors.
-/

namespace XdpFirewall
namespace Api

open Net Policy ControlPlane

/-- A row that is looked up by its key. One that is there already has to be the same. -/
def createKeyed {Row : Type} (env : ApiEnv) (table : RowTable Row) (key matchesExisting : Row → Bool)
    (conflict : String) (refused : ApiError) (row : Int32 → Row) :
    Transaction (RowCreate Row) := do
  match (← table.select key).head? with
  | none => return table.created (← table.insert env refused row)
  | some existing =>
      if matchesExisting existing then
        return unchanged existing
      else
        throw (.conflict conflict)

/-- A row that is looked up by all of its fields. -/
def createMatching {Row : Type} (env : ApiEnv) (table : RowTable Row) (fields : Row → Bool)
    (several : String) (row : Int32 → Row) : Transaction (RowCreate Row) := do
  match ← table.select fields with
  | [] => return table.created (← table.insert env (.internal "UNIQUE constraint failed") row)
  | [existing] => return unchanged existing
  | _ :: _ :: _ => throw (.conflict several)

/-- Nothing goes with the deleted rows. -/
def noCascade {Row : Type} (_ : List Row) : Transaction Unit :=
  pure ()

/-! ## Firewall rules -/

namespace FirewallRules

structure CreateRuleRequest where
  ruleKey : Option String
  enabled : Option Bool
  priority : Int32
  action : String
  cidr : String
  protocol : Option String
  port : Option Int32
  comment : Option String

structure RuleInput where
  ruleKey : String
  enabled : Bool
  priority : Int32
  action : String
  cidr : String
  protocol : Option String
  port : Option Int32
  comment : Option String

def ruleInput (env : ApiEnv) (request : CreateRuleRequest) : Except String RuleInput := do
  let ruleKey ← normalizeRuleKey request.ruleKey
  let cidr ← normalizeCidr env request.cidr
  let protocol ← request.protocol.mapM normalizeProtocol
  let port ← validatePort protocol request.port
  let action ← normalizeAction request.action
  return {
    ruleKey := ruleKey.getD (generatedRuleKey env request.priority action cidr protocol port)
    enabled := request.enabled.getD true
    priority := request.priority
    action := action
    cidr := cidr
    protocol := protocol
    port := port
    comment := request.comment }

/-- `RuleInput::active_model` -/
def RuleInput.row (input : RuleInput) (id : Int32) : FirewallRuleRow where
  id := id
  policyName := defaultPolicyName
  ruleKey := input.ruleKey
  enabled := input.enabled
  priority := input.priority
  action := input.action
  cidr := input.cidr
  protocol := input.protocol
  port := input.port
  comment := input.comment

def RuleInput.matchesExisting (input : RuleInput) (row : FirewallRuleRow) : Bool :=
  row.enabled = input.enabled && row.priority = input.priority && row.action = input.action &&
    row.cidr = input.cidr && row.protocol = input.protocol && row.port = input.port &&
    row.comment = input.comment

def createRule (env : ApiEnv) (input : RuleInput) : Transaction (RowCreate FirewallRuleRow) :=
  createKeyed env firewallRuleTable (fun row => row.ruleKey = input.ruleKey) input.matchesExisting
    "firewall rule_key already exists" (.conflict "firewall rule_key already exists") input.row

/-- A rule that denies, and its network. -/
def denyRuleCidr (env : ApiEnv) (request : CreateRuleRequest) : Except String (Option IpNet) := do
  if (← normalizeAction request.action) = "deny" then
    return some (← parseNormalizedCidr env request.cidr)
  else
    return none

def rejectDenyRuleNodeIp (env : ApiEnv) (request : CreateRuleRequest) : ApiResult Unit := do
  match ← fromAnyhow (denyRuleCidr env request) with
  | some cidr => rejectNodeIpBlock env cidr "deny rule"
  | none => return ()

def create (env : ApiEnv) (db : PolicyDb) (request : CreateRuleRequest) :
    Outcome (RowCreate FirewallRuleRow) :=
  Api.create env db
    (do
      rejectDenyRuleNodeIp env request
      fromAnyhow (ruleInput env request))
    (createRule env)

def createBatch (env : ApiEnv) (db : PolicyDb) (items : List CreateRuleRequest) :
    Outcome (CreateRows FirewallRuleRow) :=
  Api.createBatch env db
    (do
      validateBatchLen items.length
      items.forM (rejectDenyRuleNodeIp env)
      items.mapM fun request => fromAnyhow (ruleInput env request))
    (createRule env)

def deleteById (env : ApiEnv) (db : PolicyDb) (id : Int32) : Outcome Nat :=
  Api.deleteById env db firewallRuleTable "rule not found" noCascade id

structure RuleBatchDeleteRequest where
  ids : List Int32
  ruleKeys : List String

/-- `normalized_rule_keys`: the keys that are not blank, with their number before repeated ones
are dropped. -/
def normalizedRuleKeys (ruleKeys : List String) : Except String (List String × Nat) := do
  let keys := (← ruleKeys.mapM fun ruleKey => normalizeRuleKey (some ruleKey)).reduceOption
  return (keys.eraseDups, keys.length)

def validateBatchDeleteRequest (request : RuleBatchDeleteRequest) :
    ApiResult (List Int32 × List String) := do
  let ids ← uniqueIds request.ids
  let (ruleKeys, keyEntries) ← fromAnyhow (normalizedRuleKeys request.ruleKeys)
  let entries := request.ids.length + keyEntries
  if entries = 0 then
    throw (.badRequest "ids or rule_keys must not be empty")
  else if !ids.isEmpty && !ruleKeys.isEmpty then
    throw (.badRequest "ids and rule_keys cannot be used together")
  else if maxBatchSize < entries then
    throw (.badRequest
      ("ids and rule_keys must contain at most " ++ maxBatchSize.repr ++ " entries"))
  else
    return (ids, ruleKeys)

def deleteBatch (env : ApiEnv) (db : PolicyDb) (request : RuleBatchDeleteRequest) : Outcome Nat :=
  respond env db do
    let (ids, ruleKeys) ← liftResult (validateBatchDeleteRequest request)
    let targets ← firewallRuleTable.select fun row => row.id ∈ ids || row.ruleKey ∈ ruleKeys
    let targetIds := targets.map FirewallRuleRow.id
    liftResult (if targetIds.isEmpty then .error (.notFound "rule not found") else .ok ())
    let deleted ← firewallRuleTable.delete fun row => row.id ∈ targetIds
    liftResult (ensureAllIdsDeleted deleted targetIds.length "rule not found")
    return (← bumpPolicyVersionIfActive (targets.any FirewallRuleRow.enabled), deleted)

structure RuleMatchQuery where
  ruleKey : Option String
  action : Option String
  cidr : Option String
  protocol : Option String
  port : Option Int32
  priority : Option Int32

/-- A field that is needed when there is no key. -/
def required {A : Type} (name : String) : Option A → ApiResult A
  | some a => .ok a
  | none => .error (.badRequest ("rule_key or " ++ name ++ " is required"))

/-- A rule without a protocol is one for any protocol. -/
def protocolFilter (protocol : String) (row : FirewallRuleRow) : Bool :=
  if protocol = "any" then
    row.protocol = some "any" || row.protocol = none
  else
    row.protocol = some protocol

def RuleMatchQuery.selector (env : ApiEnv) (query : RuleMatchQuery) :
    ApiResult (FirewallRuleRow → Bool) := do
  match ← fromAnyhow (normalizeRuleKey query.ruleKey) with
  | some ruleKey => return fun row => row.ruleKey = ruleKey
  | none =>
      let priority ← required "priority" query.priority
      let action ← fromAnyhow (normalizeAction (← required "action" query.action))
      let cidr ← fromAnyhow (normalizeCidr env (← required "cidr" query.cidr))
      let protocol ← fromAnyhow (normalizeProtocol (← required "protocol" query.protocol))
      let portValue ← required "port" query.port
      let port ← required "port"
        (← fromAnyhow (validatePort (some protocol) (some portValue)))
      return fun row =>
        row.priority = priority && row.action = action && row.cidr = cidr &&
          protocolFilter protocol row && row.port = some port

def deleteByQuery (env : ApiEnv) (db : PolicyDb) (query : RuleMatchQuery) : Outcome Nat :=
  respond env db do
    let selector ← liftResult (query.selector env)
    let targets ← firewallRuleTable.select selector
    liftResult (if targets.isEmpty then .error (.notFound "rule not found") else .ok ())
    let targetIds := targets.map FirewallRuleRow.id
    let deleted ← firewallRuleTable.deleteMany fun row => row.id ∈ targetIds
    liftResult (if deleted = 0 then .error (.notFound "rule not found") else .ok ())
    return (← bumpPolicyVersionIfActive (targets.any FirewallRuleRow.enabled), deleted)

end FirewallRules

/-! ## Country rules -/

namespace GeoCountries

structure CreateGeoCountryRequest where
  enabled : Option Bool
  country : String
  action : String

structure GeoCountryInput where
  enabled : Bool
  country : String
  action : String

def geoCountryInput (request : CreateGeoCountryRequest) : Except String GeoCountryInput := do
  let country ← normalizedCountry request.country
  let action ← normalizeAction request.action
  return {
    enabled := request.enabled.getD true
    country := country
    action := action }

/-- `geo_country_active_model` -/
def GeoCountryInput.row (input : GeoCountryInput) (id : Int32) : GeoCountryRow where
  id := id
  policyName := defaultPolicyName
  enabled := input.enabled
  country := input.country
  action := input.action

def createGeoCountry (env : ApiEnv) (input : GeoCountryInput) :
    Transaction (RowCreate GeoCountryRow) :=
  createMatching env geoCountryTable
    (fun row => row.enabled = input.enabled && row.country = input.country &&
      row.action = input.action)
    "multiple geo country policies match; delete by id" input.row

def create (env : ApiEnv) (db : PolicyDb) (request : CreateGeoCountryRequest) :
    Outcome (RowCreate GeoCountryRow) :=
  Api.create env db (fromAnyhow (geoCountryInput request)) (createGeoCountry env)

def createBatch (env : ApiEnv) (db : PolicyDb) (items : List CreateGeoCountryRequest) :
    Outcome (CreateRows GeoCountryRow) :=
  Api.createBatch env db
    (do
      validateBatchLen items.length
      items.mapM fun request => fromAnyhow (geoCountryInput request))
    (createGeoCountry env)

def deleteById (env : ApiEnv) (db : PolicyDb) (id : Int32) : Outcome Nat :=
  Api.deleteById env db geoCountryTable "geo country policy not found" noCascade id

def deleteBatch (env : ApiEnv) (db : PolicyDb) (ids : List Int32) : Outcome Nat :=
  Api.deleteBatch env db geoCountryTable "geo country policy not found" noCascade ids

structure GeoCountryMatchQuery where
  country : String
  action : String
  enabled : Bool

/-- `GeoCountryDeleteTarget` -/
def GeoCountryMatchQuery.selector (query : GeoCountryMatchQuery) :
    Except String (GeoCountryRow → Bool) := do
  let country ← normalizedCountry query.country
  let action ← normalizeAction query.action
  return fun row => row.country = country && row.action = action && row.enabled = query.enabled

def deleteByQuery (env : ApiEnv) (db : PolicyDb) (query : GeoCountryMatchQuery) : Outcome Nat :=
  deleteOnly env db geoCountryTable "geo country policy not found"
    "multiple geo country policies match; delete by id" (fromAnyhow query.selector)

end GeoCountries

/-! ## Threat sources -/

namespace ThreatSources

structure CreateThreatSourceRequest where
  enabled : Option Bool
  name : String
  url : String
  format : String
  minScore : Option Int32

structure ThreatSourceInput where
  enabled : Bool
  name : String
  url : String
  format : String
  minScore : Option Int32

def threatSourceInput (env : ApiEnv) (request : CreateThreatSourceRequest) :
    Except String ThreatSourceInput := do
  let format ← normalizeThreatFormat request.format
  validateSourceUrl env request.url
  validateOptionalNonNegative "min_score" request.minScore
  return {
    enabled := request.enabled.getD true
    name := request.name
    url := request.url
    format := format
    minScore := request.minScore }

/-- `ThreatSourceInput::active_model` -/
def ThreatSourceInput.row (input : ThreatSourceInput) (id : Int32) : ThreatSourceRow where
  id := id
  policyName := defaultPolicyName
  enabled := input.enabled
  name := input.name
  url := input.url
  format := input.format
  minScore := input.minScore

def ThreatSourceInput.matchesExisting (input : ThreatSourceInput) (row : ThreatSourceRow) : Bool :=
  row.enabled = input.enabled && row.url = input.url && row.format = input.format &&
    row.minScore = input.minScore

def createThreatSource (env : ApiEnv) (input : ThreatSourceInput) :
    Transaction (RowCreate ThreatSourceRow) :=
  createKeyed env threatSourceTable (fun row => row.name = input.name) input.matchesExisting
    "threat source name already exists" (.internal "UNIQUE constraint failed") input.row

def create (env : ApiEnv) (db : PolicyDb) (request : CreateThreatSourceRequest) :
    Outcome (RowCreate ThreatSourceRow) :=
  Api.create env db (fromAnyhow (threatSourceInput env request)) (createThreatSource env)

def createBatch (env : ApiEnv) (db : PolicyDb) (items : List CreateThreatSourceRequest) :
    Outcome (CreateRows ThreatSourceRow) :=
  Api.createBatch env db
    (do
      validateBatchLen items.length
      items.mapM fun request => fromAnyhow (threatSourceInput env request))
    (createThreatSource env)

/-- `delete_threat_source_states_by_name`, with the persisted prefixes. -/
def deleteStatesByName (names : List String) : Transaction Unit :=
  modify fun s =>
    { s with
      db :=
        { s.db with
          threatSourceStates := s.db.threatSourceStates.filter fun row =>
            ¬ (row.policyName = defaultPolicyName ∧ row.sourceName ∈ names)
          threatPrefixes := s.db.threatPrefixes.filter fun row =>
            ¬ (row.policyName = defaultPolicyName ∧ row.sourceName ∈ names) } }

def deleteStates (sources : List ThreatSourceRow) : Transaction Unit :=
  deleteStatesByName (sources.map ThreatSourceRow.name)

def update (env : ApiEnv) (db : PolicyDb) (id : Int32) (enabled : Bool) :
    Outcome ThreatSourceRow :=
  respond env db do
    match (← threatSourceTable.select fun row => row.id = id).head? with
    | none => throw (.notFound "threat source not found")
    | some row =>
        if row.enabled = enabled then
          return (none, row)
        else
          let new := { row with enabled := enabled }
          threatSourceTable.update row new
          if enabled then pure () else deleteStatesByName [row.name]
          return (some (← nextPolicyVersionInTransaction), new)

def deleteById (env : ApiEnv) (db : PolicyDb) (id : Int32) : Outcome Nat :=
  Api.deleteById env db threatSourceTable "threat source not found" deleteStates id

def deleteBatch (env : ApiEnv) (db : PolicyDb) (ids : List Int32) : Outcome Nat :=
  Api.deleteBatch env db threatSourceTable "threat source not found" deleteStates ids

def deleteByQuery (env : ApiEnv) (db : PolicyDb) (name : String) : Outcome Nat :=
  respond env db do
    let name := String.ofList (trim name.toList)
    liftResult (if name.isEmpty then .error (.badRequest "name must not be empty") else .ok ())
    match (← threatSourceTable.select fun row => row.name = name).head? with
    | none => throw (.notFound "threat source not found")
    | some row =>
        let deleted ← threatSourceTable.delete fun row => row.name = name
        liftResult (if deleted = 0 then .error (.notFound "threat source not found") else .ok ())
        deleteStatesByName [name]
        return (← bumpPolicyVersionIfActive row.enabled, deleted)

end ThreatSources

/-! ## Dynamic defense -/

namespace DynamicDefense

structure UpdateDynamicDefenseRequest where
  enabled : Option Bool
  ipRateLimitEnabled : Option Bool
  ipPacketsPerSecond : Option Int32
  ipBurst : Option Int32
  floodEnabled : Option Bool
  floodPacketsPerSecond : Option Int32
  floodBurst : Option Int32
  floodBlockSeconds : Option Int32

/-- `optional_i32_to_u32` of the request's fields -/
def requestU32 (label : String) : Option Int32 → Except String (Option U32)
  | none => .ok none
  | some value =>
      if 0 ≤ value.toInt then
        .ok (some (BitVec.ofInt 32 value.toInt))
      else
        .error (label ++ " must not be negative")

def dynamicDefensePolicyFromRequest (request : UpdateDynamicDefenseRequest) :
    Except String DynamicDefensePolicy := do
  let defaults := DynamicDefensePolicy.default
  return {
    enabled := request.enabled.getD defaults.enabled
    ipRateLimitEnabled := request.ipRateLimitEnabled.getD defaults.ipRateLimitEnabled
    ipPacketsPerSecond :=
      (← requestU32 "ip_packets_per_second" request.ipPacketsPerSecond).or
        defaults.ipPacketsPerSecond
    ipBurst := (← requestU32 "ip_burst" request.ipBurst).or defaults.ipBurst
    floodEnabled := request.floodEnabled.getD defaults.floodEnabled
    floodPacketsPerSecond :=
      (← requestU32 "flood_packets_per_second" request.floodPacketsPerSecond).or
        defaults.floodPacketsPerSecond
    floodBurst := (← requestU32 "flood_burst" request.floodBurst).or defaults.floodBurst
    floodBlockSeconds :=
      (← requestU32 "flood_block_seconds" request.floodBlockSeconds).or
        defaults.floodBlockSeconds }

/-- `optional_u32_to_i32` -/
def optionalU32ToInt32 (label : String) : Option U32 → Except String (Option Int32)
  | none => .ok none
  | some value =>
      if value.toNat < 2147483648 then
        .ok (some (Int32.ofNat value.toNat))
      else
        .error (label ++ " exceeds i32 range")

/-- `set_dynamic_defense_fields` on the row of the policy. -/
def dynamicDefenseRow (data : DynamicDefensePolicy) : Except String DynamicDefenseRow := do
  return {
    policyName := defaultPolicyName
    enabled := data.enabled
    ipRateLimitEnabled := data.ipRateLimitEnabled
    ipPacketsPerSecond := ← optionalU32ToInt32 "ip_packets_per_second" data.ipPacketsPerSecond
    ipBurst := ← optionalU32ToInt32 "ip_burst" data.ipBurst
    floodEnabled := data.floodEnabled
    floodPacketsPerSecond :=
      ← optionalU32ToInt32 "flood_packets_per_second" data.floodPacketsPerSecond
    floodBurst := ← optionalU32ToInt32 "flood_burst" data.floodBurst
    floodBlockSeconds := ← optionalU32ToInt32 "flood_block_seconds" data.floodBlockSeconds }

def dynamicDefensePolicyFromModel (row : DynamicDefenseRow) :
    Except String DynamicDefensePolicy := do
  return {
    enabled := row.enabled
    ipRateLimitEnabled := row.ipRateLimitEnabled
    ipPacketsPerSecond := ← optionalInt32ToU32 "ip_packets_per_second" row.ipPacketsPerSecond
    ipBurst := ← optionalInt32ToU32 "ip_burst" row.ipBurst
    floodEnabled := row.floodEnabled
    floodPacketsPerSecond :=
      ← optionalInt32ToU32 "flood_packets_per_second" row.floodPacketsPerSecond
    floodBurst := ← optionalInt32ToU32 "flood_burst" row.floodBurst
    floodBlockSeconds := ← optionalInt32ToU32 "flood_block_seconds" row.floodBlockSeconds }

/-- The row of the policy, which is part of it whether dynamic defense is enabled or not. -/
def writeRow (row : DynamicDefenseRow) : Transaction Unit :=
  modify fun s =>
    { db :=
        { s.db with
          dynamicDefense :=
            if s.db.dynamicDefense.any fun old => old.policyName = defaultPolicyName then
              s.db.dynamicDefense.map fun old =>
                if old.policyName = defaultPolicyName then row else old
            else
              s.db.dynamicDefense ++ [row] }
      written := true :: s.written }

def findRow : Transaction (Option DynamicDefenseRow) := fun s =>
  .ok (s.db.dynamicDefense.find? fun row => row.policyName = defaultPolicyName) s

/-- What the row says, when there is one. -/
def existingPolicy (row : Option DynamicDefenseRow) :
    Except String (Option DynamicDefensePolicy) :=
  row.mapM dynamicDefensePolicyFromModel

def update (env : ApiEnv) (db : PolicyDb) (request : UpdateDynamicDefenseRequest) :
    Outcome DynamicDefensePolicy :=
  respond env db do
    let data ← liftResult (fromAnyhow (dynamicDefensePolicyFromRequest request))
    liftResult (fromAnyhow (validateDynamicDefensePolicy data))
    let existing ← liftResult (fromAnyhow (existingPolicy (← findRow)))
    if existing = some data then
      return (none, data)
    else
      writeRow (← liftResult (fromAnyhow (dynamicDefenseRow data)))
      return (some (← nextPolicyVersionInTransaction), data)

end DynamicDefense

/-! ## Dynamic rate limits -/

namespace DynamicRateLimits

structure CreateDynamicRateLimitRequest where
  enabled : Option Bool
  priority : Int32
  protocol : String
  port : Option Int32
  packetsPerSecond : Int32
  burst : Int32
  comment : Option String

structure DynamicRateLimitInput where
  enabled : Bool
  priority : Int32
  protocol : String
  port : Option Int32
  packetsPerSecond : Int32
  burst : Int32
  comment : Option String

def dynamicRateLimitInput (request : CreateDynamicRateLimitRequest) :
    Except String DynamicRateLimitInput := do
  let protocol ← normalizeProtocol request.protocol
  let port ← validateDynamicRatePort protocol request.port
  validatePositiveInt32 "packets_per_second" request.packetsPerSecond
  validatePositiveInt32 "burst" request.burst
  return {
    enabled := request.enabled.getD true
    priority := request.priority
    protocol := protocol
    port := port
    packetsPerSecond := request.packetsPerSecond
    burst := request.burst
    comment := request.comment }

/-- `active_model` -/
def DynamicRateLimitInput.row (input : DynamicRateLimitInput) (id : Int32) :
    DynamicRateLimitRow where
  id := id
  policyName := defaultPolicyName
  enabled := input.enabled
  priority := input.priority
  protocol := input.protocol
  port := input.port
  packetsPerSecond := input.packetsPerSecond
  burst := input.burst
  comment := input.comment

def createDynamicRateLimit (env : ApiEnv) (input : DynamicRateLimitInput) :
    Transaction (RowCreate DynamicRateLimitRow) :=
  createMatching env rateLimitTable
    (fun row => row.enabled = input.enabled && row.priority = input.priority &&
      row.protocol = input.protocol && row.port = input.port &&
      row.packetsPerSecond = input.packetsPerSecond && row.burst = input.burst &&
      row.comment = input.comment)
    "multiple dynamic rate limits match; delete by id" input.row

def create (env : ApiEnv) (db : PolicyDb) (request : CreateDynamicRateLimitRequest) :
    Outcome (RowCreate DynamicRateLimitRow) :=
  Api.create env db (fromAnyhow (dynamicRateLimitInput request)) (createDynamicRateLimit env)

def createBatch (env : ApiEnv) (db : PolicyDb) (items : List CreateDynamicRateLimitRequest) :
    Outcome (CreateRows DynamicRateLimitRow) :=
  Api.createBatch env db
    (do
      validateBatchLen items.length
      items.mapM fun request => fromAnyhow (dynamicRateLimitInput request))
    (createDynamicRateLimit env)

def deleteById (env : ApiEnv) (db : PolicyDb) (id : Int32) : Outcome Nat :=
  Api.deleteById env db rateLimitTable "dynamic rate limit not found" noCascade id

def deleteBatch (env : ApiEnv) (db : PolicyDb) (ids : List Int32) : Outcome Nat :=
  Api.deleteBatch env db rateLimitTable "dynamic rate limit not found" noCascade ids

structure DynamicRateLimitMatchQuery where
  enabled : Bool
  priority : Int32
  protocol : String
  port : Int32
  packetsPerSecond : Int32
  burst : Int32

/-- `DynamicRateLimitDeleteTarget` -/
def DynamicRateLimitMatchQuery.selector (query : DynamicRateLimitMatchQuery) :
    ApiResult (DynamicRateLimitRow → Bool) := do
  let protocol ← fromAnyhow (normalizeProtocol query.protocol)
  match ← fromAnyhow (validateDynamicRatePort protocol (some query.port)) with
  | none => throw (.badRequest "port is required")
  | some port =>
      fromAnyhow (validatePositiveInt32 "packets_per_second" query.packetsPerSecond)
      fromAnyhow (validatePositiveInt32 "burst" query.burst)
      return fun row =>
        row.enabled = query.enabled && row.priority = query.priority && row.protocol = protocol &&
          row.port = some port && row.packetsPerSecond = query.packetsPerSecond &&
          row.burst = query.burst

def deleteByQuery (env : ApiEnv) (db : PolicyDb) (query : DynamicRateLimitMatchQuery) :
    Outcome Nat :=
  deleteOnly env db rateLimitTable "dynamic rate limit not found"
    "multiple dynamic rate limits match; delete by id" query.selector

end DynamicRateLimits

/-! ## Temporary bans -/

namespace TempBans

structure CreateTempBanRequest where
  cidr : String
  protocol : Option String
  port : Option Int32
  durationSeconds : Option Int
  comment : Option String

structure TempBanInput where
  cidr : String
  protocol : String
  port : Option Int32
  expiresAt : Int
  comment : Option String

/-- `active_model` -/
def tempBanInput (env : ApiEnv) (request : CreateTempBanRequest) : Except String TempBanInput := do
  let cidr ← normalizeCidr env request.cidr
  let protocol := (← request.protocol.mapM normalizeProtocol).getD "any"
  let port ← validateDynamicRatePort protocol request.port
  let durationSeconds ← validateDuration request.durationSeconds
  let expiresAt ← expiration env.now durationSeconds
  return {
    cidr := cidr
    protocol := protocol
    port := port
    expiresAt := expiresAt
    comment := request.comment }

def TempBanInput.row (input : TempBanInput) (id : Int32) : TempBanRow where
  id := id
  policyName := defaultPolicyName
  cidr := input.cidr
  protocol := input.protocol
  port := input.port
  expiresAt := input.expiresAt
  comment := input.comment

def rejectTempBanNodeIp (env : ApiEnv) (request : CreateTempBanRequest) : ApiResult Unit := do
  rejectNodeIpBlock env (← fromAnyhow (parseNormalizedCidr env request.cidr)) "temporary ban"

/-- A new ban, whether there is one like it or not. -/
def insertBan (env : ApiEnv) (input : TempBanInput) : Transaction (RowCreate TempBanRow) := do
  return tempBanTable.created
    (← tempBanTable.insert env (.internal "UNIQUE constraint failed") input.row)

def create (env : ApiEnv) (db : PolicyDb) (request : CreateTempBanRequest) : Outcome TempBanRow :=
  respond env db do
    liftResult (rejectTempBanNodeIp env request)
    let created ← insertBan env (← liftResult (fromAnyhow (tempBanInput env request)))
    return (some (← nextPolicyVersionInTransaction), created.row)

def createBatch (env : ApiEnv) (db : PolicyDb) (items : List CreateTempBanRequest) :
    Outcome (List TempBanRow) :=
  respond env db do
    liftResult (validateBatchLen items.length)
    liftResult (items.forM (rejectTempBanNodeIp env))
    let models ← liftResult (items.mapM fun request => fromAnyhow (tempBanInput env request))
    let summary ← createRows (insertBan env) models (CreateRows.empty TempBanRow)
    return (some (← nextPolicyVersionInTransaction), summary.rows)

def deleteById (env : ApiEnv) (db : PolicyDb) (id : Int32) : Outcome Nat :=
  respond env db do
    let deleted ← tempBanTable.delete fun row => row.id = id
    liftResult (if deleted = 0 then .error (.notFound "temporary ban not found") else .ok ())
    return (some (← nextPolicyVersionInTransaction), deleted)

def deleteBatch (env : ApiEnv) (db : PolicyDb) (ids : List Int32) : Outcome Nat :=
  respond env db do
    let ids ← liftResult (validateBatchIds ids)
    let deleted ← tempBanTable.delete fun row => row.id ∈ ids
    liftResult (ensureAllIdsDeleted deleted ids.length "temporary ban not found")
    return (some (← nextPolicyVersionInTransaction), deleted)

end TempBans

/-! ## Trusted networks -/

namespace TrustedCidrs

structure CreateTrustedCidrRequest where
  enabled : Option Bool
  cidr : String
  comment : Option String

structure TrustedCidrInput where
  enabled : Bool
  cidr : String
  comment : Option String

def trustedCidrInput (env : ApiEnv) (request : CreateTrustedCidrRequest) :
    Except String TrustedCidrInput := do
  return {
    enabled := request.enabled.getD true
    cidr := ← normalizeCidr env request.cidr
    comment := request.comment }

def TrustedCidrInput.row (input : TrustedCidrInput) (id : Int32) : TrustedCidrRow where
  id := id
  policyName := defaultPolicyName
  enabled := input.enabled
  cidr := input.cidr
  comment := input.comment

/-- `trusted_cidr_active_changed` -/
def activeChanged (row : TrustedCidrRow) (enabled : Bool) (comment : Option String) : Bool :=
  if row.enabled ≠ enabled then true else enabled && row.comment ≠ comment

/-- A network that is there already gets the new fields. -/
def upsert (env : ApiEnv) (request : CreateTrustedCidrRequest) :
    Transaction (RowCreate TrustedCidrRow) := do
  let input ← liftResult (fromAnyhow (trustedCidrInput env request))
  match (← trustedCidrTable.select fun row => row.cidr = input.cidr).head? with
  | none =>
      return trustedCidrTable.created
        (← trustedCidrTable.insert env (.internal "UNIQUE constraint failed") input.row)
  | some existing =>
      if existing.enabled = input.enabled ∧ existing.comment = input.comment then
        return unchanged existing
      else
        let new := { existing with enabled := input.enabled, comment := input.comment }
        trustedCidrTable.update existing new
        return {
          row := new
          inserted := false
          activeChanged := activeChanged existing input.enabled input.comment }

def create (env : ApiEnv) (db : PolicyDb) (request : CreateTrustedCidrRequest) :
    Outcome (RowCreate TrustedCidrRow) :=
  Api.create env db (.ok request) (upsert env)

def createBatch (env : ApiEnv) (db : PolicyDb) (items : List CreateTrustedCidrRequest) :
    Outcome (CreateRows TrustedCidrRow) :=
  Api.createBatch env db
    (do
      validateBatchLen items.length
      return items)
    (upsert env)

def deleteById (env : ApiEnv) (db : PolicyDb) (id : Int32) : Outcome Nat :=
  Api.deleteById env db trustedCidrTable "trusted CIDR not found" noCascade id

def deleteBatch (env : ApiEnv) (db : PolicyDb) (ids : List Int32) : Outcome Nat :=
  Api.deleteBatch env db trustedCidrTable "trusted CIDR not found" noCascade ids

def deleteByQuery (env : ApiEnv) (db : PolicyDb) (cidr : String) : Outcome Nat :=
  respond env db do
    let cidr ← liftResult (fromAnyhow (normalizeCidr env cidr))
    let targets ← trustedCidrTable.select fun row => row.cidr = cidr
    liftResult (if targets.isEmpty then .error (.notFound "trusted CIDR not found") else .ok ())
    let deleted ← trustedCidrTable.delete fun row => row.cidr = cidr
    liftResult (if deleted = 0 then .error (.notFound "trusted CIDR not found") else .ok ())
    return (← bumpPolicyVersionIfActive (targets.any TrustedCidrRow.enabled), deleted)

end TrustedCidrs

end Api
end XdpFirewall
