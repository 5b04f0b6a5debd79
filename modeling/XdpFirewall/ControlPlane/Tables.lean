import XdpFirewall.Policy.Model

/-!
# Tables — the rows from which a policy is loaded

One structure for each entity of the database, with the columns that the control plane reads.
Numbers have the width of their column; points in time are nanoseconds of universal time.
-/

namespace XdpFirewall
namespace ControlPlane

/-! ## Rows -/

structure FirewallRuleRow where
  id : Int32
  policyName : String
  ruleKey : String
  enabled : Bool
  priority : Int32
  action : String
  cidr : String
  protocol : Option String
  port : Option Int32
  comment : Option String
  deriving DecidableEq

structure GeoCountryRow where
  id : Int32
  policyName : String
  enabled : Bool
  country : String
  action : String
  deriving DecidableEq

/-- The address blocks of a country, kept for every policy. -/
structure GeoIpPrefixRow where
  id : Int32
  country : String
  cidrsJson : String
  deriving DecidableEq

structure ThreatSourceRow where
  id : Int32
  policyName : String
  enabled : Bool
  name : String
  url : String
  format : String
  minScore : Option Int32
  deriving DecidableEq

structure ThreatSourceStateRow where
  id : Int32
  policyName : String
  sourceName : String
  deriving DecidableEq

structure ThreatPrefixRow where
  id : Int32
  policyName : String
  sourceName : String
  cidrsJson : String
  deriving DecidableEq

structure DynamicDefenseRow where
  policyName : String
  enabled : Bool
  ipRateLimitEnabled : Bool
  ipPacketsPerSecond : Option Int32
  ipBurst : Option Int32
  floodEnabled : Bool
  floodPacketsPerSecond : Option Int32
  floodBurst : Option Int32
  floodBlockSeconds : Option Int32
  deriving DecidableEq

structure DynamicRateLimitRow where
  id : Int32
  policyName : String
  enabled : Bool
  priority : Int32
  protocol : String
  port : Option Int32
  packetsPerSecond : Int32
  burst : Int32
  comment : Option String
  deriving DecidableEq

structure TempBanRow where
  id : Int32
  policyName : String
  cidr : String
  protocol : String
  port : Option Int32
  expiresAt : Int
  comment : Option String
  deriving DecidableEq

structure TrustedCidrRow where
  id : Int32
  policyName : String
  enabled : Bool
  cidr : String
  comment : Option String
  deriving DecidableEq

/-- A version is an `i64`. The first is 1 and each commit adds 1, so that none comes near the
largest; here, and wherever a version is passed on, it is an integer without a bound. -/
structure PolicyVersionRow where
  policyName : String
  version : Int
  deriving DecidableEq

/-! ## The database -/

/-- The committed rows. A query without an order answers in the order of the list. -/
structure PolicyDb where
  policyVersions : List PolicyVersionRow
  firewallRules : List FirewallRuleRow
  geoCountries : List GeoCountryRow
  geoIpPrefixes : List GeoIpPrefixRow
  threatSources : List ThreatSourceRow
  threatSourceStates : List ThreatSourceStateRow
  threatPrefixes : List ThreatPrefixRow
  dynamicDefense : List DynamicDefenseRow
  dynamicRateLimits : List DynamicRateLimitRow
  tempBans : List TempBanRow
  trustedCidrs : List TrustedCidrRow
  deriving DecidableEq

def PolicyDb.empty : PolicyDb where
  policyVersions := []
  firewallRules := []
  geoCountries := []
  geoIpPrefixes := []
  threatSources := []
  threatSourceStates := []
  threatPrefixes := []
  dynamicDefense := []
  dynamicRateLimits := []
  tempBans := []
  trustedCidrs := []

/-- `DEFAULT_POLICY_NAME` -/
def defaultPolicyName : String := "edge"

/-- `load_policy_version` and, for the default policy, `latest_version` -/
def policyVersion (db : PolicyDb) (policyName : String) : Int :=
  ((db.policyVersions.find? fun row => row.policyName = policyName).map
    PolicyVersionRow.version).getD 0

/-- The tables that `load_policy` reads. -/
inductive PolicyTable
  | firewallRules
  | geoCountries
  | geoPrefixes
  | threatSources
  | threatPrefixes
  | dynamicDefense
  | rateLimits
  | tempBans
  | trustedCidrs
  deriving DecidableEq, Repr

/-- The order in which `load_policy` reads them. -/
def loadOrder : List PolicyTable :=
  [.firewallRules, .geoCountries, .geoPrefixes, .threatSources, .threatPrefixes,
    .dynamicDefense, .rateLimits, .tempBans, .trustedCidrs]

theorem mem_loadOrder (table : PolicyTable) : table ∈ loadOrder := by
  cases table <;> decide

end ControlPlane
end XdpFirewall
