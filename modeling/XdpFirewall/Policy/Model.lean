import XdpFirewall.Net.IpNet

/-!
# Policy model — the snapshot a control plane sends and the policy an agent applies

`PolicySnapshot` is what the control plane loads from its tables. `CompiledPolicy` is the form
the data plane writes to the kernel maps: every CIDR is reduced to its network, which its type
records, and every optional port is a number, zero meaning any port. Points on the wall clock
are nanoseconds of universal time.
-/

namespace XdpFirewall

abbrev U8 := BitVec 8
abbrev U16 := BitVec 16
abbrev U32 := BitVec 32
abbrev U64 := BitVec 64

namespace Policy

open Net

/-- The first point in time that a `NaiveDateTime` can express. -/
def minNaiveDateTime : Int := -8334601228800000000000

/-- The last one. -/
def maxNaiveDateTime : Int := 8210266876799999999999

inductive RuleAction
  | allow
  | deny
  deriving DecidableEq, Repr

inductive L4Protocol
  | any
  | tcp
  | udp
  | icmp
  deriving DecidableEq, Repr

/-! ## Snapshot -/

structure FirewallRule where
  priority : Int32
  action : RuleAction
  cidr : IpNet
  protocol : L4Protocol
  port : Option U16
  comment : Option String
  deriving DecidableEq

structure GeoCountryPolicy where
  country : String
  action : RuleAction
  deriving DecidableEq

structure GeoIpPrefixPolicy where
  cidr : IpNet
  country : String
  deriving DecidableEq

structure DynamicDefensePolicy where
  enabled : Bool
  ipRateLimitEnabled : Bool
  ipPacketsPerSecond : Option U32
  ipBurst : Option U32
  floodEnabled : Bool
  floodPacketsPerSecond : Option U32
  floodBurst : Option U32
  floodBlockSeconds : Option U32
  deriving DecidableEq

/-- `DynamicDefensePolicy::default`. -/
def DynamicDefensePolicy.default : DynamicDefensePolicy where
  enabled := true
  ipRateLimitEnabled := true
  ipPacketsPerSecond := some 5000
  ipBurst := some 10000
  floodEnabled := true
  floodPacketsPerSecond := some 20000
  floodBurst := some 40000
  floodBlockSeconds := some 60

structure DynamicRateLimitPolicy where
  priority : Int32
  protocol : L4Protocol
  port : Option U16
  packetsPerSecond : U32
  burst : U32
  comment : Option String
  deriving DecidableEq

structure TempBanPolicy where
  cidr : IpNet
  protocol : L4Protocol
  port : Option U16
  expiresAt : Int
  comment : Option String
  deriving DecidableEq

structure TrustedCidrPolicy where
  cidr : IpNet
  comment : Option String
  deriving DecidableEq

inductive ThreatFormat
  | cidr
  | ips
  | ipsum
  | voipbl
  | spamhausDrop
  deriving DecidableEq, Repr

structure ThreatSource where
  name : String
  url : String
  format : ThreatFormat
  minScore : Option U32
  deriving DecidableEq

/-- A prefix of a threat feed. `parse_prefix`, which makes them, keeps the network only. -/
structure ThreatPrefix extends Network
  deriving DecidableEq

structure PolicySnapshot where
  version : Int
  rules : List FirewallRule
  geoCountries : List GeoCountryPolicy
  geoPrefixes : List GeoIpPrefixPolicy
  tempBans : List TempBanPolicy
  dynamicDefense : DynamicDefensePolicy
  dynamicRateLimits : List DynamicRateLimitPolicy
  trustedCidrs : List TrustedCidrPolicy
  threatSources : List ThreatSource
  threatPrefixes : List ThreatPrefix
  deriving DecidableEq

/-! ## Compiled policy -/

structure XdpTrustedPrefix extends Network
  deriving DecidableEq

inductive XdpRuleSource
  | firewallRule
  | threatIntel
  deriving DecidableEq, Repr

structure XdpPrefixRule extends Network where
  priority : Int32
  action : RuleAction
  protocol : L4Protocol
  port : U16
  source : XdpRuleSource
  deriving DecidableEq

structure XdpGeoPrefix extends Network where
  country : U16
  deriving DecidableEq

structure XdpCountryRule where
  country : U16
  action : RuleAction
  deriving DecidableEq

structure XdpTempBan extends Network where
  protocol : L4Protocol
  port : U16
  expiresAt : Int
  deriving DecidableEq

structure XdpDynamicDefense where
  enabled : Bool
  ipRateLimitEnabled : Bool
  ipPacketsPerSecond : U32
  ipBurst : U32
  floodEnabled : Bool
  floodPacketsPerSecond : U32
  floodBurst : U32
  floodBlockSeconds : U32
  deriving DecidableEq

structure XdpDynamicRateLimit where
  protocol : L4Protocol
  port : U16
  packetsPerSecond : U32
  burst : U32
  deriving DecidableEq

structure CompiledPolicy where
  version : Int
  trustedPrefixes : List XdpTrustedPrefix
  rules : List XdpPrefixRule
  countryRules : List XdpCountryRule
  tempBans : List XdpTempBan
  dynamicDefense : XdpDynamicDefense
  dynamicRateLimits : List XdpDynamicRateLimit
  geoPrefixes : List XdpGeoPrefix
  threatPrefixes : List XdpPrefixRule
  deriving DecidableEq

/-- `XdpDynamicDefense::default` -/
def XdpDynamicDefense.default : XdpDynamicDefense where
  enabled := false
  ipRateLimitEnabled := false
  ipPacketsPerSecond := 0
  ipBurst := 0
  floodEnabled := false
  floodPacketsPerSecond := 0
  floodBurst := 0
  floodBlockSeconds := 0

/-- The policy without entries, which unloads the rules of an agent that is offline. -/
def CompiledPolicy.unloaded (version : Int) : CompiledPolicy where
  version := version
  trustedPrefixes := []
  rules := []
  countryRules := []
  tempBans := []
  dynamicDefense := XdpDynamicDefense.default
  dynamicRateLimits := []
  geoPrefixes := []
  threatPrefixes := []

end Policy
end XdpFirewall
