import XdpFirewall.ControlPlane.Tables
import XdpFirewall.Net.HostNet
import XdpFirewall.Policy.Compile

/-!
# LoadPolicy — from the rows of the database to a policy snapshot

Each table has a loader that picks the rows in force, orders them and reads their columns; a
column that cannot be read fails the load. `load_policy` runs the loaders one after the other, so
`loadTable` gives the part of the snapshot that a single one contributes.
-/

namespace XdpFirewall
namespace ControlPlane

open Net Policy

/-- The readers of texts that the loaders call from their libraries. -/
structure TextReaders where
  ipNet : String → Option IpNet
  ipAddr : String → Option IpAddr
  /-- The networks a JSON array yields, up to the first item that is not a network. -/
  cidrArray : String → List IpNet
  stringArray : String → Option (List String)

/-! ## Columns -/

def parseAction (value : String) : Except String RuleAction :=
  match value.toLower with
  | "allow" => .ok .allow
  | "deny" => .ok .deny
  | "drop" => .ok .deny
  | _ => .error ("unsupported firewall action '" ++ value ++ "'")

def parseProtocol (value : String) : Except String L4Protocol :=
  match value.toLower with
  | "any" => .ok .any
  | "tcp" => .ok .tcp
  | "udp" => .ok .udp
  | "icmp" => .ok .icmp
  | _ => .error ("unsupported L4 protocol '" ++ value ++ "'")

def parseOptionalPort (value : Option Int32) (label : String) : Except String (Option U16) :=
  match value with
  | none => .ok none
  | some port =>
      if 0 ≤ port.toInt ∧ port.toInt < 65536 then
        .ok (some (BitVec.ofInt 16 port.toInt))
      else
        .error (label ++ " is outside u16 range")

/-- `i32_to_u32` -/
def int32ToU32 (label : String) (value : Int32) : Except String U32 :=
  if 0 ≤ value.toInt then
    .ok (BitVec.ofInt 32 value.toInt)
  else
    .error (label ++ " is negative")

/-- `optional_i32_to_u32` -/
def optionalInt32ToU32 (label : String) (value : Option Int32) : Except String (Option U32) :=
  match value with
  | none => .ok none
  | some value => some <$> int32ToU32 label value

/-- The text of a CIDR column; `label` is the context of the error. -/
def parseCidr (text : TextReaders) (label value : String) : Except String IpNet :=
  match text.ipNet value with
  | some net => .ok net
  | none => .error ("invalid " ++ label ++ " '" ++ value ++ "'")

def normalizedCountry (value : String) : Except String String := do
  let (first, second) ← normalizeCountry value
  return String.ofList [first, second]

def parseFormat (value : String) : Except String ThreatFormat :=
  match value.toLower with
  | "cidr" => .ok .cidr
  | "ips" => .ok .ips
  | "ipsum" => .ok .ipsum
  | "voipbl" => .ok .voipbl
  | "voipbl_cidr" => .ok .voipbl
  | "voipbl-cidr" => .ok .voipbl
  | "spamhaus_drop" => .ok .spamhausDrop
  | "spamhaus-drop" => .ok .spamhausDrop
  | _ => .error ("unsupported threat format '" ++ value ++ "'")

/-- The bans that a policy may hold, `validate_temp_ban_policy`. -/
def validateTempBanPolicy (policy : TempBanPolicy) : Except String Unit :=
  if policy.protocol = .icmp ∧ policy.port.isSome then
    .error "temporary ban icmp cannot set a port"
  else
    .ok ()

/-! ## Rows -/

def parseRule (text : TextReaders) (row : FirewallRuleRow) : Except String FirewallRule := do
  return {
    priority := row.priority
    action := ← parseAction row.action
    cidr := ← parseCidr text "CIDR" row.cidr
    protocol := ← match row.protocol with
      | some protocol => parseProtocol protocol
      | none => .ok .any
    port := ← parseOptionalPort row.port "firewall rule port"
    comment := row.comment }

def parseGeoCountryPolicy (row : GeoCountryRow) : Except String GeoCountryPolicy := do
  return {
    country := ← normalizedCountry row.country
    action := ← parseAction row.action }

/-- `ThreatSource::try_from` -/
def parseThreatSource (row : ThreatSourceRow) : Except String ThreatSource := do
  return {
    name := row.name
    url := row.url
    format := ← parseFormat row.format
    minScore := ← optionalInt32ToU32 "threat min_score" row.minScore }

def parseDynamicDefense (row : DynamicDefenseRow) : Except String DynamicDefensePolicy := do
  return {
    enabled := row.enabled
    ipRateLimitEnabled := row.ipRateLimitEnabled
    ipPacketsPerSecond := ← optionalInt32ToU32 "dynamic defense ip_packets_per_second"
      row.ipPacketsPerSecond
    ipBurst := ← optionalInt32ToU32 "dynamic defense ip_burst" row.ipBurst
    floodEnabled := row.floodEnabled
    floodPacketsPerSecond := ← optionalInt32ToU32 "dynamic defense flood_packets_per_second"
      row.floodPacketsPerSecond
    floodBurst := ← optionalInt32ToU32 "dynamic defense flood_burst" row.floodBurst
    floodBlockSeconds := ← optionalInt32ToU32 "dynamic defense flood_block_seconds"
      row.floodBlockSeconds }

def parseDynamicRateLimit (row : DynamicRateLimitRow) :
    Except String DynamicRateLimitPolicy := do
  let policy : DynamicRateLimitPolicy := {
    priority := row.priority
    protocol := ← parseProtocol row.protocol
    port := ← parseOptionalPort row.port "dynamic rate limit port"
    packetsPerSecond := ← int32ToU32 "dynamic rate limit packets_per_second" row.packetsPerSecond
    burst := ← int32ToU32 "dynamic rate limit burst" row.burst
    comment := row.comment }
  validateDynamicRateLimitPolicy policy
  return policy

def parseTempBan (text : TextReaders) (row : TempBanRow) : Except String TempBanPolicy := do
  let policy : TempBanPolicy := {
    cidr := ← parseCidr text "temporary ban CIDR" row.cidr
    protocol := ← parseProtocol row.protocol
    port := ← parseOptionalPort row.port "temporary ban port"
    expiresAt := row.expiresAt
    comment := row.comment }
  validateTempBanPolicy policy
  return policy

def parseTrustedCidr (text : TextReaders) (row : TrustedCidrRow) :
    Except String TrustedCidrPolicy := do
  return {
    cidr := ← parseCidr text "trusted CIDR" row.cidr
    comment := row.comment }

/-! ## Persisted address lists -/

/-- The persisted blocks of one country. A text that stops being a list of networks contributes
the networks before that point. -/
def persistedCountryPrefixes (text : TextReaders) (db : PolicyDb) (country : String) :
    Except String (List GeoIpPrefixPolicy) := do
  let country ← normalizedCountry country
  match db.geoIpPrefixes.find? fun row => row.country = country with
  | none => return []
  | some row =>
      return (text.cidrArray row.cidrsJson).map fun net =>
        { cidr := net.trunc, country := country }

def loadPersistedGeoPrefixes (text : TextReaders) (db : PolicyDb) (countries : List String) :
    Except String (List GeoIpPrefixPolicy) := do
  return (← countries.mapM (persistedCountryPrefixes text db)).flatten

/-- What the parsers of a feed take off around a value: blanks, then commas, then quotes. -/
def trimFeedValue (value : String) : List Char :=
  let strip (c : Char) (cs : List Char) : List Char :=
    ((cs.dropWhile fun d => d == c).reverse.dropWhile fun d => d == c).reverse
  strip '"' (strip ',' (trim value.toList))

/-- A single address is a prefix of its full length. -/
def addrPrefix (addr : IpAddr) : ThreatPrefix where
  toNetwork := (hostNet addr).toNetwork

/-- `parse_prefix` -/
def parseThreatPrefix (text : TextReaders) (value : String) : Except String ThreatPrefix :=
  let value := String.ofList (trimFeedValue value)
  match text.ipNet value with
  | some net => .ok { toNetwork := net.toNetwork }
  | none =>
      match text.ipAddr value with
      | some addr => .ok (addrPrefix addr)
      | none => .error ("invalid threat IP/CIDR '" ++ value ++ "'")

def persistedPrefixes (text : TextReaders) (row : ThreatPrefixRow) :
    Except String (List ThreatPrefix) :=
  match text.stringArray row.cidrsJson with
  | some cidrs => cidrs.mapM (parseThreatPrefix text)
  | none => .error ("invalid persisted threat CIDR list for " ++ row.sourceName)

/-- The value of an address as a number. -/
def addrValue : IpAddr → Nat
  | .v4 addr => addr.toNat
  | .v6 addr => addr.toNat

/-- The sort key of a threat prefix: the family, the address, the length. -/
def threatPrefixLe (a b : ThreatPrefix) : Bool :=
  let key (p : ThreatPrefix) : List Nat :=
    [if p.addr.isIpv4 then 0 else 1, addrValue p.addr, p.prefixLen]
  decide (@LE.le (List Nat) List.instLE (key a) (key b))

/-- `normalize_prefixes` -/
def normalizeThreatPrefixes (prefixes : List ThreatPrefix) : List ThreatPrefix :=
  prefixes.eraseDups.mergeSort threatPrefixLe

/-! ## Loaders -/

variable (text : TextReaders) (db : PolicyDb) (policyName : String)

def loadFirewallRules : Except String (List FirewallRule) :=
  ((db.firewallRules.filter fun row => row.policyName = policyName ∧ row.enabled).mergeSort
    fun a b => a.priority ≤ b.priority).mapM (parseRule text)

def loadGeoCountries : Except String (List GeoCountryPolicy) :=
  (db.geoCountries.filter fun row => row.policyName = policyName ∧ row.enabled).mapM
    parseGeoCountryPolicy

def loadThreatSources : Except String (List ThreatSource) :=
  (db.threatSources.filter fun row => row.policyName = policyName ∧ row.enabled).mapM
    parseThreatSource

def loadPersistedThreatPrefixes (sourceNames : List String) :
    Except String (List ThreatPrefix) := do
  let rows := (db.threatPrefixes.filter fun row =>
    row.policyName = policyName ∧ row.sourceName ∈ sourceNames).mergeSort
      fun a b => a.sourceName ≤ b.sourceName
  return normalizeThreatPrefixes (← rows.mapM (persistedPrefixes text)).flatten

def loadDynamicDefense : Except String DynamicDefensePolicy := do
  let policy ← match db.dynamicDefense.find? fun row => row.policyName = policyName with
    | some row => parseDynamicDefense row
    | none => .ok DynamicDefensePolicy.default
  validateDynamicDefensePolicy policy
  return policy

def loadDynamicRateLimits : Except String (List DynamicRateLimitPolicy) :=
  ((db.dynamicRateLimits.filter fun row => row.policyName = policyName ∧ row.enabled).mergeSort
    fun a b => a.priority ≤ b.priority).mapM parseDynamicRateLimit

def loadActiveTempBans (now : Int) : Except String (List TempBanPolicy) :=
  ((db.tempBans.filter fun row => row.policyName = policyName ∧ now < row.expiresAt).mergeSort
    fun a b => a.expiresAt ≤ b.expiresAt).mapM (parseTempBan text)

def loadTrustedCidrs : Except String (List TrustedCidrPolicy) :=
  ((db.trustedCidrs.filter fun row => row.policyName = policyName ∧ row.enabled).mergeSort
    fun a b => a.cidr ≤ b.cidr).mapM (parseTrustedCidr text)

def loadGeoPrefixes (countryCodes : List String) (includeGeoPrefixes : Bool) :
    Except String (List GeoIpPrefixPolicy) :=
  if includeGeoPrefixes then
    loadPersistedGeoPrefixes text db countryCodes
  else
    .ok []

/-- `load_policy_with_geo_prefixes`; `now` is the clock at the query for temporary bans. -/
def loadPolicyWithGeoPrefixes (includeGeoPrefixes : Bool) (now : Int) :
    Except String PolicySnapshot := do
  let version := policyVersion db policyName
  let rules ← loadFirewallRules text db policyName
  let geoCountries ← loadGeoCountries db policyName
  let geoPrefixes ←
    loadGeoPrefixes text db (geoCountries.map GeoCountryPolicy.country) includeGeoPrefixes
  let threatSources ← loadThreatSources db policyName
  let threatPrefixes ←
    loadPersistedThreatPrefixes text db policyName (threatSources.map ThreatSource.name)
  let dynamicDefense ← loadDynamicDefense db policyName
  let dynamicRateLimits ← loadDynamicRateLimits db policyName
  let tempBans ← loadActiveTempBans text db policyName now
  let trustedCidrs ← loadTrustedCidrs text db policyName
  return {
    version := version
    rules := rules
    geoCountries := geoCountries
    geoPrefixes := geoPrefixes
    tempBans := tempBans
    dynamicDefense := dynamicDefense
    dynamicRateLimits := dynamicRateLimits
    trustedCidrs := trustedCidrs
    threatSources := threatSources
    threatPrefixes := threatPrefixes }

def loadPolicy (now : Int) : Except String PolicySnapshot :=
  loadPolicyWithGeoPrefixes text db policyName true now

def loadPolicyWithoutGeoPrefixes (now : Int) : Except String PolicySnapshot :=
  loadPolicyWithGeoPrefixes text db policyName false now

/-! ## One table at a time -/

/-- A snapshot of which only the version has been read. -/
def PolicySnapshot.unread (version : Int) : PolicySnapshot where
  version := version
  rules := []
  geoCountries := []
  geoPrefixes := []
  tempBans := []
  dynamicDefense := DynamicDefensePolicy.default
  dynamicRateLimits := []
  trustedCidrs := []
  threatSources := []
  threatPrefixes := []

/-- The query of one table. Two of them depend on what has been read before. -/
def loadTable (includeGeoPrefixes : Bool) (now : Int) (snapshot : PolicySnapshot) :
    PolicyTable → Except String PolicySnapshot
  | .firewallRules => do
      return { snapshot with rules := ← loadFirewallRules text db policyName }
  | .geoCountries => do
      return { snapshot with geoCountries := ← loadGeoCountries db policyName }
  | .geoPrefixes => do
      let geoPrefixes ← loadGeoPrefixes text db
        (snapshot.geoCountries.map GeoCountryPolicy.country) includeGeoPrefixes
      return { snapshot with geoPrefixes := geoPrefixes }
  | .threatSources => do
      return { snapshot with threatSources := ← loadThreatSources db policyName }
  | .threatPrefixes => do
      let threatPrefixes ← loadPersistedThreatPrefixes text db policyName
        (snapshot.threatSources.map ThreatSource.name)
      return { snapshot with threatPrefixes := threatPrefixes }
  | .dynamicDefense => do
      return { snapshot with dynamicDefense := ← loadDynamicDefense db policyName }
  | .rateLimits => do
      return { snapshot with dynamicRateLimits := ← loadDynamicRateLimits db policyName }
  | .tempBans => do
      return { snapshot with tempBans := ← loadActiveTempBans text db policyName now }
  | .trustedCidrs => do
      return { snapshot with trustedCidrs := ← loadTrustedCidrs text db policyName }

/-- Loading a policy is reading its tables in order. -/
theorem loadPolicyWithGeoPrefixes_eq_foldlM (includeGeoPrefixes : Bool) (now : Int) :
    loadPolicyWithGeoPrefixes text db policyName includeGeoPrefixes now =
      loadOrder.foldlM (loadTable text db policyName includeGeoPrefixes now)
        (PolicySnapshot.unread (policyVersion db policyName)) := by
  simp only [loadPolicyWithGeoPrefixes, loadOrder, List.foldlM_cons, List.foldlM_nil, loadTable,
    PolicySnapshot.unread, bind_assoc, pure_bind]

/-- Only the query for temporary bans looks at the clock. -/
theorem loadTable_now (includeGeoPrefixes : Bool) {table : PolicyTable}
    (h : table ≠ .tempBans) (now now' : Int) (snapshot : PolicySnapshot) :
    loadTable text db policyName includeGeoPrefixes now snapshot table =
      loadTable text db policyName includeGeoPrefixes now' snapshot table := by
  cases table <;> first | rfl | exact absurd rfl h

end ControlPlane
end XdpFirewall
