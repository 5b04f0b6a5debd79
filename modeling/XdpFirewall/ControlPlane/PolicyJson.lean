import XdpFirewall.ControlPlane.LoadPolicy
import XdpFirewall.Lib.Json

/-!
# PolicyJson — the form in which a snapshot travels

The control plane sends a snapshot as a JSON text and an agent reads it again. Names, which fields
may be left out and what a number may be follow from the declarations of the snapshot's parts.
-/

namespace XdpFirewall
namespace ControlPlane

open Lib Net Policy

/-- The readers and writers of texts that a control plane and its agents have in common. -/
structure PolicyTexts extends TextReaders where
  displayIpNet : IpNet → String
  displayIpAddr : IpAddr → String
  naiveDateTime : String → Option Int
  displayNaiveDateTime : Int → String
  json : String → Option Json
  displayJson : Json → String

/-- What is written can be read again. A parser of JSON reads values that are nested less than 128
deep. -/
structure PolicyTexts.Faithful (texts : PolicyTexts) : Prop where
  ipNet : ∀ net, texts.ipNet (texts.displayIpNet net) = some net
  ipAddr : ∀ addr, texts.ipAddr (texts.displayIpAddr addr) = some addr
  naiveDateTime : ∀ t, minNaiveDateTime ≤ t → t ≤ maxNaiveDateTime →
    texts.naiveDateTime (texts.displayNaiveDateTime t) = some t
  json : ∀ j, j.Fits 127 → texts.json (texts.displayJson j) = some j

/-! ## Numbers and names -/

def int32ToJson (value : Int32) : Json :=
  .num value.toInt

def int32FromJson (j : Json) : Option Int32 :=
  (j.readNum (-2147483648) 2147483648).map Int32.ofInt

/-- `u8`, `u16` and `u32` -/
def bitsToJson {w : Nat} (value : BitVec w) : Json :=
  .num value.toNat

def bitsFromJson (w : Nat) (j : Json) : Option (BitVec w) :=
  (j.readNum 0 (2 ^ w)).map (BitVec.ofInt w)

/-- The version is kept as an `i64`. -/
def versionToJson (version : Int) : Json :=
  .num (Int64.ofInt version).toInt

def versionFromJson : Json → Option Int :=
  Json.readNum (-9223372036854775808) 9223372036854775808

def RuleAction.name : RuleAction → String
  | .allow => "allow"
  | .deny => "deny"

def RuleAction.ofName : String → Option RuleAction
  | "allow" => some .allow
  | "deny" => some .deny
  | _ => none

def L4Protocol.name : L4Protocol → String
  | .any => "any"
  | .tcp => "tcp"
  | .udp => "udp"
  | .icmp => "icmp"

def L4Protocol.ofName : String → Option L4Protocol
  | "any" => some .any
  | "tcp" => some .tcp
  | "udp" => some .udp
  | "icmp" => some .icmp
  | _ => none

def ThreatFormat.name : ThreatFormat → String
  | .cidr => "cidr"
  | .ips => "ips"
  | .ipsum => "ipsum"
  | .voipbl => "voipbl"
  | .spamhausDrop => "spamhaus_drop"

def ThreatFormat.ofName : String → Option ThreatFormat
  | "cidr" => some .cidr
  | "ips" => some .ips
  | "ipsum" => some .ipsum
  | "voipbl" => some .voipbl
  | "spamhaus_drop" => some .spamhausDrop
  | _ => none

def actionToJson (action : RuleAction) : Json :=
  .str (RuleAction.name action)

def actionFromJson : Json → Option RuleAction :=
  Json.readText RuleAction.ofName

def protocolToJson (protocol : L4Protocol) : Json :=
  .str (L4Protocol.name protocol)

def protocolFromJson : Json → Option L4Protocol :=
  Json.readText L4Protocol.ofName

def formatToJson (format : ThreatFormat) : Json :=
  .str (ThreatFormat.name format)

def formatFromJson : Json → Option ThreatFormat :=
  Json.readText ThreatFormat.ofName

def portToJson : Option U16 → Json :=
  Json.writeOptional bitsToJson

def portFromJson : Json → Option (Option U16) :=
  Json.readOptional (bitsFromJson 16)

def limitToJson : Option U32 → Json :=
  Json.writeOptional bitsToJson

def limitFromJson : Json → Option (Option U32) :=
  Json.readOptional (bitsFromJson 32)

def commentToJson : Option String → Json :=
  Json.writeOptional .str

def commentFromJson : Json → Option (Option String) :=
  Json.readOptional Json.readStr

/-! ## Records -/

section Records

open Json

variable (texts : PolicyTexts)

def cidrToJson (net : IpNet) : Json :=
  .str (texts.displayIpNet net)

def cidrFromJson : Json → Option IpNet :=
  readText texts.ipNet

def addrToJson (addr : IpAddr) : Json :=
  .str (texts.displayIpAddr addr)

def addrFromJson : Json → Option IpAddr :=
  readText texts.ipAddr

def timeToJson (t : Int) : Json :=
  .str (texts.displayNaiveDateTime t)

def timeFromJson : Json → Option Int :=
  readText texts.naiveDateTime

def firewallRuleToJson (rule : FirewallRule) : Json :=
  .obj [
    ("priority", int32ToJson rule.priority),
    ("action", actionToJson rule.action),
    ("cidr", cidrToJson texts rule.cidr),
    ("protocol", protocolToJson rule.protocol),
    ("port", portToJson rule.port),
    ("comment", commentToJson rule.comment)]

def firewallRuleFromJson (j : Json) : Option FirewallRule := do
  let fields ← j.readFields
  return {
    priority := ← field fields "priority" int32FromJson none
    action := ← field fields "action" actionFromJson none
    cidr := ← field fields "cidr" (cidrFromJson texts) none
    protocol := ← field fields "protocol" protocolFromJson none
    port := ← field fields "port" portFromJson (some none)
    comment := ← field fields "comment" commentFromJson (some none) }

def geoCountryToJson (policy : GeoCountryPolicy) : Json :=
  .obj [
    ("country", .str policy.country),
    ("action", actionToJson policy.action)]

def geoCountryFromJson (j : Json) : Option GeoCountryPolicy := do
  let fields ← j.readFields
  return {
    country := ← field fields "country" readStr none
    action := ← field fields "action" actionFromJson none }

def geoIpPrefixToJson (block : GeoIpPrefixPolicy) : Json :=
  .obj [
    ("cidr", cidrToJson texts block.cidr),
    ("country", .str block.country)]

def geoIpPrefixFromJson (j : Json) : Option GeoIpPrefixPolicy := do
  let fields ← j.readFields
  return {
    cidr := ← field fields "cidr" (cidrFromJson texts) none
    country := ← field fields "country" readStr none }

def dynamicDefenseToJson (policy : DynamicDefensePolicy) : Json :=
  .obj [
    ("enabled", .bool policy.enabled),
    ("ip_rate_limit_enabled", .bool policy.ipRateLimitEnabled),
    ("ip_packets_per_second", limitToJson policy.ipPacketsPerSecond),
    ("ip_burst", limitToJson policy.ipBurst),
    ("flood_enabled", .bool policy.floodEnabled),
    ("flood_packets_per_second", limitToJson policy.floodPacketsPerSecond),
    ("flood_burst", limitToJson policy.floodBurst),
    ("flood_block_seconds", limitToJson policy.floodBlockSeconds)]

def dynamicDefenseFromJson (j : Json) : Option DynamicDefensePolicy := do
  let fields ← j.readFields
  return {
    enabled := ← field fields "enabled" readBool none
    ipRateLimitEnabled := ← field fields "ip_rate_limit_enabled" readBool none
    ipPacketsPerSecond := ← field fields "ip_packets_per_second" limitFromJson (some none)
    ipBurst := ← field fields "ip_burst" limitFromJson (some none)
    floodEnabled := ← field fields "flood_enabled" readBool none
    floodPacketsPerSecond := ← field fields "flood_packets_per_second" limitFromJson (some none)
    floodBurst := ← field fields "flood_burst" limitFromJson (some none)
    floodBlockSeconds := ← field fields "flood_block_seconds" limitFromJson (some none) }

def dynamicRateLimitToJson (limit : DynamicRateLimitPolicy) : Json :=
  .obj [
    ("priority", int32ToJson limit.priority),
    ("protocol", protocolToJson limit.protocol),
    ("port", portToJson limit.port),
    ("packets_per_second", bitsToJson limit.packetsPerSecond),
    ("burst", bitsToJson limit.burst),
    ("comment", commentToJson limit.comment)]

def dynamicRateLimitFromJson (j : Json) : Option DynamicRateLimitPolicy := do
  let fields ← j.readFields
  return {
    priority := ← field fields "priority" int32FromJson none
    protocol := ← field fields "protocol" protocolFromJson none
    port := ← field fields "port" portFromJson (some none)
    packetsPerSecond := ← field fields "packets_per_second" (bitsFromJson 32) none
    burst := ← field fields "burst" (bitsFromJson 32) none
    comment := ← field fields "comment" commentFromJson (some none) }

def tempBanToJson (ban : TempBanPolicy) : Json :=
  .obj [
    ("cidr", cidrToJson texts ban.cidr),
    ("protocol", protocolToJson ban.protocol),
    ("port", portToJson ban.port),
    ("expires_at", timeToJson texts ban.expiresAt),
    ("comment", commentToJson ban.comment)]

def tempBanFromJson (j : Json) : Option TempBanPolicy := do
  let fields ← j.readFields
  return {
    cidr := ← field fields "cidr" (cidrFromJson texts) none
    protocol := ← field fields "protocol" protocolFromJson none
    port := ← field fields "port" portFromJson (some none)
    expiresAt := ← field fields "expires_at" (timeFromJson texts) none
    comment := ← field fields "comment" commentFromJson (some none) }

def trustedCidrToJson (trusted : TrustedCidrPolicy) : Json :=
  .obj [
    ("cidr", cidrToJson texts trusted.cidr),
    ("comment", commentToJson trusted.comment)]

def trustedCidrFromJson (j : Json) : Option TrustedCidrPolicy := do
  let fields ← j.readFields
  return {
    cidr := ← field fields "cidr" (cidrFromJson texts) none
    comment := ← field fields "comment" commentFromJson (some none) }

def threatSourceToJson (source : ThreatSource) : Json :=
  .obj [
    ("name", .str source.name),
    ("url", .str source.url),
    ("format", formatToJson source.format),
    ("min_score", limitToJson source.minScore)]

def threatSourceFromJson (j : Json) : Option ThreatSource := do
  let fields ← j.readFields
  return {
    name := ← field fields "name" readStr none
    url := ← field fields "url" readStr none
    format := ← field fields "format" formatFromJson none
    minScore := ← field fields "min_score" limitFromJson (some none) }

def threatPrefixToJson (threat : ThreatPrefix) : Json :=
  .obj [
    ("addr", addrToJson texts threat.addr),
    ("prefix", bitsToJson (BitVec.ofNat 8 threat.prefixLen))]

/-- The source takes any length here, but the control plane sends networks only. -/
def threatPrefixFromJson (j : Json) : Option ThreatPrefix := do
  let fields ← j.readFields
  let addr ← field fields "addr" (addrFromJson texts) none
  let len ← field fields "prefix" (bitsFromJson 8) none
  if h : IsNetwork addr len.toNat then
    return { toNetwork := ⟨addr, len.toNat, h⟩ }
  else
    none

/-- The name of the policy is not sent. -/
def policySnapshotToJson (snapshot : PolicySnapshot) : Json :=
  .obj [
    ("version", versionToJson snapshot.version),
    ("rules", writeList (firewallRuleToJson texts) snapshot.rules),
    ("geo_countries", writeList geoCountryToJson snapshot.geoCountries),
    ("geo_prefixes", writeList (geoIpPrefixToJson texts) snapshot.geoPrefixes),
    ("temp_bans", writeList (tempBanToJson texts) snapshot.tempBans),
    ("dynamic_defense", dynamicDefenseToJson snapshot.dynamicDefense),
    ("dynamic_rate_limits", writeList dynamicRateLimitToJson snapshot.dynamicRateLimits),
    ("trusted_cidrs", writeList (trustedCidrToJson texts) snapshot.trustedCidrs),
    ("threat_sources", writeList threatSourceToJson snapshot.threatSources),
    ("threat_prefixes", writeList (threatPrefixToJson texts) snapshot.threatPrefixes)]

def policySnapshotFromJson (j : Json) : Option PolicySnapshot := do
  let fields ← j.readFields
  let _ ← field fields "policy_name" readStr (some defaultPolicyName)
  return {
    version := ← field fields "version" versionFromJson none
    rules := ← field fields "rules" (readList (firewallRuleFromJson texts)) none
    geoCountries := ← field fields "geo_countries" (readList geoCountryFromJson) none
    geoPrefixes := ← field fields "geo_prefixes" (readList (geoIpPrefixFromJson texts)) (some [])
    tempBans := ← field fields "temp_bans" (readList (tempBanFromJson texts)) (some [])
    dynamicDefense := ← field fields "dynamic_defense" dynamicDefenseFromJson none
    dynamicRateLimits :=
      ← field fields "dynamic_rate_limits" (readList dynamicRateLimitFromJson) none
    trustedCidrs := ← field fields "trusted_cidrs" (readList (trustedCidrFromJson texts)) none
    threatSources := ← field fields "threat_sources" (readList threatSourceFromJson) none
    threatPrefixes :=
      ← field fields "threat_prefixes" (readList (threatPrefixFromJson texts)) (some []) }

/-- `serde_json::to_string` of a snapshot -/
def policyJson (snapshot : PolicySnapshot) : String :=
  texts.displayJson (policySnapshotToJson texts snapshot)

/-- `serde_json::from_str` of a snapshot -/
def policyFromJson (value : String) : Option PolicySnapshot :=
  (texts.json value).bind (policySnapshotFromJson texts)

end Records

/-! ## What is sent arrives -/

section Sent

open Json

variable {texts : PolicyTexts}

theorem sent_int32 (depth : Nat) (value : Int32) : Sent int32ToJson int32FromJson depth value :=
  sent_num (Int32.ofInt_toInt value) value.le_toInt value.toInt_lt (by decide) (by decide) depth

theorem sent_bits (depth : Nat) {w : Nat} (hw : w ≤ 64) (value : BitVec w) :
    Sent bitsToJson (bitsFromJson w) depth value := by
  have hpow : ((2 ^ w : Nat) : Int) = 2 ^ w := Int.natCast_pow 2 w
  have hmax : 2 ^ w ≤ 2 ^ 64 := Nat.pow_le_pow_right (by decide) hw
  refine @sent_num _ value (fun value => value.toNat) (BitVec.ofInt w) 0 (2 ^ w) ?_ ?_ ?_ ?_ ?_ depth
  · rw [BitVec.ofInt_natCast, BitVec.ofNat_toNat, BitVec.setWidth_eq]
  · exact Int.natCast_nonneg _
  · rw [← hpow]
    exact Int.ofNat_lt.mpr value.isLt
  · decide
  · rw [← hpow]
    exact Int.ofNat_le.mpr hmax

/-- The version arrives as the `i64` that was sent. -/
theorem sent_version (depth : Nat) (version : Int) :
    versionFromJson (versionToJson version) = some (Int64.ofInt version).toInt ∧
      (versionToJson version).Fits depth := by
  have hlow := (Int64.ofInt version).le_toInt
  have hhigh := (Int64.ofInt version).toInt_lt
  refine ⟨if_pos ⟨hlow, hhigh⟩, .num _ hlow (Int.lt_trans hhigh (by decide))⟩

theorem sent_action (depth : Nat) (action : RuleAction) :
    Sent actionToJson actionFromJson depth action :=
  sent_text (by cases action <;> rfl) depth

theorem sent_protocol (depth : Nat) (protocol : L4Protocol) :
    Sent protocolToJson protocolFromJson depth protocol :=
  sent_text (by cases protocol <;> rfl) depth

theorem sent_format (depth : Nat) (format : ThreatFormat) :
    Sent formatToJson formatFromJson depth format :=
  sent_text (by cases format <;> rfl) depth

theorem sent_port (depth : Nat) (port : Option U16) : Sent portToJson portFromJson depth port :=
  Sent.optional (fun _ _ => sent_bits depth (by decide) _) nofun

theorem sent_limit (depth : Nat) (limit : Option U32) :
    Sent limitToJson limitFromJson depth limit :=
  Sent.optional (fun _ _ => sent_bits depth (by decide) _) nofun

theorem sent_comment (depth : Nat) (comment : Option String) :
    Sent commentToJson commentFromJson depth comment :=
  Sent.optional (fun _ _ => sent_str depth _) nofun

theorem sent_cidr (htexts : texts.Faithful) (depth : Nat) (net : IpNet) :
    Sent (cidrToJson texts) (cidrFromJson texts) depth net :=
  sent_text (htexts.ipNet net) depth

theorem sent_addr (htexts : texts.Faithful) (depth : Nat) (addr : IpAddr) :
    Sent (addrToJson texts) (addrFromJson texts) depth addr :=
  sent_text (htexts.ipAddr addr) depth

theorem sent_time (htexts : texts.Faithful) (depth : Nat) {t : Int} (hmin : minNaiveDateTime ≤ t)
    (hmax : t ≤ maxNaiveDateTime) : Sent (timeToJson texts) (timeFromJson texts) depth t :=
  sent_text (htexts.naiveDateTime t hmin hmax) depth

theorem sent_firewallRule (htexts : texts.Faithful) (rule : FirewallRule) :
    Sent (firewallRuleToJson texts) (firewallRuleFromJson texts) 1 rule := by
  obtain ⟨hpriority, fitsPriority⟩ := sent_int32 0 rule.priority
  obtain ⟨haction, fitsAction⟩ := sent_action 0 rule.action
  obtain ⟨hcidr, fitsCidr⟩ := sent_cidr htexts 0 rule.cidr
  obtain ⟨hprotocol, fitsProtocol⟩ := sent_protocol 0 rule.protocol
  obtain ⟨hport, fitsPort⟩ := sent_port 0 rule.port
  obtain ⟨hcomment, fitsComment⟩ := sent_comment 0 rule.comment
  constructor
  · simp [firewallRuleFromJson, firewallRuleToJson, readFields, field, hpriority, haction, hcidr,
      hprotocol, hport, hcomment]
  · exact .obj (by simp [fitsPriority, fitsAction, fitsCidr, fitsProtocol, fitsPort, fitsComment])

theorem sent_geoCountry (policy : GeoCountryPolicy) :
    Sent geoCountryToJson geoCountryFromJson 1 policy := by
  obtain ⟨hcountry, fitsCountry⟩ := sent_str 0 policy.country
  obtain ⟨haction, fitsAction⟩ := sent_action 0 policy.action
  constructor
  · simp [geoCountryFromJson, geoCountryToJson, readFields, field, hcountry, haction]
  · exact .obj (by simp [fitsCountry, fitsAction])

theorem sent_geoIpPrefix (htexts : texts.Faithful) (block : GeoIpPrefixPolicy) :
    Sent (geoIpPrefixToJson texts) (geoIpPrefixFromJson texts) 1 block := by
  obtain ⟨hcidr, fitsCidr⟩ := sent_cidr htexts 0 block.cidr
  obtain ⟨hcountry, fitsCountry⟩ := sent_str 0 block.country
  constructor
  · simp [geoIpPrefixFromJson, geoIpPrefixToJson, readFields, field, hcidr, hcountry]
  · exact .obj (by simp [fitsCidr, fitsCountry])

theorem sent_dynamicDefense (policy : DynamicDefensePolicy) :
    Sent dynamicDefenseToJson dynamicDefenseFromJson 1 policy := by
  obtain ⟨henabled, fitsEnabled⟩ := sent_bool 0 policy.enabled
  obtain ⟨hipEnabled, fitsIpEnabled⟩ := sent_bool 0 policy.ipRateLimitEnabled
  obtain ⟨hipPackets, fitsIpPackets⟩ := sent_limit 0 policy.ipPacketsPerSecond
  obtain ⟨hipBurst, fitsIpBurst⟩ := sent_limit 0 policy.ipBurst
  obtain ⟨hfloodEnabled, fitsFloodEnabled⟩ := sent_bool 0 policy.floodEnabled
  obtain ⟨hfloodPackets, fitsFloodPackets⟩ := sent_limit 0 policy.floodPacketsPerSecond
  obtain ⟨hfloodBurst, fitsFloodBurst⟩ := sent_limit 0 policy.floodBurst
  obtain ⟨hfloodBlock, fitsFloodBlock⟩ := sent_limit 0 policy.floodBlockSeconds
  constructor
  · simp [dynamicDefenseFromJson, dynamicDefenseToJson, readFields, field, henabled, hipEnabled,
      hipPackets, hipBurst, hfloodEnabled, hfloodPackets, hfloodBurst, hfloodBlock]
  · exact .obj (by simp [fitsEnabled, fitsIpEnabled, fitsIpPackets, fitsIpBurst, fitsFloodEnabled,
      fitsFloodPackets, fitsFloodBurst, fitsFloodBlock])

theorem sent_dynamicRateLimit (limit : DynamicRateLimitPolicy) :
    Sent dynamicRateLimitToJson dynamicRateLimitFromJson 1 limit := by
  obtain ⟨hpriority, fitsPriority⟩ := sent_int32 0 limit.priority
  obtain ⟨hprotocol, fitsProtocol⟩ := sent_protocol 0 limit.protocol
  obtain ⟨hport, fitsPort⟩ := sent_port 0 limit.port
  obtain ⟨hpackets, fitsPackets⟩ := sent_bits 0 (by decide) limit.packetsPerSecond
  obtain ⟨hburst, fitsBurst⟩ := sent_bits 0 (by decide) limit.burst
  obtain ⟨hcomment, fitsComment⟩ := sent_comment 0 limit.comment
  constructor
  · simp [dynamicRateLimitFromJson, dynamicRateLimitToJson, readFields, field, hpriority, hprotocol,
      hport, hpackets, hburst, hcomment]
  · exact .obj (by simp [fitsPriority, fitsProtocol, fitsPort, fitsPackets, fitsBurst, fitsComment])

/-- A ban that ends at a point in time that can be expressed. -/
theorem sent_tempBan (htexts : texts.Faithful) (ban : TempBanPolicy)
    (hmin : minNaiveDateTime ≤ ban.expiresAt) (hmax : ban.expiresAt ≤ maxNaiveDateTime) :
    Sent (tempBanToJson texts) (tempBanFromJson texts) 1 ban := by
  obtain ⟨hcidr, fitsCidr⟩ := sent_cidr htexts 0 ban.cidr
  obtain ⟨hprotocol, fitsProtocol⟩ := sent_protocol 0 ban.protocol
  obtain ⟨hport, fitsPort⟩ := sent_port 0 ban.port
  obtain ⟨htime, fitsTime⟩ := sent_time htexts 0 hmin hmax
  obtain ⟨hcomment, fitsComment⟩ := sent_comment 0 ban.comment
  constructor
  · simp [tempBanFromJson, tempBanToJson, readFields, field, hcidr, hprotocol, hport, htime,
      hcomment]
  · exact .obj (by simp [fitsCidr, fitsProtocol, fitsPort, fitsTime, fitsComment])

theorem sent_trustedCidr (htexts : texts.Faithful) (trusted : TrustedCidrPolicy) :
    Sent (trustedCidrToJson texts) (trustedCidrFromJson texts) 1 trusted := by
  obtain ⟨hcidr, fitsCidr⟩ := sent_cidr htexts 0 trusted.cidr
  obtain ⟨hcomment, fitsComment⟩ := sent_comment 0 trusted.comment
  constructor
  · simp [trustedCidrFromJson, trustedCidrToJson, readFields, field, hcidr, hcomment]
  · exact .obj (by simp [fitsCidr, fitsComment])

theorem sent_threatSource (source : ThreatSource) :
    Sent threatSourceToJson threatSourceFromJson 1 source := by
  obtain ⟨hname, fitsName⟩ := sent_str 0 source.name
  obtain ⟨hurl, fitsUrl⟩ := sent_str 0 source.url
  obtain ⟨hformat, fitsFormat⟩ := sent_format 0 source.format
  obtain ⟨hscore, fitsScore⟩ := sent_limit 0 source.minScore
  constructor
  · simp [threatSourceFromJson, threatSourceToJson, readFields, field, hname, hurl, hformat, hscore]
  · exact .obj (by simp [fitsName, fitsUrl, fitsFormat, fitsScore])

theorem sent_threatPrefix (htexts : texts.Faithful) (threat : ThreatPrefix) :
    Sent (threatPrefixToJson texts) (threatPrefixFromJson texts) 1 threat := by
  obtain ⟨haddr, fitsAddr⟩ := sent_addr htexts 0 threat.addr
  obtain ⟨hlen, fitsLen⟩ := sent_bits 0 (by decide) (BitVec.ofNat 8 threat.prefixLen)
  have htoNat : (BitVec.ofNat 8 threat.prefixLen).toNat = threat.prefixLen := by
    obtain ⟨net, -, -, -, hnet⟩ := threat.exists_ipNet
    rw [BitVec.toNat_ofNat]
    refine Nat.mod_eq_of_lt ?_
    cases net with
    | v4 net =>
        have hle : net.prefixLen ≤ 32 := net.prefixLen_le
        change net.prefixLen = _ at hnet
        omega
    | v6 net =>
        have hle : net.prefixLen ≤ 128 := net.prefixLen_le
        change net.prefixLen = _ at hnet
        omega
  constructor
  · simp [threatPrefixFromJson, threatPrefixToJson, readFields, field, haddr, hlen, htoNat,
      threat.isNetwork]
  · exact .obj (by simp [fitsAddr, fitsLen])

/-- Bans end at points in time that can be expressed. -/
def TimelyBans (bans : List TempBanPolicy) : Prop :=
  ∀ ban ∈ bans, minNaiveDateTime ≤ ban.expiresAt ∧ ban.expiresAt ≤ maxNaiveDateTime

/-- An agent reads the snapshot that was sent, with the version as an `i64`. -/
theorem policyFromJson_policyJson (htexts : texts.Faithful) {snapshot : PolicySnapshot}
    (hbans : TimelyBans snapshot.tempBans) :
    policyFromJson texts (policyJson texts snapshot) =
      some { snapshot with version := (Int64.ofInt snapshot.version).toInt } := by
  obtain ⟨hversion, fitsVersion⟩ := sent_version 2 snapshot.version
  obtain ⟨hrules, fitsRules⟩ := Sent.list fun rule (_ : rule ∈ snapshot.rules) =>
    sent_firewallRule htexts rule
  obtain ⟨hcountries, fitsCountries⟩ := Sent.list fun policy (_ : policy ∈ snapshot.geoCountries) =>
    sent_geoCountry policy
  obtain ⟨hblocks, fitsBlocks⟩ := Sent.list fun block (_ : block ∈ snapshot.geoPrefixes) =>
    sent_geoIpPrefix htexts block
  obtain ⟨htempBans, fitsBans⟩ := Sent.list fun ban (hban : ban ∈ snapshot.tempBans) =>
    sent_tempBan htexts ban (hbans ban hban).1 (hbans ban hban).2
  obtain ⟨hdefense, fitsDefense⟩ := sent_dynamicDefense snapshot.dynamicDefense
  obtain ⟨hlimits, fitsLimits⟩ := Sent.list fun limit (_ : limit ∈ snapshot.dynamicRateLimits) =>
    sent_dynamicRateLimit limit
  obtain ⟨htrusted, fitsTrusted⟩ := Sent.list fun trusted (_ : trusted ∈ snapshot.trustedCidrs) =>
    sent_trustedCidr htexts trusted
  obtain ⟨hsources, fitsSources⟩ := Sent.list fun source (_ : source ∈ snapshot.threatSources) =>
    sent_threatSource source
  obtain ⟨hthreats, fitsThreats⟩ := Sent.list fun threat (_ : threat ∈ snapshot.threatPrefixes) =>
    sent_threatPrefix htexts threat
  have hfits : (policySnapshotToJson texts snapshot).Fits 3 :=
    .obj (by simp [fitsVersion, fitsRules, fitsCountries, fitsBlocks, fitsBans,
      fitsDefense.mono (Nat.le_succ 1), fitsLimits, fitsTrusted, fitsSources, fitsThreats])
  rw [policyFromJson, policyJson, htexts.json _ (hfits.mono (by decide)), Option.bind_some]
  simp [policySnapshotFromJson, policySnapshotToJson, readFields, field, hversion, hrules,
    hcountries, hblocks, htempBans, hdefense, hlimits, htrusted, hsources, hthreats]

end Sent

end ControlPlane
end XdpFirewall
