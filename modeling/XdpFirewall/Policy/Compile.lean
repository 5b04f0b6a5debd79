import XdpFirewall.Policy.Model

/-!
# Policy compiler — from a snapshot to the policy of the data plane

The compiler validates the numeric limits, drops host bits of every CIDR and forgets the
temporary bans that have expired. Threat prefixes become deny rules of the lowest priority
number, without protocol and port.
-/

namespace XdpFirewall
namespace Policy

open Net

/-! ## Validation -/

/-- `require_positive_dynamic_value` -/
def requirePositiveDynamicValue (name : String) (value : Option U32) : Except String Unit :=
  match value with
  | some value =>
      if 0 < value then
        .ok ()
      else
        .error (name ++ " must be greater than 0 when dynamic defense is enabled")
  | none => .error (name ++ " must be set when dynamic defense is enabled")

def validateDynamicDefensePolicy (policy : DynamicDefensePolicy) : Except String Unit := do
  if !policy.enabled then
    return ()
  if policy.ipRateLimitEnabled then
    requirePositiveDynamicValue "dynamic defense ip packets_per_second" policy.ipPacketsPerSecond
    requirePositiveDynamicValue "dynamic defense ip burst" policy.ipBurst
  if policy.floodEnabled then
    requirePositiveDynamicValue "dynamic defense flood packets_per_second"
      policy.floodPacketsPerSecond
    requirePositiveDynamicValue "dynamic defense flood burst" policy.floodBurst
    requirePositiveDynamicValue "dynamic defense flood block seconds" policy.floodBlockSeconds

theorem validateDynamicDefensePolicy_default :
    validateDynamicDefensePolicy DynamicDefensePolicy.default = .ok () := rfl

def validateDynamicRateLimitPolicy (policy : DynamicRateLimitPolicy) : Except String Unit := do
  if policy.packetsPerSecond = 0 then
    throw "dynamic rate limit packets_per_second must be greater than 0"
  if policy.burst = 0 then
    throw "dynamic rate limit burst must be greater than 0"
  if policy.protocol = .icmp ∧ policy.port.isSome then
    throw "dynamic rate limit icmp cannot set a port"

def validatePolicy (snapshot : PolicySnapshot) : Except String Unit := do
  validateDynamicDefensePolicy snapshot.dynamicDefense
  forM snapshot.dynamicRateLimits validateDynamicRateLimitPolicy

/-! ## Country codes -/

/-- Code points with the Unicode property White_Space, which `str::trim` removes. -/
def isWhitespace (c : Char) : Bool :=
  let n := c.toNat
  (9 ≤ n && n ≤ 13) || n == 0x20 || n == 0x85 || n == 0xA0 || n == 0x1680 ||
    (0x2000 ≤ n && n ≤ 0x200A) || n == 0x2028 || n == 0x2029 || n == 0x202F || n == 0x205F ||
    n == 0x3000

def trim (value : List Char) : List Char :=
  ((value.dropWhile isWhitespace).reverse.dropWhile isWhitespace).reverse

/-- The two letters of a country code, in upper case. Two bytes that are ASCII letters are two
characters. -/
def normalizeCountry (value : String) : Except String (Char × Char) :=
  match trim value.toList with
  | [first, second] =>
      if first.isAlpha && second.isAlpha then
        .ok (first.toUpper, second.toUpper)
      else
        .error ("invalid ISO country code '" ++ String.ofList (trim value.toList) ++ "'")
  | code => .error ("invalid ISO country code '" ++ String.ofList code ++ "'")

/-- A text without upper-case letters is its own lower-case form. -/
theorem toLower_eq_self {value : String} (h : value.toList.map Char.toLower = value.toList) :
    value.toLower = value := by
  apply String.toList_injective
  change (value.map Char.toLower).toList = value.toList
  rw [String.toList_map, h]

theorem toUpper_ascii : ∀ n < 128, (Char.ofNat n).isAlpha →
    (Char.ofNat n).toUpper.isAlpha ∧ (Char.ofNat n).toUpper.toUpper = (Char.ofNat n).toUpper ∧
      isWhitespace (Char.ofNat n).toUpper = false := by
  decide

theorem toNat_lt_of_isAlpha {c : Char} (h : c.isAlpha) : c.toNat < 128 := by
  have hA : 'Z'.val.toNat = 90 := rfl
  have ha : 'z'.val.toNat = 122 := rfl
  change (decide ('A'.val ≤ c.val ∧ c.val ≤ 'Z'.val) ||
    (decide ('a'.val ≤ c.val) && decide (c.val ≤ 'z'.val))) = true at h
  simp only [Bool.or_eq_true, decide_eq_true_eq, Bool.and_eq_true, UInt32.le_iff_toNat_le] at h
  rw [Char.toNat]
  omega

theorem toUpper_of_isAlpha {c : Char} (h : c.isAlpha) :
    c.toUpper.isAlpha ∧ c.toUpper.toUpper = c.toUpper ∧ isWhitespace c.toUpper = false := by
  simpa using toUpper_ascii c.toNat (toNat_lt_of_isAlpha h) (by simpa using h)

/-- A normalized code normalizes to itself. -/
theorem normalizeCountry_idempotent {value : String} {first second : Char}
    (h : normalizeCountry value = .ok (first, second)) :
    normalizeCountry (String.ofList [first, second]) = .ok (first, second) := by
  unfold normalizeCountry at h
  split at h
  · split at h
    · rename_i halpha
      cases h
      rw [Bool.and_eq_true] at halpha
      obtain ⟨ha, hau, haw⟩ := toUpper_of_isAlpha halpha.1
      obtain ⟨hb, hbu, hbw⟩ := toUpper_of_isAlpha halpha.2
      simp [normalizeCountry, trim, haw, hbw, ha, hb, hau, hbu]
    · cases h
  · cases h

def encodeCountry (value : String) : Except String U16 := do
  let (first, second) ← normalizeCountry value
  return BitVec.ofNat 16 first.toNat <<< 8 ||| BitVec.ofNat 16 second.toNat

theorem isAlpha_of_normalizeCountry {value : String} {first second : Char}
    (h : normalizeCountry value = .ok (first, second)) : first.isAlpha ∧ second.isAlpha := by
  unfold normalizeCountry at h
  split at h
  · split at h
    · rename_i halpha
      cases h
      rw [Bool.and_eq_true] at halpha
      exact ⟨(toUpper_of_isAlpha halpha.1).1, (toUpper_of_isAlpha halpha.2).1⟩
    · cases h
  · cases h

theorem toNat_countryCode {first second : Nat} (hfirst : first < 128) (hsecond : second < 128) :
    (BitVec.ofNat 16 first <<< 8 ||| BitVec.ofNat 16 second).toNat = first * 256 + second := by
  have hshift : first <<< 8 = first * 256 := Nat.shiftLeft_eq first 8
  have hor : first <<< 8 ||| second = first <<< 8 + second :=
    (Nat.shiftLeft_add_eq_or_of_lt (by omega) first).symm
  rw [BitVec.toNat_or, BitVec.toNat_shiftLeft, BitVec.toNat_ofNat, BitVec.toNat_ofNat,
    Nat.mod_eq_of_lt (by omega : first < 2 ^ 16), Nat.mod_eq_of_lt (by omega : second < 2 ^ 16),
    Nat.mod_eq_of_lt (by omega : first <<< 8 < 2 ^ 16), hor, hshift]

/-- Normalized codes are told apart by their numbers. -/
theorem encodeCountry_injective {a b : String} {pair pair' : Char × Char} {code : U16}
    (hpair : normalizeCountry a = .ok pair) (hpair' : normalizeCountry b = .ok pair')
    (ha : encodeCountry a = .ok code) (hb : encodeCountry b = .ok code) : pair = pair' := by
  obtain ⟨first, second⟩ := pair
  obtain ⟨first', second'⟩ := pair'
  have hcode : BitVec.ofNat 16 first.toNat <<< 8 ||| BitVec.ofNat 16 second.toNat =
      BitVec.ofNat 16 first'.toNat <<< 8 ||| BitVec.ofNat 16 second'.toNat := by
    rw [encodeCountry, hpair] at ha
    rw [encodeCountry, hpair'] at hb
    exact Except.ok.inj (ha.trans hb.symm)
  obtain ⟨hfirst, hsecond⟩ := isAlpha_of_normalizeCountry hpair
  obtain ⟨hfirst', hsecond'⟩ := isAlpha_of_normalizeCountry hpair'
  have hsecond := toNat_lt_of_isAlpha hsecond
  have hsecond' := toNat_lt_of_isAlpha hsecond'
  have hnumber := congrArg BitVec.toNat hcode
  rw [toNat_countryCode (toNat_lt_of_isAlpha hfirst) hsecond,
    toNat_countryCode (toNat_lt_of_isAlpha hfirst') hsecond'] at hnumber
  have heq : first.toNat = first'.toNat := by omega
  have heq' : second.toNat = second'.toNat := by omega
  rw [Char.ext (UInt32.toNat_inj.mp heq), Char.ext (UInt32.toNat_inj.mp heq')]

/-! ## Compilation -/

def compileTrustedPrefixes (trusted : List TrustedCidrPolicy) : List XdpTrustedPrefix :=
  trusted.map fun trusted => { toNetwork := trusted.cidr.toNetwork }

def compileFirewallRules (rules : List FirewallRule) : List XdpPrefixRule :=
  rules.map fun rule =>
    { toNetwork := rule.cidr.toNetwork
      priority := rule.priority
      action := rule.action
      protocol := rule.protocol
      port := rule.port.getD 0
      source := .firewallRule }

def compileThreatPrefixes (prefixes : List ThreatPrefix) : List XdpPrefixRule :=
  prefixes.map fun threat =>
    { toNetwork := threat.toNetwork
      priority := Int32.minValue
      action := .deny
      protocol := .any
      port := 0
      source := .threatIntel }

def compileCountryRules (policies : List GeoCountryPolicy) :
    Except String (List XdpCountryRule) :=
  policies.mapM fun policy => do
    return { country := ← encodeCountry policy.country, action := policy.action }

def compileGeoPrefixes (prefixes : List GeoIpPrefixPolicy) : Except String (List XdpGeoPrefix) :=
  prefixes.mapM fun geo => do
    return { toNetwork := geo.cidr.toNetwork, country := ← encodeCountry geo.country }

/-- `now` is the wall clock, which the source reads once for each ban. -/
def compileActiveTempBans (now : Int) (bans : List TempBanPolicy) : List XdpTempBan :=
  (bans.filter fun ban => now < ban.expiresAt).map fun ban =>
    { toNetwork := ban.cidr.toNetwork
      protocol := ban.protocol
      port := ban.port.getD 0
      expiresAt := ban.expiresAt }

def compileDynamicDefense (policy : DynamicDefensePolicy) : XdpDynamicDefense where
  enabled := policy.enabled
  ipRateLimitEnabled := policy.ipRateLimitEnabled
  ipPacketsPerSecond := policy.ipPacketsPerSecond.getD 0
  ipBurst := policy.ipBurst.getD 0
  floodEnabled := policy.floodEnabled
  floodPacketsPerSecond := policy.floodPacketsPerSecond.getD 0
  floodBurst := policy.floodBurst.getD 0
  floodBlockSeconds := policy.floodBlockSeconds.getD 0

def compileDynamicRateLimits (limits : List DynamicRateLimitPolicy) : List XdpDynamicRateLimit :=
  limits.map fun limit =>
    { protocol := limit.protocol
      port := limit.port.getD 0
      packetsPerSecond := limit.packetsPerSecond
      burst := limit.burst }

def compilePolicy (now : Int) (snapshot : PolicySnapshot) :
    Except String CompiledPolicy := do
  validatePolicy snapshot
  let countryRules ← compileCountryRules snapshot.geoCountries
  let geoPrefixes ← compileGeoPrefixes snapshot.geoPrefixes
  return {
    version := snapshot.version
    trustedPrefixes := compileTrustedPrefixes snapshot.trustedCidrs
    rules := compileFirewallRules snapshot.rules
    countryRules := countryRules
    tempBans := compileActiveTempBans now snapshot.tempBans
    dynamicDefense := compileDynamicDefense snapshot.dynamicDefense
    dynamicRateLimits := compileDynamicRateLimits snapshot.dynamicRateLimits
    geoPrefixes := geoPrefixes
    threatPrefixes := compileThreatPrefixes snapshot.threatPrefixes }

/-! ## What the data plane may rely on -/

/-- The rules of a compiled policy: threat prefixes first, with the values the compiler gives
them, and firewall rules marked as such. -/
structure CompiledRules (policy : CompiledPolicy) : Prop where
  firewall : ∀ rule ∈ policy.rules, rule.source = .firewallRule
  threat : ∀ rule ∈ policy.threatPrefixes,
    rule.source = .threatIntel ∧ rule.priority = Int32.minValue ∧ rule.action = .deny ∧
      rule.protocol = .any ∧ rule.port = 0

theorem compilePolicy_ok {now : Int} {snapshot : PolicySnapshot}
    {policy : CompiledPolicy} (h : compilePolicy now snapshot = .ok policy) :
    validatePolicy snapshot = .ok () ∧
      ∃ countryRules geoPrefixes,
        compileCountryRules snapshot.geoCountries = .ok countryRules ∧
        compileGeoPrefixes snapshot.geoPrefixes = .ok geoPrefixes ∧
        policy =
          { version := snapshot.version
            trustedPrefixes := compileTrustedPrefixes snapshot.trustedCidrs
            rules := compileFirewallRules snapshot.rules
            countryRules := countryRules
            tempBans := compileActiveTempBans now snapshot.tempBans
            dynamicDefense := compileDynamicDefense snapshot.dynamicDefense
            dynamicRateLimits := compileDynamicRateLimits snapshot.dynamicRateLimits
            geoPrefixes := geoPrefixes
            threatPrefixes := compileThreatPrefixes snapshot.threatPrefixes } := by
  unfold compilePolicy at h
  cases hvalid : validatePolicy snapshot with
  | error e =>
      simp [hvalid, bind, Except.bind] at h
  | ok u =>
      cases hcountry : compileCountryRules snapshot.geoCountries with
      | error e =>
          simp [hvalid, hcountry, bind, Except.bind] at h
      | ok countryRules =>
          cases hgeo : compileGeoPrefixes snapshot.geoPrefixes with
          | error e =>
              simp [hvalid, hcountry, hgeo, bind, Except.bind] at h
          | ok geoPrefixes =>
              refine ⟨rfl, countryRules, geoPrefixes, rfl, rfl, ?_⟩
              simp only [hvalid, hcountry, hgeo, bind, Except.bind, pure, Except.pure,
                Except.ok.injEq] at h
              exact h.symm

theorem compilePolicy_of_valid (now : Int) {snapshot : PolicySnapshot}
    {countryRules : List XdpCountryRule} {geoPrefixes : List XdpGeoPrefix}
    (hvalid : validatePolicy snapshot = .ok ())
    (hcountry : compileCountryRules snapshot.geoCountries = .ok countryRules)
    (hgeo : compileGeoPrefixes snapshot.geoPrefixes = .ok geoPrefixes) :
    compilePolicy now snapshot = .ok
      { version := snapshot.version
        trustedPrefixes := compileTrustedPrefixes snapshot.trustedCidrs
        rules := compileFirewallRules snapshot.rules
        countryRules := countryRules
        tempBans := compileActiveTempBans now snapshot.tempBans
        dynamicDefense := compileDynamicDefense snapshot.dynamicDefense
        dynamicRateLimits := compileDynamicRateLimits snapshot.dynamicRateLimits
        geoPrefixes := geoPrefixes
        threatPrefixes := compileThreatPrefixes snapshot.threatPrefixes } := by
  rw [compilePolicy, hvalid, hcountry, hgeo]
  rfl

theorem compilePolicy_rules {now : Int} {snapshot : PolicySnapshot}
    {policy : CompiledPolicy} (h : compilePolicy now snapshot = .ok policy) :
    CompiledRules policy := by
  obtain ⟨-, countryRules, geoPrefixes, -, -, rfl⟩ := compilePolicy_ok h
  constructor
  · intro rule hrule
    obtain ⟨source, -, rfl⟩ := List.mem_map.mp hrule
    rfl
  · intro rule hrule
    obtain ⟨threat, -, rfl⟩ := List.mem_map.mp hrule
    exact ⟨rfl, rfl, rfl, rfl, rfl⟩

end Policy
end XdpFirewall
