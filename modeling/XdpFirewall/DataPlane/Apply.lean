import XdpFirewall.DataPlane.Pending

/-!
# Apply — writing a compiled policy to the kernel maps

An apply checks the sizes, writes the pending entries map by map and then removes the keys that
are not pending. It stops at the first error and leaves the maps as they are at that moment.
-/

namespace XdpFirewall
namespace DataPlane

open Net Policy Lib

/-! ## Values -/

def boolCode (b : Bool) : U8 :=
  if b then 1 else 0

def defenseValue (policy : XdpDynamicDefense) : DefenseValue where
  enabled := boolCode policy.enabled
  ipRateLimitEnabled := boolCode policy.ipRateLimitEnabled
  floodEnabled := boolCode policy.floodEnabled
  pad := 0
  ipPacketsPerSecond := policy.ipPacketsPerSecond
  ipBurst := policy.ipBurst
  floodPacketsPerSecond := policy.floodPacketsPerSecond
  floodBurst := policy.floodBurst
  floodBlockNs := policy.floodBlockSeconds.setWidth 64 * 1000000000

def ruleValue (rule : XdpPrefixRule) : RuleValue where
  action := actionCode rule.action
  source := ruleSourceCode rule.source
  pad := Vector.replicate 2 0
  priority := rule.priority

def customRateValue (limit : XdpDynamicRateLimit) : CustomRateValue where
  packetsPerSecond := limit.packetsPerSecond
  burst := limit.burst

/-- `num_nanoseconds` of a duration: absent when it does not fit a signed 64-bit number. -/
def numNanoseconds (duration : Int) : Option Int :=
  if -2 ^ 63 ≤ duration ∧ duration < 2 ^ 63 then some duration else none

def tempBanValue (ban : XdpTempBan) (wallNow : Int) (monotonicNow : U64) :
    Except ApplyError (Option TempBanValue) :=
  match numNanoseconds (ban.expiresAt - wallNow) with
  | none => .ok none
  | some remaining =>
      if remaining ≤ 0 then
        .ok none
      else if monotonicNow.toNat + remaining.toNat < 2 ^ 64 then
        .ok (some { expiresAtNs := monotonicNow + BitVec.ofNat 64 remaining.toNat })
      else
        .error .expirationOverflow

def geoValue (geo : XdpGeoPrefix) : GeoValue where
  country := geo.country

def countryValue (country : XdpCountryRule) : CountryValue where
  action := actionCode country.action

def trustedValue : TrustedValue where
  value := 1

/-! ## Environment -/

/-- What the operating system answers during one apply: the wall clock, the monotonic clock in
seconds and nanoseconds, and the manager a new attach with other map sizes gives. -/
structure ApplyEnv where
  wallNow : Int
  clockGettime : Option (Int × Int)
  attach : LinuxXdpManager → XdpMapSizes → Except String LinuxXdpManager

def monotonicNowNs (env : ApplyEnv) : Except ApplyError U64 :=
  match env.clockGettime with
  | none => .error (.clock "failed to read CLOCK_MONOTONIC")
  | some (seconds, nanos) =>
      if seconds < 0 then
        .error (.clock "CLOCK_MONOTONIC seconds are negative")
      else if nanos < 0 then
        .error (.clock "CLOCK_MONOTONIC nanos are negative")
      else if seconds.toNat * 1000000000 + nanos.toNat < 2 ^ 64 then
        .ok (BitVec.ofNat 64 (seconds.toNat * 1000000000 + nanos.toNat))
      else
        .error (.clock "CLOCK_MONOTONIC value overflowed")

/-! ## Writing -/

abbrev Apply := EStateM ApplyError LinuxXdpManager

def putDynamicDefense (policy : XdpDynamicDefense) : Apply Unit :=
  modify fun m => { m with maps.defensePolicy := defenseValue policy }

def putRuleKey (sizes : XdpMapSizes) (key : RuleKey) (rule : XdpPrefixRule) : Apply Unit :=
  focus LinuxXdpManager.ruleCidrs
    (KeyedStore.put (.mapFull "rule_cidrs") sizes.ruleEntries key (ruleValue rule))

def putGeoKey (sizes : XdpMapSizes) (key : GeoKey) (geo : XdpGeoPrefix) : Apply Unit :=
  focus LinuxXdpManager.geoCidrs
    (KeyedStore.put (.mapFull "geo_cidrs") sizes.geoEntries key (geoValue geo))

def putTrustedKey (sizes : XdpMapSizes) (key : TrustedKey) : Apply Unit :=
  focus LinuxXdpManager.trustedCidrs
    (KeyedStore.put (.mapFull "trusted_cidrs") sizes.trustedEntries key trustedValue)

def putCountryKey (sizes : XdpMapSizes) (key : U32) (country : XdpCountryRule) : Apply Unit :=
  focus LinuxXdpManager.countryRules
    (KeyedStore.put (.mapFull "country_rules") sizes.countryEntries key (countryValue country))

def putCustomRateKey (sizes : XdpMapSizes) (key : CustomRateKey) (limit : XdpDynamicRateLimit) :
    Apply Unit :=
  focus LinuxXdpManager.customRateLimits
    (KeyedStore.put (.mapFull "custom_rate_limits") sizes.customRateLimitEntries key
      (customRateValue limit))

def putTempBanKey (sizes : XdpMapSizes) (key : TempBanKey) (ban : XdpTempBan) (wallNow : Int)
    (monotonicNow : U64) : Apply Unit :=
  match tempBanValue ban wallNow monotonicNow with
  | .error e => throw e
  | .ok none => pure ()
  | .ok (some value) =>
      focus LinuxXdpManager.tempBans
        (KeyedStore.put (.mapFull "temp_bans") sizes.tempBanEntries key value)

/-! ## Removing what is stale -/

def removeStaleRuleKeys (ids : Finset RuleId) : Apply Unit :=
  focus LinuxXdpManager.ruleCidrs
    (KeyedStore.sweep (.keyNotFound "rule_cidrs") fun key => ruleKeyId key ∈ ids)

def removeStaleGeoKeys (ids : Finset GeoId) : Apply Unit :=
  focus LinuxXdpManager.geoCidrs
    (KeyedStore.sweep (.keyNotFound "geo_cidrs") fun key => geoKeyId key ∈ ids)

def removeStaleTrustedKeys (ids : Finset TrustedId) : Apply Unit :=
  focus LinuxXdpManager.trustedCidrs
    (KeyedStore.sweep (.keyNotFound "trusted_cidrs") fun key => trustedKeyId key ∈ ids)

def removeStaleCountryKeys (ids : Finset U32) : Apply Unit :=
  focus LinuxXdpManager.countryRules
    (KeyedStore.sweep (.keyNotFound "country_rules") fun key => key ∈ ids)

def removeStaleCustomRateKeys (ids : Finset CustomRateId) : Apply Unit :=
  focus LinuxXdpManager.customRateLimits
    (KeyedStore.sweep (.keyNotFound "custom_rate_limits") fun key => customRateKeyId key ∈ ids)

def removeStaleTempBanKeys (ids : Finset TempBanId) : Apply Unit :=
  focus LinuxXdpManager.tempBans
    (KeyedStore.sweep (.keyNotFound "temp_bans") fun key => tempBanKeyId key ∈ ids)

def removeStalePolicyKeys (pending : PendingPolicyKeys) : Apply Unit := do
  removeStaleRuleKeys pending.rules.ids
  removeStaleGeoKeys pending.geoPrefixes.ids
  removeStaleTrustedKeys pending.trustedKeys.ids
  removeStaleCountryKeys pending.countryRules.ids
  removeStaleCustomRateKeys pending.customRateLimits.ids
  removeStaleTempBanKeys pending.tempBans.ids

/-! ## Apply -/

def requiredPolicyMapSizes (m : LinuxXdpManager) (policy : CompiledPolicy) :
    Except ApplyError XdpMapSizes := do
  let ruleEntries := policy.rules.length + policy.threatPrefixes.length
  if 2 ^ 64 ≤ ruleEntries then
    throw .ruleEntryCount
  let countryEntries := (policy.countryRules.map fun country => country.country).toFinset.card
  return {
    ruleEntries := ← usizeToU32 "rule_cidrs" ruleEntries
    geoEntries := ← usizeToU32 "geo_cidrs" policy.geoPrefixes.length
    trustedEntries :=
      ← usizeToU32 "trusted_cidrs" (compactTrustedPrefixes policy.trustedPrefixes).length
    countryEntries := ← usizeToU32 "country_rules" countryEntries
    rateEntries := m.mapSizes.rateEntries
    customRateLimitEntries :=
      ← usizeToU32 "custom_rate_limits" policy.dynamicRateLimits.length
    tempBanEntries := ← usizeToU32 "temp_bans" (compactTempBans policy.tempBans).length }

/-- The loops of `apply_to_current_maps`, over the keys that are pending. -/
def writePending (sizes : XdpMapSizes) (pending : PendingPolicyKeys) (wallNow : Int)
    (monotonicNow : U64) : Apply Unit := do
  forM pending.tempBans.items fun item =>
    putTempBanKey sizes item.1 item.2 wallNow monotonicNow
  forM pending.customRateLimits.items fun item => putCustomRateKey sizes item.1 item.2
  forM pending.trustedKeys.items fun key => putTrustedKey sizes key
  forM pending.rules.items fun item => putRuleKey sizes item.1 item.2
  forM pending.geoPrefixes.items fun item => putGeoKey sizes item.1 item.2
  forM pending.countryRules.items fun item => putCountryKey sizes item.1 item.2
  removeStalePolicyKeys pending

def applyToCurrentMaps (env : ApplyEnv) (policy : CompiledPolicy) : Apply Unit := do
  let m ← get
  let required ← ofExcept (requiredPolicyMapSizes m policy)
  ofExcept (validateMapCapacity required m.mapSizes)
  putDynamicDefense policy.dynamicDefense
  let monotonicNow ← ofExcept (monotonicNowNs env)
  let pending := buildPendingPolicyKeys m.localInterfaceCidrs policy env.wallNow
  writePending m.mapSizes pending env.wallNow monotonicNow

def resizeMaps (env : ApplyEnv) (resized : XdpMapSizes) : Apply Unit := do
  let m ← get
  match env.attach m resized with
  | .ok replacement => set replacement
  | .error reason => throw (.attach reason)

/-- The first half of `apply`: replace the maps when the policy needs larger ones. -/
def growMaps (env : ApplyEnv) (policy : CompiledPolicy) : Apply Unit := do
  let m ← get
  let required ← ofExcept (requiredPolicyMapSizes m policy)
  match ← ofExcept (resizedMapSizes m.mapSizes required) with
  | some resized => do
      if !m.autoResizeMaps then
        ofExcept (validateMapCapacity required m.mapSizes)
      resizeMaps env resized
  | none => pure ()

def apply (env : ApplyEnv) (policy : CompiledPolicy) : Apply Unit := do
  growMaps env policy
  applyToCurrentMaps env policy

end DataPlane
end XdpFirewall
