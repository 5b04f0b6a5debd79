import XdpFirewall.Api.Writes
import XdpFirewall.Lib.Traverse

/-!
# Stored rows — what is stored for a request can be read again

The normalizers of the API and the parsers of the loaders are two definitions of a legal value.
Whatever a normalizer gives, the parser of its column accepts.
-/

namespace XdpFirewall
namespace Api

open Lib Policy ControlPlane

/-! ## Columns -/

theorem parseAction_of_normalize {value action : String} (h : normalizeAction value = .ok action) :
    ∃ parsed, parseAction action = .ok parsed := by
  have hallow : parseAction "allow" = .ok .allow := by
    rw [parseAction, toLower_eq_self (by decide)]
    rfl
  have hdeny : parseAction "deny" = .ok .deny := by
    rw [parseAction, toLower_eq_self (by decide)]
    rfl
  rw [normalizeAction] at h
  split at h
  · cases h
    exact ⟨_, hallow⟩
  · cases h
    exact ⟨_, hdeny⟩
  · cases h
    exact ⟨_, hdeny⟩
  · cases h

/-- Only the name of the protocol without ports is read as that protocol. -/
theorem parseProtocol_of_normalize {value protocol : String}
    (h : normalizeProtocol value = .ok protocol) :
    ∃ parsed, parseProtocol protocol = .ok parsed ∧ (parsed = .icmp → protocol = "icmp") := by
  have hany : parseProtocol "any" = .ok .any := by
    rw [parseProtocol, toLower_eq_self (by decide)]
    rfl
  have htcp : parseProtocol "tcp" = .ok .tcp := by
    rw [parseProtocol, toLower_eq_self (by decide)]
    rfl
  have hudp : parseProtocol "udp" = .ok .udp := by
    rw [parseProtocol, toLower_eq_self (by decide)]
    rfl
  have hicmp : parseProtocol "icmp" = .ok .icmp := by
    rw [parseProtocol, toLower_eq_self (by decide)]
    rfl
  rw [normalizeProtocol] at h
  split at h
  · cases h
    exact ⟨_, hany, nofun⟩
  · cases h
    exact ⟨_, htcp, nofun⟩
  · cases h
    exact ⟨_, hudp, nofun⟩
  · cases h
    exact ⟨_, hicmp, fun _ => rfl⟩
  · cases h

theorem parseFormat_of_normalize {value format : String}
    (h : normalizeThreatFormat value = .ok format) : ∃ parsed, parseFormat format = .ok parsed := by
  have hcidr : parseFormat "cidr" = .ok .cidr := by
    rw [parseFormat, toLower_eq_self (by decide)]
    rfl
  have hips : parseFormat "ips" = .ok .ips := by
    rw [parseFormat, toLower_eq_self (by decide)]
    rfl
  have hipsum : parseFormat "ipsum" = .ok .ipsum := by
    rw [parseFormat, toLower_eq_self (by decide)]
    rfl
  have hvoipbl : parseFormat "voipbl" = .ok .voipbl := by
    rw [parseFormat, toLower_eq_self (by decide)]
    rfl
  have hdrop : parseFormat "spamhaus_drop" = .ok .spamhausDrop := by
    rw [parseFormat, toLower_eq_self (by decide)]
    rfl
  rw [normalizeThreatFormat] at h
  split at h <;> cases h
  · exact ⟨_, hcidr⟩
  · exact ⟨_, hips⟩
  · exact ⟨_, hipsum⟩
  · exact ⟨_, hvoipbl⟩
  · exact ⟨_, hvoipbl⟩
  · exact ⟨_, hvoipbl⟩
  · exact ⟨_, hdrop⟩
  · exact ⟨_, hdrop⟩

/-- A port that was let through is one, and the protocol without ports has none. -/
theorem parseOptionalPort_of_valid {icmpError protocol : String} {port valid : Option Int32}
    (h : validatePortFor icmpError protocol port = .ok valid) (label : String) :
    ∃ parsed, parseOptionalPort valid label = .ok parsed ∧
      (protocol = "icmp" → parsed = none) := by
  cases port with
  | none =>
      cases h
      exact ⟨none, rfl, fun _ => rfl⟩
  | some port =>
      unfold validatePortFor at h
      dsimp only at h
      split at h
      · rename_i hrange
        have hvalid : valid = some port ∧ protocol ≠ "icmp" := by
          split at h <;> cases h <;> exact ⟨rfl, by decide⟩
        obtain ⟨rfl, hprotocol⟩ := hvalid
        refine ⟨some (BitVec.ofInt 16 port.toInt), ?_, fun h => absurd h hprotocol⟩
        rw [parseOptionalPort, if_pos ⟨by omega, hrange.2⟩]
      · cases h

theorem parseCidr_of_normalize {env : ApiEnv} (hfaithful : Faithful env) {value cidr : String}
    (h : normalizeCidr env value = .ok cidr) (label : String) :
    ∃ net, parseCidr env.text label cidr = .ok net := by
  rw [normalizeCidr] at h
  split at h
  · cases hnet : env.text.ipNet (String.ofList (trim value.toList)) with
    | none =>
        rw [hnet] at h
        cases h
    | some net =>
        rw [hnet] at h
        cases h
        exact ⟨net.trunc, by rw [parseCidr, hfaithful]⟩
  · cases h

theorem toNat_ofInt_of_nonneg {n : Int} (hnonneg : 0 ≤ n) (hbound : n < 2 ^ 32) :
    ((BitVec.ofInt 32 n).toNat : Int) = n := by
  rw [BitVec.toNat_ofInt]
  omega

/-- A positive number stays one. -/
theorem int32ToU32_of_positive {name : String} {value : Int32}
    (h : validatePositiveInt32 name value = .ok ()) (label : String) :
    ∃ number, int32ToU32 label value = .ok number ∧ number ≠ 0 := by
  rw [validatePositiveInt32] at h
  split at h
  · cases h
  · rename_i hpositive
    have hbound := value.toInt_lt
    refine ⟨BitVec.ofInt 32 value.toInt, by rw [int32ToU32, if_pos (by omega)], fun hzero => ?_⟩
    have hnat := @toNat_ofInt_of_nonneg value.toInt (by omega) (by omega)
    rw [hzero] at hnat
    have : ((0 : U32).toNat : Int) = 0 := rfl
    omega

theorem optionalInt32ToU32_of_nonNegative {name : String} {value : Option Int32}
    (h : validateOptionalNonNegative name value = .ok ()) (label : String) :
    ∃ number, optionalInt32ToU32 label value = .ok number := by
  cases value with
  | none => exact ⟨none, rfl⟩
  | some value =>
      rw [validateOptionalNonNegative] at h
      split at h
      · cases h
      · rename_i hnonneg
        refine ⟨some (BitVec.ofInt 32 value.toInt), ?_⟩
        rw [optionalInt32ToU32, int32ToU32, if_pos (by omega)]
        rfl

theorem le_maxNaiveDateTime {now durationSeconds expiresAt : Int}
    (h : expiration now durationSeconds = .ok expiresAt) : expiresAt ≤ maxNaiveDateTime := by
  unfold expiration at h
  dsimp only at h
  split at h
  · rename_i hle
    cases h
    exact hle
  · cases h

/-! ## Rows -/

section Rows

variable {env : ApiEnv}

theorem FirewallRules.rowOk_of_input (hfaithful : Faithful env)
    {request : FirewallRules.CreateRuleRequest} {input : FirewallRules.RuleInput}
    (h : FirewallRules.ruleInput env request = .ok input) (id : Int32) :
    firewallRuleTable.RowOk env.text (input.row id) := by
  obtain ⟨ruleKey, -, h⟩ := bind_ok_iff.mp h
  obtain ⟨cidr, hcidr, h⟩ := bind_ok_iff.mp h
  obtain ⟨protocol, hprotocol, h⟩ := bind_ok_iff.mp h
  obtain ⟨port, hport, h⟩ := bind_ok_iff.mp h
  obtain ⟨action, haction, h⟩ := bind_ok_iff.mp h
  cases h
  obtain ⟨action', haction'⟩ := parseAction_of_normalize haction
  obtain ⟨net, hnet⟩ := parseCidr_of_normalize hfaithful hcidr "CIDR"
  obtain ⟨port', hport', -⟩ := parseOptionalPort_of_valid hport "firewall rule port"
  refine exists_bind_ok haction' (exists_bind_ok hnet ?_)
  cases hrequest : request.protocol with
  | none =>
      rw [hrequest] at hprotocol
      cases hprotocol
      exact exists_bind_ok rfl (exists_bind_ok hport' ⟨_, rfl⟩)
  | some value =>
      rw [hrequest] at hprotocol
      obtain ⟨name, hname, h⟩ := bind_ok_iff.mp hprotocol
      cases h
      obtain ⟨protocol', hprotocol', -⟩ := parseProtocol_of_normalize hname
      exact exists_bind_ok hprotocol' (exists_bind_ok hport' ⟨_, rfl⟩)

theorem GeoCountries.rowOk_of_input {request : GeoCountries.CreateGeoCountryRequest}
    {input : GeoCountries.GeoCountryInput} (h : GeoCountries.geoCountryInput request = .ok input)
    (id : Int32) : geoCountryTable.RowOk env.text (input.row id) := by
  obtain ⟨country, hcountry, h⟩ := bind_ok_iff.mp h
  obtain ⟨action, haction, h⟩ := bind_ok_iff.mp h
  cases h
  obtain ⟨action', haction'⟩ := parseAction_of_normalize haction
  exact exists_bind_ok (normalizedCountry_idempotent hcountry)
    (exists_bind_ok haction' ⟨_, rfl⟩)

theorem ThreatSources.rowOk_of_input {request : ThreatSources.CreateThreatSourceRequest}
    {input : ThreatSources.ThreatSourceInput}
    (h : ThreatSources.threatSourceInput env request = .ok input) (id : Int32) :
    threatSourceTable.RowOk env.text (input.row id) := by
  obtain ⟨format, hformat, h⟩ := bind_ok_iff.mp h
  obtain ⟨_, -, h⟩ := bind_ok_iff.mp h
  obtain ⟨_, hscore, h⟩ := bind_ok_iff.mp h
  cases h
  obtain ⟨format', hformat'⟩ := parseFormat_of_normalize hformat
  obtain ⟨score, hscore'⟩ := optionalInt32ToU32_of_nonNegative hscore "threat min_score"
  exact exists_bind_ok hformat' (exists_bind_ok hscore' ⟨_, rfl⟩)

theorem validateTempBanPolicy_ok {policy : TempBanPolicy}
    (hport : policy.protocol = .icmp → policy.port = none) :
    validateTempBanPolicy policy = .ok () := by
  rw [validateTempBanPolicy, if_neg]
  rintro ⟨hprotocol, hsome⟩
  rw [hport hprotocol] at hsome
  cases hsome

theorem validateDynamicRateLimitPolicy_ok {policy : DynamicRateLimitPolicy}
    (hpackets : policy.packetsPerSecond ≠ 0) (hburst : policy.burst ≠ 0)
    (hport : policy.protocol = .icmp → policy.port = none) :
    validateDynamicRateLimitPolicy policy = .ok () := by
  have hicmp : ¬ (policy.protocol = .icmp ∧ policy.port.isSome = true) := by
    rintro ⟨hprotocol, hsome⟩
    rw [hport hprotocol] at hsome
    cases hsome
  rw [validateDynamicRateLimitPolicy, if_neg hpackets, if_neg hburst, if_neg hicmp]
  rfl

theorem DynamicRateLimits.rowOk_of_input {request : DynamicRateLimits.CreateDynamicRateLimitRequest}
    {input : DynamicRateLimits.DynamicRateLimitInput}
    (h : DynamicRateLimits.dynamicRateLimitInput request = .ok input) (id : Int32) :
    rateLimitTable.RowOk env.text (input.row id) := by
  obtain ⟨protocol, hprotocol, h⟩ := bind_ok_iff.mp h
  obtain ⟨port, hport, h⟩ := bind_ok_iff.mp h
  obtain ⟨_, hpackets, h⟩ := bind_ok_iff.mp h
  obtain ⟨_, hburst, h⟩ := bind_ok_iff.mp h
  cases h
  obtain ⟨protocol', hprotocol', hicmp⟩ := parseProtocol_of_normalize hprotocol
  obtain ⟨port', hport', hnone⟩ := parseOptionalPort_of_valid hport "dynamic rate limit port"
  obtain ⟨packets, hpackets', hpositive⟩ :=
    int32ToU32_of_positive hpackets "dynamic rate limit packets_per_second"
  obtain ⟨burst, hburst', hpositive'⟩ :=
    int32ToU32_of_positive hburst "dynamic rate limit burst"
  refine exists_bind_ok hprotocol' (exists_bind_ok hport' ?_)
  refine exists_bind_ok hpackets' (exists_bind_ok hburst' ?_)
  exact exists_bind_ok
    (validateDynamicRateLimitPolicy_ok hpositive hpositive' fun h => hnone (hicmp h)) ⟨_, rfl⟩

theorem TempBans.rowOk_of_input (hfaithful : Faithful env)
    {request : TempBans.CreateTempBanRequest} {input : TempBans.TempBanInput}
    (h : TempBans.tempBanInput env request = .ok input) (id : Int32) :
    tempBanTable.RowOk env.text (input.row id) := by
  obtain ⟨cidr, hcidr, h⟩ := bind_ok_iff.mp h
  obtain ⟨protocol, hprotocol, h⟩ := bind_ok_iff.mp h
  obtain ⟨port, hport, h⟩ := bind_ok_iff.mp h
  obtain ⟨duration, -, h⟩ := bind_ok_iff.mp h
  obtain ⟨expiresAt, hexpires, h⟩ := bind_ok_iff.mp h
  cases h
  have hknown : ∃ value, normalizeProtocol value = .ok (protocol.getD "any") := by
    cases hrequest : request.protocol with
    | none =>
        rw [hrequest] at hprotocol
        cases hprotocol
        refine ⟨"any", ?_⟩
        rw [normalizeProtocol, toLower_eq_self (by decide)]
        rfl
    | some value =>
        rw [hrequest] at hprotocol
        obtain ⟨name, hname, h⟩ := bind_ok_iff.mp hprotocol
        cases h
        exact ⟨value, hname⟩
  obtain ⟨value, hvalue⟩ := hknown
  obtain ⟨net, hnet⟩ := parseCidr_of_normalize hfaithful hcidr "temporary ban CIDR"
  obtain ⟨protocol', hprotocol', hicmp⟩ := parseProtocol_of_normalize hvalue
  obtain ⟨port', hport', hnone⟩ := parseOptionalPort_of_valid hport "temporary ban port"
  refine ⟨le_maxNaiveDateTime hexpires, exists_bind_ok hnet ?_⟩
  refine exists_bind_ok hprotocol' (exists_bind_ok hport' ?_)
  exact exists_bind_ok (validateTempBanPolicy_ok fun h => hnone (hicmp h)) ⟨_, rfl⟩

theorem TrustedCidrs.rowOk_of_input (hfaithful : Faithful env)
    {request : TrustedCidrs.CreateTrustedCidrRequest} {input : TrustedCidrs.TrustedCidrInput}
    (h : TrustedCidrs.trustedCidrInput env request = .ok input) (id : Int32) :
    trustedCidrTable.RowOk env.text (input.row id) := by
  obtain ⟨cidr, hcidr, h⟩ := bind_ok_iff.mp h
  cases h
  obtain ⟨net, hnet⟩ := parseCidr_of_normalize hfaithful hcidr "trusted CIDR"
  exact exists_bind_ok hnet ⟨_, rfl⟩

end Rows

end Api
end XdpFirewall
