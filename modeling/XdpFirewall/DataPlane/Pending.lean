import Mathlib.Data.Finset.Card
import XdpFirewall.DataPlane.Maps
import XdpFirewall.Lib.FirstWins

/-!
# Pending — the keys a policy asks for

Each list of a compiled policy is walked once. The first item that encodes to a key is kept with
that key; items the local filter refuses and bans that have expired are passed over. Rules are
walked in the order of their priority, threat prefixes before firewall rules of one priority.
-/

namespace XdpFirewall
namespace DataPlane

open Net Policy Lib

/-! ## Rules -/

/-- `deny_rule_matches_local_interface` -/
def denyRuleMatchesLocalInterface (localCidrs : List LocalInterfaceCidr) (rule : XdpPrefixRule) :
    Bool :=
  (denyRuleMatchingLocalCidr rule localCidrs).isSome

/-- The comparison by which `ordered_policy_rules` sorts. -/
def ruleLE (left right : XdpPrefixRule) : Bool :=
  left.priority < right.priority ||
    (left.priority == right.priority &&
      decide (ruleSourceOrder left.source ≤ ruleSourceOrder right.source))

def orderedPolicyRules (policy : CompiledPolicy) : List XdpPrefixRule :=
  (policy.threatPrefixes ++ policy.rules).mergeSort ruleLE

def keyOfRule (rule : XdpPrefixRule) : RuleKey :=
  ruleKey rule.addr rule.prefixLen rule.protocol rule.port

def collectRule (localCidrs : List LocalInterfaceCidr)
    (pending : Collected RuleId (RuleKey × XdpPrefixRule)) (rule : XdpPrefixRule) :
    Collected RuleId (RuleKey × XdpPrefixRule) :=
  if denyRuleMatchesLocalInterface localCidrs rule then
    pending
  else
    pending.push (fun item => ruleKeyId item.1) (keyOfRule rule, rule)

def pendingRules (localCidrs : List LocalInterfaceCidr) (policy : CompiledPolicy) :
    Collected RuleId (RuleKey × XdpPrefixRule) :=
  (orderedPolicyRules policy).foldl (collectRule localCidrs) Collected.empty

/-! ## Temporary bans -/

/-- `temp_ban_matches_local_interface` -/
def tempBanMatchesLocalInterface (localCidrs : List LocalInterfaceCidr) (ban : XdpTempBan) :
    Bool :=
  (tempBanMatchingLocalCidr ban localCidrs).isSome

def keyOfTempBan (ban : XdpTempBan) : TempBanKey :=
  tempBanKey ban.addr ban.prefixLen ban.protocol ban.port

def collectTempBan (localCidrs : List LocalInterfaceCidr) (wallNow : Int)
    (pending : Collected TempBanId (TempBanKey × XdpTempBan)) (ban : XdpTempBan) :
    Collected TempBanId (TempBanKey × XdpTempBan) :=
  if ban.expiresAt ≤ wallNow ∨ tempBanMatchesLocalInterface localCidrs ban then
    pending
  else
    pending.push (fun item => tempBanKeyId item.1) (keyOfTempBan ban, ban)

def pendingTempBans (localCidrs : List LocalInterfaceCidr) (bans : List XdpTempBan)
    (wallNow : Int) : Collected TempBanId (TempBanKey × XdpTempBan) :=
  (compactTempBans bans).foldl (collectTempBan localCidrs wallNow) Collected.empty

/-! ## Sets without a filter -/

def pendingCustomRateLimits (limits : List XdpDynamicRateLimit) :
    Collected CustomRateId (CustomRateKey × XdpDynamicRateLimit) :=
  .collect (fun item => customRateKeyId item.1)
    (limits.map fun limit => (customRateKey limit.protocol limit.port, limit))

def pendingTrustedKeys (prefixes : List XdpTrustedPrefix) : Collected TrustedId TrustedKey :=
  .collect trustedKeyId
    ((compactTrustedPrefixes prefixes).map fun trusted =>
      trustedKey trusted.addr trusted.prefixLen)

def pendingGeoPrefixes (prefixes : List XdpGeoPrefix) :
    Collected GeoId (GeoKey × XdpGeoPrefix) :=
  .collect (fun item => geoKeyId item.1)
    (prefixes.map fun geo => (geoKey geo.addr geo.prefixLen, geo))

def pendingCountryRules (rules : List XdpCountryRule) : Collected U32 (U32 × XdpCountryRule) :=
  .collect (fun item => item.1) (rules.map fun country => (countryKey country.country, country))

/-! ## All keys -/

structure PendingPolicyKeys where
  rules : Collected RuleId (RuleKey × XdpPrefixRule)
  geoPrefixes : Collected GeoId (GeoKey × XdpGeoPrefix)
  trustedKeys : Collected TrustedId TrustedKey
  countryRules : Collected U32 (U32 × XdpCountryRule)
  customRateLimits : Collected CustomRateId (CustomRateKey × XdpDynamicRateLimit)
  tempBans : Collected TempBanId (TempBanKey × XdpTempBan)

def buildPendingPolicyKeys (localCidrs : List LocalInterfaceCidr) (policy : CompiledPolicy)
    (wallNow : Int) : PendingPolicyKeys where
  rules := pendingRules localCidrs policy
  geoPrefixes := pendingGeoPrefixes policy.geoPrefixes
  trustedKeys := pendingTrustedKeys policy.trustedPrefixes
  countryRules := pendingCountryRules policy.countryRules
  customRateLimits := pendingCustomRateLimits policy.dynamicRateLimits
  tempBans := pendingTempBans localCidrs policy.tempBans wallNow

/-! ## The walks as collections -/

/-- A rule with its key, unless the local filter refuses it. -/
def encodeRule? (localCidrs : List LocalInterfaceCidr) (rule : XdpPrefixRule) :
    Option (RuleKey × XdpPrefixRule) :=
  if denyRuleMatchesLocalInterface localCidrs rule then none else some (keyOfRule rule, rule)

/-- A ban with its key, unless it has expired or the local filter refuses it. -/
def encodeTempBan? (localCidrs : List LocalInterfaceCidr) (wallNow : Int) (ban : XdpTempBan) :
    Option (TempBanKey × XdpTempBan) :=
  if ban.expiresAt ≤ wallNow ∨ tempBanMatchesLocalInterface localCidrs ban then
    none
  else
    some (keyOfTempBan ban, ban)

theorem pendingRules_eq (localCidrs : List LocalInterfaceCidr) (policy : CompiledPolicy) :
    pendingRules localCidrs policy =
      .collect (fun item => ruleKeyId item.1)
        ((orderedPolicyRules policy).filterMap (encodeRule? localCidrs)) := by
  refine Collected.foldl_eq_collect ?_ _
  intro pending rule
  unfold collectRule encodeRule?
  split <;> rfl

theorem pendingTempBans_eq (localCidrs : List LocalInterfaceCidr) (bans : List XdpTempBan)
    (wallNow : Int) :
    pendingTempBans localCidrs bans wallNow =
      .collect (fun item => tempBanKeyId item.1)
        ((compactTempBans bans).filterMap (encodeTempBan? localCidrs wallNow)) := by
  refine Collected.foldl_eq_collect ?_ _
  intro pending ban
  unfold collectTempBan encodeTempBan?
  split <;> rfl

theorem encodeRule?_eq_some_iff {localCidrs : List LocalInterfaceCidr} {rule : XdpPrefixRule}
    {item : RuleKey × XdpPrefixRule} :
    encodeRule? localCidrs rule = some item ↔
      denyRuleMatchesLocalInterface localCidrs rule = false ∧ item = (keyOfRule rule, rule) := by
  unfold encodeRule?
  cases denyRuleMatchesLocalInterface localCidrs rule <;> simp [eq_comm]

theorem encodeTempBan?_eq_some_iff {localCidrs : List LocalInterfaceCidr} {wallNow : Int}
    {ban : XdpTempBan} {item : TempBanKey × XdpTempBan} :
    encodeTempBan? localCidrs wallNow ban = some item ↔
      (wallNow < ban.expiresAt ∧ tempBanMatchesLocalInterface localCidrs ban = false) ∧
        item = (keyOfTempBan ban, ban) := by
  unfold encodeTempBan?
  by_cases hexp : ban.expiresAt ≤ wallNow
  · simp [hexp, Int.not_lt.mpr hexp]
  · have hlt : wallNow < ban.expiresAt := Int.not_le.mp hexp
    cases tempBanMatchesLocalInterface localCidrs ban <;> simp [hexp, hlt, eq_comm]

/-! ## Keys of items -/

theorem keyOfRule_bits_injective {a b : XdpPrefixRule}
    (h : (keyOfRule a).bits = (keyOfRule b).bits) :
    a.toNetwork = b.toNetwork ∧ a.protocol = b.protocol ∧ a.port = b.port :=
  l4Key_bits_injective h

theorem keyOfRule_congr {a b : XdpPrefixRule}
    (h : a.toNetwork = b.toNetwork ∧ a.protocol = b.protocol ∧ a.port = b.port) :
    keyOfRule a = keyOfRule b := by
  rw [keyOfRule, keyOfRule, h.1, h.2.1, h.2.2]

theorem keyOfTempBan_bits_injective {a b : XdpTempBan}
    (h : (keyOfTempBan a).bits = (keyOfTempBan b).bits) :
    a.toNetwork = b.toNetwork ∧ a.protocol = b.protocol ∧ a.port = b.port :=
  l4Key_bits_injective h

theorem keyOfTempBan_congr {a b : XdpTempBan}
    (h : a.toNetwork = b.toNetwork ∧ a.protocol = b.protocol ∧ a.port = b.port) :
    keyOfTempBan a = keyOfTempBan b := by
  rw [keyOfTempBan, keyOfTempBan, h.1, h.2.1, h.2.2]

/-! ## Refused rules and the order of rules -/

theorem denyRuleMatchesLocalInterface_iff {localCidrs : List LocalInterfaceCidr}
    {rule : XdpPrefixRule} :
    denyRuleMatchesLocalInterface localCidrs rule ↔
      rule.action = .deny ∧ ∃ own ∈ localCidrs, rule.toNetwork.Contains own.ip := by
  unfold denyRuleMatchesLocalInterface denyRuleMatchingLocalCidr
  by_cases haction : rule.action = .deny
  · simp [haction, List.find?_isSome, prefixContainsIp_iff]
  · simp [haction]

theorem ruleLE_trans (a b c : XdpPrefixRule) (hab : ruleLE a b) (hbc : ruleLE b c) :
    ruleLE a c := by
  simp only [ruleLE, Bool.or_eq_true, Bool.and_eq_true, decide_eq_true_eq, beq_iff_eq] at *
  rcases hab with hlt | ⟨heq, hsrc⟩
  · rcases hbc with hlt' | ⟨heq', -⟩
    · exact Or.inl (Int32.lt_trans hlt hlt')
    · exact Or.inl (heq' ▸ hlt)
  · rcases hbc with hlt' | ⟨heq', hsrc'⟩
    · exact Or.inl (heq ▸ hlt')
    · exact Or.inr ⟨heq.trans heq', Nat.le_trans hsrc hsrc'⟩

theorem ruleLE_total (a b : XdpPrefixRule) : ruleLE a b || ruleLE b a := by
  simp only [ruleLE, Bool.or_eq_true, Bool.and_eq_true, decide_eq_true_eq, beq_iff_eq]
  have htri : a.priority < b.priority ∨ a.priority = b.priority ∨ b.priority < a.priority := by
    rcases Int32.le_total a.priority b.priority with h | h
    · rcases Int32.le_iff_lt_or_eq.mp h with hlt | heq
      · exact Or.inl hlt
      · exact Or.inr (Or.inl heq)
    · rcases Int32.le_iff_lt_or_eq.mp h with hlt | heq
      · exact Or.inr (Or.inr hlt)
      · exact Or.inr (Or.inl heq.symm)
  rcases htri with h | h | h
  · exact Or.inl (Or.inl h)
  · rcases Nat.le_total (ruleSourceOrder a.source) (ruleSourceOrder b.source) with hs | hs
    · exact Or.inl (Or.inr ⟨h, hs⟩)
    · exact Or.inr (Or.inr ⟨h.symm, hs⟩)
  · exact Or.inr (Or.inl h)

end DataPlane
end XdpFirewall
