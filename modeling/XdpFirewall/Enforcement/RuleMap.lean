import XdpFirewall.Bpf.Lookup
import XdpFirewall.DataPlane.ApplyContent
import XdpFirewall.Policy.Compile

/-!
# RuleMap — from the rules of a policy to the rule a packet meets

A rule is stored when it is the first of the rules with its key, by priority, threat before
firewall, and position. The rule map of an apply holds the stored rules, and a lookup answers
with the longest stored rule of the first class that has one for the packet.
-/

namespace XdpFirewall
namespace Enforcement

open Net Policy Lib DataPlane Bpf

/-! ## Stored rules -/

/-- All rules of a policy, in the order the data plane reads them. -/
def allRules (policy : CompiledPolicy) : List XdpPrefixRule :=
  policy.threatPrefixes ++ policy.rules

/-- The rule may be written: the local filter does not refuse it. -/
def Unrefused (localCidrs : List LocalInterfaceCidr) (rule : XdpPrefixRule) : Prop :=
  denyRuleMatchesLocalInterface localCidrs rule = false

instance (localCidrs : List LocalInterfaceCidr) (rule : XdpPrefixRule) :
    Decidable (Unrefused localCidrs rule) :=
  inferInstanceAs (Decidable (_ = false))

/-- The rules that compete for the key of `rule`. -/
def competes (localCidrs : List LocalInterfaceCidr) (rule other : XdpPrefixRule) : Bool :=
  !denyRuleMatchesLocalInterface localCidrs other && decide (keyOfRule other = keyOfRule rule)

/-- `rule` is the least of the unrefused rules with its key, by priority, source and position. -/
def Stored (localCidrs : List LocalInterfaceCidr) (policy : CompiledPolicy)
    (rule : XdpPrefixRule) : Prop :=
  ∃ i, IsFirstLeast ruleLE (competes localCidrs rule) (allRules policy) i rule

variable {localCidrs : List LocalInterfaceCidr} {policy : CompiledPolicy}

theorem competes_iff {rule other : XdpPrefixRule} :
    competes localCidrs rule other ↔
      Unrefused localCidrs other ∧ keyOfRule other = keyOfRule rule := by
  simp [competes, Unrefused]

theorem stored_iff_find? {rule : XdpPrefixRule} :
    Stored localCidrs policy rule ↔
      (orderedPolicyRules policy).find? (competes localCidrs rule) = some rule := by
  rw [orderedPolicyRules, find?_mergeSort_eq_some_iff ruleLE_trans ruleLE_total]
  rfl

theorem Stored.mem {rule : XdpPrefixRule} (h : Stored localCidrs policy rule) :
    rule ∈ allRules policy := by
  obtain ⟨i, hleast⟩ := h
  exact List.mem_of_getElem? hleast.1

theorem Stored.unrefused {rule : XdpPrefixRule} (h : Stored localCidrs policy rule) :
    Unrefused localCidrs rule := by
  obtain ⟨i, hleast⟩ := h
  exact (competes_iff.mp hleast.2.1).1

theorem Stored.le {rule other : XdpPrefixRule} (h : Stored localCidrs policy rule)
    (hmem : other ∈ allRules policy) (hother : Unrefused localCidrs other)
    (hkey : keyOfRule other = keyOfRule rule) : ruleLE rule other := by
  obtain ⟨i, hleast⟩ := h
  obtain ⟨j, hj⟩ := List.getElem?_of_mem hmem
  exact (hleast.2.2 j other hj (competes_iff.mpr ⟨hother, hkey⟩)).1

/-- Every unrefused rule has a stored rule under its key. -/
theorem exists_stored {rule : XdpPrefixRule} (hmem : rule ∈ allRules policy)
    (hrule : Unrefused localCidrs rule) :
    ∃ winner, Stored localCidrs policy winner ∧ keyOfRule winner = keyOfRule rule := by
  have hsome : ((orderedPolicyRules policy).find? (competes localCidrs rule)).isSome := by
    rw [List.find?_isSome]
    exact ⟨rule, List.mem_mergeSort.mpr hmem, competes_iff.mpr ⟨hrule, rfl⟩⟩
  obtain ⟨winner, hwinner⟩ := Option.isSome_iff_exists.mp hsome
  have hkey := (competes_iff.mp (List.find?_some hwinner)).2
  refine ⟨winner, stored_iff_find?.mpr ?_, hkey⟩
  -- Competing for the key of the winner is competing for the key of the rule.
  have hsame : competes localCidrs winner = competes localCidrs rule := by
    funext other
    rw [competes, competes, hkey]
  rw [hsame, hwinner]

theorem Stored.unique {a b : XdpPrefixRule} (ha : Stored localCidrs policy a)
    (hb : Stored localCidrs policy b) (hkey : keyOfRule a = keyOfRule b) : a = b := by
  have hsame : competes localCidrs a = competes localCidrs b := by
    funext other
    rw [competes, competes, hkey]
  have hfind := stored_iff_find?.mp ha
  rw [hsame, stored_iff_find?.mp hb] at hfind
  exact (Option.some.inj hfind).symm

/-- A stored rule depends on its network, protocol and port only through its key. -/
theorem keyOfRule_eq_iff {a b : XdpPrefixRule} :
    keyOfRule a = keyOfRule b ↔
      a.toNetwork = b.toNetwork ∧ a.protocol = b.protocol ∧ a.port = b.port :=
  ⟨fun h => keyOfRule_bits_injective (congrArg LpmKey.bits h), keyOfRule_congr⟩

/-! ## The rule map -/

theorem mem_pendingRules_iff {item : RuleKey × XdpPrefixRule} :
    item ∈ (pendingRules localCidrs policy).items ↔
      Stored localCidrs policy item.2 ∧ item.1 = keyOfRule item.2 := by
  rw [pendingRules_eq, Collected.mem_items_collect, List.find?_filterMap, Option.bind_eq_some_iff]
  have hcompetes : ∀ rule, item.1 = keyOfRule rule →
      (fun other => (encodeRule? localCidrs other).any fun b =>
        decide (ruleKeyId b.1 = ruleKeyId item.1)) = competes localCidrs rule := by
    intro rule hkey
    funext other
    have hid : ruleKeyId (keyOfRule other) = ruleKeyId item.1 ↔
        keyOfRule other = keyOfRule rule := by
      rw [hkey]
      exact ⟨fun h => l4KeyId_injective h, fun h => congrArg ruleKeyId h⟩
    unfold encodeRule? competes
    cases denyRuleMatchesLocalInterface localCidrs other <;> simp [hid]
  constructor
  · rintro ⟨rule, hfind, hencode⟩
    obtain ⟨-, hitem⟩ := encodeRule?_eq_some_iff.mp hencode
    have hkey : item.1 = keyOfRule rule := congrArg Prod.fst hitem
    rw [hcompetes rule hkey, ← stored_iff_find?] at hfind
    rw [hitem]
    exact ⟨hfind, rfl⟩
  · rintro ⟨hstored, hkey⟩
    refine ⟨item.2, ?_, encodeRule?_eq_some_iff.mpr ⟨hstored.unrefused, ?_⟩⟩
    · rw [hcompetes item.2 hkey]
      exact stored_iff_find?.mp hstored
    · exact Prod.ext hkey rfl

theorem mem_ruleEntries_iff {wallNow : Int} {entry : RuleKey × RuleValue} :
    entry ∈ (buildPendingPolicyKeys localCidrs policy wallNow).ruleEntries ↔
      ∃ rule, Stored localCidrs policy rule ∧ entry = (keyOfRule rule, ruleValue rule) := by
  rw [PendingPolicyKeys.ruleEntries, List.mem_map]
  constructor
  · rintro ⟨item, hitem, rfl⟩
    obtain ⟨hstored, hkey⟩ := mem_pendingRules_iff.mp hitem
    exact ⟨item.2, hstored, by rw [ruleEntry, hkey]⟩
  · rintro ⟨rule, hstored, rfl⟩
    exact ⟨(keyOfRule rule, rule), mem_pendingRules_iff.mpr ⟨hstored, rfl⟩, rfl⟩

/-- The rule map of a successful apply holds the stored rules under their keys. -/
theorem mem_ruleCidrs_iff_stored {env : ApplyEnv} {m m' : LinuxXdpManager}
    (h : (applyToCurrentMaps env policy).run m = .ok () m') {entry : RuleKey × RuleValue} :
    entry ∈ m'.maps.ruleCidrs ↔
      ∃ rule, Stored m.localInterfaceCidrs policy rule ∧
        entry = (keyOfRule rule, ruleValue rule) :=
  (mem_ruleCidrs_of_applied h).trans mem_ruleEntries_iff

/-! ## The lookup -/

/-- The rule is of one class of the packet's protocol and port, and contains the source. -/
def InClass (c : U8 × U16) (src : IpAddr) (rule : XdpPrefixRule) : Prop :=
  protoCode rule.protocol = c.1 ∧ toBe rule.port = c.2 ∧ rule.toNetwork.Contains src

instance (c : U8 × U16) (src : IpAddr) (rule : XdpPrefixRule) :
    Decidable (InClass c src rule) :=
  inferInstanceAs (Decidable (_ ∧ _))

theorem keyOfRule_matches_iff {rule : XdpPrefixRule} {src : IpAddr} {c : U8 × U16} :
    (keyOfRule rule).bits <+: (packetKey (family src) c.1 c.2 (addrBytes src)).bits ↔
      InClass c src rule :=
  l4Key_matches_iff

theorem length_keyOfRule (rule : XdpPrefixRule) :
    (keyOfRule rule).bits.length = lpmPrefixLen rule.prefixLen :=
  length_bits_l4Key _ _ _

theorem inClass_congr {a b : XdpPrefixRule} (hkey : keyOfRule a = keyOfRule b) {c : U8 × U16}
    {src : IpAddr} : InClass c src a ↔ InClass c src b := by
  obtain ⟨hnet, hproto, hport⟩ := keyOfRule_eq_iff.mp hkey
  rw [InClass, InClass, hnet, hproto, hport]

/-- The rule map holds the stored rules of `policy` under the local filter. -/
def HoldsRules (maps : PolicyMaps) (localCidrs : List LocalInterfaceCidr)
    (policy : CompiledPolicy) : Prop :=
  ∀ entry : RuleKey × RuleValue, entry ∈ maps.ruleCidrs ↔
    ∃ rule, Stored localCidrs policy rule ∧ entry = (keyOfRule rule, ruleValue rule)

variable {maps : PolicyMaps}

/-- One lookup: no unrefused rule is of the class. -/
theorem lookupElem_rule_eq_none_iff (h : HoldsRules maps localCidrs policy) {src : IpAddr}
    {c : U8 × U16} :
    lookupElem maps.ruleCidrs (packetKey (family src) c.1 c.2 (addrBytes src)) = none ↔
      ∀ rule ∈ allRules policy, Unrefused localCidrs rule → ¬ InClass c src rule := by
  rw [lookupElem, KeyedStore.longest?_eq_none_iff]
  constructor
  · intro hnone rule hmem hrule hin
    obtain ⟨winner, hstored, hkey⟩ := exists_stored hmem hrule
    refine hnone (keyOfRule winner, ruleValue winner) ((h _).mpr ⟨winner, hstored, rfl⟩) ?_
    exact keyOfRule_matches_iff.mpr ((inClass_congr hkey).mpr hin)
  · intro hnone entry hentry hmatch
    obtain ⟨rule, hstored, rfl⟩ := (h _).mp hentry
    exact hnone rule hstored.mem hstored.unrefused (keyOfRule_matches_iff.mp hmatch)

/-- One lookup: the longest stored rule of the class. -/
theorem lookupElem_rule_eq_some_iff (h : HoldsRules maps localCidrs policy) {src : IpAddr}
    {c : U8 × U16} {entry : RuleKey × RuleValue} :
    lookupElem maps.ruleCidrs (packetKey (family src) c.1 c.2 (addrBytes src)) = some entry ↔
      ∃ rule, Stored localCidrs policy rule ∧ entry = (keyOfRule rule, ruleValue rule) ∧
        InClass c src rule ∧
        ∀ other ∈ allRules policy, Unrefused localCidrs other → InClass c src other →
          other.prefixLen ≤ rule.prefixLen := by
  rw [lookupElem, KeyedStore.longest?_eq_some_iff]
  constructor
  · rintro ⟨hmem, hmatch, hlong⟩
    obtain ⟨rule, hstored, rfl⟩ := (h _).mp hmem
    refine ⟨rule, hstored, rfl, keyOfRule_matches_iff.mp hmatch, ?_⟩
    intro other hother hunrefused hin
    obtain ⟨winner, hwinner, hkey⟩ := exists_stored hother hunrefused
    have hle := hlong (keyOfRule winner, ruleValue winner) ((h _).mpr ⟨winner, hwinner, rfl⟩)
      (keyOfRule_matches_iff.mpr ((inClass_congr hkey).mpr hin))
    rw [hkey, length_keyOfRule, length_keyOfRule] at hle
    exact Nat.le_of_add_le_add_left hle
  · rintro ⟨rule, hstored, rfl, hin, hlong⟩
    refine ⟨(h _).mpr ⟨rule, hstored, rfl⟩, keyOfRule_matches_iff.mpr hin, ?_⟩
    intro other hother hmatch
    obtain ⟨rival, hrival, rfl⟩ := (h _).mp hother
    have hle := hlong rival hrival.mem hrival.unrefused (keyOfRule_matches_iff.mp hmatch)
    rw [length_keyOfRule, length_keyOfRule]
    exact Nat.add_le_add_left hle 32

/-- No class before `c` has an unrefused rule for the packet, and `c` is one of them. -/
def FirstClass (localCidrs : List LocalInterfaceCidr) (policy : CompiledPolicy) (proto : U8)
    (dport : U16) (src : IpAddr) (c : U8 × U16) : Prop :=
  ∃ before after, classes proto dport = before ++ c :: after ∧
    ∀ c' ∈ before, ∀ rule ∈ allRules policy, Unrefused localCidrs rule → ¬ InClass c' src rule

/-- The whole lookup: the longest stored rule of the first class that has a rule. -/
theorem lookupRule_eq_some_iff (h : HoldsRules maps localCidrs policy) {proto : U8}
    {dport : U16} {src : IpAddr} {entry : RuleKey × RuleValue} :
    lookupRule maps (family src) proto dport (addrBytes src) = some entry ↔
      ∃ c rule, FirstClass localCidrs policy proto dport src c ∧
        Stored localCidrs policy rule ∧ entry = (keyOfRule rule, ruleValue rule) ∧
        InClass c src rule ∧
        ∀ other ∈ allRules policy, Unrefused localCidrs other → InClass c src other →
          other.prefixLen ≤ rule.prefixLen := by
  rw [lookupRule_eq_findSome?, List.findSome?_eq_some_iff]
  constructor
  · rintro ⟨before, c, after, hsplit, hfound, hnone⟩
    obtain ⟨rule, hstored, hentry, hin, hlong⟩ := (lookupElem_rule_eq_some_iff h).mp hfound
    refine ⟨c, rule, ⟨before, after, hsplit, ?_⟩, hstored, hentry, hin, hlong⟩
    intro c' hc'
    exact (lookupElem_rule_eq_none_iff h).mp (hnone c' hc')
  · rintro ⟨c, rule, ⟨before, after, hsplit, hnone⟩, hstored, hentry, hin, hlong⟩
    refine ⟨before, c, after, hsplit, ?_, ?_⟩
    · exact (lookupElem_rule_eq_some_iff h).mpr ⟨rule, hstored, hentry, hin, hlong⟩
    · intro c' hc'
      exact (lookupElem_rule_eq_none_iff h).mpr (hnone c' hc')

theorem lookupRule_eq_none_iff (h : HoldsRules maps localCidrs policy) {proto : U8}
    {dport : U16} {src : IpAddr} :
    lookupRule maps (family src) proto dport (addrBytes src) = none ↔
      ∀ c ∈ classes proto dport, ∀ rule ∈ allRules policy, Unrefused localCidrs rule →
        ¬ InClass c src rule := by
  rw [lookupRule_eq_findSome?, List.findSome?_eq_none_iff]
  exact forall₂_congr fun c _ => lookupElem_rule_eq_none_iff h

end Enforcement
end XdpFirewall
