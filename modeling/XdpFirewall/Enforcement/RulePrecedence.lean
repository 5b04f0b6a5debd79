import XdpFirewall.DataPlane.ApplyExact
import XdpFirewall.Enforcement.RuleMap

/-!
# RulePrecedence — which rule decides a packet

An apply refines the rule list of the policy to the rule map, and the lookup answers class by
class. The longest prefix of all matching rules answers exactly when one of its rules is in the
first class that has a match.
-/

namespace XdpFirewall
namespace Enforcement

open Net Policy Lib DataPlane Bpf

variable {localCidrs : List LocalInterfaceCidr} {policy : CompiledPolicy} {maps : PolicyMaps}

/-! ## Rules under one key -/

/-- The rule map and the lookup, in terms of the rules of the policy. -/
structure RefinesRules (maps : PolicyMaps) (localCidrs : List LocalInterfaceCidr)
    (policy : CompiledPolicy) : Prop where
  /-- Each key holds the value of the least of its rules. -/
  holds : HoldsRules maps localCidrs policy
  /-- The answer is the longest stored rule of the first class that has a rule. -/
  found : ∀ (proto : U8) (dport : U16) (src : IpAddr) (entry : RuleKey × RuleValue),
    lookupRule maps (family src) proto dport (addrBytes src) = some entry ↔
      ∃ c rule, FirstClass localCidrs policy proto dport src c ∧
        Stored localCidrs policy rule ∧ entry = (keyOfRule rule, ruleValue rule) ∧
        InClass c src rule ∧
        ∀ other ∈ allRules policy, Unrefused localCidrs other → InClass c src other →
          other.prefixLen ≤ rule.prefixLen
  /-- There is no answer when no class has a rule. -/
  missed : ∀ (proto : U8) (dport : U16) (src : IpAddr),
    lookupRule maps (family src) proto dport (addrBytes src) = none ↔
      ∀ c ∈ classes proto dport, ∀ rule ∈ allRules policy, Unrefused localCidrs rule →
        ¬ InClass c src rule
  /-- Under the key of a threat prefix stands a threat deny. -/
  threatFirst : ∀ threat ∈ policy.threatPrefixes, Unrefused localCidrs threat →
    ∃ entry ∈ maps.ruleCidrs, entry.1 = keyOfRule threat ∧
      entry.2.action = actionDeny ∧ entry.2.source = ruleSourceThreat

theorem holdsRules_of_applied {env : ApplyEnv} {m m' : LinuxXdpManager}
    (h : (apply env policy).run m = .ok () m') :
    HoldsRules m'.maps m'.localInterfaceCidrs policy := by
  obtain ⟨current, -, hwrite⟩ := apply_ok h
  intro entry
  rw [(frame_of_applied hwrite).2.1]
  exact mem_ruleCidrs_iff_stored hwrite

/-- No firewall rule is stored under the key of an unrefused threat prefix: a threat prefix has
the least priority number there is, and goes first among equals. -/
theorem Stored.isThreat {rule threat : XdpPrefixRule} (hcompiled : CompiledRules policy)
    (hrule : Stored localCidrs policy rule) (hthreat : threat ∈ policy.threatPrefixes)
    (hunrefused : Unrefused localCidrs threat) (hkey : keyOfRule rule = keyOfRule threat) :
    rule ∈ policy.threatPrefixes := by
  rcases List.mem_append.mp hrule.mem with hmem | hmem
  · exact hmem
  · obtain ⟨hsource, hpriority, -⟩ := hcompiled.threat threat hthreat
    have hle := hrule.le (List.mem_append_left _ hthreat) hunrefused hkey.symm
    simp only [ruleLE, hsource, hpriority, hcompiled.firewall rule hmem, ruleSourceOrder,
      Bool.or_eq_true, Bool.and_eq_true, decide_eq_true_eq, beq_iff_eq] at hle
    rcases hle with hlt | ⟨-, hle⟩
    · exact absurd hlt (Int32.not_lt.mpr (Int32.minValue_le rule.priority))
    · omega

theorem threat_entry {threat : XdpPrefixRule} (hcompiled : CompiledRules policy)
    (h : HoldsRules maps localCidrs policy) (hthreat : threat ∈ policy.threatPrefixes)
    (hunrefused : Unrefused localCidrs threat) :
    ∃ entry ∈ maps.ruleCidrs, entry.1 = keyOfRule threat ∧
      entry.2.action = actionDeny ∧ entry.2.source = ruleSourceThreat := by
  obtain ⟨winner, hstored, hkey⟩ := exists_stored (List.mem_append_left _ hthreat) hunrefused
  have hwinner := hstored.isThreat hcompiled hthreat hunrefused hkey
  obtain ⟨hsource, -, haction, -⟩ := hcompiled.threat winner hwinner
  refine ⟨(keyOfRule winner, ruleValue winner), (h _).mpr ⟨winner, hstored, rfl⟩, hkey, ?_, ?_⟩
  · rw [ruleValue, haction, actionCode]
  · rw [ruleValue, hsource, ruleSourceCode]

/-- A successful apply of a compiled policy refines its rules. The local filter is that of the
manager that wrote the maps, which an attach with larger maps may have replaced. -/
theorem apply_refinesRules {now : Int} {snapshot : PolicySnapshot} {env : ApplyEnv}
    {m m' : LinuxXdpManager} (hcompile : compilePolicy now snapshot = .ok policy)
    (h : (apply env policy).run m = .ok () m') :
    RefinesRules m'.maps m'.localInterfaceCidrs policy where
  holds := holdsRules_of_applied h
  found _ _ _ _ := lookupRule_eq_some_iff (holdsRules_of_applied h)
  missed _ _ _ := lookupRule_eq_none_iff (holdsRules_of_applied h)
  threatFirst _ hthreat hunrefused :=
    threat_entry (compilePolicy_rules hcompile) (holdsRules_of_applied h) hthreat hunrefused

/-- A host on a threat list within a network that may use one service. -/
def shadowedSnapshot : PolicySnapshot where
  version := 1
  rules :=
    [{ priority := 100
       action := .allow
       cidr := .v4 (.slash 0xCB007100 24)
       protocol := .tcp
       port := some 443
       comment := none }]
  geoCountries := []
  geoPrefixes := []
  tempBans := []
  dynamicDefense := DynamicDefensePolicy.default
  dynamicRateLimits := []
  trustedCidrs := []
  threatSources := []
  threatPrefixes := [{ toNetwork := (IpNet.v4 (.slash 0xCB007107 32)).toNetwork }]

def shadowedPolicy : CompiledPolicy :=
  { CompiledPolicy.unloaded 1 with
    rules := compileFirewallRules shadowedSnapshot.rules
    dynamicDefense := compileDynamicDefense DynamicDefensePolicy.default
    threatPrefixes := compileThreatPrefixes shadowedSnapshot.threatPrefixes }

theorem compilePolicy_shadowed : compilePolicy 0 shadowedSnapshot = .ok shadowedPolicy := rfl

theorem apply_shadowed :
    ∃ m', (apply idleEnv shadowedPolicy).run emptyManager = .ok () m' ∧
      m'.localInterfaceCidrs = [] := by
  have hreq : ∃ required, requiredPolicyMapSizes emptyManager shadowedPolicy = .ok required ∧
      validateMapCapacity required emptyManager.mapSizes = .ok () := ⟨_, rfl, rfl⟩
  have hconv : Convertible (pendingOf idleEnv shadowedPolicy emptyManager) idleEnv.wallNow
      1000000000 := by
    intro item hitem
    cases hitem
  obtain ⟨required, hrequired, hvalid⟩ := hreq
  rw [run_apply_of_valid hrequired hvalid]
  obtain ⟨m', hrun⟩ :=
    run_applyToCurrentMaps_of_fresh rfl ⟨⟨required, hrequired, hvalid⟩, rfl⟩ hconv
  exact ⟨m', hrun, (frame_of_applied hrun).2.1⟩

theorem apply_refinesRules_shadowed :
    ∃ m', (apply idleEnv shadowedPolicy).run emptyManager = .ok () m' ∧
      RefinesRules m'.maps m'.localInterfaceCidrs shadowedPolicy := by
  obtain ⟨m', hrun, -⟩ := apply_shadowed
  exact ⟨m', hrun, apply_refinesRules compilePolicy_shadowed hrun⟩

/-! ## Rules under different keys -/

/-- The rule matches the packet. -/
def Matches (proto : U8) (dport : U16) (src : IpAddr) (rule : XdpPrefixRule) : Prop :=
  Selects rule.toNetwork rule.protocol rule.port proto dport src

instance (proto : U8) (dport : U16) (src : IpAddr) (rule : XdpPrefixRule) :
    Decidable (Matches proto dport src rule) :=
  inferInstanceAs (Decidable (Selects _ _ _ _ _ _))

/-- The position of the first class the rule can answer in. -/
def rank (proto : U8) (dport : U16) (rule : XdpPrefixRule) : Nat :=
  (if protoCode rule.protocol = proto then 0 else 2) + (if toBe rule.port = dport then 0 else 1)

/-- The key matches the packet in one of the classes. -/
def KeyMatches (proto : U8) (dport : U16) (src : IpAddr) (key : RuleKey) : Prop :=
  ∃ c ∈ classes proto dport, key.bits <+: (packetKey (family src) c.1 c.2 (addrBytes src)).bits

/-- The entry found for the packet is the longest of all entries that match it. -/
def LongestFirst (maps : PolicyMaps) (proto : U8) (dport : U16) (src : IpAddr) : Prop :=
  ∀ entry, lookupRule maps (family src) proto dport (addrBytes src) = some entry →
    ∀ other ∈ maps.ruleCidrs, KeyMatches proto dport src other.1 →
      other.1.prefixLen ≤ entry.1.prefixLen

/-- No matching rule is longer than all those of the least rank that has a match. -/
def NarrowestRanksFirst (localCidrs : List LocalInterfaceCidr) (policy : CompiledPolicy)
    (proto : U8) (dport : U16) (src : IpAddr) : Prop :=
  ∀ other ∈ allRules policy, Unrefused localCidrs other → Matches proto dport src other →
    ∃ rule ∈ allRules policy, Unrefused localCidrs rule ∧ Matches proto dport src rule ∧
      other.prefixLen ≤ rule.prefixLen ∧
      ∀ rival ∈ allRules policy, Unrefused localCidrs rival → Matches proto dport src rival →
        rank proto dport rule ≤ rank proto dport rival

instance (proto : U8) (dport : U16) (src : IpAddr) :
    Decidable (NarrowestRanksFirst localCidrs policy proto dport src) :=
  inferInstanceAs (Decidable (∀ _ ∈ _, _ → _ → ∃ _ ∈ _, _ ∧ _ ∧ _ ∧ ∀ _ ∈ _, _ → _ → _))

variable {proto : U8} {dport : U16} {src : IpAddr} {rule : XdpPrefixRule}

theorem matches_iff_exists_class :
    Matches proto dport src rule ↔ ∃ c ∈ classes proto dport, InClass c src rule :=
  selects_iff_exists_class

theorem keyMatches_keyOfRule_iff :
    KeyMatches proto dport src (keyOfRule rule) ↔ Matches proto dport src rule := by
  rw [matches_iff_exists_class, KeyMatches]
  exact exists_congr fun c => and_congr_right fun _ => keyOfRule_matches_iff

/-- A matching rule is in the class of its rank. -/
theorem inClass_rank (h : Matches proto dport src rule) :
    ∃ c, (classes proto dport)[rank proto dport rule]? = some c ∧ InClass c src rule := by
  obtain ⟨hnet, hproto, hport⟩ := selects_iff_codes.mp h
  by_cases hp : protoCode rule.protocol = proto
  · by_cases hd : toBe rule.port = dport
    · exact ⟨(proto, dport), by simp [rank, hp, hd, classes], hp, hd, hnet⟩
    · exact ⟨(proto, 0), by simp [rank, hp, hd, classes], hp, hport.resolve_right hd, hnet⟩
  · have hany := hproto.resolve_right hp
    by_cases hd : toBe rule.port = dport
    · exact ⟨(protoAny, dport), by simp [rank, hp, hd, classes], hany, hd, hnet⟩
    · refine ⟨(protoAny, 0), by simp [rank, hp, hd, classes], hany, hport.resolve_right hd, hnet⟩

/-- A rule is in no class before its rank. -/
theorem rank_le_of_inClass {i : Nat} {c : U8 × U16} (hi : (classes proto dport)[i]? = some c)
    (h : InClass c src rule) : rank proto dport rule ≤ i := by
  obtain ⟨hproto, hport, -⟩ := h
  unfold rank
  match i with
  | 0 =>
      cases hi
      simp [hproto, hport]
  | 1 =>
      cases hi
      rw [if_pos hproto]
      split <;> omega
  | 2 =>
      cases hi
      rw [if_pos hport]
      split <;> omega
  | n + 3 =>
      split <;> split <;> omega

/-- The least rank of a matching rule is the position of the first class that has one. -/
theorem FirstClass.le_rank {c : U8 × U16} {before after : List (U8 × U16)}
    (hsplit : classes proto dport = before ++ c :: after)
    (hnone : ∀ c' ∈ before, ∀ rule ∈ allRules policy, Unrefused localCidrs rule →
      ¬ InClass c' src rule)
    (hmem : rule ∈ allRules policy) (hunrefused : Unrefused localCidrs rule)
    (hmatch : Matches proto dport src rule) : before.length ≤ rank proto dport rule := by
  obtain ⟨c', hget, hin⟩ := inClass_rank hmatch
  by_contra hlt
  push Not at hlt
  rw [hsplit, List.getElem?_append_left hlt] at hget
  exact hnone c' (List.mem_of_getElem? hget) rule hmem hunrefused hin

theorem getElem?_classes_of_split {c : U8 × U16} {before after : List (U8 × U16)}
    (hsplit : classes proto dport = before ++ c :: after) :
    (classes proto dport)[before.length]? = some c := by
  simp [hsplit]

theorem longestFirst_iff (h : HoldsRules maps localCidrs policy) :
    LongestFirst maps proto dport src ↔ NarrowestRanksFirst localCidrs policy proto dport src := by
  constructor
  · intro hlongest other hother hunrefused hmatch
    obtain ⟨c', hc', hin'⟩ := matches_iff_exists_class.mp hmatch
    cases hfound : lookupRule maps (family src) proto dport (addrBytes src) with
    | none =>
        exact absurd hin' ((lookupRule_eq_none_iff h).mp hfound c' hc' other hother hunrefused)
    | some entry =>
        obtain ⟨c, winner, ⟨before, after, hsplit, hnone⟩, hstored, rfl, hin, -⟩ :=
          (lookupRule_eq_some_iff h).mp hfound
        have hc : c ∈ classes proto dport := by simp [hsplit]
        refine ⟨winner, hstored.mem, hstored.unrefused,
          matches_iff_exists_class.mpr ⟨c, hc, hin⟩, ?_, ?_⟩
        · obtain ⟨rival, hrival, hkey⟩ := exists_stored hother hunrefused
          have hle := hlongest _ hfound (keyOfRule rival, ruleValue rival)
            ((h _).mpr ⟨rival, hrival, rfl⟩)
            (by rw [hkey]; exact keyMatches_keyOfRule_iff.mpr hmatch)
          rw [hkey] at hle
          exact Nat.le_of_add_le_add_left hle
        · intro rival hrival hrivalUnrefused hrivalMatch
          exact (rank_le_of_inClass (getElem?_classes_of_split hsplit) hin).trans
            (FirstClass.le_rank hsplit hnone hrival hrivalUnrefused hrivalMatch)
  · intro hnarrow entry hfound otherEntry hmem hkeyMatch
    obtain ⟨c, winner, ⟨before, after, hsplit, hnone⟩, hstored, rfl, hin, hlong⟩ :=
      (lookupRule_eq_some_iff h).mp hfound
    obtain ⟨other, hother, rfl⟩ := (h _).mp hmem
    obtain ⟨rule, hrule, hunrefused, hmatch, hle, hleast⟩ :=
      hnarrow other hother.mem hother.unrefused (keyMatches_keyOfRule_iff.mp hkeyMatch)
    have hc : c ∈ classes proto dport := by simp [hsplit]
    -- A rule of the least rank is in the class the lookup stopped at.
    have hget := getElem?_classes_of_split hsplit
    have hrank : rank proto dport rule = before.length := by
      refine Nat.le_antisymm ?_ (FirstClass.le_rank hsplit hnone hrule hunrefused hmatch)
      exact (hleast winner hstored.mem hstored.unrefused
        (matches_iff_exists_class.mpr ⟨c, hc, hin⟩)).trans (rank_le_of_inClass hget hin)
    obtain ⟨c', hget', hin'⟩ := inClass_rank hmatch
    rw [hrank, hget] at hget'
    cases hget'
    exact Nat.add_le_add_left (hle.trans (hlong rule hrule hunrefused hin')) 32

/-- After a successful apply a packet meets the longest of all matching entries exactly when the
longest matching rules reach into the first class that has a match. -/
theorem apply_longestFirst_iff {env : ApplyEnv} {m m' : LinuxXdpManager}
    (h : (apply env policy).run m = .ok () m') :
    LongestFirst m'.maps proto dport src ↔
      NarrowestRanksFirst m'.localInterfaceCidrs policy proto dport src :=
  longestFirst_iff (holdsRules_of_applied h)

/-- The packet is a TCP segment to port 443 from the host on the threat list. -/
theorem apply_longestFirst_iff_shadowed :
    ∃ m', (apply idleEnv shadowedPolicy).run emptyManager = .ok () m' ∧
      (LongestFirst m'.maps protoTcp (toBe 443) (.v4 0xCB007107) ↔
        NarrowestRanksFirst m'.localInterfaceCidrs shadowedPolicy protoTcp (toBe 443)
          (.v4 0xCB007107)) := by
  obtain ⟨m', hrun, -⟩ := apply_shadowed
  exact ⟨m', hrun, apply_longestFirst_iff hrun⟩

/-- The allow rule for the service answers, although the deny of the host is longer. -/
theorem shadowed_not_longestFirst :
    compilePolicy 0 shadowedSnapshot = .ok shadowedPolicy ∧
      emptyManager.maps.ruleCidrs = KeyedStore.empty ∧ emptyManager.localInterfaceCidrs = [] ∧
      ∃ m', (apply idleEnv shadowedPolicy).run emptyManager = .ok () m' ∧
        ¬ LongestFirst m'.maps protoTcp (toBe 443) (.v4 0xCB007107) := by
  obtain ⟨m', hrun, hlocal⟩ := apply_shadowed
  refine ⟨compilePolicy_shadowed, rfl, rfl, m', hrun, ?_⟩
  rw [longestFirst_iff (holdsRules_of_applied hrun), hlocal]
  decide

end Enforcement
end XdpFirewall
