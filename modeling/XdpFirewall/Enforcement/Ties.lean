import XdpFirewall.ControlPlane.RowOrder
import XdpFirewall.DataPlane.ApplyOrder
import XdpFirewall.Enforcement.RuleMap
import XdpFirewall.Enforcement.TempBans

/-!
# Ties — rows of which the database decides which one counts

Of the rules with one key the agent keeps the first by priority, and so for rate limits; of the
actions of a country and of the countries of a network it keeps the first that it meets. Where the
first is not determined by what the rows say, it is the one that the database happens to return
first. Without such ties the same entries are pending in every order.
-/

namespace XdpFirewall
namespace Enforcement

open Net Policy Lib DataPlane ControlPlane

/-! ## Rows of one key -/

def SameRuleKey (a b : FirewallRule) : Prop :=
  a.cidr.toNetwork = b.cidr.toNetwork ∧ a.protocol = b.protocol ∧ a.port.getD 0 = b.port.getD 0

def SameLimitKey (a b : DynamicRateLimitPolicy) : Prop :=
  a.protocol = b.protocol ∧ a.port.getD 0 = b.port.getD 0

instance (a b : DynamicRateLimitPolicy) : Decidable (SameLimitKey a b) :=
  inferInstanceAs (Decidable (_ ∧ _))

/-- Whatever the order, the rule is not the first of its key. -/
def Preceded (text : TextReaders) (db : PolicyDb) (rule : FirewallRule) : Prop :=
  (∃ other, db.HasRule text other ∧ SameRuleKey other rule ∧ other.priority < rule.priority) ∨
    ∃ threat, db.HasThreatPrefix text threat ∧ threat.toNetwork = rule.cidr.toNetwork ∧
      rule.protocol = .any ∧ rule.port.getD 0 = 0

/-- Rows in force that disagree, of which either can be the first, do not exist. -/
structure NoTies (text : TextReaders) (db : PolicyDb) (external : Bool) : Prop where
  rules : ∀ a b, db.HasRule text a → db.HasRule text b → SameRuleKey a b →
    a.priority = b.priority → a.action = b.action ∨ Preceded text db a
  countries : ∀ a b, db.HasCountry a → db.HasCountry b → a.country = b.country →
    a.action = b.action
  rateLimits : ∀ a b, db.HasRateLimit a → db.HasRateLimit b → SameLimitKey a b →
    a.priority = b.priority → (a.packetsPerSecond = b.packetsPerSecond ∧ a.burst = b.burst) ∨
      ∃ other, db.HasRateLimit other ∧ SameLimitKey other a ∧ other.priority < a.priority
  blocks : external = false → ∀ a b, db.HasBlock text a → db.HasBlock text b →
    a.cidr.toNetwork = b.cidr.toNetwork → a.country = b.country

variable {text : TextReaders} {db db' : PolicyDb} {external : Bool} {now : Int}
  {snapshot snapshot' : PolicySnapshot} {policy policy' : CompiledPolicy}
  {localCidrs : List LocalInterfaceCidr}

theorem preceded_congr (h : SameRows db db') {rule : FirewallRule} :
    Preceded text db rule ↔ Preceded text db' rule := by
  simp only [Preceded, h.hasRule, h.hasThreatPrefix]

theorem NoTies.congr (hties : NoTies text db external) (h : SameRows db db')
    (hkeys : LookupKeys db) : NoTies text db' external where
  rules a b := by
    rw [← h.hasRule, ← h.hasRule, ← preceded_congr h]
    exact hties.rules a b
  countries a b := by
    rw [← h.hasCountry, ← h.hasCountry]
    exact hties.countries a b
  rateLimits a b := by
    simp only [← h.hasRateLimit]
    exact hties.rateLimits a b
  blocks hexternal a b := by
    rw [← h.hasBlock hkeys, ← h.hasBlock hkeys]
    exact hties.blocks hexternal a b

/-! ## Compiling in another order -/

/-- A rule as it is compiled. -/
def compiledRule (rule : FirewallRule) : XdpPrefixRule where
  toNetwork := rule.cidr.toNetwork
  priority := rule.priority
  action := rule.action
  protocol := rule.protocol
  port := rule.port.getD 0
  source := .firewallRule

def compiledThreat (threat : ThreatPrefix) : XdpPrefixRule where
  toNetwork := threat.toNetwork
  priority := Int32.minValue
  action := .deny
  protocol := .any
  port := 0
  source := .threatIntel

def compiledRateLimit (limit : DynamicRateLimitPolicy) : XdpDynamicRateLimit where
  protocol := limit.protocol
  port := limit.port.getD 0
  packetsPerSecond := limit.packetsPerSecond
  burst := limit.burst

theorem validatePolicy_ok_iff :
    validatePolicy snapshot = .ok () ↔
      validateDynamicDefensePolicy snapshot.dynamicDefense = .ok () ∧
        ∀ limit ∈ snapshot.dynamicRateLimits, validateDynamicRateLimitPolicy limit = .ok () := by
  rw [← forM_ok_iff, validatePolicy, bind_ok_iff]
  constructor
  · rintro ⟨u, hdefense, hlimits⟩
    exact ⟨hdefense, hlimits⟩
  · rintro ⟨hdefense, hlimits⟩
    exact ⟨(), hdefense, hlimits⟩

/-- A snapshot that compiles in one order compiles in every order, to the same policy up to the
order of its lists. -/
theorem compilePolicy_perm (h : SnapshotPerm snapshot snapshot')
    (hcompile : compilePolicy now snapshot = .ok policy) :
    ∃ policy', compilePolicy now snapshot' = .ok policy' ∧ PolicyPerm policy policy' := by
  obtain ⟨hvalid, countries, blocks, hcountries, hblocks, rfl⟩ := compilePolicy_ok hcompile
  obtain ⟨countries', hcountries', hcountriesPerm⟩ := mapM_perm h.geoCountries hcountries
  obtain ⟨blocks', hblocks', hblocksPerm⟩ := mapM_perm h.geoPrefixes hblocks
  have hvalid' : validatePolicy snapshot' = .ok () := by
    obtain ⟨hdefense, hlimits⟩ := validatePolicy_ok_iff.mp hvalid
    refine validatePolicy_ok_iff.mpr ⟨h.dynamicDefense ▸ hdefense, fun limit hlimit => ?_⟩
    exact hlimits limit (h.dynamicRateLimits.mem_iff.mpr hlimit)
  refine ⟨_, compilePolicy_of_valid now hvalid' hcountries' hblocks', ?_⟩
  constructor
  · exact h.trustedCidrs.map _
  · exact h.rules.map _
  · exact hcountriesPerm
  · exact (h.tempBans.filter _).map _
  · exact congrArg compileDynamicDefense h.dynamicDefense
  · exact h.dynamicRateLimits.map _
  · exact hblocksPerm
  · exact h.threatPrefixes.map _

/-! ## Rules -/

theorem keyOfRule_compiledRule {a b : FirewallRule} :
    keyOfRule (compiledRule a) = keyOfRule (compiledRule b) ↔ SameRuleKey a b :=
  keyOfRule_eq_iff

theorem mem_allRules_iff (hcompile : compilePolicy now snapshot = .ok policy)
    {rule : XdpPrefixRule} :
    rule ∈ allRules policy ↔
      (∃ threat ∈ snapshot.threatPrefixes, compiledThreat threat = rule) ∨
        ∃ source ∈ snapshot.rules, compiledRule source = rule := by
  obtain ⟨-, countries, blocks, -, -, rfl⟩ := compilePolicy_ok hcompile
  rw [allRules, List.mem_append]
  exact or_congr List.mem_map List.mem_map

theorem mem_allRules_perm (h : PolicyPerm policy policy') {rule : XdpPrefixRule} :
    rule ∈ allRules policy ↔ rule ∈ allRules policy' := by
  simp only [allRules, List.mem_append, h.threatPrefixes.mem_iff, h.rules.mem_iff]

theorem ruleLE_iff {a b : XdpPrefixRule} :
    ruleLE a b ↔ a.priority < b.priority ∨
      a.priority = b.priority ∧ ruleSourceOrder a.source ≤ ruleSourceOrder b.source := by
  simp [ruleLE]

theorem ruleLE_antisymm {a b : XdpPrefixRule} (hab : ruleLE a b) (hba : ruleLE b a) :
    a.priority = b.priority ∧ a.source = b.source := by
  rw [ruleLE_iff] at hab hba
  rcases hab with hlt | ⟨hpriority, hsource⟩
  · rcases hba with hlt' | ⟨hpriority, -⟩
    · exact absurd (Int32.lt_trans hlt hlt') Int32.lt_irrefl
    · rw [hpriority] at hlt
      exact absurd hlt Int32.lt_irrefl
  · rcases hba with hlt | ⟨-, hsource'⟩
    · rw [hpriority] at hlt
      exact absurd hlt Int32.lt_irrefl
    · refine ⟨hpriority, ?_⟩
      cases ha : a.source <;> cases hb : b.source <;>
        simp_all [ruleSourceOrder]

/-- Where the local filter refuses one rule of a key, what it lets through allows. -/
theorem action_of_refused {refused rule : XdpPrefixRule}
    (hrefused : ¬ Unrefused localCidrs refused) (hrule : Unrefused localCidrs rule)
    (hkey : keyOfRule refused = keyOfRule rule) : rule.action = .allow := by
  rw [Unrefused, Bool.not_eq_false, denyRuleMatchesLocalInterface_iff] at hrefused
  obtain ⟨-, own, hown, hcontains⟩ := hrefused
  rw [(keyOfRule_eq_iff.mp hkey).1] at hcontains
  by_contra hnot
  have hdeny : rule.action = .deny := by
    cases haction : rule.action with
    | allow => exact absurd haction hnot
    | deny => rfl
  have := denyRuleMatchesLocalInterface_iff.mpr ⟨hdeny, own, hown, hcontains⟩
  rw [Unrefused, this] at hrule
  cases hrule

/-- A rule that precedes another one of its key comes before it in every order. -/
theorem exists_before_of_preceded (hloaded : LoadedFrom text db defaultPolicyName now snapshot)
    {compileNow : Int} (hcompile : compilePolicy compileNow snapshot = .ok policy)
    {rule : FirewallRule} (h : Preceded text db rule) :
    ∃ other ∈ allRules policy, keyOfRule other = keyOfRule (compiledRule rule) ∧
      ¬ ruleLE (compiledRule rule) other := by
  rcases h with ⟨other, hother, hkey, hlt⟩ | ⟨threat, hthreat, hnet, hprotocol, hport⟩
  · refine ⟨compiledRule other, ?_, keyOfRule_compiledRule.mpr hkey, ?_⟩
    · exact (mem_allRules_iff hcompile).mpr
        (Or.inr ⟨other, hloaded.mem_rules_iff.mpr hother, rfl⟩)
    · rw [ruleLE_iff]
      rintro (hlt' | ⟨hpriority, -⟩)
      · exact Int32.lt_irrefl (Int32.lt_trans hlt hlt')
      · have hpriority : rule.priority = other.priority := hpriority
        rw [hpriority] at hlt
        exact Int32.lt_irrefl hlt
  · refine ⟨compiledThreat threat, ?_, ?_, ?_⟩
    · exact (mem_allRules_iff hcompile).mpr
        (Or.inl ⟨threat, hloaded.mem_threatPrefixes_iff.mpr hthreat, rfl⟩)
    · exact keyOfRule_eq_iff.mpr ⟨hnet, hprotocol.symm, hport.symm⟩
    · rw [ruleLE_iff]
      rintro (hlt | ⟨-, hsource⟩)
      · exact Int32.not_lt_minValue hlt
      · exact Nat.not_succ_le_zero 0 hsource

theorem unrefused_nil (rule : XdpPrefixRule) : Unrefused [] rule := by
  rw [Unrefused, ← Bool.not_eq_true, denyRuleMatchesLocalInterface_iff]
  rintro ⟨-, own, hown, -⟩
  cases hown

theorem preceded_of_sameKey {a b : FirewallRule} (hkey : SameRuleKey a b)
    (hpriority : a.priority = b.priority) (h : Preceded text db b) : Preceded text db a := by
  obtain ⟨hnet, hprotocol, hport⟩ := hkey
  simpa only [Preceded, SameRuleKey, hnet, hprotocol, hport, hpriority] using h

/-- A rule that nothing precedes comes before every rule of its key, or with it. -/
theorem ruleLE_of_not_preceded (hloaded : LoadedFrom text db defaultPolicyName now snapshot)
    {compileNow : Int} (hcompile : compilePolicy compileNow snapshot = .ok policy)
    {rule : FirewallRule} (h : ¬ Preceded text db rule) {other : XdpPrefixRule}
    (hmem : other ∈ allRules policy) (hkey : keyOfRule other = keyOfRule (compiledRule rule)) :
    (∃ source, db.HasRule text source ∧ compiledRule source = other ∧
        SameRuleKey source rule) ∧ ruleLE (compiledRule rule) other := by
  rcases (mem_allRules_iff hcompile).mp hmem with ⟨threat, hthreat, rfl⟩ | ⟨source, hsource, rfl⟩
  · obtain ⟨hnet, hprotocol, hport⟩ := keyOfRule_eq_iff.mp hkey
    exact absurd (Or.inr ⟨threat, hloaded.mem_threatPrefixes_iff.mp hthreat, hnet, hprotocol.symm,
      hport.symm⟩) h
  · have hsource := hloaded.mem_rules_iff.mp hsource
    have hsame := keyOfRule_compiledRule.mp hkey
    have hle : rule.priority ≤ source.priority :=
      Int32.not_lt.mp fun hlt => h (Or.inl ⟨source, hsource, hsame, hlt⟩)
    refine ⟨⟨source, hsource, rfl, hsame⟩, ruleLE_iff.mpr ?_⟩
    rcases Int32.lt_or_eq_of_le hle with hlt | heq
    · exact Or.inl hlt
    · exact Or.inr ⟨heq, Nat.le_refl _⟩

/-- A rule that nothing precedes is stored if its row comes first. -/
theorem stored_of_front (hloaded : LoadedFrom text db defaultPolicyName now snapshot)
    {compileNow : Int} (hcompile : compilePolicy compileNow snapshot = .ok policy)
    {row : FirewallRuleRow} {rest : List FirewallRuleRow} (hrows : db.firewallRules = row :: rest)
    (hforce : row.policyName = defaultPolicyName ∧ row.enabled) {rule : FirewallRule}
    (hparse : parseRule text row = .ok rule) (h : ¬ Preceded text db rule) :
    Stored [] policy (compiledRule rule) := by
  obtain ⟨first, before, after, hfirst, hsplit, hbefore⟩ := hloaded.rules_front hrows hforce
  cases hparse.symm.trans hfirst
  have hall : allRules policy =
      (compileThreatPrefixes snapshot.threatPrefixes ++ before.map compiledRule) ++
        compiledRule rule :: after.map compiledRule := by
    obtain ⟨-, countries, blocks, -, -, rfl⟩ := compilePolicy_ok hcompile
    rw [allRules, hsplit, List.append_assoc]
    exact congrArg _ List.map_append
  refine ⟨_, hall ▸ isFirstLeast_of_split ?_ ?_ ?_⟩
  · exact competes_iff.mpr ⟨unrefused_nil _, rfl⟩
  · intro other hother hcompetes
    have hmem : other ∈ allRules policy := hall ▸ List.mem_append_left _ hother
    have hkey := (competes_iff.mp hcompetes).2
    obtain ⟨⟨source, hsource, hcompiled, hsame⟩, -⟩ :=
      ruleLE_of_not_preceded hloaded hcompile h hmem hkey
    rcases List.mem_append.mp hother with hthreat | hbefore'
    · obtain ⟨threat, -, rfl⟩ := List.mem_map.mp hthreat
      have hsource := congrArg XdpPrefixRule.source hcompiled
      cases hsource
    · obtain ⟨source', hmem', rfl⟩ := List.mem_map.mp hbefore'
      have hrule : db.HasRule text source' :=
        hloaded.mem_rules_iff.mp (hsplit ▸ List.mem_append_left _ hmem')
      exact h (Or.inl ⟨source', hrule, keyOfRule_compiledRule.mp hkey, hbefore source' hmem'⟩)
  · intro other hother hcompetes
    exact (ruleLE_of_not_preceded hloaded hcompile h (hall ▸ hother)
      (competes_iff.mp hcompetes).2).2

/-! ## Rate limits -/

theorem customRateKeyId_eq_iff {a b : DynamicRateLimitPolicy} :
    customRateKeyId (customRateKey a.protocol (a.port.getD 0)) =
        customRateKeyId (customRateKey b.protocol (b.port.getD 0)) ↔ SameLimitKey a b := by
  constructor
  · intro h
    obtain ⟨hprotocol, hport⟩ := Prod.mk.inj h
    exact ⟨protoCode_injective hprotocol, toBe_injective hport⟩
  · rintro ⟨hprotocol, hport⟩
    rw [hprotocol, hport]

/-- The first of the rate limits of its key. -/
def FirstLimit (limits : List DynamicRateLimitPolicy) (limit : DynamicRateLimitPolicy) : Prop :=
  (limits.find? fun other => SameLimitKey other limit) = some limit

/-- The entry of a rate limit. -/
def limitEntry (limit : DynamicRateLimitPolicy) : CustomRateKey × CustomRateValue :=
  customRateEntry (customRateKey limit.protocol (limit.port.getD 0), compiledRateLimit limit)

theorem mem_customRateEntries_iff {limits : List DynamicRateLimitPolicy}
    {entry : CustomRateKey × CustomRateValue} :
    entry ∈ (pendingCustomRateLimits (compileDynamicRateLimits limits)).items.map
        customRateEntry ↔
      ∃ limit, FirstLimit limits limit ∧ entry = limitEntry limit := by
  let item (limit : DynamicRateLimitPolicy) : CustomRateKey × XdpDynamicRateLimit :=
    (customRateKey limit.protocol (limit.port.getD 0), compiledRateLimit limit)
  have hlist : (compileDynamicRateLimits limits).map
      (fun limit => (customRateKey limit.protocol limit.port, limit)) = limits.map item := by
    rw [compileDynamicRateLimits, List.map_map]
    rfl
  have hfirst : ∀ limit, (fun other => decide (customRateKeyId (item other).1 =
      customRateKeyId (item limit).1)) = fun other => decide (SameLimitKey other limit) := by
    intro limit
    funext other
    exact decide_eq_decide.mpr customRateKeyId_eq_iff
  have hmem : ∀ limit, item limit ∈ (pendingCustomRateLimits
      (compileDynamicRateLimits limits)).items ↔ ∃ first, FirstLimit limits first ∧
        item first = item limit := by
    intro limit
    rw [pendingCustomRateLimits, hlist, Collected.mem_items_collect, List.find?_map,
      Option.map_eq_some_iff]
    constructor
    · rintro ⟨first, hfind, hsame⟩
      refine ⟨first, ?_, hsame⟩
      rw [FirstLimit, ← hfirst first, hsame]
      exact hfind
    · rintro ⟨first, hfind, hsame⟩
      refine ⟨first, ?_, hsame⟩
      rw [FirstLimit, ← hfirst first, hsame] at hfind
      exact hfind
  rw [List.mem_map]
  constructor
  · rintro ⟨kept, hkept, rfl⟩
    have hsource : kept ∈ limits.map item := hlist ▸ Collected.mem_of_mem_items_collect hkept
    obtain ⟨limit, -, rfl⟩ := List.mem_map.mp hsource
    obtain ⟨first, hfind, hsame⟩ := (hmem limit).mp hkept
    exact ⟨first, hfind, congrArg customRateEntry hsame.symm⟩
  · rintro ⟨limit, hfind, rfl⟩
    exact ⟨item limit, (hmem limit).mpr ⟨limit, hfind, rfl⟩, rfl⟩

theorem exists_firstLimit {limits : List DynamicRateLimitPolicy} {limit : DynamicRateLimitPolicy}
    (h : limit ∈ limits) : ∃ first, FirstLimit limits first ∧ SameLimitKey first limit := by
  have hsome : (limits.find? fun other => SameLimitKey other limit).isSome := by
    rw [List.find?_isSome]
    exact ⟨limit, h, decide_eq_true ⟨rfl, rfl⟩⟩
  obtain ⟨first, hfind⟩ := Option.isSome_iff_exists.mp hsome
  have hkey : SameLimitKey first limit := by simpa using List.find?_some hfind
  refine ⟨first, ?_, hkey⟩
  have hsame : (fun other => decide (SameLimitKey other first)) =
      fun other => decide (SameLimitKey other limit) := by
    funext other
    have hiff : SameLimitKey other first ↔ SameLimitKey other limit := by
      simp only [SameLimitKey, hkey.1, hkey.2]
    exact decide_eq_decide.mpr hiff
  rw [FirstLimit, hsame]
  exact hfind

/-- A rate limit that no other one precedes is the first of its key if its row comes first. -/
theorem firstLimit_of_front (hloaded : LoadedFrom text db defaultPolicyName now snapshot)
    {row : DynamicRateLimitRow} {rest : List DynamicRateLimitRow}
    (hrows : db.dynamicRateLimits = row :: rest)
    (hforce : row.policyName = defaultPolicyName ∧ row.enabled) {limit : DynamicRateLimitPolicy}
    (hparse : parseDynamicRateLimit row = .ok limit)
    (h : ∀ other, db.HasRateLimit other → SameLimitKey other limit →
      ¬ other.priority < limit.priority) : FirstLimit snapshot.dynamicRateLimits limit := by
  obtain ⟨first, before, after, hfirst, hsplit, hbefore⟩ :=
    hloaded.dynamicRateLimits_front hrows hforce
  cases hparse.symm.trans hfirst
  have hnone : (before.find? fun other => SameLimitKey other limit) = none := by
    rw [List.find?_eq_none]
    intro other hother hsame
    have hlimit : db.HasRateLimit other :=
      hloaded.mem_dynamicRateLimits_iff.mp (hsplit ▸ List.mem_append_left _ hother)
    exact h other hlimit (of_decide_eq_true hsame) (hbefore other hother)
  rw [FirstLimit, hsplit, List.find?_append, hnone, Option.none_or]
  exact List.find?_cons_of_pos (decide_eq_true ⟨rfl, rfl⟩)

/-! ## Countries and blocks -/

theorem network_eq_of_paddedKeyId {a b : Network}
    (h : paddedKeyId (paddedKey a.addr a.prefixLen) =
      paddedKeyId (paddedKey b.addr b.prefixLen)) : a = b :=
  paddedKey_bits_injective (congrArg LpmKey.bits (paddedKey_eq_of_pad_eq h rfl))

theorem countryKey_injective {a b : U16} (h : countryKey a = countryKey b) : a = b := by
  have hnat := congrArg BitVec.toNat h
  rw [countryKey, countryKey, BitVec.toNat_setWidth, BitVec.toNat_setWidth,
    Nat.mod_eq_of_lt (by omega), Nat.mod_eq_of_lt (by omega)] at hnat
  exact BitVec.eq_of_toNat_eq hnat

theorem mem_countryRules (hcompile : compilePolicy now snapshot = .ok policy)
    {rule : XdpCountryRule} (h : rule ∈ policy.countryRules) :
    ∃ country ∈ snapshot.geoCountries, encodeCountry country.country = .ok rule.country ∧
      country.action = rule.action := by
  obtain ⟨-, countries, blocks, hcountries, -, rfl⟩ := compilePolicy_ok hcompile
  obtain ⟨country, hmem, hrule⟩ := mem_of_mapM_ok hcountries h
  obtain ⟨code, hcode, rfl⟩ := map_ok hrule
  exact ⟨country, hmem, hcode, rfl⟩

theorem mem_geoPrefixes (hcompile : compilePolicy now snapshot = .ok policy)
    {geo : XdpGeoPrefix} (h : geo ∈ policy.geoPrefixes) :
    ∃ block ∈ snapshot.geoPrefixes, encodeCountry block.country = .ok geo.country ∧
      block.cidr.toNetwork = geo.toNetwork := by
  obtain ⟨-, countries, blocks, -, hblocks, rfl⟩ := compilePolicy_ok hcompile
  obtain ⟨block, hmem, hgeo⟩ := mem_of_mapM_ok hblocks h
  obtain ⟨code, hcode, rfl⟩ := map_ok hgeo
  exact ⟨block, hmem, hcode, rfl⟩

/-- The country that comes first has its action written. -/
theorem countryEntry_of_front (hcompile : compilePolicy now snapshot = .ok policy)
    {country : GeoCountryPolicy} {after : List GeoCountryPolicy}
    (hcountries : snapshot.geoCountries = country :: after) (wallNow : Int) :
    ∃ code, encodeCountry country.country = .ok code ∧
      (countryKey code, ({ action := actionCode country.action } : CountryValue)) ∈
        (buildPendingPolicyKeys localCidrs policy wallNow).countryEntries := by
  obtain ⟨-, countries, blocks, hcompiled, -, rfl⟩ := compilePolicy_ok hcompile
  rw [compileCountryRules, hcountries, List.mapM_cons] at hcompiled
  obtain ⟨rule, hrule, hcompiled⟩ := bind_ok_iff.mp hcompiled
  obtain ⟨others, -, hcompiled⟩ := bind_ok_iff.mp hcompiled
  cases hcompiled
  obtain ⟨code, hcode, rfl⟩ := map_ok hrule
  let item : U32 × XdpCountryRule :=
    (countryKey code, { country := code, action := country.action })
  have hpending : item ∈ (pendingCountryRules (item.2 :: others)).items :=
    Collected.mem_items_collect.mpr (List.find?_cons_of_pos (decide_eq_true rfl))
  exact ⟨code, hcode, List.mem_map.mpr ⟨item, hpending, rfl⟩⟩

/-- The network of a block of the first country is written with that country. -/
theorem geoEntry_of_front (hcompile : compilePolicy now snapshot = .ok policy)
    {first rest : List GeoIpPrefixPolicy} (hblocks : snapshot.geoPrefixes = first ++ rest)
    {block : GeoIpPrefixPolicy} (hblock : block ∈ first) (wallNow : Int) :
    ∃ other ∈ first, ∃ code, encodeCountry other.country = .ok code ∧
      (geoKey block.cidr.toNetwork.addr block.cidr.toNetwork.prefixLen,
          ({ country := code } : GeoValue)) ∈
        (buildPendingPolicyKeys localCidrs policy wallNow).geoEntries := by
  obtain ⟨-, countries, blocks, -, hcompiled, rfl⟩ := compilePolicy_ok hcompile
  rw [compileGeoPrefixes, hblocks] at hcompiled
  obtain ⟨front, back, hfront, -, rfl⟩ := mapM_append_ok hcompiled
  obtain ⟨geo, hgeo, hcompiledBlock⟩ := exists_mem_of_mapM_ok hfront hblock
  obtain ⟨code, -, rfl⟩ := map_ok hcompiledBlock
  let item (geo : XdpGeoPrefix) : GeoKey × XdpGeoPrefix := (geoKey geo.addr geo.prefixLen, geo)
  let ident (item : GeoKey × XdpGeoPrefix) : GeoId := geoKeyId item.1
  obtain ⟨kept, hkept, hmem, hident⟩ : ∃ kept ∈ front.map item,
      kept ∈ (Collected.collect ident (front.map item ++ back.map item)).items ∧
        ident kept = ident (item { toNetwork := block.cidr.toNetwork, country := code }) :=
    Collected.exists_mem_items_front (List.mem_map_of_mem hgeo) (back.map item)
  rw [← List.map_append] at hmem
  obtain ⟨geo, hgeo', rfl⟩ := List.mem_map.mp hkept
  obtain ⟨other, hother, hcompiledOther⟩ := mem_of_mapM_ok hfront hgeo'
  obtain ⟨code', hcode', rfl⟩ := map_ok hcompiledOther
  have hnet : other.cidr.toNetwork = block.cidr.toNetwork := network_eq_of_paddedKeyId hident
  refine ⟨other, hother, code', hcode', List.mem_map.mpr ⟨_, hmem, ?_⟩⟩
  simp only [item, geoEntry, geoValue, hnet]

/-! ## The same entries are pending -/

section Sufficient

variable {compileNow : Int} {wallNow : Int}
  (hloaded : LoadedFrom text db defaultPolicyName now snapshot)
  (hcompile : compilePolicy compileNow snapshot = .ok policy)
  (hperm : PolicyPerm policy policy') (hties : NoTies text db external)
include hloaded hcompile hperm hties

/-- The rules that two orders store under one key have one value. -/
theorem ruleValue_eq_of_stored {a b : XdpPrefixRule} (ha : Stored localCidrs policy a)
    (hb : Stored localCidrs policy' b) (hkey : keyOfRule a = keyOfRule b) :
    ruleValue a = ruleValue b := by
  have hmem : b ∈ allRules policy := (mem_allRules_perm hperm).mpr hb.mem
  have hmem' : a ∈ allRules policy' := (mem_allRules_perm hperm).mp ha.mem
  -- Neither goes before the other.
  obtain ⟨hpriority, hsource⟩ :=
    ruleLE_antisymm (ha.le hmem hb.unrefused hkey.symm) (hb.le hmem' ha.unrefused hkey)
  have haction : a.action = b.action := by
    rcases (mem_allRules_iff hcompile).mp ha.mem with ⟨threat, -, rfl⟩ | ⟨rule, hrule, rfl⟩
    · rcases (mem_allRules_iff hcompile).mp hmem with ⟨threat', -, rfl⟩ | ⟨rule', -, rfl⟩
      · rfl
      · cases hsource
    · rcases (mem_allRules_iff hcompile).mp hmem with ⟨threat', -, rfl⟩ | ⟨rule', hrule', rfl⟩
      · cases hsource
      · rcases hties.rules rule rule' (hloaded.mem_rules_iff.mp hrule)
          (hloaded.mem_rules_iff.mp hrule') (keyOfRule_compiledRule.mp hkey) hpriority with
          hsame | hpreceded
        · exact hsame
        · obtain ⟨other, hother, hkey', hlt⟩ :=
            exists_before_of_preceded hloaded hcompile hpreceded
          -- Had the filter let it through, it would be stored.
          have hrefused : ¬ Unrefused localCidrs other := fun h => hlt (ha.le hother h hkey')
          rw [action_of_refused hrefused ha.unrefused hkey',
            action_of_refused hrefused hb.unrefused (hkey'.trans hkey)]
  rw [ruleValue, ruleValue, hpriority, hsource, haction]

theorem mem_ruleEntries_congr (entry : RuleKey × RuleValue) :
    entry ∈ (buildPendingPolicyKeys localCidrs policy wallNow).ruleEntries ↔
      entry ∈ (buildPendingPolicyKeys localCidrs policy' wallNow).ruleEntries := by
  rw [mem_ruleEntries_iff, mem_ruleEntries_iff]
  constructor
  · rintro ⟨rule, hrule, rfl⟩
    obtain ⟨winner, hwinner, hkey⟩ :=
      exists_stored ((mem_allRules_perm hperm).mp hrule.mem) hrule.unrefused
    have hvalue := ruleValue_eq_of_stored hloaded hcompile hperm hties hrule hwinner hkey.symm
    exact ⟨winner, hwinner, by rw [hkey, hvalue]⟩
  · rintro ⟨rule, hrule, rfl⟩
    obtain ⟨winner, hwinner, hkey⟩ :=
      exists_stored ((mem_allRules_perm hperm).mpr hrule.mem) hrule.unrefused
    have hvalue := ruleValue_eq_of_stored hloaded hcompile hperm hties hwinner hrule hkey
    exact ⟨winner, hwinner, by rw [hkey, hvalue]⟩

end Sufficient

/-- The first rate limits of one key in two orders have one value. -/
theorem limitEntry_eq_of_first (hloaded : LoadedFrom text db defaultPolicyName now snapshot)
    (hloaded' : LoadedFrom text db' defaultPolicyName now snapshot')
    (hperm : snapshot.dynamicRateLimits.Perm snapshot'.dynamicRateLimits)
    (hties : NoTies text db external) {a b : DynamicRateLimitPolicy}
    (ha : FirstLimit snapshot.dynamicRateLimits a)
    (hb : FirstLimit snapshot'.dynamicRateLimits b) (hkey : SameLimitKey a b) :
    limitEntry a = limitEntry b := by
  have hmem := List.mem_of_find?_eq_some ha
  have hmem' := hperm.mem_iff.mpr (List.mem_of_find?_eq_some hb)
  have hfirst : ∀ other ∈ snapshot.dynamicRateLimits, SameLimitKey other a →
      a.priority ≤ other.priority := by
    intro other hother hsame
    rcases find?_rel_of_pairwise hloaded.pairwise_dynamicRateLimits ha hother
      (decide_eq_true hsame) with rfl | hle
    · exact Int32.le_refl _
    · exact hle
  have hfirst' : b.priority ≤ a.priority := by
    rcases find?_rel_of_pairwise hloaded'.pairwise_dynamicRateLimits hb (hperm.mem_iff.mp hmem)
      (decide_eq_true hkey) with rfl | hle
    · exact Int32.le_refl _
    · exact hle
  have hpriority := Int32.le_antisymm (hfirst b hmem' ⟨hkey.1.symm, hkey.2.symm⟩) hfirst'
  rcases hties.rateLimits a b (hloaded.mem_dynamicRateLimits_iff.mp hmem)
    (hloaded.mem_dynamicRateLimits_iff.mp hmem') hkey hpriority with
    ⟨hrate, hburst⟩ | ⟨other, hother, hsame, hlt⟩
  · simp only [limitEntry, customRateEntry, customRateValue, compiledRateLimit, hkey.1, hkey.2,
      hrate, hburst]
  · have hle := hfirst other (hloaded.mem_dynamicRateLimits_iff.mpr hother) hsame
    exact absurd (Int32.lt_of_lt_of_le hlt hle) Int32.lt_irrefl

theorem mem_customRateEntries_congr
    (hloaded : LoadedFrom text db defaultPolicyName now snapshot)
    (hloaded' : LoadedFrom text db' defaultPolicyName now snapshot')
    (hperm : snapshot.dynamicRateLimits.Perm snapshot'.dynamicRateLimits)
    (hties : NoTies text db external) (entry : CustomRateKey × CustomRateValue) :
    entry ∈ (pendingCustomRateLimits
        (compileDynamicRateLimits snapshot.dynamicRateLimits)).items.map customRateEntry ↔
      entry ∈ (pendingCustomRateLimits
        (compileDynamicRateLimits snapshot'.dynamicRateLimits)).items.map customRateEntry := by
  rw [mem_customRateEntries_iff, mem_customRateEntries_iff]
  constructor
  · rintro ⟨limit, hlimit, rfl⟩
    obtain ⟨first, hfirst, hkey⟩ :=
      exists_firstLimit (hperm.mem_iff.mp (List.mem_of_find?_eq_some hlimit))
    exact ⟨first, hfirst, limitEntry_eq_of_first hloaded hloaded' hperm hties hlimit hfirst
      ⟨hkey.1.symm, hkey.2.symm⟩⟩
  · rintro ⟨limit, hlimit, rfl⟩
    obtain ⟨first, hfirst, hkey⟩ :=
      exists_firstLimit (hperm.mem_iff.mpr (List.mem_of_find?_eq_some hlimit))
    exact ⟨first, hfirst,
      (limitEntry_eq_of_first hloaded hloaded' hperm hties hfirst hlimit hkey).symm⟩

section Sufficient

variable {compileNow : Int} {wallNow : Int}
  (hloaded : LoadedFrom text db defaultPolicyName now snapshot)
  (hcompile : compilePolicy compileNow snapshot = .ok policy)
  (hperm : PolicyPerm policy policy') (hties : NoTies text db external)
include hcompile hperm hties

include hloaded in
theorem mem_countryEntries_congr (entry : U32 × CountryValue) :
    entry ∈ (buildPendingPolicyKeys localCidrs policy wallNow).countryEntries ↔
      entry ∈ (buildPendingPolicyKeys localCidrs policy' wallNow).countryEntries := by
  refine Collected.mem_map_items_congr (fun item => (hperm.countryRules.map _).mem_iff) ?_ entry
  rintro item hitem item' hitem' hkey
  obtain ⟨rule, hrule, rfl⟩ := List.mem_map.mp hitem
  obtain ⟨rule', hrule', rfl⟩ := List.mem_map.mp hitem'
  obtain ⟨country, hmem, hcode, haction⟩ := mem_countryRules hcompile hrule
  obtain ⟨country', hmem', hcode', haction'⟩ := mem_countryRules hcompile hrule'
  have hcountry := hloaded.mem_geoCountries_iff.mp hmem
  have hcountry' := hloaded.mem_geoCountries_iff.mp hmem'
  have hnumber : rule.country = rule'.country := countryKey_injective hkey
  have hsame := eq_of_encodeCountry (normalized_of_hasCountry hcountry)
    (normalized_of_hasCountry hcountry') hcode (hnumber ▸ hcode')
  have hactions := hties.countries country country' hcountry hcountry' hsame
  rw [haction, haction'] at hactions
  simp only [countryEntry, countryValue, hnumber, hactions]

include hloaded in
theorem mem_geoEntries_congr
    (hblocks : external = false →
      loadPersistedGeoPrefixes text db (blockCountries db false snapshot.geoCountries) =
        .ok snapshot.geoPrefixes)
    (hexternal : external = true → policy.geoPrefixes = policy'.geoPrefixes)
    (entry : GeoKey × GeoValue) :
    entry ∈ (buildPendingPolicyKeys localCidrs policy wallNow).geoEntries ↔
      entry ∈ (buildPendingPolicyKeys localCidrs policy' wallNow).geoEntries := by
  cases hpaged : external with
  | true =>
      rw [buildPendingPolicyKeys, buildPendingPolicyKeys, PendingPolicyKeys.geoEntries,
        PendingPolicyKeys.geoEntries, hexternal hpaged]
  | false =>
      refine Collected.mem_map_items_congr (fun item => (hperm.geoPrefixes.map _).mem_iff) ?_ entry
      rintro item hitem item' hitem' hkey
      obtain ⟨geo, hgeo, rfl⟩ := List.mem_map.mp hitem
      obtain ⟨geo', hgeo', rfl⟩ := List.mem_map.mp hitem'
      obtain ⟨block, hmem, hcode, hnet⟩ := mem_geoPrefixes hcompile hgeo
      obtain ⟨block', hmem', hcode', hnet'⟩ := mem_geoPrefixes hcompile hgeo'
      have hsame : geo.toNetwork = geo'.toNetwork := network_eq_of_paddedKeyId hkey
      have hcountry := hties.blocks hpaged block block'
        ((hloaded.mem_geoPrefixes_iff (hblocks hpaged)).mp hmem)
        ((hloaded.mem_geoPrefixes_iff (hblocks hpaged)).mp hmem')
        (hnet.trans (hsame.trans hnet'.symm))
      rw [hcountry] at hcode
      have hnumber : geo.country = geo'.country := Except.ok.inj (hcode.symm.trans hcode')
      simp only [geoEntry, geoValue, hsame, hnumber]

end Sufficient

/-! ## What does not depend on the order -/

theorem mem_trustedEntries_congr (hperm : PolicyPerm policy policy')
    (entry : TrustedKey × TrustedValue) :
    entry ∈ (pendingTrustedKeys policy.trustedPrefixes).items.map trustedEntry ↔
      entry ∈ (pendingTrustedKeys policy'.trustedPrefixes).items.map trustedEntry := by
  have hcompact :=
    compact_perm isCovering_trustedPrefixCovers.irrefl hperm.trustedPrefixes
  refine Collected.mem_map_items_congr (fun key => (hcompact.map _).mem_iff) ?_ entry
  rintro key hkey key' hkey' hident
  obtain ⟨trusted, -, rfl⟩ := List.mem_map.mp hkey
  obtain ⟨trusted', -, rfl⟩ := List.mem_map.mp hkey'
  rw [network_eq_of_paddedKeyId hident]

theorem mem_pendingTempBans_congr (hperm : PolicyPerm policy policy') {wallNow : Int}
    (item : TempBanKey × XdpTempBan) :
    item ∈ (pendingTempBans localCidrs policy.tempBans wallNow).items ↔
      item ∈ (pendingTempBans localCidrs policy'.tempBans wallNow).items := by
  have hcompact : ∀ ban, ban ∈ compactTempBans policy.tempBans ↔
      ban ∈ compactTempBans policy'.tempBans := fun ban =>
    (compact_perm isCovering_tempBanCoversOrSupersedes.irrefl hperm.tempBans).mem_iff
  rw [mem_pendingTempBans_filtered_iff, mem_pendingTempBans_filtered_iff, hcompact]

theorem ids_pendingTempBans_congr (hperm : PolicyPerm policy policy') {wallNow : Int} :
    (pendingTempBans localCidrs policy.tempBans wallNow).ids =
      (pendingTempBans localCidrs policy'.tempBans wallNow).ids := by
  rw [pendingTempBans_eq, pendingTempBans_eq]
  refine Collected.ids_collect_congr fun item => ?_
  have hcompact :=
    compact_perm isCovering_tempBanCoversOrSupersedes.irrefl hperm.tempBans
  exact (hcompact.filterMap _).mem_iff

end Enforcement
end XdpFirewall
