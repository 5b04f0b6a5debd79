import XdpFirewall.ControlPlane.GeoPages
import XdpFirewall.Lib.Reorder

/-!
# RowOrder — what a loaded policy owes to the order of the rows

A database returns rows that a query does not order in any order it likes. Rules and rate limits are
ordered by their priority only, countries and threat sources not at all. Whatever the order, a
snapshot is the same up to the order of its lists, and of the rows that a query leaves tied any one
can come first.
-/

namespace XdpFirewall
namespace ControlPlane

open Lib Policy

/-! ## The same rows -/

/-- The tables hold the same rows, in any order. -/
structure SameRows (db db' : PolicyDb) : Prop where
  policyVersions : db.policyVersions.Perm db'.policyVersions
  firewallRules : db.firewallRules.Perm db'.firewallRules
  geoCountries : db.geoCountries.Perm db'.geoCountries
  geoIpPrefixes : db.geoIpPrefixes.Perm db'.geoIpPrefixes
  threatSources : db.threatSources.Perm db'.threatSources
  threatSourceStates : db.threatSourceStates.Perm db'.threatSourceStates
  threatPrefixes : db.threatPrefixes.Perm db'.threatPrefixes
  dynamicDefense : db.dynamicDefense.Perm db'.dynamicDefense
  dynamicRateLimits : db.dynamicRateLimits.Perm db'.dynamicRateLimits
  tempBans : db.tempBans.Perm db'.tempBans
  trustedCidrs : db.trustedCidrs.Perm db'.trustedCidrs

/-- The columns by which a query looks up one row are unique. -/
structure LookupKeys (db : PolicyDb) : Prop where
  dynamicDefense : (db.dynamicDefense.map DynamicDefenseRow.policyName).Nodup
  geoIpPrefixes : (db.geoIpPrefixes.map GeoIpPrefixRow.country).Nodup

variable {text : TextReaders} {db db' : PolicyDb} {policyName : String} {external : Bool}
  {now : Int} {snapshot snapshot' : PolicySnapshot}

theorem SameRows.refl (db : PolicyDb) : SameRows db db :=
  ⟨.refl _, .refl _, .refl _, .refl _, .refl _, .refl _, .refl _, .refl _, .refl _, .refl _,
    .refl _⟩

theorem SameRows.between {db₁ db₂ : PolicyDb} (h₁ : SameRows db db₁) (h₂ : SameRows db db₂) :
    SameRows db₁ db₂ where
  policyVersions := h₁.policyVersions.symm.trans h₂.policyVersions
  firewallRules := h₁.firewallRules.symm.trans h₂.firewallRules
  geoCountries := h₁.geoCountries.symm.trans h₂.geoCountries
  geoIpPrefixes := h₁.geoIpPrefixes.symm.trans h₂.geoIpPrefixes
  threatSources := h₁.threatSources.symm.trans h₂.threatSources
  threatSourceStates := h₁.threatSourceStates.symm.trans h₂.threatSourceStates
  threatPrefixes := h₁.threatPrefixes.symm.trans h₂.threatPrefixes
  dynamicDefense := h₁.dynamicDefense.symm.trans h₂.dynamicDefense
  dynamicRateLimits := h₁.dynamicRateLimits.symm.trans h₂.dynamicRateLimits
  tempBans := h₁.tempBans.symm.trans h₂.tempBans
  trustedCidrs := h₁.trustedCidrs.symm.trans h₂.trustedCidrs

theorem SameRows.lookupKeys (h : SameRows db db') (hkeys : LookupKeys db) : LookupKeys db' where
  dynamicDefense := (h.dynamicDefense.map _).nodup_iff.mp hkeys.dynamicDefense
  geoIpPrefixes := (h.geoIpPrefixes.map _).nodup_iff.mp hkeys.geoIpPrefixes

/-! ## What an agent gets -/

/-- The countries whose address blocks are read: ordered by their codes where an agent fetches the
blocks page by page, in the order of the snapshot where they come with it. -/
def blockCountries (db : PolicyDb) (external : Bool) (countries : List GeoCountryPolicy) :
    List String :=
  if external then enabledGeoCountries db else countries.map GeoCountryPolicy.country

/-- The snapshot of the default policy, with the address blocks from its pages or from itself. -/
def deliveredSnapshot (text : TextReaders) (db : PolicyDb) (external : Bool) (now : Int) :
    Except String PolicySnapshot :=
  if external then do
    let snapshot ← loadPolicyWithoutGeoPrefixes text db defaultPolicyName now
    return { snapshot with
      geoPrefixes := ← loadPersistedGeoPrefixes text db (enabledGeoCountries db) }
  else
    loadPolicy text db defaultPolicyName now

/-- The parts of a snapshot are what the loaders of the tables give. The address blocks are left
out. -/
structure LoadedFrom (text : TextReaders) (db : PolicyDb) (policyName : String) (now : Int)
    (snapshot : PolicySnapshot) : Prop where
  version : policyVersion db policyName = snapshot.version
  rules : loadFirewallRules text db policyName = .ok snapshot.rules
  geoCountries : loadGeoCountries db policyName = .ok snapshot.geoCountries
  threatSources : loadThreatSources db policyName = .ok snapshot.threatSources
  threatPrefixes : loadPersistedThreatPrefixes text db policyName
    (snapshot.threatSources.map ThreatSource.name) = .ok snapshot.threatPrefixes
  dynamicDefense : loadDynamicDefense db policyName = .ok snapshot.dynamicDefense
  dynamicRateLimits : loadDynamicRateLimits db policyName = .ok snapshot.dynamicRateLimits
  tempBans : loadActiveTempBans text db policyName now = .ok snapshot.tempBans
  trustedCidrs : loadTrustedCidrs text db policyName = .ok snapshot.trustedCidrs

theorem loadPolicyWithGeoPrefixes_ok_iff {includeGeoPrefixes : Bool} :
    loadPolicyWithGeoPrefixes text db policyName includeGeoPrefixes now = .ok snapshot ↔
      LoadedFrom text db policyName now snapshot ∧
        loadGeoPrefixes text db (snapshot.geoCountries.map GeoCountryPolicy.country)
          includeGeoPrefixes = .ok snapshot.geoPrefixes := by
  simp only [loadPolicyWithGeoPrefixes, bind_ok_iff]
  constructor
  · rintro ⟨rules, hrules, countries, hcountries, blocks, hblocks, sources, hsources, threats,
      hthreats, defense, hdefense, limits, hlimits, bans, hbans, trusted, htrusted, h⟩
    cases h
    exact ⟨⟨rfl, hrules, hcountries, hsources, hthreats, hdefense, hlimits, hbans, htrusted⟩,
      hblocks⟩
  · rintro ⟨h, hblocks⟩
    refine ⟨_, h.rules, _, h.geoCountries, _, hblocks, _, h.threatSources, _, h.threatPrefixes, _,
      h.dynamicDefense, _, h.dynamicRateLimits, _, h.tempBans, _, h.trustedCidrs, ?_⟩
    rw [h.version]
    rfl

theorem deliveredSnapshot_ok_iff :
    deliveredSnapshot text db external now = .ok snapshot ↔
      LoadedFrom text db defaultPolicyName now snapshot ∧
        loadPersistedGeoPrefixes text db (blockCountries db external snapshot.geoCountries) =
          .ok snapshot.geoPrefixes := by
  cases external with
  | false => exact loadPolicyWithGeoPrefixes_ok_iff
  | true =>
      constructor
      · intro h
        obtain ⟨base, hbase, h⟩ := bind_ok_iff.mp h
        obtain ⟨blocks, hblocks, h⟩ := bind_ok_iff.mp h
        cases h
        obtain ⟨hloaded, -⟩ := loadPolicyWithGeoPrefixes_ok_iff.mp hbase
        exact ⟨⟨hloaded.version, hloaded.rules, hloaded.geoCountries, hloaded.threatSources,
          hloaded.threatPrefixes, hloaded.dynamicDefense, hloaded.dynamicRateLimits,
          hloaded.tempBans, hloaded.trustedCidrs⟩, hblocks⟩
      · rintro ⟨hloaded, hblocks⟩
        have hbase : loadPolicyWithoutGeoPrefixes text db defaultPolicyName now =
            .ok { snapshot with geoPrefixes := [] } :=
          loadPolicyWithGeoPrefixes_ok_iff.mpr
            ⟨⟨hloaded.version, hloaded.rules, hloaded.geoCountries, hloaded.threatSources,
              hloaded.threatPrefixes, hloaded.dynamicDefense, hloaded.dynamicRateLimits,
              hloaded.tempBans, hloaded.trustedCidrs⟩, rfl⟩
        exact bind_ok_iff.mpr ⟨_, hbase, bind_ok_iff.mpr ⟨_, hblocks, rfl⟩⟩

/-! ## Two orders of the same rows -/

/-- The same snapshot up to the order of its lists. -/
structure SnapshotPerm (a b : PolicySnapshot) : Prop where
  rules : a.rules.Perm b.rules
  geoCountries : a.geoCountries.Perm b.geoCountries
  geoPrefixes : a.geoPrefixes.Perm b.geoPrefixes
  tempBans : a.tempBans.Perm b.tempBans
  dynamicDefense : a.dynamicDefense = b.dynamicDefense
  dynamicRateLimits : a.dynamicRateLimits.Perm b.dynamicRateLimits
  trustedCidrs : a.trustedCidrs.Perm b.trustedCidrs
  threatPrefixes : a.threatPrefixes.Perm b.threatPrefixes

/-- A query that orders by the code leaves only equal codes tied. -/
theorem enabledGeoCountries_perm (h : SameRows db db') :
    enabledGeoCountries db = enabledGeoCountries db' := by
  have hsorted : ∀ database, (enabledGeoCountries database).Pairwise (· ≤ ·) := by
    intro database
    rw [enabledGeoCountries, List.pairwise_map]
    refine (List.pairwise_mergeSort ?_ ?_ _).imp ?_
    · intro a b c hab hbc
      simpa using String.le_trans (of_decide_eq_true hab) (of_decide_eq_true hbc)
    · intro a b
      simpa using String.le_total a.country b.country
    · exact fun hab => of_decide_eq_true hab
  refine List.Perm.eq_of_pairwise ?_ (hsorted db) (hsorted db') ?_
  · exact fun a b _ _ hab hba => String.le_antisymm hab hba
  · exact (mergeSort_filter_perm h.geoCountries _ _ _).map _

theorem persistedCountryPrefixes_perm (h : SameRows db db') (hkeys : LookupKeys db)
    (country : String) :
    persistedCountryPrefixes text db country = persistedCountryPrefixes text db' country := by
  simp only [persistedCountryPrefixes, find?_perm hkeys.geoIpPrefixes h.geoIpPrefixes]

theorem loadPersistedGeoPrefixes_perm (h : SameRows db db') (hkeys : LookupKeys db)
    {countries countries' : List String} (hcountries : countries.Perm countries')
    {blocks : List GeoIpPrefixPolicy}
    (hblocks : loadPersistedGeoPrefixes text db countries = .ok blocks) :
    ∃ blocks', loadPersistedGeoPrefixes text db' countries' = .ok blocks' ∧
      blocks.Perm blocks' := by
  obtain ⟨lists, hlists, rfl⟩ := flatten_of_loadPersistedGeoPrefixes hblocks
  rw [mapM_congr fun country _ => persistedCountryPrefixes_perm h hkeys country] at hlists
  obtain ⟨lists', hlists', hperm⟩ := mapM_perm hcountries hlists
  refine ⟨lists'.flatten, ?_, hperm.flatten⟩
  rw [loadPersistedGeoPrefixes, hlists']
  rfl

theorem loadPersistedThreatPrefixes_perm (h : SameRows db db') {names names' : List String}
    (hnames : names.Perm names') {prefixes : List ThreatPrefix}
    (hload : loadPersistedThreatPrefixes text db policyName names = .ok prefixes) :
    ∃ prefixes', loadPersistedThreatPrefixes text db' policyName names' = .ok prefixes' ∧
      prefixes.Perm prefixes' := by
  have hsame : (fun row : ThreatPrefixRow =>
      decide (row.policyName = policyName ∧ row.sourceName ∈ names)) =
        fun row => decide (row.policyName = policyName ∧ row.sourceName ∈ names') := by
    funext row
    simp only [hnames.mem_iff]
  obtain ⟨lists, hlists, rfl⟩ := map_ok hload
  rw [hsame] at hlists
  obtain ⟨lists', hlists', hperm⟩ :=
    mapM_perm (mergeSort_filter_perm h.threatPrefixes _ _ _) hlists
  refine ⟨normalizeThreatPrefixes lists'.flatten, ?_, ?_⟩
  · rw [loadPersistedThreatPrefixes, hlists']
    rfl
  · exact (List.mergeSort_perm _ _).trans
      ((eraseDups_perm hperm.flatten).trans (List.mergeSort_perm _ _).symm)

/-- Rows that make a snapshot in one order make the same one in every order, but for the order of
its lists. -/
theorem deliveredSnapshot_perm (h : SameRows db db') (hkeys : LookupKeys db)
    (hload : deliveredSnapshot text db external now = .ok snapshot) :
    ∃ snapshot', deliveredSnapshot text db' external now = .ok snapshot' ∧
      SnapshotPerm snapshot snapshot' := by
  obtain ⟨hloaded, hblocks⟩ := deliveredSnapshot_ok_iff.mp hload
  obtain ⟨rules, hrules, hrulesPerm⟩ :=
    mapM_perm (mergeSort_filter_perm h.firewallRules _ _ _) hloaded.rules
  obtain ⟨countries, hcountries, hcountriesPerm⟩ :=
    mapM_perm (h.geoCountries.filter _) hloaded.geoCountries
  obtain ⟨sources, hsources, hsourcesPerm⟩ :=
    mapM_perm (h.threatSources.filter _) hloaded.threatSources
  obtain ⟨threats, hthreats, hthreatsPerm⟩ :=
    loadPersistedThreatPrefixes_perm h (hsourcesPerm.map _) hloaded.threatPrefixes
  obtain ⟨limits, hlimits, hlimitsPerm⟩ :=
    mapM_perm (mergeSort_filter_perm h.dynamicRateLimits _ _ _) hloaded.dynamicRateLimits
  obtain ⟨bans, hbans, hbansPerm⟩ :=
    mapM_perm (mergeSort_filter_perm h.tempBans _ _ _) hloaded.tempBans
  obtain ⟨trusted, htrusted, htrustedPerm⟩ :=
    mapM_perm (mergeSort_filter_perm h.trustedCidrs _ _ _) hloaded.trustedCidrs
  have hdefense : loadDynamicDefense db' defaultPolicyName = .ok snapshot.dynamicDefense := by
    rw [← hloaded.dynamicDefense, loadDynamicDefense, loadDynamicDefense,
      find?_perm hkeys.dynamicDefense h.dynamicDefense]
  have hcodes : (blockCountries db external snapshot.geoCountries).Perm
      (blockCountries db' external countries) := by
    unfold blockCountries
    split
    · exact .of_eq (enabledGeoCountries_perm h)
    · exact hcountriesPerm.map _
  obtain ⟨blocks, hblocks', hblocksPerm⟩ := loadPersistedGeoPrefixes_perm h hkeys hcodes hblocks
  refine ⟨{ version := policyVersion db' defaultPolicyName
            rules := rules
            geoCountries := countries
            geoPrefixes := blocks
            tempBans := bans
            dynamicDefense := snapshot.dynamicDefense
            dynamicRateLimits := limits
            trustedCidrs := trusted
            threatSources := sources
            threatPrefixes := threats }, ?_, ?_⟩
  · exact deliveredSnapshot_ok_iff.mpr ⟨⟨rfl, hrules, hcountries, hsources, hthreats, hdefense,
      hlimits, hbans, htrusted⟩, hblocks'⟩
  · exact ⟨hrulesPerm, hcountriesPerm, hblocksPerm, hbansPerm, rfl, hlimitsPerm, htrustedPerm,
      hthreatsPerm⟩

/-- Pages are read in the order of the countries' codes, whatever the order of the rows. -/
theorem geoPrefixes_of_external (h : SameRows db db') (hkeys : LookupKeys db)
    (hload : deliveredSnapshot text db true now = .ok snapshot)
    (hload' : deliveredSnapshot text db' true now = .ok snapshot') :
    snapshot.geoPrefixes = snapshot'.geoPrefixes := by
  obtain ⟨-, hblocks⟩ := deliveredSnapshot_ok_iff.mp hload
  obtain ⟨-, hblocks'⟩ := deliveredSnapshot_ok_iff.mp hload'
  have hsame : loadPersistedGeoPrefixes text db (enabledGeoCountries db) =
      loadPersistedGeoPrefixes text db' (enabledGeoCountries db') := by
    rw [loadPersistedGeoPrefixes, loadPersistedGeoPrefixes, ← enabledGeoCountries_perm h,
      mapM_congr fun country _ => persistedCountryPrefixes_perm h hkeys country]
  exact Except.ok.inj (hblocks.symm.trans (hsame.trans hblocks'))

/-! ## What rows in force say -/

namespace PolicyDb

/-- A rule in force. -/
def HasRule (text : TextReaders) (db : PolicyDb) (rule : FirewallRule) : Prop :=
  ∃ row ∈ db.firewallRules, (row.policyName = defaultPolicyName ∧ row.enabled) ∧
    parseRule text row = .ok rule

def HasCountry (db : PolicyDb) (country : GeoCountryPolicy) : Prop :=
  ∃ row ∈ db.geoCountries, (row.policyName = defaultPolicyName ∧ row.enabled) ∧
    parseGeoCountryPolicy row = .ok country

/-- An address block of a country in force. -/
def HasBlock (text : TextReaders) (db : PolicyDb) (block : GeoIpPrefixPolicy) : Prop :=
  ∃ country, db.HasCountry country ∧
    ∃ blocks, persistedCountryPrefixes text db country.country = .ok blocks ∧ block ∈ blocks

/-- A prefix of a threat source in force. -/
def HasThreatPrefix (text : TextReaders) (db : PolicyDb) (threat : ThreatPrefix) : Prop :=
  ∃ source ∈ db.threatSources, (source.policyName = defaultPolicyName ∧ source.enabled) ∧
    ∃ row ∈ db.threatPrefixes,
      (row.policyName = defaultPolicyName ∧ row.sourceName = source.name) ∧
        ∃ prefixes, persistedPrefixes text row = .ok prefixes ∧ threat ∈ prefixes

def HasRateLimit (db : PolicyDb) (limit : DynamicRateLimitPolicy) : Prop :=
  ∃ row ∈ db.dynamicRateLimits, (row.policyName = defaultPolicyName ∧ row.enabled) ∧
    parseDynamicRateLimit row = .ok limit

end PolicyDb

open PolicyDb

section Same

variable (h : SameRows db db')
include h

theorem SameRows.hasRule {rule : FirewallRule} : db.HasRule text rule ↔ db'.HasRule text rule := by
  simp only [HasRule, h.firewallRules.mem_iff]

theorem SameRows.hasCountry {country : GeoCountryPolicy} :
    db.HasCountry country ↔ db'.HasCountry country := by
  simp only [HasCountry, h.geoCountries.mem_iff]

theorem SameRows.hasBlock (hkeys : LookupKeys db) {block : GeoIpPrefixPolicy} :
    db.HasBlock text block ↔ db'.HasBlock text block := by
  simp only [HasBlock, h.hasCountry, persistedCountryPrefixes_perm h hkeys]

theorem SameRows.hasThreatPrefix {threat : ThreatPrefix} :
    db.HasThreatPrefix text threat ↔ db'.HasThreatPrefix text threat := by
  simp only [HasThreatPrefix, h.threatSources.mem_iff, h.threatPrefixes.mem_iff]

theorem SameRows.hasRateLimit {limit : DynamicRateLimitPolicy} :
    db.HasRateLimit limit ↔ db'.HasRateLimit limit := by
  simp only [HasRateLimit, h.dynamicRateLimits.mem_iff]

end Same

/-! ## Columns that a reading keeps -/

theorem priority_of_parseRule {row : FirewallRuleRow} {rule : FirewallRule}
    (h : parseRule text row = .ok rule) : rule.priority = row.priority := by
  obtain ⟨action, -, h⟩ := bind_ok_iff.mp h
  obtain ⟨cidr, -, h⟩ := bind_ok_iff.mp h
  split at h
  all_goals
    obtain ⟨protocol, -, h⟩ := bind_ok_iff.mp h
    obtain ⟨port, -, h⟩ := bind_ok_iff.mp h
    cases h
    rfl

theorem priority_of_parseDynamicRateLimit {row : DynamicRateLimitRow}
    {limit : DynamicRateLimitPolicy} (h : parseDynamicRateLimit row = .ok limit) :
    limit.priority = row.priority := by
  simp only [parseDynamicRateLimit, bind_ok_iff] at h
  obtain ⟨protocol, -, port, -, packetsPerSecond, -, burst, -, valid, -, h⟩ := h
  cases h
  rfl

theorem name_of_parseThreatSource {row : ThreatSourceRow} {source : ThreatSource}
    (h : parseThreatSource row = .ok source) : source.name = row.name := by
  simp only [parseThreatSource, bind_ok_iff] at h
  obtain ⟨format, -, minScore, -, h⟩ := h
  cases h
  rfl

/-- Normalized codes with one number are the same. -/
theorem eq_of_encodeCountry {a b : String} {code : U16} (ha : normalizedCountry a = .ok a)
    (hb : normalizedCountry b = .ok b) (hcode : encodeCountry a = .ok code)
    (hcode' : encodeCountry b = .ok code) : a = b := by
  obtain ⟨pair, hpair, ha⟩ := bind_ok_iff.mp ha
  obtain ⟨pair', hpair', hb⟩ := bind_ok_iff.mp hb
  rw [← Except.ok.inj ha, ← Except.ok.inj hb,
    encodeCountry_injective hpair hpair' hcode hcode']

theorem normalized_of_hasCountry {country : GeoCountryPolicy} (h : db.HasCountry country) :
    normalizedCountry country.country = .ok country.country := by
  obtain ⟨row, -, -, hparse⟩ := h
  exact normalizedCountry_idempotent (country_of_parse hparse)

theorem country_of_mem_persistedCountryPrefixes {country code : String}
    (hcode : normalizedCountry country = .ok code) {blocks : List GeoIpPrefixPolicy}
    (hblocks : persistedCountryPrefixes text db country = .ok blocks) {block : GeoIpPrefixPolicy}
    (hmem : block ∈ blocks) : block.country = code := by
  obtain ⟨code', hcode', hblocks⟩ := bind_ok_iff.mp hblocks
  cases hcode.symm.trans hcode'
  split at hblocks
  · cases hblocks
    cases hmem
  · cases hblocks
    obtain ⟨net, -, rfl⟩ := List.mem_map.mp hmem
    rfl

/-- Of rows sorted by priority, only those with a smaller number precede the row that came
first. -/
theorem mapM_priority_front {Row Value : Type} (priority : Row → Int32)
    {parse : Row → Except String Value} {row : Row} {rest : List Row} {values : List Value}
    (h : ((row :: rest).mergeSort fun a b => priority a ≤ priority b).mapM parse = .ok values) :
    ∃ before value after, values = before ++ value :: after ∧ parse row = .ok value ∧
      ∀ other ∈ before, ∃ row', parse row' = .ok other ∧ priority row' < priority row := by
  let le (a b : Row) : Bool := priority a ≤ priority b
  have trans : ∀ a b c, le a b → le b c → le a c := by
    intro a b c hab hbc
    exact decide_eq_true (Int32.le_trans (of_decide_eq_true hab) (of_decide_eq_true hbc))
  have total : ∀ a b, le a b || le b a := by
    intro a b
    simpa [le] using Int32.le_total (priority a) (priority b)
  obtain ⟨before, value, after, hsplit, hparse, hbefore⟩ := mapM_mergeSort_front trans total h
  refine ⟨before, value, after, hsplit, hparse, ?_⟩
  intro other hother
  obtain ⟨row', -, hparse', hlt⟩ := hbefore other hother
  exact ⟨row', hparse', Int32.not_le.mp (of_decide_eq_false hlt)⟩

/-! ## The lists of a snapshot -/

namespace LoadedFrom

variable (h : LoadedFrom text db defaultPolicyName now snapshot)
include h

theorem mem_rules_iff {rule : FirewallRule} :
    rule ∈ snapshot.rules ↔ db.HasRule text rule := by
  rw [mem_mapM_ok_iff h.rules]
  simp only [List.mem_mergeSort, List.mem_filter, decide_eq_true_eq, and_assoc, HasRule]

theorem mem_geoCountries_iff {country : GeoCountryPolicy} :
    country ∈ snapshot.geoCountries ↔ db.HasCountry country := by
  rw [mem_mapM_ok_iff h.geoCountries]
  simp only [List.mem_filter, decide_eq_true_eq, and_assoc, HasCountry]

theorem mem_dynamicRateLimits_iff {limit : DynamicRateLimitPolicy} :
    limit ∈ snapshot.dynamicRateLimits ↔ db.HasRateLimit limit := by
  rw [mem_mapM_ok_iff h.dynamicRateLimits]
  simp only [List.mem_mergeSort, List.mem_filter, decide_eq_true_eq, and_assoc, HasRateLimit]

theorem mem_threatPrefixes_iff {threat : ThreatPrefix} :
    threat ∈ snapshot.threatPrefixes ↔ db.HasThreatPrefix text threat := by
  obtain ⟨lists, hlists, hthreats⟩ := map_ok h.threatPrefixes
  rw [← hthreats, normalizeThreatPrefixes, List.mem_mergeSort, List.mem_eraseDups,
    mem_flatten_of_mapM_ok hlists]
  have hsource : ∀ name, name ∈ snapshot.threatSources.map ThreatSource.name ↔
      ∃ source ∈ db.threatSources, (source.policyName = defaultPolicyName ∧ source.enabled) ∧
        name = source.name := by
    intro name
    rw [List.mem_map]
    constructor
    · rintro ⟨source, hmem, rfl⟩
      obtain ⟨row, hrow, hparse⟩ := mem_of_mapM_ok h.threatSources hmem
      obtain ⟨hrow, hforce⟩ := List.mem_filter.mp hrow
      exact ⟨row, hrow, of_decide_eq_true hforce, name_of_parseThreatSource hparse⟩
    · rintro ⟨row, hrow, hforce, rfl⟩
      obtain ⟨source, hmem, hparse⟩ := exists_mem_of_mapM_ok h.threatSources
        (List.mem_filter.mpr ⟨hrow, decide_eq_true hforce⟩)
      exact ⟨source, hmem, name_of_parseThreatSource hparse⟩
  simp only [List.mem_mergeSort, List.mem_filter, decide_eq_true_eq, hsource, HasThreatPrefix]
  constructor
  · rintro ⟨row, ⟨hrow, hname, source, hsource, hforce, hsame⟩, found⟩
    exact ⟨source, hsource, hforce, row, hrow, ⟨hname, hsame⟩, found⟩
  · rintro ⟨source, hsource, hforce, row, hrow, ⟨hname, hsame⟩, found⟩
    exact ⟨row, ⟨hrow, hname, source, hsource, hforce, hsame⟩, found⟩

theorem mem_geoPrefixes_iff
    (hblocks : loadPersistedGeoPrefixes text db (blockCountries db false snapshot.geoCountries) =
      .ok snapshot.geoPrefixes) {block : GeoIpPrefixPolicy} :
    block ∈ snapshot.geoPrefixes ↔ db.HasBlock text block := by
  obtain ⟨lists, hlists, hflatten⟩ := flatten_of_loadPersistedGeoPrefixes hblocks
  rw [← hflatten, mem_flatten_of_mapM_ok hlists, HasBlock]
  constructor
  · rintro ⟨code, hcode, found⟩
    obtain ⟨country, hcountry, rfl⟩ := List.mem_map.mp hcode
    exact ⟨country, h.mem_geoCountries_iff.mp hcountry, found⟩
  · rintro ⟨country, hcountry, found⟩
    exact ⟨country.country, List.mem_map_of_mem (h.mem_geoCountries_iff.mpr hcountry), found⟩

/-- The rate limits come in the order of their priority. -/
theorem pairwise_dynamicRateLimits :
    snapshot.dynamicRateLimits.Pairwise fun a b => a.priority ≤ b.priority := by
  refine pairwise_of_forall₂ (forall₂_of_mapM_ok h.dynamicRateLimits)
    (List.pairwise_mergeSort ?_ ?_ _) ?_
  · intro a b c hab hbc
    exact decide_eq_true (Int32.le_trans (of_decide_eq_true hab) (of_decide_eq_true hbc))
  · intro a b
    simpa using Int32.le_total a.priority b.priority
  · intro row row' limit limit' hparse hparse' hle
    rw [priority_of_parseDynamicRateLimit hparse, priority_of_parseDynamicRateLimit hparse']
    exact of_decide_eq_true hle

/-! ## A row in front -/

/-- Only rules with a smaller priority number precede the rule whose row comes first. -/
theorem rules_front {row : FirewallRuleRow} {rest : List FirewallRuleRow}
    (hrows : db.firewallRules = row :: rest)
    (hforce : row.policyName = defaultPolicyName ∧ row.enabled) :
    ∃ rule before after, parseRule text row = .ok rule ∧
      snapshot.rules = before ++ rule :: after ∧
      ∀ other ∈ before, other.priority < rule.priority := by
  have hload := h.rules
  rw [loadFirewallRules, hrows, List.filter_cons, if_pos (decide_eq_true hforce)] at hload
  obtain ⟨before, rule, after, hsplit, hparse, hbefore⟩ :=
    mapM_priority_front FirewallRuleRow.priority hload
  refine ⟨rule, before, after, hparse, hsplit, ?_⟩
  intro other hother
  obtain ⟨row', hparse', hlt⟩ := hbefore other hother
  rw [priority_of_parseRule hparse, priority_of_parseRule hparse']
  exact hlt

theorem dynamicRateLimits_front {row : DynamicRateLimitRow} {rest : List DynamicRateLimitRow}
    (hrows : db.dynamicRateLimits = row :: rest)
    (hforce : row.policyName = defaultPolicyName ∧ row.enabled) :
    ∃ limit before after, parseDynamicRateLimit row = .ok limit ∧
      snapshot.dynamicRateLimits = before ++ limit :: after ∧
      ∀ other ∈ before, other.priority < limit.priority := by
  have hload := h.dynamicRateLimits
  rw [loadDynamicRateLimits, hrows, List.filter_cons, if_pos (decide_eq_true hforce)] at hload
  obtain ⟨before, limit, after, hsplit, hparse, hbefore⟩ :=
    mapM_priority_front DynamicRateLimitRow.priority hload
  refine ⟨limit, before, after, hparse, hsplit, ?_⟩
  intro other hother
  obtain ⟨row', hparse', hlt⟩ := hbefore other hother
  rw [priority_of_parseDynamicRateLimit hparse, priority_of_parseDynamicRateLimit hparse']
  exact hlt

theorem geoCountries_front {row : GeoCountryRow} {rest : List GeoCountryRow}
    (hrows : db.geoCountries = row :: rest)
    (hforce : row.policyName = defaultPolicyName ∧ row.enabled) :
    ∃ country after, parseGeoCountryPolicy row = .ok country ∧
      snapshot.geoCountries = country :: after := by
  have hload := h.geoCountries
  rw [loadGeoCountries, hrows, List.filter_cons, if_pos (decide_eq_true hforce),
    List.mapM_cons] at hload
  obtain ⟨country, hparse, hload⟩ := bind_ok_iff.mp hload
  obtain ⟨after, -, hload⟩ := bind_ok_iff.mp hload
  exact ⟨country, after, hparse, (Except.ok.inj hload).symm⟩

end LoadedFrom

/-- The blocks of the country that comes first come first. -/
theorem geoPrefixes_front {country : GeoCountryPolicy} {after : List GeoCountryPolicy}
    (hcountries : snapshot.geoCountries = country :: after)
    (hblocks : loadPersistedGeoPrefixes text db (blockCountries db false snapshot.geoCountries) =
      .ok snapshot.geoPrefixes) :
    ∃ first rest, persistedCountryPrefixes text db country.country = .ok first ∧
      snapshot.geoPrefixes = first ++ rest := by
  obtain ⟨lists, hlists, hflatten⟩ := flatten_of_loadPersistedGeoPrefixes hblocks
  rw [blockCountries, if_neg Bool.false_ne_true, hcountries, List.map_cons,
    List.mapM_cons] at hlists
  obtain ⟨first, hfirst, hlists⟩ := bind_ok_iff.mp hlists
  obtain ⟨others, -, hlists⟩ := bind_ok_iff.mp hlists
  cases hlists
  exact ⟨first, others.flatten, hfirst, hflatten.symm⟩

end ControlPlane
end XdpFirewall
