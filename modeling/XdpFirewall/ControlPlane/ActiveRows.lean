import XdpFirewall.ControlPlane.GeoPages

/-!
# ActiveRows — the rows that readers of a policy can see

Disabled rows, rows of other policies and the address lists of what is disabled are never loaded.
`PolicyDb.active` drops them, and every reader answers from what is left as from the database
itself: a commit that keeps it is invisible.
-/

namespace XdpFirewall
namespace ControlPlane

open Lib Policy

/-! ## Active rows -/

/-- The country has an enabled row. -/
def PolicyDb.CountryEnabled (db : PolicyDb) (policyName country : String) : Prop :=
  ∃ row ∈ db.geoCountries, (row.policyName = policyName ∧ row.enabled) ∧
    normalizedCountry row.country = .ok country

/-- The threat source has an enabled row. -/
def PolicyDb.SourceEnabled (db : PolicyDb) (policyName name : String) : Prop :=
  ∃ row ∈ db.threatSources, (row.policyName = policyName ∧ row.enabled) ∧ row.name = name

instance decidableEqCode (a b : Except String String) : Decidable (a = b) :=
  match a, b with
  | .ok x, .ok y => decidable_of_iff (x = y) (by simp)
  | .error x, .error y => decidable_of_iff (x = y) (by simp)
  | .ok _, .error _ => isFalse (by simp)
  | .error _, .ok _ => isFalse (by simp)

instance (db : PolicyDb) (policyName country : String) :
    Decidable (db.CountryEnabled policyName country) :=
  inferInstanceAs (Decidable (∃ row ∈ db.geoCountries, _))

instance (db : PolicyDb) (policyName name : String) :
    Decidable (db.SourceEnabled policyName name) :=
  inferInstanceAs (Decidable (∃ row ∈ db.threatSources, _))

def PolicyDb.active (db : PolicyDb) (policyName : String) : PolicyDb where
  policyVersions := db.policyVersions.filter fun row => row.policyName = policyName
  firewallRules := db.firewallRules.filter fun row => row.policyName = policyName ∧ row.enabled
  geoCountries := db.geoCountries.filter fun row => row.policyName = policyName ∧ row.enabled
  geoIpPrefixes := db.geoIpPrefixes.filter fun row => db.CountryEnabled policyName row.country
  threatSources := db.threatSources.filter fun row => row.policyName = policyName ∧ row.enabled
  threatSourceStates := []
  threatPrefixes := db.threatPrefixes.filter fun row =>
    row.policyName = policyName ∧ db.SourceEnabled policyName row.sourceName
  dynamicDefense := db.dynamicDefense.filter fun row => row.policyName = policyName
  dynamicRateLimits := db.dynamicRateLimits.filter fun row =>
    row.policyName = policyName ∧ row.enabled
  tempBans := db.tempBans.filter fun row => row.policyName = policyName
  trustedCidrs := db.trustedCidrs.filter fun row => row.policyName = policyName ∧ row.enabled

/-! ## Readers see active rows only -/

theorem filter_filter_of_imp {A : Type} {p q : A → Bool} (himp : ∀ a, p a → q a) (l : List A) :
    (l.filter q).filter p = l.filter p := by
  rw [List.filter_filter]
  refine List.filter_congr fun a _ => ?_
  cases hp : p a with
  | false => rfl
  | true => simpa using himp a hp

theorem find?_filter_of_imp {A : Type} {p q : A → Bool} {l : List A}
    (himp : ∀ a ∈ l, p a → q a) : (l.filter q).find? p = l.find? p := by
  rw [List.find?_filter]
  induction l with
  | nil => rfl
  | cons a rest ih =>
      have hrest := ih fun a ha => himp a (List.mem_cons_of_mem _ ha)
      rw [List.find?_cons, List.find?_cons, hrest]
      cases hp : p a with
      | false => simp
      | true => simp [himp a List.mem_cons_self hp]

variable (text : TextReaders) (db : PolicyDb) (policyName : String)

theorem policyVersion_active :
    policyVersion (db.active policyName) policyName = policyVersion db policyName := by
  rw [policyVersion, PolicyDb.active, find?_filter_of_imp fun _ _ => id]
  rfl

theorem loadFirewallRules_active :
    loadFirewallRules text (db.active policyName) policyName =
      loadFirewallRules text db policyName := by
  rw [loadFirewallRules, PolicyDb.active, filter_filter_of_imp fun _ => id]
  rfl

theorem loadGeoCountries_active :
    loadGeoCountries (db.active policyName) policyName = loadGeoCountries db policyName := by
  rw [loadGeoCountries, PolicyDb.active, filter_filter_of_imp fun _ => id]
  rfl

theorem loadThreatSources_active :
    loadThreatSources (db.active policyName) policyName = loadThreatSources db policyName := by
  rw [loadThreatSources, PolicyDb.active, filter_filter_of_imp fun _ => id]
  rfl

theorem loadDynamicDefense_active :
    loadDynamicDefense (db.active policyName) policyName = loadDynamicDefense db policyName := by
  rw [loadDynamicDefense, PolicyDb.active, find?_filter_of_imp fun _ _ => id]
  rfl

theorem loadDynamicRateLimits_active :
    loadDynamicRateLimits (db.active policyName) policyName =
      loadDynamicRateLimits db policyName := by
  rw [loadDynamicRateLimits, PolicyDb.active, filter_filter_of_imp fun _ => id]
  rfl

theorem loadActiveTempBans_active (now : Int) :
    loadActiveTempBans text (db.active policyName) policyName now =
      loadActiveTempBans text db policyName now := by
  rw [loadActiveTempBans, PolicyDb.active, filter_filter_of_imp]
  · rfl
  · intro row hrow
    simp only [Bool.decide_and, Bool.and_eq_true] at hrow
    exact hrow.1

theorem loadTrustedCidrs_active :
    loadTrustedCidrs text (db.active policyName) policyName =
      loadTrustedCidrs text db policyName := by
  rw [loadTrustedCidrs, PolicyDb.active, filter_filter_of_imp fun _ => id]
  rfl

/-- The list of a country is read for enabled countries only. -/
theorem persistedCountryPrefixes_active {country : String}
    (henabled : ∀ normalized, normalizedCountry country = .ok normalized →
      db.CountryEnabled policyName normalized) :
    persistedCountryPrefixes text (db.active policyName) country =
      persistedCountryPrefixes text db country := by
  rw [persistedCountryPrefixes, persistedCountryPrefixes]
  cases hnormal : normalizedCountry country with
  | error e => rfl
  | ok normalized =>
      simp only [Except.bind, bind, PolicyDb.active]
      rw [find?_filter_of_imp]
      intro row _ hrow
      have hrow : row.country = normalized := by simpa using hrow
      simpa [hrow] using henabled normalized hnormal

theorem loadPersistedThreatPrefixes_active {sourceNames : List String}
    (henabled : ∀ name ∈ sourceNames, db.SourceEnabled policyName name) :
    loadPersistedThreatPrefixes text (db.active policyName) policyName sourceNames =
      loadPersistedThreatPrefixes text db policyName sourceNames := by
  rw [loadPersistedThreatPrefixes, loadPersistedThreatPrefixes, PolicyDb.active,
    filter_filter_of_imp]
  intro row hrow
  simp only [Bool.decide_and, Bool.and_eq_true, decide_eq_true_eq] at hrow ⊢
  exact ⟨hrow.1, henabled row.sourceName hrow.2⟩

theorem loadPersistedGeoPrefixes_active {countries : List String}
    (henabled : ∀ country ∈ countries, ∀ normalized, normalizedCountry country = .ok normalized →
      db.CountryEnabled policyName normalized) :
    loadPersistedGeoPrefixes text (db.active policyName) countries =
      loadPersistedGeoPrefixes text db countries := by
  rw [loadPersistedGeoPrefixes, loadPersistedGeoPrefixes, mapM_congr fun country hcountry =>
    persistedCountryPrefixes_active text db policyName (henabled country hcountry)]

/-! ## Loads see active rows only -/

/-- The countries and threat sources of a partly loaded snapshot are enabled in the database. -/
structure SeenIn (snapshot : PolicySnapshot) : Prop where
  countries : ∀ country ∈ snapshot.geoCountries.map GeoCountryPolicy.country, ∀ normalized,
    normalizedCountry country = .ok normalized → db.CountryEnabled policyName normalized
  sources : ∀ name ∈ snapshot.threatSources.map ThreatSource.name,
    db.SourceEnabled policyName name

variable {text db policyName}

theorem enabled_of_loadGeoCountries {policies : List GeoCountryPolicy}
    (h : loadGeoCountries db policyName = .ok policies) :
    ∀ country ∈ policies.map GeoCountryPolicy.country, ∀ normalized,
      normalizedCountry country = .ok normalized → db.CountryEnabled policyName normalized := by
  intro country hcountry normalized hnormal
  obtain ⟨policy, hpolicy, rfl⟩ := List.mem_map.mp hcountry
  obtain ⟨row, hrow, hparse⟩ := mem_of_mapM_ok h hpolicy
  rw [List.mem_filter] at hrow
  refine ⟨row, hrow.1, by simpa using hrow.2, ?_⟩
  rw [normalizedCountry_idempotent (country_of_parse hparse)] at hnormal
  cases hnormal
  exact country_of_parse hparse

theorem enabled_of_loadThreatSources {sources : List ThreatSource}
    (h : loadThreatSources db policyName = .ok sources) :
    ∀ name ∈ sources.map ThreatSource.name, db.SourceEnabled policyName name := by
  intro name hname
  obtain ⟨source, hsource, rfl⟩ := List.mem_map.mp hname
  obtain ⟨row, hrow, hparse⟩ := mem_of_mapM_ok h hsource
  rw [List.mem_filter] at hrow
  refine ⟨row, hrow.1, by simpa using hrow.2, ?_⟩
  obtain ⟨format, -, hparse⟩ := bind_ok_iff.mp hparse
  obtain ⟨score, -, hparse⟩ := bind_ok_iff.mp hparse
  cases hparse
  rfl

theorem loadTable_active {includeGeoPrefixes : Bool} {now : Int} {snapshot : PolicySnapshot}
    (hseen : SeenIn db policyName snapshot) (table : PolicyTable) :
    loadTable text (db.active policyName) policyName includeGeoPrefixes now snapshot table =
      loadTable text db policyName includeGeoPrefixes now snapshot table := by
  cases table with
  | firewallRules => rw [loadTable, loadTable, loadFirewallRules_active]
  | geoCountries => rw [loadTable, loadTable, loadGeoCountries_active]
  | geoPrefixes =>
      rw [loadTable, loadTable, loadGeoPrefixes, loadGeoPrefixes,
        loadPersistedGeoPrefixes_active text db policyName hseen.countries]
  | threatSources => rw [loadTable, loadTable, loadThreatSources_active]
  | threatPrefixes =>
      rw [loadTable, loadTable, loadPersistedThreatPrefixes_active text db policyName hseen.sources]
  | dynamicDefense => rw [loadTable, loadTable, loadDynamicDefense_active]
  | rateLimits => rw [loadTable, loadTable, loadDynamicRateLimits_active]
  | tempBans => rw [loadTable, loadTable, loadActiveTempBans_active]
  | trustedCidrs => rw [loadTable, loadTable, loadTrustedCidrs_active]

theorem SeenIn.loadTable {includeGeoPrefixes : Bool} {now : Int}
    {snapshot snapshot' : PolicySnapshot} (hseen : SeenIn db policyName snapshot)
    {table : PolicyTable}
    (h : loadTable text db policyName includeGeoPrefixes now snapshot table = .ok snapshot') :
    SeenIn db policyName snapshot' := by
  cases table <;> obtain ⟨part, hpart, rfl⟩ := map_ok h
  case geoCountries => exact ⟨enabled_of_loadGeoCountries hpart, hseen.sources⟩
  case threatSources => exact ⟨hseen.countries, enabled_of_loadThreatSources hpart⟩
  all_goals exact ⟨hseen.countries, hseen.sources⟩

theorem seenIn_unread (version : Int) :
    SeenIn db policyName (PolicySnapshot.unread version) := by
  constructor <;> intro x hx <;> cases hx

/-- Reading any tables one after the other sees active rows only. -/
theorem foldlM_loadTable_active {includeGeoPrefixes : Bool} {now : Int}
    {snapshot : PolicySnapshot} (hseen : SeenIn db policyName snapshot)
    (tables : List PolicyTable) :
    tables.foldlM (loadTable text (db.active policyName) policyName includeGeoPrefixes now)
        snapshot =
      tables.foldlM (loadTable text db policyName includeGeoPrefixes now) snapshot := by
  induction tables generalizing snapshot with
  | nil => rfl
  | cons table rest ih =>
      rw [List.foldlM_cons, List.foldlM_cons, loadTable_active hseen]
      cases htable : loadTable text db policyName includeGeoPrefixes now snapshot table with
      | error e => rfl
      | ok snapshot' => exact ih (hseen.loadTable htable)

theorem loadPolicyWithGeoPrefixes_active (includeGeoPrefixes : Bool) (now : Int) :
    loadPolicyWithGeoPrefixes text (db.active policyName) policyName includeGeoPrefixes now =
      loadPolicyWithGeoPrefixes text db policyName includeGeoPrefixes now := by
  rw [loadPolicyWithGeoPrefixes_eq_foldlM, loadPolicyWithGeoPrefixes_eq_foldlM,
    policyVersion_active]
  exact foldlM_loadTable_active (seenIn_unread _) loadOrder

/-! ## Pages see active rows only -/

theorem enabledGeoCountries_active :
    enabledGeoCountries (db.active defaultPolicyName) = enabledGeoCountries db := by
  rw [enabledGeoCountries, PolicyDb.active, filter_filter_of_imp fun _ => id]
  rfl

theorem enabled_of_mem_enabledGeoCountries {country : String}
    (h : country ∈ enabledGeoCountries db) {normalized : String}
    (hnormal : normalizedCountry country = .ok normalized) :
    db.CountryEnabled defaultPolicyName normalized := by
  obtain ⟨row, hrow, rfl⟩ := List.mem_map.mp h
  rw [List.mem_mergeSort, List.mem_filter] at hrow
  exact ⟨row, hrow.1, by simpa using hrow.2, hnormal⟩

theorem collectCountryPages_active {size : Nat} {start : PageToken} {page : GeoPrefixPage}
    {countries : List (String × Nat)}
    (henabled : ∀ country ∈ countries, country.1 ∈ enabledGeoCountries db) :
    collectCountryPages text (db.active defaultPolicyName) size start page countries =
      collectCountryPages text db size start page countries := by
  induction countries generalizing page with
  | nil => rfl
  | cons country rest ih =>
      have hblocks := persistedCountryPrefixes_active text db defaultPolicyName fun _ =>
        enabled_of_mem_enabledGeoCountries (henabled country List.mem_cons_self)
      rw [collectCountryPages, collectCountryPages, collectCountryPage, collectCountryPage,
        hblocks]
      refine bind_congr fun page' => ?_
      rw [ih fun other hother => henabled other (List.mem_cons_of_mem _ hother)]

end ControlPlane
end XdpFirewall
