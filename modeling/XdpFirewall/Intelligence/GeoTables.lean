import XdpFirewall.Api.Writes
import XdpFirewall.Intelligence.GeoRefresh
import XdpFirewall.Lib.KeyedRows
import XdpFirewall.Lib.Slices

/-!
# GeoTables — the refresh of many countries

The lists of all countries are refreshed one after the other. The statements name the country that
they are about, so that what becomes of it is what its own refresh would have done, whatever the
others bring and wherever they fail. The version is raised once for each country with a new list.
-/

namespace XdpFirewall
namespace Intelligence

open Api ControlPlane Lib Net Policy

/-! ## Tables -/

/-- The catalog of countries and the metadata of their lists, beside the tables of the policy. -/
structure GeoTables where
  catalog : List GeoCountryCatalogRow
  states : List GeoIpListStateRow
  db : PolicyDb

def GeoTables.empty : GeoTables where
  catalog := []
  states := []
  db := PolicyDb.empty

namespace GeoTables

/-- What `load_geo_country_catalog_row`, `load_geo_ip_list_state` and `load_geo_ip_prefix_row` find
of one country. -/
def country (t : GeoTables) (country : String) : CountryRows where
  catalog := rowOf GeoCountryCatalogRow.code country t.catalog
  state := rowOf GeoIpListStateRow.country country t.states
  prefixes := rowOf GeoIpPrefixRow.country country t.db.geoIpPrefixes
  version := policyVersion t.db defaultPolicyName

/-- `touch_existing_geo_ip_state` -/
def touch (t : GeoTables) (existing : Option GeoIpListStateRow) (metadata : IpdenyMetadata)
    (now : Timestamp) : GeoTables :=
  match existing with
  | none => t
  | some existing =>
      { t with
        states := updateRow GeoIpListStateRow.country existing.country
          (fun row => { row with
            lastModified := metadata.lastModified
            etag := metadata.etag
            lastCheckedAt := now })
          t.states }

/-- `persist_geo_prefix_replacement`, in one transaction, once it knows whether the list changes. -/
def storePrefixes (t : GeoTables) (catalog : GeoCountryCatalogRow)
    (existing : Option GeoIpListStateRow) (metadata : IpdenyMetadata) (prefixes : List GeoPrefix)
    (now : Timestamp) (id : Int32) (changed : Bool) : GeoTables where
  catalog := t.catalog
  states := upsertRow GeoIpListStateRow.country
    { country := catalog.code
      url := metadata.url
      lastModified := metadata.lastModified
      etag := metadata.etag
      prefixCount := prefixes.length
      lastCheckedAt := now
      lastDownloadedAt := some now
      updatedAt := if changed then now else
        (existing.map GeoIpListStateRow.updatedAt).getD now }
    t.states
  db :=
    if changed then
      raised { t.db with
        geoIpPrefixes := replaceRow GeoIpPrefixRow.country
          { id := id
            country := catalog.code
            cidrsJson := geoCidrsJson prefixes }
          t.db.geoIpPrefixes }
    else
      t.db

/-- `replace_geo_prefixes` -/
def replacePrefixes (t : GeoTables) (catalog : GeoCountryCatalogRow)
    (existing : Option GeoIpListStateRow) (metadata : IpdenyMetadata) (prefixes : List GeoPrefix)
    (now : Timestamp) (id : Int32) : Except String (Bool × GeoTables) :=
  let changed : Bool := match rowOf GeoIpPrefixRow.country catalog.code t.db.geoIpPrefixes with
    | some row => row.cidrsJson ≠ geoCidrsJson prefixes
    | none => true
  if prefixes.length < 2 ^ 31 then
    .ok (changed, t.storePrefixes catalog existing metadata prefixes now id changed)
  else
    .error "geo prefix count exceeds i32"

/-- `refresh_one_country`, as in `Intelligence.refreshOneCountry`, with the statements on the
tables. -/
def refreshOneCountry (env : GeoEnv) (country : String) (t : GeoTables) :
    Except String (Option Nat × GeoTables) :=
  match rowOf GeoCountryCatalogRow.code country t.catalog with
  | none => .error ("country " ++ country ++ " not found in IPdeny catalog")
  | some catalog =>
      let existing := rowOf GeoIpListStateRow.country country t.states
      let hasPersistedPrefixes := hasPersistedCountryPrefixes env.persistedCidrs (t.country country)
      let metadata := fetchCountryMetadataOrCatalog env.head country catalog existing
      if geoIpListChanged existing hasPersistedPrefixes metadata.lastModified metadata.etag =
          false then
        .ok (none, t.touch existing metadata env.now)
      else do
        match ← fetchCountryPrefixesStreaming env.text env.get country existing with
        | none => return (none, t.touch existing metadata env.now)
        | some (fetchedMetadata, prefixes) =>
            if prefixes = [] then
              throw ("country " ++ country ++ " IP list is empty")
            else do
              let metadata := mergeGeoIpMetadata fetchedMetadata metadata
              let (changed, t) ←
                t.replacePrefixes catalog existing metadata prefixes env.now env.nextId
              return (if changed then some prefixes.length else none, t)

end GeoTables

/-! ## The loop -/

structure GeoRefreshReport where
  countries : List String
  checkedCountryCount : Nat
  changedCountryCount : Nat
  unchangedCountryCount : Nat
  failedCountryCount : Nat
  prefixCount : Nat
  providerBaseUrl : String
  refreshStatus : String
  cached : Bool
  running : Bool
  errors : List String
  deriving DecidableEq

/-- What `refresh_ipdeny_lists_for_countries` counts. -/
structure GeoRefreshCounts where
  changed : Nat
  unchanged : Nat
  failed : Nat
  prefixes : Nat
  errors : List String
  deriving DecidableEq

def GeoRefreshCounts.zero : GeoRefreshCounts where
  changed := 0
  unchanged := 0
  failed := 0
  prefixes := 0
  errors := []

def GeoRefreshCounts.add (counts : GeoRefreshCounts) (country : String) :
    Except String (Option Nat) → GeoRefreshCounts
  | .ok (some count) =>
      { counts with
        changed := counts.changed + 1
        prefixes := counts.prefixes + count }
  | .ok none => { counts with unchanged := counts.unchanged + 1 }
  | .error e =>
      { counts with
        failed := counts.failed + 1
        errors := counts.errors ++ [country ++ ": " ++ e] }

def GeoRefreshCounts.report (counts : GeoRefreshCounts) (countries : List String) :
    GeoRefreshReport where
  countries := countries
  checkedCountryCount := countries.length
  changedCountryCount := counts.changed
  unchangedCountryCount := counts.unchanged
  failedCountryCount := counts.failed
  prefixCount := counts.prefixes
  providerBaseUrl := ipdenyRoot
  refreshStatus :=
    if counts.failed = 0 then
      "completed"
    else if counts.changed > 0 ∨ counts.unchanged > 0 then
      "partial_failed"
    else
      "failed"
  cached := false
  running := false
  errors := counts.errors

/-- One round of the loop. A country that fails leaves the tables as they are. -/
def GeoTables.attempt (env : String → GeoEnv) (country : String) (t : GeoTables) :
    Except String (Option Nat) × GeoTables :=
  match t.refreshOneCountry (env country) country with
  | .ok (count, t) => (.ok count, t)
  | .error e => (.error e, t)

def refreshCountries (env : String → GeoEnv) :
    List String → GeoRefreshCounts → GeoTables → GeoRefreshCounts × GeoTables
  | [], counts, t => (counts, t)
  | country :: countries, counts, t =>
      let (outcome, t) := t.attempt env country
      refreshCountries env countries (counts.add country outcome) t

/-- `refresh_ipdeny_lists_for_countries`, once there is a client. The surroundings are those of the
moment when the country has its turn. -/
def refreshIpdenyListsForCountries (env : String → GeoEnv) (countries : List String)
    (t : GeoTables) : GeoRefreshReport × GeoTables :=
  let (counts, t) := refreshCountries env countries .zero t
  (counts.report countries, t)

/-! ## One country -/

/-- The rows of a country without the version that all countries share. -/
def CountryRows.unversioned (rows : CountryRows) : CountryRows :=
  { rows with version := 0 }

def GeoTables.slice (t : GeoTables) (country : String) : CountryRows :=
  (t.country country).unversioned

/-- The refresh of a country from its own rows. -/
def refreshAlone (env : String → GeoEnv) (country : String) (rows : CountryRows) :
    Except String (Option Nat) × CountryRows :=
  match refreshOneCountry (env country) country rows with
  | .ok (count, after) => (.ok count, after.unversioned)
  | .error e => (.error e, rows)

namespace GeoTables

variable {env : GeoEnv} {t t' : GeoTables} {country : String} {metadata : IpdenyMetadata}
  {now : Timestamp}

theorem slice_touch_self (hexisting : rowOf GeoIpListStateRow.country country t.states = existing) :
    (t.touch existing metadata now).slice country =
      touchExistingGeoIpState metadata now (t.slice country) := by
  cases existing with
  | none =>
      simp only [touch, slice, GeoTables.country, CountryRows.unversioned, touchExistingGeoIpState,
        hexisting, Option.map_none]
  | some existing =>
      obtain ⟨-, rfl⟩ := rowOf_eq_some hexisting
      simp only [touch, slice, GeoTables.country, CountryRows.unversioned, touchExistingGeoIpState]
      rw [rowOf_updateRow_self]
      exact fun _ h => h

theorem slice_touch_of_ne (hexisting : rowOf GeoIpListStateRow.country country t.states = existing)
    {other : String} (hne : other ≠ country) :
    (t.touch existing metadata now).slice other = t.slice other := by
  cases existing with
  | none => rfl
  | some existing =>
      obtain ⟨-, rfl⟩ := rowOf_eq_some hexisting
      simp only [touch, slice, GeoTables.country, CountryRows.unversioned]
      rw [rowOf_updateRow_of_ne hne]
      exact fun _ h => h

section Store

variable {catalog : GeoCountryCatalogRow} {existing : Option GeoIpListStateRow}
  {prefixes : List GeoPrefix} {id : Int32} {changed : Bool}

theorem slice_storePrefixes_self :
    (t.storePrefixes catalog existing metadata prefixes now id changed).slice catalog.code =
      { catalog := (t.slice catalog.code).catalog
        state := some
          { country := catalog.code
            url := metadata.url
            lastModified := metadata.lastModified
            etag := metadata.etag
            prefixCount := prefixes.length
            lastCheckedAt := now
            lastDownloadedAt := some now
            updatedAt := if changed then now else
              (existing.map GeoIpListStateRow.updatedAt).getD now }
        prefixes :=
          if changed then
            some
              { id := id
                country := catalog.code
                cidrsJson := geoCidrsJson prefixes }
          else
            (t.slice catalog.code).prefixes
        version := 0 } := by
  have hstate (row : GeoIpListStateRow) (h : row.country = catalog.code) :
      rowOf GeoIpListStateRow.country catalog.code
        (upsertRow GeoIpListStateRow.country row t.states) = some row := by
    rw [← h]
    exact rowOf_upsertRow_self row t.states
  have hprefixes (row : GeoIpPrefixRow) (h : row.country = catalog.code) :
      rowOf GeoIpPrefixRow.country catalog.code
        (replaceRow GeoIpPrefixRow.country row t.db.geoIpPrefixes) = some row := by
    rw [← h]
    exact rowOf_replaceRow_self row t.db.geoIpPrefixes
  cases changed with
  | false =>
      simp only [storePrefixes, slice, GeoTables.country, CountryRows.unversioned, Bool.false_eq_true,
        if_false]
      rw [hstate _ rfl]
  | true =>
      simp only [storePrefixes, slice, GeoTables.country, CountryRows.unversioned, if_true, raised]
      rw [hstate _ rfl, hprefixes _ rfl]

theorem slice_storePrefixes_of_ne {other : String} (hne : other ≠ catalog.code) :
    (t.storePrefixes catalog existing metadata prefixes now id changed).slice other =
      t.slice other := by
  have hstate (row : GeoIpListStateRow) (h : row.country = catalog.code) :
      rowOf GeoIpListStateRow.country other (upsertRow GeoIpListStateRow.country row t.states) =
        rowOf GeoIpListStateRow.country other t.states :=
    rowOf_upsertRow_of_ne (h ▸ hne) t.states
  have hprefixes (row : GeoIpPrefixRow) (h : row.country = catalog.code) :
      rowOf GeoIpPrefixRow.country other
          (replaceRow GeoIpPrefixRow.country row t.db.geoIpPrefixes) =
        rowOf GeoIpPrefixRow.country other t.db.geoIpPrefixes :=
    rowOf_replaceRow_of_ne (h ▸ hne) t.db.geoIpPrefixes
  cases changed with
  | false =>
      simp only [storePrefixes, slice, GeoTables.country, CountryRows.unversioned, Bool.false_eq_true,
        if_false]
      rw [hstate _ rfl]
  | true =>
      simp only [storePrefixes, slice, GeoTables.country, CountryRows.unversioned, if_true, raised]
      rw [hstate _ rfl, hprefixes _ rfl]

/-- The list that is stored for a country is the one that its own rows get. -/
theorem replacePrefixes_slice (hcode : catalog.code = country)
    (hexisting : rowOf GeoIpListStateRow.country country t.states = existing) :
    (t.replacePrefixes catalog existing metadata prefixes now id).map
        (fun result => (result.1, result.2.slice country)) =
      (replaceGeoPrefixes catalog metadata prefixes now id (t.slice country)).map
        fun result => (result.1, result.2.unversioned) := by
  subst hcode hexisting
  unfold replacePrefixes replaceGeoPrefixes
  dsimp only
  split
  · refine congrArg Except.ok (Prod.ext rfl ?_)
    exact slice_storePrefixes_self
  · rfl

end Store

/-- The refresh of a country is the one that its own rows get. -/
theorem refreshOneCountry_slice (env : GeoEnv) (country : String) (t : GeoTables) :
    (t.refreshOneCountry env country).map (fun result => (result.1, result.2.slice country)) =
      (Intelligence.refreshOneCountry env country (t.slice country)).map
        fun result => (result.1, result.2.unversioned) := by
  have hrows : (t.slice country).catalog = rowOf GeoCountryCatalogRow.code country t.catalog := rfl
  have hstate : (t.slice country).state = rowOf GeoIpListStateRow.country country t.states := rfl
  have hhas : hasPersistedCountryPrefixes env.persistedCidrs (t.country country) =
      hasPersistedCountryPrefixes env.persistedCidrs (t.slice country) := rfl
  unfold refreshOneCountry Intelligence.refreshOneCountry
  dsimp only
  rw [hrows, hstate, hhas]
  cases hcatalog : rowOf GeoCountryCatalogRow.code country t.catalog with
  | none => rfl
  | some catalog =>
      have hcode := (rowOf_eq_some hcatalog).2
      have htouch (metadata : IpdenyMetadata) : (t.touch (rowOf GeoIpListStateRow.country country
          t.states) metadata env.now).slice country =
            (touchExistingGeoIpState metadata env.now (t.slice country)).unversioned :=
        slice_touch_self rfl
      dsimp only
      split
      · exact congrArg Except.ok (Prod.ext rfl (htouch _))
      · cases hfetched : fetchCountryPrefixesStreaming env.text env.get country
            (rowOf GeoIpListStateRow.country country t.states) with
        | error e => rfl
        | ok fetched =>
            cases fetched with
            | none => exact congrArg Except.ok (Prod.ext rfl (htouch _))
            | some fetched =>
                obtain ⟨fetchedMetadata, prefixes⟩ := fetched
                simp only [bind, Except.bind]
                split
                · rfl
                · have hreplace := @replacePrefixes_slice t country (mergeGeoIpMetadata
                    fetchedMetadata (fetchCountryMetadataOrCatalog env.head country catalog
                      (rowOf GeoIpListStateRow.country country t.states))) env.now catalog _
                    prefixes env.nextId hcode rfl
                  revert hreplace
                  generalize t.replacePrefixes _ _ _ _ _ _ = stored
                  generalize replaceGeoPrefixes _ _ _ _ _ _ = stored'
                  intro hreplace
                  cases stored with
                  | error e =>
                      cases stored' with
                      | error e' => cases hreplace; rfl
                      | ok _ => cases hreplace
                  | ok stored =>
                      cases stored' with
                      | error e' => cases hreplace
                      | ok stored' =>
                          obtain ⟨hchanged, hrows⟩ := Prod.mk.inj (Except.ok.inj hreplace)
                          refine congrArg Except.ok (Prod.ext ?_ hrows)
                          change (if stored.1 then _ else _) = if stored'.1 then _ else _
                          rw [hchanged]

/-- What a refresh that succeeds can have done to the tables. -/
theorem refreshOneCountry_cases {count : Option Nat}
    (h : t.refreshOneCountry env country = .ok (count, t')) :
    (∃ metadata, count = none ∧
      t' = t.touch (rowOf GeoIpListStateRow.country country t.states) metadata env.now) ∨
    ∃ catalog existing metadata prefixes changed, catalog.code = country ∧
      count = (if changed then some prefixes.length else none) ∧
      t' = t.storePrefixes catalog existing metadata prefixes env.now env.nextId changed := by
  unfold refreshOneCountry at h
  cases hcatalog : rowOf GeoCountryCatalogRow.code country t.catalog with
  | none =>
      rw [hcatalog] at h
      cases h
  | some catalog =>
      rw [hcatalog] at h
      dsimp only at h
      split at h
      · cases h
        exact Or.inl ⟨_, rfl, rfl⟩
      · obtain ⟨fetched, -, h⟩ := bind_ok_iff.mp h
        cases fetched with
        | none =>
            cases h
            exact Or.inl ⟨_, rfl, rfl⟩
        | some fetched =>
            dsimp only at h
            split at h
            · cases h
            · obtain ⟨⟨changed, stored⟩, hstored, h⟩ := bind_ok_iff.mp h
              cases h
              unfold replacePrefixes at hstored
              dsimp only at hstored
              split at hstored
              · cases hstored
                exact Or.inr ⟨catalog, _, _, _, _, (rowOf_eq_some hcatalog).2, rfl, rfl⟩
              · cases hstored

/-- The rows of other countries stay as they are. -/
theorem slice_refreshOneCountry_of_ne {count : Option Nat}
    (h : t.refreshOneCountry env country = .ok (count, t')) {other : String}
    (hne : other ≠ country) : t'.slice other = t.slice other := by
  rcases refreshOneCountry_cases h with ⟨metadata, -, rfl⟩ | ⟨_, _, _, _, _, rfl, -, rfl⟩
  · exact slice_touch_of_ne rfl hne
  · exact slice_storePrefixes_of_ne hne

/-- The version is raised when there is a new list. -/
theorem version_refreshOneCountry {count : Option Nat}
    (h : t.refreshOneCountry env country = .ok (count, t')) :
    policyVersion t'.db defaultPolicyName =
      policyVersion t.db defaultPolicyName + if count.isSome then 1 else 0 := by
  rcases refreshOneCountry_cases h with ⟨metadata, rfl, rfl⟩ | ⟨_, _, _, _, changed, -, rfl, rfl⟩
  · cases hexisting : rowOf GeoIpListStateRow.country country t.states <;> simp [touch]
  · cases changed with
    | false => simp [storePrefixes]
    | true =>
        simp only [storePrefixes, if_true, policyVersion_raised]
        rfl

/-- The tables that a refresh of countries does not write to. -/
def rest (t : GeoTables) : List GeoCountryCatalogRow × PolicyDb :=
  (t.catalog,
    { t.db with
      policyVersions := []
      geoIpPrefixes := [] })

theorem rest_refreshOneCountry {count : Option Nat}
    (h : t.refreshOneCountry env country = .ok (count, t')) : t'.rest = t.rest := by
  rcases refreshOneCountry_cases h with ⟨metadata, -, rfl⟩ | ⟨_, _, _, _, changed, -, -, rfl⟩
  · cases hexisting : rowOf GeoIpListStateRow.country country t.states <;> rfl
  · cases changed <;> rfl

end GeoTables

/-! ## All countries -/

section Loop

variable {env : String → GeoEnv} {countries : List String} {t : GeoTables}

theorem keepsToSlice_attempt (env : String → GeoEnv) :
    KeepsToSlice GeoTables.slice (fun country t => t.attempt env country) (refreshAlone env) := by
  have hslice (country : String) (t : GeoTables) :
      ((t.attempt env country).1, (t.attempt env country).2.slice country) =
        refreshAlone env country (t.slice country) := by
    have hrows := t.refreshOneCountry_slice (env country) country
    unfold GeoTables.attempt refreshAlone
    cases hwhole : t.refreshOneCountry (env country) country with
    | error e =>
        rw [hwhole] at hrows
        cases halone : refreshOneCountry (env country) country (t.slice country) with
        | ok _ =>
            rw [halone] at hrows
            cases hrows
        | error e' =>
            rw [halone] at hrows
            cases hrows
            rfl
    | ok result =>
        rw [hwhole] at hrows
        cases halone : refreshOneCountry (env country) country (t.slice country) with
        | error e' =>
            rw [halone] at hrows
            cases hrows
        | ok result' =>
            rw [halone] at hrows
            obtain ⟨hcount, hafter⟩ := Prod.mk.inj (Except.ok.inj hrows)
            exact Prod.ext (congrArg Except.ok hcount) hafter
  refine ⟨fun country t => congrArg Prod.fst (hslice country t),
    fun country t => congrArg Prod.snd (hslice country t), fun country t other hne => ?_⟩
  unfold GeoTables.attempt
  cases hwhole : t.refreshOneCountry (env country) country with
  | error e => rfl
  | ok result => exact GeoTables.slice_refreshOneCountry_of_ne hwhole hne

/-- The loop is a sweep that counts. -/
theorem refreshCountries_eq (counts : GeoRefreshCounts) :
    refreshCountries env countries counts t =
      let swept := sweep (fun country t => t.attempt env country) countries t
      ((countries.zip swept.1).foldl (fun counts outcome => counts.add outcome.1 outcome.2) counts,
        swept.2) := by
  induction countries generalizing counts t with
  | nil => rfl
  | cons country countries ih =>
      rw [refreshCountries]
      exact ih _

end Loop

end Intelligence
end XdpFirewall
