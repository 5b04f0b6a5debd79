import XdpFirewall.Intelligence.GeoTables

/-!
# GeoRefreshAll — a refresh of the catalog and of every country in it

The catalog is brought up to date first and says which countries there are. A refresh that does not
get the lock, or that cannot read the index of the provider, changes nothing at all. Otherwise every
country ends as if it had been the only one, and the report says of each what became of it.
-/

namespace XdpFirewall
namespace Intelligence

open Api ControlPlane Lib Net Policy

/-! ## The catalog -/

/-- A line of the provider's index. -/
structure IpdenyIndexEntry where
  country : String
  url : String
  lastModified : Option String

def IpdenyIndexEntry.row (entry : IpdenyIndexEntry) : GeoCountryCatalogRow where
  code := entry.country
  url := entry.url
  lastModified := entry.lastModified

/-- `upsert_country_catalog_entry` -/
def GeoTables.upsertCountryCatalogEntry (t : GeoTables) (entry : IpdenyIndexEntry) : GeoTables :=
  { t with catalog := upsertRow GeoCountryCatalogRow.code entry.row t.catalog }

/-- `list_country_options`, of which a refresh takes the codes. -/
def GeoTables.listCountryOptions (t : GeoTables) : List String :=
  (t.catalog.mergeSort fun a b => a.code ≤ b.code).map GeoCountryCatalogRow.code

def GeoTables.upsertCatalog (t : GeoTables) (entries : List IpdenyIndexEntry) : GeoTables :=
  entries.foldl GeoTables.upsertCountryCatalogEntry t

/-! ## The refresh -/

def GeoRefreshReport.empty (refreshStatus : String) : GeoRefreshReport where
  countries := []
  checkedCountryCount := 0
  changedCountryCount := 0
  unchangedCountryCount := 0
  failedCountryCount := 0
  prefixCount := 0
  providerBaseUrl := ipdenyRoot
  refreshStatus := refreshStatus
  cached := false
  running := false
  errors := []

/-- `GeoRefreshReport::running` -/
def GeoRefreshReport.alreadyRunning : GeoRefreshReport :=
  { GeoRefreshReport.empty "running" with running := true }

/-- What a refresh finds around it: the lock, the index and a client for the lists. -/
structure RefreshAllEnv where
  acquired : Except String Bool
  index : Except String (List IpdenyIndexEntry)
  client : Except String Unit
  country : String → GeoEnv

/-- `refresh_all_ipdeny_lists` -/
def refreshAllIpdenyLists (env : RefreshAllEnv) (t : GeoTables) :
    Except String GeoRefreshReport × GeoTables :=
  match env.acquired with
  | .error e => (.error e, t)
  | .ok false => (.ok .alreadyRunning, t)
  | .ok true =>
      match env.index with
      | .error e => (.error e, t)
      | .ok entries =>
          let t := t.upsertCatalog entries
          match env.client with
          | .error e => (.error e, t)
          | .ok () =>
              let (report, t) := refreshIpdenyListsForCountries env.country t.listCountryOptions t
              (.ok report, t)

/-! ## Counts -/

def wasChanged : Except String (Option Nat) → Bool
  | .ok (some _) => true
  | _ => false

def wasUnchanged : Except String (Option Nat) → Bool
  | .ok none => true
  | _ => false

def hasFailed : Except String (Option Nat) → Bool
  | .error _ => true
  | .ok _ => false

def prefixesOf : Except String (Option Nat) → Nat
  | .ok (some count) => count
  | _ => 0

def errorOf (outcome : String × Except String (Option Nat)) : Option String :=
  match outcome.2 with
  | .error e => some (outcome.1 ++ ": " ++ e)
  | .ok _ => none

/-- The counts of these countries and what was counted before. -/
def GeoRefreshCounts.of (counts : GeoRefreshCounts)
    (outcomes : List (String × Except String (Option Nat))) : GeoRefreshCounts where
  changed := counts.changed + outcomes.countP fun outcome => wasChanged outcome.2
  unchanged := counts.unchanged + outcomes.countP fun outcome => wasUnchanged outcome.2
  failed := counts.failed + outcomes.countP fun outcome => hasFailed outcome.2
  prefixes := counts.prefixes + (outcomes.map fun outcome => prefixesOf outcome.2).sum
  errors := counts.errors ++ outcomes.filterMap errorOf

theorem foldl_add (outcomes : List (String × Except String (Option Nat)))
    (counts : GeoRefreshCounts) :
    outcomes.foldl (fun counts outcome => counts.add outcome.1 outcome.2) counts =
      counts.of outcomes := by
  induction outcomes generalizing counts with
  | nil => simp [GeoRefreshCounts.of]
  | cons outcome outcomes ih =>
      obtain ⟨country, outcome⟩ := outcome
      rw [List.foldl_cons, ih]
      rcases outcome with e | _ | count
      all_goals
        simp [GeoRefreshCounts.of, GeoRefreshCounts.add, wasChanged, wasUnchanged, hasFailed,
          prefixesOf, errorOf, List.filterMap_cons, Nat.add_assoc, Nat.add_comm 1]

theorem length_eq_counts (outcomes : List (String × Except String (Option Nat))) :
    outcomes.length = (outcomes.countP fun outcome => wasChanged outcome.2) +
      (outcomes.countP fun outcome => wasUnchanged outcome.2) +
      outcomes.countP fun outcome => hasFailed outcome.2 := by
  induction outcomes with
  | nil => rfl
  | cons outcome outcomes ih =>
      obtain ⟨country, outcome⟩ := outcome
      rcases outcome with e | _ | count
      all_goals
        simp only [wasChanged, wasUnchanged, hasFailed, List.length_cons, List.countP_cons, if_true,
          Bool.false_eq_true, if_false] at ih ⊢
        omega

/-! ## Countries of the catalog -/

theorem uniqueKeys_upsertCatalog {t : GeoTables} (h : UniqueKeys GeoCountryCatalogRow.code t.catalog)
    (entries : List IpdenyIndexEntry) :
    UniqueKeys GeoCountryCatalogRow.code (t.upsertCatalog entries).catalog := by
  induction entries generalizing t with
  | nil => exact h
  | cons entry entries ih => exact @ih (t.upsertCountryCatalogEntry entry) h.upsertRow

/-- The last line of the index about a country is the one that counts. -/
theorem rowOf_upsertCatalog (t : GeoTables) (entries : List IpdenyIndexEntry) (country : String) :
    rowOf GeoCountryCatalogRow.code country (t.upsertCatalog entries).catalog =
      ((entries.reverse.find? fun entry => entry.country = country).map IpdenyIndexEntry.row).or
        (rowOf GeoCountryCatalogRow.code country t.catalog) := by
  induction entries generalizing t with
  | nil => rfl
  | cons entry entries ih =>
      have hrest := ih (t.upsertCountryCatalogEntry entry)
      rw [List.reverse_cons, List.find?_append, Option.map_or, Option.or_assoc]
      refine hrest.trans (congrArg _ ?_)
      by_cases hcountry : entry.country = country
      · subst hcountry
        rw [List.find?_cons_of_pos (by simp)]
        exact rowOf_upsertRow_self entry.row t.catalog
      · rw [List.find?_cons_of_neg (by simp [hcountry])]
        have hne : country ≠ entry.row.code := fun hsame => hcountry hsame.symm
        exact rowOf_upsertRow_of_ne hne t.catalog

theorem nodup_listCountryOptions {t : GeoTables}
    (h : UniqueKeys GeoCountryCatalogRow.code t.catalog) : t.listCountryOptions.Nodup :=
  ((List.mergeSort_perm t.catalog _).map _).nodup_iff.mpr h

theorem mem_listCountryOptions {t : GeoTables} {country : String} :
    country ∈ t.listCountryOptions ↔
      (rowOf GeoCountryCatalogRow.code country t.catalog).isSome = true := by
  rw [GeoTables.listCountryOptions, List.mem_map, rowOf, List.find?_isSome]
  simp only [List.mem_mergeSort, decide_eq_true_eq]

/-! ## Lists in force -/

section InForce

variable {env : GeoEnv} {country : String} {rows after : CountryRows} {count : Option Nat}

/-- The list of a country changes when the provider has sent another one, and only then. -/
theorem refreshOneCountry_prefixes (h : refreshOneCountry env country rows = .ok (count, after)) :
    (count = none ∧ after.prefixes = rows.prefixes) ∨
    ∃ version prefixes row, env.get (conditionalCountryRequest rows.state) = .ok version ∧
      prefixes.map GeoPrefix.toNetwork = payload env.text version ∧ prefixes ≠ [] ∧
      count = some prefixes.length ∧ after.prefixes = some row ∧
      row.cidrsJson = geoCidrsJson prefixes := by
  unfold refreshOneCountry at h
  cases hcatalog : rows.catalog with
  | none =>
      rw [hcatalog] at h
      cases h
  | some catalog =>
      rw [hcatalog] at h
      dsimp only at h
      split at h
      · cases h
        exact Or.inl ⟨rfl, rfl⟩
      · obtain ⟨fetched, hfetched, h⟩ := bind_ok_iff.mp h
        have hanswer := fetchCountryPrefixesStreaming_ok hfetched
        cases hget : env.get (conditionalCountryRequest rows.state) with
        | failed =>
            rw [hget] at hanswer
            exact hanswer.elim
        | notModified =>
            rw [hget] at hanswer
            cases hanswer
            cases h
            exact Or.inl ⟨rfl, rfl⟩
        | ok version =>
            rw [hget] at hanswer
            obtain ⟨metadata, prefixes, rfl, -, -, hpayload⟩ := hanswer
            dsimp only at h
            split at h
            · cases h
            · next hne =>
                obtain ⟨⟨changed, stored⟩, hstored, h⟩ := bind_ok_iff.mp h
                obtain ⟨⟨row, hrow, hjson⟩, -⟩ := replaceGeoPrefixes_ok hstored
                cases h
                cases changed with
                | true => exact Or.inr ⟨version, prefixes, row, rfl, hpayload, hne, rfl, hrow, hjson⟩
                | false =>
                    refine Or.inl ⟨rfl, ?_⟩
                    unfold replaceGeoPrefixes at hstored
                    dsimp only at hstored
                    split at hstored
                    · obtain ⟨hchanged, hafter⟩ := Prod.mk.inj (Except.ok.inj hstored)
                      rw [← hafter]
                      dsimp only
                      rw [hchanged]
                      rfl
                    · cases hstored

/-- The reader of stored arrays gives back the networks that were printed. -/
def ReadsArrays (text : TextReaders) : Prop :=
  ∀ nets : List IpNet, text.cidrArray (arrayText
    (nets.map fun net => String.ofList (cidrText net.addr net.prefixLen))) = nets

theorem toNetwork_trunc (net : IpNet) : net.trunc.toNetwork = net.toNetwork := by
  have hext : ∀ a b : Network, a.addr = b.addr → a.prefixLen = b.prefixLen → a = b := by
    rintro ⟨_, _, _⟩ ⟨_, _, _⟩ rfl rfl
    rfl
  exact hext _ _ (IpNet.network_trunc net) (IpNet.trunc_prefixLen net)

/-- The blocks of a country that a policy is loaded with. -/
def LoadsBlocks (text : TextReaders) (t : GeoTables) (country : String)
    (networks : List Network) : Prop :=
  ∃ blocks, persistedCountryPrefixes text t.db country = .ok blocks ∧
    (blocks.map fun block => block.cidr.toNetwork) = networks ∧
    ∀ block ∈ blocks, block.country = country

/-- What a policy is loaded with depends on the list of the country only. -/
theorem persistedCountryPrefixes_slice {text : TextReaders} (t : GeoTables)
    (hcountry : normalizedCountry country = .ok country) :
    persistedCountryPrefixes text t.db country = .ok
      (((t.slice country).prefixes.map fun row => (text.cidrArray row.cidrsJson).map fun net =>
        ({ cidr := net.trunc, country := country } : GeoIpPrefixPolicy)).getD []) := by
  have hfound : (t.db.geoIpPrefixes.find? fun row => row.country = country) =
      (t.slice country).prefixes := rfl
  refine bind_ok_iff.mpr ⟨country, hcountry, ?_⟩
  rw [hfound]
  cases (t.slice country).prefixes <;> rfl

theorem loadsBlocks_of_row {text : TextReaders} (htext : ReadsArrays text)
    (hcountry : normalizedCountry country = .ok country) {t : GeoTables} {row : GeoIpPrefixRow}
    (hrow : (t.slice country).prefixes = some row) {prefixes : List GeoPrefix}
    (hjson : row.cidrsJson = geoCidrsJson prefixes) :
    LoadsBlocks text t country (prefixes.map GeoPrefix.toNetwork) := by
  obtain ⟨nets, htexts, hnetworks⟩ := exists_nets prefixes
  have hread : text.cidrArray row.cidrsJson = nets := by
    rw [hjson, geoCidrsJson, ← htexts]
    exact htext nets
  refine ⟨_, persistedCountryPrefixes_slice t hcountry, ?_, ?_⟩
  · rw [hrow, Option.map_some, Option.getD_some, hread, List.map_map, ← hnetworks]
    exact List.map_congr_left fun net _ => toNetwork_trunc net
  · intro block hblock
    rw [hrow, Option.map_some, Option.getD_some] at hblock
    obtain ⟨net, -, rfl⟩ := List.mem_map.mp hblock
    rfl

end InForce

/-! ## What a refresh of all countries leaves -/

/-- What becomes of a country when it is the only one. -/
def outcomeAlone (env : String → GeoEnv) (t : GeoTables) (country : String) :
    Except String (Option Nat) :=
  (refreshAlone env country (t.slice country)).1

/-- The blocks that are in force for a country after its outcome: the ones that the provider has
sent, or those of before. -/
def InForceAfter (env : String → GeoEnv) (before after : GeoTables) (country : String) : Prop :=
  match outcomeAlone env before country with
  | .ok (some count) =>
      ∃ version, (env country).get (conditionalCountryRequest (before.slice country).state) =
          .ok version ∧
        (payload (env country).text version).length = count ∧
        LoadsBlocks (env country).text after country (payload (env country).text version)
  | _ =>
      persistedCountryPrefixes (env country).text after.db country =
        persistedCountryPrefixes (env country).text before.db country

/-- Every country as if it had been the only one, the other tables as they were, and a report that
tells of each country once. -/
structure RefreshedEach (env : String → GeoEnv) (before after : GeoTables)
    (report : GeoRefreshReport) : Prop where
  countries : report.countries.Nodup
  each : ∀ country ∈ report.countries,
    after.slice country = (refreshAlone env country (before.slice country)).2
  others : ∀ country, country ∉ report.countries → after.slice country = before.slice country
  rest : after.rest = before.rest
  version : policyVersion after.db defaultPolicyName =
    policyVersion before.db defaultPolicyName + report.changedCountryCount
  inForce : ∀ country ∈ report.countries, normalizedCountry country = .ok country →
    InForceAfter env before after country
  changed : report.changedCountryCount =
    report.countries.countP fun country => wasChanged (outcomeAlone env before country)
  failed : report.failedCountryCount =
    report.countries.countP fun country => hasFailed (outcomeAlone env before country)
  checked : report.checkedCountryCount = report.countries.length ∧
    report.checkedCountryCount = report.changedCountryCount + report.unchangedCountryCount +
      report.failedCountryCount
  prefixes : report.prefixCount =
    (report.countries.map fun country => prefixesOf (outcomeAlone env before country)).sum
  errors : report.errors =
    report.countries.filterMap fun country => errorOf (country, outcomeAlone env before country)
  status : (report.refreshStatus = "completed" ↔
      ∀ country ∈ report.countries, hasFailed (outcomeAlone env before country) = false) ∧
    (report.refreshStatus = "failed" ↔ report.countries ≠ [] ∧
      ∀ country ∈ report.countries, hasFailed (outcomeAlone env before country) = true)
  finished : report.running = false ∧ report.cached = false

section Each

variable {env : String → GeoEnv} {countries : List String} {t : GeoTables}

/-- The outcomes of the countries, each of them alone. -/
def outcomes (env : String → GeoEnv) (t : GeoTables) (countries : List String) :
    List (String × Except String (Option Nat)) :=
  countries.map fun country => (country, outcomeAlone env t country)

theorem refreshCountries_each (hcountries : countries.Nodup) :
    refreshCountries env countries .zero t =
      (GeoRefreshCounts.zero.of (outcomes env t countries),
        (sweep (fun country t => t.attempt env country) countries t).2) := by
  have hgives := (keepsToSlice_attempt env).gives_sweep hcountries t
  have hzip : countries.zip (countries.map (outcomeAlone env t)) = outcomes env t countries := by
    rw [outcomes, List.map_prod_left_eq_zip]
  rw [refreshCountries_eq, ← hzip, ← foldl_add]
  dsimp only
  rw [hgives]
  rfl

theorem version_attempt (country : String) (t : GeoTables) :
    policyVersion (t.attempt env country).2.db defaultPolicyName =
      policyVersion t.db defaultPolicyName +
        if wasChanged (t.attempt env country).1 then 1 else 0 := by
  unfold GeoTables.attempt
  cases hrefresh : t.refreshOneCountry (env country) country with
  | error e => simp [wasChanged]
  | ok result =>
      obtain ⟨count, after⟩ := result
      rw [GeoTables.version_refreshOneCountry hrefresh]
      cases count <;> rfl

theorem rest_attempt (country : String) (t : GeoTables) :
    (t.attempt env country).2.rest = t.rest := by
  unfold GeoTables.attempt
  cases hrefresh : t.refreshOneCountry (env country) country with
  | error e => rfl
  | ok result => exact GeoTables.rest_refreshOneCountry hrefresh

theorem sum_map_ite {A : Type} (p : A → Bool) (l : List A) :
    (l.map fun a => if p a then (1 : Int) else 0).sum = l.countP p := by
  induction l with
  | nil => rfl
  | cons a l ih =>
      rw [List.map_cons, List.sum_cons, ih, List.countP_cons]
      cases p a <;> simp [Int.add_comm]

theorem statusText_eq_completed_iff {failed : Nat} {partly : Prop} [Decidable partly] :
    (if failed = 0 then "completed" else if partly then "partial_failed" else "failed") =
      "completed" ↔ failed = 0 := by
  by_cases hfailed : failed = 0
  · simp [hfailed]
  · by_cases hsome : partly <;> simp [hfailed, hsome]

theorem statusText_eq_failed_iff {failed : Nat} {partly : Prop} [Decidable partly] :
    (if failed = 0 then "completed" else if partly then "partial_failed" else "failed") =
      "failed" ↔ failed ≠ 0 ∧ ¬ partly := by
  by_cases hfailed : failed = 0
  · simp [hfailed]
  · by_cases hsome : partly <;> simp [hfailed, hsome]

/-- What a policy is loaded with, for a country that was refreshed. -/
theorem inForceAfter_of_slice (htext : ∀ country, ReadsArrays (env country).text)
    {after : GeoTables} {country : String} (hcountry : normalizedCountry country = .ok country)
    (hslice : after.slice country = (refreshAlone env country (t.slice country)).2) :
    InForceAfter env t after country := by
  unfold InForceAfter outcomeAlone
  unfold refreshAlone at hslice ⊢
  cases hrefresh : refreshOneCountry (env country) country (t.slice country) with
  | error e =>
      rw [hrefresh] at hslice
      rw [persistedCountryPrefixes_slice t hcountry, persistedCountryPrefixes_slice after hcountry,
        hslice]
  | ok result =>
      obtain ⟨count, rows⟩ := result
      rw [hrefresh] at hslice
      rcases refreshOneCountry_prefixes hrefresh with ⟨rfl, hsame⟩ |
        ⟨version, prefixes, row, hget, hpayload, -, rfl, hrow, hjson⟩
      · have hprefixes : (after.slice country).prefixes = (t.slice country).prefixes := by
          rw [hslice]
          exact hsame
        dsimp only
        rw [persistedCountryPrefixes_slice t hcountry,
          persistedCountryPrefixes_slice after hcountry, hprefixes]
      · have hprefixes : (after.slice country).prefixes = some row := by
          rw [hslice]
          exact hrow
        refine ⟨version, hget, ?_, ?_⟩
        · rw [← hpayload, List.length_map]
        · rw [← hpayload]
          exact loadsBlocks_of_row (htext country) hcountry hprefixes hjson

theorem refreshedEach_of_nodup (htext : ∀ country, ReadsArrays (env country).text)
    (hcountries : countries.Nodup) :
    RefreshedEach env t (refreshIpdenyListsForCountries env countries t).2
      (refreshIpdenyListsForCountries env countries t).1 := by
  have hrun := @refreshCountries_each env countries t hcountries
  have hkeeps := keepsToSlice_attempt env
  have hoverall := length_eq_counts (outcomes env t countries)
  have hcount (p : Except String (Option Nat) → Bool) :
      ((outcomes env t countries).countP fun outcome => p outcome.2) =
        countries.countP fun country => p (outcomeAlone env t country) := by
    rw [outcomes, List.countP_map]
    rfl
  rw [hcount, hcount, hcount, outcomes, List.length_map] at hoverall
  unfold refreshIpdenyListsForCountries
  rw [hrun]
  dsimp only [GeoRefreshCounts.report, GeoRefreshCounts.of, GeoRefreshCounts.zero]
  simp only [Nat.zero_add, List.nil_append, hcount]
  refine
    { countries := hcountries
      each := fun country hcountry => hkeeps.slice_of_mem hcountries hcountry t
      others := fun country hcountry => hkeeps.slice_of_notMem hcountry t
      rest := sweep_keeps rest_attempt countries t
      version := ?_
      inForce := fun country hcountry hnormal => inForceAfter_of_slice htext hnormal
        (hkeeps.slice_of_mem hcountries hcountry t)
      changed := rfl
      failed := rfl
      checked := ⟨rfl, hoverall⟩
      prefixes := ?_
      errors := ?_
      status := ⟨?_, ?_⟩
      finished := ⟨rfl, rfl⟩ }
  · have hsum := @sweep_sum _ _ _ (fun country t => t.attempt env country)
      (fun t => policyVersion t.db defaultPolicyName)
      (fun outcome => if wasChanged outcome then 1 else 0) version_attempt countries t
    rw [hsum, hkeeps.gives_sweep hcountries, sum_map_ite, List.countP_map]
    rfl
  · rw [outcomes, List.map_map]
    rfl
  · rw [outcomes, List.filterMap_map]
    rfl
  · refine statusText_eq_completed_iff.trans (List.countP_eq_zero.trans ?_)
    simp only [Bool.not_eq_true]
  · refine statusText_eq_failed_iff.trans ?_
    rw [← List.countP_eq_length, ← List.length_pos_iff]
    dsimp only
    omega

end Each

/-- Without the lock or the index nothing changes. Otherwise the countries are those of the catalog
with the index, and each of them ends as if it had been the only one. -/
theorem refreshAllIpdenyLists_each (env : RefreshAllEnv) (t : GeoTables)
    (htext : ∀ country, ReadsArrays (env.country country).text)
    (hkeys : UniqueKeys GeoCountryCatalogRow.code t.catalog) :
    (env.acquired ≠ .ok true ∨ (∃ e, env.index = .error e) →
      (refreshAllIpdenyLists env t).2 = t) ∧
    ∀ entries, env.acquired = .ok true → env.index = .ok entries → env.client = .ok () →
      ∃ report, (refreshAllIpdenyLists env t).1 = .ok report ∧
        RefreshedEach env.country (t.upsertCatalog entries) (refreshAllIpdenyLists env t).2 report ∧
        ∀ country, country ∈ report.countries ↔
          (∃ entry ∈ entries, entry.country = country) ∨ ∃ row ∈ t.catalog, row.code = country := by
  constructor
  · intro hnothing
    unfold refreshAllIpdenyLists
    rcases hacquired : env.acquired with e | acquired
    · rfl
    · cases acquired with
      | false => rfl
      | true =>
          rcases hnothing with hnothing | ⟨e, hindex⟩
          · exact absurd hacquired hnothing
          · rw [hindex]
  · intro entries hacquired hindex hclient
    have hrun : refreshAllIpdenyLists env t =
        (.ok (refreshIpdenyListsForCountries env.country
            (t.upsertCatalog entries).listCountryOptions (t.upsertCatalog entries)).1,
          (refreshIpdenyListsForCountries env.country
            (t.upsertCatalog entries).listCountryOptions (t.upsertCatalog entries)).2) := by
      unfold refreshAllIpdenyLists
      rw [hacquired, hindex]
      dsimp only
      rw [hclient]
    rw [hrun]
    refine ⟨_, rfl, ?_, fun country => ?_⟩
    · exact refreshedEach_of_nodup htext
        (nodup_listCountryOptions (uniqueKeys_upsertCatalog hkeys entries))
    · have hcountries : (refreshIpdenyListsForCountries env.country
          (t.upsertCatalog entries).listCountryOptions (t.upsertCatalog entries)).1.countries =
            (t.upsertCatalog entries).listCountryOptions := rfl
      rw [hcountries, mem_listCountryOptions, rowOf_upsertCatalog, Option.isSome_or,
        Option.isSome_map, Bool.or_eq_true, rowOf, List.find?_isSome, List.find?_isSome]
      simp only [List.mem_reverse, decide_eq_true_eq]

section TwoCountries

def storedReaders : TextReaders :=
  { feedReaders with cidrArray := fun value => (printedCidrs value).getD [] }

theorem readsArrays_storedReaders : ReadsArrays storedReaders := by
  intro nets
  change (printedCidrs _).getD [] = nets
  rw [readsCidrs_printedCidrs nets, Option.getD_some]

/-- The provider has a list for one country and does not answer for the other. -/
def twoCountries : RefreshAllEnv where
  acquired := .ok true
  index := .ok
    [{ country := "US"
       url := "https://www.ipdeny.com/ipblocks/data/aggregated/us-aggregated.zone"
       lastModified := none },
     { country := "DE"
       url := "https://www.ipdeny.com/ipblocks/data/aggregated/de-aggregated.zone"
       lastModified := none }]
  client := .ok ()
  country country :=
    { text := storedReaders
      persistedCidrs := printedCidrs
      head := none
      get := fun _ => if country = "US" then .ok listedVersion else .failed
      now := 1
      nextId := 1 }

theorem refreshAllIpdenyLists_each_twoCountries :
    ∃ report, (refreshAllIpdenyLists twoCountries GeoTables.empty).1 = .ok report ∧
      RefreshedEach twoCountries.country
        (GeoTables.empty.upsertCatalog
          [{ country := "US"
             url := "https://www.ipdeny.com/ipblocks/data/aggregated/us-aggregated.zone"
             lastModified := none },
           { country := "DE"
             url := "https://www.ipdeny.com/ipblocks/data/aggregated/de-aggregated.zone"
             lastModified := none }])
        (refreshAllIpdenyLists twoCountries GeoTables.empty).2 report := by
  obtain ⟨report, hreport, heach, -⟩ := (refreshAllIpdenyLists_each twoCountries GeoTables.empty
    (fun _ => readsArrays_storedReaders) List.nodup_nil).2 _ rfl rfl rfl
  exact ⟨report, hreport, heach⟩

end TwoCountries

end Intelligence
end XdpFirewall
