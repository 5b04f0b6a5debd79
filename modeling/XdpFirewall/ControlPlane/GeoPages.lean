import XdpFirewall.ControlPlane.LoadPolicy
import XdpFirewall.Lib.Paging
import XdpFirewall.Lib.Traverse

/-!
# GeoPages — the address blocks of the enabled countries, page by page

An agent asks for the blocks by page. A token is the index of a country and the offset of a block
in its list, and a page runs on from there over as many countries as it has room for. Read from
one state of the database, the pages put together are the blocks of all enabled countries.
-/

namespace XdpFirewall
namespace ControlPlane

open Lib Policy

/-! ## The pages of the source -/

def enabledGeoCountries (db : PolicyDb) : List String :=
  ((db.geoCountries.filter fun row =>
    row.policyName = defaultPolicyName ∧ row.enabled).mergeSort
      fun a b => a.country ≤ b.country).map GeoCountryRow.country

abbrev PageToken := Nat × Nat

abbrev GeoPrefixPage := Page PageToken GeoIpPrefixPolicy

/-- `GEO_PREFIX_PAGE_SIZE`, which agents ask for. -/
def geoPrefixPageSizeDefault : Nat := 4096

/-- `geo_prefix_page_size` -/
def geoPrefixPageSize (requested : Nat) : Nat :=
  if requested = 0 then geoPrefixPageSizeDefault else min requested 10000

/-- `collect_country` with the blocks of one country. -/
def collectCountry (size : Nat) (page : GeoPrefixPage) (prefixes : List GeoIpPrefixPolicy)
    (countryIndex skipUntil : Nat) : GeoPrefixPage :=
  prefixes.zipIdx.foldl (fun page block =>
    if skipUntil ≤ block.2 then
      page.collect size ((countryIndex, block.2), block.1)
    else
      page) page

def collectCountryPage (text : TextReaders) (db : PolicyDb) (size : Nat) (start : PageToken)
    (page : GeoPrefixPage) (country : String) (countryIndex : Nat) :
    Except String GeoPrefixPage := do
  let prefixes ← persistedCountryPrefixes text db country
  let skipUntil := if countryIndex = start.1 then start.2 else 0
  return collectCountry size page prefixes countryIndex skipUntil

/-- The loop over the countries, which ends once a next page is known. -/
def collectCountryPages (text : TextReaders) (db : PolicyDb) (size : Nat) (start : PageToken)
    (page : GeoPrefixPage) : List (String × Nat) → Except String GeoPrefixPage
  | [] => .ok page
  | (country, countryIndex) :: countries => do
      let page ← collectCountryPage text db size start page country countryIndex
      if page.next.isSome then
        return page
      else
        collectCountryPages text db size start page countries

def loadPersistedGeoPrefixPage (text : TextReaders) (db : PolicyDb) (countries : List String)
    (start : PageToken) (pageSize : Nat) : Except String GeoPrefixPage :=
  collectCountryPages text db (max pageSize 1) start { items := [], next := none }
    (countries.zipIdx.drop start.1)

/-! ## Positions -/

/-- Tokens in the order of the blocks they stand for. -/
def TokenLe (a b : PageToken) : Prop :=
  a.1 < b.1 ∨ a.1 = b.1 ∧ a.2 ≤ b.2

instance : DecidableRel TokenLe := fun _ _ => inferInstanceAs (Decidable (_ ∨ _))

/-- The blocks of a country with their positions. -/
def countryEntries (list : List GeoIpPrefixPolicy × Nat) :
    List (PageToken × GeoIpPrefixPolicy) :=
  list.1.zipIdx.map fun block => ((list.2, block.2), block.1)

def geoEntries (lists : List (List GeoIpPrefixPolicy × Nat)) :
    List (PageToken × GeoIpPrefixPolicy) :=
  lists.flatMap countryEntries

theorem TokenLe.refl (a : PageToken) : TokenLe a a :=
  Or.inr ⟨rfl, Nat.le_refl a.2⟩

theorem TokenLe.trans {a b c : PageToken} (hab : TokenLe a b) (hbc : TokenLe b c) :
    TokenLe a c := by
  unfold TokenLe at *
  omega

theorem map_snd_geoEntries (lists : List (List GeoIpPrefixPolicy)) (k : Nat) :
    (geoEntries (lists.zipIdx k)).map Prod.snd = lists.flatten := by
  induction lists generalizing k with
  | nil => rfl
  | cons list rest ih =>
      have hlist : (countryEntries (list, k)).map Prod.snd = list := by
        rw [countryEntries, List.map_map]
        exact List.zipIdx_map_fst 0 list
      rw [List.zipIdx_cons, geoEntries, List.flatMap_cons, List.map_append, hlist,
        List.flatten_cons]
      exact congrArg _ (ih (k + 1))

theorem fst_of_mem_countryEntries {list : List GeoIpPrefixPolicy × Nat}
    {entry : PageToken × GeoIpPrefixPolicy} (h : entry ∈ countryEntries list) :
    entry.1.1 = list.2 := by
  obtain ⟨block, -, rfl⟩ := List.mem_map.mp h
  rfl

theorem le_of_mem_geoEntries {lists : List (List GeoIpPrefixPolicy)} {k : Nat}
    {entry : PageToken × GeoIpPrefixPolicy} (h : entry ∈ geoEntries (lists.zipIdx k)) :
    k ≤ entry.1.1 := by
  obtain ⟨list, hlist, hentry⟩ := List.mem_flatMap.mp h
  rw [fst_of_mem_countryEntries hentry]
  exact List.le_snd_of_mem_zipIdx hlist

theorem sorted_countryEntries (list : List GeoIpPrefixPolicy × Nat) :
    (countryEntries list).Pairwise fun a b => TokenLe a.1 b.1 ∧ ¬ TokenLe b.1 a.1 := by
  have hoffsets : (list.1.zipIdx.map Prod.snd).Pairwise (· < ·) := by
    rw [List.zipIdx_map_snd]
    exact List.pairwise_lt_range'
  rw [countryEntries, List.pairwise_map]
  refine (List.pairwise_map.mp hoffsets).imp fun {a b} hlt => ?_
  simp only [TokenLe, true_and]
  omega

theorem sorted_geoEntries (lists : List (List GeoIpPrefixPolicy)) (k : Nat) :
    (geoEntries (lists.zipIdx k)).Pairwise fun a b =>
      TokenLe a.1 b.1 ∧ ¬ TokenLe b.1 a.1 := by
  induction lists generalizing k with
  | nil => exact List.Pairwise.nil
  | cons list rest ih =>
      rw [List.zipIdx_cons, geoEntries, List.flatMap_cons, List.pairwise_append]
      refine ⟨sorted_countryEntries _, ih (k + 1), fun a ha b hb => ?_⟩
      have hfst := fst_of_mem_countryEntries ha
      have hle : k + 1 ≤ b.1.1 := le_of_mem_geoEntries hb
      unfold TokenLe
      simp only at hfst
      omega

/-! ## What a page holds -/

/-- The offsets that are not skipped are those from the start on. -/
theorem collectCountry_eq (size : Nat) (start : PageToken) (page : GeoPrefixPage)
    (list : List GeoIpPrefixPolicy) {countryIndex : Nat} (hle : start.1 ≤ countryIndex) :
    collectCountry size page list countryIndex
        (if countryIndex = start.1 then start.2 else 0) =
      (entriesFrom TokenLe (countryEntries (list, countryIndex)) start).foldl
        (Page.collect size) page := by
  rw [entriesFrom, countryEntries, List.filter_map, List.foldl_map, List.foldl_filter,
    collectCountry]
  congr 1
  funext page block
  have hiff : (if countryIndex = start.1 then start.2 else 0) ≤ block.2 ↔
      TokenLe start (countryIndex, block.2) := by
    unfold TokenLe
    split <;> simp only <;> omega
  simp only [Function.comp_apply, decide_eq_true_eq, hiff]

/-- Countries with readable lists are collected until a next page is known, or else the rest
follows. -/
theorem collectCountryPages_append {text : TextReaders} {db : PolicyDb} {size : Nat}
    {start : PageToken} {countries : List String} {lists : List (List GeoIpPrefixPolicy)}
    (hlists : List.Forall₂ (fun country list =>
      persistedCountryPrefixes text db country = .ok list) countries lists)
    {page : GeoPrefixPage} (hnext : page.next = none) (hroom : page.items.length ≤ size)
    {k : Nat} (hle : start.1 ≤ k) (rest : List (String × Nat)) :
    collectCountryPages text db size start page (countries.zipIdx k ++ rest) =
      let collected := (entriesFrom TokenLe (geoEntries (lists.zipIdx k)) start).foldl
        (Page.collect size) page
      if collected.next.isSome then
        .ok collected
      else
        collectCountryPages text db size start collected rest := by
  induction hlists generalizing page k with
  | nil =>
      change _ = if page.next.isSome then _ else collectCountryPages text db size start page rest
      rw [hnext]
      rfl
  | @cons country list countries lists hcountry _ ih =>
      have hentries : entriesFrom TokenLe (geoEntries ((list :: lists).zipIdx k)) start =
          entriesFrom TokenLe (countryEntries (list, k)) start ++
            entriesFrom TokenLe (geoEntries (lists.zipIdx (k + 1))) start := by
        rw [List.zipIdx_cons, geoEntries, List.flatMap_cons, entriesFrom, List.filter_append]
        rfl
      rw [List.zipIdx_cons, List.cons_append, collectCountryPages, collectCountryPage, hcountry,
        hentries, List.foldl_append, ← collectCountry_eq size start page list hle]
      simp only [Except.bind, bind, pure, Except.pure]
      have hcollect := collectCountry_eq size start page list hle
      obtain ⟨hlength, hfull⟩ := length_foldl_collect hnext hroom
        (entriesFrom TokenLe (countryEntries (list, k)) start)
      rw [← hcollect] at hlength hfull
      cases hsome : (collectCountry size page list k
          (if k = start.1 then start.2 else 0)).next with
      | some token =>
          rw [foldl_collect_full hsome (hfull (by rw [hsome]; rfl))]
          simp [hsome]
      | none =>
          simpa using ih hsome hlength (Nat.le_succ_of_le hle)

theorem collectCountryPages_eq {text : TextReaders} {db : PolicyDb} {size : Nat}
    {start : PageToken} {countries : List String} {lists : List (List GeoIpPrefixPolicy)}
    (hlists : List.Forall₂ (fun country list =>
      persistedCountryPrefixes text db country = .ok list) countries lists)
    {page : GeoPrefixPage} (hnext : page.next = none) (hroom : page.items.length ≤ size)
    {k : Nat} (hle : start.1 ≤ k) :
    collectCountryPages text db size start page (countries.zipIdx k) =
      .ok ((entriesFrom TokenLe (geoEntries (lists.zipIdx k)) start).foldl
        (Page.collect size) page) := by
  have happend := collectCountryPages_append hlists hnext hroom hle []
  rw [List.append_nil] at happend
  rw [happend]
  exact ite_self _

theorem drop_zipIdx {A : Type} (l : List A) (n k : Nat) :
    (l.zipIdx k).drop n = (l.drop n).zipIdx (k + n) := by
  induction l generalizing n k with
  | nil => simp
  | cons a rest ih =>
      cases n with
      | zero => rfl
      | succ n =>
          rw [List.zipIdx_cons, List.drop_succ_cons, List.drop_succ_cons, ih, Nat.add_right_comm,
            Nat.add_assoc]

/-- The countries before the start contribute nothing. -/
theorem entriesFrom_drop (lists : List (List GeoIpPrefixPolicy)) {start : PageToken} {n k : Nat}
    (hle : k + n ≤ start.1) :
    entriesFrom TokenLe (geoEntries (lists.zipIdx k)) start =
      entriesFrom TokenLe (geoEntries ((lists.drop n).zipIdx (k + n))) start := by
  induction lists generalizing n k with
  | nil => simp
  | cons list rest ih =>
      cases n with
      | zero => rfl
      | succ n =>
          have hnone : (countryEntries (list, k)).filter (fun entry => TokenLe start entry.1) =
              [] := by
            rw [List.filter_eq_nil_iff]
            intro entry hentry hle
            have hfst := fst_of_mem_countryEntries hentry
            have hle : TokenLe start entry.1 := by simpa using hle
            simp only [TokenLe] at hle hfst
            omega
          rw [List.zipIdx_cons, List.drop_succ_cons, geoEntries, List.flatMap_cons, entriesFrom,
            List.filter_append, hnone, List.nil_append, ← Nat.add_assoc, Nat.add_right_comm]
          exact ih (by omega)

/-- A page runs from its token over the blocks of all countries. -/
theorem loadPersistedGeoPrefixPage_eq {text : TextReaders} {db : PolicyDb}
    {countries : List String} {lists : List (List GeoIpPrefixPolicy)}
    (hlists : countries.mapM (persistedCountryPrefixes text db) = .ok lists)
    (start : PageToken) (pageSize : Nat) :
    loadPersistedGeoPrefixPage text db countries start pageSize =
      .ok ((entriesFrom TokenLe (geoEntries lists.zipIdx) start).foldl
        (Page.collect (max pageSize 1)) { items := [], next := none }) := by
  rw [loadPersistedGeoPrefixPage, drop_zipIdx, Nat.zero_add,
    entriesFrom_drop lists (Nat.le_of_eq (Nat.zero_add start.1)), Nat.zero_add]
  exact collectCountryPages_eq (List.forall₂_drop _ (forall₂_of_mapM_ok hlists)) rfl
    (Nat.zero_le _) (Nat.le_refl _)

/-- The blocks of a page and what remains after it are what remained before it. -/
theorem items_append_remaining {text : TextReaders} {db : PolicyDb} {countries : List String}
    {lists : List (List GeoIpPrefixPolicy)}
    (hlists : countries.mapM (persistedCountryPrefixes text db) = .ok lists)
    {start : PageToken} {pageSize : Nat} {page : GeoPrefixPage}
    (hpage : loadPersistedGeoPrefixPage text db countries start pageSize = .ok page) :
    page.items ++ remaining TokenLe (geoEntries lists.zipIdx) page.next =
      remaining TokenLe (geoEntries lists.zipIdx) (some start) := by
  rw [loadPersistedGeoPrefixPage_eq hlists, foldl_collect rfl (Nat.zero_le _)] at hpage
  cases hpage
  exact page_append_remaining TokenLe.refl (fun _ _ _ => TokenLe.trans)
    (sorted_geoEntries lists 0) _ start

/-- Everything remains before the first page. -/
theorem remaining_start (lists : List (List GeoIpPrefixPolicy)) :
    remaining TokenLe (geoEntries lists.zipIdx) (some (0, 0)) = lists.flatten := by
  rw [remaining, ← map_snd_geoEntries lists 0]
  refine congrArg _ (List.filter_eq_self.mpr fun entry _ => decide_eq_true ?_)
  simp only [TokenLe]
  omega

/-! ## The blocks of a loaded policy -/

theorem normalizedCountry_idempotent {value country : String}
    (h : normalizedCountry value = .ok country) : normalizedCountry country = .ok country := by
  obtain ⟨pair, hpair, h⟩ := bind_ok_iff.mp h
  cases h
  rw [normalizedCountry, normalizeCountry_idempotent hpair]
  rfl

/-- A code that has been normalized names the same blocks. -/
theorem persistedCountryPrefixes_normalized (text : TextReaders) (db : PolicyDb)
    {country code : String} (h : normalizedCountry country = .ok code) :
    persistedCountryPrefixes text db code = persistedCountryPrefixes text db country := by
  simp only [persistedCountryPrefixes, h, normalizedCountry_idempotent h]

theorem flatten_of_loadPersistedGeoPrefixes {text : TextReaders} {db : PolicyDb}
    {countries : List String} {blocks : List GeoIpPrefixPolicy}
    (h : loadPersistedGeoPrefixes text db countries = .ok blocks) :
    ∃ lists, countries.mapM (persistedCountryPrefixes text db) = .ok lists ∧
      lists.flatten = blocks := by
  exact map_ok h

theorem country_of_parse {row : GeoCountryRow} {policy : GeoCountryPolicy}
    (h : parseGeoCountryPolicy row = .ok policy) :
    normalizedCountry row.country = .ok policy.country := by
  obtain ⟨code, hcode, h⟩ := bind_ok_iff.mp h
  obtain ⟨action, -, h⟩ := bind_ok_iff.mp h
  cases h
  exact hcode

theorem mem_enabledGeoCountries {db : PolicyDb} {country : String} :
    country ∈ enabledGeoCountries db ↔
      ∃ row ∈ db.geoCountries.filter fun row => row.policyName = defaultPolicyName ∧ row.enabled,
        row.country = country := by
  rw [enabledGeoCountries, List.mem_map]
  simp only [List.mem_mergeSort]

theorem exists_loadPersistedGeoPrefixes {text : TextReaders} {db : PolicyDb}
    {countries : List GeoCountryPolicy} {blocks : List GeoIpPrefixPolicy}
    (hcountries : loadGeoCountries db defaultPolicyName = .ok countries)
    (hblocks : loadPersistedGeoPrefixes text db (enabledGeoCountries db) = .ok blocks) :
    ∃ own, loadPersistedGeoPrefixes text db (countries.map GeoCountryPolicy.country) =
      .ok own := by
  obtain ⟨lists, hlists, -⟩ := flatten_of_loadPersistedGeoPrefixes hblocks
  have hreadable : ∀ code ∈ countries.map GeoCountryPolicy.country,
      ∃ list, persistedCountryPrefixes text db code = .ok list := by
    intro code hcode
    obtain ⟨policy, hpolicy, rfl⟩ := List.mem_map.mp hcode
    obtain ⟨row, hrow, hparse⟩ := mem_of_mapM_ok hcountries hpolicy
    obtain ⟨list, -, hlist⟩ :=
      exists_mem_of_mapM_ok hlists (mem_enabledGeoCountries.mpr ⟨row, hrow, rfl⟩)
    exact ⟨list, by rw [persistedCountryPrefixes_normalized text db (country_of_parse hparse), hlist]⟩
  obtain ⟨own, hown⟩ := mapM_ok_of_forall hreadable
  exact ⟨own.flatten, by rw [loadPersistedGeoPrefixes, hown]; rfl⟩

/-- The countries of a loaded policy have the blocks of the enabled countries. -/
theorem mem_loadPersistedGeoPrefixes {text : TextReaders} {db : PolicyDb}
    {countries : List GeoCountryPolicy} {blocks blocks' : List GeoIpPrefixPolicy}
    (hcountries : loadGeoCountries db defaultPolicyName = .ok countries)
    (hblocks : loadPersistedGeoPrefixes text db (countries.map GeoCountryPolicy.country) =
      .ok blocks)
    (hblocks' : loadPersistedGeoPrefixes text db (enabledGeoCountries db) = .ok blocks')
    (block : GeoIpPrefixPolicy) : block ∈ blocks ↔ block ∈ blocks' := by
  obtain ⟨lists, hlists, rfl⟩ := flatten_of_loadPersistedGeoPrefixes hblocks
  obtain ⟨lists', hlists', rfl⟩ := flatten_of_loadPersistedGeoPrefixes hblocks'
  rw [mem_flatten_of_mapM_ok hlists, mem_flatten_of_mapM_ok hlists']
  constructor
  · rintro ⟨code, hcode, found⟩
    obtain ⟨policy, hpolicy, rfl⟩ := List.mem_map.mp hcode
    obtain ⟨row, hrow, hparse⟩ := mem_of_mapM_ok hcountries hpolicy
    rw [persistedCountryPrefixes_normalized text db (country_of_parse hparse)] at found
    exact ⟨row.country, mem_enabledGeoCountries.mpr ⟨row, hrow, rfl⟩, found⟩
  · rintro ⟨country, hcountry, found⟩
    obtain ⟨row, hrow, rfl⟩ := mem_enabledGeoCountries.mp hcountry
    obtain ⟨policy, hpolicy, hparse⟩ := exists_mem_of_mapM_ok hcountries hrow
    rw [← persistedCountryPrefixes_normalized text db (country_of_parse hparse)] at found
    exact ⟨policy.country, List.mem_map_of_mem hpolicy, found⟩

end ControlPlane
end XdpFirewall
