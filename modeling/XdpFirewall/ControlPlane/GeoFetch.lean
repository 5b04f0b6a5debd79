import XdpFirewall.ControlPlane.GeoPages

/-!
# GeoFetch — following the pages from the empty token to the last one

A token travels as a text. An agent asks for the page of the empty text first, then for that of
the token each answer gives, until an answer gives none. Read from one state of the tables, its
pages are those into which the blocks of a load are cut.
-/

namespace XdpFirewall
namespace ControlPlane

open Lib Policy

/-! ## Tokens as texts -/

/-- The text of `collect_prefix` for the next page. -/
def geoPrefixPageToken (token : PageToken) : String :=
  token.1.repr ++ ":" ++ token.2.repr

/-- `str::parse::<usize>`, where numbers have no bound. A plus sign may stand in front. -/
def parseUsize (label : String) (value : List Char) : Except String Nat :=
  let digits := if value.head? = some '+' then value.tail else value
  if !digits.isEmpty && digits.all Char.isDigit then
    .ok (Nat.ofDigitChars 10 digits 0)
  else
    .error label

def parseGeoPrefixPageToken (pageToken : Option String) : Except String PageToken := do
  let token := (pageToken.map fun pageToken => trim pageToken.toList).getD []
  if token.isEmpty then
    return (0, 0)
  else if ':' ∈ token then
    let countryIndex ←
      parseUsize "invalid GeoIP page token country index" (token.takeWhile fun c => c ≠ ':')
    let prefixOffset ←
      parseUsize "invalid GeoIP page token prefix offset" (token.dropWhile fun c => c ≠ ':').tail
    return (countryIndex, prefixOffset)
  else
    throw "invalid GeoIP page token"

theorem toNat_of_isDigit {c : Char} (h : c.isDigit) : 48 ≤ c.toNat ∧ c.toNat ≤ 57 :=
  Char.isDigit_iff_toNat.mp h

theorem isWhitespace_of_isDigit {c : Char} (h : c.isDigit) : isWhitespace c = false := by
  obtain ⟨hlow, hhigh⟩ := toNat_of_isDigit h
  simp only [isWhitespace, Bool.or_eq_false_iff, Bool.and_eq_false_iff, decide_eq_false_iff_not,
    beq_eq_false_iff_ne]
  omega

theorem trim_of_no_blank {value : List Char} (h : ∀ c ∈ value, isWhitespace c = false) :
    trim value = value := by
  have hdrop {l : List Char} (hl : ∀ c ∈ l, isWhitespace c = false) :
      l.dropWhile isWhitespace = l := by
    cases l with
    | nil => rfl
    | cons c rest =>
        rw [List.dropWhile_cons_of_neg]
        simp [hl c List.mem_cons_self]
  rw [trim, hdrop h, hdrop (by simpa using h), List.reverse_reverse]

theorem isDigit_of_mem_toDigits {n : Nat} {c : Char} (h : c ∈ Nat.toDigits 10 n) :
    c.isDigit = true :=
  Nat.isDigit_of_mem_toDigits (by decide) (by decide) h

theorem parseUsize_digits (label : String) (n : Nat) :
    parseUsize label (Nat.toDigits 10 n) = .ok n := by
  have hne : Nat.toDigits 10 n ≠ [] := Nat.toDigits_ne_nil
  have hplus : (Nat.toDigits 10 n).head? ≠ some '+' := by
    intro hhead
    exact absurd (isDigit_of_mem_toDigits (List.mem_of_head? hhead)) (by decide)
  rw [parseUsize, if_neg hplus, if_pos]
  · rw [Nat.ofDigitChars_ten_toDigits]
  · simpa [hne] using fun c hc => isDigit_of_mem_toDigits hc

theorem trim_toList_geoPrefixPageToken (token : PageToken) :
    trim (geoPrefixPageToken token).toList =
      Nat.toDigits 10 token.1 ++ ':' :: Nat.toDigits 10 token.2 := by
  have hlist : (geoPrefixPageToken token).toList =
      Nat.toDigits 10 token.1 ++ ':' :: Nat.toDigits 10 token.2 := by
    simp [geoPrefixPageToken]
  rw [hlist]
  refine trim_of_no_blank fun c hc => ?_
  rcases List.mem_append.mp hc with hc | hc
  · exact isWhitespace_of_isDigit (isDigit_of_mem_toDigits hc)
  · rcases List.mem_cons.mp hc with rfl | hc
    · decide
    · exact isWhitespace_of_isDigit (isDigit_of_mem_toDigits hc)

/-- What is printed is read back. -/
theorem parse_geoPrefixPageToken (token : PageToken) :
    parseGeoPrefixPageToken (some (geoPrefixPageToken token)) = .ok token := by
  have hcolon : ∀ c ∈ Nat.toDigits 10 token.1, decide (c ≠ ':') = true := by
    intro c hc
    rw [decide_eq_true_eq]
    rintro rfl
    exact absurd (isDigit_of_mem_toDigits hc) (by decide)
  have htake : (Nat.toDigits 10 token.1 ++ ':' :: Nat.toDigits 10 token.2).takeWhile
      (fun c => c ≠ ':') = Nat.toDigits 10 token.1 := by
    rw [List.takeWhile_append_of_pos hcolon]
    simp
  have hdrop : ((Nat.toDigits 10 token.1 ++ ':' :: Nat.toDigits 10 token.2).dropWhile
      (fun c => c ≠ ':')).tail = Nat.toDigits 10 token.2 := by
    rw [List.dropWhile_append_of_pos hcolon]
    simp
  simp only [parseGeoPrefixPageToken, Option.map_some, Option.getD_some,
    trim_toList_geoPrefixPageToken, htake, hdrop,
    parseUsize_digits]
  simp [pure, Except.pure, bind, Except.bind]

/-! ## Following tokens -/

structure GeoPrefixesResponse where
  prefixes : List GeoIpPrefixPolicy
  nextPageToken : String

/-- `load_persisted_geo_prefix_page` with the texts of the request and its answer. -/
def fetchGeoPrefixPage (text : TextReaders) (db : PolicyDb) (countries : List String)
    (pageSize : Nat) (pageToken : String) : Except String GeoPrefixesResponse := do
  let start ← parseGeoPrefixPageToken (some pageToken)
  let page ← loadPersistedGeoPrefixPage text db countries start pageSize
  return {
    prefixes := page.items
    nextPageToken := (page.next.map geoPrefixPageToken).getD "" }

/-- The loop of `fetch_geo_prefixes` with its pages, as long as it ends within so many rounds. -/
def fetchGeoPrefixes (fetchPage : String → Except String GeoPrefixesResponse) :
    Nat → String → Except String (Option (List (List GeoIpPrefixPolicy)))
  | 0, _ => .ok none
  | rounds + 1, pageToken => do
      let page ← fetchPage pageToken
      if (trim page.nextPageToken.toList).isEmpty then
        return some [page.prefixes]
      else
        return (← fetchGeoPrefixes fetchPage rounds page.nextPageToken).map
          fun pages => page.prefixes :: pages

theorem trim_geoPrefixPageToken (token : PageToken) :
    (trim (geoPrefixPageToken token).toList).isEmpty = false := by
  rw [trim_toList_geoPrefixPageToken]
  simp

section Follow

variable {text : TextReaders} {db : PolicyDb} {countries : List String} {pageSize : Nat}

/-- The last round of the loop. -/
theorem fetch_last {pageToken : String} {start : PageToken} {page : GeoPrefixPage}
    (hstart : parseGeoPrefixPageToken (some pageToken) = .ok start)
    (hpage : loadPersistedGeoPrefixPage text db countries start pageSize = .ok page)
    (hnext : page.next = none) (rounds : Nat) :
    fetchGeoPrefixes (fetchGeoPrefixPage text db countries pageSize) (rounds + 1) pageToken =
      .ok (some [page.items]) := by
  simp [fetchGeoPrefixes, fetchGeoPrefixPage, hstart, hpage, hnext, bind, Except.bind, pure,
    Except.pure, trim]

/-- A round with a next page. -/
theorem fetch_more {pageToken : String} {start next : PageToken} {page : GeoPrefixPage}
    (hstart : parseGeoPrefixPageToken (some pageToken) = .ok start)
    (hpage : loadPersistedGeoPrefixPage text db countries start pageSize = .ok page)
    (hnext : page.next = some next) (rounds : Nat) :
    fetchGeoPrefixes (fetchGeoPrefixPage text db countries pageSize) (rounds + 1) pageToken =
      (do
        let pages ← fetchGeoPrefixes (fetchGeoPrefixPage text db countries pageSize) rounds
          (geoPrefixPageToken next)
        return pages.map fun pages => page.items :: pages) := by
  simp [fetchGeoPrefixes, fetchGeoPrefixPage, hstart, hpage, hnext, bind, Except.bind, pure,
    Except.pure, trim_geoPrefixPageToken]

/-- A round that fails. -/
theorem fetch_error {pageToken : String} {start : PageToken} {e : String}
    (hstart : parseGeoPrefixPageToken (some pageToken) = .ok start)
    (hpage : loadPersistedGeoPrefixPage text db countries start pageSize = .error e)
    (rounds : Nat) :
    fetchGeoPrefixes (fetchGeoPrefixPage text db countries pageSize) (rounds + 1) pageToken =
      .error e := by
  simp [fetchGeoPrefixes, fetchGeoPrefixPage, hstart, hpage, bind, Except.bind]

/-! ## Readable countries -/

/-- From any token the pages are those into which the blocks that remain are cut. The induction is
on the number of blocks that remain. -/
theorem exists_pages {lists : List (List GeoIpPrefixPolicy)}
    (hlists : countries.mapM (persistedCountryPrefixes text db) = .ok lists) {n : Nat}
    {start : PageToken} (hn : (entriesFrom TokenLe (geoEntries lists.zipIdx) start).length ≤ n)
    {pageToken : String} (hstart : parseGeoPrefixPageToken (some pageToken) = .ok start) :
    ∃ pages, Paged (max pageSize 1) (remaining TokenLe (geoEntries lists.zipIdx) (some start))
        pages ∧
      ∀ more, fetchGeoPrefixes (fetchGeoPrefixPage text db countries pageSize)
        (pages.length + more) pageToken = .ok (some pages) := by
  induction n generalizing start pageToken with
  | zero =>
      have hpage := loadPersistedGeoPrefixPage_eq hlists start pageSize
      have hnil := List.eq_nil_of_length_eq_zero (Nat.le_zero.mp hn)
      rw [hnil, List.foldl_nil] at hpage
      refine ⟨[[]], ?_, fun more => ?_⟩
      · rw [remaining, hnil]
        exact .last (Nat.zero_le _)
      · rw [List.length_singleton, Nat.add_comm]
        exact fetch_last hstart hpage rfl more
  | succ n ih =>
      let left := entriesFrom TokenLe (geoEntries lists.zipIdx) start
      have hpage := loadPersistedGeoPrefixPage_eq hlists start pageSize
      rw [foldl_collect rfl (Nat.zero_le _)] at hpage
      simp only [List.nil_append, List.length_nil, Nat.sub_zero] at hpage
      have hremaining : remaining TokenLe (geoEntries lists.zipIdx) (some start) =
          (left.take (max pageSize 1)).map Prod.snd ++ (left.drop (max pageSize 1)).map Prod.snd := by
        rw [← List.map_append, List.take_append_drop]
        rfl
      cases hdrop : left.drop (max pageSize 1) with
      | nil =>
          refine ⟨[(left.take (max pageSize 1)).map Prod.snd], ?_, fun more => ?_⟩
          · rw [hremaining, hdrop, List.map_nil, List.append_nil]
            refine .last ?_
            rw [List.length_map, List.length_take]
            exact Nat.min_le_left _ _
          · rw [List.length_singleton, Nat.add_comm]
            refine fetch_last hstart hpage ?_ more
            simp [left, hdrop]
      | cons entry rest =>
          have hfrom : entriesFrom TokenLe (geoEntries lists.zipIdx) entry.1 = entry :: rest :=
            entriesFrom_next TokenLe.refl (fun _ _ _ => TokenLe.trans) (sorted_geoEntries lists 0)
              hdrop
          have hlength := congrArg List.length hdrop
          rw [List.length_drop, List.length_cons] at hlength
          have hless : (entriesFrom TokenLe (geoEntries lists.zipIdx) entry.1).length ≤ n := by
            have hleft : left.length ≤ n + 1 := hn
            rw [hfrom, List.length_cons]
            omega
          obtain ⟨pages, hpaged, hfetch⟩ := ih hless (parse_geoPrefixPageToken entry.1)
          refine ⟨(left.take (max pageSize 1)).map Prod.snd :: pages, ?_, fun more => ?_⟩
          · rw [hremaining, hdrop, ← hfrom]
            refine .more ?_ (by simp [hfrom]) hpaged
            rw [List.length_map, List.length_take]
            omega
          · have hnext : (left.drop (max pageSize 1)).head?.map Prod.fst = some entry.1 := by
              rw [hdrop, List.head?_cons, Option.map_some]
            rw [List.length_cons, Nat.add_right_comm, fetch_more hstart hpage hnext, hfetch]
            rfl

/-! ## A country that is no country -/

theorem fst_lt_of_mem_geoEntries {lists : List (List GeoIpPrefixPolicy)}
    {entry : PageToken × GeoIpPrefixPolicy} (h : entry ∈ geoEntries lists.zipIdx) :
    entry.1.1 < lists.length := by
  obtain ⟨list, hlist, hentry⟩ := List.mem_flatMap.mp h
  rw [fst_of_mem_countryEntries hentry]
  exact List.snd_lt_of_mem_zipIdx hlist

/-- A page ends before the country, or fails there. -/
theorem loadPersistedGeoPrefixPage_before {before after : List String} {country e : String}
    {lists : List (List GeoIpPrefixPolicy)}
    (hlists : before.mapM (persistedCountryPrefixes text db) = .ok lists)
    (hcountry : persistedCountryPrefixes text db country = .error e) {start : PageToken}
    (hstart : start.1 ≤ before.length) :
    loadPersistedGeoPrefixPage text db (before ++ country :: after) start pageSize =
      match (entriesFrom TokenLe (geoEntries lists.zipIdx) start).drop (max pageSize 1) with
      | [] => .error e
      | entry :: _ =>
          .ok
            { items := ((entriesFrom TokenLe (geoEntries lists.zipIdx) start).take
                (max pageSize 1)).map Prod.snd
              next := some entry.1 } := by
  have hdropped : (before ++ country :: after).drop start.1 =
      before.drop start.1 ++ country :: after := List.drop_append_of_le_length hstart
  rw [loadPersistedGeoPrefixPage, drop_zipIdx, Nat.zero_add, hdropped, List.zipIdx_append,
    collectCountryPages_append (List.forall₂_drop _ (forall₂_of_mapM_ok hlists)) rfl
      (Nat.zero_le _) (Nat.le_refl _),
    entriesFrom_drop lists (Nat.le_of_eq (Nat.zero_add start.1)), Nat.zero_add,
    foldl_collect rfl (Nat.zero_le _)]
  simp only [List.nil_append, List.length_nil, Nat.sub_zero]
  cases (entriesFrom TokenLe (geoEntries ((lists.drop start.1).zipIdx start.1)) start).drop
      (max pageSize 1) with
  | nil =>
      simp [collectCountryPages, collectCountryPage, hcountry, bind, Except.bind]
  | cons entry rest => rfl

/-- The pages before the country are read, and then the loop fails as the load does. -/
theorem exists_round_error {before after : List String} {country e : String}
    {lists : List (List GeoIpPrefixPolicy)}
    (hlists : before.mapM (persistedCountryPrefixes text db) = .ok lists)
    (hcountry : persistedCountryPrefixes text db country = .error e) {n : Nat} {start : PageToken}
    (hn : (entriesFrom TokenLe (geoEntries lists.zipIdx) start).length ≤ n)
    (hle : start.1 ≤ before.length) {pageToken : String}
    (hstart : parseGeoPrefixPageToken (some pageToken) = .ok start) :
    ∃ rounds, ∀ more, fetchGeoPrefixes
      (fetchGeoPrefixPage text db (before ++ country :: after) pageSize) (rounds + more)
        pageToken = .error e := by
  induction n generalizing start pageToken with
  | zero =>
      have hpage := @loadPersistedGeoPrefixPage_before text db pageSize before after country e lists
        hlists hcountry start hle
      rw [List.eq_nil_of_length_eq_zero (Nat.le_zero.mp hn), List.drop_nil] at hpage
      refine ⟨1, fun more => ?_⟩
      rw [Nat.add_comm]
      exact fetch_error hstart hpage more
  | succ n ih =>
      have hpage := @loadPersistedGeoPrefixPage_before text db pageSize before after country e lists
        hlists hcountry start hle
      cases hdrop : (entriesFrom TokenLe (geoEntries lists.zipIdx) start).drop (max pageSize 1) with
      | nil =>
          rw [hdrop] at hpage
          refine ⟨1, fun more => ?_⟩
          rw [Nat.add_comm]
          exact fetch_error hstart hpage more
      | cons entry rest =>
          rw [hdrop] at hpage
          have hfrom : entriesFrom TokenLe (geoEntries lists.zipIdx) entry.1 = entry :: rest :=
            entriesFrom_next TokenLe.refl (fun _ _ _ => TokenLe.trans) (sorted_geoEntries lists 0)
              hdrop
          have hlength := congrArg List.length hdrop
          rw [List.length_drop, List.length_cons] at hlength
          have hless : (entriesFrom TokenLe (geoEntries lists.zipIdx) entry.1).length ≤ n := by
            rw [hfrom, List.length_cons]
            omega
          have hmem : entry ∈ geoEntries lists.zipIdx := by
            have hmem : entry ∈ entriesFrom TokenLe (geoEntries lists.zipIdx) entry.1 := by
              rw [hfrom]
              exact List.mem_cons_self
            exact (List.mem_filter.mp hmem).1
          have hlt : entry.1.1 ≤ before.length := by
            rw [(forall₂_of_mapM_ok hlists).length_eq]
            exact Nat.le_of_lt (fst_lt_of_mem_geoEntries hmem)
          obtain ⟨rounds, hfetch⟩ := ih hless hlt (parse_geoPrefixPageToken entry.1)
          refine ⟨rounds + 1, fun more => ?_⟩
          rw [Nat.add_right_comm, fetch_more hstart hpage rfl, hfetch]
          rfl

end Follow

/-! ## Exactly the blocks of a load -/

/-- Following the tokens from the empty one ends, whatever the tables hold. Its pages put together
are the blocks of a load, in order; all but the last are full, and none is empty unless there is
nothing to read. When the load fails, the loop fails in the same way. -/
theorem fetchGeoPrefixes_exact (text : TextReaders) (db : PolicyDb) (countries : List String)
    (pageSize : Nat) :
    (∀ blocks, loadPersistedGeoPrefixes text db countries = .ok blocks →
      ∃ pages : List (List GeoIpPrefixPolicy),
        (∀ more, fetchGeoPrefixes (fetchGeoPrefixPage text db countries pageSize)
          (pages.length + more) "" = .ok (some pages)) ∧
        pages.flatten = blocks ∧
        (∀ page ∈ pages.dropLast, page.length = max pageSize 1) ∧
        (∀ page ∈ pages, page.length ≤ max pageSize 1) ∧
        (blocks ≠ [] → [] ∉ pages)) ∧
    ∀ e, loadPersistedGeoPrefixes text db countries = .error e →
      ∃ rounds, ∀ more, fetchGeoPrefixes (fetchGeoPrefixPage text db countries pageSize)
        (rounds + more) "" = .error e := by
  have hstart : parseGeoPrefixPageToken (some "") = .ok (0, 0) := rfl
  constructor
  · intro blocks hblocks
    obtain ⟨lists, hlists, rfl⟩ := flatten_of_loadPersistedGeoPrefixes hblocks
    obtain ⟨pages, hpaged, hfetch⟩ := exists_pages hlists (Nat.le_refl _) hstart
    rw [remaining_start] at hpaged
    have hsize : 0 < max pageSize 1 := Nat.lt_of_lt_of_le Nat.one_pos (Nat.le_max_right _ _)
    exact ⟨pages, hfetch, hpaged.flatten, hpaged.full, hpaged.length_le, hpaged.nil_not_mem hsize⟩
  · intro e herror
    have hmapM : countries.mapM (persistedCountryPrefixes text db) = .error e := by
      rw [loadPersistedGeoPrefixes] at herror
      cases hlists : countries.mapM (persistedCountryPrefixes text db) with
      | ok lists =>
          rw [hlists] at herror
          cases herror
      | error e' =>
          rw [hlists] at herror
          cases herror
          rfl
    obtain ⟨before, country, after, lists, rfl, hbefore, hcountry⟩ := exists_of_mapM_error hmapM
    exact exists_round_error hbefore hcountry (Nat.le_refl _) (Nat.zero_le _) hstart

/-- A table with a list of two blocks for one country and of one block for another, and a reader of
these lists. -/
def pagedDb : PolicyDb :=
  { PolicyDb.empty with
    geoIpPrefixes :=
      [{ id := 1
         country := "CN"
         cidrsJson := "[\"198.51.100.0/24\",\"198.51.101.0/24\"]" },
       { id := 2
         country := "US"
         cidrsJson := "[\"203.0.113.0/24\"]" }] }

def pagedText : TextReaders where
  ipNet _ := none
  ipAddr _ := none
  cidrArray value :=
    if value = "[\"198.51.100.0/24\",\"198.51.101.0/24\"]" then
      [.v4 (.slash 0xC6336400 24), .v4 (.slash 0xC6336500 24)]
    else if value = "[\"203.0.113.0/24\"]" then
      [.v4 (.slash 0xCB007100 24)]
    else
      []
  stringArray _ := none

theorem fetchGeoPrefixes_exact_paged :
    ∃ blocks, loadPersistedGeoPrefixes pagedText pagedDb ["CN", "FR", "US"] = .ok blocks ∧
      ∃ pages : List (List GeoIpPrefixPolicy),
        (∀ more, fetchGeoPrefixes (fetchGeoPrefixPage pagedText pagedDb ["CN", "FR", "US"] 2)
          (pages.length + more) "" = .ok (some pages)) ∧
        pages.flatten = blocks ∧
        (∀ page ∈ pages.dropLast, page.length = max 2 1) ∧
        (∀ page ∈ pages, page.length ≤ max 2 1) ∧
        (blocks ≠ [] → [] ∉ pages) := by
  obtain ⟨blocks, hblocks⟩ : ∃ blocks,
      loadPersistedGeoPrefixes pagedText pagedDb ["CN", "FR", "US"] = .ok blocks := ⟨_, rfl⟩
  exact ⟨blocks, hblocks, (fetchGeoPrefixes_exact pagedText pagedDb _ 2).1 blocks hblocks⟩

end ControlPlane
end XdpFirewall
