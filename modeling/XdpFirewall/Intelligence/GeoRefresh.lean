import XdpFirewall.Intelligence.ThreatLists

/-!
# GeoRefresh — the refresh of one country's list

A country has a row with the metadata of its list and another row with the list. A refresh asks the
provider for the metadata, and for the list under the condition that it is another one than the
metadata on file describe. What it stores is that metadata and the list that came with it, if one
came.
-/

namespace XdpFirewall
namespace Intelligence

open ControlPlane Lib Net Policy

/-! ## Rows -/

structure GeoCountryCatalogRow where
  code : String
  url : String
  lastModified : Option String

structure GeoIpListStateRow where
  country : String
  url : String
  lastModified : Option String
  etag : Option String
  prefixCount : Nat
  lastCheckedAt : Timestamp
  lastDownloadedAt : Option Timestamp
  updatedAt : Timestamp

/-- The rows of one country, of which each table has at most one, and the version of the policy. -/
structure CountryRows where
  catalog : Option GeoCountryCatalogRow
  state : Option GeoIpListStateRow
  prefixes : Option GeoIpPrefixRow
  version : Int

structure GeoPrefix extends Network where
  country : U16
  deriving DecidableEq

structure IpdenyMetadata where
  country : String
  url : String
  lastModified : Option String
  etag : Option String

/-! ## The provider -/

/-- A list as the provider publishes it: the headers, as `header_string` reads them, and the lines
of the body. -/
structure ProviderVersion where
  lastModified : Option String
  etag : Option String
  lines : List String

structure Conditions where
  ifNoneMatch : Option String
  ifModifiedSince : Option String

/-- `failed` is a request without an answer, an error status or a body that cannot be read. -/
inductive GetAnswer
  | failed
  | notModified
  | ok (version : ProviderVersion)

/-- A provider that honours conditions: the date is looked at only without a tag. `notLater` compares
dates. -/
def ProviderVersion.answer (notLater : String → String → Bool) (version : ProviderVersion)
    (conditions : Conditions) : GetAnswer :=
  let unmodified := match conditions.ifNoneMatch with
    | some etag => version.etag == some etag
    | none =>
        match conditions.ifModifiedSince with
        | some date => version.lastModified.any fun lastModified => notLater lastModified date
        | none => false
  if unmodified then .notModified else .ok version

/-- `add_conditional_headers`, where there is a row -/
def conditionalCountryRequest (existing : Option GeoIpListStateRow) : Conditions where
  ifNoneMatch := (existing.bind GeoIpListStateRow.etag).filter fun value => value ≠ ""
  ifModifiedSince := (existing.bind GeoIpListStateRow.lastModified).filter fun value => value ≠ ""

def ipdenyAggregatedBase : String := "https://www.ipdeny.com/ipblocks/data/aggregated"

def ipdenyCountryUrl (country : String) : Except String String := do
  return ipdenyAggregatedBase ++ "/" ++ (← normalizedCountry country).toLower ++
    "-aggregated.zone"

def metadataFromHeaders (country url : String) (version : ProviderVersion) : IpdenyMetadata where
  country := country
  url := url
  lastModified := version.lastModified
  etag := version.etag

/-- `head` is the answer to the request for the metadata, if there is one. -/
def fetchCountryMetadata (head : Option ProviderVersion) (country : String) :
    Except String IpdenyMetadata := do
  let country ← normalizedCountry country
  let url ← ipdenyCountryUrl country
  match head with
  | some version => return metadataFromHeaders country url version
  | none => throw ("failed to fetch metadata for " ++ url)

def fetchCountryMetadataOrCatalog (head : Option ProviderVersion) (country : String)
    (catalog : GeoCountryCatalogRow) (existing : Option GeoIpListStateRow) : IpdenyMetadata :=
  match fetchCountryMetadata head country with
  | .ok metadata => metadata
  | .error _ =>
      { country := country
        url := catalog.url
        lastModified := catalog.lastModified
        etag := existing.bind GeoIpListStateRow.etag }

def geoPrefixFromNet (net : IpNet) (country : U16) : GeoPrefix where
  toNetwork := net.toNetwork
  country := country

def parseIpdenyLine (text : TextReaders) (countryCode : U16) (line : String) : Option GeoPrefix :=
  match trim line.toList with
  | [] => none
  | '#' :: _ => none
  | line => (text.ipNet (String.ofList line)).map fun net => geoPrefixFromNet net countryCode

def readCountryPrefixes (text : TextReaders) (countryCode : U16) (lines : List String) :
    List GeoPrefix :=
  lines.filterMap (parseIpdenyLine text countryCode)

def fetchCountryPrefixesStreaming (text : TextReaders) (get : Conditions → GetAnswer)
    (country : String) (existing : Option GeoIpListStateRow) :
    Except String (Option (IpdenyMetadata × List GeoPrefix)) := do
  let country ← normalizedCountry country
  let url ← ipdenyCountryUrl country
  match get (conditionalCountryRequest existing) with
  | .failed => throw ("failed to fetch " ++ url)
  | .notModified => return none
  | .ok version =>
      let countryCode ← encodeCountry country
      return some (metadataFromHeaders country url version,
        readCountryPrefixes text countryCode version.lines)

/-! ## Stored lists -/

def geoPrefixToCidr (p : GeoPrefix) : String :=
  String.ofList (cidrText p.addr p.prefixLen)

/-- The array of `cidrs_json_from_prefixes` is written without a library. -/
def geoCidrsJson (prefixes : List GeoPrefix) : String :=
  arrayText (prefixes.map geoPrefixToCidr)

/-- `persisted_cidrs` reads the text with a library. -/
abbrev CidrListReader := String → Option (List IpNet)

def hasPersistedCountryPrefixes (persistedCidrs : CidrListReader) (rows : CountryRows) : Bool :=
  rows.prefixes.any fun row =>
    match persistedCidrs row.cidrsJson with
    | some cidrs => !cidrs.isEmpty
    | none => false

def touchExistingGeoIpState (metadata : IpdenyMetadata) (now : Timestamp) (rows : CountryRows) :
    CountryRows :=
  { rows with
    state := rows.state.map fun existing => { existing with
      lastModified := metadata.lastModified
      etag := metadata.etag
      lastCheckedAt := now } }

/-- `replace_geo_prefixes`, in one transaction; the database gives the id. The number of prefixes
has to fit its column. -/
def replaceGeoPrefixes (catalog : GeoCountryCatalogRow) (metadata : IpdenyMetadata)
    (prefixes : List GeoPrefix) (now : Timestamp) (id : Int32) (rows : CountryRows) :
    Except String (Bool × CountryRows) :=
  let cidrsJson := geoCidrsJson prefixes
  let changed : Bool := match rows.prefixes with
    | some row => row.cidrsJson ≠ cidrsJson
    | none => true
  if prefixes.length < 2 ^ 31 then
    .ok (changed,
      { rows with
        prefixes :=
          if changed then
            some {
              id := id
              country := catalog.code
              cidrsJson := cidrsJson }
          else
            rows.prefixes
        state := some {
          country := catalog.code
          url := metadata.url
          lastModified := metadata.lastModified
          etag := metadata.etag
          prefixCount := prefixes.length
          lastCheckedAt := now
          lastDownloadedAt := some now
          updatedAt := if changed then now else
            (rows.state.map GeoIpListStateRow.updatedAt).getD now }
        version := if changed then rows.version + 1 else rows.version })
  else
    .error "geo prefix count exceeds i32"

/-! ## The refresh -/

def mergeGeoIpMetadata (fetched fallback : IpdenyMetadata) : IpdenyMetadata where
  country := fetched.country
  url := fetched.url
  lastModified := fetched.lastModified.or fallback.lastModified
  etag := fetched.etag.or fallback.etag

def geoIpListChanged (existing : Option GeoIpListStateRow) (hasPersistedPrefixes : Bool)
    (lastModified etag : Option String) : Bool :=
  match existing with
  | none => true
  | some existing =>
      if hasPersistedPrefixes = false then
        true
      else if lastModified = none ∧ etag = none then
        true
      else
        existing.lastModified ≠ lastModified || existing.etag ≠ etag

/-- What a refresh asks of the world around it. -/
structure GeoEnv where
  text : TextReaders
  persistedCidrs : CidrListReader
  head : Option ProviderVersion
  get : Conditions → GetAnswer
  now : Timestamp
  nextId : Int32

/-- `refresh_one_country`: the number of prefixes, if the list is a new one, and the rows after. -/
def refreshOneCountry (env : GeoEnv) (country : String) (rows : CountryRows) :
    Except String (Option Nat × CountryRows) :=
  match rows.catalog with
  | none => .error ("country " ++ country ++ " not found in IPdeny catalog")
  | some catalog =>
      let hasPersistedPrefixes := hasPersistedCountryPrefixes env.persistedCidrs rows
      let metadata := fetchCountryMetadataOrCatalog env.head country catalog rows.state
      if geoIpListChanged rows.state hasPersistedPrefixes metadata.lastModified metadata.etag =
          false then
        .ok (none, touchExistingGeoIpState metadata env.now rows)
      else do
        match ← fetchCountryPrefixesStreaming env.text env.get country rows.state with
        | none => return (none, touchExistingGeoIpState metadata env.now rows)
        | some (fetchedMetadata, prefixes) =>
            if prefixes = [] then
              throw ("country " ++ country ++ " IP list is empty")
            else do
              let metadata := mergeGeoIpMetadata fetchedMetadata metadata
              let (changed, rows) ←
                replaceGeoPrefixes catalog metadata prefixes env.now env.nextId rows
              return (if changed then some prefixes.length else none, rows)

/-! ## What a refresh leaves -/

section Leaves

variable (env : GeoEnv) (versions : ProviderVersion → Prop)

def payload (text : TextReaders) (version : ProviderVersion) : List Network :=
  (readCountryPrefixes text 0 version.lines).map GeoPrefix.toNetwork

/-- The metadata are those of a version that the provider has published with these networks. -/
def Describes (lastModified etag : Option String) (networks : List Network) : Prop :=
  ∃ version, versions version ∧ version.lastModified = lastModified ∧ version.etag = etag ∧
    payload env.text version = networks

/-- The networks that are stored for the country. -/
def StoredNetworks (rows : CountryRows) (networks : List Network) : Prop :=
  ∃ row cidrs, rows.prefixes = some row ∧ env.persistedCidrs row.cidrsJson = some cidrs ∧
    cidrs.map IpNet.toNetwork = networks

/-- There is a list, and the metadata on file are those of the payload that it was read from. -/
def HasDescribedList (rows : CountryRows) : Prop :=
  ∃ networks state, StoredNetworks env rows networks ∧ networks ≠ [] ∧ rows.state = some state ∧
    Describes env versions state.lastModified state.etag networks

/-- What goes on file is what the list belongs to: the old metadata when the list is left alone,
those of the first answer when the provider has not sent it again, and otherwise those of the answer
that brought it, completed from the first. -/
def MetadataFit (country : String) (rows : CountryRows) (catalog : GeoCountryCatalogRow) : Prop :=
  let metadata := fetchCountryMetadataOrCatalog env.head country catalog rows.state
  if geoIpListChanged rows.state (hasPersistedCountryPrefixes env.persistedCidrs rows)
      metadata.lastModified metadata.etag = false then
    HasDescribedList env versions rows
  else
    match env.get (conditionalCountryRequest rows.state) with
    | .failed => True
    | .notModified => rows.state.isSome = true ∧ ∃ networks, StoredNetworks env rows networks ∧
        networks ≠ [] ∧ Describes env versions metadata.lastModified metadata.etag networks
    | .ok version => Describes env versions (version.lastModified.or metadata.lastModified)
        (version.etag.or metadata.etag) (payload env.text version)

end Leaves

/-- Arrays of networks that were printed are read back. -/
def ReadsCidrs (persistedCidrs : CidrListReader) : Prop :=
  ∀ nets : List IpNet, persistedCidrs (arrayText
    (nets.map fun net => String.ofList (cidrText net.addr net.prefixLen))) = some nets

section Refresh

variable {env : GeoEnv} {versions : ProviderVersion → Prop} {rows after : CountryRows}

theorem StoredNetworks.unique {networks networks' : List Network}
    (h : StoredNetworks env rows networks) (h' : StoredNetworks env rows networks') :
    networks = networks' := by
  obtain ⟨row, cidrs, hrow, hread, rfl⟩ := h
  obtain ⟨row', cidrs', hrow', hread', rfl⟩ := h'
  cases hrow.symm.trans hrow'
  cases hread.symm.trans hread'
  rfl

theorem hasPersistedCountryPrefixes_iff :
    hasPersistedCountryPrefixes env.persistedCidrs rows = true ↔
      ∃ networks, StoredNetworks env rows networks ∧ networks ≠ [] := by
  rw [hasPersistedCountryPrefixes, Option.any_eq_true]
  constructor
  · rintro ⟨row, hrow, hread⟩
    split at hread
    · next cidrs hcidrs =>
        refine ⟨_, ⟨row, cidrs, hrow, hcidrs, rfl⟩, ?_⟩
        simpa using hread
    · cases hread
  · rintro ⟨networks, ⟨row, cidrs, hrow, hread, rfl⟩, hne⟩
    refine ⟨row, hrow, ?_⟩
    rw [hread]
    simpa using hne

theorem exists_nets (prefixes : List GeoPrefix) : ∃ nets : List IpNet,
    nets.map (fun net => String.ofList (cidrText net.addr net.prefixLen)) =
      prefixes.map geoPrefixToCidr ∧
    nets.map IpNet.toNetwork = prefixes.map GeoPrefix.toNetwork := by
  induction prefixes with
  | nil => exact ⟨[], rfl, rfl⟩
  | cons p prefixes ih =>
      obtain ⟨nets, htexts, hnetworks⟩ := ih
      obtain ⟨net, -, haddr, hnetwork, hlen⟩ := p.exists_ipNet
      have hsame : net.toNetwork = p.toNetwork := by
        have hext : ∀ a b : Network, a.addr = b.addr → a.prefixLen = b.prefixLen → a = b := by
          rintro ⟨_, _, _⟩ ⟨_, _, _⟩ rfl rfl
          rfl
        exact hext _ _ hnetwork hlen
      refine ⟨net :: nets, ?_, ?_⟩
      · rw [List.map_cons, List.map_cons, htexts, geoPrefixToCidr, haddr, hlen]
      · rw [List.map_cons, List.map_cons, hnetworks, hsame]

theorem storedNetworks_geoCidrsJson (hreads : ReadsCidrs env.persistedCidrs)
    {prefixes : List GeoPrefix} {row : GeoIpPrefixRow} (hrow : rows.prefixes = some row)
    (hjson : row.cidrsJson = geoCidrsJson prefixes) :
    StoredNetworks env rows (prefixes.map GeoPrefix.toNetwork) := by
  obtain ⟨nets, htexts, hnetworks⟩ := exists_nets prefixes
  refine ⟨row, nets, hrow, ?_, hnetworks⟩
  rw [hjson, geoCidrsJson, ← htexts]
  exact hreads nets

/-- The number of the country has no part in the networks. -/
theorem payload_eq (text : TextReaders) (countryCode : U16) (version : ProviderVersion) :
    (readCountryPrefixes text countryCode version.lines).map GeoPrefix.toNetwork =
      payload text version := by
  have hline : ∀ (code : U16) (line : String),
      (parseIpdenyLine text code line).map GeoPrefix.toNetwork =
        (parseIpdenyLine text 0 line).map GeoPrefix.toNetwork := by
    intro code line
    rw [parseIpdenyLine, parseIpdenyLine]
    split
    · rfl
    · rfl
    · rw [Option.map_map, Option.map_map]
      rfl
  rw [payload, readCountryPrefixes, readCountryPrefixes, List.map_filterMap, List.map_filterMap]
  exact List.filterMap_congr fun line _ => hline countryCode line

theorem geoIpListChanged_eq_false {existing : Option GeoIpListStateRow} {has : Bool}
    {lastModified etag : Option String} (h : geoIpListChanged existing has lastModified etag = false) :
    has = true ∧ ∃ state, existing = some state ∧ state.lastModified = lastModified ∧
      state.etag = etag := by
  cases existing with
  | none => cases h
  | some state =>
      rw [geoIpListChanged] at h
      split at h
      · cases h
      · next hhas =>
          split at h
          · cases h
          · simp only [Bool.or_eq_false_iff, ne_eq, decide_eq_false_iff_not, not_not] at h
            exact ⟨by simpa using hhas, state, rfl, h.1, h.2⟩

/-- Only the metadata are touched. -/
theorem hasDescribedList_touch {metadata : IpdenyMetadata} {now : Timestamp} :
    HasDescribedList env versions (touchExistingGeoIpState metadata now rows) ↔
      rows.state.isSome = true ∧ ∃ networks, StoredNetworks env rows networks ∧ networks ≠ [] ∧
        Describes env versions metadata.lastModified metadata.etag networks := by
  constructor
  · rintro ⟨networks, state, hstored, hne, hstate, hdescribes⟩
    obtain ⟨existing, hexisting, rfl⟩ := Option.map_eq_some_iff.mp hstate
    exact ⟨by rw [hexisting]; rfl, networks, hstored, hne, hdescribes⟩
  · rintro ⟨hsome, networks, hstored, hne, hdescribes⟩
    obtain ⟨existing, hexisting⟩ := Option.isSome_iff_exists.mp hsome
    exact ⟨networks, _, hstored, hne, Option.map_eq_some_iff.mpr ⟨existing, hexisting, rfl⟩,
      hdescribes⟩

/-- The list is stored unless its text is on file already, and the metadata in any case. -/
theorem replaceGeoPrefixes_ok {catalog : GeoCountryCatalogRow} {metadata : IpdenyMetadata}
    {prefixes : List GeoPrefix} {now : Timestamp} {id : Int32} {changed : Bool}
    (h : replaceGeoPrefixes catalog metadata prefixes now id rows = .ok (changed, after)) :
    (∃ row, after.prefixes = some row ∧ row.cidrsJson = geoCidrsJson prefixes) ∧
      ∃ state, after.state = some state ∧ state.lastModified = metadata.lastModified ∧
        state.etag = metadata.etag := by
  rw [replaceGeoPrefixes] at h
  split at h
  · cases h
    refine ⟨?_, _, rfl, rfl, rfl⟩
    cases hrow : rows.prefixes with
    | none => exact ⟨_, rfl, rfl⟩
    | some row =>
        by_cases hsame : row.cidrsJson = geoCidrsJson prefixes
        · exact ⟨row, by simp [hsame], hsame⟩
        · exact ⟨_, if_pos (decide_eq_true hsame), rfl⟩
  · cases h

theorem hasDescribedList_replace (hreads : ReadsCidrs env.persistedCidrs)
    {catalog : GeoCountryCatalogRow} {metadata : IpdenyMetadata} {prefixes : List GeoPrefix}
    (hne : prefixes ≠ []) {now : Timestamp} {id : Int32} {changed : Bool}
    (h : replaceGeoPrefixes catalog metadata prefixes now id rows = .ok (changed, after)) :
    HasDescribedList env versions after ↔
      Describes env versions metadata.lastModified metadata.etag
        (prefixes.map GeoPrefix.toNetwork) := by
  obtain ⟨⟨row, hrow, hjson⟩, state, hstate, hdate, htag⟩ := replaceGeoPrefixes_ok h
  have hstored := storedNetworks_geoCidrsJson hreads hrow hjson
  rw [← hdate, ← htag]
  constructor
  · rintro ⟨networks, state', hstored', -, hstate', hdescribes⟩
    cases hstate.symm.trans hstate'
    rwa [hstored.unique hstored']
  · intro hdescribes
    exact ⟨_, state, hstored, by simpa using hne, hstate, hdescribes⟩

/-- What is fetched is the payload of the version that was sent. -/
theorem fetchCountryPrefixesStreaming_ok {country : String} {existing : Option GeoIpListStateRow}
    {fetched : Option (IpdenyMetadata × List GeoPrefix)}
    (h : fetchCountryPrefixesStreaming env.text env.get country existing = .ok fetched) :
    match env.get (conditionalCountryRequest existing) with
    | .failed => False
    | .notModified => fetched = none
    | .ok version => ∃ metadata prefixes, fetched = some (metadata, prefixes) ∧
        metadata.lastModified = version.lastModified ∧ metadata.etag = version.etag ∧
        prefixes.map GeoPrefix.toNetwork = payload env.text version := by
  obtain ⟨name, -, h⟩ := bind_ok_iff.mp h
  obtain ⟨url, -, h⟩ := bind_ok_iff.mp h
  split at h
  · cases h
  · cases h
    rfl
  · next version _ =>
      obtain ⟨code, -, h⟩ := bind_ok_iff.mp h
      cases h
      exact ⟨_, _, rfl, rfl, rfl, payload_eq env.text code version⟩

/-- A refresh that succeeds leaves a list with its own metadata exactly when what goes on file is
what the list belongs to. -/
theorem hasDescribedList_iff_metadataFit (hreads : ReadsCidrs env.persistedCidrs) {country : String}
    {catalog : GeoCountryCatalogRow} (hcatalog : rows.catalog = some catalog) {count : Option Nat}
    (hok : refreshOneCountry env country rows = .ok (count, after)) :
    HasDescribedList env versions after ↔ MetadataFit env versions country rows catalog := by
  rw [refreshOneCountry, hcatalog] at hok
  rw [MetadataFit]
  dsimp only at hok ⊢
  generalize hmetadata : fetchCountryMetadataOrCatalog env.head country catalog rows.state =
    metadata at hok ⊢
  split at hok
  · next hsame =>
      -- By the answer to HEAD nothing is new: the stored list stays and is taken as checked.
      cases hok
      rw [if_pos hsame, hasDescribedList_touch]
      obtain ⟨-, state, hstate, hdate, htag⟩ := geoIpListChanged_eq_false hsame
      rw [← hdate, ← htag]
      constructor
      · rintro ⟨-, networks, hstored, hne, hdescribes⟩
        exact ⟨networks, state, hstored, hne, hstate, hdescribes⟩
      · rintro ⟨networks, state', hstored, hne, hstate', hdescribes⟩
        cases hstate.symm.trans hstate'
        exact ⟨by rw [hstate]; rfl, networks, hstored, hne, hdescribes⟩
  · next hchanged =>
      rw [if_neg hchanged]
      obtain ⟨fetched, hfetched, hok⟩ := bind_ok_iff.mp hok
      have hanswer := fetchCountryPrefixesStreaming_ok hfetched
      cases hget : env.get (conditionalCountryRequest rows.state) with
      | failed =>
          rw [hget] at hanswer
          exact hanswer.elim
      | notModified =>
          -- Here nothing asks whether there is a list to keep.
          rw [hget] at hanswer
          cases hanswer
          cases hok
          exact hasDescribedList_touch
      | ok version =>
          rw [hget] at hanswer
          obtain ⟨fetchedMetadata, prefixes, rfl, hdate, htag, hpayload⟩ := hanswer
          dsimp only at hok ⊢
          split at hok
          · cases hok
          · next hne =>
              obtain ⟨⟨changed, stored⟩, hreplace, hok⟩ := bind_ok_iff.mp hok
              cases hok
              rw [hasDescribedList_replace hreads hne hreplace, hpayload, mergeGeoIpMetadata]
              dsimp only
              rw [hdate, htag]

/-! ### A provider that stands still -/

/-- The provider answers both requests from one version. An answer that nothing is new is true of
the payload, and what is on file describes the list, if there is one. -/
structure Steady (env : GeoEnv) (versions : ProviderVersion → Prop) (country : String)
    (rows : CountryRows) (notLater : String → String → Bool) (current : ProviderVersion) : Prop where
  published : versions current
  head : env.head = some current
  get : env.get = current.answer notLater
  country_ok : ∃ name, normalizedCountry country = .ok name ∧ normalizedCountry name = .ok name
  validators : ∀ version, versions version → ∀ state : GeoIpListStateRow,
    state.lastModified = version.lastModified → state.etag = version.etag →
    current.answer notLater (conditionalCountryRequest (some state)) = .notModified →
    payload env.text version = payload env.text current
  described : ∀ state networks, rows.state = some state → StoredNetworks env rows networks →
    networks ≠ [] → Describes env versions state.lastModified state.etag networks

theorem Steady.metadata {country : String} {notLater : String → String → Bool}
    {current : ProviderVersion} (h : Steady env versions country rows notLater current)
    (catalog : GeoCountryCatalogRow) :
    (fetchCountryMetadataOrCatalog env.head country catalog rows.state).lastModified =
        current.lastModified ∧
      (fetchCountryMetadataOrCatalog env.head country catalog rows.state).etag = current.etag := by
  obtain ⟨name, hname, hagain⟩ := h.country_ok
  have hfetch : fetchCountryMetadata env.head country = .ok (metadataFromHeaders name
      (ipdenyAggregatedBase ++ "/" ++ name.toLower ++ "-aggregated.zone") current) := by
    have hurl : ipdenyCountryUrl name =
        .ok (ipdenyAggregatedBase ++ "/" ++ name.toLower ++ "-aggregated.zone") := by
      rw [ipdenyCountryUrl, hagain]
      rfl
    rw [fetchCountryMetadata, hname, h.head]
    change (ipdenyCountryUrl name).bind _ = _
    rw [hurl]
    rfl
  rw [fetchCountryMetadataOrCatalog, hfetch]
  exact ⟨rfl, rfl⟩

theorem answer_cases (notLater : String → String → Bool) (version : ProviderVersion)
    (conditions : Conditions) : version.answer notLater conditions = .notModified ∨
      version.answer notLater conditions = .ok version :=
  ite_eq_or_eq _ _ _

/-- With such a provider, only an answer that nothing is new leaves a country without a list. -/
theorem hasDescribedList_iff_of_steady (hreads : ReadsCidrs env.persistedCidrs) {country : String}
    {catalog : GeoCountryCatalogRow} (hcatalog : rows.catalog = some catalog) {count : Option Nat}
    (hok : refreshOneCountry env country rows = .ok (count, after))
    {notLater : String → String → Bool} {current : ProviderVersion}
    (hsteady : Steady env versions country rows notLater current) :
    HasDescribedList env versions after ↔
      (env.get (conditionalCountryRequest rows.state) = .notModified →
        hasPersistedCountryPrefixes env.persistedCidrs rows = true) := by
  rw [hasDescribedList_iff_metadataFit hreads hcatalog hok, MetadataFit]
  obtain ⟨hdate, htag⟩ := hsteady.metadata catalog
  rw [hdate, htag, hasPersistedCountryPrefixes_iff]
  split
  · next hsame =>
      obtain ⟨hhas, state, hstate, -⟩ := geoIpListChanged_eq_false hsame
      obtain ⟨networks, hstored, hne⟩ := hasPersistedCountryPrefixes_iff.mp hhas
      refine iff_of_true ?_ fun _ => ⟨networks, hstored, hne⟩
      exact ⟨networks, state, hstored, hne, hstate,
        hsteady.described state networks hstate hstored hne⟩
  · rw [hsteady.get]
    rcases answer_cases notLater current (conditionalCountryRequest rows.state) with
      hanswer | hanswer
    · -- The validators name the version that is current, and the stored list is that one.
      rw [hanswer]
      refine ⟨fun ⟨_, networks, hstored, hne, _⟩ _ => ⟨networks, hstored, hne⟩, fun h => ?_⟩
      obtain ⟨networks, hstored, hne⟩ := h rfl
      cases hstate : rows.state with
      | none =>
          rw [hstate] at hanswer
          cases hanswer
      | some state =>
          rw [hstate] at hanswer
          obtain ⟨version, hpublished, hdate', htag', rfl⟩ :=
            hsteady.described state networks hstate hstored hne
          refine ⟨rfl, _, hstored, hne, current, hsteady.published, rfl, rfl, ?_⟩
          exact (hsteady.validators version hpublished state hdate'.symm htag'.symm hanswer).symm
    · rw [hanswer]
      refine iff_of_true ?_ nofun
      dsimp only
      rw [Option.or_self, Option.or_self]
      exact ⟨current, hsteady.published, rfl, rfl, rfl⟩

/-- After a refresh that succeeds: with a provider that stands still, there is a list with its own
metadata unless the provider has answered that nothing is new when no list was on file; whatever
the provider does, exactly when what goes on file is what the list belongs to. -/
theorem refreshOneCountry_leaves_iff (hreads : ReadsCidrs env.persistedCidrs) {country : String}
    {catalog : GeoCountryCatalogRow} (hcatalog : rows.catalog = some catalog) {count : Option Nat}
    (hok : refreshOneCountry env country rows = .ok (count, after)) :
    (∀ notLater current, Steady env versions country rows notLater current →
      (HasDescribedList env versions after ↔
        (env.get (conditionalCountryRequest rows.state) = .notModified →
          hasPersistedCountryPrefixes env.persistedCidrs rows = true))) ∧
    (HasDescribedList env versions after ↔ MetadataFit env versions country rows catalog) :=
  ⟨fun _ _ hsteady => hasDescribedList_iff_of_steady hreads hcatalog hok hsteady,
    hasDescribedList_iff_metadataFit hreads hcatalog hok⟩

end Refresh

/-! ## A list that is gone -/

def printedCidrs : CidrListReader := fun value =>
  (readArray value).bind fun items => items.mapM readCidr

theorem readsCidrs_printedCidrs : ReadsCidrs printedCidrs := by
  intro nets
  have hitems : ∀ item ∈ nets.map fun net => String.ofList (cidrText net.addr net.prefixLen),
      ',' ∉ item.toList := by
    intro item hitem
    obtain ⟨net, -, rfl⟩ := List.mem_map.mp hitem
    rw [String.toList_ofList]
    exact notMem_cidrText (by decide)
  rw [printedCidrs, readArray_arrayText hitems, Option.bind_some, List.mapM_map]
  induction nets with
  | nil => rfl
  | cons net nets ih =>
      have hrest := ih fun item hitem => hitems item (List.mem_cons_of_mem _ hitem)
      rw [List.mapM_cons, Function.comp_apply, readCidr_cidrText, hrest]
      rfl

def listedVersion : ProviderVersion where
  lastModified := some "Mon, 01 Jan 2024 00:00:00 GMT"
  etag := some "1"
  lines := ["198.51.100.0/24"]

/-- The metadata of a list that is no longer on file. -/
def goneRows : CountryRows where
  catalog := some {
    code := "US"
    url := "https://www.ipdeny.com/ipblocks/data/aggregated/us-aggregated.zone"
    lastModified := none }
  state := some {
    country := "US"
    url := "https://www.ipdeny.com/ipblocks/data/aggregated/us-aggregated.zone"
    lastModified := listedVersion.lastModified
    etag := listedVersion.etag
    prefixCount := 1
    lastCheckedAt := 0
    lastDownloadedAt := some 0
    updatedAt := 0 }
  prefixes := none
  version := 1

def listedEnv : GeoEnv where
  text := feedReaders
  persistedCidrs := printedCidrs
  head := some listedVersion
  get := listedVersion.answer fun a b => a = b
  now := 1
  nextId := 1

def goneCatalog : GeoCountryCatalogRow where
  code := "US"
  url := "https://www.ipdeny.com/ipblocks/data/aggregated/us-aggregated.zone"
  lastModified := none

/-- The rows after a refresh that has found nothing new. -/
def goneAfter : CountryRows :=
  touchExistingGeoIpState
    (fetchCountryMetadataOrCatalog (some listedVersion) "US" goneCatalog goneRows.state) 1 goneRows

theorem refreshOneCountry_goneRows :
    refreshOneCountry listedEnv "US" goneRows = .ok (none, goneAfter) := rfl

theorem not_hasDescribedList_goneAfter (versions : ProviderVersion → Prop) :
    ¬ HasDescribedList listedEnv versions goneAfter := by
  rintro ⟨networks, -, ⟨row, -, hrow, -⟩, -⟩
  cases hrow

theorem payload_listedVersion : payload feedReaders listedVersion ≠ [] :=
  List.ne_nil_of_length_pos (by decide)

/-- A country that is refreshed for the first time. -/
def firstRows : CountryRows :=
  { goneRows with state := none }

theorem steady_firstRows :
    Steady listedEnv (· = listedVersion) "US" firstRows (fun a b => a = b) listedVersion where
  published := rfl
  head := rfl
  get := rfl
  country_ok := ⟨"US", rfl, rfl⟩
  validators := by
    intro version hversion _ _ _ _
    rw [hversion]
  described := nofun

/-- The first refresh stores the list, and the condition fails where a list is gone. -/
theorem refreshOneCountry_leaves_iff_firstRows :
    (∃ after, refreshOneCountry listedEnv "US" firstRows = .ok (some 1, after) ∧
      HasDescribedList listedEnv (· = listedVersion) after) ∧
    ¬ MetadataFit listedEnv (· = listedVersion) "US" goneRows goneCatalog := by
  constructor
  · refine ⟨_, rfl, ?_⟩
    have hleaves := @refreshOneCountry_leaves_iff listedEnv (· = listedVersion) firstRows _
      readsCidrs_printedCidrs "US" goneCatalog rfl (some 1) rfl
    exact (hleaves.1 _ _ steady_firstRows).mpr nofun
  · intro hfit
    have hleaves := @refreshOneCountry_leaves_iff listedEnv (· = listedVersion) goneRows _
      readsCidrs_printedCidrs "US" goneCatalog rfl none refreshOneCountry_goneRows
    exact not_hasDescribedList_goneAfter _ (hleaves.2.mpr hfit)

/-- The list was deleted, its metadata were not. The provider answers that nothing is new, and the
refresh succeeds without a list. -/
theorem gone_list_not_fetched :
    ¬ ∀ (env : GeoEnv) (versions : ProviderVersion → Prop) (country : String)
      (rows after : CountryRows) (count : Option Nat) (notLater : String → String → Bool)
      (current : ProviderVersion), ReadsCidrs env.persistedCidrs → versions current →
      payload env.text current ≠ [] → env.head = some current →
      env.get = current.answer notLater →
      refreshOneCountry env country rows = .ok (count, after) →
      HasDescribedList env versions after := by
  intro h
  exact not_hasDescribedList_goneAfter _
    (h listedEnv (· = listedVersion) "US" goneRows goneAfter none (fun a b => a = b) listedVersion
      readsCidrs_printedCidrs rfl payload_listedVersion rfl rfl refreshOneCountry_goneRows)

end Intelligence
end XdpFirewall
