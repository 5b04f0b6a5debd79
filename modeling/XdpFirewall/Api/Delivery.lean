import XdpFirewall.Api.VersionBumps
import XdpFirewall.ControlPlane.PolicyJson
import XdpFirewall.ControlPlane.RowOrder
import XdpFirewall.Lib.JsonText
import XdpFirewall.Net.NetText

/-!
# Delivery — no request keeps the policy from its agents

What the API stores, the loaders can read; what they load arrives at an agent as it was sent; and
what arrives, the compiler accepts.
-/

namespace XdpFirewall
namespace Api

open Lib Policy ControlPlane

/-! ## Loading -/

section Loading

variable {text : TextReaders} {db : PolicyDb} {policyName : String} {now : Int}

theorem mapM_sorted_ok {Row A : Type} {rows : List Row} {p : Row → Bool} {le : Row → Row → Bool}
    {parse : Row → Except String A} (h : ∀ row ∈ rows, ∃ a, parse row = .ok a) :
    ∃ as, ((rows.filter p).mergeSort le).mapM parse = .ok as :=
  mapM_ok_of_forall fun row hrow => h row (List.mem_of_mem_filter (List.mem_mergeSort.mp hrow))

theorem loadDynamicDefense_ok (h : Readable text db) :
    ∃ policy, loadDynamicDefense db policyName = .ok policy := by
  unfold loadDynamicDefense
  cases hfind : db.dynamicDefense.find? fun row => row.policyName = policyName with
  | none => exact ⟨_, rfl⟩
  | some row =>
      obtain ⟨policy, hparse, hvalid⟩ := h.dynamicDefense row (List.mem_of_find?_eq_some hfind)
      exact exists_bind_ok hparse (exists_bind_ok hvalid ⟨_, rfl⟩)

theorem loadPersistedThreatPrefixes_ok (h : Readable text db) (sourceNames : List String) :
    ∃ prefixes, loadPersistedThreatPrefixes text db policyName sourceNames = .ok prefixes := by
  obtain ⟨lists, hlists⟩ := mapM_sorted_ok h.threatPrefixes
  exact exists_bind_ok hlists ⟨_, rfl⟩

/-- The country of a loaded rule is in its normal form. -/
theorem normalizedCountry_of_loaded {policies : List GeoCountryPolicy}
    (hload : loadGeoCountries db policyName = .ok policies) {policy : GeoCountryPolicy}
    (hpolicy : policy ∈ policies) : normalizedCountry policy.country = .ok policy.country := by
  obtain ⟨row, -, hparse⟩ := mem_of_mapM_ok hload hpolicy
  obtain ⟨country, hcountry, hparse⟩ := bind_ok_iff.mp hparse
  obtain ⟨action, -, hparse⟩ := bind_ok_iff.mp hparse
  cases hparse
  exact normalizedCountry_idempotent hcountry

theorem loadGeoPrefixes_ok {policies : List GeoCountryPolicy}
    (hload : loadGeoCountries db policyName = .ok policies) (includeGeoPrefixes : Bool) :
    ∃ blocks, loadGeoPrefixes text db (policies.map GeoCountryPolicy.country) includeGeoPrefixes =
      .ok blocks := by
  cases includeGeoPrefixes with
  | false => exact ⟨[], rfl⟩
  | true =>
      have hcountries : ∀ country ∈ policies.map GeoCountryPolicy.country,
          ∃ blocks, persistedCountryPrefixes text db country = .ok blocks := by
        intro country hcountry
        obtain ⟨policy, hpolicy, rfl⟩ := List.mem_map.mp hcountry
        refine exists_bind_ok (normalizedCountry_of_loaded hload hpolicy) ?_
        split <;> exact ⟨_, rfl⟩
      obtain ⟨lists, hlists⟩ := mapM_ok_of_forall hcountries
      exact exists_bind_ok hlists ⟨_, rfl⟩

/-- A database whose rows can be read can be loaded, for every policy and at any time. -/
theorem loadPolicyWithGeoPrefixes_of_readable (h : Readable text db) (policyName : String)
    (includeGeoPrefixes : Bool) (now : Int) :
    ∃ snapshot, loadPolicyWithGeoPrefixes text db policyName includeGeoPrefixes now =
      .ok snapshot := by
  have hrules : ∃ rules, loadFirewallRules text db policyName = .ok rules :=
    mapM_sorted_ok h.firewallRules
  have hcountries : ∃ policies, loadGeoCountries db policyName = .ok policies :=
    mapM_ok_of_forall fun row hrow => h.geoCountries row (List.mem_of_mem_filter hrow)
  have hsources : ∃ sources, loadThreatSources db policyName = .ok sources :=
    mapM_ok_of_forall fun row hrow => h.threatSources row (List.mem_of_mem_filter hrow)
  have hlimits : ∃ limits, loadDynamicRateLimits db policyName = .ok limits :=
    mapM_sorted_ok h.dynamicRateLimits
  have hbans : ∃ bans, loadActiveTempBans text db policyName now = .ok bans :=
    mapM_sorted_ok fun row hrow => (h.tempBans row hrow).2
  have htrusted : ∃ trusted, loadTrustedCidrs text db policyName = .ok trusted :=
    mapM_sorted_ok h.trustedCidrs
  obtain ⟨_, hrules⟩ := hrules
  obtain ⟨_, hcountries⟩ := hcountries
  obtain ⟨_, hblocks⟩ := @loadGeoPrefixes_ok text _ _ _ hcountries includeGeoPrefixes
  obtain ⟨_, hsources⟩ := hsources
  obtain ⟨_, hthreats⟩ := @loadPersistedThreatPrefixes_ok text db policyName h _
  obtain ⟨_, hdefense⟩ := @loadDynamicDefense_ok text db policyName h
  obtain ⟨_, hlimits⟩ := hlimits
  obtain ⟨_, hbans⟩ := hbans
  obtain ⟨_, htrusted⟩ := htrusted
  refine exists_bind_ok hrules (exists_bind_ok hcountries (exists_bind_ok hblocks ?_))
  refine exists_bind_ok hsources (exists_bind_ok hthreats (exists_bind_ok hdefense ?_))
  exact exists_bind_ok hlimits (exists_bind_ok hbans (exists_bind_ok htrusted ⟨_, rfl⟩))

end Loading

/-! ## Compiling -/

section Compiling

variable {text : TextReaders} {db : PolicyDb} {policyName : String} {includeGeoPrefixes : Bool}
  {now : Int} {snapshot : PolicySnapshot}

theorem encodeCountry_ok {value country : String} (h : normalizedCountry value = .ok country) :
    ∃ code, encodeCountry value = .ok code := by
  obtain ⟨pair, hpair, -⟩ := bind_ok_iff.mp h
  exact exists_bind_ok hpair ⟨_, rfl⟩

/-- The loaders make the checks of the compiler. -/
theorem validatePolicy_of_loaded (h : LoadedFrom text db policyName now snapshot) :
    validatePolicy snapshot = .ok () := by
  have hdefense : validateDynamicDefensePolicy snapshot.dynamicDefense = .ok () := by
    have hload := h.dynamicDefense
    unfold loadDynamicDefense at hload
    split at hload
    all_goals
      obtain ⟨policy, -, hload⟩ := bind_ok_iff.mp hload
      obtain ⟨⟨⟩, hvalid, hload⟩ := bind_ok_iff.mp hload
      cases hload
      exact hvalid
  have hlimits : ∀ limit ∈ snapshot.dynamicRateLimits,
      validateDynamicRateLimitPolicy limit = .ok () := by
    intro limit hlimit
    obtain ⟨row, -, hparse⟩ := mem_of_mapM_ok h.dynamicRateLimits hlimit
    simp only [parseDynamicRateLimit, bind_ok_iff] at hparse
    obtain ⟨protocol, -, port, -, packetsPerSecond, -, burst, -, ⟨⟩, hvalid, hparse⟩ := hparse
    cases hparse
    exact hvalid
  exact bind_ok_iff.mpr ⟨(), hdefense, forM_ok_iff.mpr hlimits⟩

/-- Whatever could be loaded can be compiled. -/
theorem compilePolicy_of_loaded
    (h : loadPolicyWithGeoPrefixes text db policyName includeGeoPrefixes now = .ok snapshot)
    (late : Int) : ∃ policy, compilePolicy late snapshot = .ok policy := by
  obtain ⟨hloaded, hblocks⟩ := loadPolicyWithGeoPrefixes_ok_iff.mp h
  have hcountry : ∀ policy ∈ snapshot.geoCountries,
      normalizedCountry policy.country = .ok policy.country := fun policy hpolicy =>
    normalizedCountry_of_loaded hloaded.geoCountries hpolicy
  have hcountries : ∃ rules, compileCountryRules snapshot.geoCountries = .ok rules := by
    refine mapM_ok_of_forall fun policy hpolicy => ?_
    obtain ⟨code, hcode⟩ := encodeCountry_ok (hcountry policy hpolicy)
    exact exists_bind_ok hcode ⟨_, rfl⟩
  have hgeo : ∃ blocks, compileGeoPrefixes snapshot.geoPrefixes = .ok blocks := by
    refine mapM_ok_of_forall fun block hblock => ?_
    have hnormal : ∃ country, normalizedCountry block.country = .ok country := by
      cases includeGeoPrefixes with
      | false =>
          have hnil : [] = snapshot.geoPrefixes := Except.ok.inj hblocks
          rw [← hnil] at hblock
          cases hblock
      | true =>
          obtain ⟨lists, hlists, hflatten⟩ := flatten_of_loadPersistedGeoPrefixes hblocks
          rw [← hflatten, mem_flatten_of_mapM_ok hlists] at hblock
          obtain ⟨country, hcountry', found, hfound, hmem⟩ := hblock
          obtain ⟨policy, hpolicy, rfl⟩ := List.mem_map.mp hcountry'
          rw [country_of_mem_persistedCountryPrefixes (hcountry policy hpolicy) hfound hmem]
          exact ⟨_, hcountry policy hpolicy⟩
    obtain ⟨country, hnormal⟩ := hnormal
    obtain ⟨code, hcode⟩ := encodeCountry_ok hnormal
    exact exists_bind_ok hcode ⟨_, rfl⟩
  obtain ⟨countries, hcountries⟩ := hcountries
  obtain ⟨blocks, hgeo⟩ := hgeo
  exact ⟨_, compilePolicy_of_valid late (validatePolicy_of_loaded hloaded) hcountries hgeo⟩

/-- The compiler does not look at the version. -/
theorem compilePolicy_version {policy : CompiledPolicy} {late : Int}
    (h : compilePolicy late snapshot = .ok policy) (version : Int) :
    compilePolicy late { snapshot with version := version } =
      .ok { policy with version := version } := by
  obtain ⟨hvalid, countries, blocks, hcountries, hgeo, rfl⟩ := compilePolicy_ok h
  exact compilePolicy_of_valid late hvalid hcountries hgeo

theorem timelyBans_of_loaded (hreadable : Readable text db) (hnow : minNaiveDateTime ≤ now)
    (h : LoadedFrom text db policyName now snapshot) : TimelyBans snapshot.tempBans := by
  intro ban hban
  obtain ⟨row, hrow, hparse⟩ := mem_of_mapM_ok h.tempBans hban
  have hactive := List.mem_mergeSort.mp hrow
  rw [List.mem_filter, decide_eq_true_eq] at hactive
  obtain ⟨hrow, -, hlater⟩ := hactive
  have hexpires : ban.expiresAt = row.expiresAt := by
    simp only [parseTempBan, bind_ok_iff] at hparse
    obtain ⟨cidr, -, protocol, -, port, -, ⟨⟩, -, hparse⟩ := hparse
    cases hparse
    rfl
  rw [hexpires]
  exact ⟨Int.le_trans hnow (Int.le_of_lt hlater), (hreadable.tempBans row hrow).1⟩

end Compiling

/-! ## Runs -/

/-- Requests one after the other, each with its own surroundings. One that is refused leaves the
rows as they were. -/
def runWrites (db : PolicyDb) (requests : List (ApiEnv × ApiWrite)) : PolicyDb :=
  requests.foldl (fun db request => (request.2.run request.1 db).db) db

/-- The surroundings read and write texts as everybody does. -/
def SameTexts (texts : PolicyTexts) (env : ApiEnv) : Prop :=
  env.text = texts.toTextReaders ∧ env.display = texts.displayIpNet

theorem readable_runWrites {texts : PolicyTexts} (htexts : texts.Faithful) {db : PolicyDb}
    (hschema : Schema db) (hreadable : Readable texts.toTextReaders db)
    {requests : List (ApiEnv × ApiWrite)}
    (hsame : ∀ request ∈ requests, SameTexts texts request.1) :
    Readable texts.toTextReaders (runWrites db requests) := by
  induction requests generalizing db with
  | nil => exact hreadable
  | cons request rest ih =>
      obtain ⟨env, write⟩ := request
      obtain ⟨htext, hdisplay⟩ := hsame _ List.mem_cons_self
      have hwrite : WriteOk env db (write.run env db) := writeOk_run hschema write
      have hfaithful : Faithful env := by
        intro net
        rw [htext, hdisplay]
        exact htexts.ipNet net
      have hafter := hwrite.readable hfaithful
      rw [htext] at hafter
      exact ih hwrite.schema (hafter hreadable) fun request hrequest =>
        hsame request (List.mem_cons_of_mem _ hrequest)

/-- A policy that is loaded, sent and compiled. -/
def Delivers (texts : PolicyTexts) (db : PolicyDb) (policyName : String) (now late : Int) : Prop :=
  ∃ snapshot received policy,
    loadPolicy texts.toTextReaders db policyName now = .ok snapshot ∧
      policyFromJson texts (policyJson texts snapshot) = some received ∧
      compilePolicy late received = .ok policy

/-- After any requests every stored row can be read, and every policy is delivered at any time. -/
theorem delivers_runWrites (texts : PolicyTexts) (htexts : texts.Faithful)
    (requests : List (ApiEnv × ApiWrite))
    (hsame : ∀ request ∈ requests, SameTexts texts request.1) :
    Readable texts.toTextReaders (runWrites PolicyDb.empty requests) ∧
      ∀ policyName now late, minNaiveDateTime ≤ now →
        Delivers texts (runWrites PolicyDb.empty requests) policyName now late := by
  have hreadable := readable_runWrites htexts schema_empty (readable_empty _) hsame
  refine ⟨hreadable, fun policyName now late hnow => ?_⟩
  obtain ⟨snapshot, hload⟩ := loadPolicyWithGeoPrefixes_of_readable hreadable policyName true now
  obtain ⟨policy, hcompile⟩ := compilePolicy_of_loaded hload late
  have hbans : TimelyBans snapshot.tempBans :=
    timelyBans_of_loaded hreadable hnow (loadPolicyWithGeoPrefixes_ok_iff.mp hload).1
  exact ⟨snapshot, _, _, hload, policyFromJson_policyJson htexts hbans,
    compilePolicy_version hcompile _⟩

section Office

open Net.IpText

def noon : Int := 1767268800000000000

def noonText : String := "2026-01-01T12:00:00"

def ofDecimal (s : String) : Option Int := do
  let (n, rest) ← Json.readInt s.toList
  if rest = [] then some n else none

theorem ofDecimal_writeInt (t : Int) : ofDecimal (String.ofList (Json.writeInt t)) = some t := by
  have hread := @Json.readInt_writeInt t [] rfl
  rw [List.append_nil] at hread
  rw [ofDecimal, String.toList_ofList, hread]
  rfl

/-- Texts as both ends write them. Of the points in time only one has its calendar form; the others
do not occur and are plain numbers. -/
def officeTexts : PolicyTexts where
  ipNet s := parseIpNet s.toList
  ipAddr s := parseIpAddr s.toList
  cidrArray _ := []
  stringArray s := (Json.ofText s).bind (Json.readList Json.readStr)
  displayIpNet net := String.ofList (displayIpNet net)
  displayIpAddr addr := String.ofList (displayIpAddr addr)
  naiveDateTime s := if s = noonText then some noon else ofDecimal s
  displayNaiveDateTime t := if t = noon then noonText else String.ofList (Json.writeInt t)
  json := Json.ofText
  displayJson := Json.toText

theorem faithful_officeTexts : officeTexts.Faithful where
  ipNet net := by
    change parseIpNet (String.ofList (displayIpNet net)).toList = some net
    rw [String.toList_ofList, parseIpNet_displayIpNet]
  ipAddr addr := by
    change parseIpAddr (String.ofList (displayIpAddr addr)).toList = some addr
    rw [String.toList_ofList, parseIpAddr_displayIpAddr]
  naiveDateTime t _ _ := by
    by_cases ht : t = noon
    · simp [officeTexts, ht]
    · have hdecimal := ofDecimal_writeInt t
      -- The calendar form is no plain number.
      have hne : String.ofList (Json.writeInt t) ≠ noonText := by
        intro h
        rw [h] at hdecimal
        cases hdecimal
      simp only [officeTexts, if_neg ht, if_neg hne, hdecimal]
  json j _ := Json.ofText_toText j

/-- Five minutes before noon. -/
def deliveryEnv : ApiEnv where
  text := officeTexts.toTextReaders
  display := officeTexts.displayIpNet
  displayAddr := officeTexts.displayIpAddr
  keyDigest _ := ""
  urlScheme _ := none
  nodes := []
  now := noon - 300000000000
  nextId ids := Int32.ofNat (ids.length + 1)
  transactionFails := none
  versionReadFails := none

/-- The office is trusted, and an address is banned from its port 22 until noon. -/
def officeRequests : List (ApiEnv × ApiWrite) :=
  [(deliveryEnv, .createTrustedCidr
      { enabled := none
        cidr := "10.1.2.3/16"
        comment := some "office" }),
    (deliveryEnv, .createTempBan
      { cidr := "203.0.113.7/32"
        protocol := none
        port := some 22
        durationSeconds := none
        comment := none })]

theorem delivers_runWrites_office :
    ((runWrites PolicyDb.empty officeRequests).trustedCidrs.length = 1 ∧
      (runWrites PolicyDb.empty officeRequests).tempBans.length = 1) ∧
      Delivers officeTexts (runWrites PolicyDb.empty officeRequests) defaultPolicyName
        (noon - 1000000000) (noon - 1) := by
  have hsame : ∀ request ∈ officeRequests, SameTexts officeTexts request.1 := by
    intro request hrequest
    simp only [officeRequests, List.mem_cons, List.not_mem_nil, or_false] at hrequest
    rcases hrequest with rfl | rfl <;> exact ⟨rfl, rfl⟩
  refine ⟨by decide +kernel, ?_⟩
  exact (delivers_runWrites officeTexts faithful_officeTexts officeRequests hsame).2
    defaultPolicyName (noon - 1000000000) (noon - 1) (by decide)

end Office

end Api
end XdpFirewall
