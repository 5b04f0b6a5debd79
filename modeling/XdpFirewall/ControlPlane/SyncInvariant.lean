import XdpFirewall.ControlPlane.Sync

/-!
# SyncInvariant — what is known about a policy on its way to the agent

A snapshot carries the version that was read before its tables. Whatever has been read for it
since then is current as long as the database still has that version. The invariant says so for
the snapshot that is being loaded, for those in the queue, for the one whose address blocks are
being fetched, and for those that have been written to the maps.
-/

namespace XdpFirewall
namespace ControlPlane

open Lib Net Policy

/-! ## Current while the version stays -/

/-- `P` is known as long as the database has this version. -/
def Stamped (db : PolicyDb) (version : Int) (P : Prop) : Prop :=
  version ≤ policyVersion db defaultPolicyName ∧
    (version = policyVersion db defaultPolicyName → P)

theorem Stamped.mono {db : PolicyDb} {version : Int} {P Q : Prop} (h : Stamped db version P)
    (himp : version = policyVersion db defaultPolicyName → P → Q) : Stamped db version Q :=
  ⟨h.1, fun heq => himp heq (h.2 heq)⟩

theorem policyVersion_of_active {db db' : PolicyDb}
    (hactive : db'.active defaultPolicyName = db.active defaultPolicyName) :
    policyVersion db' defaultPolicyName = policyVersion db defaultPolicyName := by
  rw [← policyVersion_active db', hactive, policyVersion_active]

/-- A commit keeps what readers see, or nothing with an older version is current any more. -/
theorem Stamped.commit {db db' : PolicyDb} {version : Int} {P Q : Prop}
    (h : Stamped db version P) (hcommit : CommitOk db db')
    (himp : db'.active defaultPolicyName = db.active defaultPolicyName → P → Q) :
    Stamped db' version Q := by
  rcases hcommit with hlt | hactive
  · exact ⟨by have := h.1; omega, fun heq => by have := h.1; omega⟩
  · have hversion := policyVersion_of_active hactive
    exact ⟨hversion ▸ h.1, fun heq => himp hactive (h.2 (hversion ▸ heq))⟩

theorem version_le_of_commit {db db' : PolicyDb} (hcommit : CommitOk db db') :
    policyVersion db defaultPolicyName ≤ policyVersion db' defaultPolicyName := by
  rcases hcommit with hlt | hactive
  · exact Int.le_of_lt hlt
  · exact Int.le_of_eq (policyVersion_of_active hactive).symm

section Content

variable (env : SyncEnv) (clock : Int → Prop) (db : PolicyDb)

/-- The snapshot that the tables and the networks of a process give, without address blocks. The
temporary bans are those in force at a reading of `clock`. -/
def Built (runtime : RuntimeTrustedCidrSnapshot) (snapshot : PolicySnapshot) : Prop :=
  ∃ now base, clock now ∧
    loadPolicyWithoutGeoPrefixes env.text db defaultPolicyName now = .ok base ∧
      snapshot = withRuntimeCidrs base runtime

/-- The address blocks of the enabled countries. -/
def geoBlocks : Except String (List GeoIpPrefixPolicy) :=
  loadPersistedGeoPrefixes env.text db (enabledGeoCountries db)

/-- The whole snapshot, with address blocks. -/
def BuiltWhole (runtime : RuntimeTrustedCidrSnapshot) (snapshot : PolicySnapshot) : Prop :=
  ∃ base geo, Built env clock db runtime base ∧ geoBlocks env db = .ok geo ∧
    snapshot = { base with geoPrefixes := geo }

/-- The blocks received so far are followed by those from the token on. -/
def Received (received : List GeoIpPrefixPolicy) (token : PageToken) : Prop :=
  ∃ lists, (enabledGeoCountries db).mapM (persistedCountryPrefixes env.text db) = .ok lists ∧
    received ++ remaining TokenLe (geoEntries lists.zipIdx) (some token) = lists.flatten

/-- The page will be the one that the database has for the token. -/
def Paged (token : PageToken) (page : GeoPrefixPage) (countries : List (String × Nat)) : Prop :=
  (∀ country ∈ countries, country.1 ∈ enabledGeoCountries db) ∧
    collectCountryPages env.text db agentPageSize token page countries =
      loadPersistedGeoPrefixPage env.text db (enabledGeoCountries db) token
        (geoPrefixPageSize geoPrefixPageSizeDefault)

/-- These tables have been read, the temporary bans at a reading of `clock`. -/
def Loaded (snapshot : PolicySnapshot) (done : List PolicyTable) : Prop :=
  ∃ now, (.tempBans ∈ done → clock now) ∧ done.foldlM (loadTable env.text db defaultPolicyName false now)
    (PolicySnapshot.unread (policyVersion db defaultPolicyName)) = .ok snapshot

end Content

section Commit

variable {env : SyncEnv} {clock : Int → Prop} {db db' : PolicyDb}
  (hactive : db'.active defaultPolicyName = db.active defaultPolicyName)

include hactive

theorem enabledGeoCountries_commit : enabledGeoCountries db' = enabledGeoCountries db := by
  rw [← enabledGeoCountries_active, hactive, enabledGeoCountries_active]

theorem Built.commit {runtime : RuntimeTrustedCidrSnapshot} {snapshot : PolicySnapshot}
    (h : Built env clock db runtime snapshot) : Built env clock db' runtime snapshot := by
  obtain ⟨now, base, hnow, hload, rfl⟩ := h
  refine ⟨now, base, hnow, ?_, rfl⟩
  rw [loadPolicyWithoutGeoPrefixes, ← loadPolicyWithGeoPrefixes_active, hactive,
    loadPolicyWithGeoPrefixes_active]
  exact hload

theorem persistedCountryPrefixes_commit :
    (enabledGeoCountries db').mapM (persistedCountryPrefixes env.text db') =
      (enabledGeoCountries db).mapM (persistedCountryPrefixes env.text db) := by
  have hactive' (database : PolicyDb) :
      (enabledGeoCountries database).mapM (persistedCountryPrefixes env.text
          (database.active defaultPolicyName)) =
        (enabledGeoCountries database).mapM (persistedCountryPrefixes env.text database) :=
    mapM_congr fun country hcountry =>
      persistedCountryPrefixes_active env.text database defaultPolicyName fun _ =>
        enabled_of_mem_enabledGeoCountries hcountry
  rw [← hactive' db', ← hactive' db, hactive, enabledGeoCountries_commit hactive]

theorem BuiltWhole.commit {runtime : RuntimeTrustedCidrSnapshot} {snapshot : PolicySnapshot}
    (h : BuiltWhole env clock db runtime snapshot) : BuiltWhole env clock db' runtime snapshot := by
  obtain ⟨base, geo, hbase, hgeo, rfl⟩ := h
  refine ⟨base, geo, hbase.commit hactive, ?_, rfl⟩
  rw [geoBlocks, loadPersistedGeoPrefixes, persistedCountryPrefixes_commit hactive]
  exact hgeo

theorem Received.commit {received : List GeoIpPrefixPolicy} {token : PageToken}
    (h : Received env db received token) : Received env db' received token := by
  obtain ⟨lists, hlists, heq⟩ := h
  exact ⟨lists, (persistedCountryPrefixes_commit hactive).trans hlists, heq⟩

theorem Paged.commit {token : PageToken} {page : GeoPrefixPage}
    {countries : List (String × Nat)} (h : Paged env db token page countries) :
    Paged env db' token page countries := by
  have hcountries := enabledGeoCountries_commit hactive
  have henabled : ∀ country ∈ countries, country.1 ∈ enabledGeoCountries db' := by
    rw [hcountries]
    exact h.1
  have hall : ∀ country ∈ (enabledGeoCountries db).zipIdx.drop token.1,
      country.1 ∈ enabledGeoCountries db := fun country hcountry =>
    List.fst_mem_of_mem_zipIdx (List.mem_of_mem_drop hcountry)
  have hall' : ∀ country ∈ (enabledGeoCountries db).zipIdx.drop token.1,
      country.1 ∈ enabledGeoCountries db' := by
    rw [hcountries]
    exact hall
  refine ⟨henabled, ?_⟩
  rw [loadPersistedGeoPrefixPage, hcountries, ← collectCountryPages_active henabled,
    ← collectCountryPages_active hall', hactive, collectCountryPages_active h.1,
    collectCountryPages_active hall]
  exact h.2

theorem Loaded.commit {snapshot : PolicySnapshot} {done : List PolicyTable}
    (h : Loaded env clock db snapshot done) : Loaded env clock db' snapshot done := by
  obtain ⟨now, hnow, hload⟩ := h
  refine ⟨now, hnow, ?_⟩
  rw [← foldlM_loadTable_active (seenIn_unread _), hactive,
    foldlM_loadTable_active (seenIn_unread _), ← policyVersion_active, hactive,
    policyVersion_active]
  exact hload

end Commit

/-! ## One more table -/

theorem version_of_loadTable {text : TextReaders} {db : PolicyDb} {policyName : String}
    {includeGeoPrefixes : Bool} {now : Int} {snapshot snapshot' : PolicySnapshot}
    {table : PolicyTable}
    (h : loadTable text db policyName includeGeoPrefixes now snapshot table = .ok snapshot') :
    snapshot'.version = snapshot.version := by
  cases table <;> obtain ⟨part, -, rfl⟩ := map_ok h <;> rfl

/-- Until the temporary bans are read, the clock does not matter. -/
theorem foldlM_loadTable_now {text : TextReaders} {db : PolicyDb} {policyName : String}
    {includeGeoPrefixes : Bool} {tables : List PolicyTable} (h : .tempBans ∉ tables)
    (now now' : Int) (snapshot : PolicySnapshot) :
    tables.foldlM (loadTable text db policyName includeGeoPrefixes now) snapshot =
      tables.foldlM (loadTable text db policyName includeGeoPrefixes now') snapshot := by
  induction tables generalizing snapshot with
  | nil => rfl
  | cons table rest ih =>
      have htable : table ≠ .tempBans := fun heq => h (heq ▸ List.mem_cons_self)
      rw [List.foldlM_cons, List.foldlM_cons, loadTable_now text db policyName _ htable now now']
      exact bind_congr fun snapshot' => ih (fun hmem => h (List.mem_cons_of_mem _ hmem)) snapshot'

theorem Loaded.table {env : SyncEnv} {clock : Int → Prop} {db : PolicyDb}
    {snapshot snapshot' : PolicySnapshot} {done : List PolicyTable} {table : PolicyTable}
    {now : Int} (hnow : clock now) (h : Loaded env clock db snapshot done) (hnodup : (done ++ [table]).Nodup)
    (htable : loadTable env.text db defaultPolicyName false now snapshot table = .ok snapshot') :
    Loaded env clock db snapshot' (done ++ [table]) := by
  obtain ⟨before, hbefore, hload⟩ := h
  have hnew : table ∉ done := by
    rw [List.nodup_append] at hnodup
    exact fun hmem => hnodup.2.2 table hmem table (List.mem_singleton_self table) rfl
  by_cases hbans : table = .tempBans
  · -- The clock of this query counts; the queries before did not look at theirs.
    subst hbans
    refine ⟨now, fun _ => hnow, ?_⟩
    rw [List.foldlM_append, foldlM_loadTable_now hnew now before, hload]
    simp [bind, Except.bind, htable]
    rfl
  · have hold : .tempBans ∈ done ++ [table] → .tempBans ∈ done := by
      intro hmem
      rcases List.mem_append.mp hmem with hmem | hmem
      · exact hmem
      · exact absurd (List.mem_singleton.mp hmem).symm hbans
    refine ⟨before, fun hmem => hbefore (hold hmem), ?_⟩
    rw [List.foldlM_append, hload]
    rw [loadTable_now env.text db defaultPolicyName false hbans now before] at htable
    simp [bind, Except.bind, htable]
    rfl

theorem Loaded.built {env : SyncEnv} {clock : Int → Prop} {db : PolicyDb} {snapshot : PolicySnapshot}
    (h : Loaded env clock db snapshot loadOrder) (runtime : RuntimeTrustedCidrSnapshot) :
    Built env clock db runtime (withRuntimeCidrs snapshot runtime) := by
  obtain ⟨now, hnow, hload⟩ := h
  refine ⟨now, snapshot, hnow (by decide), ?_, rfl⟩
  rw [loadPolicyWithoutGeoPrefixes, loadPolicyWithGeoPrefixes_eq_foldlM]
  exact hload

/-! ## One more page -/

theorem exists_geoCountries_of_load {text : TextReaders} {db : PolicyDb} {policyName : String}
    {includeGeoPrefixes : Bool} {now : Int} {snapshot : PolicySnapshot}
    (h : loadPolicyWithGeoPrefixes text db policyName includeGeoPrefixes now = .ok snapshot) :
    ∃ policies, loadGeoCountries db policyName = .ok policies := by
  obtain ⟨rules, -, h⟩ := bind_ok_iff.mp h
  obtain ⟨policies, hpolicies, -⟩ := bind_ok_iff.mp h
  exact ⟨policies, hpolicies⟩

/-- The countries of a policy that could be loaded have readable codes, so their blocks can be
read as well. -/
theorem exists_lists_of_built {env : SyncEnv} {clock : Int → Prop} {db : PolicyDb}
    {runtime : RuntimeTrustedCidrSnapshot} {snapshot : PolicySnapshot}
    (h : Built env clock db runtime snapshot) :
    ∃ lists, (enabledGeoCountries db).mapM (persistedCountryPrefixes env.text db) =
      .ok lists := by
  obtain ⟨now, base, -, hload, -⟩ := h
  obtain ⟨policies, hpolicies⟩ := exists_geoCountries_of_load hload
  refine mapM_ok_of_forall fun country hcountry => ?_
  obtain ⟨row, hrow, rfl⟩ := List.mem_map.mp hcountry
  rw [List.mem_mergeSort] at hrow
  obtain ⟨policy, -, hparse⟩ := exists_mem_of_mapM_ok hpolicies hrow
  unfold persistedCountryPrefixes
  cases hcode : normalizedCountry row.country with
  | error e =>
      rw [parseGeoCountryPolicy, hcode] at hparse
      cases hparse
  | ok code =>
      simp only [bind, Except.bind]
      split <;> exact ⟨_, rfl⟩

theorem received_nil {env : SyncEnv} {clock : Int → Prop} {db : PolicyDb}
    {runtime : RuntimeTrustedCidrSnapshot} {snapshot : PolicySnapshot} (h : Built env clock db runtime snapshot) :
    Received env db [] (0, 0) := by
  obtain ⟨lists, hlists⟩ := exists_lists_of_built h
  exact ⟨lists, hlists, remaining_start lists⟩

theorem paged_start (env : SyncEnv) (db : PolicyDb) (token : PageToken) :
    Paged env db token { items := [], next := none }
      ((enabledGeoCountries db).zipIdx.drop token.1) := by
  refine ⟨fun country hcountry => ?_, rfl⟩
  exact List.fst_mem_of_mem_zipIdx (List.mem_of_mem_drop hcountry)

theorem Paged.country {env : SyncEnv} {db : PolicyDb} {token : PageToken}
    {page page' : GeoPrefixPage} {country : String} {countryIndex : Nat}
    {countries : List (String × Nat)}
    (h : Paged env db token page ((country, countryIndex) :: countries))
    (hcollect : collectCountryPage env.text db agentPageSize token page country countryIndex =
      .ok page') (hnext : page'.next = none) :
    Paged env db token page' countries := by
  refine ⟨fun other hother => h.1 other (List.mem_cons_of_mem _ hother), ?_⟩
  rw [← h.2, collectCountryPages, hcollect]
  simp [bind, Except.bind, hnext]

/-- The page is complete once a next one is known or all countries have been read. -/
theorem Paged.complete {env : SyncEnv} {db : PolicyDb} {token : PageToken}
    {page page' : GeoPrefixPage} {country : String} {countryIndex : Nat}
    {countries : List (String × Nat)}
    (h : Paged env db token page ((country, countryIndex) :: countries))
    (hcollect : collectCountryPage env.text db agentPageSize token page country countryIndex =
      .ok page') (hnext : page'.next.isSome) :
    loadPersistedGeoPrefixPage env.text db (enabledGeoCountries db) token
      (geoPrefixPageSize geoPrefixPageSizeDefault) = .ok page' := by
  rw [← h.2, collectCountryPages, hcollect]
  simp [bind, Except.bind, hnext, pure, Except.pure]

theorem Received.page {env : SyncEnv} {db : PolicyDb} {received : List GeoIpPrefixPolicy}
    {token token' : PageToken} {page : GeoPrefixPage} (h : Received env db received token)
    (hpage : loadPersistedGeoPrefixPage env.text db (enabledGeoCountries db) token
      (geoPrefixPageSize geoPrefixPageSizeDefault) = .ok page) (hnext : page.next = some token') :
    Received env db (received ++ page.items) token' := by
  obtain ⟨lists, hlists, heq⟩ := h
  refine ⟨lists, hlists, ?_⟩
  rw [← items_append_remaining hlists hpage, hnext] at heq
  rw [List.append_assoc]
  exact heq

theorem Received.last {env : SyncEnv} {db : PolicyDb} {received : List GeoIpPrefixPolicy}
    {token : PageToken} {page : GeoPrefixPage} (h : Received env db received token)
    (hpage : loadPersistedGeoPrefixPage env.text db (enabledGeoCountries db) token
      (geoPrefixPageSize geoPrefixPageSizeDefault) = .ok page) (hnext : page.next = none) :
    geoBlocks env db = .ok (received ++ page.items) := by
  obtain ⟨lists, hlists, heq⟩ := h
  rw [← items_append_remaining hlists hpage, hnext, remaining, List.append_nil] at heq
  rw [geoBlocks, loadPersistedGeoPrefixes, hlists, heq]
  rfl

end ControlPlane
end XdpFirewall
