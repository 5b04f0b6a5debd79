import XdpFirewall.Api.Delivery
import XdpFirewall.Api.Seed
import XdpFirewall.Intelligence.GeoRefreshAll
import XdpFirewall.Intelligence.ThreatIsolation
import XdpFirewall.Intelligence.ThreatLists
import XdpFirewall.Lib.Stamped

/-!
# Writers — everything that writes to a policy while the control plane runs

Requests are one kind of writers. The start, the example, the refreshes of threat feeds and of
country lists and the removal of expired bans are others. All of them keep the policy fit to be
sent, and none changes it without a new version.
-/

namespace XdpFirewall
namespace Api

open Lib Policy ControlPlane Intelligence

/-! ## Further writers -/

/-- The transaction of a writer that answers nobody. -/
def commit {A : Type} (env : ApiEnv) (db : PolicyDb) (body : Transaction A) :
    ApiResult A × PolicyDb :=
  match env.transactionFails, body.run { db := db, written := [] } with
  | some e, _ => (.error e, db)
  | none, .error e _ => (.error e, db)
  | none, .ok a t => (.ok a, t.db)

/-- `cleanup_expired_temp_bans` -/
def cleanupExpiredTempBans (env : ApiEnv) (db : PolicyDb) :
    ApiResult (Nat × Option Int) × PolicyDb :=
  commit env db do
    let deleted ← tempBanTable.delete fun row => row.expiresAt ≤ env.now
    return (deleted, ← bumpPolicyVersionIfActive (0 < deleted))

/-- `bump_policy_version`. The version is there also when the policy cannot be loaded. -/
def bumpPolicyVersion (env : ApiEnv) (db : PolicyDb) :
    ApiResult (Versioned PolicySnapshot) × PolicyDb :=
  match commit env db nextPolicyVersionInTransaction with
  | (.error e, db) => (.error e, db)
  | (.ok version, db) =>
      (do
        let snapshot ← fromAnyhow (loadPolicy env.text db defaultPolicyName env.now)
        return {
          version := version
          data := snapshot }, db)

/-- A refresh of the threat feeds that is about to be stored. What it has loaded of the tables can
be out of date. -/
structure ThreatRefresh where
  addrText : Net.IpAddr → List UInt8
  fetch : ThreatSource → Option (List ThreatPrefix)
  jsonStrings : List String → String
  existing : List SourceStateRow
  existingPrefixSources : List String
  sources : List LoadedSource
  now : Timestamp

def ThreatRefresh.batch (refresh : ThreatRefresh) : Option ThreatRefreshBatch :=
  refreshThreatSourceBatch refresh.addrText refresh.fetch refresh.existing
    refresh.existingPrefixSources refresh.sources (.empty refresh.now)

def storePrefixRow (env : ApiEnv) (jsonStrings : List String → String) (db : PolicyDb)
    (row : SourcePrefixRow) : PolicyDb :=
  PolicyDb.persistThreatSourcePrefixes jsonStrings defaultPolicyName row.sourceName row.cidrs
    (env.nextId (db.threatPrefixes.map ThreatPrefixRow.id)) db

/-- `upsert_threat_source_state`; of a state only the names of its row are kept here. -/
def storeStateRow (env : ApiEnv) (db : PolicyDb) (row : SourceStateRow) : PolicyDb :=
  if db.threatSourceStates.any fun other =>
      other.policyName = defaultPolicyName ∧ other.sourceName = row.sourceName then
    db
  else
    { db with
      threatSourceStates := db.threatSourceStates ++
        [{ id := env.nextId (db.threatSourceStates.map ThreatSourceStateRow.id)
           policyName := defaultPolicyName
           sourceName := row.sourceName }] }

/-- `persist_threat_refresh_batch`, on the tables of the policy. -/
def storeThreatBatch (env : ApiEnv) (jsonStrings : List String → String)
    (batch : ThreatRefreshBatch) (db : PolicyDb) : PolicyDb :=
  let db := batch.states.foldl (storeStateRow env)
    (batch.changedPrefixesBySource.foldl (storePrefixRow env jsonStrings) db)
  if 0 < batch.changedSourceCount then raised db else db

/-! ## All writers -/

/-- One transaction of any writer. The refreshes read outside of theirs, so that what they have
read can be anything by now. -/
inductive PolicyWrite
  | request (env : ApiEnv) (write : ApiWrite)
  | bumpVersion (env : ApiEnv)
  | start (env : ApiEnv)
  | seedExample (env : ApiEnv)
  | cleanup (env : ApiEnv)
  | storeThreats (env : ApiEnv) (refresh : ThreatRefresh)
  | storeGeo (catalog : GeoCountryCatalogRow) (existing : Option GeoIpListStateRow)
      (metadata : IpdenyMetadata) (prefixes : List GeoPrefix) (now : Timestamp) (id : Int32)
  | touchGeo (existing : Option GeoIpListStateRow) (metadata : IpdenyMetadata) (now : Timestamp)
  | storeCatalog (entries : List IpdenyIndexEntry)

def PolicyWrite.run (t : GeoTables) : PolicyWrite → GeoTables
  | .request env write => { t with db := (write.run env t.db).db }
  | .bumpVersion env => { t with db := (bumpPolicyVersion env t.db).2 }
  | .start env => { t with db := (Seed.ensureBuiltinPolicy env t.db).2 }
  | .seedExample env => { t with db := (Seed.seedExamplePolicy env t.db).2 }
  | .cleanup env => { t with db := (cleanupExpiredTempBans env t.db).2 }
  | .storeThreats env refresh =>
      match refresh.batch with
      | none => t
      | some batch => { t with db := storeThreatBatch env refresh.jsonStrings batch t.db }
  | .storeGeo catalog existing metadata prefixes now id =>
      match t.replacePrefixes catalog existing metadata prefixes now id with
      | .error _ => t
      | .ok (_, t) => t
  | .touchGeo existing metadata now => t.touch existing metadata now
  | .storeCatalog entries => t.upsertCatalog entries

/-- A writer reads and writes texts as everybody does. -/
def PolicyWrite.Uses (texts : PolicyTexts) : PolicyWrite → Prop
  | .request env _ => SameTexts texts env
  | .bumpVersion env => SameTexts texts env
  | .start env => SameTexts texts env
  | .seedExample env => SameTexts texts env ∧ Seed.ReadsExample env
  | .cleanup env => SameTexts texts env
  | .storeThreats _ refresh => ReadsBack texts.toTextReaders refresh.jsonStrings
  | .storeGeo .. => True
  | .touchGeo .. => True
  | .storeCatalog _ => True

def runPolicyWrites (t : GeoTables) (writes : List PolicyWrite) : GeoTables :=
  writes.foldl PolicyWrite.run t

/-! ## What one writer does -/

/-- The database is as good as before, and a change comes with the next version. -/
structure Advanced (text : TextReaders) (db db' : PolicyDb) : Prop where
  schema : Schema db'
  readable : Readable text db → Readable text db'
  version : SameInForce defaultPolicyName db db' ∨
    policyVersion db' defaultPolicyName = policyVersion db defaultPolicyName + 1

section Step

variable {texts : PolicyTexts} {text : TextReaders} {env : ApiEnv} {db db' : PolicyDb}

theorem Advanced.refl (hschema : Schema db) : Advanced text db db :=
  ⟨hschema, id, Or.inl SameInForce.refl⟩

theorem Advanced.of_eq (hschema : Schema db) (h : db' = db) : Advanced text db db' := by
  rw [h]
  exact Advanced.refl hschema

theorem Advanced.raised (hschema : Schema db') (hreadable : Readable text db → Readable text db')
    (hversions : db'.policyVersions = db.policyVersions) : Advanced text db (raised db') where
  schema := hschema.raised
  readable h := (hreadable h).raised
  version := by
    right
    rw [policyVersion_raised, policyVersion, hversions]
    rfl

theorem faithful_of_sameTexts (htexts : texts.Faithful) (hsame : SameTexts texts env) :
    Faithful env := by
  intro net
  rw [hsame.1, hsame.2]
  exact htexts.ipNet net

theorem advanced_of_writeOk {A : Type} {outcome : Outcome A} (htexts : texts.Faithful)
    (hsame : SameTexts texts env) (h : WriteOk env db outcome) :
    Advanced texts.toTextReaders db outcome.db where
  schema := h.schema
  readable := by
    rw [← hsame.1]
    exact h.readable (faithful_of_sameTexts htexts hsame)
  version := h.version.imp id fun hraised => hraised.2.1

theorem advanced_of_advances (htexts : texts.Faithful) (hsame : SameTexts texts env)
    (h : Seed.Advances env db db') : Advanced texts.toTextReaders db db' where
  schema := h.schema
  readable := by
    rw [← hsame.1]
    exact h.readable (faithful_of_sameTexts htexts hsame)
  version := h.version

theorem advanced_of_committed {s t : TxnState} {version : Option Int} (htexts : texts.Faithful)
    (hsame : SameTexts texts env) (h : Committed env s t version) :
    Advanced texts.toTextReaders s.db t.db := by
  have hreads : ∀ {u active}, Writes env s u active → Readable texts.toTextReaders s.db →
      Readable texts.toTextReaders u.db := by
    intro u active hwrites
    rw [← hsame.1]
    exact hwrites.readable (faithful_of_sameTexts htexts hsame)
  cases version with
  | none => exact ⟨h.schema, hreads h, Or.inl (h.quiet rfl)⟩
  | some version =>
      obtain ⟨mid, hwrites, rfl, -⟩ := h
      exact Advanced.raised hwrites.schema (hreads hwrites) hwrites.policyVersions

theorem advanced_commit {A : Type} {body : Transaction A} (hschema : Schema db)
    (h : EndsOk body { db := db, written := [] } fun _ t => Advanced text db t.db) :
    Advanced text db (commit env db body).2 := by
  unfold commit
  cases env.transactionFails with
  | some e => exact Advanced.refl hschema
  | none =>
      cases hrun : body.run { db := db, written := [] } with
      | error e t => exact Advanced.refl hschema
      | ok a t => exact h.of_ok hrun

theorem advanced_cleanup (htexts : texts.Faithful) (hsame : SameTexts texts env)
    (hschema : Schema db) :
    Advanced texts.toTextReaders db (cleanupExpiredTempBans env db).2 := by
  refine advanced_commit hschema ?_
  refine (endsOk_delete env hschema).bind fun deleted t hdeleted => ?_
  obtain ⟨hcount, -, hwrites⟩ := hdeleted
  -- A ban is in force whatever its row says, so that each deleted one counts.
  have hactive : ((tempBanTable.rows db).filter
      (tempBanTable.selects fun row => row.expiresAt ≤ env.now)).any tempBanTable.enabled =
        decide (0 < deleted) := by
    rw [hcount]
    cases (tempBanTable.rows db).filter
      (tempBanTable.selects fun row => row.expiresAt ≤ env.now) with
    | nil => rfl
    | cons row rest => simp [tempBanTable]
  rw [hactive] at hwrites
  refine (endsOk_bump hwrites).bind fun version u hu => ?_
  exact Ends.pure (advanced_of_committed htexts hsame hu)

theorem advanced_bumpVersion (text : TextReaders) (hschema : Schema db) :
    Advanced text db (bumpPolicyVersion env db).2 := by
  have hcommit : Advanced text db (commit env db nextPolicyVersionInTransaction).2 :=
    advanced_commit hschema (ends_of_ok run_nextPolicyVersionInTransaction
      (Advanced.raised hschema id rfl))
  unfold bumpPolicyVersion
  split
  · next hrun =>
      rw [hrun] at hcommit
      exact hcommit
  · next hrun =>
      rw [hrun] at hcommit
      exact hcommit

/-! ### Refreshes -/

/-- What storing a list leaves alone. -/
structure StoredLists (text : TextReaders) (db db' : PolicyDb) : Prop where
  schema : Schema db → Schema db'
  readable : Readable text db → Readable text db'
  policyVersions : db'.policyVersions = db.policyVersions

theorem storedLists_foldl {Row : Type} {store : PolicyDb → Row → PolicyDb}
    (hstore : ∀ db row, StoredLists text db (store db row)) (rows : List Row) (db : PolicyDb) :
    StoredLists text db (rows.foldl store db) := by
  induction rows generalizing db with
  | nil => exact ⟨id, id, rfl⟩
  | cons row rest ih =>
      have hfirst := hstore db row
      have hrest := ih (store db row)
      exact ⟨hrest.schema ∘ hfirst.schema, hrest.readable ∘ hfirst.readable,
        hrest.policyVersions.trans hfirst.policyVersions⟩

theorem storedLists_storePrefixRow (env : ApiEnv) {jsonStrings : List String → String}
    (hreads : ReadsBack text jsonStrings) (db : PolicyDb) (row : SourcePrefixRow) :
    StoredLists text db (storePrefixRow env jsonStrings db row) where
  schema h := { h with }
  readable h := by
    refine { h with threatPrefixes := fun stored hstored => ?_ }
    rcases List.mem_append.mp hstored with hstored | hstored
    · exact h.threatPrefixes stored (List.mem_of_mem_filter hstored)
    · rw [List.mem_singleton.mp hstored]
      exact ⟨_, persistedPrefixes_cidrsJson hreads row.cidrs _ rfl⟩
  policyVersions := rfl

theorem storedLists_storeStateRow (env : ApiEnv) (text : TextReaders) (db : PolicyDb) (row : SourceStateRow) :
    StoredLists text db (storeStateRow env db row) := by
  unfold storeStateRow
  split
  · exact ⟨id, id, rfl⟩
  · exact ⟨fun h => { h with }, fun h => { h with }, rfl⟩

/-- Nobody loads the states of the feeds for a policy. -/
theorem sameInForce_storeStateRow (db : PolicyDb) (row : SourceStateRow) :
    SameInForce defaultPolicyName db (storeStateRow env db row) := by
  unfold storeStateRow
  split
  · exact SameInForce.refl
  · exact ⟨rfl, rfl, rfl, rfl, rfl, rfl, rfl, rfl, rfl, rfl⟩

theorem sameInForce_storeStateRows (rows : List SourceStateRow) (db : PolicyDb) :
    SameInForce defaultPolicyName db (rows.foldl (storeStateRow env) db) := by
  induction rows generalizing db with
  | nil => exact SameInForce.refl
  | cons row rest ih => exact (sameInForce_storeStateRow db row).trans (ih _)

theorem advanced_storeThreats {refresh : ThreatRefresh} {batch : ThreatRefreshBatch}
    (hreads : ReadsBack text refresh.jsonStrings) (hschema : Schema db)
    (hbatch : refresh.batch = some batch) :
    Advanced text db (storeThreatBatch env refresh.jsonStrings batch db) := by
  obtain ⟨-, hrows, hcount⟩ := refreshThreatSourceBatch_ok hbatch
  have hlists := storedLists_foldl (storedLists_storePrefixRow env hreads)
    batch.changedPrefixesBySource db
  have hstates := storedLists_foldl (storedLists_storeStateRow env text) batch.states
    (batch.changedPrefixesBySource.foldl (storePrefixRow env refresh.jsonStrings) db)
  unfold storeThreatBatch
  dsimp only
  split
  · exact Advanced.raised (hstates.schema (hlists.schema hschema))
      (hstates.readable ∘ hlists.readable) (hstates.policyVersions.trans hlists.policyVersions)
  · next hnone =>
      -- Without a changed feed there is no list to store.
      have hempty : batch.changedPrefixesBySource = [] := by
        rw [hrows]
        refine List.eq_nil_of_length_eq_zero ?_
        rw [List.length_append]
        simp only [ThreatRefreshBatch.empty, List.length_nil, Nat.zero_add] at hcount ⊢
        omega
      refine ⟨hstates.schema (hlists.schema hschema), hstates.readable ∘ hlists.readable, ?_⟩
      rw [hempty]
      exact Or.inl (sameInForce_storeStateRows batch.states db)

theorem advanced_storePrefixes (text : TextReaders) {t : GeoTables}
    {catalog : GeoCountryCatalogRow} {existing : Option GeoIpListStateRow}
    {metadata : IpdenyMetadata} {prefixes : List GeoPrefix} {now : Timestamp} {id : Int32}
    (hschema : Schema t.db) (changed : Bool) :
    Advanced text t.db
      (t.storePrefixes catalog existing metadata prefixes now id changed).db := by
  cases changed with
  | false => exact Advanced.refl hschema
  | true => exact Advanced.raised { hschema with } (fun h => { h with }) rfl

theorem advanced_storeGeo (text : TextReaders) {t t' : GeoTables} {changed : Bool}
    {catalog : GeoCountryCatalogRow} {existing : Option GeoIpListStateRow}
    {metadata : IpdenyMetadata} {prefixes : List GeoPrefix} {now : Timestamp} {id : Int32}
    (hschema : Schema t.db)
    (h : t.replacePrefixes catalog existing metadata prefixes now id = .ok (changed, t')) :
    Advanced text t.db t'.db := by
  unfold GeoTables.replacePrefixes at h
  dsimp only at h
  split at h
  · cases h
    exact advanced_storePrefixes text hschema _
  · cases h

theorem db_touch (t : GeoTables) (existing : Option GeoIpListStateRow) (metadata : IpdenyMetadata)
    (now : Timestamp) : (t.touch existing metadata now).db = t.db := by
  cases existing <;> rfl

theorem db_upsertCatalog (t : GeoTables) (entries : List IpdenyIndexEntry) :
    (t.upsertCatalog entries).db = t.db := by
  unfold GeoTables.upsertCatalog
  induction entries generalizing t with
  | nil => rfl
  | cons entry rest ih => exact ih (t.upsertCountryCatalogEntry entry)

/-- Every writer keeps the database fit, and raises the version with every change. -/
theorem advanced_run (htexts : texts.Faithful) {write : PolicyWrite} (huses : write.Uses texts)
    {t : GeoTables} (hschema : Schema t.db) :
    Advanced texts.toTextReaders t.db (write.run t).db := by
  cases write with
  | request env write => exact advanced_of_writeOk htexts huses (writeOk_run hschema write)
  | bumpVersion env => exact advanced_bumpVersion _ hschema
  | start env =>
      rcases Seed.ensureBuiltinPolicy_cases env hschema with
        ⟨-, hsame⟩ | ⟨-, -, hsame⟩ | ⟨rows, -, -, -, hstarted, hadvances⟩
      · exact Advanced.of_eq hschema hsame
      · exact Advanced.of_eq hschema hsame
      · have hafter := advanced_of_advances htexts huses hadvances
        rw [← hstarted] at hafter
        exact hafter
  | seedExample env =>
      rcases Seed.seedExamplePolicy_cases hschema huses.2 with
        ⟨-, hsame⟩ | ⟨_, _, _, _, -, -, -, hadvances⟩
      · exact Advanced.of_eq hschema hsame
      · exact advanced_of_advances htexts huses.1 hadvances
  | cleanup env => exact advanced_cleanup htexts huses hschema
  | storeThreats env refresh =>
      simp only [PolicyWrite.run]
      cases hbatch : refresh.batch with
      | none => exact Advanced.refl hschema
      | some batch => exact advanced_storeThreats huses hschema hbatch
  | storeGeo catalog existing metadata prefixes now id =>
      simp only [PolicyWrite.run]
      cases hreplace : t.replacePrefixes catalog existing metadata prefixes now id with
      | error e => exact Advanced.refl hschema
      | ok result => exact advanced_storeGeo _ hschema hreplace
  | touchGeo existing metadata now =>
      exact Advanced.of_eq hschema (db_touch t existing metadata now)
  | storeCatalog entries => exact Advanced.of_eq hschema (db_upsertCatalog t entries)

end Step

/-! ## Runs -/

section Runs

variable {texts : PolicyTexts}

def StampedByVersion : GeoTables → GeoTables → Prop :=
  Stamped (fun t => policyVersion t.db defaultPolicyName)
    fun t t' => SameInForce defaultPolicyName t.db t'.db

theorem stampedByVersion_of_advanced {text : TextReaders} {t t' : GeoTables}
    (h : Advanced text t.db t'.db) : StampedByVersion t t' := by
  rcases h.version with hsame | hraised
  · exact ⟨le_of_eq hsame.policyVersion.symm, fun _ => hsame⟩
  · exact Stamped.of_raised (by omega)

/-- The database keeps its keys, and its rows can be read. -/
structure Fit (text : TextReaders) (t : GeoTables) : Prop where
  schema : Schema t.db
  readable : Readable text t.db

theorem fit_empty (text : TextReaders) : Fit text GeoTables.empty :=
  ⟨schema_empty, readable_empty text⟩

/-- What holds along every run. -/
theorem fit_runPolicyWrites (htexts : texts.Faithful) {writes : List PolicyWrite}
    (huses : ∀ write ∈ writes, write.Uses texts) {t : GeoTables}
    (hfit : Fit texts.toTextReaders t) :
    Fit texts.toTextReaders (runPolicyWrites t writes) ∧
      StampedByVersion t (runPolicyWrites t writes) := by
  have hstep : ∀ write ∈ writes, ∀ before, Fit texts.toTextReaders before →
      Fit texts.toTextReaders (write.run before) ∧ StampedByVersion before (write.run before) := by
    intro write hwrite before hbefore
    have hadvanced := advanced_run htexts (huses write hwrite) hbefore.schema
    exact ⟨⟨hadvanced.schema, hadvanced.readable hbefore.readable⟩,
      stampedByVersion_of_advanced hadvanced⟩
  exact stamped_foldl (Fit texts.toTextReaders) (fun _ => SameInForce.refl) (fun h h' => h.trans h') hstep hfit

theorem delivers_of_readable (htexts : texts.Faithful) {db : PolicyDb}
    (hreadable : Readable texts.toTextReaders db) {now : Int} (hnow : minNaiveDateTime ≤ now)
    (policyName : String) (late : Int) : Delivers texts db policyName now late := by
  obtain ⟨snapshot, hload⟩ := loadPolicyWithGeoPrefixes_of_readable hreadable policyName true now
  obtain ⟨policy, hcompile⟩ := compilePolicy_of_loaded hload late
  have hbans : TimelyBans snapshot.tempBans :=
    timelyBans_of_loaded hreadable hnow (loadPolicyWithGeoPrefixes_ok_iff.mp hload).1
  exact ⟨snapshot, _, _, hload, policyFromJson_policyJson htexts hbans,
    compilePolicy_version hcompile _⟩

/-- Whatever writes to a policy and in whichever order, its rows can be read and every policy is
delivered at any time. -/
theorem delivers_runPolicyWrites (texts : PolicyTexts) (htexts : texts.Faithful)
    (writes : List PolicyWrite) (huses : ∀ write ∈ writes, write.Uses texts) :
    Readable texts.toTextReaders (runPolicyWrites GeoTables.empty writes).db ∧
      ∀ policyName now late, minNaiveDateTime ≤ now →
        Delivers texts (runPolicyWrites GeoTables.empty writes).db policyName now late := by
  have hfit := (fit_runPolicyWrites htexts huses (fit_empty _)).1
  exact ⟨hfit.readable, fun policyName now late hnow =>
    delivers_of_readable htexts hfit.readable hnow policyName late⟩

/-- Between two moments of a run with the same version, the policy has the same content whenever it
is loaded; and the version never falls. -/
theorem version_namesContent (texts : PolicyTexts) (htexts : texts.Faithful)
    (before between : List PolicyWrite)
    (huses : ∀ write ∈ before ++ between, write.Uses texts) :
    let first := (runPolicyWrites GeoTables.empty before).db
    let second := (runPolicyWrites GeoTables.empty (before ++ between)).db
    policyVersion first defaultPolicyName ≤ policyVersion second defaultPolicyName ∧
      (policyVersion second defaultPolicyName = policyVersion first defaultPolicyName →
        ∀ now, content texts.toTextReaders second now = content texts.toTextReaders first now) := by
  intro first second
  have hfirst := (fit_runPolicyWrites htexts
    (fun write hwrite => huses write (List.mem_append_left _ hwrite)) (fit_empty _)).1
  have hsecond : second =
      (runPolicyWrites (runPolicyWrites GeoTables.empty before) between).db := by
    change (runPolicyWrites GeoTables.empty (before ++ between)).db = _
    rw [runPolicyWrites, List.foldl_append]
    rfl
  have hstamped := (fit_runPolicyWrites htexts
    (fun write hwrite => huses write (List.mem_append_right _ hwrite)) hfirst).2
  rw [hsecond]
  exact ⟨hstamped.le, fun hsame now => (hstamped.same hsame).content now⟩

end Runs

section Example

open Net.IpText

/-- Keys are their own digests. -/
def writersEnv : ApiEnv :=
  { deliveryEnv with keyDigest := fun text => text }

def officeStrings (items : List String) : String :=
  Json.toText (.arr (items.map Json.str))

theorem readsBack_officeStrings : ReadsBack officeTexts.toTextReaders officeStrings where
  ipNet net := by
    have hshown : cidrText net.addr net.prefixLen = Net.IpText.displayIpNet net := rfl
    rw [hshown]
    exact faithful_officeTexts.ipNet net
  stringArray prefixes := by
    have hread : (Json.ofText (officeStrings (prefixes.map prefixToCidr))) =
        some (.arr ((prefixes.map prefixToCidr).map Json.str)) := Json.ofText_toText _
    change (Json.ofText (officeStrings (prefixes.map prefixToCidr))).bind
      (Json.readList Json.readStr) = _
    rw [hread]
    generalize prefixes.map prefixToCidr = items
    change (items.map Json.str).mapM Json.readStr = some items
    induction items with
    | nil => rfl
    | cons item rest ih => simp [List.mapM_cons, Json.readStr, ih]

/-- A feed that lists one network. -/
def oneFeed : ThreatRefresh where
  addrText _ := []
  fetch _ := some listed
  jsonStrings := officeStrings
  existing := []
  existingPrefixSources := []
  sources := [{
    source :=
      { name := "ipsum"
        url := "https://raw.githubusercontent.com/stamparm/ipsum/master/ipsum.txt"
        format := .ipsum
        minScore := some 3 }
    id := 1 }]
  now := 0

/-- Every kind of writer once. The ban that is created first is removed again at noon. -/
def officeWrites : List PolicyWrite :=
  [.start writersEnv,
    .request writersEnv (.createTempBan
      { cidr := "203.0.113.7/32"
        protocol := none
        port := some 22
        durationSeconds := none
        comment := none }),
    .seedExample writersEnv,
    .storeThreats writersEnv oneFeed,
    .storeCatalog [{ country := "CN", url := "", lastModified := none }],
    .storeGeo { code := "CN", url := "", lastModified := none } none
      { country := "CN", url := "", lastModified := none, etag := none } [] 0 1,
    .touchGeo none { country := "CN", url := "", lastModified := none, etag := none } 0,
    .cleanup { writersEnv with now := noon },
    .bumpVersion writersEnv]

theorem uses_officeWrites : ∀ write ∈ officeWrites, write.Uses officeTexts := by
  intro write hwrite
  simp only [officeWrites, List.mem_cons, List.not_mem_nil, or_false] at hwrite
  have hsame : SameTexts officeTexts writersEnv := ⟨rfl, rfl⟩
  rcases hwrite with rfl | rfl | rfl | rfl | rfl | rfl | rfl | rfl | rfl
  · exact hsame
  · exact hsame
  · exact ⟨hsame, ⟨_, rfl⟩, ⟨_, rfl⟩⟩
  · exact readsBack_officeStrings
  · trivial
  · trivial
  · trivial
  · exact ⟨rfl, rfl⟩
  · exact hsame

theorem delivers_runPolicyWrites_office :
    ((runPolicyWrites GeoTables.empty officeWrites).db.tempBans = [] ∧
      (runPolicyWrites GeoTables.empty officeWrites).db.firewallRules.length = 2 ∧
      (runPolicyWrites GeoTables.empty officeWrites).db.threatPrefixes.length = 1) ∧
    Delivers officeTexts (runPolicyWrites GeoTables.empty officeWrites).db defaultPolicyName noon
      noon := by
  refine ⟨?_, ?_⟩
  · decide +kernel
  · exact (delivers_runPolicyWrites officeTexts faithful_officeTexts officeWrites
      uses_officeWrites).2 defaultPolicyName noon noon (by decide)

/-- A cleanup that finds no expired ban, and a request that is refused. -/
def quietWrites : List PolicyWrite :=
  [.cleanup writersEnv, .request writersEnv (.deleteTrustedCidr 1)]

theorem version_namesContent_office :
    policyVersion (runPolicyWrites GeoTables.empty (officeWrites ++ quietWrites)).db
        defaultPolicyName = 7 ∧
      ∀ now, content officeTexts.toTextReaders
          (runPolicyWrites GeoTables.empty (officeWrites ++ quietWrites)).db now =
        content officeTexts.toTextReaders
          (runPolicyWrites GeoTables.empty officeWrites).db now := by
  have huses : ∀ write ∈ officeWrites ++ quietWrites, write.Uses officeTexts := by
    intro write hwrite
    rcases List.mem_append.mp hwrite with hwrite | hwrite
    · exact uses_officeWrites write hwrite
    · simp only [quietWrites, List.mem_cons, List.not_mem_nil, or_false] at hwrite
      rcases hwrite with rfl | rfl <;> exact ⟨rfl, rfl⟩
  refine ⟨by decide +kernel, ?_⟩
  exact (version_namesContent officeTexts faithful_officeTexts officeWrites quietWrites huses).2
    (by decide +kernel)

end Example

end Api
end XdpFirewall
