import XdpFirewall.Api.StoredRows

/-!
# Handlers — each request raises the version when it has to

The handlers of each resource, one after the other. A handler that creates rows says itself whether
the policy has changed; one that deletes rows looks at them before they are gone.
-/

namespace XdpFirewall
namespace Api

open Lib Policy ControlPlane

variable {env : ApiEnv} {db : PolicyDb}

/-- Looking at a row changes nothing. -/
theorem EndsOk.findRow {B : Type} {s : TxnState} {f : Option DynamicDefenseRow → Transaction B}
    {ok : B → TxnState → Prop}
    (h : EndsOk (f (s.db.dynamicDefense.find? fun row => row.policyName = defaultPolicyName)) s ok) :
    EndsOk (DynamicDefense.findRow >>= f) s ok := h

-- A goal about a handler is taken apart by the rules, never by running the handler.
seal Ends

/-! ## Created rows -/

section Create

variable {Row : Type} {table : RowTable Row} {row : Int32 → Row}

theorem endsOk_created {refused : ApiError} {s : TxnState} (hschema : Schema s.db)
    (hrow : Faithful env → ∀ id, table.RowOk env.text (row id)) :
    EndsOk (do return table.created (← table.insert env refused row)) s
      fun created t => Writes env s t created.activeChanged :=
  (endsOk_insert hschema hrow).bind fun _ _ hwrites => Ends.pure hwrites

theorem createOk_createKeyed {key matchesExisting : Row → Bool} {conflict : String}
    {refused : ApiError} (hrow : Faithful env → ∀ id, table.RowOk env.text (row id)) :
    CreateOk env (createKeyed env table key matchesExisting conflict refused row) := by
  intro s hschema
  refine EndsOk.select ?_
  cases ((table.rows s.db).filter (table.selects key)).head? with
  | none => exact endsOk_created hschema hrow
  | some existing =>
      dsimp only
      split
      · exact Ends.pure (Writes.refl hschema)
      · exact Ends.throw trivial

theorem createOk_createMatching {fields : Row → Bool} {several : String}
    (hrow : Faithful env → ∀ id, table.RowOk env.text (row id)) :
    CreateOk env (createMatching env table fields several row) := by
  intro s hschema
  refine EndsOk.select ?_
  cases (table.rows s.db).filter (table.selects fields) with
  | nil => exact endsOk_created hschema hrow
  | cons existing rest =>
      cases rest with
      | nil => exact Ends.pure (Writes.refl hschema)
      | cons _ _ => exact Ends.throw trivial

end Create

/-! ## Deleted rows -/

section Delete

variable {Row : Type} {table : RowTable Row}

/-- What goes with deleted rows was not in force without them. -/
def CascadeOk (env : ApiEnv) (table : RowTable Row) (cascade : List Row → Transaction Unit) :
    Prop :=
  ∀ (s t : TxnState) (active : Bool) (p : Row → Bool) (rows : List Row), Schema s.db →
    Writes env s t active →
    (table.rows t.db = (table.rows s.db).filter fun row => !table.selects p row) →
    (∀ row ∈ rows, row ∈ (table.rows s.db).filter (table.selects p)) →
    EndsOk (cascade rows) t fun _ u => Writes env s u active

theorem cascadeOk_noCascade : CascadeOk env table noCascade :=
  fun _ _ _ _ _ _ hwrites _ _ => Ends.pure hwrites

/-- The last step of a handler that has looked at the rows. -/
theorem endsOk_answer {A : Type} {s t : TxnState} {active : Bool} {data : A}
    (h : Writes env s t active) :
    EndsOk (do return (← bumpPolicyVersionIfActive active, data)) t
      fun result u => Committed env s u result.1 :=
  (endsOk_bump h).bind fun _ _ hcommitted => Ends.pure hcommitted

theorem endsOk_raise {A : Type} {s t : TxnState} {data : A} (h : Writes env s t true) :
    EndsOk (do return (some (← nextPolicyVersionInTransaction), data)) t
      fun result u => Committed env s u result.1 :=
  (endsOk_nextPolicyVersion h).bind fun _ _ hcommitted => Ends.pure hcommitted

/-- Rows that collide with a stored row are that row. -/
theorem any_enabled_of_collides (hschema : Schema db) {p : Row → Bool} {row : Row}
    (hp : ∀ other, p other = true → table.collides other row = true)
    (hrow : row ∈ (table.rows db).filter p) :
    ((table.rows db).filter p).any table.enabled = table.enabled row := by
  have hsame : ∀ other ∈ (table.rows db).filter p, other = row := by
    intro other hother
    obtain ⟨hother, hcollides⟩ := List.mem_filter.mp hother
    exact (table.distinct _ hschema).eq_of_collides table.collides_symm hother
      (List.mem_of_mem_filter hrow) (hp other hcollides)
  cases henabled : table.enabled row with
  | true => exact List.any_eq_true.mpr ⟨row, hrow, henabled⟩
  | false =>
      refine List.any_eq_false.mpr fun other hother => ?_
      rw [hsame other hother, henabled]
      decide

theorem of_selects {p : Row → Bool} {row : Row} (h : table.selects p row = true) :
    table.policyName row = defaultPolicyName ∧ p row = true := by
  rw [RowTable.selects, Bool.and_eq_true] at h
  exact ⟨of_decide_eq_true h.1, h.2⟩

/-- Rows that are picked by the ids of others are these. -/
theorem filter_of_ids (hschema : Schema db) {p q : Row → Bool}
    (hp : ∀ row, p row = true → table.id row ∈ ((table.rows db).filter q).map table.id)
    (hq : ∀ row ∈ (table.rows db).filter q, p row = true) :
    (table.rows db).filter p = (table.rows db).filter q := by
  refine List.filter_congr fun row hrow => ?_
  rw [Bool.eq_iff_iff]
  constructor
  · intro hpicked
    obtain ⟨target, htarget, hid⟩ := List.mem_map.mp (hp row hpicked)
    have hsame := (table.distinct _ hschema).eq_of_collides table.collides_symm
      (List.mem_of_mem_filter htarget) hrow (table.collides_of_id _ _ hid)
    rw [← hsame]
    exact List.of_mem_filter htarget
  · intro hpicked
    exact hq row (List.mem_filter.mpr ⟨hrow, hpicked⟩)

theorem filter_selects_ids (hschema : Schema db) {p : Row → Bool} :
    (table.rows db).filter (table.selects fun row =>
        table.id row ∈ ((table.rows db).filter (table.selects p)).map table.id) =
      (table.rows db).filter (table.selects p) := by
  refine filter_of_ids hschema (fun row hrow => of_decide_eq_true (of_selects hrow).2) ?_
  intro row hrow
  rw [RowTable.selects, Bool.and_eq_true]
  have hname := (of_selects (List.of_mem_filter hrow)).1
  exact ⟨decide_eq_true hname, decide_eq_true (List.mem_map_of_mem hrow)⟩

theorem filter_ids (hschema : Schema db) {p : Row → Bool} :
    (table.rows db).filter (fun row => table.id row ∈ ((table.rows db).filter p).map table.id) =
      (table.rows db).filter p :=
  filter_of_ids hschema (fun _ hrow => of_decide_eq_true hrow)
    fun _ hrow => decide_eq_true (List.mem_map_of_mem hrow)

/-- The rows that are deleted are the ones that were looked at. -/
theorem endsOk_deleteTargets (env : ApiEnv) {s : TxnState} {p : Row → Bool} {targets : List Row}
    (hschema : Schema s.db) (htargets : (table.rows s.db).filter p = targets) :
    EndsOk (table.deleteMany p) s fun _ t => Writes env s t (targets.any table.enabled) := by
  rw [← htargets]
  exact (endsOk_deleteMany env hschema).mono (fun _ _ hdeleted => hdeleted.2.2) fun _ _ => id

theorem writeOk_deleteById (hschema : Schema db) {notFound : String}
    {cascade : List Row → Transaction Unit} (hcascade : CascadeOk env table cascade) (id : Int32) :
    WriteOk env db (deleteById env db table notFound cascade id) := by
  refine writeOk_respond hschema (EndsOk.select ?_)
  cases hfound : (table.rows db).filter (table.selects fun row => table.id row = id) with
  | nil => exact Ends.throw trivial
  | cons row rest =>
      have hrow : row ∈ (table.rows db).filter (table.selects fun row => table.id row = id) := by
        rw [hfound]
        exact List.mem_cons_self
      refine (endsOk_delete env hschema).bind fun deleted t hdeleted => EndsOk.lift fun _ _ => ?_
      obtain ⟨-, hrows, hwrites⟩ := hdeleted
      have hid : ∀ other, table.selects (fun row => table.id row = id) other = true →
          table.collides other row = true := by
        intro other hother
        have hsame := (of_decide_eq_true (of_selects hother).2).trans
          (of_decide_eq_true (of_selects (List.of_mem_filter hrow)).2).symm
        exact table.collides_of_id _ _ hsame
      rw [any_enabled_of_collides hschema hid hrow] at hwrites
      have hone : ∀ other ∈ [row], other ∈
          (table.rows db).filter (table.selects fun row => table.id row = id) := by
        intro other hother
        rw [List.mem_singleton.mp hother]
        exact hrow
      refine (hcascade _ t _ _ _ hschema hwrites hrows hone).bind fun _ u hu => ?_
      exact endsOk_answer hu

theorem writeOk_deleteBatch (hschema : Schema db) {notFound : String}
    {cascade : List Row → Transaction Unit} (hcascade : CascadeOk env table cascade)
    (ids : List Int32) : WriteOk env db (deleteBatch env db table notFound cascade ids) := by
  refine writeOk_respond hschema (EndsOk.lift fun ids _ => EndsOk.select (EndsOk.lift fun _ _ => ?_))
  refine (endsOk_delete env hschema).bind fun deleted t hdeleted => EndsOk.lift fun _ _ => ?_
  obtain ⟨-, hrows, hwrites⟩ := hdeleted
  refine (hcascade _ t _ _ _ hschema hwrites hrows fun row hrow => hrow).bind fun _ u hu => ?_
  exact endsOk_answer hu

theorem writeOk_deleteOnly (hschema : Schema db) {notFound several : String}
    {selector : ApiResult (Row → Bool)} :
    WriteOk env db (deleteOnly env db table notFound several selector) := by
  refine writeOk_respond hschema (EndsOk.lift fun p _ => EndsOk.select ?_)
  cases hfound : (table.rows db).filter (table.selects p) with
  | nil => exact Ends.throw trivial
  | cons row rest =>
      cases rest with
      | cons _ _ => exact Ends.throw trivial
      | nil =>
          refine (endsOk_delete env hschema).bind fun deleted t hdeleted => EndsOk.lift fun _ _ => ?_
          obtain ⟨-, -, hwrites⟩ := hdeleted
          rw [hfound, List.any_cons, List.any_nil, Bool.or_false] at hwrites
          exact endsOk_answer hwrites

end Delete

/-! ## Firewall rules -/

namespace FirewallRules

theorem createOk_createRule {request : CreateRuleRequest} {input : RuleInput}
    (h : fromAnyhow (ruleInput env request) = .ok input) : CreateOk env (createRule env input) :=
  createOk_createKeyed fun hfaithful => rowOk_of_input hfaithful (fromAnyhow_ok_iff.mp h)

theorem writeOk_create (hschema : Schema db) (request : CreateRuleRequest) :
    WriteOk env db (create env db request) := by
  refine Api.writeOk_create hschema fun input h => ?_
  obtain ⟨_, -, h⟩ := bind_ok_iff.mp h
  exact createOk_createRule h

theorem writeOk_createBatch (hschema : Schema db) (items : List CreateRuleRequest) :
    WriteOk env db (createBatch env db items) := by
  refine Api.writeOk_createBatch hschema fun inputs h input hinput => ?_
  obtain ⟨_, -, h⟩ := bind_ok_iff.mp h
  obtain ⟨_, -, h⟩ := bind_ok_iff.mp h
  obtain ⟨request, -, hrequest⟩ := mem_of_mapM_ok h hinput
  exact createOk_createRule hrequest

theorem writeOk_deleteBatch (hschema : Schema db) (request : RuleBatchDeleteRequest) :
    WriteOk env db (deleteBatch env db request) := by
  refine writeOk_respond hschema (EndsOk.lift fun keys _ => EndsOk.select (EndsOk.lift fun _ _ => ?_))
  refine (endsOk_deleteTargets env hschema (filter_selects_ids hschema)).bind
    fun deleted t hwrites => EndsOk.lift fun _ _ => ?_
  exact endsOk_answer hwrites

theorem writeOk_deleteByQuery (hschema : Schema db) (query : RuleMatchQuery) :
    WriteOk env db (deleteByQuery env db query) := by
  refine writeOk_respond hschema (EndsOk.lift fun selector _ => EndsOk.select
    (EndsOk.lift fun _ _ => ?_))
  have htargets := @filter_ids db _ firewallRuleTable hschema (firewallRuleTable.selects selector)
  refine (endsOk_deleteTargets env hschema htargets).bind
    fun deleted t hwrites => EndsOk.lift fun _ _ => ?_
  exact endsOk_answer hwrites

end FirewallRules

/-! ## Country rules and rate limits -/

theorem GeoCountries.writeOk_create (hschema : Schema db)
    (request : GeoCountries.CreateGeoCountryRequest) :
    WriteOk env db (GeoCountries.create env db request) :=
  Api.writeOk_create hschema fun _ h =>
    createOk_createMatching fun _ => GeoCountries.rowOk_of_input (fromAnyhow_ok_iff.mp h)

theorem GeoCountries.writeOk_createBatch (hschema : Schema db)
    (items : List GeoCountries.CreateGeoCountryRequest) :
    WriteOk env db (GeoCountries.createBatch env db items) := by
  refine Api.writeOk_createBatch hschema fun inputs h input hinput => ?_
  obtain ⟨_, -, h⟩ := bind_ok_iff.mp h
  obtain ⟨request, -, hrequest⟩ := mem_of_mapM_ok h hinput
  exact createOk_createMatching fun _ =>
    GeoCountries.rowOk_of_input (fromAnyhow_ok_iff.mp hrequest)

theorem DynamicRateLimits.writeOk_create (hschema : Schema db)
    (request : DynamicRateLimits.CreateDynamicRateLimitRequest) :
    WriteOk env db (DynamicRateLimits.create env db request) :=
  Api.writeOk_create hschema fun _ h =>
    createOk_createMatching fun _ => DynamicRateLimits.rowOk_of_input (fromAnyhow_ok_iff.mp h)

theorem DynamicRateLimits.writeOk_createBatch (hschema : Schema db)
    (items : List DynamicRateLimits.CreateDynamicRateLimitRequest) :
    WriteOk env db (DynamicRateLimits.createBatch env db items) := by
  refine Api.writeOk_createBatch hschema fun inputs h input hinput => ?_
  obtain ⟨_, -, h⟩ := bind_ok_iff.mp h
  obtain ⟨request, -, hrequest⟩ := mem_of_mapM_ok h hinput
  exact createOk_createMatching fun _ =>
    DynamicRateLimits.rowOk_of_input (fromAnyhow_ok_iff.mp hrequest)

/-! ## Threat sources -/

namespace ThreatSources

theorem createOk_createThreatSource {request : CreateThreatSourceRequest}
    {input : ThreatSourceInput} (h : fromAnyhow (threatSourceInput env request) = .ok input) :
    CreateOk env (createThreatSource env input) :=
  createOk_createKeyed fun _ => rowOk_of_input (fromAnyhow_ok_iff.mp h)

theorem writeOk_create (hschema : Schema db) (request : CreateThreatSourceRequest) :
    WriteOk env db (create env db request) :=
  Api.writeOk_create hschema fun _ h => createOk_createThreatSource h

theorem writeOk_createBatch (hschema : Schema db) (items : List CreateThreatSourceRequest) :
    WriteOk env db (createBatch env db items) := by
  refine Api.writeOk_createBatch hschema fun inputs h input hinput => ?_
  obtain ⟨_, -, h⟩ := bind_ok_iff.mp h
  obtain ⟨request, -, hrequest⟩ := mem_of_mapM_ok h hinput
  exact createOk_createThreatSource hrequest

/-- The prefixes of sources that are not in force go unnoticed. -/
theorem endsOk_deleteStatesByName {s t : TxnState} {active : Bool} {names : List String}
    (h : Writes env s t active)
    (hnames : active = false → ∀ name ∈ names, ¬ t.db.SourceEnabled defaultPolicyName name) :
    EndsOk (deleteStatesByName names) t fun _ u => Writes env s u active := by
  refine Ends.modify ?_
  refine
    { schema := { h.schema with }
      readable := fun hfaithful hreadable => ?_
      policyVersions := h.policyVersions
      quiet := fun hoff => (h.quiet hoff).trans { SameInForce.refl with threatPrefixes := ?_ }
      loud := h.loud
      grows := h.grows }
  · have hreadable := h.readable hfaithful hreadable
    exact { hreadable with
            threatPrefixes := fun row hrow =>
              hreadable.threatPrefixes row (List.mem_of_mem_filter hrow) }
  · rw [List.filter_filter]
    refine List.filter_congr fun row _ => ?_
    rw [Bool.eq_iff_iff, Bool.and_eq_true, decide_eq_true_eq, decide_eq_true_eq]
    constructor
    · intro hrow
      exact hrow.1
    · intro hrow
      exact ⟨hrow, fun hgone => hnames hoff row.sourceName hgone.2 hrow.2⟩

/-- A source that is left has another name than those that were deleted. -/
theorem not_sourceEnabled_of_deleted {s t : TxnState} (hschema : Schema s.db)
    {p : ThreatSourceRow → Bool}
    (hrows : t.db.threatSources = s.db.threatSources.filter fun row => !p row)
    {row : ThreatSourceRow} (hrow : row ∈ s.db.threatSources) (hp : p row = true)
    (hname : row.policyName = defaultPolicyName) :
    ¬ t.db.SourceEnabled defaultPolicyName row.name := by
  rintro ⟨other, hother, ⟨hpolicy, -⟩, hsame⟩
  rw [hrows] at hother
  obtain ⟨hmem, hleft⟩ := List.mem_filter.mp hother
  have hcollides : sameThreatSource other row = true := by
    simp [sameThreatSource, hpolicy, hname, hsame]
  have heq : other = row := hschema.threatSources.eq_of_collides
    threatSourceTable.collides_symm hmem hrow hcollides
  rw [heq, hp] at hleft
  cases hleft

theorem cascadeOk_deleteStates : CascadeOk env threatSourceTable deleteStates := by
  intro s t active p rows hschema hwrites hrows hdeleted
  refine endsOk_deleteStatesByName hwrites fun _ name hname => ?_
  obtain ⟨row, hrow, rfl⟩ := List.mem_map.mp hname
  obtain ⟨hmem, hp⟩ := List.mem_filter.mp (hdeleted row hrow)
  exact not_sourceEnabled_of_deleted hschema hrows hmem hp (of_selects hp).1

theorem writeOk_update (hschema : Schema db) (id : Int32) (enabled : Bool) :
    WriteOk env db (update env db id enabled) := by
  refine writeOk_respond hschema (EndsOk.select ?_)
  cases hfound : ((threatSourceTable.rows db).filter
      (threatSourceTable.selects fun row => row.id = id)).head? with
  | none => exact Ends.throw trivial
  | some row =>
      have hmem : row ∈ threatSourceTable.rows db :=
        List.mem_of_mem_filter (List.mem_of_mem_head? hfound)
      dsimp only
      split
      · exact Ends.pure (Writes.refl hschema)
      · rename_i hdiffers
        -- A source that is switched on or off is in force before or afterwards.
        have hactive : (threatSourceTable.enabled row ||
            threatSourceTable.enabled { row with enabled := enabled }) = true := by
          change (row.enabled || enabled) = true
          cases hrow : row.enabled <;> cases enabled <;> simp_all
        have hupdate := @endsOk_update _ threatSourceTable env { db := db, written := [] } row
          { row with enabled := enabled } hschema hmem (fun _ => rfl) fun h => h
        rw [hactive] at hupdate
        refine hupdate.bind fun _ t hwrites => ?_
        cases enabled with
        | true => exact endsOk_raise hwrites
        | false =>
            refine (endsOk_deleteStatesByName hwrites fun h => absurd h (by decide)).bind
              fun _ u hu => ?_
            exact endsOk_raise hu

theorem writeOk_deleteById (hschema : Schema db) (id : Int32) :
    WriteOk env db (deleteById env db id) :=
  Api.writeOk_deleteById hschema cascadeOk_deleteStates id

theorem writeOk_deleteBatch (hschema : Schema db) (ids : List Int32) :
    WriteOk env db (deleteBatch env db ids) :=
  Api.writeOk_deleteBatch hschema cascadeOk_deleteStates ids

theorem writeOk_deleteByQuery (hschema : Schema db) (name : String) :
    WriteOk env db (deleteByQuery env db name) := by
  refine writeOk_respond hschema (EndsOk.lift fun _ _ => EndsOk.select ?_)
  generalize String.ofList (trim name.toList) = name
  cases hfound : ((threatSourceTable.rows db).filter
      (threatSourceTable.selects fun row => row.name = name)).head? with
  | none => exact Ends.throw trivial
  | some row =>
      have hrow := List.mem_of_mem_head? hfound
      refine (endsOk_delete env hschema).bind fun deleted t hdeleted => EndsOk.lift fun _ _ => ?_
      obtain ⟨-, hrows, hwrites⟩ := hdeleted
      obtain ⟨hmem, hp⟩ := List.mem_filter.mp hrow
      have hname : row.name = name := of_decide_eq_true (of_selects hp).2
      have hsame : ∀ other, threatSourceTable.selects (fun row => row.name = name) other = true →
          sameThreatSource other row = true := by
        intro other hother
        obtain ⟨hpolicy, hother⟩ := of_selects hother
        have hpolicy : other.policyName = row.policyName := hpolicy.trans (of_selects hp).1.symm
        have hother : other.name = row.name := (of_decide_eq_true hother).trans hname.symm
        simp [sameThreatSource, hpolicy, hother]
      rw [any_enabled_of_collides hschema hsame hrow] at hwrites
      refine (endsOk_deleteStatesByName hwrites fun _ other hother => ?_).bind fun _ u hu => ?_
      · rw [List.mem_singleton.mp hother, ← hname]
        exact not_sourceEnabled_of_deleted hschema hrows hmem hp (of_selects hp).1
      · exact endsOk_answer hu

end ThreatSources

/-! ## Dynamic defense -/

namespace DynamicDefense

/-- A number that fits the column is read back. -/
theorem optionalInt32ToU32_of_stored {label : String} {value : Option U32} {stored : Option Int32}
    (h : optionalU32ToInt32 label value = .ok stored) (name : String) :
    optionalInt32ToU32 name stored = .ok value := by
  cases value with
  | none =>
      cases h
      rfl
  | some value =>
      rw [optionalU32ToInt32] at h
      split at h
      · rename_i hbound
        cases h
        have hint : (Int32.ofNat value.toNat).toInt = value.toNat := by
          rw [Int32.toInt_ofNat_of_lt hbound]
        rw [optionalInt32ToU32, int32ToU32, hint, if_pos (by omega)]
        rw [BitVec.ofInt_natCast, BitVec.ofNat_toNat, BitVec.setWidth_eq]
        rfl
      · cases h

theorem parse_of_row {data : DynamicDefensePolicy} {row : DynamicDefenseRow}
    (h : dynamicDefenseRow data = .ok row) : parseDynamicDefense row = .ok data := by
  obtain ⟨ipPacketsPerSecond, hip, h⟩ := bind_ok_iff.mp h
  obtain ⟨ipBurst, hipBurst, h⟩ := bind_ok_iff.mp h
  obtain ⟨floodPacketsPerSecond, hflood, h⟩ := bind_ok_iff.mp h
  obtain ⟨floodBurst, hfloodBurst, h⟩ := bind_ok_iff.mp h
  obtain ⟨floodBlockSeconds, hblock, h⟩ := bind_ok_iff.mp h
  cases h
  refine bind_ok_iff.mpr ⟨_, optionalInt32ToU32_of_stored hip _, ?_⟩
  refine bind_ok_iff.mpr ⟨_, optionalInt32ToU32_of_stored hipBurst _, ?_⟩
  refine bind_ok_iff.mpr ⟨_, optionalInt32ToU32_of_stored hflood _, ?_⟩
  refine bind_ok_iff.mpr ⟨_, optionalInt32ToU32_of_stored hfloodBurst _, ?_⟩
  exact bind_ok_iff.mpr ⟨_, optionalInt32ToU32_of_stored hblock _, rfl⟩

theorem policyName_of_row {data : DynamicDefensePolicy} {row : DynamicDefenseRow}
    (h : dynamicDefenseRow data = .ok row) : row.policyName = defaultPolicyName := by
  obtain ⟨_, -, h⟩ := bind_ok_iff.mp h
  obtain ⟨_, -, h⟩ := bind_ok_iff.mp h
  obtain ⟨_, -, h⟩ := bind_ok_iff.mp h
  obtain ⟨_, -, h⟩ := bind_ok_iff.mp h
  obtain ⟨_, -, h⟩ := bind_ok_iff.mp h
  cases h
  rfl

/-- The row of the policy is there once, and it is what has been written. -/
theorem endsOk_writeRow (env : ApiEnv) {s : TxnState} (hschema : Schema s.db) {row : DynamicDefenseRow}
    (hname : row.policyName = defaultPolicyName)
    (hrow : ∃ policy, parseDynamicDefense row = .ok policy ∧
      validateDynamicDefensePolicy policy = .ok ()) :
    EndsOk (writeRow row) s fun _ t => Writes env s t true := by
  refine Ends.modify ?_
  refine
    { schema := { hschema with dynamicDefense := ?_ }
      readable := fun _ hreadable => { hreadable with dynamicDefense := ?_ }
      policyVersions := rfl
      quiet := nofun
      loud := fun _ => List.mem_cons_self
      grows := fun _ => List.mem_cons_of_mem _ }
  · cases hany : s.db.dynamicDefense.any fun old => old.policyName = defaultPolicyName with
    | true =>
        simp only [if_true]
        refine hschema.dynamicDefense.map fun a _ b _ => ?_
        have hsame (old : DynamicDefenseRow) :
            (if old.policyName = defaultPolicyName then row else old).policyName =
              old.policyName := by
          split
          · rename_i hold
            exact hname.trans hold.symm
          · rfl
        simp only [sameDynamicDefense, hsame]
    | false =>
        simp only [Bool.false_eq_true, if_false]
        refine hschema.dynamicDefense.append fun old hold => ?_
        have hother := List.any_eq_false.mp hany old hold
        simpa [sameDynamicDefense, hname] using hother
  · intro other hother
    dsimp only at hother
    split at hother
    · obtain ⟨old, hold, rfl⟩ := List.mem_map.mp hother
      split
      · exact hrow
      · exact hreadable.dynamicDefense old hold
    · rcases List.mem_append.mp hother with hold | hnew
      · exact hreadable.dynamicDefense other hold
      · rw [List.mem_singleton.mp hnew]
        exact hrow

theorem writeOk_update (hschema : Schema db) (request : UpdateDynamicDefenseRequest) :
    WriteOk env db (update env db request) := by
  refine writeOk_respond hschema (EndsOk.lift fun data _ => EndsOk.lift fun _ hvalid => ?_)
  refine EndsOk.findRow (EndsOk.lift fun existing _ => ?_)
  split
  · exact Ends.pure (Writes.refl hschema)
  · refine EndsOk.lift fun row hrow => ?_
    have hrow := fromAnyhow_ok_iff.mp hrow
    refine (endsOk_writeRow env hschema (policyName_of_row hrow)
      ⟨data, parse_of_row hrow, fromAnyhow_ok_iff.mp hvalid⟩).bind fun _ t hwrites => ?_
    exact endsOk_raise hwrites

end DynamicDefense

/-! ## Temporary bans -/

namespace TempBans

theorem endsOk_insertBan {request : CreateTempBanRequest} {input : TempBanInput}
    (h : fromAnyhow (tempBanInput env request) = .ok input) {s : TxnState}
    (hschema : Schema s.db) :
    EndsOk (insertBan env input) s fun created t =>
      created.activeChanged = true ∧ Writes env s t created.activeChanged :=
  (endsOk_insert hschema fun hfaithful =>
    rowOk_of_input hfaithful (fromAnyhow_ok_iff.mp h)).bind
      fun _ _ hwrites => Ends.pure ⟨rfl, hwrites⟩

theorem writeOk_create (hschema : Schema db) (request : CreateTempBanRequest) :
    WriteOk env db (create env db request) := by
  refine writeOk_respond hschema (EndsOk.lift fun _ _ => EndsOk.lift fun input hinput => ?_)
  refine (endsOk_insertBan hinput hschema).bind fun created t hcreated => ?_
  obtain ⟨hactive, hwrites⟩ := hcreated
  rw [hactive] at hwrites
  exact endsOk_raise hwrites

/-- A batch is not empty, so that a ban is written. -/
theorem endsOk_insertBans {inputs : List TempBanInput} (hne : inputs ≠ [])
    (hinputs : ∀ input ∈ inputs, ∃ request, fromAnyhow (tempBanInput env request) = .ok input)
    {s : TxnState} (hschema : Schema s.db) :
    EndsOk (createRows (insertBan env) inputs (CreateRows.empty TempBanRow)) s
      fun _ t => Writes env s t true := by
  cases inputs with
  | nil => exact absurd rfl hne
  | cons input rest =>
      obtain ⟨request, hrequest⟩ := hinputs input List.mem_cons_self
      refine (endsOk_insertBan hrequest hschema).bind fun created t hcreated => ?_
      obtain ⟨hactive, hwrites⟩ := hcreated
      have hpush : Writes env s t ((CreateRows.empty TempBanRow).push created).activeChanged := hwrites
      have hcreate : ∀ input ∈ rest, CreateOk env (insertBan env input) := by
        intro input hinput u hu
        obtain ⟨request, hrequest⟩ := hinputs input (List.mem_cons_of_mem _ hinput)
        exact (endsOk_insertBan hrequest hu).mono (fun _ _ h => h.2) fun _ _ => id
      refine (endsOk_createRows hcreate hpush).mono (fun after u hafter => ?_) fun _ _ => id
      rw [← hafter.1 hactive]
      exact hafter.2

theorem writeOk_createBatch (hschema : Schema db) (items : List CreateTempBanRequest) :
    WriteOk env db (createBatch env db items) := by
  refine writeOk_respond hschema (EndsOk.lift fun _ hlen => EndsOk.lift fun _ _ =>
    EndsOk.lift fun models hmodels => ?_)
  have hcount := (forall₂_of_mapM_ok hmodels).length_eq
  have hne : models ≠ [] := by
    rintro rfl
    rw [hcount] at hlen
    cases hlen
  refine (endsOk_insertBans hne (fun input hinput => ?_) hschema).bind fun _ t hwrites =>
    endsOk_raise hwrites
  obtain ⟨request, -, hrequest⟩ := mem_of_mapM_ok hmodels hinput
  exact ⟨request, hrequest⟩

/-- Each ban that is deleted was in force. -/
theorem any_enabled_of_length {rows : List TempBanRow} (h : rows.length ≠ 0) :
    rows.any tempBanTable.enabled = true := by
  cases rows with
  | nil => exact absurd rfl h
  | cons row rest => rfl

theorem writeOk_deleteById (hschema : Schema db) (id : Int32) :
    WriteOk env db (deleteById env db id) := by
  refine writeOk_respond hschema ?_
  refine (endsOk_delete env hschema).bind fun deleted t hdeleted => EndsOk.lift fun _ hsome => ?_
  obtain ⟨hcount, -, hwrites⟩ := hdeleted
  have hne : deleted ≠ 0 := by
    intro hzero
    rw [if_pos hzero] at hsome
    cases hsome
  rw [any_enabled_of_length (hcount ▸ hne)] at hwrites
  exact endsOk_raise hwrites

theorem ne_nil_of_validateBatchIds {ids unique : List Int32}
    (h : validateBatchIds ids = .ok unique) : unique ≠ [] := by
  cases ids with
  | nil => cases h
  | cons id rest =>
      rw [validateBatchIds, if_neg (by simp)] at h
      split at h
      · cases h
      · rw [uniqueIds] at h
        split at h
        · cases h
        · cases h
          rw [List.eraseDups_cons]
          exact List.cons_ne_nil _ _

theorem writeOk_deleteBatch (hschema : Schema db) (ids : List Int32) :
    WriteOk env db (deleteBatch env db ids) := by
  refine writeOk_respond hschema (EndsOk.lift fun unique hunique => ?_)
  refine (endsOk_delete env hschema).bind fun deleted t hdeleted => EndsOk.lift fun _ hall => ?_
  obtain ⟨hcount, -, hwrites⟩ := hdeleted
  have hdeleted : deleted = unique.length := by
    rw [ensureAllIdsDeleted] at hall
    split at hall
    · assumption
    · cases hall
  have hne : deleted ≠ 0 := by
    rw [hdeleted]
    exact fun hzero => ne_nil_of_validateBatchIds hunique (List.length_eq_zero_iff.mp hzero)
  rw [any_enabled_of_length (hcount ▸ hne)] at hwrites
  exact endsOk_raise hwrites

end TempBans

/-! ## Trusted networks -/

namespace TrustedCidrs

/-- What the handler says has changed is what has been in force before or is afterwards. -/
theorem activeChanged_eq {row : TrustedCidrRow} {enabled : Bool} {comment : Option String}
    (h : ¬ (row.enabled = enabled ∧ row.comment = comment)) :
    activeChanged row enabled comment = (row.enabled || enabled) := by
  by_cases hsame : row.enabled = enabled
  · have hcomment : row.comment ≠ comment := fun hcomment => h ⟨hsame, hcomment⟩
    simp [activeChanged, hsame, hcomment]
  · rw [activeChanged, if_pos hsame]
    cases hrow : row.enabled <;> cases enabled <;> simp_all

theorem createOk_upsert (request : CreateTrustedCidrRequest) : CreateOk env (upsert env request) := by
  intro s hschema
  refine EndsOk.lift fun input hinput => EndsOk.select ?_
  cases hfound : ((trustedCidrTable.rows s.db).filter
      (trustedCidrTable.selects fun row => row.cidr = input.cidr)).head? with
  | none =>
      exact endsOk_created hschema fun hfaithful =>
        rowOk_of_input hfaithful (fromAnyhow_ok_iff.mp hinput)
  | some existing =>
      have hmem : existing ∈ trustedCidrTable.rows s.db :=
        List.mem_of_mem_filter (List.mem_of_mem_head? hfound)
      dsimp only
      split
      · exact Ends.pure (Writes.refl hschema)
      · rename_i hdiffers
        let new : TrustedCidrRow :=
          { existing with
            enabled := input.enabled
            comment := input.comment }
        have hrow : trustedCidrTable.RowOk env.text existing →
            trustedCidrTable.RowOk env.text new := by
          rintro ⟨trusted, htrusted⟩
          obtain ⟨net, hnet, -⟩ := bind_ok_iff.mp htrusted
          exact exists_bind_ok hnet ⟨_, rfl⟩
        refine (@endsOk_update _ trustedCidrTable env s existing new hschema hmem (fun _ => rfl)
          hrow).bind fun _ t hwrites => Ends.pure ?_
        rw [activeChanged_eq hdiffers]
        exact hwrites

theorem writeOk_create (hschema : Schema db) (request : CreateTrustedCidrRequest) :
    WriteOk env db (create env db request) :=
  Api.writeOk_create hschema fun input _ => createOk_upsert input

theorem writeOk_createBatch (hschema : Schema db) (items : List CreateTrustedCidrRequest) :
    WriteOk env db (createBatch env db items) :=
  Api.writeOk_createBatch hschema fun _ _ input _ => createOk_upsert input

theorem writeOk_deleteByQuery (hschema : Schema db) (cidr : String) :
    WriteOk env db (deleteByQuery env db cidr) := by
  refine writeOk_respond hschema (EndsOk.lift fun cidr _ => EndsOk.select
    (EndsOk.lift fun _ _ => ?_))
  refine (endsOk_deleteTargets env hschema rfl).bind fun deleted t hwrites =>
    EndsOk.lift fun _ _ => ?_
  exact endsOk_answer hwrites

end TrustedCidrs

end Api
end XdpFirewall
