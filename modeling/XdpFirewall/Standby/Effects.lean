import Mathlib.Data.List.Sublists
import XdpFirewall.Api.Writers
import XdpFirewall.Standby.ReadOnly

/-!
# Effects — what the statements of a path do to the tables

The paths of the control plane are listed with the kinds of statements that they execute. Here each
kind has an effect on the tables, and every writer that is modelled with its tables does what the
kinds of its path can do. Without a statement that writes the tables stay as they are.
-/

namespace XdpFirewall
namespace Standby

open Lib Policy ControlPlane Intelligence Api

/-! ## Statements on tables -/

/-- One relation at every table. -/
structure EachTable (r : ∀ {Row : Type}, List Row → List Row → Prop) (t t' : GeoTables) : Prop where
  catalog : r t.catalog t'.catalog
  states : r t.states t'.states
  policyVersions : r t.db.policyVersions t'.db.policyVersions
  firewallRules : r t.db.firewallRules t'.db.firewallRules
  geoCountries : r t.db.geoCountries t'.db.geoCountries
  geoIpPrefixes : r t.db.geoIpPrefixes t'.db.geoIpPrefixes
  threatSources : r t.db.threatSources t'.db.threatSources
  threatSourceStates : r t.db.threatSourceStates t'.db.threatSourceStates
  threatPrefixes : r t.db.threatPrefixes t'.db.threatPrefixes
  dynamicDefense : r t.db.dynamicDefense t'.db.dynamicDefense
  dynamicRateLimits : r t.db.dynamicRateLimits t'.db.dynamicRateLimits
  tempBans : r t.db.tempBans t'.db.tempBans
  trustedCidrs : r t.db.trustedCidrs t'.db.trustedCidrs

/-- The rows are still there, and others besides. -/
def Inserted {Row : Type} (rows rows' : List Row) : Prop :=
  rows.Sublist rows'

/-- Rows have other values, and none has come or gone. -/
def Updated {Row : Type} (rows rows' : List Row) : Prop :=
  ∃ f : Row → Row, rows' = rows.map f

def Deleted {Row : Type} (rows rows' : List Row) : Prop :=
  rows'.Sublist rows

/-- What a statement of the kind can do. -/
def Sql.Does : Sql → GeoTables → GeoTables → Prop
  | .select, t, t' => t' = t
  | .insert, t, t' => EachTable Inserted t t'
  | .update, t, t' => EachTable Updated t t'
  | .delete, t, t' => EachTable Deleted t t'
  | .schema, _, _ => True

/-- From `t` the statements, one after the other, can lead to `t'`. -/
def Effect : List Sql → GeoTables → GeoTables → Prop
  | [], t, t' => t' = t
  | sql :: rest, t, t' => ∃ mid, sql.Does t mid ∧ Effect rest mid t'

/-- Some statements of the kinds do it. -/
def Ran (kinds : List Sql) (t t' : GeoTables) : Prop :=
  ∃ ran, among kinds ran = true ∧ Effect ran t t'

section Effects

variable {r : ∀ {Row : Type}, List Row → List Row → Prop} {kinds : List Sql} {t t' t'' : GeoTables}

theorem EachTable.refl (hr : ∀ {Row : Type} (rows : List Row), r rows rows) (t : GeoTables) :
    EachTable r t t :=
  ⟨hr _, hr _, hr _, hr _, hr _, hr _, hr _, hr _, hr _, hr _, hr _, hr _, hr _⟩

theorem inserted_refl {Row : Type} (rows : List Row) : Inserted rows rows :=
  List.Sublist.refl rows

theorem updated_refl {Row : Type} (rows : List Row) : Updated rows rows :=
  ⟨id, rows.map_id.symm⟩

theorem deleted_refl {Row : Type} (rows : List Row) : Deleted rows rows :=
  List.Sublist.refl rows

theorem inserted_append {Row : Type} (rows : List Row) (row : Row) :
    Inserted rows (rows ++ [row]) :=
  List.sublist_append_left rows [row]

theorem Effect.append {ran ran' : List Sql} (h : Effect ran t t') (h' : Effect ran' t' t'') :
    Effect (ran ++ ran') t t'' := by
  induction ran generalizing t with
  | nil =>
      rw [show t' = t from h] at h'
      exact h'
  | cons sql rest ih =>
      obtain ⟨mid, hdoes, hrest⟩ := h
      exact ⟨mid, hdoes, ih hrest⟩

theorem Ran.refl (kinds : List Sql) (t : GeoTables) : Ran kinds t t :=
  ⟨[], rfl, rfl⟩

theorem Ran.trans (h : Ran kinds t t') (h' : Ran kinds t' t'') : Ran kinds t t'' := by
  obtain ⟨ran, hamong, heffect⟩ := h
  obtain ⟨ran', hamong', heffect'⟩ := h'
  refine ⟨ran ++ ran', ?_, heffect.append heffect'⟩
  rw [among, List.all_append, Bool.and_eq_true]
  exact ⟨hamong, hamong'⟩

theorem Ran.single {sql : Sql} (hsql : sql ∈ kinds) (h : sql.Does t t') : Ran kinds t t' := by
  refine ⟨[sql], ?_, t', h, rfl⟩
  rw [among, List.all_cons, List.all_nil, Bool.and_true]
  exact List.contains_iff_mem.mpr hsql

theorem ran_foldl {Row : Type} {store : GeoTables → Row → GeoTables}
    (hstore : ∀ t row, Ran kinds t (store t row)) (rows : List Row) (t : GeoTables) :
    Ran kinds t (rows.foldl store t) := by
  induction rows generalizing t with
  | nil => exact Ran.refl kinds t
  | cons row rest ih => exact (hstore t row).trans (ih (store t row))

/-- Queries leave the tables as they are. -/
theorem unchanged_of_readsOnly {executed : List Sql} (hreads : ReadsOnly executed)
    (h : Effect executed t t') : t' = t := by
  induction executed generalizing t with
  | nil => exact h
  | cons sql rest ih =>
      obtain ⟨mid, hdoes, hrest⟩ := h
      obtain ⟨hsql, hreads⟩ := List.forall_mem_cons.mp hreads
      have hmid : mid = t := by
        cases sql with
        | select => exact hdoes
        | insert | update | delete | schema => cases hsql
      rw [← hmid]
      exact ih hreads hrest

end Effects

/-! ## Transactions -/

/-- A statement on the table leaves the rows of the others as they are. -/
class OwnTable {Row : Type} (table : RowTable Row) : Prop where
  each : ∀ (r : ∀ {Row : Type}, List Row → List Row → Prop),
    (∀ {Row : Type} (rows : List Row), r rows rows) → ∀ (t : GeoTables) (rows : List Row),
      r (table.rows t.db) rows → EachTable r t { t with db := table.withRows t.db rows }

instance : OwnTable firewallRuleTable where
  each _ hr t _ h := { EachTable.refl hr t with firewallRules := h }

instance : OwnTable geoCountryTable where
  each _ hr t _ h := { EachTable.refl hr t with geoCountries := h }

instance : OwnTable threatSourceTable where
  each _ hr t _ h := { EachTable.refl hr t with threatSources := h }

instance : OwnTable rateLimitTable where
  each _ hr t _ h := { EachTable.refl hr t with dynamicRateLimits := h }

instance : OwnTable tempBanTable where
  each _ hr t _ h := { EachTable.refl hr t with tempBans := h }

instance : OwnTable trustedCidrTable where
  each _ hr t _ h := { EachTable.refl hr t with trustedCidrs := h }

/-- When the computation ends well, statements of the kinds have done what it did. -/
def Performs {A : Type} (kinds : List Sql) (x : Transaction A) : Prop :=
  ∀ (t : GeoTables) (written : List Bool),
    EndsOk x { db := t.db, written := written } fun _ s => Ran kinds t { t with db := s.db }

section Rules

variable {A B : Type} {kinds : List Sql}

theorem performs_pure (a : A) : Performs kinds (pure a) :=
  fun t _ => Ends.pure (Ran.refl kinds t)

theorem performs_throw (e : ApiError) : Performs kinds (throw e : Transaction A) :=
  fun _ _ => Ends.throw trivial

theorem Performs.bind {x : Transaction A} {f : A → Transaction B} (hx : Performs kinds x)
    (hf : ∀ a, Performs kinds (f a)) : Performs kinds (x >>= f) := by
  intro t written
  refine (hx t written).bind fun a s hran => ?_
  have hrest := hf a { t with db := s.db } s.written
  exact hrest.mono (fun _ _ hran' => hran.trans hran') fun _ _ => id

theorem performs_liftResult (result : ApiResult A) : Performs kinds (liftResult result) := by
  intro t written
  refine (endsOk_liftResult result).mono (fun a s hsame => ?_) fun _ _ => id
  rw [hsame.2]
  exact Ran.refl kinds t

/-- A statement that changes the rows and never fails. -/
theorem performs_modify {g : TxnState → TxnState} (h : ∀ (t : GeoTables) (written : List Bool),
    Ran kinds t { t with db := (g { db := t.db, written := written }).db }) :
    Performs kinds (modify g) :=
  fun t written => Ends.modify (h t written)

theorem performs_findRow : Performs kinds DynamicDefense.findRow :=
  fun t _ => Ran.refl kinds t

theorem performs_findPolicyVersion : Performs kinds Seed.findPolicyVersion :=
  fun t _ => Ran.refl kinds t

variable {Row : Type} {table : RowTable Row}

theorem performs_select (p : Row → Bool) : Performs kinds (table.select p) :=
  fun t _ => Ran.refl kinds t

variable [OwnTable table]

theorem performs_insert (hkinds : .insert ∈ kinds) (env : ApiEnv) (refused : ApiError)
    (row : Int32 → Row) : Performs kinds (table.insert env refused row) := by
  intro t written
  refine Seed.endsOk_insert_row.mono (fun new s hnew => ?_) fun _ _ => id
  rw [hnew.2]
  exact Ran.single hkinds (OwnTable.each Inserted inserted_refl t _ (inserted_append _ _))

theorem performs_deleteMany (hkinds : .delete ∈ kinds) (p : Row → Bool) :
    Performs kinds (table.deleteMany p) :=
  fun t _ => Ran.single hkinds (OwnTable.each Deleted deleted_refl t _ List.filter_sublist)

theorem performs_delete (hkinds : .delete ∈ kinds) (p : Row → Bool) :
    Performs kinds (table.delete p) :=
  performs_deleteMany hkinds _

theorem performs_update (hkinds : .update ∈ kinds) (old new : Row) :
    Performs kinds (table.update old new) := by
  intro t written
  -- A row that has gone since it was read makes the statement fail.
  by_cases hany : (table.rows t.db).any (fun row => table.id row = table.id old) = true
  · refine ends_of_ok (if_pos hany) ?_
    exact Ran.single hkinds (OwnTable.each Updated updated_refl t _ ⟨_, rfl⟩)
  · exact ends_of_error (if_neg hany) trivial

end Rules

/-! ## The version -/

section Version

variable {A : Type} {kinds : List Sql}

/-- The row of the version is updated, or inserted when there is none. -/
theorem ran_raised (hversion : versionStatements ⊆ kinds) (t : GeoTables) :
    Ran kinds t { t with db := raised t.db } := by
  unfold raised
  split
  · refine Ran.single (hversion (by decide : Sql.update ∈ versionStatements)) ?_
    exact { EachTable.refl updated_refl t with policyVersions := ⟨_, rfl⟩ }
  · refine Ran.single (hversion (by decide : Sql.insert ∈ versionStatements)) ?_
    exact { EachTable.refl inserted_refl t with policyVersions := inserted_append _ _ }

theorem performs_nextPolicyVersion (hversion : versionStatements ⊆ kinds) :
    Performs kinds nextPolicyVersionInTransaction :=
  fun t _ => ends_of_ok run_nextPolicyVersionInTransaction (ran_raised hversion t)

theorem performs_bump (hversion : versionStatements ⊆ kinds) (active : Bool) :
    Performs kinds (bumpPolicyVersionIfActive active) := by
  cases active with
  | false => exact performs_pure none
  | true => exact fun t written => Ends.map (performs_nextPolicyVersion hversion t written)

/-- The last step of most handlers. -/
theorem performs_answer (hversion : versionStatements ⊆ kinds) (active : Bool) (data : A) :
    Performs kinds (do return (← bumpPolicyVersionIfActive active, data)) :=
  (performs_bump hversion active).bind fun _ => performs_pure _

theorem performs_raise (hversion : versionStatements ⊆ kinds) (data : A) :
    Performs kinds (do return (some (← nextPolicyVersionInTransaction), data)) :=
  (performs_nextPolicyVersion hversion).bind fun _ => performs_pure _

theorem ran_respond {env : ApiEnv} {t : GeoTables} {body : Transaction (Option Int × A)}
    (h : Performs kinds body) : Ran kinds t { t with db := (respond env t.db body).db } := by
  unfold respond
  split
  · exact Ran.refl kinds t
  · exact Ran.refl kinds t
  · next hrun => exact (h t []).of_ok hrun
  · next hrun => exact (h t []).of_ok hrun

theorem ran_commit {env : ApiEnv} {t : GeoTables} {body : Transaction A}
    (h : Performs kinds body) : Ran kinds t { t with db := (commit env t.db body).2 } := by
  unfold commit
  split
  · exact Ran.refl kinds t
  · exact Ran.refl kinds t
  · next hrun => exact (h t []).of_ok hrun

theorem ran_settle {env : ApiEnv} {t : GeoTables} {body : Transaction (Option Int × A)}
    (h : Performs kinds body) : Ran kinds t { t with db := (Seed.settle env t.db body).2 } := by
  unfold Seed.settle
  split
  · exact Ran.refl kinds t
  · exact Ran.refl kinds t
  · exact Ran.refl kinds t
  · next hrun => exact (h t []).of_ok hrun

end Version

/-! ## Requests -/

-- A handler is taken apart by the rules, never by running it.
seal Performs

section Requests

variable {Row Input : Type} {table : RowTable Row} {kinds : List Sql} {env : ApiEnv}
  {t : GeoTables}

theorem performs_created [OwnTable table] (hkinds : .insert ∈ kinds) {refused : ApiError}
    {row : Int32 → Row} :
    Performs kinds (do return table.created (← table.insert env refused row)) :=
  (performs_insert hkinds env refused row).bind fun _ => performs_pure _

theorem performs_createKeyed [OwnTable table] (hkinds : .insert ∈ kinds)
    {key matchesExisting : Row → Bool} {conflict : String} {refused : ApiError}
    {row : Int32 → Row} :
    Performs kinds (createKeyed env table key matchesExisting conflict refused row) := by
  refine (performs_select _).bind fun rows => ?_
  cases rows.head? with
  | none => exact performs_created hkinds
  | some existing =>
      dsimp only
      split
      · exact performs_pure _
      · exact performs_throw _

theorem performs_createMatching [OwnTable table] (hkinds : .insert ∈ kinds) {fields : Row → Bool}
    {several : String} {row : Int32 → Row} :
    Performs kinds (createMatching env table fields several row) := by
  refine (performs_select _).bind fun rows => ?_
  split
  · exact performs_created hkinds
  · exact performs_pure _
  · exact performs_throw _

theorem performs_createRows {createRow : Input → Transaction (RowCreate Row)}
    (hcreate : ∀ input, Performs kinds (createRow input)) (inputs : List Input)
    (summary : CreateRows Row) : Performs kinds (createRows createRow inputs summary) := by
  induction inputs generalizing summary with
  | nil => exact performs_pure summary
  | cons input rest ih => exact (hcreate input).bind fun created => ih (summary.push created)

theorem ran_create (hversion : versionStatements ⊆ kinds) {input : ApiResult Input}
    {createRow : Input → Transaction (RowCreate Row)}
    (hcreate : ∀ input, Performs kinds (createRow input)) :
    Ran kinds t { t with db := (Api.create env t.db input createRow).db } :=
  ran_respond ((performs_liftResult input).bind fun a =>
    (hcreate a).bind fun created => performs_answer hversion created.activeChanged created)

theorem ran_createBatch (hversion : versionStatements ⊆ kinds) {inputs : ApiResult (List Input)}
    {createRow : Input → Transaction (RowCreate Row)}
    (hcreate : ∀ input, Performs kinds (createRow input)) :
    Ran kinds t { t with db := (Api.createBatch env t.db inputs createRow).db } :=
  ran_respond ((performs_liftResult inputs).bind fun as =>
    (performs_createRows hcreate as _).bind fun summary =>
      performs_answer hversion summary.activeChanged summary)

theorem ran_deleteById [OwnTable table] (hversion : versionStatements ⊆ kinds)
    (hdelete : .delete ∈ kinds) {notFound : String} {cascade : List Row → Transaction Unit}
    (hcascade : ∀ rows, Performs kinds (cascade rows)) (id : Int32) :
    Ran kinds t { t with db := (Api.deleteById env t.db table notFound cascade id).db } := by
  refine ran_respond ((performs_select _).bind fun rows => ?_)
  cases rows with
  | nil => exact performs_throw _
  | cons row rest =>
      exact (performs_delete hdelete _).bind fun deleted =>
        (performs_liftResult _).bind fun _ => (hcascade [row]).bind fun _ =>
          performs_answer hversion (table.enabled row) deleted

theorem ran_deleteBatch [OwnTable table] (hversion : versionStatements ⊆ kinds)
    (hdelete : .delete ∈ kinds) {notFound : String} {cascade : List Row → Transaction Unit}
    (hcascade : ∀ rows, Performs kinds (cascade rows)) (ids : List Int32) :
    Ran kinds t { t with db := (Api.deleteBatch env t.db table notFound cascade ids).db } :=
  ran_respond ((performs_liftResult _).bind fun _ => (performs_select _).bind fun targets =>
    (performs_liftResult _).bind fun _ => (performs_delete hdelete _).bind fun deleted =>
      (performs_liftResult _).bind fun _ => (hcascade targets).bind fun _ =>
        performs_answer hversion (targets.any table.enabled) deleted)

theorem ran_deleteOnly [OwnTable table] (hversion : versionStatements ⊆ kinds)
    (hdelete : .delete ∈ kinds) {notFound several : String} {selector : ApiResult (Row → Bool)} :
    Ran kinds t { t with db := (deleteOnly env t.db table notFound several selector).db } := by
  refine ran_respond ((performs_liftResult _).bind fun p => (performs_select _).bind fun rows => ?_)
  split
  · exact performs_throw _
  · next row =>
      exact (performs_delete hdelete _).bind fun deleted =>
        (performs_liftResult _).bind fun _ => performs_answer hversion (table.enabled row) deleted
  · exact performs_throw _

theorem performs_noCascade (rows : List Row) : Performs kinds (noCascade rows) :=
  performs_pure ()

/-- The states and the prefixes of some sources go in two statements. -/
theorem ran_threatRows (hdelete : .delete ∈ kinds) (t : GeoTables) (p : ThreatSourceStateRow → Bool)
    (q : ThreatPrefixRow → Bool) :
    Ran kinds t { t with
      db :=
        { t.db with
          threatSourceStates := t.db.threatSourceStates.filter p
          threatPrefixes := t.db.threatPrefixes.filter q } } := by
  -- In between, the states have gone and the prefixes are still there.
  let mid : GeoTables :=
    { t with db := { t.db with threatSourceStates := t.db.threatSourceStates.filter p } }
  have hstates : Ran kinds t mid := Ran.single hdelete
    { EachTable.refl deleted_refl t with threatSourceStates := List.filter_sublist }
  have hprefixes : EachTable Deleted mid { mid with
      db := { mid.db with threatPrefixes := mid.db.threatPrefixes.filter q } } :=
    { EachTable.refl deleted_refl mid with threatPrefixes := List.filter_sublist }
  exact hstates.trans (Ran.single hdelete hprefixes)

theorem performs_deleteStatesByName (hdelete : .delete ∈ kinds) (names : List String) :
    Performs kinds (ThreatSources.deleteStatesByName names) :=
  performs_modify fun t _ => ran_threatRows hdelete t _ _

end Requests

section Handlers

variable {kinds : List Sql} {env : ApiEnv} {t : GeoTables}

theorem ran_deleteRules (hversion : versionStatements ⊆ kinds)
    (hdelete : .delete ∈ kinds) (request : FirewallRules.RuleBatchDeleteRequest) :
    Ran kinds t { t with db := (FirewallRules.deleteBatch env t.db request).db } :=
  ran_respond ((performs_liftResult _).bind fun _ => (performs_select _).bind fun _ =>
    (performs_liftResult _).bind fun _ => (performs_delete hdelete _).bind fun deleted =>
      (performs_liftResult _).bind fun _ => performs_answer hversion _ deleted)

theorem ran_deleteMatchingRules (hversion : versionStatements ⊆ kinds)
    (hdelete : .delete ∈ kinds) (query : FirewallRules.RuleMatchQuery) :
    Ran kinds t { t with db := (FirewallRules.deleteByQuery env t.db query).db } :=
  ran_respond ((performs_liftResult _).bind fun _ => (performs_select _).bind fun _ =>
    (performs_liftResult _).bind fun _ => (performs_deleteMany hdelete _).bind fun deleted =>
      (performs_liftResult _).bind fun _ => performs_answer hversion _ deleted)

theorem ran_updateThreatSource (hversion : versionStatements ⊆ kinds)
    (hdelete : .delete ∈ kinds) (id : Int32) (enabled : Bool) :
    Ran kinds t { t with db := (ThreatSources.update env t.db id enabled).db } := by
  refine ran_respond ((performs_select _).bind fun rows => ?_)
  cases rows.head? with
  | none => exact performs_throw _
  | some row =>
      dsimp only
      split
      · exact performs_pure _
      · refine (performs_update (hversion (by decide)) _ _).bind fun _ => ?_
        -- Only a source that is turned off loses its state and its prefixes.
        cases enabled with
        | true => exact performs_raise hversion _
        | false =>
            exact (performs_deleteStatesByName hdelete _).bind fun _ => performs_raise hversion _

theorem ran_deleteNamedThreatSource (hversion : versionStatements ⊆ kinds)
    (hdelete : .delete ∈ kinds) (name : String) :
    Ran kinds t { t with db := (ThreatSources.deleteByQuery env t.db name).db } := by
  refine ran_respond ((performs_liftResult _).bind fun _ => (performs_select _).bind fun rows => ?_)
  cases rows.head? with
  | none => exact performs_throw _
  | some row =>
      exact (performs_delete hdelete _).bind fun deleted => (performs_liftResult _).bind fun _ =>
        (performs_deleteStatesByName hdelete _).bind fun _ => performs_answer hversion _ deleted

theorem performs_writeRow (hversion : versionStatements ⊆ kinds) (row : DynamicDefenseRow) :
    Performs kinds (DynamicDefense.writeRow row) := by
  refine performs_modify fun t written => ?_
  dsimp only
  split
  · refine Ran.single (hversion (by decide : Sql.update ∈ versionStatements)) ?_
    exact { EachTable.refl updated_refl t with dynamicDefense := ⟨_, rfl⟩ }
  · refine Ran.single (hversion (by decide : Sql.insert ∈ versionStatements)) ?_
    exact { EachTable.refl inserted_refl t with dynamicDefense := inserted_append _ _ }

theorem ran_updateDynamicDefense (hversion : versionStatements ⊆ kinds)
    (request : DynamicDefense.UpdateDynamicDefenseRequest) :
    Ran kinds t { t with db := (DynamicDefense.update env t.db request).db } := by
  refine ran_respond ((performs_liftResult _).bind fun data => (performs_liftResult _).bind fun _ =>
    performs_findRow.bind fun _ => (performs_liftResult _).bind fun existing => ?_)
  split
  · exact performs_pure _
  · exact (performs_liftResult _).bind fun row => (performs_writeRow hversion row).bind fun _ =>
      performs_raise hversion data

theorem performs_insertBan (hversion : versionStatements ⊆ kinds) (input : TempBans.TempBanInput) :
    Performs kinds (TempBans.insertBan env input) :=
  performs_created (hversion (by decide))

theorem ran_createTempBan (hversion : versionStatements ⊆ kinds)
    (request : TempBans.CreateTempBanRequest) :
    Ran kinds t { t with db := (TempBans.create env t.db request).db } :=
  ran_respond ((performs_liftResult _).bind fun _ => (performs_liftResult _).bind fun input =>
    (performs_insertBan hversion input).bind fun _ => performs_raise hversion _)

theorem ran_createTempBans (hversion : versionStatements ⊆ kinds)
    (items : List TempBans.CreateTempBanRequest) :
    Ran kinds t { t with db := (TempBans.createBatch env t.db items).db } :=
  ran_respond ((performs_liftResult _).bind fun _ => (performs_liftResult _).bind fun _ =>
    (performs_liftResult _).bind fun models =>
      (performs_createRows (performs_insertBan hversion) models _).bind fun _ =>
        performs_raise hversion _)

theorem ran_deleteTempBan (hversion : versionStatements ⊆ kinds)
    (hdelete : .delete ∈ kinds) (id : Int32) :
    Ran kinds t { t with db := (TempBans.deleteById env t.db id).db } :=
  ran_respond ((performs_delete hdelete _).bind fun deleted =>
    (performs_liftResult _).bind fun _ => performs_raise hversion deleted)

theorem ran_deleteTempBans (hversion : versionStatements ⊆ kinds)
    (hdelete : .delete ∈ kinds) (ids : List Int32) :
    Ran kinds t { t with db := (TempBans.deleteBatch env t.db ids).db } :=
  ran_respond ((performs_liftResult _).bind fun _ => (performs_delete hdelete _).bind fun deleted =>
    (performs_liftResult _).bind fun _ => performs_raise hversion deleted)

theorem performs_upsert (hversion : versionStatements ⊆ kinds)
    (request : TrustedCidrs.CreateTrustedCidrRequest) :
    Performs kinds (TrustedCidrs.upsert env request) := by
  refine (performs_liftResult _).bind fun input => (performs_select _).bind fun rows => ?_
  cases rows.head? with
  | none => exact performs_created (hversion (by decide))
  | some existing =>
      dsimp only
      split
      · exact performs_pure _
      · exact (performs_update (hversion (by decide)) _ _).bind fun _ => performs_pure _

theorem ran_deleteNamedTrustedCidr (hversion : versionStatements ⊆ kinds)
    (hdelete : .delete ∈ kinds) (cidr : String) :
    Ran kinds t { t with db := (TrustedCidrs.deleteByQuery env t.db cidr).db } :=
  ran_respond ((performs_liftResult _).bind fun _ => (performs_select _).bind fun _ =>
    (performs_liftResult _).bind fun _ => (performs_delete hdelete _).bind fun deleted =>
      (performs_liftResult _).bind fun _ => performs_answer hversion _ deleted)

end Handlers

/-! ## Writers -/

/-- The handler of a request that writes. -/
def handlerOf : ApiWrite → Handler
  | .createRule _ => .create .firewallRules
  | .createRules _ => .createBatch .firewallRules
  | .deleteRule _ => .deleteById .firewallRules
  | .deleteRules _ => .deleteBatch .firewallRules
  | .deleteMatchingRules _ => .deleteByQuery .firewallRules
  | .createGeoCountry _ => .create .geoCountries
  | .createGeoCountries _ => .createBatch .geoCountries
  | .deleteGeoCountry _ => .deleteById .geoCountries
  | .deleteGeoCountries _ => .deleteBatch .geoCountries
  | .deleteMatchingGeoCountry _ => .deleteByQuery .geoCountries
  | .createThreatSource _ => .create .threatSources
  | .createThreatSources _ => .createBatch .threatSources
  | .updateThreatSource .. => .updateThreatSource
  | .deleteThreatSource _ => .deleteById .threatSources
  | .deleteThreatSources _ => .deleteBatch .threatSources
  | .deleteNamedThreatSource _ => .deleteByQuery .threatSources
  | .updateDynamicDefense _ => .updateDynamicDefense
  | .createRateLimit _ => .create .dynamicRateLimits
  | .createRateLimits _ => .createBatch .dynamicRateLimits
  | .deleteRateLimit _ => .deleteById .dynamicRateLimits
  | .deleteRateLimits _ => .deleteBatch .dynamicRateLimits
  | .deleteMatchingRateLimit _ => .deleteByQuery .dynamicRateLimits
  | .createTempBan _ => .create .tempBans
  | .createTempBans _ => .createBatch .tempBans
  | .deleteTempBan _ => .deleteById .tempBans
  | .deleteTempBans _ => .deleteBatch .tempBans
  | .createTrustedCidr _ => .create .trustedCidrs
  | .createTrustedCidrs _ => .createBatch .trustedCidrs
  | .deleteTrustedCidr _ => .deleteById .trustedCidrs
  | .deleteTrustedCidrs _ => .deleteBatch .trustedCidrs
  | .deleteNamedTrustedCidr _ => .deleteByQuery .trustedCidrs

/-- The kinds of statements of the path that a writer is on. -/
def writeStatements : PolicyWrite → List Sql
  | .request _ write => (handlerOf write).statements
  | .bumpVersion _ => Handler.bumpPolicyVersion.statements
  | .start _ => ensureBuiltinPolicyPart.kinds
  | .seedExample _ => Handler.seedExamplePolicy.statements
  | .cleanup _ => cleanupStatements
  | .storeThreats .. => BackgroundLoop.threatRefresh.statements
  | .storeGeo .. | .touchGeo .. | .storeCatalog _ => BackgroundLoop.geoRefresh.statements

section Writers

variable {kinds : List Sql} {env : ApiEnv} {t : GeoTables}

theorem versionStatements_subset_handler (write : ApiWrite) :
    versionStatements ⊆ (handlerOf write).statements := by
  cases write <;> simp only [handlerOf] <;> decide

theorem ran_request (env : ApiEnv) (write : ApiWrite) (t : GeoTables) :
    Ran (handlerOf write).statements t { t with db := (write.run env t.db).db } := by
  have hversion := versionStatements_subset_handler write
  have hinsert : Sql.insert ∈ (handlerOf write).statements := hversion (by decide)
  -- A handler that deletes has `delete` as the first of its kinds.
  cases write with
  | createRule => exact ran_create hversion fun _ => performs_createKeyed hinsert
  | createRules => exact ran_createBatch hversion fun _ => performs_createKeyed hinsert
  | deleteRule => exact ran_deleteById hversion List.mem_cons_self performs_noCascade _
  | deleteRules => exact ran_deleteRules hversion List.mem_cons_self _
  | deleteMatchingRules => exact ran_deleteMatchingRules hversion List.mem_cons_self _
  | createGeoCountry => exact ran_create hversion fun _ => performs_createMatching hinsert
  | createGeoCountries => exact ran_createBatch hversion fun _ => performs_createMatching hinsert
  | deleteGeoCountry => exact ran_deleteById hversion List.mem_cons_self performs_noCascade _
  | deleteGeoCountries => exact ran_deleteBatch hversion List.mem_cons_self performs_noCascade _
  | deleteMatchingGeoCountry => exact ran_deleteOnly hversion List.mem_cons_self
  | createThreatSource => exact ran_create hversion fun _ => performs_createKeyed hinsert
  | createThreatSources => exact ran_createBatch hversion fun _ => performs_createKeyed hinsert
  | updateThreatSource =>
      exact ran_updateThreatSource hversion (by decide : Sql.delete ∈ refreshStatements) _ _
  | deleteThreatSource =>
      exact ran_deleteById hversion List.mem_cons_self
        (fun _ => performs_deleteStatesByName List.mem_cons_self _) _
  | deleteThreatSources =>
      exact ran_deleteBatch hversion List.mem_cons_self
        (fun _ => performs_deleteStatesByName List.mem_cons_self _) _
  | deleteNamedThreatSource => exact ran_deleteNamedThreatSource hversion List.mem_cons_self _
  | updateDynamicDefense => exact ran_updateDynamicDefense hversion _
  | createRateLimit => exact ran_create hversion fun _ => performs_createMatching hinsert
  | createRateLimits => exact ran_createBatch hversion fun _ => performs_createMatching hinsert
  | deleteRateLimit => exact ran_deleteById hversion List.mem_cons_self performs_noCascade _
  | deleteRateLimits => exact ran_deleteBatch hversion List.mem_cons_self performs_noCascade _
  | deleteMatchingRateLimit => exact ran_deleteOnly hversion List.mem_cons_self
  | createTempBan => exact ran_createTempBan hversion _
  | createTempBans => exact ran_createTempBans hversion _
  | deleteTempBan => exact ran_deleteTempBan hversion List.mem_cons_self _
  | deleteTempBans => exact ran_deleteTempBans hversion List.mem_cons_self _
  | createTrustedCidr => exact ran_create hversion (performs_upsert hversion)
  | createTrustedCidrs => exact ran_createBatch hversion (performs_upsert hversion)
  | deleteTrustedCidr => exact ran_deleteById hversion List.mem_cons_self performs_noCascade _
  | deleteTrustedCidrs => exact ran_deleteBatch hversion List.mem_cons_self performs_noCascade _
  | deleteNamedTrustedCidr => exact ran_deleteNamedTrustedCidr hversion List.mem_cons_self _

theorem ran_bumpPolicyVersion (hversion : versionStatements ⊆ kinds) :
    Ran kinds t { t with db := (bumpPolicyVersion env t.db).2 } := by
  have hcommit : Ran kinds t { t with db :=
      (commit env t.db nextPolicyVersionInTransaction).2 } :=
    ran_commit (performs_nextPolicyVersion hversion)
  unfold bumpPolicyVersion
  split
  · next hrun =>
      rw [hrun] at hcommit
      exact hcommit
  · next hrun =>
      rw [hrun] at hcommit
      exact hcommit

/-! ### The start and the example -/

theorem performs_insertMissingSources (hversion : versionStatements ⊆ kinds)
    (existingNames : List String) (sources : List Seed.BuiltinThreatSource) :
    Performs kinds (Seed.insertMissingSources env existingNames sources) := by
  have hinsert : Sql.insert ∈ kinds := hversion (by decide)
  induction sources with
  | nil => exact performs_pure 0
  | cons source rest ih =>
      rw [Seed.insertMissingSources]
      split
      · exact ih
      · refine Performs.bind ?_ fun _ => ih.bind fun _ => performs_pure _
        refine (performs_select _).bind fun rows => ?_
        split
        · exact (performs_insert hinsert _ _ _).bind fun _ => performs_pure ()
        · exact performs_pure ()

theorem performs_insertBuiltinThreatSources (hversion : versionStatements ⊆ kinds) :
    Performs kinds (Seed.insertBuiltinThreatSources env) :=
  (performs_select _).bind fun _ => performs_insertMissingSources hversion _ _

theorem performs_ensureDefaultDynamicDefenseExists (hversion : versionStatements ⊆ kinds) :
    Performs kinds Seed.ensureDefaultDynamicDefenseExists := by
  refine performs_findRow.bind fun row => ?_
  cases row with
  | some _ => exact performs_pure ()
  | none => exact (performs_liftResult _).bind fun row => performs_writeRow hversion row

theorem ran_ensureBuiltinPolicy (hversion : versionStatements ⊆ kinds) :
    Ran kinds t { t with db := (Seed.ensureBuiltinPolicy env t.db).2 } := by
  refine ran_settle (performs_findPolicyVersion.bind fun row => ?_)
  -- A policy that is there gets the sources that it lacks, a new one its defense as well.
  cases row with
  | some _ =>
      refine (performs_insertBuiltinThreatSources hversion).bind fun inserted => ?_
      split
      · exact performs_raise hversion inserted
      · exact performs_pure _
  | none =>
      exact (performs_ensureDefaultDynamicDefenseExists hversion).bind fun _ =>
        (performs_insertBuiltinThreatSources hversion).bind fun inserted =>
          performs_raise hversion inserted

theorem performs_clearExamplePolicyData (hdelete : .delete ∈ kinds) :
    Performs kinds Seed.clearExamplePolicyData :=
  (performs_delete hdelete _).bind fun _ => (performs_delete hdelete _).bind fun _ =>
    (performs_delete hdelete _).bind fun _ =>
      performs_modify fun t _ => ran_threatRows hdelete t _ _

theorem ran_seedExamplePolicy (hversion : versionStatements ⊆ kinds) (hdelete : .delete ∈ kinds) :
    Ran kinds t { t with db := (Seed.seedExamplePolicy env t.db).2 } := by
  have hinsert : Sql.insert ∈ kinds := hversion (by decide)
  -- The old policy goes in the same transaction in which the example comes.
  exact ran_settle ((performs_clearExamplePolicyData hdelete).bind fun _ =>
    (performs_insert hinsert _ _ _).bind fun _ => (performs_insert hinsert _ _ _).bind fun _ =>
      (performs_insert hinsert _ _ _).bind fun _ =>
        (performs_ensureDefaultDynamicDefenseExists hversion).bind fun _ =>
          (performs_insertBuiltinThreatSources hversion).bind fun _ => performs_raise hversion ())

theorem ran_cleanup (hversion : versionStatements ⊆ kinds) (hdelete : .delete ∈ kinds) :
    Ran kinds t { t with db := (cleanupExpiredTempBans env t.db).2 } :=
  ran_commit ((performs_delete hdelete _).bind fun _ =>
    (performs_bump hversion _).bind fun _ => performs_pure _)

/-! ### Refreshes -/

theorem ran_storePrefixRow (hinsert : .insert ∈ kinds) (hdelete : .delete ∈ kinds)
    (jsonStrings : List String → String) (t : GeoTables) (row : SourcePrefixRow) :
    Ran kinds t { t with db := storePrefixRow env jsonStrings t.db row } := by
  let mid : GeoTables :=
    { t with
      db :=
        { t.db with
          threatPrefixes := t.db.threatPrefixes.filter fun old =>
            ¬ (old.policyName = defaultPolicyName ∧ old.sourceName = row.sourceName) } }
  have hgone : Ran kinds t mid := Ran.single hdelete
    { EachTable.refl deleted_refl t with threatPrefixes := List.filter_sublist }
  refine hgone.trans (Ran.single hinsert ?_)
  exact { EachTable.refl inserted_refl mid with threatPrefixes := inserted_append _ _ }

theorem ran_storeStateRow (hinsert : .insert ∈ kinds) (t : GeoTables) (row : SourceStateRow) :
    Ran kinds t { t with db := storeStateRow env t.db row } := by
  unfold storeStateRow
  split
  · exact Ran.refl kinds t
  · refine Ran.single hinsert ?_
    exact { EachTable.refl inserted_refl t with threatSourceStates := inserted_append _ _ }

theorem ran_storeRows {Row : Type} {store : PolicyDb → Row → PolicyDb}
    (hstore : ∀ (t : GeoTables) row, Ran kinds t { t with db := store t.db row })
    (rows : List Row) (t : GeoTables) : Ran kinds t { t with db := rows.foldl store t.db } := by
  induction rows generalizing t with
  | nil => exact Ran.refl kinds t
  | cons row rest ih => exact (hstore t row).trans (ih { t with db := store t.db row })

theorem ran_storeThreatBatch (hversion : versionStatements ⊆ kinds) (hdelete : .delete ∈ kinds)
    (jsonStrings : List String → String) (batch : ThreatRefreshBatch) :
    Ran kinds t { t with db := storeThreatBatch env jsonStrings batch t.db } := by
  have hinsert : Sql.insert ∈ kinds := hversion (by decide)
  have hprefixes := ran_storeRows (@ran_storePrefixRow kinds env hinsert hdelete jsonStrings)
    batch.changedPrefixesBySource t
  have hstates := ran_storeRows (@ran_storeStateRow kinds env hinsert) batch.states
    { t with
      db := batch.changedPrefixesBySource.foldl (storePrefixRow env jsonStrings) t.db }
  have hstored := hprefixes.trans hstates
  unfold storeThreatBatch
  dsimp only
  split
  · exact hstored.trans (ran_raised hversion _)
  · exact hstored

theorem upserted {Row K : Type} [DecidableEq K] (key : Row → K) (row : Row) (rows : List Row) :
    Updated rows (upsertRow key row rows) ∨ Inserted rows (upsertRow key row rows) := by
  unfold upsertRow
  split
  · exact .inl ⟨_, rfl⟩
  · exact .inr (inserted_append rows row)

theorem ran_storePrefixes (hversion : versionStatements ⊆ kinds) (hdelete : .delete ∈ kinds)
    (catalog : GeoCountryCatalogRow) (existing : Option GeoIpListStateRow)
    (metadata : IpdenyMetadata) (prefixes : List GeoPrefix) (now : Timestamp) (id : Int32)
    (changed : Bool) :
    Ran kinds t (t.storePrefixes catalog existing metadata prefixes now id changed) := by
  have hinsert : Sql.insert ∈ kinds := hversion (by decide)
  have hupdate : Sql.update ∈ kinds := hversion (by decide)
  let row : GeoIpListStateRow :=
    { country := catalog.code
      url := metadata.url
      lastModified := metadata.lastModified
      etag := metadata.etag
      prefixCount := prefixes.length
      lastCheckedAt := now
      lastDownloadedAt := some now
      updatedAt := if changed then now else
        (existing.map GeoIpListStateRow.updatedAt).getD now }
  let stated : GeoTables :=
    { t with states := upsertRow GeoIpListStateRow.country row t.states }
  have hstated : Ran kinds t stated := by
    rcases upserted GeoIpListStateRow.country row t.states with hrow | hrow
    · exact Ran.single hupdate { EachTable.refl updated_refl t with states := hrow }
    · exact Ran.single hinsert { EachTable.refl inserted_refl t with states := hrow }
  -- A list that has not changed keeps its row, and the version stays.
  cases changed with
  | false => exact hstated
  | true =>
      let kept : GeoTables :=
        { stated with
          db :=
            { t.db with
              geoIpPrefixes := t.db.geoIpPrefixes.filter fun old => old.country ≠ catalog.code } }
      have hgone : Ran kinds stated kept := Ran.single hdelete
        { EachTable.refl deleted_refl stated with geoIpPrefixes := List.filter_sublist }
      let listed : GeoTables :=
        { stated with
          db :=
            { t.db with
              geoIpPrefixes := replaceRow GeoIpPrefixRow.country
                { id := id
                  country := catalog.code
                  cidrsJson := geoCidrsJson prefixes }
                t.db.geoIpPrefixes } }
      have hlisted : Ran kinds kept listed := Ran.single hinsert
        { EachTable.refl inserted_refl kept with geoIpPrefixes := inserted_append _ _ }
      exact hstated.trans (hgone.trans (hlisted.trans (ran_raised hversion listed)))

theorem ran_touch (hupdate : .update ∈ kinds) (existing : Option GeoIpListStateRow)
    (metadata : IpdenyMetadata) (now : Timestamp) :
    Ran kinds t (t.touch existing metadata now) := by
  -- A country without a state is not touched.
  cases existing with
  | none => exact Ran.refl kinds t
  | some existing =>
      exact Ran.single hupdate { EachTable.refl updated_refl t with states := ⟨_, rfl⟩ }

theorem ran_upsertCatalog (hinsert : .insert ∈ kinds) (hupdate : .update ∈ kinds)
    (entries : List IpdenyIndexEntry) : Ran kinds t (t.upsertCatalog entries) := by
  refine ran_foldl (fun t entry => ?_) entries t
  rcases upserted GeoCountryCatalogRow.code entry.row t.catalog with hrow | hrow
  · exact Ran.single hupdate { EachTable.refl updated_refl t with catalog := hrow }
  · exact Ran.single hinsert { EachTable.refl inserted_refl t with catalog := hrow }

end Writers

/-- Whatever the tables are, a writer does to them what the statements of its path can do. -/
theorem ran_write (write : PolicyWrite) (t : GeoTables) :
    Ran (writeStatements write) t (write.run t) := by
  have hversion : versionStatements ⊆ refreshStatements := by decide
  have hdelete : Sql.delete ∈ refreshStatements := by decide
  cases write with
  | request env write => exact ran_request env write t
  | bumpVersion env => exact ran_bumpPolicyVersion (List.Subset.refl versionStatements)
  | start env =>
      exact ran_ensureBuiltinPolicy (by decide : versionStatements ⊆ ensureBuiltinPolicyPart.kinds)
  | seedExample env =>
      exact ran_seedExamplePolicy
        (by decide : versionStatements ⊆ Handler.seedExamplePolicy.statements)
        (by decide : Sql.delete ∈ Handler.seedExamplePolicy.statements)
  | cleanup env =>
      exact ran_cleanup (List.subset_cons_self Sql.delete versionStatements) List.mem_cons_self
  | storeThreats env refresh =>
      rw [PolicyWrite.run]
      -- Of a refresh that is still fetching nothing is stored.
      split
      · exact Ran.refl _ t
      · exact ran_storeThreatBatch hversion hdelete _ _
  | storeGeo catalog existing metadata prefixes now id =>
      rw [PolicyWrite.run]
      split
      · exact Ran.refl _ t
      · next hstored =>
          unfold GeoTables.replacePrefixes at hstored
          dsimp only at hstored
          split at hstored
          · cases hstored
            exact ran_storePrefixes hversion hdelete _ _ _ _ _ _ _
          · cases hstored
  | touchGeo existing metadata now =>
      exact ran_touch (by decide : Sql.update ∈ refreshStatements) _ _ _
  | storeCatalog entries =>
      exact ran_upsertCatalog (by decide : Sql.insert ∈ refreshStatements) (by decide) entries

/-! ## Standby mode -/

/-- A server whose path has the statements executes what the writer does. -/
theorem exists_execute {s : Server} {write : PolicyWrite} {t : GeoTables} :
    ∃ ran, Effect ran t (write.run t) ∧ s.execute (writeStatements write) ran =
      some { s with executed := s.executed ++ ran } := by
  obtain ⟨ran, hamong, heffect⟩ := ran_write write t
  exact ⟨ran, heffect, if_pos hamong⟩

/-- A server takes the step of a request whose handler is modelled with its tables. -/
theorem exists_step_request {s : Server} {request : Request} {env : ApiEnv} {write : ApiWrite}
    (hhttp : s.servesHttp = true) (hroute : route s.standby request = some (handlerOf write))
    (t : GeoTables) :
    ∃ ran, Effect ran t { t with db := (write.run env t.db).db } ∧
      step s (.http request ran) = some { s with executed := s.executed ++ ran } := by
  obtain ⟨ran, heffect, hexecute⟩ := @exists_execute s (.request env write) t
  refine ⟨ran, heffect, ?_⟩
  rw [step, if_pos hhttp, hroute]
  exact hexecute

/-- In standby mode no request gets to a handler that writes. -/
theorem not_routed_in_standby (request : Request) (write : ApiWrite) :
    route true request ≠ some (handlerOf write) := by
  intro hroute
  have hinsert : Sql.insert ∈ (handlerOf write).statements :=
    versionStatements_subset_handler write (by decide)
  cases readsOnly_of_route hroute _ hinsert

/-- A server in standby mode leaves the tables as they are, whatever it is asked. -/
theorem unchanged_of_serves {servesHttp : Bool} {executed : List Sql} {t t' : GeoTables}
    (h : Serves true servesHttp executed) (heffect : Effect executed t t') : t' = t :=
  unchanged_of_readsOnly (readsOnly_of_serves h) heffect

end Standby
end XdpFirewall
