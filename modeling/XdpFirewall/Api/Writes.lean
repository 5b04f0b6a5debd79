import XdpFirewall.Api.Resources

/-!
# Writes — what the statements of a request do to the policy

Whether the version has to be raised is decided row by row, while the rows are written. The
statements of a transaction keep the keys and readable rows, and leave the rows in force alone
unless one of them was written.
-/

namespace XdpFirewall
namespace Api

open Lib Policy ControlPlane

/-! ## Effects -/

/-- The reader of networks reads back what their writer writes. -/
def Faithful (env : ApiEnv) : Prop :=
  ∀ net, env.text.ipNet (env.display net) = some net

/-- From `s` to `t` the statements of a transaction may have changed the policy only when `active`
says so. -/
structure Writes (env : ApiEnv) (s t : TxnState) (active : Bool) : Prop where
  schema : Schema t.db
  readable : Faithful env → Readable env.text s.db → Readable env.text t.db
  policyVersions : t.db.policyVersions = s.db.policyVersions
  quiet : active = false → SameInForce defaultPolicyName s.db t.db
  loud : active = true → true ∈ t.written
  grows : ∀ flag ∈ s.written, flag ∈ t.written

section Effects

variable {env : ApiEnv} {s t u : TxnState} {active active' : Bool}

theorem Writes.refl (h : Schema s.db) : Writes env s s false where
  schema := h
  readable _ := id
  policyVersions := rfl
  quiet _ := SameInForce.refl
  loud := nofun
  grows _ := id

theorem Writes.trans (h : Writes env s t active) (h' : Writes env t u active') :
    Writes env s u (active || active') where
  schema := h'.schema
  readable hfaithful := h'.readable hfaithful ∘ h.readable hfaithful
  policyVersions := h'.policyVersions.trans h.policyVersions
  quiet hactive := by
    rw [Bool.or_eq_false_iff] at hactive
    exact (h.quiet hactive.1).trans (h'.quiet hactive.2)
  loud hactive := by
    rcases Bool.or_eq_true_iff.mp hactive with hactive | hactive
    · exact h'.grows true (h.loud hactive)
    · exact h'.loud hactive
  grows flag hflag := h'.grows flag (h.grows flag hflag)

end Effects

/-- The computation ends well only in states with the property. -/
abbrev EndsOk {A : Type} (x : Transaction A) (s : TxnState) (ok : A → TxnState → Prop) : Prop :=
  Ends x s ok fun _ _ => True

section Rules

variable {A B : Type} {s : TxnState}

theorem endsOk_liftResult (result : ApiResult A) :
    EndsOk (liftResult result) s fun a t => result = .ok a ∧ t = s := by
  cases result with
  | ok a => exact ⟨rfl, rfl⟩
  | error e => exact trivial

/-- What was checked is known from then on. -/
theorem EndsOk.lift {result : ApiResult A} {f : A → Transaction B}
    {ok : B → TxnState → Prop} (h : ∀ a, result = .ok a → EndsOk (f a) s ok) :
    EndsOk (liftResult result >>= f) s ok := by
  refine (endsOk_liftResult result).bind fun a t hresult => ?_
  obtain ⟨hresult, rfl⟩ := hresult
  exact h a hresult

theorem EndsOk.select {Row : Type} {table : RowTable Row} {p : Row → Bool}
    {f : List Row → Transaction B} {ok : B → TxnState → Prop}
    (h : EndsOk (f ((table.rows s.db).filter (table.selects p))) s ok) :
    EndsOk (table.select p >>= f) s ok := h

end Rules

/-! ## Statements -/

section Statements

variable {Row : Type} {table : RowTable Row} {env : ApiEnv} {s : TxnState}

/-- The rows that can be in force do not change when only others are written. -/
theorem filter_map_ite {p q : Row → Bool} {new : Row} {rows : List Row} (hnew : p new = false)
    (hrows : ∀ row ∈ rows, q row = true → p row = false) :
    (rows.map fun row => if q row then new else row).filter p = rows.filter p := by
  induction rows with
  | nil => rfl
  | cons row rest ih =>
      have hrest := ih fun row hrow => hrows row (List.mem_cons_of_mem _ hrow)
      rw [List.map_cons, List.filter_cons, List.filter_cons, hrest]
      cases hq : q row with
      | false => rfl
      | true => simp [hnew, hrows row List.mem_cons_self hq]

theorem endsOk_insert {refused : ApiError} {row : Int32 → Row} (hschema : Schema s.db)
    (hrow : Faithful env → ∀ id, table.RowOk env.text (row id)) :
    EndsOk (table.insert env refused row) s
      fun new t => Writes env s t (table.enabled new) := by
  let rows := table.rows s.db
  let new := row (env.nextId (rows.map table.id))
  by_cases hany : rows.any (fun old => table.collides old new) = true
  · exact ends_of_error (if_pos hany) trivial
  · refine ends_of_ok (if_neg hany) ?_
    simp only [List.any_eq_true, not_exists, not_and, Bool.not_eq_true] at hany
    refine ⟨?_, fun hfaithful hreadable => ?_, table.policyVersions_withRows _ _, fun hoff => ?_,
      fun hon => ?_, fun _ => List.mem_cons_of_mem _⟩
    · exact table.schema _ _ hschema ((table.distinct _ hschema).append hany)
    · refine table.readable env.text _ _ hreadable fun old hold => ?_
      rcases List.mem_append.mp hold with hold | hold
      · exact table.rowOk env.text _ hreadable old hold
      · rw [List.mem_singleton.mp hold]
        exact hrow hfaithful _
    · refine table.sameInForce _ _ ?_
      simp [List.filter_append, hoff]
    · rw [← hon]
      exact List.mem_cons_self

theorem endsOk_deleteMany (env : ApiEnv) {p : Row → Bool} (hschema : Schema s.db) :
    EndsOk (table.deleteMany p) s fun deleted t =>
      deleted = ((table.rows s.db).filter p).length ∧
        (table.rows t.db = (table.rows s.db).filter fun row => !p row) ∧
        Writes env s t (((table.rows s.db).filter p).any table.enabled) := by
  refine ⟨rfl, table.rows_withRows _ _,
    table.schema _ _ hschema ((table.distinct _ hschema).filter _), fun _ hreadable => ?_, table.policyVersions_withRows _ _, fun hoff => ?_, fun hon => ?_,
    fun _ => List.mem_append_right _⟩
  · refine table.readable env.text _ _ hreadable fun row hrow => ?_
    exact table.rowOk env.text _ hreadable row (List.mem_of_mem_filter hrow)
  · -- A deleted row was not in force.
    refine table.sameInForce _ _ ?_
    rw [List.filter_filter]
    refine List.filter_congr fun row hrow => ?_
    have hdisabled : p row = true → table.enabled row = false := by
      intro hp
      have hall := List.any_eq_false.mp hoff row (List.mem_filter.mpr ⟨hrow, hp⟩)
      simpa using hall
    cases hp : p row with
    | false => simp
    | true => simp [hdisabled hp]
  · obtain ⟨row, hrow, henabled⟩ := List.any_eq_true.mp hon
    exact List.mem_append_left _ (List.mem_map.mpr ⟨row, hrow, henabled⟩)

theorem endsOk_delete (env : ApiEnv) {p : Row → Bool} (hschema : Schema s.db) :
    EndsOk (table.delete p) s fun deleted t =>
      deleted = ((table.rows s.db).filter (table.selects p)).length ∧
        (table.rows t.db = (table.rows s.db).filter fun row => !table.selects p row) ∧
        Writes env s t (((table.rows s.db).filter (table.selects p)).any table.enabled) :=
  endsOk_deleteMany env hschema

theorem endsOk_update {old new : Row} (hschema : Schema s.db) (hold : old ∈ table.rows s.db)
    (hid : ∀ row, table.collides new row = table.collides old row)
    (hrow : table.RowOk env.text old → table.RowOk env.text new) :
    EndsOk (table.update old new) s
      fun _ t => Writes env s t (table.enabled old || table.enabled new) := by
  have hdistinct := table.distinct _ hschema
  -- The id belongs to the old row only.
  have hsame : ∀ row ∈ table.rows s.db, table.id row = table.id old → row = old := by
    intro row hrow hid
    exact hdistinct.eq_of_collides table.collides_symm hrow hold (table.collides_of_id _ _ hid)
  have hsymm : ∀ row, table.collides row new = table.collides row old := by
    intro row
    rw [table.collides_symm, hid, table.collides_symm]
  have hany : (table.rows s.db).any (fun row => table.id row = table.id old) = true :=
    List.any_eq_true.mpr ⟨old, hold, by simp⟩
  refine ends_of_ok (if_pos hany) ?_
  refine ⟨?_, fun _ hreadable => ?_, table.policyVersions_withRows _ _, fun hoff => ?_,
    fun hon => ?_, fun _ => List.mem_append_right _⟩
  · refine table.schema _ _ hschema (hdistinct.map fun a ha b hb => ?_)
    split <;> split
    · rename_i ha' hb'
      rw [hsame a ha ha', hsame b hb hb', hid, hsymm]
    · rename_i ha' _
      rw [hsame a ha ha', hid]
    · rename_i _ hb'
      rw [hsame b hb hb', hsymm]
    · rfl
  · refine table.readable env.text _ _ hreadable fun row hrow' => ?_
    obtain ⟨before, hbefore, rfl⟩ := List.mem_map.mp hrow'
    split
    · exact hrow (table.rowOk env.text _ hreadable old hold)
    · exact table.rowOk env.text _ hreadable before hbefore
  · rw [Bool.or_eq_false_iff] at hoff
    refine table.sameInForce _ _ ?_
    have hfilter : ((table.rows s.db).map fun row =>
          if decide (table.id row = table.id old) then new else row).filter
            (fun row => table.policyName row = defaultPolicyName ∧ table.enabled row) =
        (table.rows s.db).filter
          fun row => table.policyName row = defaultPolicyName ∧ table.enabled row :=
      filter_map_ite (by simp [hoff.2]) fun row hrow hid => by
        rw [hsame row hrow (of_decide_eq_true hid)]
        simp [hoff.1]
    simpa using hfilter
  · have hone : table.enabled old = true ∨ table.enabled new = true := Bool.or_eq_true_iff.mp hon
    rcases hone with hone | hone <;> simp [hone]

end Statements

/-! ## The version -/

section Version

variable {env : ApiEnv} {text : TextReaders} {s t : TxnState}

/-- The database with the next version of the policy. -/
def raised (db : PolicyDb) : PolicyDb :=
  { db with
    policyVersions :=
      if (db.policyVersions.find? fun row => row.policyName = defaultPolicyName).isSome then
        db.policyVersions.map fun row =>
          if row.policyName = defaultPolicyName then
            { row with version := policyVersion db defaultPolicyName + 1 }
          else
            row
      else
        db.policyVersions ++
          [{ policyName := defaultPolicyName
             version := policyVersion db defaultPolicyName + 1 }] }

theorem run_nextPolicyVersionInTransaction :
    nextPolicyVersionInTransaction.run s =
      .ok (policyVersion s.db defaultPolicyName + 1) { s with db := raised s.db } := by
  have hnext : nextVersion ((s.db.policyVersions.find? fun row =>
      row.policyName = defaultPolicyName).map PolicyVersionRow.version) =
        policyVersion s.db defaultPolicyName + 1 := by
    unfold policyVersion
    cases s.db.policyVersions.find? fun row => row.policyName = defaultPolicyName <;> rfl
  change nextPolicyVersionInTransaction s = _
  simp only [nextPolicyVersionInTransaction, hnext, raised]

theorem find?_map_version {rows : List PolicyVersionRow} {row : PolicyVersionRow} {version : Int}
    (h : (rows.find? fun row => row.policyName = defaultPolicyName) = some row) :
    ((rows.map fun row =>
        if row.policyName = defaultPolicyName then { row with version := version } else row).find?
          fun row => row.policyName = defaultPolicyName) = some { row with version := version } := by
  induction rows with
  | nil => cases h
  | cons first rest ih =>
      rw [List.find?_cons] at h
      rw [List.map_cons, List.find?_cons]
      by_cases hname : first.policyName = defaultPolicyName
      · simp only [hname, decide_true] at h ⊢
        cases h
        simp [hname]
      · simp only [hname, decide_false] at h ⊢
        simpa [hname] using ih h

theorem policyVersion_raised (db : PolicyDb) :
    policyVersion (raised db) defaultPolicyName = policyVersion db defaultPolicyName + 1 := by
  cases hfind : db.policyVersions.find? fun row => row.policyName = defaultPolicyName with
  | none =>
      simp only [policyVersion, raised, hfind, Option.isSome_none, Bool.false_eq_true, if_false,
        List.find?_append, Option.none_or]
      rfl
  | some row =>
      simp only [raised, hfind, Option.isSome_some, if_true]
      rw [policyVersion, find?_map_version hfind]
      rfl

theorem Schema.raised {db : PolicyDb} (h : Schema db) : Schema (raised db) := by
  refine { h with policyVersions := ?_ }
  unfold Api.raised
  cases hfind : db.policyVersions.find? fun row => row.policyName = defaultPolicyName with
  | none =>
      refine h.policyVersions.append fun old hold => ?_
      have hne := List.find?_eq_none.mp hfind old hold
      simpa [samePolicyVersion] using hne
  | some row =>
      refine h.policyVersions.map fun a _ b _ => ?_
      have hname (row : PolicyVersionRow) : (if row.policyName = defaultPolicyName then
          { row with version := policyVersion db defaultPolicyName + 1 }
        else row).policyName = row.policyName := by
        split <;> rfl
      simp only [samePolicyVersion, hname]

theorem Readable.raised {db : PolicyDb} (h : Readable text db) : Readable text (raised db) :=
  ⟨h.1, h.2, h.3, h.4, h.5, h.6, h.7, h.8⟩

/-- What a transaction leaves that answers with this version, or with none when it has not raised
it. -/
def Committed (env : ApiEnv) (s t : TxnState) : Option Int → Prop
  | none => Writes env s t false
  | some version =>
      ∃ mid, Writes env s mid true ∧ t = { mid with db := raised mid.db } ∧
        version = policyVersion s.db defaultPolicyName + 1

theorem endsOk_nextPolicyVersion (h : Writes env s t true) :
    EndsOk nextPolicyVersionInTransaction t fun version u => Committed env s u (some version) := by
  refine ends_of_ok run_nextPolicyVersionInTransaction ⟨t, h, rfl, ?_⟩
  simp only [policyVersion, h.policyVersions]

theorem endsOk_bump {active : Bool} (h : Writes env s t active) :
    EndsOk (bumpPolicyVersionIfActive active) t fun bumped u => Committed env s u bumped := by
  cases active with
  | false => exact h
  | true =>
      exact Ends.map (endsOk_nextPolicyVersion h)

end Version

/-! ## Requests -/

/-- The policy is as it was, or its version is one larger and a row was written that can be in
force. A request that failed has changed nothing, unless it was the last reading of the version
that failed. -/
structure WriteOk {A : Type} (env : ApiEnv) (db : PolicyDb) (outcome : Outcome A) : Prop where
  schema : Schema outcome.db
  readable : Faithful env → Readable env.text db → Readable env.text outcome.db
  version : SameInForce defaultPolicyName db outcome.db ∨
    (∃ data, outcome.answer =
        .ok { version := policyVersion db defaultPolicyName + 1, data := data }) ∧
      policyVersion outcome.db defaultPolicyName = policyVersion db defaultPolicyName + 1 ∧
      true ∈ outcome.written
  rolledBack : ∀ e, outcome.answer = .error e → env.versionReadFails = none → outcome.db = db

section Requests

variable {A : Type} {env : ApiEnv} {db : PolicyDb}

/-- What the body of a transaction has to do. -/
def BodyOk (env : ApiEnv) (db : PolicyDb) (body : Transaction (Option Int × A)) : Prop :=
  let start : TxnState :=
    { db := db
      written := [] }
  EndsOk body start fun result t => Committed env start t result.1

theorem writeOk_failed (hschema : Schema db) (e : ApiError) :
    WriteOk env db (Outcome.failed e db : Outcome A) where
  schema := hschema
  readable _ := id
  version := Or.inl SameInForce.refl
  rolledBack _ _ _ := rfl

theorem writeOk_respond (hschema : Schema db) {body : Transaction (Option Int × A)}
    (h : BodyOk env db body) : WriteOk env db (respond env db body) := by
  unfold respond
  split
  · exact writeOk_failed hschema _
  · exact writeOk_failed hschema _
  · rename_i version data t _ hrun
    obtain ⟨mid, hwrites, rfl, rfl⟩ := h.of_ok hrun
    refine ⟨hwrites.schema.raised,
      fun hfaithful hreadable => (hwrites.readable hfaithful hreadable).raised, Or.inr ⟨⟨data, rfl⟩, ?_, hwrites.loud rfl⟩, nofun⟩
    rw [policyVersion_raised, policyVersion, hwrites.policyVersions]
    rfl
  · rename_i data t _ hrun
    have hwrites : Writes env _ t false := h.of_ok hrun
    refine ⟨hwrites.schema, hwrites.readable, Or.inl (hwrites.quiet rfl), fun e herror hread => ?_⟩
    rw [hread] at herror
    cases herror

variable {Input Row : Type}

/-- Creating a row says whether the policy has changed. -/
def CreateOk (env : ApiEnv) (createRow : Transaction (RowCreate Row)) : Prop :=
  ∀ s, Schema s.db → EndsOk createRow s fun created t => Writes env s t created.activeChanged

theorem endsOk_createRows {createRow : Input → Transaction (RowCreate Row)} {inputs : List Input}
    (hcreate : ∀ input ∈ inputs, CreateOk env (createRow input)) {summary : CreateRows Row}
    {s t : TxnState} (h : Writes env s t summary.activeChanged) :
    EndsOk (createRows createRow inputs summary) t fun after u =>
      (summary.activeChanged = true → after.activeChanged = true) ∧
        Writes env s u after.activeChanged := by
  induction inputs generalizing summary t with
  | nil => exact ⟨id, h⟩
  | cons input inputs ih =>
      refine (hcreate input List.mem_cons_self t h.schema).bind fun created u hcreated => ?_
      have hpush : Writes env s u (summary.push created).activeChanged := h.trans hcreated
      refine (ih (fun input hinput => hcreate input (List.mem_cons_of_mem _ hinput)) hpush).mono
        (fun after v hafter => ⟨fun hactive => hafter.1 ?_, hafter.2⟩) fun _ _ => id
      simp [CreateRows.push, hactive]

theorem writeOk_create (hschema : Schema db) {input : ApiResult Input}
    {createRow : Input → Transaction (RowCreate Row)}
    (hcreate : ∀ a, input = .ok a → CreateOk env (createRow a)) :
    WriteOk env db (create env db input createRow) := by
  refine writeOk_respond hschema (EndsOk.lift fun a ha => ?_)
  refine (hcreate a ha _ hschema).bind fun created t hcreated => ?_
  exact (endsOk_bump hcreated).bind fun bumped u hbumped => hbumped

theorem writeOk_createBatch (hschema : Schema db) {inputs : ApiResult (List Input)}
    {createRow : Input → Transaction (RowCreate Row)}
    (hcreate : ∀ as, inputs = .ok as → ∀ a ∈ as, CreateOk env (createRow a)) :
    WriteOk env db (createBatch env db inputs createRow) := by
  refine writeOk_respond hschema (EndsOk.lift fun as has => ?_)
  refine (endsOk_createRows (hcreate as has) (Writes.refl hschema)).bind fun summary t hsummary => ?_
  exact (endsOk_bump hsummary.2).bind fun bumped u hbumped => hbumped

end Requests

end Api
end XdpFirewall
