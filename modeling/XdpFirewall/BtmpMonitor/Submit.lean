import XdpFirewall.Api.Writes
import XdpFirewall.BtmpMonitor.Monitor
import XdpFirewall.Lib.Traverse

/-!
# Submit — what becomes of the candidates that are sent to the API

A request for one ban is accepted when the item passes its checks. A batch is accepted when all of
its items do, so that a candidate that is refused takes along its chunk and all chunks after it.
-/

namespace XdpFirewall
namespace BtmpMonitor

open Lib Net Policy ControlPlane Api

/-! ## Answers -/

section Answers

variable {env : ApiEnv} {db : PolicyDb} {A : Type} {body : Transaction (Option Int × A)}

/-- A transaction that ends well and raises the version is answered with what it has made. -/
theorem respond_of_ends (htransaction : env.transactionFails = none) {ok : PolicyDb → Prop}
    (h : Ends body { db := db, written := [] } (fun a t => a.1.isSome = true ∧ ok t.db)
      fun _ _ => False) :
    (∃ a, (respond env db body).answer = .ok a) ∧ ok (respond env db body).db := by
  cases hrun : body.run { db := db, written := [] } with
  | error e t => exact (h.of_error hrun).elim
  | ok a t =>
      obtain ⟨hsome, hok⟩ := h.of_ok hrun
      obtain ⟨version, data⟩ := a
      cases version with
      | none => cases hsome
      | some version =>
          have hrespond : respond env db body =
              { answer := .ok { version := version, data := data }
                db := t.db
                written := t.written } := by
            simp only [respond, htransaction, hrun]
          rw [hrespond]
          exact ⟨⟨_, rfl⟩, hok⟩

theorem answered_of_ends (htransaction : env.transactionFails = none)
    (h : Ends body { db := db, written := [] } (fun a _ => a.1.isSome = true) fun _ _ => False) :
    ∃ a, (respond env db body).answer = .ok a := by
  have hends : Ends body { db := db, written := [] } (fun a _ => a.1.isSome = true ∧ True)
      fun _ _ => False := h.mono (fun _ _ hsome => ⟨hsome, trivial⟩) fun _ _ h => h
  exact (@respond_of_ends env db A body htransaction (fun _ => True) hends).1

theorem respond_failed (h : env.transactionFails ≠ none ∨
      Ends body { db := db, written := [] } (fun _ _ => False) fun _ _ => True) :
    (∃ e, (respond env db body).answer = .error e) ∧ (respond env db body).db = db := by
  cases htransaction : env.transactionFails with
  | some e =>
      simp only [respond, htransaction]
      exact ⟨⟨e, rfl⟩, rfl⟩
  | none =>
      have hends := h.resolve_left (fun hne => hne htransaction)
      cases hrun : body.run { db := db, written := [] } with
      | ok a t => exact (hends.of_ok hrun).elim
      | error e t =>
          simp only [respond, htransaction, hrun]
          exact ⟨⟨e, rfl⟩, rfl⟩

theorem ends_liftResult_ok {B : Type} {result : ApiResult A} {a : A} (h : result = .ok a)
    {f : A → Transaction B} {s : TxnState} {ok : B → TxnState → Prop}
    {failed : ApiError → TxnState → Prop} (hf : Ends (f a) s ok failed) :
    Ends (liftResult result >>= f) s ok failed := by
  subst h
  exact hf

theorem ends_liftResult_error {B : Type} {result : ApiResult A} {e : ApiError}
    (h : result = .error e) {f : A → Transaction B} {s : TxnState} {ok : B → TxnState → Prop} :
    Ends (liftResult result >>= f) s ok fun _ _ => True := by
  subst h
  exact trivial

/-- The version is raised last. -/
theorem ends_raise {data : A} {s : TxnState} {ok : PolicyDb → Prop} (h : ok (raised s.db)) :
    Ends (do return (some (← nextPolicyVersionInTransaction), data)) s
      (fun a t => a.1.isSome = true ∧ ok t.db) fun _ _ => False := by
  have hnext : Ends nextPolicyVersionInTransaction s (fun _ t => ok t.db) fun _ _ => False :=
    ends_of_ok run_nextPolicyVersionInTransaction h
  exact hnext.bind fun _ _ hok => Ends.pure ⟨rfl, hok⟩

end Answers

/-! ## Ids -/

/-- The database has unused ids for `n` more rows. -/
def FreshIds (env : ApiEnv) : Nat → List Int32 → Prop
  | 0, _ => True
  | n + 1, ids => env.nextId ids ∉ ids ∧ FreshIds env n (ids ++ [env.nextId ids])

instance decidableFreshIds (env : ApiEnv) : ∀ n ids, Decidable (FreshIds env n ids)
  | 0, _ => isTrue trivial
  | n + 1, ids =>
      have := decidableFreshIds env n (ids ++ [env.nextId ids])
      inferInstanceAs (Decidable (_ ∧ _))

theorem FreshIds.mono {env : ApiEnv} {n k : Nat} (hle : k ≤ n) {ids : List Int32}
    (h : FreshIds env n ids) : FreshIds env k ids := by
  induction k generalizing n ids with
  | zero => trivial
  | succ k ih =>
      cases n with
      | zero => cases hle
      | succ n => exact ⟨h.1, ih (Nat.le_of_succ_le_succ hle) h.2⟩

/-! ## One ban -/

/-- What a request for a ban has to pass. -/
def Checks (env : ApiEnv) (request : TempBans.CreateTempBanRequest)
    (input : TempBans.TempBanInput) : Prop :=
  TempBans.rejectTempBanNodeIp env request = .ok () ∧ TempBans.tempBanInput env request = .ok input

/-- The API accepts the request on its own. -/
def Accepted (env : ApiEnv) (db : PolicyDb) (request : TempBans.CreateTempBanRequest) : Prop :=
  ∃ answer, (TempBans.create env db request).answer = .ok answer

-- A goal about a handler is taken apart by the rules, never by running the handler.
seal Ends

section Bans

variable {env : ApiEnv} {db : PolicyDb}

theorem ends_insertBan {input : TempBans.TempBanInput} {s : TxnState} {n : Nat}
    (hfresh : FreshIds env (n + 1) (s.db.tempBans.map TempBanRow.id)) :
    Ends (TempBans.insertBan env input) s
      (fun _ t => (∃ id, t.db.tempBans = s.db.tempBans ++ [input.row id]) ∧
        FreshIds env n (t.db.tempBans.map TempBanRow.id)) fun _ _ => False := by
  obtain ⟨hnew, hrest⟩ := hfresh
  let new := input.row (env.nextId (s.db.tempBans.map TempBanRow.id))
  have hany : ¬ (s.db.tempBans.any fun old => sameTempBan old new) = true := by
    simp only [List.any_eq_true, not_exists, not_and]
    intro old hold hsame
    refine hnew (List.mem_map.mpr ⟨old, hold, ?_⟩)
    exact of_decide_eq_true hsame
  have hinsert : (tempBanTable.insert env (.internal "UNIQUE constraint failed") input.row).run s =
      .ok new
        { db := { s.db with tempBans := s.db.tempBans ++ [new] }
          written := true :: s.written } := if_neg hany
  have hends : Ends (tempBanTable.insert env (.internal "UNIQUE constraint failed") input.row) s
      (fun _ t => (∃ id, t.db.tempBans = s.db.tempBans ++ [input.row id]) ∧
        FreshIds env n (t.db.tempBans.map TempBanRow.id)) fun _ _ => False := by
    refine ends_of_ok hinsert ⟨⟨_, rfl⟩, ?_⟩
    rw [List.map_append]
    exact hrest
  exact hends.bind fun _ _ h => Ends.pure h

theorem ends_createRows_insertBan {inputs : List TempBans.TempBanInput} {s : TxnState} {n : Nat}
    (hfresh : FreshIds env (inputs.length + n) (s.db.tempBans.map TempBanRow.id))
    (summary : CreateRows TempBanRow) :
    Ends (createRows (TempBans.insertBan env) inputs summary) s
      (fun _ t => (∃ rows, t.db.tempBans = s.db.tempBans ++ rows ∧
          List.Forall₂ (fun input row => ∃ id, row = input.row id) inputs rows) ∧
        FreshIds env n (t.db.tempBans.map TempBanRow.id)) fun _ _ => False := by
  induction inputs generalizing s summary with
  | nil =>
      rw [List.length_nil, Nat.zero_add] at hfresh
      exact Ends.pure ⟨⟨[], (List.append_nil _).symm, .nil⟩, hfresh⟩
  | cons input inputs ih =>
      rw [List.length_cons, Nat.succ_add] at hfresh
      refine (ends_insertBan hfresh).bind fun created t hcreated => ?_
      obtain ⟨⟨id, hrow⟩, hrest⟩ := hcreated
      refine (ih hrest (summary.push created)).mono (fun _ u hu => ?_) fun _ _ h => h
      obtain ⟨⟨rows, hrows, hall⟩, hfresh⟩ := hu
      refine ⟨⟨input.row id :: rows, ?_, .cons ⟨id, rfl⟩ hall⟩, hfresh⟩
      rw [hrows, hrow, List.append_assoc, List.singleton_append]

/-- The transaction of a request for one ban. -/
def createBody (env : ApiEnv) (request : TempBans.CreateTempBanRequest) :
    Transaction (Option Int × TempBanRow) := do
  liftResult (TempBans.rejectTempBanNodeIp env request)
  let created ← TempBans.insertBan env
    (← liftResult (fromAnyhow (TempBans.tempBanInput env request)))
  return (some (← nextPolicyVersionInTransaction), created.row)

theorem create_eq (env : ApiEnv) (db : PolicyDb) (request : TempBans.CreateTempBanRequest) :
    TempBans.create env db request = respond env db (createBody env request) := rfl

theorem ends_createBody_of_checks {request : TempBans.CreateTempBanRequest}
    {input : TempBans.TempBanInput} (h : Checks env request input) {s : TxnState}
    (hfresh : FreshIds env 1 (s.db.tempBans.map TempBanRow.id)) :
    Ends (createBody env request) s (fun a _ => a.1.isSome = true) fun _ _ => False := by
  refine ends_liftResult_ok h.1 (ends_liftResult_ok (fromAnyhow_ok_iff.mpr h.2) ?_)
  refine (ends_insertBan hfresh).bind fun created t _ => ?_
  exact (@ends_raise _ created.row t (fun _ => True) trivial).mono (fun _ _ h => h.1) fun _ _ h => h

theorem ends_createBody_of_refused {request : TempBans.CreateTempBanRequest}
    (h : ∀ input, ¬ Checks env request input) (s : TxnState) :
    Ends (createBody env request) s (fun _ _ => False) fun _ _ => True := by
  cases hreject : TempBans.rejectTempBanNodeIp env request with
  | error e => exact ends_liftResult_error hreject
  | ok _ =>
      refine ends_liftResult_ok hreject ?_
      cases hinput : TempBans.tempBanInput env request with
      | error e => exact ends_liftResult_error rfl
      | ok input => exact (h input ⟨hreject, hinput⟩).elim

/-- A single request is accepted when it passes its checks. -/
theorem accepted_iff (hfresh : FreshIds env 1 (db.tempBans.map TempBanRow.id))
    {request : TempBans.CreateTempBanRequest} :
    Accepted env db request ↔ env.transactionFails = none ∧ ∃ input, Checks env request input := by
  rw [Accepted, create_eq]
  constructor
  · rintro ⟨answer, hanswer⟩
    by_contra hnot
    have hfailed : env.transactionFails ≠ none ∨ Ends (createBody env request)
        { db := db, written := [] } (fun _ _ => False) (fun _ _ => True) := by
      by_cases htransaction : env.transactionFails = none
      · refine .inr (ends_createBody_of_refused (fun input hchecks => ?_) _)
        exact hnot ⟨htransaction, input, hchecks⟩
      · exact .inl htransaction
    obtain ⟨⟨e, he⟩, -⟩ := respond_failed hfailed
    cases hanswer.symm.trans he
  · rintro ⟨htransaction, input, hchecks⟩
    have hends : Ends (createBody env request) { db := db, written := [] }
        (fun a _ => a.1.isSome = true) fun _ _ => False :=
      ends_createBody_of_checks hchecks hfresh
    exact answered_of_ends htransaction hends

/-! ## A batch -/

/-- The rows that these requests make. -/
def RowsOf (env : ApiEnv) (requests : List TempBans.CreateTempBanRequest)
    (rows : List TempBanRow) : Prop :=
  List.Forall₂ (fun request row => ∃ input id, Checks env request input ∧
    row = TempBans.TempBanInput.row input id) requests rows

/-- The database after such rows were added, with unused ids for `n` more. -/
structure Adds (env : ApiEnv) (requests : List TempBans.CreateTempBanRequest) (n : Nat)
    (db after : PolicyDb) : Prop where
  rows : ∃ rows, after.tempBans = db.tempBans ++ rows ∧ RowsOf env requests rows
  fresh : FreshIds env n (after.tempBans.map TempBanRow.id)

/-- The transaction of a batch. -/
def createBatchBody (env : ApiEnv) (items : List TempBans.CreateTempBanRequest) :
    Transaction (Option Int × List TempBanRow) := do
  liftResult (validateBatchLen items.length)
  liftResult (items.forM (TempBans.rejectTempBanNodeIp env))
  let models ← liftResult (items.mapM fun request => fromAnyhow (TempBans.tempBanInput env request))
  let summary ← createRows (TempBans.insertBan env) models (CreateRows.empty TempBanRow)
  return (some (← nextPolicyVersionInTransaction), summary.rows)

theorem createBatch_eq (env : ApiEnv) (db : PolicyDb)
    (items : List TempBans.CreateTempBanRequest) :
    TempBans.createBatch env db items = respond env db (createBatchBody env items) := rfl

theorem createBatch_of_checks (htransaction : env.transactionFails = none)
    {items : List TempBans.CreateTempBanRequest}
    (hlength : 0 < items.length ∧ items.length ≤ maxBatchSize)
    (hchecks : ∀ request ∈ items, ∃ input, Checks env request input) {n : Nat}
    (hfresh : FreshIds env (items.length + n) (db.tempBans.map TempBanRow.id)) :
    (∃ a, (TempBans.createBatch env db items).answer = .ok a) ∧
      Adds env items n db (TempBans.createBatch env db items).db := by
  have hvalidate : validateBatchLen items.length = .ok () := by
    rw [validateBatchLen, if_neg (Nat.ne_of_gt hlength.1), if_neg (Nat.not_lt.mpr hlength.2)]
  have hrejects : ∀ request ∈ items, TempBans.rejectTempBanNodeIp env request = .ok () := by
    intro request hrequest
    obtain ⟨input, hreject, -⟩ := hchecks request hrequest
    exact hreject
  have hparse : ∀ request ∈ items, ∃ input,
      fromAnyhow (TempBans.tempBanInput env request) = .ok input := by
    intro request hrequest
    obtain ⟨input, -, hinput⟩ := hchecks request hrequest
    exact ⟨input, fromAnyhow_ok_iff.mpr hinput⟩
  obtain ⟨models, hmodels⟩ := mapM_ok_of_forall hparse
  have hinputs := (List.forall₂_and_left _ _).mpr ⟨hrejects, forall₂_of_mapM_ok hmodels⟩
  rw [hinputs.length_eq] at hfresh
  rw [createBatch_eq]
  refine respond_of_ends htransaction (ends_liftResult_ok hvalidate
    (ends_liftResult_ok (forM_ok_iff.mpr hrejects) (ends_liftResult_ok hmodels ?_)))
  have hrows := ends_createRows_insertBan (s := { db := db, written := [] }) hfresh
    (CreateRows.empty TempBanRow)
  refine hrows.bind fun summary t hadded => ?_
  obtain ⟨⟨rows, happend, hall⟩, hleft⟩ := hadded
  have hadds : Adds env items n db (raised t.db) := by
    refine ⟨⟨rows, happend, ?_⟩, hleft⟩
    refine (forall₂_comp hinputs hall).imp fun request row hmade => ?_
    obtain ⟨input, ⟨hreject, hinput⟩, id, hrow⟩ := hmade
    exact ⟨input, id, ⟨hreject, fromAnyhow_ok_iff.mp hinput⟩, hrow⟩
  exact @ends_raise _ summary.rows t (Adds env items n db) hadds

/-- One item that does not pass its checks is enough. -/
theorem createBatch_refused {items : List TempBans.CreateTempBanRequest}
    (h : env.transactionFails ≠ none ∨
      ∃ request ∈ items, ∀ input, ¬ Checks env request input) :
    (∃ e, (TempBans.createBatch env db items).answer = .error e) ∧
      (TempBans.createBatch env db items).db = db := by
  rw [createBatch_eq]
  refine respond_failed (h.imp_right ?_)
  rintro ⟨request, hrequest, hrefused⟩
  cases hvalidate : validateBatchLen items.length with
  | error e => exact ends_liftResult_error hvalidate
  | ok _ =>
      refine ends_liftResult_ok hvalidate ?_
      cases hreject : items.forM (TempBans.rejectTempBanNodeIp env) with
      | error e => exact ends_liftResult_error rfl
      | ok _ =>
          refine ends_liftResult_ok rfl ?_
          cases hmodels : items.mapM fun request =>
              fromAnyhow (TempBans.tempBanInput env request) with
          | error e => exact ends_liftResult_error rfl
          | ok models =>
              obtain ⟨input, -, hinput⟩ := exists_mem_of_mapM_ok hmodels hrequest
              exact (hrefused input ⟨forM_ok_iff.mp hreject request hrequest,
                fromAnyhow_ok_iff.mp hinput⟩).elim

/-! ## All chunks -/

/-- Whether a request passes its checks. -/
def accepts (env : ApiEnv) (request : TempBans.CreateTempBanRequest) : Bool :=
  (TempBans.rejectTempBanNodeIp env request).isOk && (TempBans.tempBanInput env request).isOk

theorem accepts_iff {request : TempBans.CreateTempBanRequest} :
    accepts env request = true ↔ ∃ input, Checks env request input := by
  unfold accepts Checks
  cases TempBans.rejectTempBanNodeIp env request <;>
    cases TempBans.tempBanInput env request <;> simp [Except.isOk, Except.toBool]

variable {Cursor : Type} {round : Round Cursor}

/-- What is sent has its rows afterwards, and nothing else is added. -/
theorem submitChunks_rows (hreach : round.unreachable = none)
    (htransaction : round.env.transactionFails = none)
    {requests : List (List TempBans.CreateTempBanRequest)}
    (hlength : ∀ chunk ∈ requests, 0 < chunk.length ∧ chunk.length ≤ maxBatchSize)
    (hfresh : FreshIds round.env requests.flatten.length (db.tempBans.map TempBanRow.id))
    (submitted : Nat) :
    ∃ rows, (submitChunks round submitted db requests).2.tempBans = db.tempBans ++ rows ∧
      RowsOf round.env (sent (accepts round.env) requests) rows := by
  induction requests generalizing db submitted with
  | nil => exact ⟨[], (List.append_nil _).symm, .nil⟩
  | cons chunk rest ih =>
      rw [List.forall_mem_cons] at hlength
      rw [List.flatten_cons, List.length_append] at hfresh
      rw [sent]
      cases hall : chunk.all (accepts round.env) with
      | true =>
          have hchecks : ∀ request ∈ chunk, ∃ input, Checks round.env request input :=
            fun request hrequest => accepts_iff.mp (List.all_eq_true.mp hall request hrequest)
          obtain ⟨⟨a, ha⟩, hadds⟩ := createBatch_of_checks htransaction hlength.1 hchecks hfresh
          have hchunk : createTempBanChunk round db chunk =
              (.ok chunk.length, (TempBans.createBatch round.env db chunk).db) := by
            simp only [createTempBanChunk, hreach, ha]
          obtain ⟨first, hfirst, hmade⟩ := hadds.rows
          obtain ⟨rows, hrows, hrest⟩ := ih hlength.2 hadds.fresh (submitted + chunk.length)
          refine ⟨first ++ rows, ?_, List.rel_append hmade hrest⟩
          rw [submitChunks, hchunk, hrows, hfirst, List.append_assoc]
      | false =>
          obtain ⟨request, hrequest, hunacceptable⟩ := List.all_eq_false.mp hall
          have hno : ∀ input, ¬ Checks round.env request input :=
            fun input hinput => hunacceptable (accepts_iff.mpr ⟨input, hinput⟩)
          have hrefused : (∃ e, (TempBans.createBatch round.env db chunk).answer = .error e) ∧
              (TempBans.createBatch round.env db chunk).db = db :=
            createBatch_refused (.inr ⟨request, hrequest, hno⟩)
          obtain ⟨⟨e, he⟩, hsame⟩ := hrefused
          have hchunk : createTempBanChunk round db chunk = (.error (.status e), db) := by
            simp only [createTempBanChunk, hreach, he, hsame]
          refine ⟨[], ?_, .nil⟩
          rw [submitChunks, hchunk, List.append_nil]

/-! ## The bans there are -/

/-- From a page on, the client gets all bans from there on. -/
theorem listFrom_ok (hreach : round.unreachable = none) {page : Nat} (hpage : page ≠ 0) :
    listFrom round db page =
      .ok (((unexpiredBans round.env db).drop ((page - 1) * 500)).map TempBanRow.cidr) := by
  have hanswer : ∀ page, page ≠ 0 →
      round.request (listTempBans round.env db (some page) (some 500)) =
        .ok {
          items := ((unexpiredBans round.env db).drop ((page - 1) * 500)).take 500
          total := (unexpiredBans round.env db).length
          number := page
          size := 500
          totalPages := ((unexpiredBans round.env db).length + 500 - 1) / 500 } := by
    intro page hpage
    rw [Round.request, hreach, listTempBans_of_pos _ _ hpage]
    rfl
  fun_induction listFrom round db page with
  | case1 page e he => cases he.symm.trans (hanswer page hpage)
  | case2 page body hbody hlast =>
      cases hbody.symm.trans (hanswer page hpage)
      refine congrArg (fun l => Except.ok (l.map TempBanRow.cidr)) (List.take_of_length_le ?_)
      rw [List.length_drop]
      rcases hlast with hlast | hlast
      · dsimp only at hlast
        omega
      · have hnil := List.isEmpty_iff.mp hlast
        have hlength := congrArg List.length hnil
        rw [List.length_take, List.length_drop, List.length_nil] at hlength
        omega
  | case3 page body hbody hlast e he ih =>
      cases he.symm.trans (ih (Nat.succ_ne_zero page))
  | case4 page body hbody hlast rest hrest ih =>
      cases hbody.symm.trans (hanswer page hpage)
      cases hrest.symm.trans (ih (Nat.succ_ne_zero page))
      have hnext : (page + 1 - 1) * 500 = (page - 1) * 500 + 500 := by omega
      rw [← List.map_append, hnext, ← List.drop_drop, List.take_append_drop]

/-- The client gets the networks of the bans that have not expired. -/
theorem listTempBanCidrs_ok (hreach : round.unreachable = none) :
    listTempBanCidrs round db = .ok ((unexpiredBans round.env db).map TempBanRow.cidr) :=
  listFrom_ok hreach Nat.one_ne_zero

end Bans

end BtmpMonitor
end XdpFirewall
