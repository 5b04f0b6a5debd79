import XdpFirewall.Api.Tables
import XdpFirewall.Api.Validation
import XdpFirewall.ControlPlane.PolicyVersion
import XdpFirewall.Lib.Outcome

/-!
# Transaction — the statements of a request and its answer

A request runs its statements in one transaction, which is committed as a whole or not at all, and
may raise the version of the policy in it. A request that has not raised it reads the version once
more after the commit.
-/

namespace XdpFirewall
namespace Api

open Lib Policy ControlPlane

/-! ## Statements -/

/-- Besides the rows there is a record of what the statements have written: for each row that was
inserted, deleted or changed, before and after, whether it is one that can be in force. -/
structure TxnState where
  db : PolicyDb
  written : List Bool

abbrev Transaction := EStateM ApiError TxnState

def liftResult {A : Type} (result : ApiResult A) : Transaction A := fun s =>
  match result with
  | .ok a => .ok a s
  | .error e => .error e s

section Statements

variable {Row : Type} (table : RowTable Row)

/-- The rows of the policy that a request selects. -/
def RowTable.selects (p : Row → Bool) (row : Row) : Bool :=
  table.policyName row = defaultPolicyName && p row

def RowTable.select (p : Row → Bool) : Transaction (List Row) := fun s =>
  .ok ((table.rows s.db).filter (table.selects p)) s

/-- The database gives the row an id. A row that collides with another one is refused. -/
def RowTable.insert (env : ApiEnv) (refused : ApiError) (row : Int32 → Row) : Transaction Row :=
  fun s =>
    let rows := table.rows s.db
    let new := row (env.nextId (rows.map table.id))
    if rows.any fun old => table.collides old new then
      .error refused s
    else
      .ok new
        { db := table.withRows s.db (rows ++ [new])
          written := table.enabled new :: s.written }

/-- How many rows there were. -/
def RowTable.deleteMany (p : Row → Bool) : Transaction Nat := fun s =>
  let targets := (table.rows s.db).filter p
  .ok targets.length
    { db := table.withRows s.db ((table.rows s.db).filter fun row => !p row)
      written := targets.map table.enabled ++ s.written }

/-- Rows of the policy only. -/
def RowTable.delete (p : Row → Bool) : Transaction Nat :=
  table.deleteMany (table.selects p)

/-- The row with the id of `old` becomes `new`. -/
def RowTable.update (old new : Row) : Transaction Unit := fun s =>
  let rows := table.rows s.db
  if rows.any fun row => table.id row = table.id old then
    .ok ()
      { db := table.withRows s.db
          (rows.map fun row => if table.id row = table.id old then new else row)
        written := [table.enabled old, table.enabled new] ++ s.written }
  else
    .error (.internal "None of the records are updated") s

end Statements

/-- `next_policy_version_in_transaction` -/
def nextPolicyVersionInTransaction : Transaction Int := fun s =>
  let current := s.db.policyVersions.find? fun row => row.policyName = defaultPolicyName
  let next := nextVersion (current.map PolicyVersionRow.version)
  let rows :=
    if current.isSome then
      s.db.policyVersions.map fun row =>
        if row.policyName = defaultPolicyName then { row with version := next } else row
    else
      s.db.policyVersions ++ [{ policyName := defaultPolicyName, version := next }]
  .ok next { s with db := { s.db with policyVersions := rows } }

def bumpPolicyVersionIfActive (activeChanged : Bool) : Transaction (Option Int) :=
  if activeChanged then some <$> nextPolicyVersionInTransaction else pure none

/-! ## Answers -/

structure Versioned (A : Type) where
  version : Int
  data : A

/-- The answer to a request, with the database afterwards and what its transaction has written. -/
structure Outcome (A : Type) where
  answer : ApiResult (Versioned A)
  db : PolicyDb
  written : List Bool

/-- A request that was refused or rolled back. -/
def Outcome.failed {A : Type} (e : ApiError) (db : PolicyDb) : Outcome A where
  answer := .error e
  db := db
  written := []

/-- The transaction gives the version that it has raised, if it has, and the data of the answer.
`policy_version_after_optional_bump` reads the version after the commit. -/
def respond {A : Type} (env : ApiEnv) (db : PolicyDb) (body : Transaction (Option Int × A)) :
    Outcome A :=
  match env.transactionFails, body.run { db := db, written := [] } with
  | some e, _ => Outcome.failed e db
  | none, .error e _ => Outcome.failed e db
  | none, .ok (some version, data) t =>
      { answer := .ok { version := version, data := data }
        db := t.db
        written := t.written }
  | none, .ok (none, data) t =>
      { answer :=
          match env.versionReadFails with
          | some e => .error e
          | none => .ok { version := policyVersion t.db defaultPolicyName, data := data }
        db := t.db
        written := t.written }

/-! ## Created rows -/

structure RowCreate (Row : Type) where
  row : Row
  inserted : Bool
  activeChanged : Bool

structure CreateRows (Row : Type) where
  rows : List Row
  inserted : Bool
  activeChanged : Bool

def CreateRows.empty (Row : Type) : CreateRows Row where
  rows := []
  inserted := false
  activeChanged := false

def CreateRows.push {Row : Type} (summary : CreateRows Row) (created : RowCreate Row) :
    CreateRows Row where
  rows := summary.rows ++ [created.row]
  inserted := summary.inserted || created.inserted
  activeChanged := summary.activeChanged || created.activeChanged

/-- The rows of a batch, one after the other. -/
def createRows {Input Row : Type} (create : Input → Transaction (RowCreate Row)) :
    List Input → CreateRows Row → Transaction (CreateRows Row)
  | [], summary => pure summary
  | input :: inputs, summary => do
      let created ← create input
      createRows create inputs (summary.push created)

/-- A new row, which is part of the policy when it is in force. -/
def RowTable.created {Row : Type} (table : RowTable Row) (row : Row) : RowCreate Row where
  row := row
  inserted := true
  activeChanged := table.enabled row

def unchanged {Row : Type} (row : Row) : RowCreate Row where
  row := row
  inserted := false
  activeChanged := false

/-- The handlers of a request to create a row, and of one for many. -/
def create {Input Row : Type} (env : ApiEnv) (db : PolicyDb) (input : ApiResult Input)
    (createRow : Input → Transaction (RowCreate Row)) : Outcome (RowCreate Row) :=
  respond env db do
    let created ← createRow (← liftResult input)
    return (← bumpPolicyVersionIfActive created.activeChanged, created)

def createBatch {Input Row : Type} (env : ApiEnv) (db : PolicyDb)
    (inputs : ApiResult (List Input)) (createRow : Input → Transaction (RowCreate Row)) :
    Outcome (CreateRows Row) :=
  respond env db do
    let summary ← createRows createRow (← liftResult inputs) (CreateRows.empty Row)
    return (← bumpPolicyVersionIfActive summary.activeChanged, summary)

/-! ## Deleted rows -/

section Delete

variable {Row : Type} (env : ApiEnv) (db : PolicyDb) (table : RowTable Row) (notFound : String)

/-- The handlers of a request to delete a row by its id, and of one for many ids. `cascade` is
what else goes with the rows. -/
def deleteById (cascade : List Row → Transaction Unit) (id : Int32) : Outcome Nat :=
  respond env db do
    match ← table.select fun row => table.id row = id with
    | [] => throw (.notFound notFound)
    | row :: _ =>
        let deleted ← table.delete fun row => table.id row = id
        liftResult (if deleted = 0 then .error (.notFound notFound) else .ok ())
        cascade [row]
        return (← bumpPolicyVersionIfActive (table.enabled row), deleted)

def deleteBatch (cascade : List Row → Transaction Unit) (ids : List Int32) : Outcome Nat :=
  respond env db do
    let ids ← liftResult (validateBatchIds ids)
    let targets ← table.select fun row => table.id row ∈ ids
    liftResult (if targets.length = ids.length then .ok () else .error (.notFound notFound))
    let deleted ← table.delete fun row => table.id row ∈ ids
    liftResult (ensureAllIdsDeleted deleted ids.length notFound)
    cascade targets
    return (← bumpPolicyVersionIfActive (targets.any table.enabled), deleted)

/-- The handler of a request to delete the one row that has these fields. -/
def deleteOnly (several : String) (selector : ApiResult (Row → Bool)) : Outcome Nat :=
  respond env db do
    let selector ← liftResult selector
    match ← table.select selector with
    | [] => throw (.notFound notFound)
    | [row] =>
        let deleted ← table.delete selector
        liftResult (if deleted = 0 then .error (.notFound notFound) else .ok ())
        return (← bumpPolicyVersionIfActive (table.enabled row), deleted)
    | _ :: _ :: _ => throw (.conflict several)

end Delete

end Api
end XdpFirewall
