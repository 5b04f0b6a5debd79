import Mathlib.Algebra.Order.Ring.Int
import Mathlib.Logic.Function.Basic
import Mathlib.Tactic.Common
import XdpFirewall.ControlPlane.Tables
import XdpFirewall.Lib.Transition

/-!
# PolicyVersion — raising the version from concurrent transactions

A transaction that changes the policy reads the version row and later writes a number that is one
larger. The database shows each statement what is committed at that moment and makes a second
writer of the row wait for the first. Streams poll the version and load the tables one by one. The
`i64` of the version has no bound here: it grows by one with each commit.
-/

namespace XdpFirewall
namespace ControlPlane

open Lib

/-! ## Database and streams -/

abbrev Tid := Nat
abbrev StreamId := Nat

/-- How far a transaction is with `next_policy_version_in_transaction`. The version it has read is
absent when there was no row. -/
inductive TxnPhase
  | idle
  | changing
  | read (current : Option Int)
  | written (current : Option Int)
  | ended
  deriving DecidableEq, Repr

/-- A transaction and the tables in which it changes rows. -/
structure Txn where
  phase : TxnPhase
  tables : List PolicyTable

/-- What is committed, and which transaction holds the lock of the version row. Of a table only
the transactions that have changed it are kept. -/
structure Database where
  version : Option Int
  changes : PolicyTable → List Tid
  rowLock : Option Tid

/-- `next_version` of `next_policy_version_in_transaction` -/
def nextVersion (current : Option Int) : Int :=
  match current with
  | none => 1
  | some version => version + 1

def latestVersion (db : Database) : Int :=
  db.version.getD 0

/-- A stream between two updates, or loading the tables of one. -/
structure Stream where
  cursor : Int
  pending : Option Int
  toLoad : List PolicyTable
  loaded : PolicyTable → List Tid

/-- The whole system, with the versions that have been visible so far. -/
structure VersionState where
  db : Database
  txns : Tid → Txn
  streams : StreamId → Stream
  visible : List Int

/-! ## Steps -/

inductive VersionEvent
  | begin (t : Tid) (tables : List PolicyTable)
  | read (t : Tid)
  | write (t : Tid)
  | commit (t : Tid)
  | abort (t : Tid)
  | poll (i : StreamId) (runtimeChanged : Bool)
  | load (i : StreamId)
  deriving DecidableEq, Repr

def VersionState.setPhase (s : VersionState) (t : Tid) (phase : TxnPhase) : VersionState :=
  { s with txns := Function.update s.txns t { s.txns t with phase := phase } }

def VersionState.setStream (s : VersionState) (i : StreamId) (stream : Stream) : VersionState :=
  { s with streams := Function.update s.streams i stream }

/-- The lock is given back when `t` holds it. -/
def Database.unlock (db : Database) (t : Tid) : Database :=
  { db with rowLock := if db.rowLock = some t then none else db.rowLock }

def Database.commit (db : Database) (t : Tid) (tables : List PolicyTable) (version : Int) :
    Database :=
  { version := some version
    changes := fun table =>
      if table ∈ tables then t :: db.changes table else db.changes table
    rowLock := none }

/-- The `UPDATE` or `INSERT` of the version row. It waits while another transaction holds the row.
An `INSERT` fails when the row has been committed in the meantime. -/
def writeStep (s : VersionState) (t : Tid) (current : Option Int) : Option VersionState :=
  if s.db.rowLock ≠ none then
    none
  else if current = none ∧ s.db.version ≠ none then
    some (s.setPhase t .ended)
  else
    some { s.setPhase t (.written current) with db := { s.db with rowLock := some t } }

/-- A tick of a stream: nothing happens when neither the version nor the runtime CIDRs are new. -/
def pollStep (s : VersionState) (i : StreamId) (runtimeChanged : Bool) : Option VersionState :=
  let stream := s.streams i
  if stream.pending ≠ none then
    none
  else if latestVersion s.db ≤ stream.cursor ∧ runtimeChanged = false then
    some s
  else
    some (s.setStream i
      { stream with pending := some (latestVersion s.db), toLoad := loadOrder })

/-- The next table is read; after the last one the cursor moves to the version of the update. -/
def loadStep (s : VersionState) (i : StreamId) : Option VersionState :=
  let stream := s.streams i
  match stream.pending, stream.toLoad with
  | some version, table :: rest =>
      let loaded := Function.update stream.loaded table (s.db.changes table)
      if rest = [] then
        some (s.setStream i
          { cursor := version, pending := none, toLoad := [], loaded := loaded })
      else
        some (s.setStream i { stream with toLoad := rest, loaded := loaded })
  | _, _ => none

def versionStep (s : VersionState) : VersionEvent → Option VersionState
  | .begin t tables =>
      if (s.txns t).phase = .idle then
        some { s with txns := Function.update s.txns t { phase := .changing, tables := tables } }
      else
        none
  | .read t =>
      if (s.txns t).phase = .changing then
        some (s.setPhase t (.read s.db.version))
      else
        none
  | .write t =>
      match (s.txns t).phase with
      | .read current => writeStep s t current
      | _ => none
  | .commit t =>
      match (s.txns t).phase with
      | .written current =>
          let version := nextVersion current
          some
            { s.setPhase t .ended with
              db := s.db.commit t (s.txns t).tables version
              visible := version :: s.visible }
      | _ => none
  | .abort t => some { s.setPhase t .ended with db := s.db.unlock t }
  | .poll i runtimeChanged => pollStep s i runtimeChanged
  | .load i => loadStep s i

/-- An empty database, before any transaction and with streams that have loaded nothing. -/
def VersionState.start : VersionState where
  db :=
    { version := none
      changes := fun _ => []
      rowLock := none }
  txns _ :=
    { phase := .idle
      tables := [] }
  streams _ :=
    { cursor := -1
      pending := none
      toLoad := []
      loaded := fun _ => [] }
  visible := [0]

/-! ## What a step does -/

@[simp] theorem phase_setPhase (s : VersionState) (t t' : Tid) (phase : TxnPhase) :
    ((s.setPhase t phase).txns t').phase = if t' = t then phase else (s.txns t').phase := by
  by_cases h : t' = t
  · subst h
    simp [VersionState.setPhase]
  · simp [VersionState.setPhase, h]

/-- The transaction has read `current` and has not ended. -/
def TxnPhase.Knows (phase : TxnPhase) (current : Option Int) : Prop :=
  phase = .read current ∨ phase = .written current

theorem commit_step {s s' : VersionState} {t : Tid} (h : versionStep s (.commit t) = some s') :
    ∃ current, (s.txns t).phase = .written current ∧
      s' = { s.setPhase t .ended with
             db := s.db.commit t (s.txns t).tables (nextVersion current)
             visible := nextVersion current :: s.visible } := by
  simp only [versionStep] at h
  cases hphase : (s.txns t).phase <;> rw [hphase] at h <;> cases h
  exact ⟨_, rfl, rfl⟩

/-- A step other than a commit: nothing that is committed changes, and transactions know what they
knew or the committed version. -/
structure Quiet (s s' : VersionState) : Prop where
  version : s'.db.version = s.db.version
  changes : s'.db.changes = s.db.changes
  visible : s'.visible = s.visible
  known : ∀ t current, (s'.txns t).phase.Knows current →
    (s.txns t).phase.Knows current ∨ current = s.db.version

theorem Quiet.of_streams {s : VersionState} {streams : StreamId → Stream} :
    Quiet s { s with streams := streams } :=
  ⟨rfl, rfl, rfl, fun _ _ hknows => Or.inl hknows⟩

/-- A transaction that ends knows nothing any more. -/
theorem Quiet.of_ended {s : VersionState} {t : Tid} {db : Database}
    (hversion : db.version = s.db.version) (hchanges : db.changes = s.db.changes) :
    Quiet s { s.setPhase t .ended with db := db } := by
  refine ⟨hversion, hchanges, rfl, fun t' current hknows => Or.inl ?_⟩
  have hphase := phase_setPhase s t t' .ended
  by_cases heq : t' = t
  · rw [if_pos heq] at hphase
    rcases hknows with h | h <;> rw [hphase] at h <;> cases h
  · rw [if_neg heq] at hphase
    rwa [TxnPhase.Knows, hphase] at hknows

theorem quiet_of_write {s s' : VersionState} {t : Tid}
    (h : versionStep s (.write t) = some s') : Quiet s s' ∧ s'.streams = s.streams := by
  simp only [versionStep] at h
  cases hphase : (s.txns t).phase <;> rw [hphase] at h <;> try cases h
  rename_i current
  simp only [writeStep] at h
  by_cases hlocked : s.db.rowLock ≠ none
  · rw [if_pos hlocked] at h
    cases h
  · rw [if_neg hlocked] at h
    by_cases hconflict : current = none ∧ s.db.version ≠ none
    · rw [if_pos hconflict] at h
      cases h
      exact ⟨Quiet.of_ended rfl rfl, rfl⟩
    · rw [if_neg hconflict] at h
      cases h
      refine ⟨⟨rfl, rfl, rfl, fun t' current' hknows => Or.inl ?_⟩, rfl⟩
      have hphase' := phase_setPhase s t t' (.written current)
      by_cases heq : t' = t
      · -- What is written is what was read.
        subst heq
        rw [if_pos rfl] at hphase'
        have hsame : current = current' := by
          rcases hknows with hread | hwritten
          · rw [hphase'] at hread
            cases hread
          · rw [hphase'] at hwritten
            cases hwritten
            rfl
        exact Or.inl (hsame ▸ hphase)
      · rw [if_neg heq] at hphase'
        rwa [TxnPhase.Knows, hphase'] at hknows

theorem quiet_of_read {s s' : VersionState} {t : Tid} (h : versionStep s (.read t) = some s') :
    Quiet s s' ∧ s'.streams = s.streams := by
  simp only [versionStep] at h
  by_cases hphase : (s.txns t).phase = .changing
  · rw [if_pos hphase] at h
    cases h
    refine ⟨⟨rfl, rfl, rfl, fun t' current hknows => ?_⟩, rfl⟩
    have hphase' := phase_setPhase s t t' (.read s.db.version)
    by_cases heq : t' = t
    · right
      rw [if_pos heq] at hphase'
      rcases hknows with hread | hwritten
      · rw [hphase'] at hread
        cases hread
        rfl
      · rw [hphase'] at hwritten
        cases hwritten
    · left
      rw [if_neg heq] at hphase'
      rwa [TxnPhase.Knows, hphase'] at hknows
  · rw [if_neg hphase] at h
    cases h

theorem quiet_of_begin {s s' : VersionState} {t : Tid} {tables : List PolicyTable}
    (h : versionStep s (.begin t tables) = some s') : Quiet s s' ∧ s'.streams = s.streams := by
  simp only [versionStep] at h
  by_cases hphase : (s.txns t).phase = .idle
  · rw [if_pos hphase] at h
    cases h
    refine ⟨⟨rfl, rfl, rfl, fun t' current hknows => Or.inl ?_⟩, rfl⟩
    by_cases heq : t' = t
    · subst heq
      rcases hknows with hknows | hknows <;> simp at hknows
    · simpa [heq] using hknows
  · rw [if_neg hphase] at h
    cases h

/-- A tick does nothing or starts to load an update. -/
theorem poll_step {s s' : VersionState} {i : StreamId} {runtimeChanged : Bool}
    (h : versionStep s (.poll i runtimeChanged) = some s') :
    s' = s ∨
      s' = s.setStream i
        { s.streams i with pending := some (latestVersion s.db), toLoad := loadOrder } := by
  simp only [versionStep, pollStep] at h
  by_cases hpending : (s.streams i).pending ≠ none
  · rw [if_pos hpending] at h
    cases h
  · rw [if_neg hpending] at h
    by_cases hsame : latestVersion s.db ≤ (s.streams i).cursor ∧ runtimeChanged = false
    · rw [if_pos hsame] at h
      cases h
      exact Or.inl rfl
    · rw [if_neg hsame] at h
      cases h
      exact Or.inr rfl

/-- A table is loaded, the last one of an update or another one. -/
theorem load_step {s s' : VersionState} {i : StreamId}
    (h : versionStep s (.load i) = some s') :
    ∃ version table rest stream, (s.streams i).pending = some version ∧
      (s.streams i).toLoad = table :: rest ∧ s' = s.setStream i stream ∧
      stream.toLoad = rest ∧
      stream.loaded = Function.update (s.streams i).loaded table (s.db.changes table) ∧
      ((rest = [] ∧ stream.cursor = version ∧ stream.pending = none) ∨
        (rest ≠ [] ∧ stream.cursor = (s.streams i).cursor ∧ stream.pending = some version)) := by
  simp only [versionStep, loadStep] at h
  cases hpending : (s.streams i).pending with
  | none =>
      rw [hpending] at h
      cases h
  | some version =>
      cases htoLoad : (s.streams i).toLoad with
      | nil =>
          rw [hpending, htoLoad] at h
          cases h
      | cons table rest =>
          rw [hpending, htoLoad] at h
          dsimp only at h
          by_cases hrest : rest = []
          · rw [if_pos hrest] at h
            cases h
            exact ⟨version, table, rest, _, rfl, rfl, rfl, hrest.symm, rfl,
              Or.inl ⟨hrest, rfl, rfl⟩⟩
          · rw [if_neg hrest] at h
            cases h
            exact ⟨version, table, rest, _, rfl, rfl, rfl, rfl, rfl,
              Or.inr ⟨hrest, rfl, rfl⟩⟩

theorem quiet_step {s s' : VersionState} {e : VersionEvent} (h : versionStep s e = some s')
    (hcommit : ∀ t, e ≠ .commit t) : Quiet s s' := by
  cases e with
  | begin t tables => exact (quiet_of_begin h).1
  | read t => exact (quiet_of_read h).1
  | write t => exact (quiet_of_write h).1
  | commit t => exact absurd rfl (hcommit t)
  | abort t =>
      cases h
      exact Quiet.of_ended rfl rfl
  | poll i runtimeChanged =>
      rcases poll_step h with rfl | rfl
      · exact Quiet.of_streams
      · exact Quiet.of_streams
  | load i =>
      obtain ⟨version, table, rest, stream, -, -, rfl, -⟩ := load_step h
      exact Quiet.of_streams

/-! ## Two conditions on commits -/

/-- A commit makes a version visible that is larger than all that were visible before. -/
def CommitRises (s : VersionState) (e : VersionEvent) (s' : VersionState) : Prop :=
  match e with
  | .commit _ => ∀ version ∈ s.visible, version < latestVersion s'.db
  | _ => True

/-- The version that the transaction has read is still the committed one. -/
def CommitFresh (s : VersionState) (e : VersionEvent) (_ : VersionState) : Prop :=
  match e with
  | .commit t => (s.txns t).phase = .written s.db.version
  | _ => True

instance (s : VersionState) (e : VersionEvent) (s' : VersionState) :
    Decidable (CommitFresh s e s') :=
  match e with
  | .commit t => inferInstanceAs (Decidable ((s.txns t).phase = .written s.db.version))
  | .begin _ _ | .read _ | .write _ | .abort _ | .poll _ _ | .load _ => isTrue trivial

/-- What transactions know of the version, as long as no commit was stale. -/
structure VersionInv (s : VersionState) : Prop where
  latest : ∀ version ∈ s.visible, version ≤ latestVersion s.db
  isVisible : latestVersion s.db ∈ s.visible
  positive : ∀ version, s.db.version = some version → 1 ≤ version
  known : ∀ t current, (s.txns t).phase.Knows current →
    current.getD 0 ∈ s.visible ∧ ∀ version, current = some version → 1 ≤ version

theorem nextVersion_eq (current : Option Int) : nextVersion current = current.getD 0 + 1 := by
  cases current <;> rfl

theorem versionInv_start : VersionInv VersionState.start where
  latest version h := by
    simp only [VersionState.start, List.mem_singleton] at h
    simp [h, latestVersion, VersionState.start]
  isVisible := by simp [latestVersion, VersionState.start]
  positive version h := by cases h
  known t current h := by rcases h with h | h <;> cases h

theorem VersionInv.of_quiet {s s' : VersionState} (h : VersionInv s) (hquiet : Quiet s s') :
    VersionInv s' := by
  have hlatest : latestVersion s'.db = latestVersion s.db := by
    rw [latestVersion, latestVersion, hquiet.version]
  constructor
  · rw [hquiet.visible, hlatest]
    exact h.latest
  · rw [hquiet.visible, hlatest]
    exact h.isVisible
  · rw [hquiet.version]
    exact h.positive
  · intro t current hknows
    rw [hquiet.visible]
    rcases hquiet.known t current hknows with hold | rfl
    · exact h.known t current hold
    · exact ⟨h.isVisible, h.positive⟩

/-- A row never holds zero, so a missing row is not confused with a row. -/
theorem eq_of_getD_eq {a b : Option Int} (ha : ∀ version, a = some version → 1 ≤ version)
    (hb : ∀ version, b = some version → 1 ≤ version) (h : a.getD 0 = b.getD 0) : a = b := by
  cases a with
  | none =>
      cases b with
      | none => rfl
      | some version =>
          have hone := hb version rfl
          simp only [Option.getD_none, Option.getD_some] at h
          omega
  | some version =>
      have hone := ha version rfl
      cases b with
      | none =>
          simp only [Option.getD_none, Option.getD_some] at h
          omega
      | some version' => exact congrArg some h

/-- A commit is fresh exactly when it raises the version above all visible ones. -/
theorem commitRises_iff_fresh (s : VersionState) (e : VersionEvent) (s' : VersionState)
    (h : VersionInv s) (hstep : versionStep s e = some s') :
    CommitRises s e s' ↔ CommitFresh s e s' := by
  by_cases hcommit : ∃ t, e = .commit t
  swap
  · cases e with
    | commit t => exact absurd ⟨t, rfl⟩ hcommit
    | _ => exact Iff.rfl
  obtain ⟨t, rfl⟩ := hcommit
  obtain ⟨current, hphase, rfl⟩ := commit_step hstep
  obtain ⟨hknown, hpositive⟩ := h.known t current (Or.inr hphase)
  have hnext : latestVersion (s.db.commit t (s.txns t).tables (nextVersion current)) =
      current.getD 0 + 1 := nextVersion_eq current
  constructor
  · intro hrises
    have hlt := hrises (latestVersion s.db) h.isVisible
    have hle := h.latest _ hknown
    rw [hnext] at hlt
    have heq : current.getD 0 = latestVersion s.db := by omega
    exact hphase.trans (congrArg _ (eq_of_getD_eq hpositive h.positive heq))
  · intro hfresh version hversion
    have hle := h.latest version hversion
    have hcurrent : current.getD 0 = latestVersion s.db := by
      cases hphase.symm.trans hfresh
      rfl
    rw [hnext]
    omega

theorem versionInv_step (s : VersionState) (e : VersionEvent) (s' : VersionState)
    (h : VersionInv s) (hstep : versionStep s e = some s') (hfresh : CommitFresh s e s') :
    VersionInv s' := by
  by_cases hcommit : ∃ t, e = .commit t
  swap
  · exact h.of_quiet (quiet_step hstep fun t he => hcommit ⟨t, he⟩)
  obtain ⟨t, rfl⟩ := hcommit
  have hrises := (commitRises_iff_fresh s _ s' h hstep).mpr hfresh
  obtain ⟨current, hphase, rfl⟩ := commit_step hstep
  have hpositive := (h.known t current (Or.inr hphase)).2
  constructor
  · intro version hversion
    rcases List.mem_cons.mp hversion with rfl | hold
    · exact le_rfl
    · exact (hrises version hold).le
  · exact List.mem_cons_self
  · intro version hversion
    have hnext : nextVersion current = version := Option.some.inj hversion
    cases current with
    | none =>
        rw [← hnext]
        exact le_rfl
    | some old =>
        have hone := hpositive old rfl
        simp only [nextVersion] at hnext
        omega
  · intro t' current' hknows
    have hphase' := phase_setPhase s t t' .ended
    have hold : (s.txns t').phase.Knows current' := by
      by_cases heq : t' = t
      · rw [if_pos heq] at hphase'
        rcases hknows with hread | hwritten
        · exact absurd (hphase'.symm.trans hread) (by simp)
        · exact absurd (hphase'.symm.trans hwritten) (by simp)
      · rw [if_neg heq] at hphase'
        rcases hknows with hread | hwritten
        · exact Or.inl (hphase'.symm.trans hread)
        · exact Or.inr (hphase'.symm.trans hwritten)
    obtain ⟨hmem, hone⟩ := h.known t' current' hold
    exact ⟨List.mem_cons_of_mem _ hmem, hone⟩

/-! ## Streams -/

/-- Every committed change of the table has been loaded. -/
def Stream.UpToDate (stream : Stream) (db : Database) (table : PolicyTable) : Prop :=
  ∀ t ∈ db.changes table, t ∈ stream.loaded table

/-- Streams are never ahead, and a stream at the latest version has loaded all changes; so has a
stream that is about to move to the latest version, of the tables it has read. -/
structure StreamInv (db : Database) (stream : Stream) : Prop where
  cursor_le : stream.cursor ≤ latestVersion db
  complete : stream.cursor = latestVersion db → ∀ table, stream.UpToDate db table
  pending_le : ∀ version, stream.pending = some version → version ≤ latestVersion db
  loading : stream.pending = some (latestVersion db) →
    ∀ table, table ∉ stream.toLoad → stream.UpToDate db table

theorem streamInv_start (i : StreamId) :
    StreamInv VersionState.start.db (VersionState.start.streams i) where
  cursor_le := by simp [VersionState.start, latestVersion]
  complete h := by simp [VersionState.start, latestVersion] at h
  pending_le version h := by cases h
  loading h := by cases h

/-- Streams that stay the same are fine when nothing is committed. -/
theorem StreamInv.of_quiet {s s' : VersionState} {stream : Stream} (h : StreamInv s.db stream)
    (hquiet : Quiet s s') : StreamInv s'.db stream := by
  have hlatest : latestVersion s'.db = latestVersion s.db := by
    rw [latestVersion, latestVersion, hquiet.version]
  constructor
  · rw [hlatest]
    exact h.cursor_le
  · intro hcursor table t ht
    rw [hquiet.changes] at ht
    exact h.complete (hcursor.trans hlatest) table t ht
  · rw [hlatest]
    exact h.pending_le
  · intro hpending table htable t ht
    rw [hquiet.changes] at ht
    rw [hlatest] at hpending
    exact h.loading hpending table htable t ht

/-- After a larger version has been committed every stream is behind. -/
theorem StreamInv.of_risen {db db' : Database} {stream : Stream} (h : StreamInv db stream)
    (hlt : latestVersion db < latestVersion db') : StreamInv db' stream where
  cursor_le := h.cursor_le.trans hlt.le
  complete hcursor := by
    have hle := h.cursor_le
    omega
  pending_le version hpending := (h.pending_le version hpending).trans hlt.le
  loading hpending := by
    have hle := h.pending_le _ hpending
    omega

theorem StreamInv.of_poll {db : Database} {stream : Stream} (h : StreamInv db stream) :
    StreamInv db { stream with pending := some (latestVersion db), toLoad := loadOrder } where
  cursor_le := h.cursor_le
  complete := h.complete
  pending_le version hpending := by
    cases hpending
    exact le_rfl
  loading _ table htable := absurd (mem_loadOrder table) htable

theorem upToDate_update {db : Database} {stream stream' : Stream} {table : PolicyTable}
    (hloaded : stream'.loaded = Function.update stream.loaded table (db.changes table))
    {other : PolicyTable} (h : other ≠ table → stream.UpToDate db other) :
    stream'.UpToDate db other := by
  intro t ht
  rw [hloaded]
  by_cases heq : other = table
  · subst heq
    simpa using ht
  · simpa [heq] using h heq t ht

theorem StreamInv.of_load {s s' : VersionState} {i : StreamId}
    (h : StreamInv s.db (s.streams i)) (hstep : versionStep s (.load i) = some s') :
    StreamInv s'.db (s'.streams i) := by
  obtain ⟨version, table, rest, stream, hpending, htoLoad, rfl, hrest, hloaded, hend⟩ :=
    load_step hstep
  have hstream : (s.setStream i stream).streams i = stream := by simp [VersionState.setStream]
  have hdb : (s.setStream i stream).db = s.db := rfl
  rw [hstream, hdb]
  have hle := h.pending_le version hpending
  -- What the old stream had loaded the new one has, and the table that was read.
  have hread : version = latestVersion s.db → ∀ other, other ∉ rest →
      stream.UpToDate s.db other := by
    intro hlatest other hother
    refine upToDate_update hloaded fun hne => ?_
    refine h.loading (hlatest ▸ hpending) other ?_
    rw [htoLoad, List.mem_cons, not_or]
    exact ⟨hne, hother⟩
  rcases hend with ⟨hnil, hcursor, hnone⟩ | ⟨-, hcursor, hsome⟩
  · constructor
    · rw [hcursor]
      exact hle
    · intro hlatest other
      rw [hcursor] at hlatest
      exact hread hlatest other (by rw [hnil]; exact List.not_mem_nil)
    · intro version' hversion'
      rw [hnone] at hversion'
      cases hversion'
    · intro hversion'
      rw [hnone] at hversion'
      cases hversion'
  · constructor
    · rw [hcursor]
      exact h.cursor_le
    · intro hlatest other
      rw [hcursor] at hlatest
      exact upToDate_update hloaded fun _ => h.complete hlatest other
    · intro version' hversion'
      rw [hsome] at hversion'
      cases hversion'
      exact hle
    · intro hversion' other hother
      rw [hsome] at hversion'
      rw [hrest] at hother
      exact hread (Option.some.inj hversion') other hother

/-- Versions and streams together. -/
structure PolicyInv (s : VersionState) : Prop where
  versions : VersionInv s
  streams : ∀ i, StreamInv s.db (s.streams i)

theorem policyInv_start : PolicyInv VersionState.start :=
  ⟨versionInv_start, streamInv_start⟩

theorem policyInv_step (s : VersionState) (e : VersionEvent) (s' : VersionState)
    (h : PolicyInv s) (hstep : versionStep s e = some s') (hfresh : CommitFresh s e s') :
    PolicyInv s' := by
  refine ⟨versionInv_step s e s' h.versions hstep hfresh, fun i => ?_⟩
  have hquiet : (∀ t, e ≠ .commit t) → s'.streams i = s.streams i →
      StreamInv s'.db (s'.streams i) := by
    intro hcommit hsame
    rw [hsame]
    exact (h.streams i).of_quiet (quiet_step hstep hcommit)
  cases e with
  | begin t tables => exact hquiet (by simp) (by rw [(quiet_of_begin hstep).2])
  | read t => exact hquiet (by simp) (by rw [(quiet_of_read hstep).2])
  | write t => exact hquiet (by simp) (by rw [(quiet_of_write hstep).2])
  | commit t =>
      have hrises := (commitRises_iff_fresh s _ s' h.versions hstep).mpr hfresh
      have hlt := hrises _ h.versions.isVisible
      obtain ⟨current, -, rfl⟩ := commit_step hstep
      exact (h.streams i).of_risen hlt
  | abort t =>
      refine hquiet (by simp) ?_
      cases hstep
      rfl
  | poll j runtimeChanged =>
      rcases poll_step hstep with rfl | rfl
      · exact h.streams i
      · by_cases heq : i = j
        · subst heq
          simpa [VersionState.setStream] using (h.streams i).of_poll
        · simpa [VersionState.setStream, heq] using h.streams i
  | load j =>
      by_cases heq : i = j
      · subst heq
        exact (h.streams i).of_load hstep
      · obtain ⟨version, table, rest, stream, -, -, rfl, -⟩ := load_step hstep
        simpa [VersionState.setStream, heq] using h.streams i

/-! ## Runs -/

/-- In every run, each commit raises the version above all visible ones exactly when each commit is
fresh. In a run of fresh commits, a stream at the latest version has loaded every change. -/
theorem run_commitRises_iff (es : List VersionEvent) :
    (EachStep versionStep CommitRises VersionState.start es ↔
      EachStep versionStep CommitFresh VersionState.start es) ∧
    ∀ s, EachStep versionStep CommitFresh VersionState.start es →
      run versionStep VersionState.start es = some s → ∀ i,
        (s.streams i).cursor = latestVersion s.db →
          ∀ table, ∀ t ∈ s.db.changes table, t ∈ (s.streams i).loaded table := by
  refine ⟨eachStep_congr commitRises_iff_fresh versionInv_step versionInv_start, ?_⟩
  intro s hfresh hrun i hcursor table
  have hinv := run_invariant_of_each policyInv_step policyInv_start hfresh hrun
  exact (hinv.streams i).complete hcursor table

/-- A transaction from its begin to its commit, without another one in between. -/
def wholeTxn (t : Tid) (table : PolicyTable) : List VersionEvent :=
  [.begin t [table], .read t, .write t, .commit t]

/-- A tick with all its reads. -/
def wholeTick (i : StreamId) : List VersionEvent :=
  .poll i false :: loadOrder.map fun _ => .load i

/-- One transaction after the other, then a tick. -/
def serialEvents : List VersionEvent :=
  wholeTxn 0 .firewallRules ++ wholeTxn 1 .geoCountries ++ wholeTick 0

/-- Two transactions read the version; one of them commits, a stream loads that change, and then
the other one commits. -/
def racingEvents : List VersionEvent :=
  wholeTxn 0 .dynamicDefense ++ [.begin 1 [.firewallRules], .begin 2 [.geoCountries]] ++
    [.read 1, .read 2, .write 1, .commit 1] ++ wholeTick 0 ++ [.write 2]

/-- In the serial run every commit is fresh, and the stream has both changes. -/
theorem run_commitRises_iff_serial :
    EachStep versionStep CommitRises VersionState.start serialEvents ∧
      ∃ s, run versionStep VersionState.start serialEvents = some s ∧
        (s.streams 0).cursor = latestVersion s.db ∧
        ∀ table, ∀ t ∈ s.db.changes table, t ∈ (s.streams 0).loaded table := by
  have hfresh : EachStep versionStep CommitFresh VersionState.start serialEvents := by decide
  obtain ⟨hrises, hloaded⟩ := run_commitRises_iff serialEvents
  exact ⟨hrises.mpr hfresh, _, rfl, by decide, hloaded _ hfresh rfl 0 (by decide)⟩

/-- The second commit leaves the version at two, where it was before. The stream is at version two
and never sees the change. -/
theorem racing_change_missed :
    ∃ s s', run versionStep VersionState.start racingEvents = some s ∧
      versionStep s (.commit 2) = some s' ∧ latestVersion s'.db ∈ s.visible ∧
      (s'.streams 0).cursor = latestVersion s'.db ∧ (s'.streams 0).pending = none ∧
      2 ∈ s'.db.changes .geoCountries ∧ 2 ∉ (s'.streams 0).loaded .geoCountries := by
  refine ⟨_, _, rfl, rfl, ?_⟩
  decide

end ControlPlane
end XdpFirewall
