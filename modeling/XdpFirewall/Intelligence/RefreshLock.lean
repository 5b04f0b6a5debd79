import Mathlib.Logic.Function.Basic
import XdpFirewall.Lib.Lease
import XdpFirewall.Lib.Transition
import XdpFirewall.Intelligence.LockTable

/-!
# RefreshLock — many processes that want to refresh

An acquisition makes sure that the row of the lock exists, loads it, checks that nobody is running,
and then marks it as running, if the time of its last check is still the one that was loaded. The
statements of different attempts interleave in any order.
-/

namespace XdpFirewall
namespace Intelligence

open Lib

/-! ## Attempts -/

/-- Where an attempt is. It reads its clock once, before its first statement. -/
inductive Phase (Row : Type)
  | idle
  | ensuring (now : Timestamp)
  | loading (now : Timestamp)
  | checking (now : Timestamp) (existing : Row)
  | marking (now : Timestamp) (existing : Row)
  | holding (now : Timestamp)
  | releasing (now : Timestamp)
  | gone

/-- The clock reading of an attempt that still needs it. -/
def Phase.reading {Row : Type} : Phase Row → Option Timestamp
  | .ensuring now => some now
  | .loading now => some now
  | .checking now _ => some now
  | .marking now _ => some now
  | _ => none

/-- The clock reading of an attempt that has taken the lock and not yet released it. -/
def Phase.lease {Row : Type} : Phase Row → Option Timestamp
  | .holding now => some now
  | .releasing now => some now
  | _ => none

/-- The row of the lock, the attempts, the clock readings they began with, and which of them have
taken the lock, the last one first. -/
structure LockState (Row : Type) where
  row : Option Row
  attempts : Nat → Phase Row
  readings : List Timestamp
  acquired : List Nat

inductive LockEvent
  | start (i : Nat) (now : Timestamp)
  | ensure (i : Nat)
  | load (i : Nat)
  | check (i : Nat)
  | mark (i : Nat)
  | drop (i : Nat)
  | release (i : Nat) (now : Timestamp)
  | crash (i : Nat)

namespace LockState

variable {Row : Type}

/-- A row left behind by whatever ran before, and no attempts. -/
def initial (row : Option Row) : LockState Row where
  row := row
  attempts _ := .idle
  readings := []
  acquired := []

def set (s : LockState Row) (i : Nat) (phase : Phase Row) : LockState Row :=
  { s with attempts := Function.update s.attempts i phase }

end LockState

/-! ## Steps -/

section

variable {Row : Type} (table : LockTable Row) (pid : Nat → Nat) (stored : Timestamp → Timestamp)

/-- The compare-and-set of an attempt that has found the lock free. -/
def markLockRunning (i : Nat) (now : Timestamp) (existing row : Row) (s : LockState Row) :
    LockState Row :=
  if table.lastCheckedAt row = table.lastCheckedAt existing then
    { s.set i (.holding now) with
      row := some (table.markRunning row (lockOwner (pid i) now) (stored now))
      acquired := i :: s.acquired }
  else
    s.set i .gone

def releaseLock (i : Nat) (now released : Timestamp) (row : Row) (s : LockState Row) :
    LockState Row :=
  if table.ownedBy row (lockOwner (pid i) now) then
    { s.set i .gone with row := some (table.markIdle row (stored released)) }
  else
    s.set i .gone

/-- One step of one attempt. `pid i` is the process that makes the attempt `i`, and `stored` what
the database makes of a timestamp. The guard of a lock that is held can be dropped, which releases
the lock in a statement of its own; and a process can die at any time. -/
def lockStep (s : LockState Row) : LockEvent → Option (LockState Row)
  | .start i now =>
      match s.attempts i with
      | .idle => some { s.set i (.ensuring now) with readings := now :: s.readings }
      | _ => none
  | .ensure i =>
      match s.attempts i with
      | .ensuring now =>
          some { s.set i (.loading now) with
            row := some (s.row.getD (table.initial (stored now))) }
      | _ => none
  | .load i =>
      match s.attempts i, s.row with
      | .loading now, some row => some (s.set i (.checking now row))
      | .loading _, none => some (s.set i .gone)
      | _, _ => none
  | .check i =>
      match s.attempts i with
      | .checking now existing =>
          if table.isBusy existing now then
            some (s.set i .gone)
          else
            some (s.set i (.marking now existing))
      | _ => none
  | .mark i =>
      match s.attempts i, s.row with
      | .marking now existing, some row =>
          some (markLockRunning table pid stored i now existing row s)
      | .marking _ _, none => some (s.set i .gone)
      | _, _ => none
  | .drop i =>
      match s.attempts i with
      | .holding now => some (s.set i (.releasing now))
      | _ => none
  | .release i released =>
      match s.attempts i, s.row with
      | .releasing now, some row => some (releaseLock table pid stored i now released row s)
      | .releasing _, none => some (s.set i .gone)
      | _, _ => none
  | .crash i => some (s.set i .gone)

end

/-! ## Mutual exclusion -/

namespace LockState

variable {Row : Type} (table : LockTable Row) (stored : Timestamp → Timestamp)

/-- Some clock reading shows that a lease from this time is stale. -/
def LeaseExpired (s : LockState Row) (now : Timestamp) : Prop :=
  ∃ row, s.row = some row ∧ ∃ reading ∈ s.readings,
    leaseIsFresh (stored now) (table.updatedAt row) reading table.staleSeconds = false

/-- Attempts that hold the lock have acquired it, and of two of them the earlier one has a lease
that has expired. -/
structure MutualExclusion (s : LockState Row) : Prop where
  acquired : ∀ i now, s.attempts i = .holding now → i ∈ s.acquired
  exclusive : s.acquired.Pairwise fun later earlier => ∀ now now',
    s.attempts earlier = .holding now → s.attempts later = .holding now' →
      s.LeaseExpired table stored now

def holders (s : LockState Row) : Set Nat :=
  { i | (s.attempts i).lease.isSome = true }

def expired (s : LockState Row) : Set Nat :=
  { i | ∃ now, (s.attempts i).lease = some now ∧ s.LeaseExpired table stored now }

/-- The last one that took the lock, while the row says that it is running. -/
def current (s : LockState Row) : Option Nat :=
  match s.row with
  | some row => if table.isRunning row then s.acquired.head? else none
  | none => none

end LockState

/-! ## The invariant -/

section

variable {Row : Type} {table : LockTable Row} {pid : Nat → Nat} {stored : Timestamp → Timestamp}

/-- While the row is running and its taker has not released it, the row is as the taker has marked
it. -/
def Marked (table : LockTable Row) (pid : Nat → Nat) (stored : Timestamp → Timestamp)
    (s : LockState Row) : Prop :=
  ∀ row i now, s.row = some row → table.isRunning row = true → s.acquired.head? = some i →
    (s.attempts i).lease = some now →
    table.lastCheckedAt row = stored now ∧
      ∀ owner, table.ownedBy row owner = true ↔ lockOwner (pid i) now = owner

structure LockInv (table : LockTable Row) (pid : Nat → Nat) (stored : Timestamp → Timestamp)
    (s : LockState Row) : Prop where
  exclusive : Exclusive s.holders (s.expired table stored) (s.current table)
  marked : Marked table pid stored s
  nodup : s.acquired.Nodup
  acquired : ∀ i, (s.attempts i).lease.isSome = true → i ∈ s.acquired
  past : ∀ i ∈ s.acquired, (s.attempts i).lease.isSome = true ∨ s.attempts i = .gone
  readings : ∀ i now, (s.attempts i).reading = some now → now ∈ s.readings

theorem lockInv_initial (row : Option Row) : LockInv table pid stored (.initial row) where
  exclusive := by
    intro i hi
    cases hi
  marked := by
    intro row i now _ _ hhead
    cases hhead
  nodup := List.nodup_nil
  acquired := by
    intro i hi
    cases hi
  past := by
    intro i hi
    cases hi
  readings := by
    intro i now hreading
    cases hreading

theorem LockInv.mutualExclusion {s : LockState Row} (h : LockInv table pid stored s) :
    s.MutualExclusion table stored where
  acquired := by
    intro i now hholding
    exact h.acquired i (by rw [hholding]; rfl)
  exclusive := by
    have hexclusive : Exclusive s.holders (s.expired table stored) s.acquired.head? := by
      intro i hi hlive
      have hcurrent := h.exclusive i hi hlive
      unfold LockState.current at hcurrent
      split at hcurrent
      · split at hcurrent
        · exact hcurrent
        · cases hcurrent
      · cases hcurrent
    refine (hexclusive.pairwise h.nodup).imp fun hpair now now' hearlier _ => ?_
    obtain ⟨now'', hlease, hexpired⟩ := hpair (by
      change ((s.attempts _).lease).isSome = true
      rw [hearlier]
      rfl)
    rw [hearlier] at hlease
    cases hlease
    exact hexpired

/-! ## Moves of one attempt -/

theorem set_attempts_self (s : LockState Row) (i : Nat) (phase : Phase Row) :
    (s.set i phase).attempts i = phase := by
  simp only [LockState.set, Function.update_self]

theorem set_attempts_of_ne (s : LockState Row) {i j : Nat} (phase : Phase Row) (hne : j ≠ i) :
    (s.set i phase).attempts j = s.attempts j := by
  simp only [LockState.set, Function.update_of_ne hne]

/-- An attempt moves on without a statement that changes the row: it gains no lease, and goes when
it gives one up. -/
theorem LockInv.set {s : LockState Row} (h : LockInv table pid stored s) {i : Nat}
    {phase : Phase Row} (hlease : ∀ now, phase.lease = some now → (s.attempts i).lease = some now)
    (hreading : ∀ now, phase.reading = some now → now ∈ s.readings)
    (hpast : i ∈ s.acquired → phase.lease.isSome = true ∨ phase = .gone) :
    LockInv table pid stored (s.set i phase) := by
  have hback (j : Nat) (now : Timestamp) (hj : ((s.set i phase).attempts j).lease = some now) :
      (s.attempts j).lease = some now := by
    by_cases hij : j = i
    · rw [hij, set_attempts_self] at hj
      rw [hij]
      exact hlease now hj
    · rwa [set_attempts_of_ne s phase hij] at hj
  have hback' (j : Nat) (hj : ((s.set i phase).attempts j).lease.isSome = true) :
      (s.attempts j).lease.isSome = true := by
    obtain ⟨now, hnow⟩ := Option.isSome_iff_exists.mp hj
    rw [hback j now hnow]
    rfl
  refine ⟨?_, ?_, h.nodup, fun j hj => h.acquired j (hback' j hj), ?_, ?_⟩
  · refine h.exclusive.mono (fun j hj => hback' j hj) ?_
    rintro j hj ⟨now, hnow, hexpired⟩
    obtain ⟨now', hnow'⟩ := Option.isSome_iff_exists.mp hj
    have hsame : now' = now := Option.some.inj ((hback j now' hnow').symm.trans hnow)
    exact ⟨now, hsame ▸ hnow', hexpired⟩
  · intro row j now hrow hrunning hhead hj
    exact h.marked row j now hrow hrunning hhead (hback j now hj)
  · intro j hj
    by_cases hij : j = i
    · rw [hij, set_attempts_self]
      exact hpast (hij ▸ hj)
    · rw [set_attempts_of_ne s phase hij]
      exact h.past j hj
  · intro j now hj
    by_cases hij : j = i
    · rw [hij, set_attempts_self] at hj
      exact hreading now hj
    · rw [set_attempts_of_ne s phase hij] at hj
      exact h.readings j now hj

/-- An attempt can always go. -/
theorem LockInv.gone {s : LockState Row} (h : LockInv table pid stored s) (i : Nat) :
    LockInv table pid stored (s.set i .gone) :=
  h.set nofun nofun fun _ => Or.inr rfl

/-- An attempt that has not acquired the lock is not among those that have. -/
theorem LockInv.notMem {s : LockState Row} (h : LockInv table pid stored s) {i : Nat}
    {now : Timestamp} (hreading : (s.attempts i).reading = some now) : i ∉ s.acquired := by
  intro hi
  cases hphase : s.attempts i with
  | holding _ | releasing _ | gone | idle =>
      rw [hphase] at hreading
      cases hreading
  | ensuring _ | loading _ | checking _ _ | marking _ _ =>
      rcases h.past i hi with hlease | hgone
      · rw [hphase] at hlease
        cases hlease
      · rw [hphase] at hgone
        cases hgone

/-- A clock reading can only show more leases as stale. -/
theorem LockInv.read {s : LockState Row} (h : LockInv table pid stored s) (now : Timestamp) :
    LockInv table pid stored { s with readings := now :: s.readings } where
  exclusive := by
    refine h.exclusive.mono (fun i hi => hi) ?_
    rintro i _ ⟨lease, hlease, row, hrow, reading, hreading, hstale⟩
    exact ⟨lease, hlease, row, hrow, reading, List.mem_cons_of_mem _ hreading, hstale⟩
  marked := h.marked
  nodup := h.nodup
  acquired := h.acquired
  past := h.past
  readings i reading hreading := List.mem_cons_of_mem _ (h.readings i reading hreading)

/-- The row is inserted when it is missing. -/
theorem LockInv.ensured {s : LockState Row} (h : LockInv table pid stored s) (now : Timestamp) :
    LockInv table pid stored
      { s with row := some (s.row.getD (table.initial (stored now))) } := by
  cases hrow : s.row with
  | some row =>
      have hsame : { s with row := some ((some row).getD (table.initial (stored now))) } = s := by
        rw [Option.getD_some, ← hrow]
      rw [hsame]
      exact h
  | none =>
      rw [Option.getD_none]
      -- A new row is idle, so that nobody holds the lock before and after.
      refine ⟨?_, ?_, h.nodup, h.acquired, h.past, h.readings⟩
      · have hcurrent : s.current table = none := by
          rw [LockState.current, hrow]
        have hcurrent' : LockState.current table
            { s with row := some (table.initial (stored now)) } = none := by
          rw [LockState.current]
          exact if_neg (by rw [table.isRunning_initial]; exact Bool.false_ne_true)
        have hexclusive := h.exclusive
        rw [hcurrent] at hexclusive
        rw [hcurrent']
        refine hexclusive.mono (fun i hi => hi) ?_
        rintro i _ ⟨lease, _, row, hrow', _⟩
        rw [hrow] at hrow'
        cases hrow'
      · intro row i lease hrow' hrunning
        cases hrow'
        rw [table.isRunning_initial] at hrunning
        cases hrunning

/-- While the row of the last taker is not busy, nobody else holds a lease that is not stale. -/
theorem LockInv.free_of_not_busy {s : LockState Row} (h : LockInv table pid stored s) {row : Row}
    {now : Timestamp} (hrow : s.row = some row) (hnow : now ∈ s.readings)
    (hidle : table.isBusy row now = false) :
    Free s.holders (s.expired table stored) (s.current table) := by
  intro i hcurrent hi
  obtain ⟨lease, hlease⟩ := Option.isSome_iff_exists.mp hi
  rw [LockState.current, hrow] at hcurrent
  dsimp only at hcurrent
  split at hcurrent
  case isFalse => cases hcurrent
  case isTrue hrunning =>
    obtain ⟨hchecked, -⟩ := h.marked row i lease hrow hrunning hcurrent hlease
    refine ⟨lease, hlease, row, hrow, now, hnow, ?_⟩
    rw [LockTable.isBusy, hrunning, Bool.true_and, hchecked] at hidle
    exact hidle

/-- A compare-and-set that overwrites a row that is not busy keeps the invariant. -/
theorem LockInv.markLockRunning {s : LockState Row} (h : LockInv table pid stored s) {i : Nat}
    {now : Timestamp} {existing row : Row} (hphase : s.attempts i = .marking now existing)
    (hrow : s.row = some row)
    (hidle : table.lastCheckedAt row = table.lastCheckedAt existing →
      table.isBusy row now = false) :
    LockInv table pid stored (markLockRunning table pid stored i now existing row s) := by
  unfold Intelligence.markLockRunning
  split
  case isFalse => exact h.gone i
  case isTrue htoken =>
    have hreading : (s.attempts i).reading = some now := by
      rw [hphase]
      rfl
    have hnot : i ∉ s.acquired := h.notMem hreading
    -- The token says that the row is as it was read, and the condition that it is not busy.
    have hfree := h.free_of_not_busy hrow (h.readings i now hreading) (hidle htoken)
    let taken : LockState Row :=
      { s.set i (.holding now) with
        row := some (table.markRunning row (lockOwner (pid i) now) (stored now))
        acquired := i :: s.acquired }
    have hself : taken.attempts i = .holding now := set_attempts_self s i (.holding now)
    have hother (j : Nat) (hne : j ≠ i) : taken.attempts j = s.attempts j :=
      set_attempts_of_ne s (.holding now) hne
    have hcurrent : taken.current table = some i :=
      if_pos (table.isRunning_markRunning row _ _)
    change LockInv table pid stored taken
    refine ⟨?_, ?_, List.nodup_cons.mpr ⟨hnot, h.nodup⟩, ?_, ?_, ?_⟩
    · rw [hcurrent]
      refine (h.exclusive.acquire hfree i).mono ?_ ?_
      · intro j hj
        by_cases hij : j = i
        · exact Set.mem_insert_iff.mpr (Or.inl hij)
        · change (taken.attempts j).lease.isSome = true at hj
          rw [hother j hij] at hj
          exact Set.mem_insert_iff.mpr (Or.inr hj)
      · -- The update of the row leaves the time that leases are measured from.
        rintro j _ ⟨lease, hlease, row', hrow', reading, hmem, hstale⟩
        rw [hrow] at hrow'
        cases hrow'
        have hij : j ≠ i := by
          rintro rfl
          rw [hphase] at hlease
          cases hlease
        refine ⟨lease, by rw [hother j hij]; exact hlease, _, rfl, reading, hmem, ?_⟩
        rw [table.updatedAt_markRunning]
        exact hstale
    · intro row' j lease hrow' _ hhead hlease
      cases hrow'
      cases hhead
      rw [hself] at hlease
      cases hlease
      exact ⟨table.lastCheckedAt_markRunning _ _ _,
        fun owner => table.ownedBy_markRunning _ _ _ owner⟩
    · intro j hj
      by_cases hij : j = i
      · rw [hij]
        exact List.mem_cons_self
      · rw [hother j hij] at hj
        exact List.mem_cons_of_mem _ (h.acquired j hj)
    · intro j hj
      by_cases hij : j = i
      · rw [hij, hself]
        exact Or.inl rfl
      · rw [hother j hij]
        rcases List.mem_cons.mp hj with rfl | hj
        · exact absurd rfl hij
        · exact h.past j hj
    · intro j reading hj
      by_cases hij : j = i
      · rw [hij, hself] at hj
        cases hj
      · rw [hother j hij] at hj
        exact h.readings j reading hj

/-- A release clears a row of its own owner. An owner with the same text has taken the lock at the
same time, and its lease is as old. -/
theorem LockInv.releaseLock {s : LockState Row} (h : LockInv table pid stored s) {i : Nat}
    {now : Timestamp} (released : Timestamp) {row : Row}
    (hphase : s.attempts i = .releasing now) (hrow : s.row = some row) :
    LockInv table pid stored (releaseLock table pid stored i now released row s) := by
  unfold Intelligence.releaseLock
  split
  case isFalse => exact h.gone i
  case isTrue howned =>
    have hgone := h.gone i
    have hlease : (s.attempts i).lease = some now := by
      rw [hphase]
      rfl
    have hfree : Free (s.set i .gone).holders ((s.set i .gone).expired table stored)
        ((s.set i .gone).current table) := by
      intro j hcurrent hj
      have hij : j ≠ i := by
        rintro rfl
        change ((s.set j .gone).attempts j).lease.isSome = true at hj
        rw [set_attempts_self] at hj
        cases hj
      obtain ⟨now', hlease'⟩ := Option.isSome_iff_exists.mp hj
      rw [set_attempts_of_ne s .gone hij] at hlease'
      -- The one that releases is not the last taker, so its lease has expired.
      have hexpired : i ∈ s.expired table stored := by
        by_contra hlive
        have hi := h.exclusive i (by change ((s.attempts i).lease).isSome = true; rw [hlease]; rfl)
          hlive
        exact hij (Option.some.inj (hcurrent.symm.trans hi))
      have hsame : now' = now := by
        change s.current table = some j at hcurrent
        rw [LockState.current, hrow] at hcurrent
        dsimp only at hcurrent
        split at hcurrent
        · rename_i hrunning
          obtain ⟨-, howner⟩ := h.marked row j now' hrow hrunning hcurrent hlease'
          exact now_eq_of_lockOwner_eq ((howner _).mp howned)
        · cases hcurrent
      obtain ⟨now'', hlease'', hstale⟩ := hexpired
      rw [hlease] at hlease''
      cases hlease''
      exact ⟨now, by rw [set_attempts_of_ne s .gone hij, hlease', hsame], hstale⟩
    refine ⟨?_, ?_, hgone.nodup, hgone.acquired, hgone.past, hgone.readings⟩
    · have hcurrent : LockState.current table
          { s.set i .gone with row := some (table.markIdle row (stored released)) } = none :=
        if_neg (by rw [table.isRunning_markIdle]; exact Bool.false_ne_true)
      rw [hcurrent]
      refine (hgone.exclusive.clear hfree).mono (fun j hj => hj) ?_
      rintro j _ ⟨lease, hlease, row', hrow', reading, hmem, hstale⟩
      change s.row = some row' at hrow'
      rw [hrow] at hrow'
      cases hrow'
      refine ⟨lease, hlease, _, rfl, reading, hmem, ?_⟩
      rw [table.updatedAt_markIdle]
      exact hstale
    · intro row' j lease hrow' hrunning
      cases hrow'
      rw [table.isRunning_markIdle] at hrunning
      cases hrunning

/-! ## Runs -/

/-- A compare-and-set whose token matches finds a row that is still not busy. -/
def OverwritesIdle (table : LockTable Row) (s : LockState Row) : LockEvent → Prop
  | .mark i => ∀ now existing row, s.attempts i = .marking now existing → s.row = some row →
      table.lastCheckedAt row = table.lastCheckedAt existing → table.isBusy row now = false
  | _ => True

instance decidableOverwritesIdle (s : LockState Row) :
    (e : LockEvent) → Decidable (OverwritesIdle table s e)
  | .mark i =>
      match hphase : s.attempts i, hrow : s.row with
      | .marking now existing, some row =>
          decidable_of_iff
            (table.lastCheckedAt row = table.lastCheckedAt existing →
              table.isBusy row now = false) <|
            ⟨fun h now' existing' row' hphase' hrow' => by
                rw [hphase] at hphase'
                rw [hrow] at hrow'
                cases hphase'
                cases hrow'
                exact h,
              fun h => h now existing row hphase hrow⟩
      | .marking _ _, none => isTrue fun _ _ _ _ hrow' => nomatch hrow.symm.trans hrow'
      | .idle, _ | .ensuring _, _ | .loading _, _ | .checking _ _, _ | .holding _, _
      | .releasing _, _ | .gone, _ => isTrue fun _ _ _ hphase' => nomatch hphase.symm.trans hphase'
  | .start _ _ | .ensure _ | .load _ | .check _ | .drop _ | .release _ _ | .crash _ =>
      isTrue trivial

/-- One step of one attempt keeps the invariant. -/
theorem lockInv_step (s : LockState Row) (e : LockEvent) (s' : LockState Row)
    (h : LockInv table pid stored s) (hstep : lockStep table pid stored s e = some s')
    (hidle : OverwritesIdle table s e) : LockInv table pid stored s' := by
  cases e with
  | start i now =>
      simp only [lockStep] at hstep
      split at hstep
      · rename_i hphase
        cases hstep
        refine LockInv.set (h.read now) nofun ?_ fun hi => ?_
        · intro now' hnow'
          cases hnow'
          exact List.mem_cons_self
        · rcases h.past i hi with hlease | hgone
          · rw [hphase] at hlease
            cases hlease
          · rw [hphase] at hgone
            cases hgone
      · cases hstep
  | ensure i =>
      simp only [lockStep] at hstep
      split at hstep
      · rename_i now hphase
        cases hstep
        have hreading : (s.attempts i).reading = some now := by
          rw [hphase]
          rfl
        refine LockInv.set (h.ensured now) nofun ?_ fun hi => absurd hi (h.notMem hreading)
        intro now' hnow'
        cases hnow'
        exact h.readings i now hreading
      · cases hstep
  | load i =>
      simp only [lockStep] at hstep
      split at hstep
      · rename_i now row hphase hrow
        cases hstep
        have hreading : (s.attempts i).reading = some now := by
          rw [hphase]
          rfl
        refine h.set nofun ?_ fun hi => absurd hi (h.notMem hreading)
        intro now' hnow'
        cases hnow'
        exact h.readings i now hreading
      · cases hstep
        exact h.gone i
      · cases hstep
  | check i =>
      simp only [lockStep] at hstep
      split at hstep
      · rename_i now existing hphase
        split at hstep
        · cases hstep
          exact h.gone i
        · cases hstep
          have hreading : (s.attempts i).reading = some now := by
            rw [hphase]
            rfl
          refine h.set nofun ?_ fun hi => absurd hi (h.notMem hreading)
          intro now' hnow'
          cases hnow'
          exact h.readings i now hreading
      · cases hstep
  | mark i =>
      simp only [lockStep] at hstep
      split at hstep
      · rename_i now existing row hphase hrow
        cases hstep
        exact h.markLockRunning hphase hrow (hidle now existing row hphase hrow)
      · cases hstep
        exact h.gone i
      · cases hstep
  | drop i =>
      simp only [lockStep] at hstep
      split at hstep
      · rename_i now hphase
        cases hstep
        refine h.set ?_ nofun fun _ => Or.inl rfl
        intro now' hnow'
        cases hnow'
        rw [hphase]
        rfl
      · cases hstep
  | release i released =>
      simp only [lockStep] at hstep
      split at hstep
      · rename_i now row hphase hrow
        cases hstep
        exact h.releaseLock released hphase hrow
      · cases hstep
        exact h.gone i
      · cases hstep
  | crash i =>
      cases hstep
      exact h.gone i

/-- In every run whose compare-and-sets overwrite rows that are not busy, two attempts hold the
lock at the same time only when the lease of the earlier one has expired. -/
theorem run_mutualExclusion {row : Option Row} {s : LockState Row} {events : List LockEvent}
    (hrun : run (lockStep table pid stored) (.initial row) events = some s)
    (hidle : EachStep (lockStep table pid stored) (fun s e _ => OverwritesIdle table s e)
      (.initial row) events) : s.MutualExclusion table stored :=
  (run_invariant_of_each lockInv_step (lockInv_initial row) hidle hrun).mutualExclusion

/-! ## The first acquisition -/

/-- Two attempts load the row that the first of them has inserted, and both take the lock: the
first one writes the time that it has inserted. -/
def firstAcquisitions (now now' : Timestamp) : List LockEvent :=
  [.start 0 now, .start 1 now', .ensure 0, .ensure 1, .load 0, .load 1, .check 0, .check 1,
    .mark 0, .mark 1]

theorem run_firstAcquisitions (table : LockTable Row) (pid : Nat → Nat)
    (stored : Timestamp → Timestamp) (now now' : Timestamp) :
    ∃ s row, run (lockStep table pid stored) (.initial none) (firstAcquisitions now now') =
        some s ∧
      s.attempts 0 = .holding now ∧ s.attempts 1 = .holding now' ∧ s.acquired = [1, 0] ∧
      s.readings = [now', now] ∧ s.row = some row ∧ table.updatedAt row = stored now := by
  have hidle (now : Timestamp) : table.isBusy (table.initial (stored now)) now' = false := by
    rw [LockTable.isBusy, table.isRunning_initial]
    rfl
  have hidle' : table.isBusy (table.initial (stored now)) now = false := by
    rw [LockTable.isBusy, table.isRunning_initial]
    rfl
  simp [run, firstAcquisitions, lockStep, LockState.initial, LockState.set, hidle, hidle',
    markLockRunning, table.lastCheckedAt_markRunning, table.lastCheckedAt_initial,
    table.updatedAt_markRunning, table.updatedAt_initial]

/-- As long as neither clock shows the lease of the first one as stale, this is a violation. -/
theorem not_mutualExclusion_firstAcquisitions (table : LockTable Row) (pid : Nat → Nat)
    (stored : Timestamp → Timestamp) {now now' : Timestamp}
    (hfresh : leaseIsFresh (stored now) (stored now) now table.staleSeconds = true)
    (hfresh' : leaseIsFresh (stored now) (stored now) now' table.staleSeconds = true) :
    ∃ s, run (lockStep table pid stored) (.initial none) (firstAcquisitions now now') = some s ∧
      ¬ s.MutualExclusion table stored := by
  obtain ⟨s, row, hrun, hfirst, hsecond, hacquired, hreadings, hrow, hupdated⟩ :=
    run_firstAcquisitions table pid stored now now'
  refine ⟨s, hrun, fun hexclusion => ?_⟩
  have hpair := hexclusion.exclusive
  rw [hacquired] at hpair
  obtain ⟨row', hrow', reading, hreading, hstale⟩ :=
    (List.pairwise_cons.mp hpair).1 0 List.mem_cons_self now now' hfirst hsecond
  rw [hrow] at hrow'
  cases hrow'
  rw [hupdated] at hstale
  rw [hreadings] at hreading
  rcases List.mem_cons.mp hreading with rfl | hreading
  · rw [hfresh'] at hstale
    cases hstale
  · rw [List.mem_singleton.mp hreading, hfresh] at hstale
    cases hstale

end

/-- Both refresh locks can be held twice, a nanosecond apart. -/
theorem first_acquisition_held_twice :
    (∃ s, run (lockStep geoRefreshLock id id) (.initial none) (firstAcquisitions 0 1) = some s ∧
      ¬ s.MutualExclusion geoRefreshLock id) ∧
    ∃ s, run (lockStep threatRefreshLock id id) (.initial none) (firstAcquisitions 0 1) = some s ∧
      ¬ s.MutualExclusion threatRefreshLock id :=
  ⟨not_mutualExclusion_firstAcquisitions _ _ _ (by decide) (by decide),
    not_mutualExclusion_firstAcquisitions _ _ _ (by decide) (by decide)⟩

/-- The attempt 0 holds the lock from an empty table on. While it does, the attempt 1 finds the lock
busy and gives up, and the attempt 2 begins: it loads the row after the release. -/
def contendedEvents : List LockEvent :=
  [.start 0 0, .ensure 0, .load 0, .check 0, .mark 0,
    .start 1 1, .ensure 1, .load 1, .check 1, .start 2 2, .ensure 2,
    .drop 0, .release 0 3, .load 2, .check 2, .mark 2]

theorem run_mutualExclusion_contended :
    ∃ s, run (lockStep geoRefreshLock id id) (.initial none) contendedEvents = some s ∧
      s.acquired = [2, 0] ∧ s.attempts 0 = .gone ∧ s.attempts 1 = .gone ∧
      s.attempts 2 = .holding 2 ∧ s.MutualExclusion geoRefreshLock id := by
  have hrun : ∃ s, run (lockStep geoRefreshLock id id) (.initial none) contendedEvents = some s ∧
      s.acquired = [2, 0] ∧ s.attempts 0 = .gone ∧ s.attempts 1 = .gone ∧
      s.attempts 2 = .holding 2 :=
    ⟨_, rfl, rfl, rfl, rfl, rfl⟩
  have hidle : EachStep (lockStep geoRefreshLock id id)
      (fun s e _ => OverwritesIdle geoRefreshLock s e) (.initial none) contendedEvents := by
    decide +kernel
  obtain ⟨s, hrun, hacquired, hzero, hone, htwo⟩ := hrun
  exact ⟨s, hrun, hacquired, hzero, hone, htwo, run_mutualExclusion hrun hidle⟩

end Intelligence
end XdpFirewall
