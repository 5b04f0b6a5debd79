import XdpFirewall.Api.Writers
import XdpFirewall.Lib.Flights

/-!
# TempBanCleanup — streams that remove expired bans

Every stream to an agent looks for expired bans before it looks for a new policy. The streams share
one record of the last time, so that one of them does it for all, and none of them while another
one is at it.
-/

namespace XdpFirewall
namespace ControlPlane

open Api Intelligence Lib Policy

/-! ## The record -/

/-- Instants are nanoseconds. -/
structure TempBanCleanupState where
  lastSuccess : Option Nat
  running : Bool
  deriving DecidableEq

namespace TempBanCleanupState

def default : TempBanCleanupState where
  lastSuccess := none
  running := false

/-- A start before the last success is not within its interval. -/
def withinInterval (interval : Nat) (s : TempBanCleanupState) (startedAt : Nat) : Bool :=
  match s.lastSuccess with
  | none => false
  | some last => last ≤ startedAt && startedAt - last < interval

def tryStart (interval : Nat) (s : TempBanCleanupState) (startedAt : Nat) :
    Option TempBanCleanupState :=
  if s.running || s.withinInterval interval startedAt then
    none
  else
    some { s with running := true }

def finish (s : TempBanCleanupState) (startedAt : Nat) (succeeded : Bool) :
    TempBanCleanupState where
  lastSuccess := if succeeded then some startedAt else s.lastSuccess
  running := false

end TempBanCleanupState

/-- `TEMP_BAN_CLEANUP_INTERVAL` -/
def tempBanCleanupInterval : Nat := 60000000000

def cleanupGate (interval : Nat) : Gate TempBanCleanupState Nat Unit Bool where
  enter s startedAt :=
    match s.tryStart interval startedAt with
    | some s => .ok s
    | none => .error ()
  say _ _ _ := none
  leave s startedAt succeeded := s.finish startedAt (succeeded = some true)

/-! ## Its history -/

abbrev CleanupLog := List (Flight Nat Bool)

/-- When the last cleanup started that succeeded. -/
def lastCleanup (log : CleanupLog) : Option Nat :=
  log.findSome? fun f => if f.said = some true then some f.ticket else none

def cleanupView (log : CleanupLog) : TempBanCleanupState where
  lastSuccess := lastCleanup log
  running := inTheAir log

/-- The instant is not within the interval after that start. -/
def Due (interval : Nat) (log : CleanupLog) (startedAt : Nat) : Prop :=
  ∀ last, lastCleanup log = some last → ¬ (last ≤ startedAt ∧ startedAt < last + interval)

theorem withinInterval_view (interval : Nat) (log : CleanupLog) (startedAt : Nat) :
    (cleanupView log).withinInterval interval startedAt = false ↔ Due interval log startedAt := by
  unfold TempBanCleanupState.withinInterval cleanupView Due
  cases lastCleanup log with
  | none => exact ⟨fun _ => nofun, fun _ => rfl⟩
  | some last =>
      simp only [Bool.and_eq_false_iff, decide_eq_false_iff_not, Option.some.injEq, forall_eq',
        not_and]
      omega

theorem cleanupGate_views (interval : Nat) :
    (cleanupGate interval).Views cleanupView (Due interval) fun _ _ => () where
  entered log startedAt s horderly h := by
    simp only [cleanupGate, TempBanCleanupState.tryStart] at h
    rw [allLanded_iff horderly, ← withinInterval_view]
    split at h
    · next hstarted =>
        cases h
        split at hstarted
        · cases hstarted
        · next hfree =>
            simp only [Bool.or_eq_true, not_or, Bool.not_eq_true] at hfree
            cases hstarted
            exact ⟨hfree.1, hfree.2, rfl⟩
    · cases h
  refused log startedAt _ horderly h := by
    simp only [cleanupGate, TempBanCleanupState.tryStart] at h
    rw [allLanded_iff horderly, ← withinInterval_view]
    refine ⟨fun hfree => ?_, rfl⟩
    have hrunning : (cleanupView log).running = false := hfree.1
    simp [hrunning, hfree.2] at h
  said _ _ _ _ _ _ _ h := by cases h
  left f log succeeded _ hair hsilent := by
    rcases hsilent with rfl | hsilent
    · simp [cleanupGate, TempBanCleanupState.finish, cleanupView, lastCleanup, inTheAir,
        List.findSome?_cons]
    · cases succeeded with
      | none =>
          simp [cleanupGate, TempBanCleanupState.finish, cleanupView, lastCleanup, inTheAir,
            List.findSome?_cons]
      | some ok =>
          cases ok <;>
            simp [cleanupGate, TempBanCleanupState.finish, cleanupView, lastCleanup, inTheAir,
              hsilent]

/-! ## One cleanup -/

section Cleanup

variable {env : ApiEnv} {db db' : PolicyDb} {text : TextReaders}

/-- The bans that have expired by now. -/
def expiredBans (now : Int) (db : PolicyDb) : List TempBanRow :=
  db.tempBans.filter fun row => row.policyName = defaultPolicyName && row.expiresAt ≤ now

def withoutExpired (now : Int) (db : PolicyDb) : PolicyDb :=
  { db with
    tempBans := db.tempBans.filter fun row =>
      !(row.policyName = defaultPolicyName && row.expiresAt ≤ now) }

theorem cleanupExpiredTempBans_eq (h : env.transactionFails = none) :
    cleanupExpiredTempBans env db =
      if 0 < (expiredBans env.now db).length then
        (.ok ((expiredBans env.now db).length, some (policyVersion db defaultPolicyName + 1)),
          raised (withoutExpired env.now db))
      else
        (.ok ((expiredBans env.now db).length, none), withoutExpired env.now db) := by
  have hdelete : (tempBanTable.delete fun row => row.expiresAt ≤ env.now).run
      { db := db, written := [] } = .ok (expiredBans env.now db).length
        { db := withoutExpired env.now db
          written := (expiredBans env.now db).map (fun _ => true) ++ [] } := rfl
  unfold cleanupExpiredTempBans commit
  rw [h, EStateM.run_bind, hdelete]
  dsimp only
  by_cases hsome : 0 < (expiredBans env.now db).length
  · simp only [hsome, decide_true, if_true, bumpPolicyVersionIfActive]
    rw [map_eq_pure_bind, EStateM.run_bind, EStateM.run_bind, run_nextPolicyVersionInTransaction]
    rfl
  · simp only [hsome, decide_false, if_false, bumpPolicyVersionIfActive]
    rfl

/-- A cleanup fails without an effect, or removes what has expired and raises the version if that is
anything. -/
theorem cleanupExpiredTempBans_cases (env : ApiEnv) (db : PolicyDb) :
    ((∃ e, (cleanupExpiredTempBans env db).1 = .error e) ∧
        (cleanupExpiredTempBans env db).2 = db) ∨
      ((∃ result, (cleanupExpiredTempBans env db).1 = .ok result) ∧
        (cleanupExpiredTempBans env db).2 =
          if 0 < (expiredBans env.now db).length then
            raised (withoutExpired env.now db)
          else
            withoutExpired env.now db) := by
  cases hfails : env.transactionFails with
  | some e =>
      have hfailed : cleanupExpiredTempBans env db = (.error e, db) := by
        unfold cleanupExpiredTempBans commit
        rw [hfails]
      rw [hfailed]
      exact Or.inl ⟨⟨e, rfl⟩, rfl⟩
  | none =>
      rw [cleanupExpiredTempBans_eq hfails]
      split
      · exact Or.inr ⟨⟨_, rfl⟩, rfl⟩
      · exact Or.inr ⟨⟨_, rfl⟩, rfl⟩

/-- Beside the version only the bans differ, and these look the same to the loader. -/
theorem content_congr {now : Int}
    (hrows : db' = { db with policyVersions := db'.policyVersions, tempBans := db'.tempBans })
    (hbans : loadActiveTempBans text db' defaultPolicyName now =
      loadActiveTempBans text db defaultPolicyName now) :
    content text db' now = content text db now := by
  have hbans' : loadActiveTempBans text
      { db with policyVersions := db'.policyVersions, tempBans := db'.tempBans }
      defaultPolicyName now = loadActiveTempBans text db defaultPolicyName now := hrows ▸ hbans
  have hcontent (db : PolicyDb) : content text db now =
      (fun snapshot : PolicySnapshot => { snapshot with version := 0 }) <$>
        loadPolicy text db defaultPolicyName now := rfl
  rw [hrows, hcontent, hcontent]
  simp only [loadPolicy, loadPolicyWithGeoPrefixes, map_bind, map_pure, hbans']
  rfl

theorem content_raised (now : Int) : content text (raised db) now = content text db now :=
  content_congr rfl rfl

/-- A ban that has expired is not loaded, now or later. -/
theorem content_withoutExpired {now later : Int} (hlater : now ≤ later) :
    content text (withoutExpired now db) later = content text db later := by
  refine content_congr rfl ?_
  have hsame : (withoutExpired now db).tempBans.filter (fun row =>
        row.policyName = defaultPolicyName ∧ later < row.expiresAt) =
      db.tempBans.filter fun row => row.policyName = defaultPolicyName ∧ later < row.expiresAt := by
    rw [withoutExpired, List.filter_filter]
    refine List.filter_congr fun row _ => ?_
    by_cases hexpired : row.expiresAt ≤ now
    · have hnot : ¬ later < row.expiresAt := by omega
      simp [hnot]
    · simp [hexpired]
  simp only [loadActiveTempBans, hsame]

/-- A cleanup goes unnoticed by everybody who loads the policy then or later. -/
theorem content_cleanup (env : ApiEnv) (db : PolicyDb) {later : Int} (hlater : env.now ≤ later) :
    content text (cleanupExpiredTempBans env db).2 later = content text db later := by
  rcases cleanupExpiredTempBans_cases env db with ⟨-, hsame⟩ | ⟨-, hdb⟩
  · rw [hsame]
  · rw [hdb]
    split
    · rw [content_raised, content_withoutExpired hlater]
    · exact content_withoutExpired hlater

/-- After a cleanup that has not failed there is no expired ban. -/
theorem expiredBans_cleanup {result : Nat × Option Int}
    (h : (cleanupExpiredTempBans env db).1 = .ok result) :
    expiredBans env.now (cleanupExpiredTempBans env db).2 = [] := by
  have hnone : expiredBans env.now (withoutExpired env.now db) = [] := by
    rw [expiredBans, withoutExpired, List.filter_filter]
    refine List.filter_eq_nil_iff.mpr fun row _ => ?_
    simp
  rcases cleanupExpiredTempBans_cases env db with ⟨⟨e, herror⟩, -⟩ | ⟨-, hdb⟩
  · rw [h] at herror
    cases herror
  · rw [hdb]
    split <;> exact hnone

end Cleanup

/-! ## Streams -/

/-- The record, the tables, and which stream has cleaned up and not told so yet. -/
structure CleanupRun where
  gate : Gated TempBanCleanupState Nat Unit Bool
  tables : GeoTables
  results : Nat → Option Bool

/-- The steps of `maybe_run` in the stream `i`, and everybody else who writes. -/
inductive CleanupEvent
  | readClock (i : Nat) (startedAt : Nat)
  | tryStart (i : Nat)
  | cleanup (i : Nat) (env : ApiEnv)
  | finish (i : Nat)
  | write (write : PolicyWrite)

def CleanupRun.start (tables : GeoTables) : CleanupRun where
  gate := Gated.start TempBanCleanupState.default
  tables := tables
  results _ := none

/-- On standby `maybe_run` ends before it starts. -/
def cleanupStep (standby : Bool) (interval : Nat) (s : CleanupRun) :
    CleanupEvent → Option CleanupRun
  | .readClock i startedAt =>
      if standby then
        some s
      else
        ((cleanupGate interval).step s.gate (.ask i startedAt)).map fun gate =>
          { s with gate := gate }
  | .tryStart i => ((cleanupGate interval).step s.gate (.enter i)).map fun gate =>
      { s with gate := gate }
  | .cleanup i env =>
      match s.gate.users i, s.results i with
      | .inside _ _, none =>
          let (result, db) := cleanupExpiredTempBans env s.tables.db
          some { s with
            tables := { s.tables with db := db }
            results := Function.update s.results i (some result.toOption.isSome) }
      | _, _ => none
  | .finish i =>
      match s.results i with
      | none => none
      | some succeeded =>
          ((cleanupGate interval).step s.gate (.leave i (some succeeded))).map fun gate =>
            { s with
              gate := gate
              results := Function.update s.results i none }
  | .write write => some { s with tables := write.run s.tables }

def cleanupRun (standby : Bool) (interval : Nat) : CleanupRun → List CleanupEvent → Option CleanupRun :=
  run (cleanupStep standby interval)

/-- What a step of a stream may do to the policy. -/
def Unnoticed (text : TextReaders) (s : CleanupRun) (e : CleanupEvent) (s' : CleanupRun) : Prop :=
  match e with
  | .cleanup i env =>
      (∀ later, env.now ≤ later →
        content text s'.tables.db later = content text s.tables.db later) ∧
      (s'.results i = some true → expiredBans env.now s'.tables.db = [])
  | .write _ => True
  | _ => s'.tables = s.tables

section Runs

variable {standby : Bool} {interval : Nat} {s s' : CleanupRun} {e : CleanupEvent}
  {text : TextReaders}

/-- The record keeps to its history, also while others write. -/
theorem gateInv_cleanupStep (h : GateInv cleanupView (Due interval) s.gate)
    (hstep : cleanupStep standby interval s e = some s') :
    GateInv cleanupView (Due interval) s'.gate := by
  cases e with
  | readClock i startedAt =>
      simp only [cleanupStep] at hstep
      split at hstep
      · cases hstep
        exact h
      · obtain ⟨gate, hgate, rfl⟩ := Option.map_eq_some_iff.mp hstep
        exact h.step (cleanupGate_views interval) hgate
  | tryStart i =>
      obtain ⟨gate, hgate, rfl⟩ := Option.map_eq_some_iff.mp hstep
      exact h.step (cleanupGate_views interval) hgate
  | cleanup i env =>
      simp only [cleanupStep] at hstep
      split at hstep
      · cases hstep
        exact h
      · cases hstep
  | finish i =>
      simp only [cleanupStep] at hstep
      split at hstep
      · cases hstep
      · obtain ⟨gate, hgate, rfl⟩ := Option.map_eq_some_iff.mp hstep
        exact h.step (cleanupGate_views interval) hgate
  | write write =>
      cases hstep
      exact h

theorem unnoticed_step (text : TextReaders) (hstep : cleanupStep standby interval s e = some s') :
    Unnoticed text s e s' := by
  cases e with
  | readClock i startedAt =>
      simp only [cleanupStep] at hstep
      split at hstep
      · cases hstep
        rfl
      · obtain ⟨gate, -, rfl⟩ := Option.map_eq_some_iff.mp hstep
        rfl
  | tryStart i =>
      obtain ⟨gate, -, rfl⟩ := Option.map_eq_some_iff.mp hstep
      rfl
  | cleanup i env =>
      simp only [cleanupStep] at hstep
      split at hstep
      · cases hstep
        refine ⟨fun later hlater => content_cleanup env s.tables.db hlater, fun hok => ?_⟩
        simp only [Function.update_self, Option.some.injEq] at hok
        cases hresult : (cleanupExpiredTempBans env s.tables.db).1 with
        | error e =>
            rw [hresult] at hok
            cases hok
        | ok result => exact expiredBans_cleanup hresult
      · cases hstep
  | finish i =>
      simp only [cleanupStep] at hstep
      split at hstep
      · cases hstep
      · obtain ⟨gate, -, rfl⟩ := Option.map_eq_some_iff.mp hstep
        rfl
  | write write => trivial

/-- A ban that ends at noon. -/
def untilNoon : GeoTables :=
  { GeoTables.empty with
    db :=
      { PolicyDb.empty with
        tempBans := [{
          id := 1
          policyName := defaultPolicyName
          cidr := "203.0.113.7/32"
          protocol := "any"
          port := none
          expiresAt := noon
          comment := none }] } }

/-- Two streams tick at noon; the one that has read the clock first comes second. -/
def twoStreams : List CleanupEvent :=
  [.readClock 0 10,
    .readClock 1 20,
    .tryStart 1,
    .cleanup 1 { writersEnv with now := noon },
    .tryStart 0,
    .finish 1]

end Runs

end ControlPlane
end XdpFirewall
