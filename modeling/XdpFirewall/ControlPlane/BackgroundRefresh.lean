import XdpFirewall.Intelligence.GeoRefreshAll
import XdpFirewall.Intelligence.ThreatIsolation
import XdpFirewall.Lib.Flights

/-!
# BackgroundRefresh — the loops that refresh lists on their own

One loop looks after the lists of countries and one after the feeds. At a tick a loop decides
whether a refresh is due, which depends on the refreshes before it and on whether lists are
missing. The decision is made in three steps, and a refresh that was started can end in between.
-/

namespace XdpFirewall
namespace ControlPlane

open Intelligence Lib

/-! ## The state of a loop -/

def autoRefreshInterval : Nat := 24 * 60 * 60 * 1000000000
/-- Of the countries and of the feeds alike. -/
def refreshRetryInterval : Nat := 5 * 60 * 1000000000

/-- Instants are nanoseconds. -/
structure TimedRefreshState where
  lastSuccess : Option Nat
  lastAttempt : Option Nat
  running : Bool
  deriving DecidableEq

structure RefreshGate where
  running : Bool
  retryThrottled : Bool
  withinInterval : Bool
  deriving DecidableEq

inductive RefreshSkip
  | running
  | retryThrottled
  | withinInterval
  deriving DecidableEq

/-- Nothing has elapsed since an instant that is yet to come. -/
def elapsedLessThan (last : Option Nat) (now interval : Nat) : Bool :=
  match last with
  | none => false
  | some last => last ≤ now && now - last < interval

def refreshSkipWithoutMissing (gate : RefreshGate) : Option RefreshSkip :=
  if gate.running then
    some .running
  else if gate.retryThrottled then
    some .retryThrottled
  else
    none

def refreshSkipWithMissing (gate : RefreshGate) (missingData : Bool) : Option RefreshSkip :=
  (refreshSkipWithoutMissing gate).or
    (if gate.withinInterval && !missingData then some .withinInterval else none)

namespace TimedRefreshState

def newSuccessful (now : Nat) : TimedRefreshState where
  lastSuccess := some now
  lastAttempt := none
  running := false

/-- `gate` and `refresh_gate` -/
def gate (s : TimedRefreshState) (startedAt interval retryInterval : Nat) : RefreshGate where
  running := s.running
  retryThrottled := elapsedLessThan s.lastAttempt startedAt retryInterval
  withinInterval := elapsedLessThan s.lastSuccess startedAt interval

def tryStart (s : TimedRefreshState) (startedAt interval retryInterval : Nat)
    (missingResources : Bool) : Except RefreshSkip TimedRefreshState :=
  match refreshSkipWithMissing (s.gate startedAt interval retryInterval) missingResources with
  | some skip => .error skip
  | none => .ok { s with running := true, lastAttempt := some startedAt }

def finish (s : TimedRefreshState) : TimedRefreshState :=
  { s with running := false }

def finishSuccess (s : TimedRefreshState) (startedAt : Nat) : TimedRefreshState :=
  { s with running := false, lastSuccess := some startedAt }

/-- What a refresh leaves, with whether it has come to a clean end. -/
def ended (s : TimedRefreshState) (startedAt : Nat) (clean : Bool) : TimedRefreshState :=
  if clean then s.finish.finishSuccess startedAt else s.finish

end TimedRefreshState

/-- `finish_geo_refresh`: a report of a refresh elsewhere, or of a country that failed, is no clean
end. -/
def finishGeoRefresh (s : TimedRefreshState) (startedAt : Nat)
    (result : Except String GeoRefreshReport) : TimedRefreshState :=
  match result with
  | .ok report => s.ended startedAt (report.failedCountryCount = 0 && !report.running)
  | .error _ => s.ended startedAt false

/-- The end of a refresh of the feeds. -/
def finishThreatRefresh (s : TimedRefreshState) (startedAt : Nat)
    (result : Except String ThreatRefreshReport) : TimedRefreshState :=
  match result with
  | .ok report => s.ended startedAt (!report.running)
  | .error _ => s.ended startedAt false

theorem finishGeoRefresh_eq (s : TimedRefreshState) (startedAt : Nat)
    (result : Except String GeoRefreshReport) :
    ∃ clean, finishGeoRefresh s startedAt result = s.ended startedAt clean := by
  cases result with
  | ok report => exact ⟨_, rfl⟩
  | error message => exact ⟨false, rfl⟩

theorem finishThreatRefresh_eq (s : TimedRefreshState) (startedAt : Nat)
    (result : Except String ThreatRefreshReport) :
    ∃ clean, finishThreatRefresh s startedAt result = s.ended startedAt clean := by
  cases result with
  | ok report => exact ⟨_, rfl⟩
  | error message => exact ⟨false, rfl⟩

/-! ## The loop -/

/-- A refresh, with the instant of its tick and whether lists were missing then. -/
structure Tick where
  startedAt : Nat
  missing : Bool
  deriving DecidableEq

inductive LoopPhase
  | sleeping
  | gated (startedAt : Nat) (gate : RefreshGate)
  | decided (tick : Tick)
  deriving DecidableEq

/-- The loop, the refresh that it has started, the clock as it was last read, and the history of the
refreshes. -/
structure RefreshLoop where
  shared : TimedRefreshState
  phase : LoopPhase
  task : Option Nat
  clock : Nat
  log : List (Flight Tick Bool)

def RefreshLoop.start (now : Nat) : RefreshLoop where
  shared := .newSuccessful now
  phase := .sleeping
  task := none
  clock := now
  log := []

/-- The steps of `maybe_run`, and the end of the refresh. The question for missing lists can fail,
and is asked only within the interval. -/
inductive LoopEvent
  | tick (now : Nat)
  | askMissing (missing : Option Bool)
  | tryStart
  | finish (clean : Bool)

section Loop

variable (interval retryInterval : Nat)

def afterQuestion (s : RefreshLoop) (startedAt : Nat) (gate : RefreshGate) (missing : Bool) :
    RefreshLoop :=
  match refreshSkipWithMissing gate missing with
  | some _ => { s with phase := .sleeping }
  | none => { s with phase := .decided { startedAt := startedAt, missing := missing } }

def loopStep (s : RefreshLoop) : LoopEvent → Option RefreshLoop
  | .tick now =>
      if s.phase = .sleeping ∧ s.clock ≤ now then
        let gate := s.shared.gate now interval retryInterval
        match refreshSkipWithoutMissing gate with
        | some _ => some { s with clock := now }
        | none => some { s with clock := now, phase := .gated now gate }
      else
        none
  | .askMissing missing =>
      match s.phase with
      | .gated startedAt gate =>
          if gate.withinInterval then
            match missing with
            | none => some { s with phase := .sleeping }
            | some missing => some (afterQuestion s startedAt gate missing)
          else
            some (afterQuestion s startedAt gate false)
      | _ => none
  | .tryStart =>
      match s.phase with
      | .decided tick =>
          match s.shared.tryStart tick.startedAt interval retryInterval tick.missing with
          | .error _ => some { s with phase := .sleeping }
          | .ok shared =>
              some { s with
                shared := shared
                phase := .sleeping
                task := some tick.startedAt
                log := .started tick :: s.log }
      | _ => none
  | .finish clean =>
      match s.task with
      | none => none
      | some startedAt =>
          some { s with
            shared := s.shared.ended startedAt clean
            task := none
            log := updateNewest (fun f => { f with said := some clean, landed := true }) s.log }

end Loop

/-! ## Its history -/

/-- The instant of the last refresh that came to a clean end, at first that of the start. -/
def lastClean (begun : Nat) (log : List (Flight Tick Bool)) : Nat :=
  (log.findSome? fun f => if f.said = some true then some f.ticket.startedAt else none).getD begun

def loopView (begun : Nat) (log : List (Flight Tick Bool)) : TimedRefreshState where
  lastSuccess := some (lastClean begun log)
  lastAttempt := log.head?.map fun f => f.ticket.startedAt
  running := inTheAir log

/-- The last refresh was started long enough ago to try again. -/
def Rested (retryInterval : Nat) (log : List (Flight Tick Bool)) (now : Nat) : Prop :=
  ∀ last, log.head? = some last → last.ticket.startedAt + retryInterval ≤ now

/-- The lists are old, or some are missing. -/
def Wanted (interval begun : Nat) (log : List (Flight Tick Bool)) (tick : Tick) : Prop :=
  lastClean begun log + interval ≤ tick.startedAt ∨ tick.missing = true

def DueAt (interval retryInterval begun : Nat) (log : List (Flight Tick Bool)) (tick : Tick) :
    Prop :=
  Rested retryInterval log tick.startedAt ∧ Wanted interval begun log tick

/-- The loop keeps to the history of its refreshes, and while it decides none is in the air. -/
structure LoopInv (interval retryInterval begun : Nat) (s : RefreshLoop) : Prop where
  shared : s.shared = loopView begun s.log
  orderly : Orderly (DueAt interval retryInterval begun) s.log
  task : ∀ startedAt, s.task = some startedAt → ∃ f log, s.log = f :: log ∧
    f.ticket.startedAt = startedAt ∧ f.landed = false ∧ f.said = none
  idle : s.task = none → inTheAir s.log = false
  past : ∀ f ∈ s.log, f.ticket.startedAt ≤ s.clock
  started : begun ≤ s.clock
  gated : ∀ startedAt gate, s.phase = .gated startedAt gate → startedAt = s.clock ∧
    gate = s.shared.gate startedAt interval retryInterval ∧ s.task = none ∧
    Rested retryInterval s.log startedAt
  decided : ∀ tick, s.phase = .decided tick → tick.startedAt = s.clock ∧ s.task = none ∧
    DueAt interval retryInterval begun s.log tick

section Decisions

variable {interval retryInterval begun : Nat} {log : List (Flight Tick Bool)} {now : Nat}

theorem elapsedLessThan_eq_false {last now interval : Nat} (hpast : last ≤ now) :
    elapsedLessThan (some last) now interval = false ↔ last + interval ≤ now := by
  simp only [elapsedLessThan, Bool.and_eq_false_iff, decide_eq_false_iff_not]
  omega

theorem lastClean_le (hbegun : begun ≤ now) (hpast : ∀ f ∈ log, f.ticket.startedAt ≤ now) :
    lastClean begun log ≤ now := by
  unfold lastClean
  cases hlast : log.findSome? fun f =>
      if f.said = some true then some f.ticket.startedAt else none with
  | none => exact hbegun
  | some last =>
      obtain ⟨f, hf, hsaid⟩ := List.exists_of_findSome?_eq_some hlast
      split at hsaid
      · cases hsaid
        exact hpast f hf
      · cases hsaid

theorem refreshSkipWithoutMissing_eq_none {gate : RefreshGate} :
    refreshSkipWithoutMissing gate = none ↔
      gate.running = false ∧ gate.retryThrottled = false := by
  obtain ⟨running, retryThrottled, withinInterval⟩ := gate
  cases running <;> cases retryThrottled <;> simp [refreshSkipWithoutMissing]

theorem refreshSkipWithMissing_eq_none {gate : RefreshGate} {missing : Bool} :
    refreshSkipWithMissing gate missing = none ↔ refreshSkipWithoutMissing gate = none ∧
      (gate.withinInterval = false ∨ missing = true) := by
  unfold refreshSkipWithMissing
  cases refreshSkipWithoutMissing gate with
  | some skip => simp
  | none => cases gate.withinInterval <;> cases missing <;> simp

theorem retryThrottled_view (hpast : ∀ f ∈ log, f.ticket.startedAt ≤ now) :
    ((loopView begun log).gate now interval retryInterval).retryThrottled = false ↔
      Rested retryInterval log now := by
  cases log with
  | nil => exact ⟨fun _ => nofun, fun _ => rfl⟩
  | cons f log =>
      refine (elapsedLessThan_eq_false (hpast f List.mem_cons_self)).trans ?_
      simp [Rested]

theorem withinInterval_loopView (interval retryInterval : Nat) (hbegun : begun ≤ now)
    (hpast : ∀ f ∈ log, f.ticket.startedAt ≤ now) :
    ((loopView begun log).gate now interval retryInterval).withinInterval = false ↔
      lastClean begun log + interval ≤ now :=
  elapsedLessThan_eq_false (lastClean_le hbegun hpast)

/-- The gate is open when no refresh is in the air and the last one was not started just now. -/
theorem skipWithoutMissing_view (interval retryInterval begun : Nat)
    (hpast : ∀ f ∈ log, f.ticket.startedAt ≤ now) :
    refreshSkipWithoutMissing ((loopView begun log).gate now interval retryInterval) = none ↔
      inTheAir log = false ∧ Rested retryInterval log now := by
  rw [refreshSkipWithoutMissing_eq_none, retryThrottled_view hpast]
  rfl

theorem skipWithMissing_view (interval retryInterval : Nat) (hbegun : begun ≤ now)
    (hpast : ∀ f ∈ log, f.ticket.startedAt ≤ now) (missing : Bool) :
    refreshSkipWithMissing ((loopView begun log).gate now interval retryInterval) missing = none ↔
      inTheAir log = false ∧
        DueAt interval retryInterval begun log { startedAt := now, missing := missing } := by
  rw [refreshSkipWithMissing_eq_none, skipWithoutMissing_view interval retryInterval begun hpast,
    withinInterval_loopView interval retryInterval hbegun hpast, and_assoc]
  rfl

end Decisions

/-! ## Steps -/

section Steps

variable {interval retryInterval begun : Nat} {s s' : RefreshLoop}

theorem loopInv_start (begun : Nat) :
    LoopInv interval retryInterval begun (RefreshLoop.start begun) where
  shared := rfl
  orderly := .nil
  task _ h := by cases h
  idle _ := rfl
  past _ h := by cases h
  started := Nat.le_refl _
  gated _ _ h := by cases h
  decided _ h := by cases h

/-- What a step decides, in terms of the history. A refresh that was decided on is started, and
nothing has come in between. -/
def Exact (interval retryInterval begun : Nat) (s : RefreshLoop) (e : LoopEvent)
    (s' : RefreshLoop) : Prop :=
  match e with
  | .tick now =>
      s'.log = s.log ∧
        (s'.phase ≠ .sleeping ↔ inTheAir s.log = false ∧ Rested retryInterval s.log now)
  | .askMissing missing =>
      s'.log = s.log ∧ (s'.phase ≠ .sleeping ↔
        lastClean begun s.log + interval ≤ s.clock ∨ missing = some true)
  | .tryStart => ∃ missing, s'.task = some s.clock ∧
      s'.log = .started { startedAt := s.clock, missing := missing } :: s.log
  | .finish clean => s'.phase = s.phase ∧ inTheAir s'.log = false ∧
      ∀ startedAt, s.task = some startedAt →
        lastClean begun s'.log = if clean then startedAt else lastClean begun s.log

theorem LoopInv.tick (h : LoopInv interval retryInterval begun s) {now : Nat}
    (hstep : loopStep interval retryInterval s (.tick now) = some s') :
    LoopInv interval retryInterval begun s' ∧
      Exact interval retryInterval begun s (.tick now) s' := by
  simp only [loopStep] at hstep
  split at hstep
  · next hready =>
      obtain ⟨hsleeping, hclock⟩ := hready
      have hpast : ∀ f ∈ s.log, f.ticket.startedAt ≤ now := fun f hf =>
        Nat.le_trans (h.past f hf) hclock
      have hopen := skipWithoutMissing_view interval retryInterval begun hpast
      rw [h.shared] at hstep
      split at hstep
      · next hskip =>
          cases hstep
          rw [hskip] at hopen
          have hclosed : ¬ (inTheAir s.log = false ∧ Rested retryInterval s.log now) :=
            fun hfree => Option.some_ne_none _ (hopen.mpr hfree)
          refine ⟨{ h with
            shared := rfl
            past := hpast
            started := Nat.le_trans h.started hclock
            gated := fun _ _ hphase => by rw [hsleeping] at hphase; cases hphase
            decided := fun _ hphase => by rw [hsleeping] at hphase; cases hphase }, rfl, ?_⟩
          exact iff_of_false (fun hne => hne hsleeping) hclosed
      · next hskip =>
          cases hstep
          obtain ⟨hair, hrested⟩ := hopen.mp hskip
          have hidle : s.task = none := by
            cases htask : s.task with
            | none => rfl
            | some startedAt =>
                obtain ⟨f, log, hlog, -, hflying, -⟩ := h.task startedAt htask
                rw [hlog, inTheAir, hflying] at hair
                cases hair
          have hgated : ∀ startedAt gate, LoopPhase.gated now ((loopView begun s.log).gate now
              interval retryInterval) = .gated startedAt gate → startedAt = now ∧
              gate = (loopView begun s.log).gate startedAt interval retryInterval ∧
              s.task = none ∧ Rested retryInterval s.log startedAt := by
            intro startedAt gate hphase
            cases hphase
            exact ⟨rfl, rfl, hidle, hrested⟩
          refine ⟨{ h with
            shared := rfl
            past := hpast
            started := Nat.le_trans h.started hclock
            gated := hgated
            decided := fun _ hphase => LoopPhase.noConfusion hphase }, rfl,
            iff_of_true (fun hphase => LoopPhase.noConfusion hphase) ⟨hair, hrested⟩⟩
  · cases hstep

/-- While the loop decides, its gate stays as it was. -/
theorem LoopInv.gate_eq (h : LoopInv interval retryInterval begun s) {startedAt : Nat}
    {gate : RefreshGate} (hphase : s.phase = .gated startedAt gate) :
    startedAt = s.clock ∧ gate = (loopView begun s.log).gate s.clock interval retryInterval := by
  obtain ⟨rfl, hgate, -, -⟩ := h.gated startedAt gate hphase
  rw [h.shared] at hgate
  exact ⟨rfl, hgate⟩

theorem LoopInv.afterQuestion (h : LoopInv interval retryInterval begun s) {startedAt : Nat}
    {gate : RefreshGate} (hphase : s.phase = .gated startedAt gate) (missing : Bool) :
    LoopInv interval retryInterval begun (afterQuestion s startedAt gate missing) ∧
      (afterQuestion s startedAt gate missing).log = s.log ∧
      ((afterQuestion s startedAt gate missing).phase ≠ .sleeping ↔
        lastClean begun s.log + interval ≤ s.clock ∨ missing = true) := by
  obtain ⟨-, -, hidle, hrested⟩ := h.gated startedAt gate hphase
  obtain ⟨rfl, rfl⟩ := h.gate_eq hphase
  have hdue := skipWithMissing_view interval retryInterval h.started h.past missing
  have hair := h.idle hidle
  unfold ControlPlane.afterQuestion
  split
  · next hskip =>
      rw [hskip] at hdue
      refine ⟨{ h with gated := nofun, decided := nofun }, rfl, ?_⟩
      refine iff_of_false (fun hne => hne rfl) fun hwanted => ?_
      exact nomatch hdue.mpr ⟨hair, hrested, hwanted⟩
  · next hskip =>
      have hdecided := (hdue.mp hskip).2
      refine ⟨{ h with gated := nofun, decided := ?_ }, rfl, iff_of_true nofun hdecided.2⟩
      intro tick htick
      cases htick
      exact ⟨rfl, hidle, hdecided⟩

theorem LoopInv.askMissing (h : LoopInv interval retryInterval begun s) {missing : Option Bool}
    (hstep : loopStep interval retryInterval s (.askMissing missing) = some s') :
    LoopInv interval retryInterval begun s' ∧
      Exact interval retryInterval begun s (.askMissing missing) s' := by
  simp only [loopStep] at hstep
  split at hstep
  · next startedAt gate hphase =>
      obtain ⟨-, hgate⟩ := h.gate_eq hphase
      have hwithin := withinInterval_loopView interval retryInterval h.started h.past
      rw [← hgate] at hwithin
      split at hstep
      · next hin =>
          have hyoung : ¬ lastClean begun s.log + interval ≤ s.clock := fun hold => by
            rw [hwithin.mpr hold] at hin
            cases hin
          cases missing with
          | none =>
              cases hstep
              refine ⟨{ h with gated := nofun, decided := nofun }, rfl, ?_⟩
              exact iff_of_false (fun hne => hne rfl) (by simp [hyoung])
          | some missing =>
              cases hstep
              obtain ⟨hinv, hlog, hiff⟩ := h.afterQuestion hphase missing
              exact ⟨hinv, hlog, by rw [hiff]; simp⟩
      · next hout =>
          cases hstep
          have hold : lastClean begun s.log + interval ≤ s.clock :=
            hwithin.mp (by simpa using hout)
          obtain ⟨hinv, hlog, hiff⟩ := h.afterQuestion hphase false
          exact ⟨hinv, hlog, by rw [hiff]; simp [hold]⟩
  · cases hstep

theorem LoopInv.tryStart (h : LoopInv interval retryInterval begun s)
    (hstep : loopStep interval retryInterval s .tryStart = some s') :
    LoopInv interval retryInterval begun s' ∧
      Exact interval retryInterval begun s .tryStart s' := by
  simp only [loopStep] at hstep
  split at hstep
  · next tick hphase =>
      obtain ⟨hclock, hidle, hdue⟩ := h.decided tick hphase
      have hair := h.idle hidle
      have hopen : refreshSkipWithMissing ((loopView begun s.log).gate s.clock interval
          retryInterval) tick.missing = none :=
        (skipWithMissing_view interval retryInterval h.started h.past tick.missing).mpr
          ⟨hair, hclock ▸ hdue⟩
      rw [hclock, h.shared, TimedRefreshState.tryStart, hopen] at hstep
      cases hstep
      have hlanded : AllLanded s.log := (allLanded_iff h.orderly).mpr hair
      refine ⟨?_, tick.missing, rfl, ?_⟩
      · refine
          { h with
            shared := ?_
            orderly := .cons h.orderly hlanded hdue
            task := ?_
            idle := nofun
            past := ?_
            gated := nofun
            decided := nofun }
        · simp [loopView, Flight.started, inTheAir, lastClean, hclock]
        · intro startedAt htask
          cases htask
          exact ⟨_, _, rfl, hclock, rfl, rfl⟩
        · intro f hf
          rcases List.mem_cons.mp hf with rfl | hf
          · exact Nat.le_of_eq hclock
          · exact h.past f hf
      · rw [← hclock]
  · cases hstep

theorem LoopInv.finish (h : LoopInv interval retryInterval begun s) {clean : Bool}
    (hstep : loopStep interval retryInterval s (.finish clean) = some s') :
    LoopInv interval retryInterval begun s' ∧
      Exact interval retryInterval begun s (.finish clean) s' := by
  simp only [loopStep] at hstep
  split at hstep
  · cases hstep
  · next startedAt htask =>
      cases hstep
      obtain ⟨f, log, hlog, rfl, hflying, hsilent⟩ := h.task startedAt htask
      have horderly := h.orderly
      have hpast := h.past
      rw [hlog] at horderly hpast
      have hended : (loopView begun (f :: log)).ended f.ticket.startedAt clean =
          loopView begun ({ f with said := some clean, landed := true } :: log) := by
        cases clean <;>
          simp [TimedRefreshState.ended, TimedRefreshState.finish,
            TimedRefreshState.finishSuccess, loopView, inTheAir, lastClean, hsilent]
      have hsleeping : (∀ startedAt gate, s.phase ≠ .gated startedAt gate) ∧
          ∀ tick, s.phase ≠ .decided tick := by
        refine ⟨fun startedAt gate hphase => ?_, fun tick hphase => ?_⟩
        · have hidle := (h.gated startedAt gate hphase).2.2.1
          rw [htask] at hidle
          cases hidle
        · have hidle := (h.decided tick hphase).2.1
          rw [htask] at hidle
          cases hidle
      refine ⟨?_, rfl, ?_, ?_⟩
      · refine
          { h with
            shared := ?_
            orderly := ?_
            task := fun _ hnone => absurd hnone.symm (Option.some_ne_none _)
            idle := fun _ => ?_
            past := ?_
            gated := fun _ _ hphase => absurd hphase (hsleeping.1 _ _)
            decided := fun _ hphase => absurd hphase (hsleeping.2 _) }
        · rw [h.shared, hlog, updateNewest, hended]
        · rw [hlog, updateNewest]
          exact horderly.replace _ rfl
        · rw [hlog, updateNewest]
          rfl
        · rw [hlog, updateNewest]
          intro g hg
          rcases List.mem_cons.mp hg with rfl | hg
          · exact hpast f List.mem_cons_self
          · exact hpast g (List.mem_cons_of_mem _ hg)
      · rw [hlog, updateNewest]
        rfl
      · intro startedAt hsame
        cases htask.symm.trans hsame
        rw [hlog, updateNewest]
        cases clean <;> simp [lastClean, hsilent]

theorem loopInv_step {e : LoopEvent} (h : LoopInv interval retryInterval begun s)
    (hstep : loopStep interval retryInterval s e = some s') :
    LoopInv interval retryInterval begun s' ∧ Exact interval retryInterval begun s e s' := by
  cases e with
  | tick now => exact h.tick hstep
  | askMissing missing => exact h.askMissing hstep
  | tryStart => exact h.tryStart hstep
  | finish clean => exact h.finish hstep

end Steps

/-! ## Runs -/

section Runs

variable {interval retryInterval begun : Nat} {es : List LoopEvent} {s : RefreshLoop}

theorem loopInv_run
    (hrun : run (loopStep interval retryInterval) (RefreshLoop.start begun) es = some s) :
    LoopInv interval retryInterval begun s :=
  run_invariant (fun _ _ _ h hstep => (loopInv_step h hstep).1) (loopInv_start begun) hrun

theorem LoopInv.running_iff (h : LoopInv interval retryInterval begun s) :
    s.shared.running = true ↔ ∃ startedAt, s.task = some startedAt := by
  rw [h.shared]
  constructor
  · intro hair
    cases htask : s.task with
    | none => exact absurd (h.idle htask) (by rw [show inTheAir s.log = true from hair]; decide)
    | some startedAt => exact ⟨startedAt, rfl⟩
  · rintro ⟨startedAt, htask⟩
    obtain ⟨f, log, hlog, -, hflying, -⟩ := h.task startedAt htask
    change inTheAir s.log = true
    rw [hlog, inTheAir, hflying]
    rfl

/-- Whenever refreshes end and whatever they find: one runs at a time, each starts at least the
retry interval after the one before, and each tick decides by the history of the refreshes. What
was decided is done. -/
theorem loop_run (interval retryInterval begun : Nat) (es : List LoopEvent) (s : RefreshLoop)
    (hrun : run (loopStep interval retryInterval) (RefreshLoop.start begun) es = some s) :
    (s.shared.running = true ↔ ∃ startedAt, s.task = some startedAt) ∧
      (s.log.Pairwise fun later earlier =>
        earlier.ticket.startedAt + retryInterval ≤ later.ticket.startedAt) ∧
      EachStep (loopStep interval retryInterval) (Exact interval retryInterval begun)
        (RefreshLoop.start begun) es := by
  have hinv := loopInv_run hrun
  refine ⟨hinv.running_iff, ?_, ?_⟩
  · let apart (earlier later : Tick) : Prop := earlier.startedAt + retryInterval ≤ later.startedAt
    refine hinv.orderly.pairwise apart (fun f log tick hdue => hdue.1 f rfl) ?_
    intro a b c hab hbc
    simp only [apart] at *
    omega
  · have hagree : ∀ s e s', LoopInv interval retryInterval begun s →
        loopStep interval retryInterval s e = some s' →
        (Exact interval retryInterval begun s e s' ↔ True) := fun s e s' h hstep =>
      iff_true_intro (loopInv_step h hstep).2
    refine (eachStep_congr hagree (fun _ _ _ h hstep _ => (loopInv_step h hstep).1)
      (loopInv_start begun)).mpr ?_
    exact eachStep_of_step fun _ _ _ _ => trivial

/-- The lists of a new control plane are missing, and one country fails. -/
def failedOnce : List LoopEvent :=
  [.tick 7, .askMissing (some true), .tryStart, .finish false]

def firstDay : List LoopEvent :=
  failedOnce ++ [.tick (7 + autoRefreshInterval), .askMissing none, .tryStart]

theorem loop_run_firstDay :
    ∃ s, run (loopStep autoRefreshInterval refreshRetryInterval) (RefreshLoop.start 5) firstDay =
        some s ∧ s.task = some (7 + autoRefreshInterval) ∧ s.log.length = 2 ∧
      EachStep (loopStep autoRefreshInterval refreshRetryInterval)
        (Exact autoRefreshInterval refreshRetryInterval 5) (RefreshLoop.start 5) firstDay := by
  refine ⟨_, rfl, rfl, rfl, ?_⟩
  exact (loop_run autoRefreshInterval refreshRetryInterval 5 firstDay _ rfl).2.2

end Runs

end ControlPlane
end XdpFirewall
