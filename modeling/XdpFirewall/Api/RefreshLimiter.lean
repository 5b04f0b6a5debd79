import XdpFirewall.Api.Transaction
import XdpFirewall.Intelligence.GeoRefreshAll
import XdpFirewall.Lib.Flights

/-!
# RefreshLimiter — refreshes that operators ask for

A request starts a refresh in the background unless one is running or was started a short while
ago, and is answered at once with what the last one has found. A request reads the clock before it
gets hold of the limiter, so that others can overtake it.
-/

namespace XdpFirewall
namespace Api

open Lib Intelligence

/-! ## The limiter -/

/-- Instants are nanoseconds. -/
structure RefreshLimiterState (C : Type) where
  lastStarted : Option Nat
  running : Bool
  lastResult : Option C
  deriving DecidableEq

inductive RefreshDecision (C : Type)
  | start (previous : Option C)
  | running (cached : Option C)
  | rateLimited (cached : Option C)
  deriving DecidableEq

/-- A request, with the clock as it has read it. -/
structure RefreshRequest where
  interval : Nat
  now : Nat
  deriving DecidableEq

namespace RefreshLimiterState

variable {C : Type}

def default (C : Type) : RefreshLimiterState C where
  lastStarted := none
  running := false
  lastResult := none

/-- `start_or_cached`, from the lock on. Durations are cut off at zero. -/
def startOrCached (s : RefreshLimiterState C) (request : RefreshRequest) :
    RefreshDecision C × RefreshLimiterState C :=
  if s.running then
    (.running s.lastResult, s)
  else
    match s.lastStarted with
    | some lastStarted =>
        if request.now - lastStarted < request.interval then
          (.rateLimited s.lastResult, s)
        else
          (.start s.lastResult, { s with running := true, lastStarted := some request.now })
    | none => (.start s.lastResult, { s with running := true, lastStarted := some request.now })

/-- `RefreshPermit::finish_success` -/
def finishSuccess (s : RefreshLimiterState C) (result : C) : RefreshLimiterState C :=
  { s with lastResult := some result }

/-- `RefreshPermit::drop`, which also comes when the refresh has failed. -/
def dropPermit (s : RefreshLimiterState C) : RefreshLimiterState C :=
  { s with running := false }

end RefreshLimiterState

/-- `MANUAL_REFRESH_RATE_LIMIT`, one minute. -/
def manualRefreshRateLimit : Nat := 60000000000

/-- The permit is the way in. A refresh tells its result and drops its permit afterwards, if not at
once. -/
def limiterGate (C : Type) : Gate (RefreshLimiterState C) RefreshRequest (RefreshDecision C) C where
  enter s request :=
    match s.startOrCached request with
    | (.start _, s) => .ok s
    | (decision, _) => .error decision
  say s _ result := some (s.finishSuccess result)
  leave s _ result :=
    match result with
    | some result => (s.finishSuccess result).dropPermit
    | none => s.dropPermit

/-! ## Its history -/

section History

variable {C : Type}

abbrev RefreshLog (C : Type) := List (Flight RefreshRequest C)

/-- What the last refresh has found that came to a result. -/
def latestResult (log : RefreshLog C) : Option C :=
  log.findSome? Flight.said

def limiterView (log : RefreshLog C) : RefreshLimiterState C where
  lastStarted := log.head?.map fun f => f.ticket.now
  running := inTheAir log
  lastResult := latestResult log

/-- The interval of the request has passed since the last start. -/
def Elapsed (log : RefreshLog C) (request : RefreshRequest) : Prop :=
  ∀ last, log.head? = some last → request.interval ≤ request.now - last.ticket.now

instance (log : RefreshLog C) (request : RefreshRequest) : Decidable (Elapsed log request) :=
  match h : log.head? with
  | none => isTrue fun last hlast => by
      rw [h] at hlast
      cases hlast
  | some last =>
      decidable_of_iff (request.interval ≤ request.now - last.ticket.now)
        ⟨fun hle f hf => by
          rw [h] at hf
          cases hf
          exact hle, fun hall => hall last h⟩

/-- The decision that the history asks for. -/
def decisionFor (log : RefreshLog C) (request : RefreshRequest) : RefreshDecision C :=
  if inTheAir log then
    .running (latestResult log)
  else if Elapsed log request then
    .start (latestResult log)
  else
    .rateLimited (latestResult log)

theorem elapsed_cons {last : Flight RefreshRequest C} {rest : RefreshLog C}
    {request : RefreshRequest} : Elapsed (last :: rest) request ↔
      ¬ request.now - last.ticket.now < request.interval := by
  simp [Elapsed]

theorem startOrCached_view (log : RefreshLog C) (request : RefreshRequest) :
    (limiterView log).startOrCached request =
      (decisionFor log request,
        if inTheAir log = false ∧ Elapsed log request then
          limiterView (.started request :: log)
        else
          limiterView log) := by
  unfold RefreshLimiterState.startOrCached decisionFor
  cases hair : inTheAir log with
  | true => simp [limiterView, hair]
  | false =>
      cases log with
      | nil =>
          have helapsed : Elapsed ([] : RefreshLog C) request := nofun
          simp [limiterView, helapsed, inTheAir, Flight.started, latestResult]
      | cons last rest =>
          have hview : limiterView (last :: rest) =
              { lastStarted := some last.ticket.now
                running := false
                lastResult := latestResult (last :: rest) } := by
            rw [limiterView, hair]
            rfl
          have hstarted : limiterView (.started request :: last :: rest) =
              { lastStarted := some request.now
                running := true
                lastResult := latestResult (last :: rest) } := rfl
          rw [hview, hstarted]
          by_cases hsoon : request.now - last.ticket.now < request.interval
          · simp [elapsed_cons, hsoon]
          · simp [elapsed_cons, hsoon]

theorem limiterGate_views : (limiterGate C).Views limiterView Elapsed decisionFor where
  entered log request s horderly h := by
    simp only [limiterGate, startOrCached_view, decisionFor] at h
    cases hair : inTheAir log with
    | true =>
        simp [hair] at h
    | false =>
        by_cases helapsed : Elapsed log request
        · simp only [hair, helapsed] at h
          cases h
          exact ⟨(allLanded_iff horderly).mpr hair, helapsed, rfl⟩
        · simp [hair, helapsed] at h
  refused log request decision horderly h := by
    rw [allLanded_iff horderly]
    simp only [limiterGate, startOrCached_view] at h
    have hnot : ¬ (inTheAir log = false ∧ Elapsed log request) := by
      rintro ⟨hair, helapsed⟩
      simp [decisionFor, hair, helapsed] at h
    refine ⟨hnot, ?_⟩
    split at h
    · cases h
    · next hdecision =>
        cases h
        exact (congrArg Prod.fst hdecision).symm
  said f log result s _ hair _ h := by
    cases h
    simp [limiterView, RefreshLimiterState.finishSuccess, latestResult, inTheAir]
  left f log result _ hair _ := by
    cases result with
    | none =>
        simp [limiterGate, limiterView, RefreshLimiterState.dropPermit, latestResult, inTheAir,
          List.findSome?_cons]
    | some result =>
        simp [limiterGate, limiterView, RefreshLimiterState.finishSuccess,
          RefreshLimiterState.dropPermit, latestResult, inTheAir]

theorem decision_run {es : List (GateEvent RefreshRequest C)}
    {s : Gated (RefreshLimiterState C) RefreshRequest (RefreshDecision C) C}
    (hrun : run (limiterGate C).step (Gated.start (RefreshLimiterState.default C)) es = some s)
    (request : RefreshRequest) :
    (s.shared.startOrCached request).1 = decisionFor s.log request := by
  rw [(gateInv_run limiterGate_views hrun).shared, startOrCached_view]

/-- However many requests there are and however they overtake one another: at most one refresh
runs, and a start comes no sooner after the one before than its request allows, by the clock that
the requests have read. A request is answered as the history asks for, with the last result that
there is. -/
theorem limiter_run (es : List (GateEvent RefreshRequest C))
    (s : Gated (RefreshLimiterState C) RefreshRequest (RefreshDecision C) C)
    (hrun : run (limiterGate C).step (Gated.start (RefreshLimiterState.default C)) es = some s) :
    (s.shared.running = true ↔ ∃ i request spoken, s.users i = .inside request spoken) ∧
      (∀ i j a b c d, s.users i = .inside a c → s.users j = .inside b d → i = j) ∧
      (s.log.IsChain fun later earlier =>
        later.ticket.interval ≤ later.ticket.now - earlier.ticket.now) ∧
      (∀ interval, (∀ f ∈ s.log, f.ticket.interval = interval) →
        s.log.Pairwise fun later earlier =>
          interval ≤ later.ticket.now - earlier.ticket.now) ∧
      ∀ request, (s.shared.startOrCached request).1 = decisionFor s.log request := by
  have hinv := gateInv_run limiterGate_views hrun
  have hchain : s.log.IsChain fun later earlier =>
      later.ticket.interval ≤ later.ticket.now - earlier.ticket.now := by
    let apart (earlier later : RefreshRequest) : Prop := later.interval ≤ later.now - earlier.now
    exact hinv.orderly.isChain apart fun last log request helapsed => helapsed last rfl
  refine ⟨?_, hinv.alone, hchain, fun interval hinterval => ?_, decision_run hrun⟩
  · rw [hinv.shared]
    exact ⟨hinv.taken, fun ⟨i, request, spoken, hi⟩ => hinv.inTheAir_of_inside hi⟩
  · let apart (later earlier : Flight RefreshRequest C) : Prop :=
      interval ≤ later.ticket.now - earlier.ticket.now
    have htrans : Trans apart apart apart := ⟨fun hab hbc => by simp only [apart] at *; omega⟩
    have hfixed : s.log.IsChain apart := by
      refine hchain.imp_of_mem_imp fun later earlier hlater _ hle => ?_
      rw [hinterval later hlater] at hle
      exact hle
    exact List.isChain_iff_pairwise.mp hfixed

/-- The first request reads the clock and is overtaken by the second one. -/
def overtaken : List (GateEvent RefreshRequest Nat) :=
  let interval := manualRefreshRateLimit
  [.ask 0 { interval := interval, now := 10 },
    .ask 1 { interval := interval, now := 20 },
    .enter 1,
    .say 1 7,
    .leave 1 none,
    .enter 0]

theorem limiter_run_overtaken :
    ∃ s, run (limiterGate Nat).step (Gated.start (RefreshLimiterState.default Nat)) overtaken =
        some s ∧
      s.users 0 = .refused { interval := manualRefreshRateLimit, now := 10 }
        (.rateLimited (some 7)) ∧
      (s.shared.startOrCached { interval := 0, now := 10 }).1 = decisionFor s.log
        { interval := 0, now := 10 } := by
  refine ⟨_, rfl, rfl, ?_⟩
  exact (limiter_run overtaken _ rfl).2.2.2.2 _

end History

/-! ## Answers -/

structure CachedGeoRefresh where
  version : Int
  report : GeoRefreshReport

/-- `geo_refresh_response_report` -/
def geoRefreshResponseReport (report : GeoRefreshReport) (status : String)
    (cached running : Bool) : GeoRefreshReport :=
  { report with
    refreshStatus := status
    cached := cached
    running := running }

/-- `geo_refresh_response`. The current version is read also when it is not needed. -/
def geoRefreshResponse (currentVersion : ApiResult Int) (cached : Option CachedGeoRefresh)
    (status : String) (running : Bool) : ApiResult (Versioned GeoRefreshReport) := do
  let current ← currentVersion
  match cached with
  | some cached =>
      return {
        version := cached.version
        data := geoRefreshResponseReport cached.report status true running }
  | none =>
      return {
        version := current
        data := geoRefreshResponseReport (.empty status) status false running }

/-- `refresh`, with the decision of the limiter. -/
def refreshAnswer (currentVersion : ApiResult Int) :
    RefreshDecision CachedGeoRefresh → ApiResult (Versioned GeoRefreshReport)
  | .start previous => geoRefreshResponse currentVersion previous "running" true
  | .running cached => geoRefreshResponse currentVersion cached "running" true
  | .rateLimited cached => geoRefreshResponse currentVersion cached "rate_limited" false

/-- An answer says that a refresh runs when one does, be it for this request or for an earlier one,
and has what the last refresh has found. -/
theorem refreshAnswer_run {es : List (GateEvent RefreshRequest CachedGeoRefresh)}
    {s : Gated (RefreshLimiterState CachedGeoRefresh) RefreshRequest
      (RefreshDecision CachedGeoRefresh) CachedGeoRefresh}
    (hrun : run (limiterGate CachedGeoRefresh).step
      (Gated.start (RefreshLimiterState.default CachedGeoRefresh)) es = some s)
    (request : RefreshRequest) (current : Int) :
    ∃ running : Bool, (running = true ↔ inTheAir s.log = true ∨ Elapsed s.log request) ∧
      refreshAnswer (.ok current) (s.shared.startOrCached request).1 =
        geoRefreshResponse (.ok current) (latestResult s.log)
          (if running then "running" else "rate_limited") running := by
  rw [decision_run hrun, decisionFor]
  by_cases hair : inTheAir s.log = true
  · exact ⟨true, by simp [hair], by simp [hair, refreshAnswer]⟩
  · by_cases helapsed : Elapsed s.log request
    · exact ⟨true, by simp [helapsed], by simp [hair, helapsed, refreshAnswer]⟩
    · exact ⟨false, by simp [hair, helapsed], by simp [hair, helapsed, refreshAnswer]⟩

end Api
end XdpFirewall
