import Mathlib.Data.List.Chain
import Mathlib.Logic.Function.Basic
import XdpFirewall.Lib.Transition

/-!
# Flights — one at a time through a gate

Many users ask at a gate that lets one of them through at a time, and not too soon after the last
one. What the gate has to know for that is a view of its history: the flights so far, the newest
first. A gate that keeps to its history is safe whatever the users do in between.
-/

namespace XdpFirewall
namespace Lib

/-! ## Histories -/

/-- What a flight started with, what it has said so far, and whether it is over. -/
structure Flight (T R : Type) where
  ticket : T
  said : Option R
  landed : Bool
  deriving DecidableEq

section Histories

variable {T R : Type} {admits : List (Flight T R) → T → Prop} {f : Flight T R}
  {log : List (Flight T R)} {t : T}

def Flight.started (t : T) : Flight T R where
  ticket := t
  said := none
  landed := false

def AllLanded (log : List (Flight T R)) : Prop :=
  ∀ f ∈ log, f.landed = true

/-- Whether the newest flight is still in the air. -/
def inTheAir : List (Flight T R) → Bool
  | [] => false
  | f :: _ => !f.landed

/-- Each flight was admitted after all the earlier ones were over. -/
inductive Orderly (admits : List (Flight T R) → T → Prop) : List (Flight T R) → Prop
  | nil : Orderly admits []
  | cons {f : Flight T R} {log : List (Flight T R)} (hlog : Orderly admits log)
      (hlanded : AllLanded log) (hadmits : admits log f.ticket) : Orderly admits (f :: log)

theorem Orderly.tail (h : Orderly admits (f :: log)) : Orderly admits log := by
  cases h with
  | cons hlog => exact hlog

theorem Orderly.admitted (h : Orderly admits (f :: log)) :
    AllLanded log ∧ admits log f.ticket := by
  cases h with
  | cons _ hlanded hadmits => exact ⟨hlanded, hadmits⟩

theorem Orderly.of_append {later : List (Flight T R)} (h : Orderly admits (later ++ log)) :
    Orderly admits log := by
  induction later with
  | nil => exact h
  | cons f later ih => exact ih h.tail

/-- What a flight says later does not make it less orderly. -/
theorem Orderly.replace (h : Orderly admits (f :: log)) (g : Flight T R)
    (hticket : g.ticket = f.ticket) : Orderly admits (g :: log) := by
  cases h with
  | cons hlog hlanded hadmits => exact .cons hlog hlanded (hticket ▸ hadmits)

theorem allLanded_iff (h : Orderly admits log) : AllLanded log ↔ inTheAir log = false := by
  cases h with
  | nil => exact ⟨fun _ => rfl, fun _ => nofun⟩
  | cons _ hlanded _ =>
      constructor
      · intro hall
        rw [inTheAir, hall _ List.mem_cons_self]
        rfl
      · intro hair f hf
        rcases List.mem_cons.mp hf with rfl | hf
        · simpa [inTheAir] using hair
        · exact hlanded f hf

/-- Where admission looks at the last flight only, each flight keeps its condition with the one
before. -/
theorem Orderly.isChain (h : Orderly admits log) (apart : T → T → Prop)
    (hlast : ∀ f log t, admits (f :: log) t → apart f.ticket t) :
    log.IsChain fun later earlier => apart earlier.ticket later.ticket := by
  induction h with
  | nil => exact List.IsChain.nil
  | @cons f log hlog _ hadmits ih =>
      cases log with
      | nil => exact List.IsChain.singleton _
      | cons last rest => exact List.IsChain.cons_cons (hlast last rest f.ticket hadmits) ih

/-- Where the condition adds up too, any two flights keep it. -/
theorem Orderly.pairwise (h : Orderly admits log) (apart : T → T → Prop)
    (hlast : ∀ f log t, admits (f :: log) t → apart f.ticket t)
    (htrans : ∀ {a b c}, apart a b → apart b c → apart a c) :
    log.Pairwise fun later earlier => apart earlier.ticket later.ticket := by
  let later (f g : Flight T R) : Prop := apart g.ticket f.ticket
  have : Trans later later later := ⟨fun hab hbc => htrans hbc hab⟩
  exact List.isChain_iff_pairwise.mp (h.isChain apart hlast)

end Histories

/-! ## Gates -/

/-- A gate keeps a state. Who is not let in gets an answer; who is inside can say something once,
at the latest on leaving. -/
structure Gate (S T A R : Type) where
  enter : S → T → Except A S
  say : S → T → R → Option S
  leave : S → T → Option R → S

/-- The state of the gate is a view of its history, and its answers follow from that. -/
structure Gate.Views {S T A R : Type} (gate : Gate S T A R) (view : List (Flight T R) → S)
    (admits : List (Flight T R) → T → Prop) (answer : List (Flight T R) → T → A) : Prop where
  entered : ∀ log t s, Orderly admits log → gate.enter (view log) t = .ok s →
    AllLanded log ∧ admits log t ∧ s = view (.started t :: log)
  refused : ∀ log t a, Orderly admits log → gate.enter (view log) t = .error a →
    ¬ (AllLanded log ∧ admits log t) ∧ a = answer log t
  said : ∀ f log r s, Orderly admits (f :: log) → f.landed = false → f.said = none →
    gate.say (view (f :: log)) f.ticket r = some s → s = view ({ f with said := some r } :: log)
  left : ∀ f log r, Orderly admits (f :: log) → f.landed = false → (r = none ∨ f.said = none) →
    gate.leave (view (f :: log)) f.ticket r =
      view ({ f with said := r.or f.said, landed := true } :: log)

/-! ## Users -/

/-- Where a user is. One who asks has a ticket, which can be old by the time the gate is free. -/
inductive User (T A : Type)
  | away
  | asking (ticket : T)
  | inside (ticket : T) (spoken : Bool)
  | refused (ticket : T) (answer : A)

/-- The gate and its users, with the history of the gate. -/
structure Gated (S T A R : Type) where
  shared : S
  users : Nat → User T A
  log : List (Flight T R)

inductive GateEvent (T R : Type)
  | ask (i : Nat) (ticket : T)
  | enter (i : Nat)
  | say (i : Nat) (r : R)
  | leave (i : Nat) (r : Option R)

section Users

variable {S T A R : Type}

def Gated.setUser (s : Gated S T A R) (i : Nat) (user : User T A) : Gated S T A R :=
  { s with users := Function.update s.users i user }

@[simp] theorem Gated.setUser_self (s : Gated S T A R) (i : Nat) (user : User T A) :
    (s.setUser i user).users i = user := by
  simp [Gated.setUser]

theorem Gated.setUser_of_ne (s : Gated S T A R) {i j : Nat} (user : User T A) (h : j ≠ i) :
    (s.setUser i user).users j = s.users j := by
  simp [Gated.setUser, h]

/-- The newest flight in the log becomes another one. -/
def updateNewest (g : Flight T R → Flight T R) : List (Flight T R) → List (Flight T R)
  | [] => []
  | f :: log => g f :: log

namespace Gate

variable (gate : Gate S T A R)

def step (s : Gated S T A R) : GateEvent T R → Option (Gated S T A R)
  | .ask i ticket =>
      match s.users i with
      | .away => some (s.setUser i (.asking ticket))
      | .refused _ _ => some (s.setUser i (.asking ticket))
      | _ => none
  | .enter i =>
      match s.users i with
      | .asking ticket =>
          match gate.enter s.shared ticket with
          | .ok shared =>
              some { s.setUser i (.inside ticket false) with
                shared := shared
                log := .started ticket :: s.log }
          | .error answer => some (s.setUser i (.refused ticket answer))
      | _ => none
  | .say i r =>
      match s.users i with
      | .inside ticket false => (gate.say s.shared ticket r).map fun shared =>
          { s.setUser i (.inside ticket true) with
            shared := shared
            log := updateNewest (fun f => { f with said := some r }) s.log }
      | _ => none
  | .leave i r =>
      match s.users i with
      | .inside ticket spoken =>
          if r.isSome && spoken then
            none
          else
            some { s.setUser i .away with
              shared := gate.leave s.shared ticket r
              log := updateNewest (fun f => { f with said := r.or f.said, landed := true }) s.log }
      | _ => none

end Gate

def Gated.start (shared : S) : Gated S T A R where
  shared := shared
  users _ := .away
  log := []

/-- The gate keeps to its history, and the flight in the air is that of the only user inside. -/
structure GateInv (view : List (Flight T R) → S) (admits : List (Flight T R) → T → Prop)
    (s : Gated S T A R) : Prop where
  shared : s.shared = view s.log
  orderly : Orderly admits s.log
  inside : ∀ i t b, s.users i = .inside t b → ∃ f log, s.log = f :: log ∧ f.ticket = t ∧
    f.landed = false ∧ (b = false → f.said = none)
  alone : ∀ i j t u b c, s.users i = .inside t b → s.users j = .inside u c → i = j
  taken : inTheAir s.log = true → ∃ i t b, s.users i = .inside t b

variable {gate : Gate S T A R} {view : List (Flight T R) → S}
  {admits : List (Flight T R) → T → Prop} {answer : List (Flight T R) → T → A}
  {s s' : Gated S T A R}

theorem gateInv_start : GateInv view admits (Gated.start (view []) : Gated S T A R) where
  shared := rfl
  orderly := .nil
  inside _ _ _ h := by cases h
  alone _ _ _ _ _ _ h := by cases h
  taken h := by cases h

/-- A user outside moves outside. -/
theorem GateInv.outside (h : GateInv view admits s) {i : Nat} {user : User T A}
    (hbefore : ∀ t b, s.users i ≠ .inside t b) (hafter : ∀ t b, user ≠ .inside t b) :
    GateInv view admits (s.setUser i user) := by
  have hsame : ∀ j t b, (s.setUser i user).users j = .inside t b → s.users j = .inside t b := by
    intro j t b hj
    by_cases hij : j = i
    · rw [hij, Gated.setUser_self] at hj
      exact absurd hj (hafter t b)
    · rwa [s.setUser_of_ne user hij] at hj
  refine ⟨h.shared, h.orderly, fun j t b hj => h.inside j t b (hsame j t b hj),
    fun j k t u b c hj hk => h.alone j k t u b c (hsame j t b hj) (hsame k u c hk),
    fun hair => ?_⟩
  obtain ⟨j, t, b, hj⟩ := h.taken hair
  have hij : j ≠ i := fun hij => hbefore t b (hij ▸ hj)
  exact ⟨j, t, b, by rw [s.setUser_of_ne user hij, hj]⟩

/-- While all flights are over, nobody is inside. -/
theorem GateInv.nobody (h : GateInv view admits s) (hlanded : AllLanded s.log) (i : Nat) (t : T)
    (b : Bool) : s.users i ≠ .inside t b := by
  intro hi
  obtain ⟨f, log, hlog, -, hair, -⟩ := h.inside i t b hi
  rw [hlanded f (hlog ▸ List.mem_cons_self)] at hair
  cases hair

theorem GateInv.inTheAir_of_inside (h : GateInv view admits s) {i : Nat} {t : T} {b : Bool}
    (hi : s.users i = .inside t b) : inTheAir s.log = true := by
  obtain ⟨f, log, hlog, -, hair, -⟩ := h.inside i t b hi
  rw [hlog, inTheAir, hair]
  rfl

theorem GateInv.enter (hviews : gate.Views view admits answer) (h : GateInv view admits s) {i : Nat}
    {ticket : T} {shared : S} (henter : gate.enter s.shared ticket = .ok shared) :
    GateInv view admits
      { s.setUser i (.inside ticket false) with
        shared := shared
        log := .started ticket :: s.log } := by
  rw [h.shared] at henter
  obtain ⟨hlanded, hadmits, rfl⟩ := hviews.entered _ _ _ h.orderly henter
  have honly : ∀ j t b, (s.setUser i (.inside ticket false)).users j = .inside t b →
      j = i ∧ t = ticket := by
    intro j t b hj
    by_cases hij : j = i
    · rw [hij, Gated.setUser_self] at hj
      cases hj
      exact ⟨hij, rfl⟩
    · rw [s.setUser_of_ne _ hij] at hj
      exact absurd hj (h.nobody hlanded j t b)
  refine ⟨rfl, .cons h.orderly hlanded hadmits, fun j t b hj => ?_, fun j k t u b c hj hk => ?_,
    fun _ => ⟨i, ticket, false, s.setUser_self i _⟩⟩
  · obtain ⟨-, rfl⟩ := honly j t b hj
    exact ⟨_, _, rfl, rfl, rfl, fun _ => rfl⟩
  · exact (honly j t b hj).1.trans (honly k u c hk).1.symm

/-- What the only user inside says is said of the newest flight. -/
theorem GateInv.say (hviews : gate.Views view admits answer) (h : GateInv view admits s) {i : Nat}
    {ticket : T} {r : R} {shared : S} (hi : s.users i = .inside ticket false)
    (hsay : gate.say s.shared ticket r = some shared) :
    GateInv view admits
      { s.setUser i (.inside ticket true) with
        shared := shared
        log := updateNewest (fun f => { f with said := some r }) s.log } := by
  obtain ⟨f, log, hlog, rfl, hair, hsilent⟩ := h.inside i ticket false hi
  have horderly := h.orderly
  rw [h.shared, hlog] at hsay
  rw [hlog] at horderly
  have honly : ∀ j t b, (s.setUser i (.inside f.ticket true)).users j = .inside t b →
      j = i ∧ t = f.ticket ∧ b = true := by
    intro j t b hj
    by_cases hij : j = i
    · rw [hij, Gated.setUser_self] at hj
      cases hj
      exact ⟨hij, rfl, rfl⟩
    · rw [s.setUser_of_ne _ hij] at hj
      exact absurd (h.alone j i _ _ _ _ hj hi) hij
  rw [hlog, updateNewest]
  refine ⟨hviews.said f log r _ horderly hair (hsilent rfl) hsay, horderly.replace _ rfl,
    fun j t b hj => ?_, fun j k t u b c hj hk => ?_, fun _ => ⟨i, _, _, s.setUser_self i _⟩⟩
  · obtain ⟨-, rfl, rfl⟩ := honly j t b hj
    exact ⟨_, _, rfl, rfl, hair, nofun⟩
  · exact (honly j t b hj).1.trans (honly k u c hk).1.symm

theorem GateInv.leave (hviews : gate.Views view admits answer) (h : GateInv view admits s) {i : Nat}
    {ticket : T} {spoken : Bool} {r : Option R} (hi : s.users i = .inside ticket spoken)
    (honce : ¬ (r.isSome && spoken) = true) :
    GateInv view admits
      { s.setUser i .away with
        shared := gate.leave s.shared ticket r
        log := updateNewest (fun f => { f with said := r.or f.said, landed := true }) s.log } := by
  obtain ⟨f, log, hlog, rfl, hair, hsilent⟩ := h.inside i ticket spoken hi
  have horderly := h.orderly
  rw [hlog] at horderly
  have hnobody : ∀ j t b, (s.setUser i .away).users j ≠ .inside t b := by
    intro j t b hj
    by_cases hij : j = i
    · rw [hij, Gated.setUser_self] at hj
      cases hj
    · rw [s.setUser_of_ne _ hij] at hj
      exact hij (h.alone j i _ _ _ _ hj hi)
  have hsaid : r = none ∨ f.said = none := by
    cases r with
    | none => exact Or.inl rfl
    | some r => exact Or.inr (hsilent (by simpa using honce))
  rw [h.shared, hlog, updateNewest]
  exact ⟨hviews.left f log r horderly hair hsaid, horderly.replace _ rfl,
    fun j t b hj => absurd hj (hnobody j t b), fun j _ t _ b _ hj => absurd hj (hnobody j t b),
    nofun⟩

theorem GateInv.step (hviews : gate.Views view admits answer) (h : GateInv view admits s)
    {e : GateEvent T R} (hstep : gate.step s e = some s') : GateInv view admits s' := by
  cases e with
  | ask i ticket =>
      simp only [Gate.step] at hstep
      split at hstep
      · next hi =>
          cases hstep
          exact h.outside (fun t b => by rw [hi]; exact nofun) nofun
      · next hi =>
          cases hstep
          exact h.outside (fun t b => by rw [hi]; exact nofun) nofun
      · cases hstep
  | enter i =>
      simp only [Gate.step] at hstep
      split at hstep
      · next ticket hi =>
          split at hstep
          · next shared henter =>
              cases hstep
              exact h.enter hviews henter
          · next a henter =>
              cases hstep
              exact h.outside (fun t b => by rw [hi]; exact nofun) nofun
      · cases hstep
  | say i r =>
      simp only [Gate.step] at hstep
      split at hstep
      · next ticket hi =>
          obtain ⟨shared, hsay, rfl⟩ := Option.map_eq_some_iff.mp hstep
          exact h.say hviews hi hsay
      · cases hstep
  | leave i r =>
      simp only [Gate.step] at hstep
      split at hstep
      · next ticket spoken hi =>
          split at hstep
          · cases hstep
          · next honce =>
              cases hstep
              exact h.leave hviews hi honce
      · cases hstep

/-- In every run the gate keeps to its history. -/
theorem gateInv_run (hviews : gate.Views view admits answer) {es : List (GateEvent T R)}
    (hrun : run gate.step (Gated.start (view [])) es = some s) : GateInv view admits s :=
  run_invariant (fun _ _ _ h hstep => h.step hviews hstep) gateInv_start hrun

end Users

end Lib
end XdpFirewall
