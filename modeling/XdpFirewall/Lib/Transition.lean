import Mathlib.Logic.Basic

/-!
# Transition — systems that take one step per event

A system is a partial function from a state and an event to the next state. A run takes a list of
events one after the other. What every step preserves, every run preserves; and a condition on
the steps of a run can be carried along it.
-/

namespace XdpFirewall
namespace Lib

variable {S E : Type} (step : S → E → Option S)

/-- The state after a list of events, when each of them can happen. -/
def run : S → List E → Option S
  | s, [] => some s
  | s, e :: es => (step s e).bind fun s' => run s' es

/-- Every step that the events take from `s` satisfies `ok`. -/
def EachStep (ok : S → E → S → Prop) : S → List E → Prop
  | _, [] => True
  | s, e :: es => ∀ s', step s e = some s' → ok s e s' ∧ EachStep ok s' es

variable {step}

instance decidableEachStep {ok : S → E → S → Prop} [∀ s e s', Decidable (ok s e s')] :
    (s : S) → (es : List E) → Decidable (EachStep step ok s es)
  | _, [] => isTrue trivial
  | s, e :: es =>
      match h : step s e with
      | none => isTrue fun s' hs' => by
          rw [h] at hs'
          cases hs'
      | some s' =>
          have : Decidable (EachStep step ok s' es) := decidableEachStep s' es
          decidable_of_iff (ok s e s' ∧ EachStep step ok s' es)
            ⟨fun hok _ hs' => by
              rw [h] at hs'
              cases hs'
              exact hok, fun hall => hall s' h⟩

theorem run_cons_eq_some_iff {s s'' : S} {e : E} {es : List E} :
    run step s (e :: es) = some s'' ↔ ∃ s', step s e = some s' ∧ run step s' es = some s'' := by
  rw [run, Option.bind_eq_some_iff]

theorem run_append {s : S} {es es' : List E} :
    run step s (es ++ es') = (run step s es).bind fun s' => run step s' es' := by
  induction es generalizing s with
  | nil => rfl
  | cons e es ih =>
      rw [List.cons_append, run, run]
      cases step s e with
      | none => rfl
      | some s' => exact ih

/-- What the steps of a kind preserve, a run of such steps preserves. -/
theorem run_invariant_of_each {Inv : S → Prop} {ok : S → E → S → Prop}
    (hstep : ∀ s e s', Inv s → step s e = some s' → ok s e s' → Inv s') {es : List E} {s s' : S}
    (hinv : Inv s) (heach : EachStep step ok s es) (hrun : run step s es = some s') : Inv s' := by
  induction es generalizing s with
  | nil =>
      cases hrun
      exact hinv
  | cons e es ih =>
      obtain ⟨mid, hmid, hrest⟩ := run_cons_eq_some_iff.mp hrun
      obtain ⟨hok, heach⟩ := heach mid hmid
      exact ih (hstep s e mid hinv hmid hok) heach hrest

theorem eachStep_cons {ok : S → E → S → Prop} {s s' : S} {e : E} {es : List E}
    (hstep : step s e = some s') (hok : ok s e s') (hrest : EachStep step ok s' es) :
    EachStep step ok s (e :: es) := by
  intro next hnext
  rw [hstep] at hnext
  obtain rfl := Option.some.inj hnext
  exact ⟨hok, hrest⟩

theorem EachStep.mono {p q : S → E → S → Prop} (h : ∀ s e s', p s e s' → q s e s') {es : List E}
    {s : S} (hp : EachStep step p s es) : EachStep step q s es := by
  induction es generalizing s with
  | nil => trivial
  | cons e es ih =>
      intro s' hs'
      obtain ⟨hok, hrest⟩ := hp s' hs'
      exact ⟨h s e s' hok, ih hrest⟩

theorem EachStep.and {p q : S → E → S → Prop} {es : List E} {s : S} (hp : EachStep step p s es)
    (hq : EachStep step q s es) : EachStep step (fun s e s' => p s e s' ∧ q s e s') s es := by
  induction es generalizing s with
  | nil => trivial
  | cons e es ih =>
      intro s' hs'
      exact ⟨⟨(hp s' hs').1, (hq s' hs').1⟩, ih (hp s' hs').2 (hq s' hs').2⟩

theorem EachStep.of_append {ok : S → E → S → Prop} {es es' : List E} {s mid : S}
    (h : EachStep step ok s (es ++ es')) (hrun : run step s es = some mid) :
    EachStep step ok mid es' := by
  induction es generalizing s with
  | nil =>
      cases hrun
      exact h
  | cons e es ih =>
      obtain ⟨next, hnext, hrest⟩ := run_cons_eq_some_iff.mp hrun
      exact ih (h next hnext).2 hrest

theorem EachStep.append {ok : S → E → S → Prop} {es es' : List E} {s : S}
    (h : EachStep step ok s es)
    (h' : ∀ mid, run step s es = some mid → EachStep step ok mid es') :
    EachStep step ok s (es ++ es') := by
  induction es generalizing s with
  | nil => exact h' s rfl
  | cons e es ih =>
      intro s' hs'
      obtain ⟨hok, hrest⟩ := h s' hs'
      refine ⟨hok, ih hrest fun mid hmid => h' mid ?_⟩
      rw [run, hs', Option.bind_some, hmid]

theorem EachStep.append_left {ok : S → E → S → Prop} {es es' : List E} {s : S}
    (h : EachStep step ok s (es ++ es')) : EachStep step ok s es := by
  induction es generalizing s with
  | nil => trivial
  | cons e es ih =>
      intro s' hs'
      obtain ⟨hok, hrest⟩ := h s' hs'
      exact ⟨hok, ih hrest⟩

/-- A condition on the events alone. -/
theorem eachStep_of_forall_mem {ok : E → Prop} {es : List E} (h : ∀ e ∈ es, ok e) {s : S} :
    EachStep step (fun _ e _ => ok e) s es := by
  induction es generalizing s with
  | nil => trivial
  | cons e es ih =>
      intro s' _
      exact ⟨h e List.mem_cons_self, ih fun e he => h e (List.mem_cons_of_mem _ he)⟩

/-- What every step of the system satisfies. -/
theorem eachStep_of_step {ok : S → E → S → Prop}
    (h : ∀ s e s', step s e = some s' → ok s e s') {es : List E} {s : S} :
    EachStep step ok s es := by
  induction es generalizing s with
  | nil => trivial
  | cons e es ih =>
      intro s' hs'
      exact ⟨h s e s' hs', ih⟩

/-- What every step preserves, every run preserves. -/
theorem run_invariant {Inv : S → Prop}
    (hstep : ∀ s e s', Inv s → step s e = some s' → Inv s') {es : List E} {s s' : S}
    (hinv : Inv s) (hrun : run step s es = some s') : Inv s' := by
  induction es generalizing s with
  | nil =>
      cases hrun
      exact hinv
  | cons e es ih =>
      obtain ⟨mid, hmid, hrest⟩ := run_cons_eq_some_iff.mp hrun
      exact ih (hstep s e mid hinv hmid) hrest

/-- Two conditions that agree on each step the invariant allows agree on every run. -/
theorem eachStep_congr {Inv : S → Prop} {p q : S → E → S → Prop}
    (hagree : ∀ s e s', Inv s → step s e = some s' → (p s e s' ↔ q s e s'))
    (hstep : ∀ s e s', Inv s → step s e = some s' → q s e s' → Inv s') {es : List E} {s : S}
    (hinv : Inv s) : EachStep step p s es ↔ EachStep step q s es := by
  induction es generalizing s with
  | nil => exact Iff.rfl
  | cons e es ih =>
      refine forall_congr' fun s' => forall_congr' fun hs' => ?_
      rw [hagree s e s' hinv hs']
      exact and_congr_right fun hq => ih (hstep s e s' hinv hs' hq)

end Lib
end XdpFirewall
