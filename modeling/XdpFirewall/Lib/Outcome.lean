import Mathlib.Logic.Basic

/-!
# Outcome — what holds when a computation ends

A computation with a state ends well or with an error, and in a state either way. The rules follow
its steps: a step that ends well hands its state on, one that fails ends the whole.
-/

namespace XdpFirewall
namespace Lib

variable {ε σ A B : Type}

/-- From `s` the computation ends in a state with the first property when it ends well, and in one
with the second when it fails. -/
def Ends (x : EStateM ε σ A) (s : σ) (ok : A → σ → Prop) (failed : ε → σ → Prop) : Prop :=
  match x.run s with
  | .ok a t => ok a t
  | .error e t => failed e t

variable {x : EStateM ε σ A} {f : A → EStateM ε σ B} {s t : σ} {ok ok' : A → σ → Prop}
  {failed failed' : ε → σ → Prop}

theorem Ends.of_ok {a : A} (h : Ends x s ok failed) (hrun : x.run s = .ok a t) : ok a t := by
  rw [Ends, hrun] at h
  exact h

theorem Ends.of_error {e : ε} (h : Ends x s ok failed) (hrun : x.run s = .error e t) :
    failed e t := by
  rw [Ends, hrun] at h
  exact h

theorem ends_of_ok {a : A} (hrun : x.run s = .ok a t) (h : ok a t) : Ends x s ok failed := by
  rw [Ends, hrun]
  exact h

theorem ends_of_error {e : ε} (hrun : x.run s = .error e t) (h : failed e t) :
    Ends x s ok failed := by
  rw [Ends, hrun]
  exact h

theorem Ends.mono (h : Ends x s ok failed) (hok : ∀ a t, ok a t → ok' a t)
    (hfailed : ∀ e t, failed e t → failed' e t) : Ends x s ok' failed' := by
  unfold Ends at h ⊢
  cases hrun : x.run s with
  | ok a t =>
      rw [hrun] at h
      exact hok a t h
  | error e t =>
      rw [hrun] at h
      exact hfailed e t h

theorem Ends.bind {then_ : B → σ → Prop} (hx : Ends x s ok failed)
    (hf : ∀ a t, ok a t → Ends (f a) t then_ failed) : Ends (x >>= f) s then_ failed := by
  unfold Ends at hx ⊢
  rw [EStateM.run_bind]
  cases hrun : x.run s with
  | ok a t =>
      rw [hrun] at hx
      exact hf a t hx
  | error e t =>
      rw [hrun] at hx
      exact hx

theorem Ends.map {g : A → B} {ok : B → σ → Prop} (h : Ends x s (fun a t => ok (g a) t) failed) :
    Ends (g <$> x) s ok failed := by
  rw [map_eq_pure_bind]
  exact h.bind fun a t hok => hok

theorem Ends.pure {a : A} (h : ok a s) : Ends (pure a) s ok failed := h

theorem Ends.throw {e : ε} (h : failed e s) : Ends (throw e) s ok failed := h

theorem Ends.get_bind {f : σ → EStateM ε σ A} (h : Ends (f s) s ok failed) :
    Ends (get >>= f) s ok failed := h

theorem Ends.modify {g : σ → σ} {ok : Unit → σ → Prop} (h : ok () (g s)) :
    Ends (modify g) s ok failed := h

/-! ## Runs -/

theorem run_bind_ok_iff {b : B} :
    (x >>= f).run s = .ok b t ↔ ∃ a mid, x.run s = .ok a mid ∧ (f a).run mid = .ok b t := by
  rw [EStateM.run_bind]
  cases x.run s with
  | ok a mid =>
      constructor
      · intro h
        exact ⟨a, mid, rfl, h⟩
      · rintro ⟨a', mid', hfirst, hrest⟩
        cases hfirst
        exact hrest
  | error e mid =>
      constructor
      · intro h
        cases h
      · rintro ⟨a', mid', hfirst, -⟩
        cases hfirst

theorem run_pure_ok_iff {a b : A} :
    (Pure.pure a : EStateM ε σ A).run s = .ok b t ↔ a = b ∧ s = t := by
  rw [EStateM.run_pure, EStateM.Result.ok.injEq]

/-- A computation fails when it does not end well. -/
theorem run_error_iff : (∃ e t, x.run s = .error e t) ↔ ¬ ∃ a t, x.run s = .ok a t := by
  cases x.run s with
  | ok a t => simp
  | error e t => simp

/-- A step that leaves the state as it is. -/
theorem Ends.bind_same {then_ : B → σ → Prop} (hx : Ends x s (fun _ t => t = s) failed)
    (hf : ∀ a, Ends (f a) s then_ failed) : Ends (x >>= f) s then_ failed := by
  refine hx.bind fun a t hsame => ?_
  rw [hsame]
  exact hf a

end Lib
end XdpFirewall
