import Mathlib.Tactic.TypeStar

/-!
# Focus — running a computation on one part of a state

A computation on a part of the state leaves the rest alone. Loops of such computations are
computations on the part again, so that what is proved of a loop on the part holds in the whole.
-/

namespace XdpFirewall
namespace Lib

variable {σ τ ε A B : Type}

/-- A part of a state, with the laws of reading and replacing it. -/
structure Part (σ τ : Type) where
  get : σ → τ
  set : τ → σ → σ
  get_set : ∀ t s, get (set t s) = t
  set_get : ∀ s, set (get s) s = s
  set_set : ∀ t t' s, set t (set t' s) = set t s

def focus (part : Part σ τ) (x : EStateM ε τ A) : EStateM ε σ A := fun s =>
  match x.run (part.get s) with
  | .ok a t => .ok a (part.set t s)
  | .error e t => .error e (part.set t s)

theorem run_focus (part : Part σ τ) (x : EStateM ε τ A) (s : σ) :
    (focus part x).run s =
      match x.run (part.get s) with
      | .ok a t => .ok a (part.set t s)
      | .error e t => .error e (part.set t s) :=
  rfl

theorem focus_pure (part : Part σ τ) (a : A) :
    focus part (pure a : EStateM ε τ A) = pure a := by
  funext s
  change (focus part (pure a)).run s = EStateM.Result.ok a s
  rw [run_focus, EStateM.run_pure]
  exact congrArg (EStateM.Result.ok a) (part.set_get s)

theorem focus_throw (part : Part σ τ) (e : ε) :
    focus part (throw e : EStateM ε τ A) = throw e := by
  funext s
  change (focus part (throw e)).run s = EStateM.Result.error e s
  rw [run_focus]
  exact congrArg (EStateM.Result.error e) (part.set_get s)

theorem focus_bind (part : Part σ τ) (x : EStateM ε τ A) (f : A → EStateM ε τ B) :
    focus part (x >>= f) = focus part x >>= fun a => focus part (f a) := by
  funext s
  change (focus part (x >>= f)).run s = (focus part x >>= fun a => focus part (f a)).run s
  rw [run_focus, EStateM.run_bind, EStateM.run_bind, run_focus]
  cases x.run (part.get s) with
  | ok a t =>
      simp only [run_focus, part.get_set, part.set_set]
  | error e t =>
      rfl

theorem forM_focus (part : Part σ τ) (f : A → EStateM ε τ PUnit) (l : List A) :
    (forM l fun a => focus part (f a)) = focus part (forM l f) := by
  induction l with
  | nil =>
      exact (focus_pure part _).symm
  | cons a l ih =>
      rw [List.forM_cons, List.forM_cons, focus_bind, ih]

end Lib
end XdpFirewall
