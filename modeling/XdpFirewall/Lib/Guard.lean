import XdpFirewall.Lib.Focus

/-!
# Guard — computations whose operations can be refused

A guarded computation asks for each of its operations. It is granted as many as it likes, or only
a number of them; the first one that is not granted ends it and leaves the state as it is at that
moment. What it does until then is what the computation without a guard does.
-/

namespace XdpFirewall
namespace Lib

variable {ε σ A B : Type}

/-- The end of a guarded computation: an operation was refused, or the computation failed. -/
inductive Fault (ε : Type)
  | refused
  | error (e : ε)
  deriving DecidableEq

/-- The second part of the state is how many operations are still granted, `none` standing for
all of them. -/
abbrev Guarded (ε σ A : Type) := EStateM (Fault ε) (σ × Option Nat) A

/-- A computation that asks for nothing. -/
def unguarded (x : EStateM ε σ A) : Guarded ε σ A := fun s =>
  match x.run s.1 with
  | .ok a t => .ok a (t, s.2)
  | .error e t => .error (.error e) (t, s.2)

/-- One operation. -/
def attempt (x : EStateM ε σ A) : Guarded ε σ A := fun s =>
  match s.2 with
  | some 0 => .error .refused s
  | granted =>
      match x.run s.1 with
      | .ok a t => .ok a (t, granted.map (· - 1))
      | .error e t => .error (.error e) (t, granted)

theorem run_unguarded_get_bind (rest : σ → Guarded ε σ B) (s : σ × Option Nat) :
    (unguarded get >>= rest).run s = (rest s.1).run s := rfl

theorem run_refused_bind (x : EStateM ε σ A) (rest : A → Guarded ε σ B) (s : σ) :
    (attempt x >>= rest).run (s, some 0) = .error .refused (s, some 0) := rfl

/-! ## A guarded computation and the one without a guard -/

/-- How a guarded computation ends, compared with the one without a guard. -/
inductive Follows (plain : EStateM.Result ε σ A) (granted : Option Nat) :
    EStateM.Result (Fault ε) (σ × Option Nat) A → Prop
  | ok (a : A) (t : σ) (left : Option Nat) (hplain : plain = .ok a t)
      (hleft : left.isSome = granted.isSome) : Follows plain granted (.ok a (t, left))
  | error (e : ε) (t : σ) (left : Option Nat) (hplain : plain = .error e t) :
      Follows plain granted (.error (.error e) (t, left))
  | refused (s : σ × Option Nat) (hgranted : granted.isSome) :
      Follows plain granted (.error .refused s)

/-- The first computation is the second one under guard. -/
def Guards (x : Guarded ε σ A) (y : EStateM ε σ A) : Prop :=
  ∀ s granted, Follows (y.run s) granted (x.run (s, granted))

theorem guards_unguarded (x : EStateM ε σ A) : Guards (unguarded x) x := by
  intro s granted
  change Follows (x.run s) granted (unguarded x (s, granted))
  rw [unguarded]
  cases h : x.run s with
  | ok a t => exact .ok a t granted rfl rfl
  | error e t => exact .error e t granted rfl

theorem guards_attempt (x : EStateM ε σ A) : Guards (attempt x) x := by
  intro s granted
  change Follows (x.run s) granted (attempt x (s, granted))
  have hgranted : granted = some 0 ∨ attempt x (s, granted) =
      match x.run s with
      | .ok a t => .ok a (t, granted.map (· - 1))
      | .error e t => .error (.error e) (t, granted) := by
    match granted with
    | none => exact Or.inr rfl
    | some 0 => exact Or.inl rfl
    | some (n + 1) => exact Or.inr rfl
  rcases hgranted with rfl | hrun
  · exact .refused _ rfl
  · rw [hrun]
    cases h : x.run s with
    | ok a t => exact .ok a t _ rfl (Option.isSome_map ..)
    | error e t => exact .error e t granted rfl

theorem Guards.bind {x : Guarded ε σ A} {y : EStateM ε σ A} {f : A → Guarded ε σ B}
    {g : A → EStateM ε σ B} (hx : Guards x y) (hf : ∀ a, Guards (f a) (g a)) :
    Guards (x >>= f) (y >>= g) := by
  intro s granted
  rw [EStateM.run_bind, EStateM.run_bind]
  have hfirst := hx s granted
  generalize x.run (s, granted) = r at hfirst ⊢
  cases hfirst with
  | ok a t left hplain hleft =>
      rw [hplain]
      dsimp only
      have hrest := hf a t left
      generalize (f a).run (t, left) = r at hrest ⊢
      cases hrest with
      | ok b u left' hplain' hleft' => exact .ok b u left' hplain' (hleft'.trans hleft)
      | error e u left' hplain' => exact .error e u left' hplain'
      | refused u hgranted => exact .refused u (hleft ▸ hgranted)
  | error e t left hplain =>
      rw [hplain]
      exact .error e t left rfl
  | refused t hgranted => exact .refused t hgranted

theorem guards_pure (a : A) : Guards (pure a : Guarded ε σ A) (pure a) := by
  intro s granted
  exact .ok a s granted rfl rfl

theorem guards_throw (e : ε) : Guards (throw (.error e) : Guarded ε σ A) (throw e) := by
  intro s granted
  exact .error e s granted rfl

theorem guards_forM {f : A → Guarded ε σ PUnit} {g : A → EStateM ε σ PUnit} (l : List A)
    (h : ∀ a ∈ l, Guards (f a) (g a)) : Guards (forM l f) (forM l g) := by
  induction l with
  | nil => exact guards_pure _
  | cons a l ih =>
      rw [List.forM_cons, List.forM_cons]
      exact (h a List.mem_cons_self).bind fun _ =>
        ih fun b hb => h b (List.mem_cons_of_mem a hb)

/-- A guarded computation that ends well has done all that it does without a guard. -/
theorem Guards.run_ok {x : Guarded ε σ A} {y : EStateM ε σ A} (h : Guards x y) {s t : σ}
    {granted left : Option Nat} {a : A} (hrun : x.run (s, granted) = .ok a (t, left)) :
    y.run s = .ok a t := by
  have hfollows := h s granted
  rw [hrun] at hfollows
  cases hfollows with
  | ok _ _ _ hplain _ => exact hplain

/-- Without a limit it ends as it does without a guard. -/
theorem Guards.run_none {x : Guarded ε σ A} {y : EStateM ε σ A} (h : Guards x y) (s : σ) :
    (∃ a t, y.run s = .ok a t ∧ x.run (s, none) = .ok a (t, none)) ∨
      ∃ e t left, y.run s = .error e t ∧ x.run (s, none) = .error (.error e) (t, left) := by
  have hfollows := h s none
  generalize x.run (s, none) = r at hfollows
  cases hfollows with
  | ok a t left hplain hleft =>
      have hnone : left = none := by simpa using hleft
      exact Or.inl ⟨a, t, hplain, by rw [hnone]⟩
  | error e t left hplain => exact Or.inr ⟨e, t, left, hplain, rfl⟩
  | refused t hgranted => cases hgranted

/-! ## When nothing is granted -/

/-- With no operation granted, the computation leaves the state as it is. -/
def Rests (x : Guarded ε σ A) : Prop :=
  ∀ s, (∃ a, x.run (s, some 0) = .ok a (s, some 0)) ∨
    ∃ e, x.run (s, some 0) = .error e (s, some 0)

theorem rests_attempt (x : EStateM ε σ A) : Rests (attempt x) :=
  fun _ => Or.inr ⟨.refused, rfl⟩

theorem rests_pure (a : A) : Rests (pure a : Guarded ε σ A) :=
  fun _ => Or.inl ⟨a, rfl⟩

theorem rests_throw (e : Fault ε) : Rests (throw e : Guarded ε σ A) :=
  fun _ => Or.inr ⟨e, rfl⟩

theorem rests_get : Rests (unguarded get : Guarded ε σ σ) :=
  fun s => Or.inl ⟨s, rfl⟩

theorem Rests.bind {x : Guarded ε σ A} {f : A → Guarded ε σ B} (hx : Rests x)
    (hf : ∀ a, Rests (f a)) : Rests (x >>= f) := by
  intro s
  rw [EStateM.run_bind]
  rcases hx s with ⟨a, hrun⟩ | ⟨e, hrun⟩
  · rw [hrun]
    exact hf a s
  · rw [hrun]
    exact Or.inr ⟨e, rfl⟩

theorem rests_forM {f : A → Guarded ε σ PUnit} (l : List A) (h : ∀ a ∈ l, Rests (f a)) :
    Rests (forM l f) := by
  induction l with
  | nil => exact rests_pure _
  | cons a l ih =>
      rw [List.forM_cons]
      exact (h a List.mem_cons_self).bind fun _ =>
        ih fun b hb => h b (List.mem_cons_of_mem a hb)

end Lib
end XdpFirewall
