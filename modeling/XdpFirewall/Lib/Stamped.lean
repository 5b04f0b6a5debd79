import Mathlib.Algebra.Order.Ring.Int
import Mathlib.Tactic.Common

/-!
# Stamped — a stamp that names what it is put on

A store carries a number, which every write that changes what a reader sees makes larger. Readers
compare numbers in the place of contents.
-/

namespace XdpFirewall
namespace Lib

variable {σ E : Type} {stamp : σ → Int} {Same : σ → σ → Prop} {s s' s'' : σ}

/-- The stamp does not fall, and where it stays, a reader sees the same. -/
structure Stamped (stamp : σ → Int) (Same : σ → σ → Prop) (s s' : σ) : Prop where
  le : stamp s ≤ stamp s'
  same : stamp s' = stamp s → Same s s'

theorem Stamped.refl (hrefl : Same s s) : Stamped stamp Same s s :=
  ⟨Int.le_refl _, fun _ => hrefl⟩

theorem Stamped.of_raised (h : stamp s < stamp s') : Stamped stamp Same s s' :=
  ⟨Int.le_of_lt h, fun hsame => absurd hsame (by omega)⟩

theorem Stamped.trans (htrans : ∀ {a b c}, Same a b → Same b c → Same a c)
    (h : Stamped stamp Same s s') (h' : Stamped stamp Same s' s'') : Stamped stamp Same s s'' where
  le := Int.le_trans h.le h'.le
  same hsame := by
    -- A stamp that comes back has not moved in between.
    have hle := h.le
    have hle' := h'.le
    exact htrans (h.same (by omega)) (h'.same (by omega))

/-- Writes one after the other, with what they keep of the store. -/
theorem stamped_foldl (Inv : σ → Prop) {write : σ → E → σ} (hrefl : ∀ a, Same a a)
    (htrans : ∀ {a b c}, Same a b → Same b c → Same a c) {writes : List E}
    (hstep : ∀ e ∈ writes, ∀ a, Inv a → Inv (write a e) ∧ Stamped stamp Same a (write a e))
    (h : Inv s) : Inv (writes.foldl write s) ∧ Stamped stamp Same s (writes.foldl write s) := by
  induction writes generalizing s with
  | nil => exact ⟨h, Stamped.refl (hrefl s)⟩
  | cons e rest ih =>
      obtain ⟨hinv, hfirst⟩ := hstep e List.mem_cons_self s h
      obtain ⟨hlast, hrest⟩ := ih (fun e he => hstep e (List.mem_cons_of_mem _ he)) hinv
      exact ⟨hlast, hfirst.trans htrans hrest⟩

end Lib
end XdpFirewall
