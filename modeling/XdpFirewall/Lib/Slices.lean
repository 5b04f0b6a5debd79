import Mathlib.Algebra.BigOperators.Group.List.Basic
import Mathlib.Algebra.Ring.Int.Defs
import Mathlib.Data.List.Perm.Basic

/-!
# Slices — a sweep over keys whose steps keep to their own slice

A state is seen as one slice for each key. A step that reads and writes nothing but the slice of its
key commutes with the steps of all other keys, so that a sweep over distinct keys does to each slice
what its own step alone would have done.
-/

namespace XdpFirewall
namespace Lib

variable {S K V O : Type}

/-- One step for each key, and what each of them gives. -/
def sweep (step : K → S → O × S) : List K → S → List O × S
  | [], s => ([], s)
  | k :: ks, s =>
      let rest := sweep step ks (step k s).2
      ((step k s).1 :: rest.1, rest.2)

/-- The step of a key does `act` to the slice of the key, and nothing to another. -/
structure KeepsToSlice (slice : S → K → V) (step : K → S → O × S) (act : K → V → O × V) :
    Prop where
  gives : ∀ k s, (step k s).1 = (act k (slice s k)).1
  own : ∀ k s, slice (step k s).2 k = (act k (slice s k)).2
  other : ∀ k s j, j ≠ k → slice (step k s).2 j = slice s j

section Sweep

variable {slice : S → K → V} {step : K → S → O × S} {act : K → V → O × V} {ks : List K}

theorem KeepsToSlice.slice_of_notMem (h : KeepsToSlice slice step act) {j : K} (hj : j ∉ ks)
    (s : S) : slice (sweep step ks s).2 j = slice s j := by
  induction ks generalizing s with
  | nil => rfl
  | cons k ks ih =>
      rw [List.mem_cons, not_or] at hj
      calc
        slice (sweep step (k :: ks) s).2 j = slice (step k s).2 j := ih hj.2 _
        _ = slice s j := h.other k s j hj.1

theorem KeepsToSlice.slice_of_mem (h : KeepsToSlice slice step act) (hks : ks.Nodup) {j : K}
    (hj : j ∈ ks) (s : S) : slice (sweep step ks s).2 j = (act j (slice s j)).2 := by
  induction ks generalizing s with
  | nil => cases hj
  | cons k ks ih =>
      obtain ⟨hk, hks⟩ := List.nodup_cons.mp hks
      rcases List.mem_cons.mp hj with rfl | hj
      · calc
          slice (sweep step (j :: ks) s).2 j = slice (step j s).2 j := h.slice_of_notMem hk _
          _ = (act j (slice s j)).2 := h.own j s
      · have hne : j ≠ k := fun hsame => hk (hsame ▸ hj)
        calc
          slice (sweep step (k :: ks) s).2 j = (act j (slice (step k s).2 j)).2 := ih hks hj _
          _ = (act j (slice s j)).2 := by rw [h.other k s j hne]

/-- What the sweep gives can be told from the slices that it has begun with. -/
theorem KeepsToSlice.gives_sweep (h : KeepsToSlice slice step act) (hks : ks.Nodup) (s : S) :
    (sweep step ks s).1 = ks.map fun k => (act k (slice s k)).1 := by
  induction ks generalizing s with
  | nil => rfl
  | cons k ks ih =>
      obtain ⟨hk, hks⟩ := List.nodup_cons.mp hks
      have hrest : (sweep step ks (step k s).2).1 = ks.map fun j => (act j (slice s j)).1 := by
        rw [ih hks]
        refine List.map_congr_left fun j hj => ?_
        rw [h.other k s j fun hsame => hk (hsame ▸ hj)]
      rw [List.map_cons, ← hrest, ← h.gives]
      rfl

/-- A quantity that each step raises by a weight of what it gives. -/
theorem sweep_sum {quantity : S → Int} {weight : O → Int}
    (h : ∀ k s, quantity (step k s).2 = quantity s + weight (step k s).1) (ks : List K) (s : S) :
    quantity (sweep step ks s).2 = quantity s + ((sweep step ks s).1.map weight).sum := by
  induction ks generalizing s with
  | nil => simp [sweep]
  | cons k ks ih =>
      have hrest := ih (step k s).2
      rw [h k s] at hrest
      simp only [sweep, List.map_cons, List.sum_cons]
      rw [hrest, Int.add_assoc]

/-- What every step keeps, the sweep keeps. -/
theorem sweep_keeps {A : Type} {view : S → A} (h : ∀ k s, view (step k s).2 = view s) (ks : List K)
    (s : S) : view (sweep step ks s).2 = view s := by
  induction ks generalizing s with
  | nil => rfl
  | cons k ks ih => exact (ih (step k s).2).trans (h k s)

end Sweep

end Lib
end XdpFirewall
