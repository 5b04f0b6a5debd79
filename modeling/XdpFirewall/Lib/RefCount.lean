import Mathlib.Logic.Function.Basic

/-!
# RefCount — counted references to keys

A key is counted while something refers to it, and has no entry otherwise. Each reference is
released once, by whoever acquired it, in any order.
-/

namespace XdpFirewall
namespace Lib

variable {K : Type} [DecidableEq K]

/-- One reference more; the first one makes the entry. -/
def acquire (counts : K → Option Nat) (k : K) : K → Option Nat :=
  Function.update counts k (some ((counts k).getD 0 + 1))

/-- One reference less, if there is an entry; the last one takes the entry away. -/
def release (counts : K → Option Nat) (k : K) : K → Option Nat :=
  match counts k with
  | none => counts
  | some count => Function.update counts k (if count - 1 = 0 then none else some (count - 1))

/-- Whether there is an entry or not, a key has a number. -/
theorem getD_acquire (counts : K → Option Nat) (k k' : K) :
    (acquire counts k k').getD 0 =
      Function.update (fun k => (counts k).getD 0) k ((counts k).getD 0 + 1) k' := by
  rw [acquire]
  by_cases heq : k' = k
  · rw [heq, Function.update_self, Function.update_self, Option.getD_some]
  · rw [Function.update_of_ne heq, Function.update_of_ne heq]

theorem getD_release (counts : K → Option Nat) (k k' : K) :
    (release counts k k').getD 0 =
      Function.update (fun k => (counts k).getD 0) k ((counts k).getD 0 - 1) k' := by
  rw [release]
  by_cases heq : k' = k
  · subst heq
    rw [Function.update_self]
    cases hcount : counts k' with
    | none => simp [hcount]
    | some count =>
        dsimp only
        rw [Function.update_self, Option.getD_some]
        split
        · next hlast => rw [Option.getD_none, hlast]
        · rw [Option.getD_some]
  · rw [Function.update_of_ne heq]
    cases counts k with
    | none => rfl
    | some count => exact congrArg (Option.getD · 0) (Function.update_of_ne heq _ _)

/-- The entries are those of the keys that something refers to, with how many do. -/
def Counted (counts : K → Option Nat) (held : List K) : Prop :=
  ∀ k, counts k = if k ∈ held then some (held.count k) else none

variable {counts : K → Option Nat} {held : List K}

theorem counted_nil : Counted (fun _ : K => none) [] := by
  intro k
  simp

theorem Counted.perm {held' : List K} (h : Counted counts held) (hperm : held.Perm held') :
    Counted counts held' := by
  intro k
  rw [h k, hperm.count_eq k]
  exact if_congr hperm.mem_iff rfl rfl

theorem Counted.acquire (h : Counted counts held) (k : K) :
    Counted (acquire counts k) (k :: held) := by
  intro k'
  by_cases heq : k' = k
  · subst heq
    have hcount : (counts k').getD 0 = held.count k' := by
      rw [h k']
      split
      · rfl
      · next hnot => exact (List.count_eq_zero_of_not_mem hnot).symm
    rw [Lib.acquire, Function.update_self, if_pos List.mem_cons_self, List.count_cons_self, hcount]
  · rw [Lib.acquire, Function.update_of_ne heq, h k', List.count_cons_of_ne (Ne.symm heq)]
    refine if_congr ?_ rfl rfl
    rw [List.mem_cons, or_iff_right heq]

/-- A reference that is held is counted, and its release uncounts it. -/
theorem Counted.release {k : K} (h : Counted counts (k :: held)) :
    Counted (release counts k) held := by
  have hk : counts k = some (held.count k + 1) := by
    rw [h k, if_pos List.mem_cons_self, List.count_cons_self]
  intro k'
  rw [Lib.release, hk]
  by_cases heq : k' = k
  · subst heq
    dsimp only
    rw [Function.update_self, Nat.add_sub_cancel]
    by_cases hmem : k' ∈ held
    · rw [if_pos hmem, if_neg (Nat.ne_of_gt (List.count_pos_iff.mpr hmem))]
    · rw [if_neg hmem, if_pos (List.count_eq_zero_of_not_mem hmem)]
  · dsimp only
    rw [Function.update_of_ne heq, h k', List.count_cons_of_ne (Ne.symm heq)]
    refine if_congr ?_ rfl rfl
    rw [List.mem_cons, or_iff_right heq]

/-- Whoever holds a reference finds a positive count to release. -/
theorem Counted.exists_succ (h : Counted counts held) {k : K} (hk : k ∈ held) :
    ∃ others, counts k = some (others + 1) := by
  refine ⟨held.count k - 1, ?_⟩
  rw [h k, if_pos hk, Nat.sub_add_cancel (List.count_pos_iff.mpr hk)]

theorem Counted.getD_pos_iff (h : Counted counts held) {k : K} :
    0 < (counts k).getD 0 ↔ k ∈ held := by
  rw [h k]
  split
  · next hmem => exact iff_of_true (List.count_pos_iff.mpr hmem) hmem
  · next hnot => exact iff_of_false (Nat.lt_irrefl 0) hnot

end Lib
end XdpFirewall
