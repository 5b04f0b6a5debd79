import Mathlib.Data.List.Basic

/-!
# SplitOnce — a list split at its first or its last separator
-/

namespace XdpFirewall
namespace Lib

variable {T : Type} [DecidableEq T]

/-- `split_once`: what stands before and after the first separator. -/
def splitOnce (sep : T) : List T → Option (List T × List T)
  | [] => none
  | c :: rest =>
      if c = sep then
        some ([], rest)
      else
        (splitOnce sep rest).map fun (front, back) => (c :: front, back)

/-- `rsplit_once`: what stands before and after the last separator. -/
def rsplitOnce (sep : T) (s : List T) : Option (List T × List T) :=
  (splitOnce sep s.reverse).map fun (back, front) => (front.reverse, back.reverse)

variable {sep : T}

theorem splitOnce_append_cons {front : List T} (h : sep ∉ front) (back : List T) :
    splitOnce sep (front ++ sep :: back) = some (front, back) := by
  induction front with
  | nil => rw [List.nil_append, splitOnce, if_pos rfl]
  | cons c front ih =>
      rw [List.mem_cons, not_or] at h
      obtain ⟨hne, hrest⟩ := h
      rw [List.cons_append, splitOnce, if_neg (Ne.symm hne), ih hrest]
      rfl

theorem splitOnce_of_notMem {s : List T} (h : sep ∉ s) : splitOnce sep s = none := by
  induction s with
  | nil => rfl
  | cons c rest ih =>
      rw [List.mem_cons, not_or] at h
      obtain ⟨hne, hrest⟩ := h
      rw [splitOnce, if_neg (Ne.symm hne), ih hrest]
      rfl

/-- A list either has no separator or is split at its first one. -/
theorem splitOnce_cases (sep : T) (s : List T) :
    (sep ∉ s ∧ splitOnce sep s = none) ∨
      ∃ front back, s = front ++ sep :: back ∧ sep ∉ front ∧
        splitOnce sep s = some (front, back) := by
  by_cases h : sep ∈ s
  · obtain ⟨front, back, rfl, hfront⟩ := List.eq_append_cons_of_mem h
    exact .inr ⟨front, back, rfl, hfront, splitOnce_append_cons hfront back⟩
  · exact .inl ⟨h, splitOnce_of_notMem h⟩

theorem rsplitOnce_append_cons {back : List T} (h : sep ∉ back) (front : List T) :
    rsplitOnce sep (front ++ sep :: back) = some (front, back) := by
  have hreverse : (front ++ sep :: back).reverse = back.reverse ++ sep :: front.reverse := by
    rw [List.reverse_append, List.reverse_cons, List.append_assoc, List.singleton_append]
  rw [rsplitOnce, hreverse, splitOnce_append_cons (by rwa [List.mem_reverse]), Option.map_some]
  dsimp only
  rw [List.reverse_reverse, List.reverse_reverse]

/-- A list either has no separator or is split at its last one. -/
theorem rsplitOnce_cases (sep : T) (s : List T) :
    (sep ∉ s ∧ rsplitOnce sep s = none) ∨
      ∃ front back, s = front ++ sep :: back ∧ sep ∉ back ∧
        rsplitOnce sep s = some (front, back) := by
  rcases splitOnce_cases sep s.reverse with ⟨hnone, hsplit⟩ | ⟨back, front, hs, hback, -⟩
  · left
    rw [rsplitOnce, hsplit]
    exact ⟨by rwa [List.mem_reverse] at hnone, rfl⟩
  · have hsplit : s = front.reverse ++ sep :: back.reverse := by
      rw [← s.reverse_reverse, hs, List.reverse_append, List.reverse_cons, List.append_assoc,
        List.singleton_append]
    have hfree : sep ∉ back.reverse := by rwa [List.mem_reverse]
    refine .inr ⟨front.reverse, back.reverse, hsplit, hfree, ?_⟩
    rw [hsplit, rsplitOnce_append_cons hfree]

end Lib
end XdpFirewall
