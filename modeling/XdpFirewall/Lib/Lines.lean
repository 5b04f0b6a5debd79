import Mathlib.Data.List.Basic

/-!
# Lines — cutting a sequence at a separator while it arrives

A sequence has complete lines, each of which a separator ends, and an open line after the last
separator. Whoever keeps the open line and puts what arrives next behind it cuts the same lines as
one who has the whole sequence.
-/

namespace XdpFirewall
namespace Lib

variable {α : Type} [DecidableEq α] (sep : α)

/-- The lines that a separator ends, without it. -/
def completeLines (xs : List α) : List (List α) :=
  (xs.splitOn sep).dropLast

/-- What stands after the last separator. -/
def openLine (xs : List α) : List α :=
  (xs.splitOn sep).getLast (List.splitOn_ne_nil sep xs)

/-- The lines of a whole sequence: an open line counts unless it is empty. -/
def linesOf (xs : List α) : List (List α) :=
  completeLines sep xs ++ if openLine sep xs = [] then [] else [openLine sep xs]

variable {sep}

theorem completeLines_of_notMem {xs : List α} (h : sep ∉ xs) : completeLines sep xs = [] := by
  rw [completeLines, List.splitOn_eq_singleton h, List.dropLast_singleton]

theorem openLine_of_notMem {xs : List α} (h : sep ∉ xs) : openLine sep xs = xs := by
  simp only [openLine, List.splitOn_eq_singleton h, List.getLast_singleton]

theorem completeLines_append_cons {line : List α} (h : sep ∉ line) (rest : List α) :
    completeLines sep (line ++ sep :: rest) = line :: completeLines sep rest := by
  rw [completeLines, List.splitOn_append_cons_self_of_not_mem h,
    List.dropLast_cons_of_ne_nil (List.splitOn_ne_nil sep rest), completeLines]

theorem openLine_append_cons {line : List α} (h : sep ∉ line) (rest : List α) :
    openLine sep (line ++ sep :: rest) = openLine sep rest := by
  simp only [openLine, List.splitOn_append_cons_self_of_not_mem h,
    List.getLast_cons (List.splitOn_ne_nil sep rest)]

/-- To prove something of every sequence: take the first line off, or there is no separator. -/
theorem lines_induction (sep : α) {motive : List α → Prop} (xs : List α)
    (last : ∀ xs, sep ∉ xs → motive xs)
    (line : ∀ line rest, sep ∉ line → motive rest → motive (line ++ sep :: rest)) :
    motive xs := by
  induction hlen : xs.length using Nat.strongRecOn generalizing xs with
  | ind n ih =>
      by_cases hmem : sep ∈ xs
      · obtain ⟨first, rest, rfl, hfirst⟩ := List.eq_append_cons_of_mem hmem
        refine line first rest hfirst (ih rest.length ?_ rest rfl)
        rw [← hlen, List.length_append, List.length_cons]
        omega
      · exact last xs hmem

theorem notMem_openLine (xs : List α) : sep ∉ openLine sep xs := by
  induction xs using lines_induction sep with
  | last xs h => rwa [openLine_of_notMem h]
  | line line rest h ih => rwa [openLine_append_cons h]

theorem completeLines_append (xs ys : List α) :
    completeLines sep (xs ++ ys) =
      completeLines sep xs ++ completeLines sep (openLine sep xs ++ ys) := by
  induction xs using lines_induction sep with
  | last xs h => rw [completeLines_of_notMem h, openLine_of_notMem h, List.nil_append]
  | line line rest h ih =>
      rw [List.append_assoc, List.cons_append, completeLines_append_cons h,
        completeLines_append_cons h, openLine_append_cons h, ih, List.cons_append]

theorem openLine_append (xs ys : List α) :
    openLine sep (xs ++ ys) = openLine sep (openLine sep xs ++ ys) := by
  induction xs using lines_induction sep with
  | last xs h => rw [openLine_of_notMem h]
  | line line rest h ih =>
      rw [List.append_assoc, List.cons_append, openLine_append_cons h, openLine_append_cons h, ih]

end Lib
end XdpFirewall
