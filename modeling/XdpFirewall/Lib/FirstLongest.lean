import Mathlib.Data.List.MinMax

/-!
# FirstLongest — the first of the longest items of a list

Items have a size. Of the items of the greatest size the first in the list is taken, so the order
of the list decides between items of one size.
-/

namespace XdpFirewall
namespace Lib

variable {A : Type} {size : A → Nat} {l : List A} {a : A}

/-- The item is as long as any of the list. -/
def isLongest (size : A → Nat) (l : List A) (a : A) : Bool :=
  l.all fun b => size b ≤ size a

def firstLongest? (size : A → Nat) (l : List A) : Option A :=
  l.find? (isLongest size l)

theorem isLongest_iff : isLongest size l a ↔ ∀ b ∈ l, size b ≤ size a := by
  simp [isLongest]

theorem exists_isLongest (h : l ≠ []) : ∃ a ∈ l, isLongest size l a := by
  have hsome : l.argmax size ≠ none := fun hnone => h (List.argmax_eq_none.mp hnone)
  obtain ⟨a, hmax⟩ := Option.ne_none_iff_exists'.mp hsome
  have hmax : a ∈ l.argmax size := hmax
  exact ⟨a, List.argmax_mem hmax, isLongest_iff.mpr fun b hb => List.le_of_mem_argmax hb hmax⟩

theorem firstLongest?_eq_none_iff : firstLongest? size l = none ↔ l = [] := by
  constructor
  · intro hnone
    by_contra hne
    obtain ⟨a, hmem, hlongest⟩ : ∃ a ∈ l, isLongest size l a := exists_isLongest hne
    exact List.find?_eq_none.mp hnone a hmem hlongest
  · rintro rfl
    rfl

theorem mem_of_firstLongest? (h : firstLongest? size l = some a) : a ∈ l :=
  List.mem_of_find?_eq_some h

theorem size_le_of_firstLongest? (h : firstLongest? size l = some a) :
    ∀ b ∈ l, size b ≤ size a :=
  isLongest_iff.mp (List.find?_some h)

/-- The first match of one predicate is the first match of a narrower one that it satisfies. -/
theorem find?_eq_some_of_imp {p q : A → Bool} (h : l.find? p = some a) (ha : q a)
    (himp : ∀ b ∈ l, q b → p b) : l.find? q = some a := by
  obtain ⟨-, before, after, rfl, hbefore⟩ := List.find?_eq_some_iff_append.mp h
  refine List.find?_eq_some_iff_append.mpr ⟨ha, before, after, rfl, fun b hb => ?_⟩
  have hnot := hbefore b hb
  have hmem : b ∈ before ++ a :: after := List.mem_append_left _ hb
  cases hq : q b with
  | false => rfl
  | true => simp [himp b hmem hq] at hnot

/-- Of the items that satisfy `q`, the first longest of those that satisfy `p` comes first, when
the former are among the latter and have its size. -/
theorem find?_of_firstLongest? {p q : A → Bool} (h : firstLongest? size (l.filter p) = some a)
    (ha : q a) (hq : ∀ b ∈ l, q b → p b ∧ size a ≤ size b) : l.find? q = some a := by
  have hlongest := size_le_of_firstLongest? h
  have hfilter : (l.filter p).find? q = some a := by
    refine find?_eq_some_of_imp h ha fun b hb hqb => isLongest_iff.mpr fun c hc => ?_
    exact (hlongest c hc).trans (hq b (List.mem_of_mem_filter hb) hqb).2
  rw [List.find?_filter] at hfilter
  refine find?_eq_some_of_imp hfilter ha fun b hb hqb => ?_
  rw [(hq b hb hqb).1, hqb]
  rfl

end Lib
end XdpFirewall
