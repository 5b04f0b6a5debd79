import XdpFirewall.Lib.Reorder

/-!
# Canonical — one list for every set of elements

Duplicates are dropped and the rest is sorted. Where the order ranks any two elements apart, what
comes out depends on the elements alone: neither on the order in which they were given nor on how
often.
-/

namespace XdpFirewall
namespace Lib

variable {A : Type}

/-- A relation by which a list without duplicates can be sorted in one way only. -/
structure Ranks (le : A → A → Bool) : Prop where
  trans : ∀ a b c, le a b → le b c → le a c
  total : ∀ a b, le a b || le b a
  antisymm : ∀ a b, le a b → le b a → a = b

/-- Of the lists with the same elements, one is sorted and without duplicates. -/
theorem Ranks.eq_of_sorted {le : A → A → Bool} (hle : Ranks le) {l l' : List A}
    (hsorted : l.Pairwise fun a b => le a b = true) (hnodup : l.Nodup)
    (hsorted' : l'.Pairwise fun a b => le a b = true) (hnodup' : l'.Nodup)
    (h : ∀ a, a ∈ l ↔ a ∈ l') : l = l' := by
  have hperm : l.Perm l' := (List.perm_ext_iff_of_nodup hnodup hnodup').mpr h
  exact hperm.eq_of_pairwise (fun a b _ _ => hle.antisymm a b) hsorted hsorted'

variable [BEq A]

def canonical (le : A → A → Bool) (l : List A) : List A :=
  l.eraseDups.mergeSort le

theorem Ranks.pairwise_canonical {le : A → A → Bool} (hle : Ranks le) (l : List A) :
    (canonical le l).Pairwise fun a b => le a b = true :=
  List.pairwise_mergeSort hle.trans hle.total l.eraseDups

variable [LawfulBEq A]

theorem mem_canonical {le : A → A → Bool} {l : List A} {a : A} : a ∈ canonical le l ↔ a ∈ l := by
  rw [canonical, List.mem_mergeSort, List.mem_eraseDups]

theorem nodup_canonical (le : A → A → Bool) (l : List A) : (canonical le l).Nodup :=
  (List.mergeSort_perm l.eraseDups le).nodup_iff.mpr (nodup_eraseDups l)

theorem Ranks.canonical_congr {le : A → A → Bool} (hle : Ranks le) {l l' : List A}
    (h : ∀ a, a ∈ l ↔ a ∈ l') : canonical le l = canonical le l' := by
  refine hle.eq_of_sorted (hle.pairwise_canonical l) (nodup_canonical le l)
    (hle.pairwise_canonical l') (nodup_canonical le l') fun a => ?_
  rw [mem_canonical, mem_canonical, h a]

theorem Ranks.canonical_canonical {le : A → A → Bool} (hle : Ranks le) (l : List A) :
    canonical le (canonical le l) = canonical le l :=
  hle.canonical_congr fun _ => mem_canonical

end Lib
end XdpFirewall
