import Mathlib.Data.List.Infix
import Mathlib.Data.List.MinMax
import XdpFirewall.Lib.KeyedStore

/-!
# LongestPrefix — longest-match lookup in a store of words

The identity of a key is a word. A lookup reads a query word and returns the entry whose word is
the longest one the query starts with. Words of a store are pairwise different, so the answer is
determined by the set of entries.
-/

namespace XdpFirewall
namespace Lib
namespace KeyedStore

variable {K V α : Type} [DecidableEq α] {word : K → List α}

/-- The entries whose word the query starts with. -/
def candidates (s : KeyedStore K V word) (q : List α) : List (K × V) :=
  s.entries.filter fun entry => word entry.1 <+: q

def longest? (s : KeyedStore K V word) (q : List α) : Option (K × V) :=
  (s.candidates q).argmax fun entry => (word entry.1).length

theorem mem_candidates {s : KeyedStore K V word} {q : List α} {entry : K × V} :
    entry ∈ s.candidates q ↔ entry ∈ s ∧ word entry.1 <+: q := by
  simp [candidates, ← mem_entries]

theorem longest?_eq_none_iff {s : KeyedStore K V word} {q : List α} :
    s.longest? q = none ↔ ∀ entry ∈ s, ¬ word entry.1 <+: q := by
  rw [longest?, List.argmax_eq_none, List.eq_nil_iff_forall_not_mem]
  simp only [mem_candidates, not_and]

theorem length_le_of_longest? {s : KeyedStore K V word} {q : List α} {entry other : K × V}
    (h : s.longest? q = some entry) (hother : other ∈ s) (hmatch : word other.1 <+: q) :
    (word other.1).length ≤ (word entry.1).length := by
  have hmem : entry ∈ (s.candidates q).argmax fun entry => (word entry.1).length := h
  have hle := List.le_of_mem_argmax (mem_candidates.mpr ⟨hother, hmatch⟩) hmem
  exact hle

/-- The answer of a lookup is a matching entry no other matching entry is longer than. -/
theorem longest?_eq_some_iff {s : KeyedStore K V word} {q : List α} {entry : K × V} :
    s.longest? q = some entry ↔
      entry ∈ s ∧ word entry.1 <+: q ∧
        ∀ other ∈ s, word other.1 <+: q → (word other.1).length ≤ (word entry.1).length := by
  constructor
  · intro h
    have hmem := mem_candidates.mp (List.argmax_mem h)
    exact ⟨hmem.1, hmem.2, fun other hother hmatch => length_le_of_longest? h hother hmatch⟩
  · rintro ⟨hmem, hmatch, hmax⟩
    cases h : s.longest? q with
    | none =>
        exact absurd hmatch (longest?_eq_none_iff.mp h entry hmem)
    | some found =>
        have hfound := mem_candidates.mp (List.argmax_mem h)
        have hle := hmax found hfound.1 hfound.2
        have hge := length_le_of_longest? h hmem hmatch
        -- Two words a query starts with are equal when they have the same length.
        have hword : word found.1 = word entry.1 :=
          (List.prefix_of_prefix_length_le hfound.2 hmatch hle).eq_of_length
            (le_antisymm hle hge)
        rw [s.eq_of_ident_eq hfound.1 hmem hword]

end KeyedStore
end Lib
end XdpFirewall
