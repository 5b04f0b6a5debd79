import Mathlib.Data.List.Basic

/-!
# Cover — dropping the items of a list that another item covers

`compact` keeps an item unless an item at another position covers it. When covering is a strict
order, equal items never cover one another, the positions do not matter, and every item is kept
or covered by a kept one.
-/

namespace XdpFirewall
namespace Lib

variable {A : Type}

def compact (covers : A → A → Bool) (l : List A) : List A :=
  (l.zipIdx.filter fun item =>
    !l.zipIdx.any fun other => other.2 ≠ item.2 && covers other.1 item.1).map Prod.fst

/-- A covering relation that a list can be compacted by. -/
structure IsCovering (covers : A → A → Bool) : Prop where
  irrefl : ∀ a, covers a a = false
  trans : ∀ a b c, covers a b → covers b c → covers a c

theorem any_other_eq {covers : A → A → Bool} (irrefl : ∀ a, covers a a = false) {l : List A}
    {item : A × Nat} (hitem : item ∈ l.zipIdx) :
    (l.zipIdx.any fun other => other.2 ≠ item.2 && covers other.1 item.1) =
      l.any fun other => covers other item.1 := by
  rw [Bool.eq_iff_iff, List.any_eq_true, List.any_eq_true]
  constructor
  · rintro ⟨other, hother, hcov⟩
    rw [Bool.and_eq_true] at hcov
    exact ⟨other.1, List.fst_mem_of_mem_zipIdx hother, hcov.2⟩
  · rintro ⟨other, hother, hcov⟩
    obtain ⟨j, hj⟩ := List.getElem?_of_mem hother
    refine ⟨(other, j), List.mem_zipIdx_iff_getElem?.mpr hj, ?_⟩
    have hne : j ≠ item.2 := by
      rintro rfl
      -- At its own position an item would have to cover itself.
      have hsame := (List.mem_zipIdx_iff_getElem?.mp hitem).symm.trans hj
      rw [Option.some.inj hsame, irrefl other] at hcov
      cases hcov
    simp [hne, hcov]

/-- For an irreflexive relation the positions are irrelevant. -/
theorem compact_eq_filter {covers : A → A → Bool} (irrefl : ∀ a, covers a a = false)
    (l : List A) : compact covers l = l.filter fun a => !l.any fun other => covers other a := by
  have hcongr : compact covers l =
      ((l.zipIdx.filter fun item => !l.any fun other => covers other item.1).map Prod.fst) := by
    refine congrArg _ (List.filter_congr ?_)
    intro item hitem
    rw [any_other_eq irrefl hitem]
  have hmap : (l.zipIdx.map Prod.fst).filter (fun a => !l.any fun other => covers other a) =
      (l.zipIdx.filter fun item => !l.any fun other => covers other item.1).map Prod.fst :=
    List.filter_map
  rw [hcongr, ← hmap, List.zipIdx_map_fst]

theorem mem_compact {covers : A → A → Bool} (irrefl : ∀ a, covers a a = false) {l : List A}
    {a : A} : a ∈ compact covers l ↔ a ∈ l ∧ ∀ other ∈ l, covers other a = false := by
  simp [compact_eq_filter irrefl]

theorem compact_perm {covers : A → A → Bool} (irrefl : ∀ a, covers a a = false) {l l' : List A}
    (h : l.Perm l') : (compact covers l).Perm (compact covers l') := by
  have hsame : (fun a => !l.any fun other => covers other a) =
      fun a => !l'.any fun other => covers other a := by
    funext a
    rw [Bool.not_inj_iff, Bool.eq_iff_iff, List.any_eq_true, List.any_eq_true]
    simp only [h.mem_iff]
  rw [compact_eq_filter irrefl, compact_eq_filter irrefl, hsame]
  exact h.filter _

/-- Following covers upwards from any item of a list ends at an item that nothing covers. -/
theorem exists_uncovered {covers : A → A → Bool} (h : IsCovering covers) {l : List A} {a : A}
    (ha : a ∈ l) :
    ∃ b ∈ l, (b = a ∨ covers b a) ∧ ∀ other ∈ l, covers other b = false := by
  -- The items that cover a covering item are fewer: it is not among them itself.
  induction hn : (l.filter fun other => covers other a).length using Nat.strongRecOn
    generalizing a with
  | ind n ih =>
    by_cases huncovered : ∀ other ∈ l, covers other a = false
    · exact ⟨a, ha, Or.inl rfl, huncovered⟩
    · push Not at huncovered
      obtain ⟨c, hc, hcov⟩ := huncovered
      have hcov : covers c a := by simpa using hcov
      have hnested : (l.filter fun other => covers other c) =
          (l.filter fun other => covers other a).filter fun other => covers other c := by
        rw [List.filter_filter]
        refine List.filter_congr ?_
        intro other _
        cases hoc : covers other c with
        | false => simp
        | true => simp [h.trans other c a hoc hcov]
      have hlt : (l.filter fun other => covers other c).length < n := by
        rw [hnested, ← hn, List.length_filter_lt_length_iff_exists]
        exact ⟨c, by simp [hc, hcov], by simp [h.irrefl c]⟩
      obtain ⟨b, hb, habove, hfree⟩ := ih _ hlt hc rfl
      refine ⟨b, hb, Or.inr ?_, hfree⟩
      rcases habove with rfl | hbc
      · exact hcov
      · exact h.trans b c a hbc hcov

/-- Every item is kept or covered by a kept item. -/
theorem exists_mem_compact {covers : A → A → Bool} (h : IsCovering covers) {l : List A} {a : A}
    (ha : a ∈ l) : ∃ b ∈ compact covers l, b = a ∨ covers b a := by
  obtain ⟨b, hb, habove, hfree⟩ := exists_uncovered h ha
  exact ⟨b, (mem_compact h.irrefl).mpr ⟨hb, hfree⟩, habove⟩

end Lib
end XdpFirewall
