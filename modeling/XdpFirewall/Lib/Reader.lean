import Mathlib.Data.List.Basic

/-!
# Reader — what a reader takes from the front of its input

A reader takes something from the front of a list and hands back the rest. Readers that take only
tokens of a kind are put together from such readers.
-/

namespace XdpFirewall
namespace Lib

variable {T A B : Type} {kind kind' : T → Bool}

abbrev Reader (T A : Type) := List T → Option (A × List T)

/-- What is taken is of one kind. -/
def Takes (kind : T → Bool) (read : Reader T A) : Prop :=
  ∀ s a rest, read s = some (a, rest) →
    ∃ front, s = front ++ rest ∧ ∀ c ∈ front, kind c = true

theorem Takes.mono {read : Reader T A} (h : Takes kind read)
    (hkind : ∀ c, kind c = true → kind' c = true) : Takes kind' read := by
  intro s a rest hread
  obtain ⟨front, hs, hfront⟩ := h s a rest hread
  exact ⟨front, hs, fun c hc => hkind c (hfront c hc)⟩

theorem takes_pure (a : A) : Takes kind fun s => some (a, s) := by
  intro s a' rest hread
  cases hread
  exact ⟨[], rfl, nofun⟩

/-- One reader after the other. -/
theorem Takes.bind {read : Reader T A} {next : A → Reader T B} (h : Takes kind read)
    (hnext : ∀ a, Takes kind (next a)) :
    Takes kind fun s => (read s).bind fun found => next found.1 found.2 := by
  intro s b rest hread
  obtain ⟨⟨a, mid⟩, hfirst, hsecond⟩ := Option.bind_eq_some_iff.mp hread
  obtain ⟨front, rfl, hfront⟩ := h s a mid hfirst
  obtain ⟨front', rfl, hfront'⟩ := hnext a mid b rest hsecond
  refine ⟨front ++ front', (List.append_assoc _ _ _).symm, ?_⟩
  intro c hc
  rcases List.mem_append.mp hc with hc | hc
  · exact hfront c hc
  · exact hfront' c hc

theorem drop_length_takeWhile (kind : T → Bool) (s : List T) :
    s.drop (s.takeWhile kind).length = s.dropWhile kind := by
  have hsplit := s.takeWhile_append_dropWhile (p := kind)
  calc s.drop (s.takeWhile kind).length
      = (s.takeWhile kind ++ s.dropWhile kind).drop (s.takeWhile kind).length := by rw [hsplit]
    _ = s.dropWhile kind := List.drop_left

/-- The longest front of one kind. -/
theorem takeWhile_append_drop (kind : T → Bool) (s : List T) :
    s.takeWhile kind ++ s.drop (s.takeWhile kind).length = s := by
  rw [drop_length_takeWhile, List.takeWhile_append_dropWhile]

end Lib
end XdpFirewall
