import Mathlib.Data.List.Basic
import Mathlib.Data.Nat.Basic

/-!
# Records — a sequence cut into pieces of one size

What is left of a sequence after its last whole piece belongs to none. Whole pieces in front of a
sequence are cut off without a change to those behind them.
-/

namespace XdpFirewall
namespace Lib

variable {A : Type}

/-- The whole pieces of a sequence, from its start. -/
def chunksExact (size : Nat) (l : List A) : List (List A) :=
  (List.range (l.length / size)).map fun i => (l.drop (size * i)).take size

theorem length_chunksExact (size : Nat) (l : List A) :
    (chunksExact size l).length = l.length / size := by
  rw [chunksExact, List.length_map, List.length_range]

theorem chunksExact_of_lt {size : Nat} {l : List A} (h : l.length < size) :
    chunksExact size l = [] := by
  rw [chunksExact, Nat.div_eq_of_lt h, List.range_zero, List.map_nil]

theorem chunksExact_append {size : Nat} (hsize : 0 < size) {front : List A}
    (h : size ∣ front.length) (back : List A) :
    chunksExact size (front ++ back) = chunksExact size front ++ chunksExact size back := by
  obtain ⟨count, hcount⟩ := h
  have hwhole : front.length / size = count := by rw [hcount, Nat.mul_div_cancel_left _ hsize]
  have hlen : (front ++ back).length / size = count + back.length / size := by
    rw [List.length_append, hcount, Nat.mul_add_div hsize]
  rw [chunksExact, chunksExact, chunksExact, hlen, hwhole, List.range_add, List.map_append,
    List.map_map]
  congr 1
  · refine List.map_congr_left fun i hi => ?_
    have hroom : size * i + size ≤ front.length := by
      rw [hcount, ← Nat.mul_succ]
      exact Nat.mul_le_mul_left size (List.mem_range.mp hi)
    rw [List.drop_append_of_le_length (by omega), List.take_append_of_le_length]
    rw [List.length_drop]
    omega
  · refine List.map_congr_left fun i _ => ?_
    have hdrop : size * (count + i) = front.length + size * i := by rw [hcount, Nat.mul_add]
    rw [Function.comp_apply, hdrop, List.drop_length_add_append]

/-- The whole pieces up to a border are the pieces of all. -/
theorem chunksExact_take {size : Nat} (hsize : 0 < size) (l : List A) :
    chunksExact size (l.take (l.length / size * size)) = chunksExact size l := by
  have hle : l.length / size * size ≤ l.length := Nat.div_mul_le_self l.length size
  have hborder : size ∣ (l.take (l.length / size * size)).length := by
    rw [List.length_take, Nat.min_eq_left hle]
    exact Nat.dvd_mul_left size _
  have hrest : (l.drop (l.length / size * size)).length < size := by
    rw [List.length_drop, ← Nat.mod_eq_sub_div_mul]
    exact Nat.mod_lt _ hsize
  calc chunksExact size (l.take (l.length / size * size))
      = chunksExact size (l.take (l.length / size * size)) ++
          chunksExact size (l.drop (l.length / size * size)) := by
        rw [chunksExact_of_lt hrest, List.append_nil]
    _ = chunksExact size l := by rw [← chunksExact_append hsize hborder, List.take_append_drop]

end Lib
end XdpFirewall
