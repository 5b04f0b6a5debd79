import Mathlib.Data.List.Basic

/-!
# Memory — structs as a C compiler lays them out, and reads that check their bounds

A C compiler puts each field at the next offset that its alignment divides, and fills the gaps
with zeros when the whole struct was zeroed. A reader in another language names offsets of its
own, and stops when one of them is outside the memory. It finds a field when its offset is the
one that the compiler chose.
-/

namespace XdpFirewall
namespace Lib
namespace Memory

universe u

/-! ## Layout -/

/-- A field of a struct with its bytes. -/
structure StructField (Byte : Type u) where
  align : Nat
  size : Nat
  bytes : Vector Byte size

/-- The bytes left out before the next multiple of an alignment. -/
def gap (offset align : Nat) : Nat :=
  (align - offset % align) % align

section Layout

variable {Byte : Type u}

/-- The offset of field `k` when the first field may begin at `offset`. -/
def offsetOf (offset : Nat) : List (StructField Byte) → Nat → Nat
  | [], _ => offset
  | field :: _, 0 => offset + gap offset field.align
  | field :: rest, k + 1 => offsetOf (offset + gap offset field.align + field.size) rest k

/-- Where the last field ends. -/
def endOf (offset : Nat) : List (StructField Byte) → Nat
  | [] => offset
  | field :: rest => endOf (offset + gap offset field.align + field.size) rest

/-- The bytes of the fields from `offset` on. -/
def place (zero : Byte) (offset : Nat) : List (StructField Byte) → List Byte
  | [] => []
  | field :: rest =>
      List.replicate (gap offset field.align) zero ++ field.bytes.toList ++
        place zero (offset + gap offset field.align + field.size) rest

/-- A struct in memory; the last gap makes its size a multiple of its own alignment. -/
def layout (zero : Byte) (align : Nat) (fields : List (StructField Byte)) : List Byte :=
  place zero 0 fields ++ List.replicate (gap (endOf 0 fields) align) zero

end Layout

/-! ## Reads -/

/-- What stops a reader. -/
inductive ReadPanic
  | outOfRange
  | lengthMismatch
  deriving DecidableEq, Repr

section Reads

variable {Byte : Type u}

/-- `memory[i]` -/
def index (memory : List Byte) (i : Nat) : Except ReadPanic Byte :=
  match memory[i]? with
  | some byte => .ok byte
  | none => .error .outOfRange

/-- `&memory[start..stop]` -/
def slice (memory : List Byte) (start stop : Nat) : Except ReadPanic (List Byte) :=
  if start ≤ stop ∧ stop ≤ memory.length then
    .ok ((memory.drop start).take (stop - start))
  else
    .error .outOfRange

/-- `copy_from_slice` into an array of `n` bytes. -/
def copyFromSlice (n : Nat) (src : List Byte) : Except ReadPanic (Vector Byte n) :=
  if h : src.length = n then
    .ok ⟨src.toArray, h⟩
  else
    .error .lengthMismatch

theorem index_ok {memory : List Byte} {i : Nat} (h : i < memory.length) :
    index memory i = .ok memory[i] := by
  rw [index, List.getElem?_eq_getElem h]

theorem slice_ok {memory : List Byte} {start stop : Nat} (hle : start ≤ stop)
    (hstop : stop ≤ memory.length) :
    slice memory start stop = .ok ((memory.drop start).take (stop - start)) :=
  if_pos ⟨hle, hstop⟩

theorem length_of_slice {memory bytes : List Byte} {start stop : Nat}
    (h : slice memory start stop = .ok bytes) : bytes.length = stop - start := by
  rw [slice] at h
  split at h
  · rename_i hbounds
    rw [← Except.ok.inj h, List.length_take, List.length_drop]
    omega
  · cases h

theorem copyFromSlice_ok {n : Nat} {src : List Byte} (h : src.length = n) :
    copyFromSlice n src = .ok ⟨src.toArray, h⟩ :=
  dif_pos h

theorem copyFromSlice_toList {n : Nat} (bytes : Vector Byte n) :
    copyFromSlice n bytes.toList = .ok bytes := by
  rw [copyFromSlice_ok bytes.length_toList]
  rfl

end Reads

/-! ## Fields at their offsets -/

section Holds

variable {Byte : Type u}

/-- The bytes stand in the memory from `offset` on. -/
def HoldsAt (memory : List Byte) (offset : Nat) (bytes : List Byte) : Prop :=
  ∃ before after, memory = before ++ (bytes ++ after) ∧ before.length = offset

theorem HoldsAt.append {memory bytes : List Byte} {offset : Nat} (h : HoldsAt memory offset bytes)
    (tail : List Byte) : HoldsAt (memory ++ tail) offset bytes := by
  rcases h with ⟨before, after, rfl, hoffset⟩
  exact ⟨before, after ++ tail, by simp only [List.append_assoc], hoffset⟩

theorem HoldsAt.slice {memory bytes : List Byte} {start stop : Nat}
    (h : HoldsAt memory start bytes) (hstop : start + bytes.length = stop) :
    slice memory start stop = .ok bytes := by
  rcases h with ⟨before, after, rfl, rfl⟩
  rw [← hstop, slice_ok (Nat.le_add_right _ _) (by simp only [List.length_append]; omega),
    List.drop_left, Nat.add_sub_cancel_left, List.take_left]

theorem HoldsAt.index {memory : List Byte} {i : Nat} {byte : Byte}
    (h : HoldsAt memory i [byte]) : index memory i = .ok byte := by
  rcases h with ⟨before, after, rfl, rfl⟩
  have hget : (before ++ ([byte] ++ after))[before.length]? = some byte := by
    rw [List.getElem?_append_right (Nat.le_refl _), Nat.sub_self]
    rfl
  rw [Memory.index, hget]

theorem holdsAt_place {zero : Byte} {fields : List (StructField Byte)} {k : Nat}
    {field : StructField Byte} (h : fields[k]? = some field) (before : List Byte) :
    HoldsAt (before ++ place zero before.length fields) (offsetOf before.length fields k)
      field.bytes.toList := by
  induction fields generalizing k before with
  | nil => cases h
  | cons first rest ih =>
      let filled := before ++ List.replicate (gap before.length first.align) zero
      have hfilled : filled.length = before.length + gap before.length first.align := by
        rw [List.length_append, List.length_replicate]
      have hplace : before ++ place zero before.length (first :: rest) =
          filled ++ (first.bytes.toList ++
            place zero (filled.length + first.size) rest) := by
        rw [place, hfilled]
        simp only [filled, List.append_assoc]
      cases k with
      | zero =>
          obtain rfl := Option.some.inj h
          exact ⟨filled, _, hplace, hfilled⟩
      | succ k =>
          have hnext : (filled ++ first.bytes.toList).length = filled.length + first.size := by
            rw [List.length_append, first.bytes.length_toList]
          have hrest := ih h (filled ++ first.bytes.toList)
          rw [hnext, List.append_assoc, ← hplace, hfilled] at hrest
          exact hrest

/-- Every field of a struct stands at its offset. -/
theorem holdsAt_layout {zero : Byte} {align : Nat} {fields : List (StructField Byte)} {k : Nat}
    {field : StructField Byte} (h : fields[k]? = some field) :
    HoldsAt (layout zero align fields) (offsetOf 0 fields k) field.bytes.toList :=
  (holdsAt_place h []).append _

theorem length_place (zero : Byte) (offset : Nat) (fields : List (StructField Byte)) :
    offset + (place zero offset fields).length = endOf offset fields := by
  induction fields generalizing offset with
  | nil => rfl
  | cons field rest ih =>
      rw [place, endOf, ← ih, List.length_append, List.length_append, List.length_replicate,
        field.bytes.length_toList]
      omega

theorem length_layout (zero : Byte) (align : Nat) (fields : List (StructField Byte)) :
    (layout zero align fields).length = endOf 0 fields + gap (endOf 0 fields) align := by
  rw [layout, List.length_append, List.length_replicate, ← length_place zero 0 fields,
    Nat.zero_add]

end Holds

end Memory
end Lib
end XdpFirewall
