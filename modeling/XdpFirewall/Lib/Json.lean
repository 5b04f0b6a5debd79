import Mathlib.Data.List.Basic
import Mathlib.Tactic.Common

/-!
# Json — values, and readers that take apart what writers have made

A writer turns data into a value and a reader turns a value into data, or refuses it. Data that
comes back from its value is sent; records, lists and optional data are sent when their parts are.
-/

namespace XdpFirewall
namespace Lib

inductive Json
  | null
  | bool (value : Bool)
  | num (value : Int)
  | str (value : String)
  | arr (items : List Json)
  | obj (fields : List (String × Json))

namespace Json

/-- Within the limits of a parser: not nested too deep, and no number of more than 64 bits. -/
inductive Fits : Nat → Json → Prop
  | null (depth : Nat) : Fits depth .null
  | bool (depth : Nat) (value : Bool) : Fits depth (.bool value)
  | num (depth : Nat) {value : Int} (hlow : -9223372036854775808 ≤ value)
      (hhigh : value < 18446744073709551616) : Fits depth (.num value)
  | str (depth : Nat) (value : String) : Fits depth (.str value)
  | arr {depth : Nat} {items : List Json} (h : ∀ item ∈ items, Fits depth item) :
      Fits (depth + 1) (.arr items)
  | obj {depth : Nat} {fields : List (String × Json)}
      (h : ∀ field ∈ fields, Fits depth field.2) : Fits (depth + 1) (.obj fields)

theorem Fits.mono {depth depth' : Nat} {j : Json} (h : Fits depth j) (hle : depth ≤ depth') :
    Fits depth' j := by
  induction h generalizing depth' with
  | null => exact .null _
  | bool => exact .bool _ _
  | num _ hlow hhigh => exact .num _ hlow hhigh
  | str => exact .str _ _
  | arr h ih =>
      cases depth' with
      | zero => exact absurd hle (Nat.not_succ_le_zero _)
      | succ depth' => exact .arr fun item hitem => ih item hitem (Nat.le_of_succ_le_succ hle)
  | obj h ih =>
      cases depth' with
      | zero => exact absurd hle (Nat.not_succ_le_zero _)
      | succ depth' => exact .obj fun field hfield => ih field hfield (Nat.le_of_succ_le_succ hle)

/-! ## Readers -/

section Readers

variable {A : Type}

def readBool : Json → Option Bool
  | .bool value => some value
  | _ => none

def readStr : Json → Option String
  | .str value => some value
  | _ => none

/-- A number that is at least `low` and below `high`. -/
def readNum (low high : Int) : Json → Option Int
  | .num value => if low ≤ value ∧ value < high then some value else none
  | _ => none

/-- Data that is given as a text. -/
def readText (parse : String → Option A) (j : Json) : Option A :=
  j.readStr.bind parse

def writeOptional (write : A → Json) : Option A → Json
  | none => .null
  | some a => write a

def readOptional (read : Json → Option A) : Json → Option (Option A)
  | .null => some none
  | j => (read j).map some

def writeList (write : A → Json) (as : List A) : Json :=
  .arr (as.map write)

def readList (read : Json → Option A) : Json → Option (List A)
  | .arr items => items.mapM read
  | _ => none

/-- The fields of a record. -/
def readFields : Json → Option (List (String × Json))
  | .obj fields => some fields
  | _ => none

/-- The field of this name. A field that is there twice is refused, and `missing` stands for one
that is not there. -/
def field (fields : List (String × Json)) (name : String) (read : Json → Option A)
    (missing : Option A) : Option A :=
  match fields.filter fun entry => entry.1 = name with
  | [] => missing
  | [entry] => read entry.2
  | _ :: _ :: _ => none

end Readers

/-! ## Data that is sent -/

section Sent

variable {A B : Type} {write : A → Json} {read : Json → Option A} {depth : Nat} {a : A}

/-- The reader makes the data out of what the writer has made of it. -/
structure Sent (write : A → Json) (read : Json → Option A) (depth : Nat) (a : A) : Prop where
  reads : read (write a) = some a
  fits : (write a).Fits depth

theorem sent_bool (depth : Nat) (value : Bool) : Sent .bool readBool depth value :=
  ⟨rfl, .bool _ _⟩

theorem sent_str (depth : Nat) (value : String) : Sent .str readStr depth value :=
  ⟨rfl, .str _ _⟩

theorem sent_text {parse : String → Option A} {display : A → String}
    (h : parse (display a) = some a) (depth : Nat) :
    Sent (fun a => .str (display a)) (readText parse) depth a :=
  ⟨h, .str _ _⟩

/-- Numbers of a type, each of which is a number in a range. -/
theorem sent_num {toInt : A → Int} {ofInt : Int → A} {low high : Int} (h : ofInt (toInt a) = a)
    (hlow : low ≤ toInt a) (hhigh : toInt a < high) (hmin : -9223372036854775808 ≤ low)
    (hmax : high ≤ 18446744073709551616) (depth : Nat) :
    Sent (fun a => .num (toInt a)) (fun j => (readNum low high j).map ofInt) depth a where
  reads := by
    simp only [readNum, if_pos (And.intro hlow hhigh), Option.map_some, h]
  fits := .num _ (Int.le_trans hmin hlow) (Int.lt_of_lt_of_le hhigh hmax)

theorem Sent.optional {value : Option A} (h : ∀ a ∈ value, Sent write read depth a)
    (hnull : ∀ a, write a ≠ .null) :
    Sent (writeOptional write) (readOptional read) depth value := by
  cases value with
  | none => exact ⟨rfl, .null _⟩
  | some a =>
      obtain ⟨hreads, hfits⟩ := h a rfl
      refine ⟨?_, hfits⟩
      rw [writeOptional]
      have hsome : readOptional read (write a) = (read (write a)).map some := by
        -- Only `null` is read as nothing.
        cases hwrite : write a with
        | null => exact absurd hwrite (hnull a)
        | bool | num | str | arr | obj => rfl
      rw [hsome, hreads, Option.map_some]

theorem Sent.list {as : List A} (h : ∀ a ∈ as, Sent write read depth a) :
    Sent (writeList write) (readList read) (depth + 1) as where
  reads := by
    rw [writeList, readList]
    induction as with
    | nil => rfl
    | cons a rest ih =>
        have hrest := ih fun a ha => h a (List.mem_cons_of_mem _ ha)
        rw [List.map_cons, List.mapM_cons, (h a List.mem_cons_self).reads, hrest]
        rfl
  fits := by
    refine .arr fun item hitem => ?_
    obtain ⟨a, ha, rfl⟩ := List.mem_map.mp hitem
    exact (h a ha).fits

end Sent

end Json

end Lib
end XdpFirewall
