import Mathlib.Data.List.Induction
import Mathlib.Data.List.Nodup

/-!
# KeyedRows — tables whose rows have a key

A table is a list of rows and a key is the value of a column. The statements of a database that name
a key change the row with that key and leave the rows with other keys alone.
-/

namespace XdpFirewall
namespace Lib

variable {Row K : Type} [DecidableEq K] {key : Row → K}

/-- The first row with a key. -/
def rowOf (key : Row → K) (k : K) (rows : List Row) : Option Row :=
  rows.find? fun row => key row = k

/-- `UPDATE … WHERE key = k` -/
def updateRow (key : Row → K) (k : K) (f : Row → Row) (rows : List Row) : List Row :=
  rows.map fun row => if key row = k then f row else row

/-- `DELETE … WHERE key = k` and `INSERT` of a row with that key -/
def replaceRow (key : Row → K) (row : Row) (rows : List Row) : List Row :=
  (rows.filter fun other => key other ≠ key row) ++ [row]

/-- `INSERT … ON CONFLICT (key) DO UPDATE` of all columns -/
def upsertRow (key : Row → K) (row : Row) (rows : List Row) : List Row :=
  if rows.any fun other => key other = key row then
    updateRow key (key row) (fun _ => row) rows
  else
    rows ++ [row]

theorem rowOf_eq_some {k : K} {rows : List Row} {row : Row} (h : rowOf key k rows = some row) :
    row ∈ rows ∧ key row = k :=
  ⟨List.mem_of_find?_eq_some h, by simpa using List.find?_some h⟩

theorem rowOf_eq_none_iff {k : K} {rows : List Row} :
    rowOf key k rows = none ↔ ∀ row ∈ rows, key row ≠ k := by
  simp [rowOf]

/-! ## Updates -/

theorem rowOf_updateRow_self {k : K} {f : Row → Row} (hf : ∀ row, key row = k → key (f row) = k)
    (rows : List Row) : rowOf key k (updateRow key k f rows) = (rowOf key k rows).map f := by
  induction rows with
  | nil => rfl
  | cons row rows ih =>
      rw [rowOf, updateRow, List.map_cons, List.find?_cons]
      by_cases hrow : key row = k
      · simp [rowOf, hrow, hf row hrow]
      · simpa [rowOf, updateRow, hrow] using ih

theorem rowOf_updateRow_of_ne {k j : K} (hne : j ≠ k) {f : Row → Row}
    (hf : ∀ row, key row = k → key (f row) = k) (rows : List Row) :
    rowOf key j (updateRow key k f rows) = rowOf key j rows := by
  induction rows with
  | nil => rfl
  | cons row rows ih =>
      rw [rowOf, updateRow, List.map_cons, List.find?_cons]
      by_cases hrow : key row = k
      · have hother : ¬ k = j := fun hsame => hne hsame.symm
        simpa [rowOf, updateRow, hrow, hf row hrow, hother] using ih
      · rw [if_neg hrow]
        by_cases hj : key row = j
        · simp [rowOf, hj]
        · simpa [rowOf, updateRow, hj] using ih

/-! ## Replaced rows -/

theorem rowOf_replaceRow_self (row : Row) (rows : List Row) :
    rowOf key (key row) (replaceRow key row rows) = some row := by
  have hgone : (rows.filter fun other => key other ≠ key row).find?
      (fun other => key other = key row) = none := by
    simp
  rw [rowOf, replaceRow, List.find?_append, hgone]
  simp

theorem rowOf_replaceRow_of_ne {row : Row} {j : K} (hne : j ≠ key row) (rows : List Row) :
    rowOf key j (replaceRow key row rows) = rowOf key j rows := by
  have hlast : [row].find? (fun other => key other = j) = none := by
    simp [Ne.symm hne]
  rw [rowOf, replaceRow, List.find?_append, hlast, Option.or_none, List.find?_filter]
  congr 1
  funext other
  by_cases hj : key other = j
  · simp [hj, hne]
  · simp [hj]

/-! ## Upserts -/

theorem rowOf_upsertRow_self (row : Row) (rows : List Row) :
    rowOf key (key row) (upsertRow key row rows) = some row := by
  unfold upsertRow
  split
  · next hany =>
      rw [rowOf_updateRow_self fun _ _ => rfl]
      cases hfound : rowOf key (key row) rows with
      | some other => rfl
      | none =>
          obtain ⟨other, hother, hkey⟩ := List.any_eq_true.mp hany
          exact absurd (of_decide_eq_true hkey) (rowOf_eq_none_iff.mp hfound other hother)
  · next hany =>
      have hgone : rows.find? (fun other => key other = key row) = none := by
        simpa using hany
      rw [rowOf, List.find?_append, hgone]
      simp

theorem rowOf_upsertRow_of_ne {row : Row} {j : K} (hne : j ≠ key row) (rows : List Row) :
    rowOf key j (upsertRow key row rows) = rowOf key j rows := by
  unfold upsertRow
  split
  · exact rowOf_updateRow_of_ne hne (fun _ _ => rfl) rows
  · have hlast : [row].find? (fun other => key other = j) = none := by
      simp [Ne.symm hne]
    rw [rowOf, List.find?_append, hlast, Option.or_none]
    rfl

/-! ## Keys -/

/-- No two rows have the same key. -/
def UniqueKeys (key : Row → K) (rows : List Row) : Prop :=
  (rows.map key).Nodup

theorem UniqueKeys.updateRow {k : K} {f : Row → Row} (hf : ∀ row, key row = k → key (f row) = k)
    {rows : List Row} (h : UniqueKeys key rows) : UniqueKeys key (updateRow key k f rows) := by
  have hkeys : (Lib.updateRow key k f rows).map key = rows.map key := by
    rw [Lib.updateRow, List.map_map]
    refine List.map_congr_left fun row _ => ?_
    rw [Function.comp_apply]
    split
    · next hrow => rw [hf row hrow, hrow]
    · rfl
  rw [UniqueKeys, hkeys]
  exact h

omit [DecidableEq K] in
theorem UniqueKeys.append {row : Row} {rows : List Row} (h : UniqueKeys key rows)
    (hrow : ∀ other ∈ rows, key other ≠ key row) : UniqueKeys key (rows ++ [row]) := by
  rw [UniqueKeys, List.map_append, List.nodup_append]
  refine ⟨h, List.nodup_singleton _, ?_⟩
  intro k hk k' hk'
  obtain ⟨other, hother, rfl⟩ := List.mem_map.mp hk
  rw [List.map_singleton, List.mem_singleton] at hk'
  rw [hk']
  exact hrow other hother

theorem UniqueKeys.upsertRow {row : Row} {rows : List Row} (h : UniqueKeys key rows) :
    UniqueKeys key (upsertRow key row rows) := by
  unfold Lib.upsertRow
  split
  · exact h.updateRow fun _ _ => rfl
  · next hany =>
      refine h.append fun other hother hkey => hany ?_
      exact List.any_eq_true.mpr ⟨other, hother, decide_eq_true hkey⟩

/-! ## Histories -/

theorem mem_upsertRow_iff {row new : Row} {rows : List Row} :
    row ∈ upsertRow key new rows ↔ row = new ∨ row ∈ rows ∧ key row ≠ key new := by
  unfold upsertRow
  split
  · next hany =>
      obtain ⟨old, hold, hkey⟩ := List.any_eq_true.mp hany
      have hkey := of_decide_eq_true hkey
      rw [updateRow, List.mem_map]
      constructor
      · rintro ⟨other, hother, rfl⟩
        split
        · exact Or.inl rfl
        · next hne => exact Or.inr ⟨hother, hne⟩
      · rintro (rfl | ⟨hrow, hne⟩)
        · exact ⟨old, hold, if_pos hkey⟩
        · exact ⟨row, hrow, if_neg hne⟩
  · next hany =>
      have hfresh : ∀ other ∈ rows, key other ≠ key new := fun other hother hkey =>
        hany (List.any_eq_true.mpr ⟨other, hother, decide_eq_true hkey⟩)
      rw [List.mem_append, List.mem_singleton, or_comm]
      refine or_congr_right ⟨fun hrow => ⟨hrow, hfresh row hrow⟩, And.left⟩

omit [DecidableEq K] in
theorem UniqueKeys.filter {rows : List Row} (h : UniqueKeys key rows) (p : Row → Bool) :
    UniqueKeys key (rows.filter p) :=
  (List.filter_sublist.map key).nodup h

section History

variable {E : Type} (put : E → Option Row) (drops : E → Row → Bool)

/-- An event puts a row in the place of that with its key, or removes rows. -/
def tableStep (key : Row → K) (rows : List Row) (e : E) : List Row :=
  match put e with
  | some row => upsertRow key row rows
  | none => rows.filter fun row => !drops e row

/-- The event leaves the row where it is. -/
def Spares (key : Row → K) (e : E) (row : Row) : Prop :=
  match put e with
  | some other => key row ≠ key other
  | none => drops e row = false

/-- The event puts the row, and none of those after it touches it. -/
def Stands (key : Row → K) (es : List E) (row : Row) : Prop :=
  ∃ before e after, es = before ++ e :: after ∧ put e = some row ∧
    ∀ later ∈ after, Spares put drops key later row

variable {put drops}

theorem mem_tableStep_iff {rows : List Row} {e : E} {row : Row} :
    row ∈ tableStep put drops key rows e ↔
      put e = some row ∨ row ∈ rows ∧ Spares put drops key e row := by
  unfold tableStep Spares
  cases put e with
  | some other =>
      refine mem_upsertRow_iff.trans (or_congr_left ?_)
      rw [Option.some_inj, eq_comm]
  | none => simp

omit [DecidableEq K] in
theorem stands_concat_iff {es : List E} {e : E} {row : Row} :
    Stands put drops key (es ++ [e]) row ↔
      put e = some row ∨ Stands put drops key es row ∧ Spares put drops key e row := by
  constructor
  · rintro ⟨before, first, after, hes, hput, hafter⟩
    rcases List.eq_nil_or_concat after with rfl | ⟨after, last, rfl⟩
    · obtain ⟨-, hlast⟩ := List.append_inj' hes rfl
      cases hlast
      exact Or.inl hput
    · have hsplit : es ++ [e] = (before ++ first :: after) ++ [last] := by
        rw [hes, List.concat_eq_append, List.append_assoc, List.cons_append]
      obtain ⟨rfl, hlast⟩ := List.append_inj' hsplit rfl
      cases hlast
      rw [List.concat_eq_append] at hafter
      refine Or.inr ⟨⟨before, first, after, rfl, hput, fun later hlater => ?_⟩, ?_⟩
      · exact hafter later (List.mem_append_left _ hlater)
      · exact hafter e (List.mem_append_right _ List.mem_cons_self)
  · rintro (hput | ⟨⟨before, first, after, rfl, hput, hafter⟩, hspares⟩)
    · exact ⟨es, e, [], rfl, hput, fun later hlater => by cases hlater⟩
    · refine ⟨before, first, after ++ [e], by simp, hput, fun later hlater => ?_⟩
      rcases List.mem_append.mp hlater with hlater | hlater
      · exact hafter later hlater
      · rw [List.mem_singleton.mp hlater]
        exact hspares

/-- The table holds the rows that stand, each once. -/
theorem mem_tableRun_iff {es : List E} {row : Row} :
    row ∈ es.foldl (tableStep put drops key) [] ↔ Stands put drops key es row := by
  induction es using List.reverseRecOn generalizing row with
  | nil =>
      refine iff_of_false (fun h => by cases h) ?_
      rintro ⟨before, e, after, h, -⟩
      cases before <;> cases h
  | append_singleton es e ih =>
      rw [List.foldl_append, List.foldl_cons, List.foldl_nil, mem_tableStep_iff,
        stands_concat_iff, ih]

theorem uniqueKeys_tableRun (es : List E) :
    UniqueKeys key (es.foldl (tableStep put drops key) []) := by
  induction es using List.reverseRecOn with
  | nil => exact List.nodup_nil
  | append_singleton es e ih =>
      rw [List.foldl_append, List.foldl_cons, List.foldl_nil]
      unfold tableStep
      cases put e with
      | some row => exact ih.upsertRow
      | none => exact ih.filter _

end History

end Lib
end XdpFirewall
