import Mathlib.Data.List.Nodup

/-!
# Batches — a queue that is sent in batches until one is refused

A queue is cut into chunks of one size, and the chunks are sent one after the other. A chunk with an
item that is refused is refused as a whole and ends the sending, so that an item gets through when
everything refused stands in a later chunk. In a queue that was sorted, the place of an item is the
number of items that go ahead of it.
-/

namespace XdpFirewall
namespace Lib

variable {A : Type}

/-! ## Chunks -/

def chunksFrom (size : Nat) : Nat → List A → List (List A)
  | fuel + 1, item :: rest =>
      (item :: rest).take size :: chunksFrom size fuel ((item :: rest).drop size)
  | _, _ => []

/-- `chunks`: all but the last one are full. -/
def chunks (size : Nat) (l : List A) : List (List A) :=
  chunksFrom size l.length l

theorem chunksFrom_fuel {size : Nat} (hsize : 0 < size) {fuel fuel' : Nat} {l : List A}
    (h : l.length ≤ fuel) (h' : l.length ≤ fuel') :
    chunksFrom size fuel l = chunksFrom size fuel' l := by
  induction fuel generalizing l fuel' with
  | zero =>
      have hnil : l = [] := List.length_eq_zero_iff.mp (Nat.le_zero.mp h)
      subst hnil
      cases fuel' <;> rfl
  | succ fuel ih =>
      cases l with
      | nil => cases fuel' <;> rfl
      | cons item rest =>
          cases fuel' with
          | zero => cases h'
          | succ fuel' =>
              rw [List.length_cons] at h h'
              have hdrop : ((item :: rest).drop size).length ≤ rest.length := by
                rw [List.length_drop, List.length_cons]
                omega
              rw [chunksFrom, chunksFrom, ih (Nat.le_trans hdrop (Nat.le_of_succ_le_succ h))
                (Nat.le_trans hdrop (Nat.le_of_succ_le_succ h'))]

theorem chunks_nil (size : Nat) : chunks size ([] : List A) = [] := rfl

theorem chunks_of_ne_nil {size : Nat} (hsize : 0 < size) {l : List A} (h : l ≠ []) :
    chunks size l = l.take size :: chunks size (l.drop size) := by
  cases l with
  | nil => exact absurd rfl h
  | cons item rest =>
      have hdrop : ((item :: rest).drop size).length ≤ rest.length := by
        rw [List.length_drop, List.length_cons]
        omega
      rw [chunks, chunks, List.length_cons, chunksFrom,
        chunksFrom_fuel hsize hdrop (Nat.le_refl _)]

/-- A property of queues that follows for a queue from what is left after its first chunk. -/
theorem chunks_induction {size : Nat} (hsize : 0 < size) {motive : List A → Prop}
    (nil : motive []) (chunk : ∀ l, l ≠ [] → motive (l.drop size) → motive l) (l : List A) :
    motive l := by
  induction hlength : l.length using Nat.strongRecOn generalizing l with
  | ind length ih =>
      by_cases hnil : l = []
      · rw [hnil]
        exact nil
      · refine chunk l hnil (ih (l.drop size).length ?_ _ rfl)
        have hpos := List.length_pos_of_ne_nil hnil
        rw [List.length_drop, ← hlength]
        omega

theorem flatten_chunks {size : Nat} (hsize : 0 < size) (l : List A) :
    (chunks size l).flatten = l := by
  induction l using chunks_induction hsize with
  | nil => rfl
  | chunk l hnil ih =>
      rw [chunks_of_ne_nil hsize hnil, List.flatten_cons, ih, List.take_append_drop]

theorem length_of_mem_chunks {size : Nat} (hsize : 0 < size) {l chunk : List A}
    (h : chunk ∈ chunks size l) : 0 < chunk.length ∧ chunk.length ≤ size := by
  induction l using chunks_induction hsize with
  | nil => cases h
  | chunk l hnil ih =>
      rw [chunks_of_ne_nil hsize hnil] at h
      rcases List.mem_cons.mp h with rfl | h
      · have hpos := List.length_pos_of_ne_nil hnil
        rw [List.length_take]
        omega
      · exact ih h

theorem chunks_of_length_le {size : Nat} (hsize : 0 < size) {l : List A} (h : l ≠ [])
    (hle : l.length ≤ size) : chunks size l = [l] := by
  rw [chunks_of_ne_nil hsize h, List.take_of_length_le hle, List.drop_eq_nil_of_le hle, chunks_nil]

/-! ## Sending -/

/-- What gets through. -/
def sent (accepts : A → Bool) : List (List A) → List A
  | [] => []
  | chunk :: rest => if chunk.all accepts then chunk ++ sent accepts rest else []

theorem mem_of_mem_sent {size : Nat} (hsize : 0 < size) {accepts : A → Bool} {l : List A} {a : A}
    (h : a ∈ sent accepts (chunks size l)) : a ∈ l ∧ accepts a = true := by
  induction l using chunks_induction hsize with
  | nil => cases h
  | chunk l hnil ih =>
      rw [chunks_of_ne_nil hsize hnil, sent] at h
      split at h
      · rename_i hall
        rcases List.mem_append.mp h with h | h
        · exact ⟨List.mem_of_mem_take h, List.all_eq_true.mp hall a h⟩
        · obtain ⟨hmem, haccepts⟩ := ih h
          exact ⟨List.mem_of_mem_drop hmem, haccepts⟩
      · cases h

/-- An item gets through when no item is refused up to the end of its chunk. -/
theorem mem_sent_chunks_iff {size : Nat} (hsize : 0 < size) {accepts : A → Bool} {l : List A}
    {a : A} :
    a ∈ sent accepts (chunks size l) ↔
      ∃ i, l[i]? = some a ∧
        ∀ j b, l[j]? = some b → accepts b = false → i / size < j / size := by
  induction l using chunks_induction hsize with
  | nil => simp [chunks, chunksFrom, sent]
  | chunk l hnil ih =>
      rw [chunks_of_ne_nil hsize hnil, sent]
      cases hall : (l.take size).all accepts with
      | false =>
          -- Something is refused in the first chunk, and no place is before that chunk.
          obtain ⟨b, hb, hrefused⟩ := List.all_eq_false.mp hall
          obtain ⟨j, hj⟩ := List.mem_iff_getElem?.mp hb
          have hlt : j < size := by
            have hlength := (List.getElem?_eq_some_iff.mp hj).1
            rw [List.length_take] at hlength
            omega
          rw [List.getElem?_take_of_lt hlt] at hj
          simp only [Bool.false_eq_true, if_false, List.not_mem_nil, false_iff]
          rintro ⟨i, -, hlater⟩
          have hplace := hlater j b hj (by simpa using hrefused)
          rw [Nat.div_eq_of_lt hlt] at hplace
          exact absurd hplace (Nat.not_lt_zero _)
      | true =>
          have hdrop : ∀ j, (l.drop size)[j]? = l[size + j]? := fun j => List.getElem?_drop
          have hplace : ∀ j, (size + j) / size = j / size + 1 :=
            fun j => Nat.add_div_left j hsize
          have hfar : ∀ j b, l[j]? = some b → accepts b = false → size ≤ j := by
            intro j b hj hrefused
            by_contra hlt
            have hmem : b ∈ l.take size := by
              refine List.mem_iff_getElem?.mpr ⟨j, ?_⟩
              rw [List.getElem?_take_of_lt (by omega), hj]
            rw [List.all_eq_true.mp hall b hmem] at hrefused
            cases hrefused
          rw [if_pos rfl, List.mem_append, ih]
          constructor
          · rintro (h | ⟨i, hi, hlater⟩)
            · obtain ⟨i, hi⟩ := List.mem_iff_getElem?.mp h
              have hlt : i < size := by
                have hlength := (List.getElem?_eq_some_iff.mp hi).1
                rw [List.length_take] at hlength
                omega
              rw [List.getElem?_take_of_lt hlt] at hi
              refine ⟨i, hi, fun j b hj hrefused => ?_⟩
              rw [Nat.div_eq_of_lt hlt]
              exact Nat.div_pos (hfar j b hj hrefused) hsize
            · refine ⟨size + i, (hdrop i).symm.trans hi, fun j b hj hrefused => ?_⟩
              obtain ⟨k, rfl⟩ := Nat.exists_eq_add_of_le (hfar j b hj hrefused)
              have hk := hlater k b ((hdrop k).trans hj) hrefused
              rw [hplace, hplace]
              omega
          · rintro ⟨i, hi, hlater⟩
            by_cases hlt : i < size
            · refine .inl (List.mem_iff_getElem?.mpr ⟨i, ?_⟩)
              rw [List.getElem?_take_of_lt hlt, hi]
            · obtain ⟨k, rfl⟩ := Nat.exists_eq_add_of_le (Nat.le_of_not_lt hlt)
              refine .inr ⟨k, (hdrop k).trans hi, fun j b hj hrefused => ?_⟩
              have hj := hlater (size + j) b ((hdrop j).symm.trans hj) hrefused
              rw [hplace, hplace] at hj
              omega

/-! ## Places in a sorted queue -/

theorem not_pair_pair_of_nodup {l : List A} (hl : l.Nodup) {a b : A} (hab : [a, b].Sublist l)
    (hba : [b, a].Sublist l) : False := by
  induction l with
  | nil => cases hab
  | cons c l ih =>
      obtain ⟨hc, hl⟩ := List.nodup_cons.mp hl
      cases hab with
      | cons _ hab =>
          cases hba with
          | cons _ hba => exact ih hl hab hba
          | cons_cons _ hba => exact hc (hab.subset (by simp))
      | cons_cons _ hab =>
          have hb : b ∈ l := hab.subset (by simp)
          cases hba with
          | cons _ hba => exact hc (hba.subset (by simp))
          | cons_cons _ hba => exact hc hb

theorem pair_or_pair {l : List A} {a b : A} (hfirst : a ∈ l) (hsecond : b ∈ l) (hne : a ≠ b) :
    [a, b].Sublist l ∨ [b, a].Sublist l := by
  induction l with
  | nil => cases hfirst
  | cons c l ih =>
      rcases List.mem_cons.mp hfirst with rfl | ha
      · have hb : b ∈ l := (List.mem_cons.mp hsecond).resolve_left hne.symm
        exact .inl (.cons_cons _ (List.singleton_sublist.mpr hb))
      · rcases List.mem_cons.mp hsecond with rfl | hb
        · exact .inr (.cons_cons _ (List.singleton_sublist.mpr ha))
        · exact (ih ha hb).imp (.cons _) (.cons _)

section Sorted

variable [DecidableEq A] (le : A → A → Bool)

/-- `a` goes before `b` when the order says so or leaves it open and `a` comes first. -/
def goesAhead (l : List A) (a b : A) : Bool :=
  !le b a || (le a b && decide ([a, b].Sublist l))

/-- How many go ahead of an item. -/
def place (l : List A) (a : A) : Nat :=
  l.countP fun b => goesAhead le l b a

variable {le}

variable (trans : ∀ a b c, le a b → le b c → le a c) (total : ∀ a b, le a b || le b a)
include trans total

/-- What stands before an item in the sorted queue goes ahead of it. -/
theorem goesAhead_of_sublist {l : List A} (hl : l.Nodup) {a b : A}
    (h : [a, b].Sublist (l.mergeSort le)) : goesAhead le l a b = true := by
  have hsorted : (l.mergeSort le).Nodup := (List.mergeSort_perm l le).nodup_iff.mpr hl
  have hne : a ≠ b := by
    have hpair := hsorted.sublist h
    simpa using hpair
  have hab : le a b = true := by
    have hpair := (List.pairwise_mergeSort trans total l).sublist h
    simpa using hpair
  cases hba : le b a with
  | false => simp [goesAhead, hba]
  | true =>
      have ha : a ∈ l := List.mem_mergeSort.mp (h.subset (by simp))
      have hb : b ∈ l := List.mem_mergeSort.mp (h.subset (by simp))
      rcases pair_or_pair ha hb hne with hpair | hpair
      · simp [goesAhead, hab, hpair]
      · exact (not_pair_pair_of_nodup hsorted h
          (List.pair_sublist_mergeSort trans total hba hpair)).elim

omit trans in
theorem goesAhead_asymm {l : List A} (hl : l.Nodup) {a b : A} (h : goesAhead le l a b = true) :
    goesAhead le l b a = false := by
  have htotal := total a b
  cases hab : le a b <;> cases hba : le b a <;> simp_all [goesAhead]
  intro hpair
  exact not_pair_pair_of_nodup hl h hpair

/-- The place of an item in the sorted queue is the number of items that go ahead of it. -/
theorem place_of_getElem?_mergeSort {l : List A} (hl : l.Nodup) {i : Nat} {a : A}
    (h : (l.mergeSort le)[i]? = some a) : place le l a = i := by
  have hsplit := List.take_append_drop i (l.mergeSort le)
  obtain ⟨hi, hget⟩ := List.getElem?_eq_some_iff.mp h
  rw [List.drop_eq_getElem_cons hi, hget] at hsplit
  have hfront : ∀ b ∈ (l.mergeSort le).take i, goesAhead le l b a = true := by
    intro b hb
    refine goesAhead_of_sublist trans total hl ?_
    rw [← hsplit]
    exact (List.singleton_sublist.mpr hb).append (.cons_cons _ (List.nil_sublist _))
  have hself : goesAhead le l a a = false := by
    by_contra hahead
    have hahead : goesAhead le l a a = true := by simpa using hahead
    rw [goesAhead_asymm total hl hahead] at hahead
    cases hahead
  have hback : ∀ b ∈ (l.mergeSort le).drop (i + 1), goesAhead le l b a = false := by
    intro b hb
    refine goesAhead_asymm total hl (goesAhead_of_sublist trans total hl ?_)
    rw [← hsplit]
    exact (List.nil_sublist _).append (.cons_cons _ (List.singleton_sublist.mpr hb))
  have hcount : (l.mergeSort le).countP (fun b => goesAhead le l b a) = i := by
    rw [← hsplit, List.countP_append, List.countP_cons_of_neg (by simp [hself]),
      List.countP_eq_length.mpr hfront, List.countP_eq_zero.mpr (by simpa using hback),
      List.length_take]
    omega
  rw [place, ← hcount]
  exact (List.mergeSort_perm l le).symm.countP_eq _

end Sorted

end Lib
end XdpFirewall
