import Mathlib.Data.Finset.Basic
import Mathlib.Data.List.Nodup
import Mathlib.Data.List.Perm.Subperm

/-!
# FirstWins — collecting a list so that the first item of each identity stays

The collector walks a list, remembers the identities seen so far and keeps an item only when its
identity is new. Run over a stably sorted list, it keeps for each identity the item that is least
by the sorting order and, among equals, by its position before sorting.
-/

namespace XdpFirewall
namespace Lib

variable {A B I : Type}

/-! ## First match in a sorted list -/

/-- The first match of a list whose items are related in order is related to every other match. -/
theorem find?_rel_of_pairwise {r : A → A → Prop} {p : A → Bool} {l : List A} {a b : A}
    (hl : l.Pairwise r) (hfind : l.find? p = some a) (hb : b ∈ l) (hp : p b) :
    b = a ∨ r a b := by
  induction l with
  | nil =>
      simp at hb
  | cons x l ih =>
      rw [List.pairwise_cons] at hl
      cases hx : p x with
      | true =>
          rw [List.find?_cons_of_pos hx] at hfind
          cases hfind
          rcases List.mem_cons.mp hb with rfl | hb
          · exact Or.inl rfl
          · exact Or.inr (hl.1 b hb)
      | false =>
          rw [List.find?_cons_of_neg (by simp [hx])] at hfind
          rcases List.mem_cons.mp hb with rfl | hb
          · simp [hx] at hp
          · exact ih hl.2 hfind hb

/-- Position `i` of `l` holds the least match by `le`, the earlier position first among equals. -/
def IsFirstLeast (le : A → A → Bool) (p : A → Bool) (l : List A) (i : Nat) (a : A) : Prop :=
  l[i]? = some a ∧ p a ∧
    ∀ j b, l[j]? = some b → p b → le a b ∧ (le b a → i ≤ j)

theorem IsFirstLeast.unique {le : A → A → Bool} {p : A → Bool} {l : List A} {i j : Nat}
    {a b : A} (ha : IsFirstLeast le p l i a) (hb : IsFirstLeast le p l j b) : i = j ∧ a = b := by
  obtain ⟨hget, hp, hmin⟩ := ha
  obtain ⟨hget', hp', hmin'⟩ := hb
  obtain ⟨hab, hij⟩ := hmin j b hget' hp'
  obtain ⟨hba, hji⟩ := hmin' i a hget hp
  have hsame : i = j := le_antisymm (hij hba) (hji hab)
  subst hsame
  exact ⟨rfl, Option.some.inj (hget.symm.trans hget')⟩

/-- The least match with no match before it. -/
theorem isFirstLeast_of_split {le : A → A → Bool} {p : A → Bool} {before after : List A} {a : A}
    (hp : p a) (hbefore : ∀ b ∈ before, ¬ p b)
    (hleast : ∀ b ∈ before ++ a :: after, p b → le a b) :
    IsFirstLeast le p (before ++ a :: after) before.length a := by
  refine ⟨by simp, hp, fun j b hget hb => ⟨?_, fun _ => ?_⟩⟩
  · exact hleast b (List.mem_of_getElem? hget) hb
  · by_contra hlt
    rw [List.getElem?_append_left (Nat.not_le.mp hlt)] at hget
    exact hbefore b (List.mem_of_getElem? hget) hb

/-- The first match after a stable sort is the least match before it. -/
theorem find?_mergeSort_eq_some_iff {le : A → A → Bool}
    (trans : ∀ a b c, le a b → le b c → le a c) (total : ∀ a b, le a b || le b a)
    {p : A → Bool} {l : List A} {a : A} :
    (l.mergeSort le).find? p = some a ↔ ∃ i, IsFirstLeast le p l i a := by
  have hpairs := List.pairwise_mergeSort (List.zipIdxLE_trans trans)
    (List.zipIdxLE_total total) l.zipIdx
  have hleast : ∀ x, (l.mergeSort le).find? p = some x → ∃ i, IsFirstLeast le p l i x := by
    intro x hx
    rw [← List.mergeSort_zipIdx, List.find?_map] at hx
    obtain ⟨⟨y, i⟩, hfind, rfl⟩ := Option.map_eq_some_iff.mp hx
    have hmem := List.mem_mergeSort.mp (List.mem_of_find?_eq_some hfind)
    have hp := List.find?_some hfind
    refine ⟨i, List.mem_zipIdx_iff_getElem?.mp hmem, hp, ?_⟩
    intro j b hb hpb
    have hbmem : (b, j) ∈ l.zipIdx.mergeSort (List.zipIdxLE le) :=
      List.mem_mergeSort.mpr (List.mem_zipIdx_iff_getElem?.mpr hb)
    rcases find?_rel_of_pairwise hpairs hfind hbmem hpb with heq | hle
    · cases heq
      exact ⟨by simpa using total y y, fun _ => le_rfl⟩
    · unfold List.zipIdxLE at hle
      split at hle
      · rename_i hab
        refine ⟨hab, fun hba => ?_⟩
        simpa [hba] using hle
      · cases hle
  constructor
  · exact hleast a
  · rintro ⟨i, h⟩
    have hmem : a ∈ l.mergeSort le := List.mem_mergeSort.mpr (List.mem_of_getElem? h.1)
    cases hx : (l.mergeSort le).find? p with
    | none =>
        exact absurd h.2.1 (List.find?_eq_none.mp hx a hmem)
    | some x =>
        obtain ⟨j, hj⟩ := hleast x hx
        rw [(hj.unique h).2]

/-! ## The collector -/

/-- The identities seen and the items kept, in the order they were met. -/
structure Collected (I A : Type) where
  ids : Finset I
  items : List A

namespace Collected

variable [DecidableEq I] {ident : A → I}

def empty : Collected I A where
  ids := ∅
  items := []

def push (ident : A → I) (acc : Collected I A) (a : A) : Collected I A :=
  if ident a ∈ acc.ids then
    acc
  else
    { ids := insert (ident a) acc.ids
      items := acc.items ++ [a] }

def collect (ident : A → I) (l : List A) : Collected I A :=
  l.foldl (push ident) empty

/-- A loop that skips some items and pushes the image of the others collects the images of the
items it does not skip. -/
theorem foldl_eq_collect {step : Collected I A → B → Collected I A} {f : B → Option A}
    (hstep : ∀ acc b, step acc b = match f b with | none => acc | some a => push ident acc a)
    (l : List B) : l.foldl step empty = collect ident (l.filterMap f) := by
  have hfold : ∀ acc, l.foldl step acc = (l.filterMap f).foldl (push ident) acc := by
    induction l with
    | nil =>
        intro acc
        rfl
    | cons b l ih =>
        intro acc
        rw [List.foldl_cons, hstep, ih]
        cases hb : f b with
        | none => rw [List.filterMap_cons_none hb]
        | some a => rw [List.filterMap_cons_some hb, List.foldl_cons]
  exact hfold empty

theorem exists_ident_iff_find? {l : List A} {i : I} :
    (∃ a ∈ l, ident a = i) ↔ (l.find? fun a => ident a = i).isSome := by
  simp [List.find?_isSome]

/-- What the collector knows after any part of its run. -/
structure Sound (ident : A → I) (seen : List A) (acc : Collected I A) : Prop where
  ids : acc.ids = (seen.map ident).toFinset
  nodup : (acc.items.map ident).Nodup
  first : ∀ i, acc.items.find? (fun a => ident a = i) = seen.find? fun a => ident a = i

theorem Sound.push {seen : List A} {acc : Collected I A} (h : Sound ident seen acc) (a : A) :
    Sound ident (seen ++ [a]) (push ident acc a) := by
  have hheld : ∀ i, (∃ b ∈ acc.items, ident b = i) ↔ ∃ b ∈ seen, ident b = i := by
    intro i
    rw [exists_ident_iff_find?, exists_ident_iff_find?, h.first i]
  by_cases hold : ident a ∈ acc.ids
  · -- The identity is known, so an earlier item answers for it on both sides.
    have hseen : ∃ b ∈ seen, ident b = ident a := by
      simpa [h.ids] using hold
    rw [Collected.push, if_pos hold]
    refine ⟨?_, h.nodup, ?_⟩
    · rw [h.ids]
      ext i
      simp only [List.mem_toFinset, List.mem_map, List.mem_append, List.mem_singleton]
      constructor
      · rintro ⟨b, hb, rfl⟩
        exact ⟨b, Or.inl hb, rfl⟩
      · rintro ⟨b, hb | rfl, rfl⟩
        · exact ⟨b, hb, rfl⟩
        · exact hseen
    · intro i
      rw [List.find?_append, h.first i]
      cases hfind : seen.find? fun b => ident b = i with
      | some b => rfl
      | none =>
          have hne : ident a ≠ i := by
            obtain ⟨b, hb, hident⟩ := hseen
            have := List.find?_eq_none.mp hfind b hb
            simpa [hident] using this
          simp [hne]
  · have hfresh : ¬ ∃ b ∈ acc.items, ident b = ident a := by
      rw [hheld]
      simpa [h.ids] using hold
    rw [Collected.push, if_neg hold]
    refine ⟨?_, ?_, ?_⟩
    · ext i
      rw [Finset.mem_insert, h.ids, List.mem_toFinset, List.mem_toFinset, List.map_append,
        List.map_singleton, List.mem_append, List.mem_singleton, or_comm]
    · rw [List.map_append, List.map_singleton, List.nodup_append]
      refine ⟨h.nodup, List.nodup_singleton _, ?_⟩
      rintro i hi j hj rfl
      obtain ⟨b, hb, rfl⟩ := List.mem_map.mp hi
      exact hfresh ⟨b, hb, List.mem_singleton.mp hj⟩
    · intro i
      rw [List.find?_append, List.find?_append, h.first i]

theorem collect_sound (ident : A → I) (l : List A) : Sound ident l (collect ident l) := by
  suffices hfold : ∀ (rest seen : List A) (acc : Collected I A), Sound ident seen acc →
      Sound ident (seen ++ rest) (rest.foldl (Collected.push ident) acc) by
    have hempty : Sound ident [] (empty : Collected I A) :=
      ⟨by simp [empty], by simp [empty], by simp [empty]⟩
    simpa [collect] using hfold l [] empty hempty
  intro rest
  induction rest with
  | nil =>
      intro seen acc h
      simpa using h
  | cons a rest ih =>
      intro seen acc h
      simpa using ih (seen ++ [a]) (Collected.push ident acc a) (h.push a)

theorem mem_ids_collect {l : List A} {i : I} :
    i ∈ (collect ident l).ids ↔ ∃ a ∈ l, ident a = i := by
  simp [(collect_sound ident l).ids]

/-- The kept items are those the list meets first among the items of their identity. -/
theorem mem_items_collect {l : List A} {a : A} :
    a ∈ (collect ident l).items ↔ l.find? (fun b => ident b = ident a) = some a := by
  rw [← (collect_sound ident l).first]
  constructor
  · intro h
    have hsome : ((collect ident l).items.find? fun b => ident b = ident a).isSome := by
      rw [List.find?_isSome]
      exact ⟨a, h, by simp⟩
    obtain ⟨b, hb⟩ := Option.isSome_iff_exists.mp hsome
    have hident := List.find?_some hb
    have hsame := List.inj_on_of_nodup_map (collect_sound ident l).nodup
      (List.mem_of_find?_eq_some hb) h (by simpa using hident)
    rw [hb, hsame]
  · exact List.mem_of_find?_eq_some

theorem mem_of_mem_items_collect {l : List A} {a : A} (h : a ∈ (collect ident l).items) : a ∈ l :=
  List.mem_of_find?_eq_some (mem_items_collect.mp h)

/-- The identities of the kept items are the identities seen. -/
theorem mem_ids_iff_mem_items {l : List A} {i : I} :
    i ∈ (collect ident l).ids ↔ ∃ a ∈ (collect ident l).items, ident a = i := by
  rw [mem_ids_collect, exists_ident_iff_find?, exists_ident_iff_find?,
    (collect_sound ident l).first]

/-- A finer identity than the collecting one has no duplicates among the kept items either. -/
theorem nodup_items_map {J : Type} {ident' : A → J} {l : List A}
    (h : ∀ a ∈ l, ∀ b ∈ l, ident' a = ident' b → ident a = ident b) :
    ((collect ident l).items.map ident').Nodup := by
  have hpairs := List.pairwise_map.mp (collect_sound ident l).nodup
  refine List.pairwise_map.mpr (hpairs.imp_of_mem ?_)
  intro a b ha hb hne hsame
  exact hne (h a (mem_of_mem_items_collect ha) b (mem_of_mem_items_collect hb) hsame)

theorem length_items_collect_le (ident : A → I) (l : List A) :
    (collect ident l).items.length ≤ l.length := by
  have hnodup : (collect ident l).items.Nodup := (collect_sound ident l).nodup.of_map ident
  exact (hnodup.subperm fun _ ha => mem_of_mem_items_collect ha).length_le

/-- Items collected by their keys: each key keeps the first of the items that have it. -/
theorem mem_items_keyed {A K : Type} {key : A → K} {ident : K → I} {same : A → A → Prop}
    [∀ a b, Decidable (same a b)] (hsame : ∀ a b, ident (key a) = ident (key b) ↔ same a b)
    {l : List A} {item : K × A} :
    item ∈ (collect (fun item => ident item.1) (l.map fun a => (key a, a))).items ↔
      ∃ a, l.find? (fun b => decide (same b a)) = some a ∧ item = (key a, a) := by
  have hfirst (a : A) : (key a, a) ∈
      (collect (fun item => ident item.1) (l.map fun a => (key a, a))).items ↔
      l.find? (fun b => decide (same b a)) = some a := by
    have hident : (fun b => decide (ident (key b) = ident (key a))) =
        fun b => decide (same b a) :=
      funext fun b => decide_eq_decide.mpr (hsame b a)
    rw [mem_items_collect, List.find?_map, Option.map_eq_some_iff, ← hident]
    constructor
    · rintro ⟨first, hfind, hpair⟩
      obtain ⟨-, rfl⟩ := Prod.mk.inj hpair
      exact hfind
    · intro hfind
      exact ⟨a, hfind, rfl⟩
  constructor
  · intro hmem
    obtain ⟨a, -, rfl⟩ := List.mem_map.mp (mem_of_mem_items_collect hmem)
    exact ⟨a, (hfirst a).mp hmem, rfl⟩
  · rintro ⟨a, hfind, rfl⟩
    exact (hfirst a).mpr hfind

end Collected

end Lib
end XdpFirewall
