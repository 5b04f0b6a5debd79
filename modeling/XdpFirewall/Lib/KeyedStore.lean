import Mathlib.Data.Finset.Card
import Mathlib.Data.List.Nodup

/-!
# KeyedStore — bounded stores whose keys are compared by an identity

A store is a finite list of key-value pairs in which no two keys have the same identity. The
identity is a function of the key, so that a store may compare less than the whole key: a write
through a key with a known identity replaces the old key together with its value.

Insertions are bounded by a capacity and run in `EStateM`, so that a failed insertion leaves the
store as the earlier ones made it.
-/

namespace XdpFirewall
namespace Lib

variable {K V I : Type} {ident : K → I} {ε : Type}

/-- Key-value pairs with pairwise different key identities. -/
@[ext]
structure KeyedStore (K V : Type) {I : Type} (ident : K → I) where
  entries : List (K × V)
  nodup : (entries.map fun entry => ident entry.1).Nodup

namespace KeyedStore

instance : Membership (K × V) (KeyedStore K V ident) where
  mem s entry := entry ∈ s.entries

theorem mem_entries {s : KeyedStore K V ident} {entry : K × V} :
    entry ∈ s.entries ↔ entry ∈ s := Iff.rfl

def empty : KeyedStore K V ident where
  entries := []
  nodup := List.nodup_nil

def size (s : KeyedStore K V ident) : Nat :=
  s.entries.length

def keys (s : KeyedStore K V ident) : List K :=
  s.entries.map Prod.fst

@[simp] theorem not_mem_empty (entry : K × V) : entry ∉ (empty : KeyedStore K V ident) := by
  simp [← mem_entries, empty]

theorem mem_keys {s : KeyedStore K V ident} {k : K} : k ∈ s.keys ↔ ∃ v, (k, v) ∈ s := by
  simp [keys, ← mem_entries]

/-- Two entries of one identity are the same entry. -/
theorem eq_of_ident_eq (s : KeyedStore K V ident) {a b : K × V} (ha : a ∈ s) (hb : b ∈ s)
    (h : ident a.1 = ident b.1) : a = b :=
  List.inj_on_of_nodup_map s.nodup ha hb h

section Operations

variable [DecidableEq I]

def get? (s : KeyedStore K V ident) (i : I) : Option (K × V) :=
  s.entries.find? fun entry => ident entry.1 = i

/-- Drop the entry with identity `i`, if there is one. -/
def erase (s : KeyedStore K V ident) (i : I) : KeyedStore K V ident where
  entries := s.entries.filter fun entry => ident entry.1 ≠ i
  nodup := s.nodup.sublist (List.filter_sublist.map _)

/-- Write `v` under `k`, replacing the key and the value of the same identity. -/
def set (s : KeyedStore K V ident) (k : K) (v : V) : KeyedStore K V ident where
  entries := (k, v) :: (s.erase (ident k)).entries
  nodup := by
    rw [List.map_cons, List.nodup_cons]
    refine ⟨?_, (s.erase (ident k)).nodup⟩
    simp only [List.mem_map, not_exists, not_and]
    intro entry hentry
    simpa using (List.mem_filter.mp hentry).2

def setAll (s : KeyedStore K V ident) (items : List (K × V)) : KeyedStore K V ident :=
  items.foldl (fun s item => s.set item.1 item.2) s

/-- The identities a store holds. -/
def idents (s : KeyedStore K V ident) : Finset I :=
  (s.entries.map fun entry => ident entry.1).toFinset

theorem get?_eq_some_iff {s : KeyedStore K V ident} {i : I} {entry : K × V} :
    s.get? i = some entry ↔ entry ∈ s ∧ ident entry.1 = i := by
  constructor
  · intro h
    have hident := List.find?_some h
    exact ⟨List.mem_of_find?_eq_some h, by simpa using hident⟩
  · rintro ⟨hmem, hident⟩
    cases h : s.get? i with
    | none =>
        have := List.find?_eq_none.mp h entry hmem
        simp [hident] at this
    | some other =>
        have hother := List.find?_some h
        have hsame : ident other.1 = ident entry.1 := by
          simpa [hident] using hother
        rw [s.eq_of_ident_eq (List.mem_of_find?_eq_some h) hmem hsame]

theorem get?_eq_none_iff {s : KeyedStore K V ident} {i : I} :
    s.get? i = none ↔ ∀ entry ∈ s, ident entry.1 ≠ i := by
  simp [get?, List.find?_eq_none, ← mem_entries]

theorem mem_erase {s : KeyedStore K V ident} {i : I} {entry : K × V} :
    entry ∈ s.erase i ↔ entry ∈ s ∧ ident entry.1 ≠ i := by
  simp [← mem_entries, erase]

theorem mem_set {s : KeyedStore K V ident} {k : K} {v : V} {entry : K × V} :
    entry ∈ s.set k v ↔ entry = (k, v) ∨ entry ∈ s ∧ ident entry.1 ≠ ident k := by
  rw [← mem_erase]
  simp [← mem_entries, set]

@[simp] theorem get?_set (s : KeyedStore K V ident) (k : K) (v : V) :
    (s.set k v).get? (ident k) = some (k, v) :=
  get?_eq_some_iff.mpr ⟨mem_set.mpr (Or.inl rfl), rfl⟩

@[simp] theorem setAll_nil (s : KeyedStore K V ident) : s.setAll [] = s := rfl

@[simp] theorem setAll_cons (s : KeyedStore K V ident) (item : K × V) (items : List (K × V)) :
    s.setAll (item :: items) = (s.set item.1 item.2).setAll items := rfl

theorem mem_idents {s : KeyedStore K V ident} {i : I} :
    i ∈ s.idents ↔ ∃ entry ∈ s, ident entry.1 = i := by
  simp [idents, ← mem_entries]

theorem card_idents (s : KeyedStore K V ident) : s.idents.card = s.size := by
  simpa [idents, size] using List.toFinset_card_of_nodup s.nodup

theorem idents_set (s : KeyedStore K V ident) (k : K) (v : V) :
    (s.set k v).idents = insert (ident k) s.idents := by
  ext i
  simp only [mem_idents, mem_set, Finset.mem_insert]
  constructor
  · rintro ⟨entry, rfl | ⟨hmem, -⟩, rfl⟩
    · exact Or.inl rfl
    · exact Or.inr ⟨entry, hmem, rfl⟩
  · rintro (rfl | ⟨entry, hmem, rfl⟩)
    · exact ⟨(k, v), Or.inl rfl, rfl⟩
    · by_cases h : ident entry.1 = ident k
      · exact ⟨(k, v), Or.inl rfl, h.symm⟩
      · exact ⟨entry, Or.inr ⟨hmem, h⟩, rfl⟩

theorem idents_setAll (s : KeyedStore K V ident) (items : List (K × V)) :
    (s.setAll items).idents = s.idents ∪ (items.map fun item => ident item.1).toFinset := by
  induction items generalizing s with
  | nil => simp
  | cons item items ih =>
      rw [setAll_cons, ih, idents_set]
      ext i
      simp only [Finset.mem_union, Finset.mem_insert, List.map_cons, List.toFinset_cons]
      tauto

/-- After writing items of pairwise different identities, the store holds the items and the old
entries of other identities. -/
theorem mem_setAll {items : List (K × V)}
    (hitems : (items.map fun item => ident item.1).Nodup) {s : KeyedStore K V ident}
    {entry : K × V} :
    entry ∈ s.setAll items ↔
      entry ∈ items ∨ entry ∈ s ∧ ident entry.1 ∉ items.map fun item => ident item.1 := by
  induction items generalizing s with
  | nil => simp
  | cons item items ih =>
      rw [List.map_cons, List.nodup_cons] at hitems
      rw [setAll_cons, ih hitems.2, mem_set]
      simp only [List.mem_cons, List.map_cons, not_or]
      constructor
      · rintro (h | ⟨rfl | ⟨hmem, hne⟩, hrest⟩)
        · exact Or.inl (Or.inr h)
        · exact Or.inl (Or.inl rfl)
        · exact Or.inr ⟨hmem, hne, hrest⟩
      · rintro ((rfl | h) | ⟨hmem, hne, hrest⟩)
        · exact Or.inr ⟨Or.inl rfl, hitems.1⟩
        · exact Or.inl h
        · exact Or.inr ⟨Or.inr ⟨hmem, hne⟩, hrest⟩

/-! ## Bounded insertion -/

/-- Write one entry. The write fails exactly when its identity is new and the store is full. -/
def put (full : ε) (cap : Nat) (k : K) (v : V) : EStateM ε (KeyedStore K V ident) Unit :=
  fun s =>
    if ident k ∈ s.idents ∨ s.size < cap then
      .ok () (s.set k v)
    else
      .error full s

theorem run_put (full : ε) (cap : Nat) (k : K) (v : V) (s : KeyedStore K V ident) :
    (put full cap k v).run s =
      if ident k ∈ s.idents ∨ s.size < cap then .ok () (s.set k v) else .error full s :=
  rfl

/-- The identities of a store and of items to write, together. -/
def joint (s : KeyedStore K V ident) (items : List (K × V)) : Finset I :=
  s.idents ∪ (items.map fun item => ident item.1).toFinset

theorem size_setAll (s : KeyedStore K V ident) (items : List (K × V)) :
    (s.setAll items).size = (s.joint items).card := by
  rw [← card_idents, idents_setAll, joint]

/-- Items that are held already need no place. -/
theorem card_joint_of_held {s : KeyedStore K V ident} {items : List (K × V)}
    (h : ∀ item ∈ items, item ∈ s) : (s.joint items).card = s.size := by
  rw [joint, Finset.union_eq_left.mpr, card_idents]
  intro i hi
  obtain ⟨item, hitem, rfl⟩ := List.mem_map.mp (List.mem_toFinset.mp hi)
  exact mem_idents.mpr ⟨item, h item hitem, rfl⟩

/-- In an empty store the items need at most one place each. -/
theorem card_joint_empty_le (items : List (K × V)) :
    ((empty : KeyedStore K V ident).joint items).card ≤ items.length := by
  have hnone : (empty : KeyedStore K V ident).idents = ∅ := rfl
  rw [joint, hnone, Finset.empty_union]
  exact (List.toFinset_card_le _).trans_eq (List.length_map _)

/-- The capacity test of one write, in terms of the identities held afterwards. -/
theorem put_fits_iff {cap : Nat} {k : K} (v : V) {s : KeyedStore K V ident}
    (hcap : s.size ≤ cap) :
    (ident k ∈ s.idents ∨ s.size < cap) ↔ (s.set k v).size ≤ cap := by
  rw [← card_idents, ← card_idents, idents_set]
  rw [← card_idents] at hcap
  by_cases h : ident k ∈ s.idents
  · simp [h, Finset.insert_eq_of_mem, hcap]
  · rw [Finset.card_insert_of_notMem h, Nat.succ_le_iff]
    exact or_iff_right h

theorem size_le_size_setAll (s : KeyedStore K V ident) (items : List (K × V)) :
    s.size ≤ (s.setAll items).size := by
  rw [← card_idents, ← card_idents, idents_setAll]
  exact Finset.card_le_card Finset.subset_union_left

section Loops

variable {A : Type}

/-- Write the entry computed from `a`, if there is one. Computing it may fail. -/
def putComputed (full : ε) (cap : Nat) (value : A → Except ε (Option (K × V))) (a : A) :
    EStateM ε (KeyedStore K V ident) Unit :=
  match value a with
  | .error e => throw e
  | .ok none => pure ()
  | .ok (some item) => put full cap item.1 item.2

/-- The entries computed before the first failure. -/
def computed (value : A → Except ε (Option (K × V))) : List A → List (K × V)
  | [] => []
  | a :: l =>
      match value a with
      | .error _ => []
      | .ok none => computed value l
      | .ok (some item) => item :: computed value l

/-- The three ways a loop of writes can end: for lack of room, with a failed computation, or
with all computed entries written. -/
inductive Outcome (full : ε) (cap : Nat) (value : A → Except ε (Option (K × V))) (l : List A)
    (s : KeyedStore K V ident) : EStateM.Result ε (KeyedStore K V ident) Unit → Prop
  | overfull (s' : KeyedStore K V ident) :
      cap < (s.setAll (computed value l)).size → Outcome full cap value l s (.error full s')
  | failed (a : A) (e : ε) (s' : KeyedStore K V ident) :
      (s.setAll (computed value l)).size ≤ cap → a ∈ l → value a = .error e →
        Outcome full cap value l s (.error e s')
  | done :
      (s.setAll (computed value l)).size ≤ cap → (∀ a ∈ l, ∃ item, value a = .ok item) →
        Outcome full cap value l s (.ok () (s.setAll (computed value l)))

theorem Outcome.cons {full : ε} {cap : Nat} {value : A → Except ε (Option (K × V))} {a : A}
    {l : List A} {s t : KeyedStore K V ident}
    {r : EStateM.Result ε (KeyedStore K V ident) Unit} {item : Option (K × V)}
    (hvalue : value a = .ok item)
    (hsame : s.setAll (computed value (a :: l)) = t.setAll (computed value l))
    (h : Outcome full cap value l t r) : Outcome full cap value (a :: l) s r := by
  cases h with
  | overfull s' hover =>
      exact .overfull s' (hsame ▸ hover)
  | failed b e s' hfit hb he =>
      exact .failed b e s' (hsame ▸ hfit) (List.mem_cons_of_mem a hb) he
  | done hfit hall =>
      rw [← hsame]
      refine .done (hsame ▸ hfit) ?_
      intro b hb
      rcases List.mem_cons.mp hb with rfl | hb
      · exact ⟨item, hvalue⟩
      · exact hall b hb

theorem run_forM_putComputed (full : ε) {cap : Nat} (value : A → Except ε (Option (K × V)))
    (l : List A) {s : KeyedStore K V ident} (hcap : s.size ≤ cap) :
    Outcome full cap value l s ((forM l (putComputed full cap value)).run s) := by
  induction l generalizing s with
  | nil =>
      exact .done hcap (by simp)
  | cons a l ih =>
      rw [List.forM_cons, EStateM.run_bind, putComputed]
      cases hvalue : value a with
      | error e =>
          have hnone : computed value (a :: l) = [] := by simp [computed, hvalue]
          exact .failed a e s (by simpa [hnone] using hcap) (by simp) hvalue
      | ok item =>
          cases item with
          | none =>
              exact (ih hcap).cons hvalue (by simp [computed, hvalue])
          | some item =>
              have hsame : s.setAll (computed value (a :: l)) =
                  (s.set item.1 item.2).setAll (computed value l) := by
                simp [computed, hvalue]
              dsimp only
              rw [run_put]
              by_cases hfit : ident item.1 ∈ s.idents ∨ s.size < cap
              · rw [if_pos hfit]
                exact (ih ((put_fits_iff item.2 hcap).mp hfit)).cons hvalue hsame
              · rw [if_neg hfit]
                refine .overfull s ?_
                rw [hsame]
                by_contra hle
                have hsmall := le_trans (size_le_size_setAll _ _) (Nat.not_lt.mp hle)
                exact hfit ((put_fits_iff item.2 hcap).mpr hsmall)

/-- A loop that ends well has computed and written everything, whatever the capacity. -/
theorem run_forM_putComputed_ok {full : ε} {cap : Nat} {value : A → Except ε (Option (K × V))}
    {l : List A} {s s' : KeyedStore K V ident}
    (h : (forM l (putComputed full cap value)).run s = .ok () s') :
    (∀ a ∈ l, ∃ item, value a = .ok item) ∧ s' = s.setAll (computed value l) := by
  induction l generalizing s with
  | nil =>
      simp only [List.forM_nil, EStateM.run_pure, EStateM.Result.ok.injEq, true_and] at h
      exact ⟨by simp, h.symm⟩
  | cons a l ih =>
      rw [List.forM_cons, EStateM.run_bind, putComputed] at h
      cases hvalue : value a with
      | error e =>
          rw [hvalue] at h
          cases h
      | ok item =>
          have hall : ∀ rest : List A, (∀ b ∈ rest, ∃ item, value b = .ok item) →
              ∀ b ∈ a :: rest, ∃ item, value b = .ok item := by
            intro rest hrest b hb
            rcases List.mem_cons.mp hb with rfl | hb
            · exact ⟨item, hvalue⟩
            · exact hrest b hb
          rw [hvalue] at h
          cases item with
          | none =>
              obtain ⟨hrest, rfl⟩ := ih h
              exact ⟨hall l hrest, by simp [computed, hvalue]⟩
          | some item =>
              dsimp only at h
              rw [run_put] at h
              split at h
              · rename_i r u mid hput
                split at hput
                · cases hput
                  obtain ⟨hrest, rfl⟩ := ih h
                  exact ⟨hall l hrest, by simp [computed, hvalue]⟩
                · cases hput
              · cases h

theorem length_computed_le (value : A → Except ε (Option (K × V))) (l : List A) :
    (computed value l).length ≤ l.length := by
  induction l with
  | nil => exact le_rfl
  | cons a l ih =>
      cases hvalue : value a with
      | error e => simp [computed, hvalue]
      | ok item =>
          cases item with
          | none => simpa [computed, hvalue] using Nat.le_succ_of_le ih
          | some item => simpa [computed, hvalue] using ih

theorem computed_eq_map {value : A → Except ε (Option (K × V))} {f : A → K × V} {l : List A}
    (h : ∀ a ∈ l, value a = .ok (some (f a))) : computed value l = l.map f := by
  induction l with
  | nil => rfl
  | cons a l ih =>
      rw [List.forall_mem_cons] at h
      simp [computed, h.1, ih h.2]

/-- When no computation fails, the entries are those that were computed. -/
theorem mem_computed_iff {value : A → Except ε (Option (K × V))} {l : List A}
    (h : ∀ a ∈ l, ∃ item, value a = .ok item) {entry : K × V} :
    entry ∈ computed value l ↔ ∃ a ∈ l, value a = .ok (some entry) := by
  induction l with
  | nil => simp [computed]
  | cons a l ih =>
      rw [List.forall_mem_cons] at h
      obtain ⟨item, hvalue⟩ := h.1
      cases item with
      | none => simp [computed, hvalue, ih h.2]
      | some item => simp [computed, hvalue, ih h.2, eq_comm]

/-- An item contributes an entry under its own key, or none. -/
theorem map_computed_sublist {value : A → Except ε (Option (K × V))} {key : A → K} {l : List A}
    (h : ∀ a ∈ l, ∀ item, value a = .ok (some item) → item.1 = key a) :
    ((computed value l).map Prod.fst).Sublist (l.map key) := by
  induction l with
  | nil => exact List.Sublist.refl _
  | cons a l ih =>
      rw [List.forall_mem_cons] at h
      have hrest := ih h.2
      cases hvalue : value a with
      | error e => simp [computed, hvalue]
      | ok item =>
          cases item with
          | none => simpa [computed, hvalue] using hrest.cons (key a)
          | some item => simpa [computed, hvalue, h.1 item hvalue] using hrest

@[simp] theorem computed_ok_some (f : A → K × V) (l : List A) :
    computed (fun a => (.ok (some (f a)) : Except ε (Option (K × V)))) l = l.map f :=
  computed_eq_map fun _ _ => rfl

/-- A loop that writes all its entries does so when there is room for them. -/
theorem run_forM_put_ok {full : ε} {cap : Nat} {f : A → K × V} {l : List A}
    {s : KeyedStore K V ident} (hcap : s.size ≤ cap) (hroom : (s.setAll (l.map f)).size ≤ cap) :
    (forM l fun a => put full cap (f a).1 (f a).2).run s = .ok () (s.setAll (l.map f)) := by
  have hout := run_forM_putComputed full (fun a => .ok (some (f a))) l hcap
  change Outcome full cap _ l s ((forM l fun a => put full cap (f a).1 (f a).2).run s) at hout
  generalize (forM l fun a => put full cap (f a).1 (f a).2).run s = r at hout ⊢
  cases hout with
  | overfull s' hover =>
      rw [computed_ok_some] at hover
      exact absurd hroom (Nat.not_le.mpr hover)
  | failed a e s' _ _ he =>
      cases he
  | done _ _ =>
      rw [computed_ok_some]

/-- A loop of plain writes that ends well has written all of them. -/
theorem run_forM_put_inv {full : ε} {cap : Nat} {f : A → K × V} {l : List A}
    {s s' : KeyedStore K V ident}
    (h : (forM l fun a => put full cap (f a).1 (f a).2).run s = .ok () s') :
    s' = s.setAll (l.map f) := by
  let value : A → Except ε (Option (K × V)) := fun a => .ok (some (f a))
  have hloop : (forM l (putComputed full cap value)).run s = .ok () s' := h
  rw [(run_forM_putComputed_ok hloop).2, computed_ok_some]

/-- Without room the loop fails. -/
theorem run_forM_put_full {full : ε} {cap : Nat} {f : A → K × V} {l : List A}
    {s : KeyedStore K V ident} (hcap : s.size ≤ cap)
    (hroom : ¬ (s.setAll (l.map f)).size ≤ cap) :
    ∃ s', (forM l fun a => put full cap (f a).1 (f a).2).run s = .error full s' := by
  have hout := run_forM_putComputed full (fun a => .ok (some (f a))) l hcap
  change Outcome full cap _ l s ((forM l fun a => put full cap (f a).1 (f a).2).run s) at hout
  generalize (forM l fun a => put full cap (f a).1 (f a).2).run s = r at hout ⊢
  cases hout with
  | overfull s' _ =>
      exact ⟨s', rfl⟩
  | failed a e s' _ _ he =>
      cases he
  | done hfit _ =>
      rw [computed_ok_some] at hfit
      exact absurd hfit hroom

end Loops

/-! ## Removal of unwanted entries -/

/-- Remove one key; a key that is not there is an error. -/
def remove (missing : ε) (k : K) : EStateM ε (KeyedStore K V ident) Unit :=
  fun s =>
    if ident k ∈ s.idents then
      .ok () (s.erase (ident k))
    else
      .error missing s

theorem run_remove (missing : ε) (k : K) (s : KeyedStore K V ident) :
    (remove missing k).run s =
      if ident k ∈ s.idents then .ok () (s.erase (ident k)) else .error missing s :=
  rfl

theorem idents_erase (s : KeyedStore K V ident) (i : I) : (s.erase i).idents = s.idents.erase i := by
  ext j
  simp only [mem_idents, mem_erase, Finset.mem_erase]
  constructor
  · rintro ⟨entry, ⟨hmem, hne⟩, rfl⟩
    exact ⟨hne, entry, hmem, rfl⟩
  · rintro ⟨hne, entry, hmem, rfl⟩
    exact ⟨entry, ⟨hmem, hne⟩, rfl⟩

/-- Removing listed keys one after the other, those that `keep` does not want, never misses a
key. -/
theorem run_forM_remove (missing : ε) (keep : K → Bool) (ks : List K)
    {s : KeyedStore K V ident} (hnodup : (ks.map ident).Nodup)
    (hheld : ∀ k ∈ ks, ident k ∈ s.idents) :
    ∃ s', (forM ks fun k => if keep k then pure () else remove missing k).run s = .ok () s' ∧
      s'.entries = s.entries.filter fun entry =>
        ∀ k ∈ ks, ident k = ident entry.1 → keep k := by
  induction ks generalizing s with
  | nil =>
      exact ⟨s, by simp, by simp⟩
  | cons k ks ih =>
      rw [List.map_cons, List.nodup_cons] at hnodup
      rw [List.forM_cons, EStateM.run_bind]
      cases hkeep : keep k with
      | true =>
          obtain ⟨s', hrun, hentries⟩ := ih hnodup.2 fun k' hk' => hheld k' (by simp [hk'])
          exact ⟨s', by simpa using hrun, by simpa [hkeep] using hentries⟩
      | false =>
          have hk : ident k ∈ s.idents := hheld k (by simp)
          have hrest : ∀ k' ∈ ks, ident k' ∈ (s.erase (ident k)).idents := by
            intro k' hk'
            rw [idents_erase, Finset.mem_erase]
            refine ⟨fun heq => hnodup.1 ?_, hheld k' (by simp [hk'])⟩
            exact List.mem_map.mpr ⟨k', hk', heq⟩
          obtain ⟨s', hrun, hentries⟩ := ih hnodup.2 hrest
          refine ⟨s', by simpa [run_remove, hk] using hrun, ?_⟩
          rw [hentries, erase, List.filter_filter]
          refine List.filter_congr ?_
          intro entry _
          rw [Bool.eq_iff_iff]
          simp only [Bool.and_eq_true, decide_eq_true_eq, List.forall_mem_cons, hkeep]
          constructor
          · rintro ⟨hrest, hne⟩
            exact ⟨fun heq => absurd heq.symm hne, hrest⟩
          · rintro ⟨hhead, hrest⟩
            exact ⟨hrest, fun heq => Bool.false_ne_true (hhead heq.symm)⟩

end Operations

/-- The entries whose key satisfies `keep`. -/
def retain (s : KeyedStore K V ident) (keep : K → Bool) : KeyedStore K V ident where
  entries := s.entries.filter fun entry => keep entry.1
  nodup := s.nodup.sublist (List.filter_sublist.map _)

theorem size_retain_le (s : KeyedStore K V ident) (keep : K → Bool) :
    (s.retain keep).size ≤ s.size :=
  List.length_filter_le _ _

@[simp] theorem mem_retain {s : KeyedStore K V ident} {keep : K → Bool} {entry : K × V} :
    entry ∈ s.retain keep ↔ entry ∈ s ∧ keep entry.1 := by
  simp [← mem_entries, retain]

/-- Writing wanted items and dropping what is unwanted leaves the items and the wanted old entries
of other identities. -/
theorem mem_retain_setAll [DecidableEq I] {items : List (K × V)} {s : KeyedStore K V ident}
    {keep : K → Bool} (hnodup : (items.map fun item => ident item.1).Nodup)
    (hkeep : ∀ item ∈ items, keep item.1) {entry : K × V} :
    entry ∈ (s.setAll items).retain keep ↔
      entry ∈ items ∨
        entry ∈ s ∧ keep entry.1 ∧ ident entry.1 ∉ items.map fun item => ident item.1 := by
  rw [mem_retain, mem_setAll hnodup]
  constructor
  · rintro ⟨hitem | ⟨hmem, hnew⟩, hwanted⟩
    · exact Or.inl hitem
    · exact Or.inr ⟨hmem, hwanted, hnew⟩
  · rintro (hitem | ⟨hmem, hwanted, hnew⟩)
    · exact ⟨Or.inl hitem, hkeep entry hitem⟩
    · exact ⟨Or.inr ⟨hmem, hnew⟩, hwanted⟩

/-- List the keys of a store and then remove the unwanted ones. -/
def sweep [DecidableEq I] (missing : ε) (keep : K → Bool) :
    EStateM ε (KeyedStore K V ident) Unit := do
  let s ← get
  forM s.keys fun k => if keep k then pure () else remove missing k

theorem run_sweep [DecidableEq I] (missing : ε) (keep : K → Bool) (s : KeyedStore K V ident) :
    (sweep missing keep).run s = .ok () (s.retain keep) := by
  have hnodup : (s.keys.map ident).Nodup := by
    rw [keys, List.map_map]
    exact s.nodup
  have hheld : ∀ k ∈ s.keys, ident k ∈ s.idents := by
    intro k hk
    obtain ⟨v, hv⟩ := mem_keys.mp hk
    exact mem_idents.mpr ⟨(k, v), hv, rfl⟩
  obtain ⟨s', hrun, hentries⟩ := run_forM_remove missing keep s.keys hnodup hheld
  rw [sweep, EStateM.run_bind, EStateM.run_get]
  dsimp only
  rw [hrun]
  congr 1
  ext1
  rw [hentries, retain]
  refine List.filter_congr ?_
  intro entry hentry
  -- A listed key with the identity of an entry is the key of that entry.
  have hown : ∀ k ∈ s.keys, ident k = ident entry.1 → k = entry.1 := by
    intro k hk hident
    obtain ⟨v, hv⟩ := mem_keys.mp hk
    rw [← s.eq_of_ident_eq hv hentry hident]
  have hself : entry.1 ∈ s.keys := mem_keys.mpr ⟨entry.2, hentry⟩
  rw [Bool.eq_iff_iff, decide_eq_true_eq]
  exact ⟨fun h => h entry.1 hself rfl, fun h k hk hident => hown k hk hident ▸ h⟩

end KeyedStore

end Lib
end XdpFirewall
