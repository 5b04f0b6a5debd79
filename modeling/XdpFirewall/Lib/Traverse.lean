import Mathlib.Data.List.Forall2

/-!
# Traverse — reading the entries of a list, any of which can be refused

A list is read entry by entry, and the first entry that cannot be read refuses the whole list.
A list that was read has one result for each entry, in order.
-/

namespace XdpFirewall
namespace Lib

variable {ε A B : Type} {f : A → Except ε B}

theorem bind_ok_iff {C : Type} {x : Except ε A} {g : A → Except ε C} {c : C} :
    x >>= g = .ok c ↔ ∃ a, x = .ok a ∧ g a = .ok c := by
  cases x with
  | error e =>
      constructor
      · intro h
        cases h
      · rintro ⟨a, ha, -⟩
        cases ha
  | ok a =>
      constructor
      · intro h
        exact ⟨a, rfl, h⟩
      · rintro ⟨a', ha', h⟩
        cases ha'
        exact h

/-- What goes on from something that was read. -/
theorem exists_bind_ok {C : Type} {x : Except ε A} {g : A → Except ε C} {a : A} (hx : x = .ok a)
    (hg : ∃ c, g a = .ok c) : ∃ c, x >>= g = .ok c := by
  subst hx
  exact hg

/-- A result is a function of what was read. -/
theorem map_ok {g : A → B} {x : Except ε A} {b : B}
    (h : (do return g (← x)) = (.ok b : Except ε B)) : ∃ a, x = .ok a ∧ g a = b := by
  obtain ⟨a, ha, hb⟩ := bind_ok_iff.mp h
  cases hb
  exact ⟨a, ha, rfl⟩

theorem forall₂_of_mapM_ok {as : List A} {bs : List B} (h : as.mapM f = .ok bs) :
    List.Forall₂ (fun a b => f a = .ok b) as bs := by
  induction as generalizing bs with
  | nil =>
      cases h
      exact List.Forall₂.nil
  | cons a rest ih =>
      rw [List.mapM_cons] at h
      obtain ⟨b, hb, h⟩ := bind_ok_iff.mp h
      obtain ⟨bs', hrest, h⟩ := bind_ok_iff.mp h
      cases h
      exact List.Forall₂.cons hb (ih hrest)

theorem mapM_ok_of_forall₂ {as : List A} {bs : List B}
    (h : List.Forall₂ (fun a b => f a = .ok b) as bs) : as.mapM f = .ok bs := by
  induction h with
  | nil => rfl
  | cons hb _ ih =>
      rw [List.mapM_cons, hb, ih]
      rfl

theorem forall₂_comp {C : Type} {r : A → B → Prop} {q : B → C → Prop} {as : List A} {bs : List B}
    {cs : List C} (hab : List.Forall₂ r as bs) (hbc : List.Forall₂ q bs cs) :
    List.Forall₂ (fun a c => ∃ b, r a b ∧ q b c) as cs := by
  induction hab generalizing cs with
  | nil =>
      cases hbc
      exact .nil
  | cons hr _ ih =>
      cases hbc with
      | cons hq hrest => exact .cons ⟨_, hr, hq⟩ (ih hrest)

theorem exists_left_of_forall₂ {r : A → B → Prop} {as : List A} {bs : List B}
    (h : List.Forall₂ r as bs) {b : B} (hb : b ∈ bs) : ∃ a ∈ as, r a b := by
  induction h with
  | nil => cases hb
  | @cons a _ _ _ ha _ ih =>
      rcases List.mem_cons.mp hb with rfl | hb
      · exact ⟨a, List.mem_cons_self, ha⟩
      · obtain ⟨a', ha', hr⟩ := ih hb
        exact ⟨a', List.mem_cons_of_mem _ ha', hr⟩

theorem exists_right_of_forall₂ {r : A → B → Prop} {as : List A} {bs : List B}
    (h : List.Forall₂ r as bs) {a : A} (ha : a ∈ as) : ∃ b ∈ bs, r a b := by
  induction h with
  | nil => cases ha
  | @cons _ b _ _ hb _ ih =>
      rcases List.mem_cons.mp ha with rfl | ha
      · exact ⟨b, List.mem_cons_self, hb⟩
      · obtain ⟨b', hb', hr⟩ := ih ha
        exact ⟨b', List.mem_cons_of_mem _ hb', hr⟩

theorem pairwise_of_forall₂ {r : A → B → Prop} {q : A → A → Prop} {q' : B → B → Prop}
    {as : List A} {bs : List B} (h : List.Forall₂ r as bs) (has : as.Pairwise q)
    (himp : ∀ a a' b b', r a b → r a' b' → q a a' → q' b b') : bs.Pairwise q' := by
  induction h with
  | nil => exact List.Pairwise.nil
  | @cons a b as bs hab hrest ih =>
      rw [List.pairwise_cons] at has
      refine List.Pairwise.cons ?_ (ih has.2)
      intro b' hb'
      obtain ⟨a', ha', hr⟩ := exists_left_of_forall₂ hrest hb'
      exact himp a a' b b' hab hr (has.1 a' ha')

theorem mem_of_mapM_ok {as : List A} {bs : List B} (h : as.mapM f = .ok bs) {b : B}
    (hb : b ∈ bs) : ∃ a ∈ as, f a = .ok b :=
  exists_left_of_forall₂ (forall₂_of_mapM_ok h) hb

/-- Every entry of a list that was read has its result there. -/
theorem exists_mem_of_mapM_ok {as : List A} {bs : List B} (h : as.mapM f = .ok bs) {a : A}
    (ha : a ∈ as) : ∃ b ∈ bs, f a = .ok b :=
  exists_right_of_forall₂ (forall₂_of_mapM_ok h) ha

theorem mem_mapM_ok_iff {as : List A} {bs : List B} (h : as.mapM f = .ok bs) {b : B} :
    b ∈ bs ↔ ∃ a ∈ as, f a = .ok b := by
  constructor
  · exact mem_of_mapM_ok h
  · rintro ⟨a, ha, hf⟩
    obtain ⟨b', hb', hf'⟩ := exists_mem_of_mapM_ok h ha
    rw [hf] at hf'
    cases hf'
    exact hb'

theorem mapM_ok_of_forall {l : List A} (h : ∀ a ∈ l, ∃ b, f a = .ok b) :
    ∃ bs, l.mapM f = .ok bs := by
  induction l with
  | nil => exact ⟨[], rfl⟩
  | cons a rest ih =>
      obtain ⟨b, hb⟩ := h a List.mem_cons_self
      obtain ⟨bs, hbs⟩ := ih fun a ha => h a (List.mem_cons_of_mem _ ha)
      exact ⟨b :: bs, by rw [List.mapM_cons, hb, hbs]; rfl⟩

theorem forM_ok_iff {f : A → Except ε Unit} {l : List A} :
    l.forM f = .ok () ↔ ∀ a ∈ l, f a = .ok () := by
  induction l with
  | nil => exact iff_of_true rfl nofun
  | cons a rest ih =>
      rw [List.forall_mem_cons, ← ih]
      constructor
      · intro h
        obtain ⟨_, ha, hrest⟩ := bind_ok_iff.mp h
        exact ⟨ha, hrest⟩
      · rintro ⟨ha, hrest⟩
        exact bind_ok_iff.mpr ⟨(), ha, hrest⟩

/-- The first entry that cannot be read is why a list could not be read. -/
theorem exists_of_mapM_error {l : List A} {e : ε} (h : l.mapM f = .error e) :
    ∃ before a after bs, l = before ++ a :: after ∧ before.mapM f = .ok bs ∧ f a = .error e := by
  induction l with
  | nil => cases h
  | cons a rest ih =>
      rw [List.mapM_cons] at h
      cases ha : f a with
      | error e' =>
          rw [ha] at h
          cases h
          exact ⟨[], a, rest, [], rfl, rfl, ha⟩
      | ok b =>
          rw [ha] at h
          cases hrest : rest.mapM f with
          | ok bs =>
              rw [hrest] at h
              cases h
          | error e' =>
              rw [hrest] at h
              cases h
              obtain ⟨before, a', after, bs, rfl, hbefore, hf⟩ := ih hrest
              refine ⟨a :: before, a', after, b :: bs, rfl, ?_, hf⟩
              rw [List.mapM_cons, ha, hbefore]
              rfl

theorem mapM_congr {g : A → Except ε B} {l : List A} (h : ∀ a ∈ l, f a = g a) :
    l.mapM f = l.mapM g := by
  induction l with
  | nil => rfl
  | cons a rest ih =>
      rw [List.mapM_cons, List.mapM_cons, h a List.mem_cons_self,
        ih fun a ha => h a (List.mem_cons_of_mem _ ha)]

theorem mem_flatten_of_mapM_ok {f : A → Except ε (List B)} {as : List A} {lists : List (List B)}
    (h : as.mapM f = .ok lists) {b : B} :
    b ∈ lists.flatten ↔ ∃ a ∈ as, ∃ bs, f a = .ok bs ∧ b ∈ bs := by
  rw [List.mem_flatten]
  constructor
  · rintro ⟨bs, hbs, hb⟩
    obtain ⟨a, ha, hf⟩ := (mem_mapM_ok_iff h).mp hbs
    exact ⟨a, ha, bs, hf, hb⟩
  · rintro ⟨a, ha, bs, hf, hb⟩
    exact ⟨bs, (mem_mapM_ok_iff h).mpr ⟨a, ha, hf⟩, hb⟩

/-! ## Errors -/

/-- Every error of the computation has the property. -/
def FailsWith (p : ε → Prop) (x : Except ε A) : Prop :=
  ∀ e, x = .error e → p e

section Errors

variable {p : ε → Prop}

theorem failsWith_ok (a : A) : FailsWith p (.ok a : Except ε A) := nofun

theorem failsWith_error {e : ε} (h : p e) : FailsWith p (.error e : Except ε A) := by
  rintro e' ⟨⟩
  exact h

theorem FailsWith.bind {x : Except ε A} (hx : FailsWith p x) (hf : ∀ a, FailsWith p (f a)) :
    FailsWith p (x >>= f) := by
  cases x with
  | error e => exact failsWith_error (hx e rfl)
  | ok a => exact hf a

theorem failsWith_forM {f : A → Except ε PUnit} (h : ∀ a, FailsWith p (f a)) (l : List A) :
    FailsWith p (l.forM f) := by
  induction l with
  | nil => exact failsWith_ok _
  | cons a rest ih => exact (h a).bind fun _ => ih

theorem failsWith_mapM (h : ∀ a, FailsWith p (f a)) (l : List A) : FailsWith p (l.mapM f) := by
  induction l with
  | nil => exact failsWith_ok []
  | cons a rest ih =>
      rw [List.mapM_cons]
      exact (h a).bind fun b => ih.bind fun bs => failsWith_ok (b :: bs)

end Errors

end Lib
end XdpFirewall
