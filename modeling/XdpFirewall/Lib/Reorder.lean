import Mathlib.Data.List.Forall2
import Mathlib.Data.List.Perm.Basic
import XdpFirewall.Lib.FirstWins
import XdpFirewall.Lib.Traverse

/-!
# Reorder — reading a list whose order nobody has promised

Two orders of one list are read alike: both can be read or neither, and what was read is again the
same up to order. The order starts to matter where the first item of a kind is picked out, unless
all items of the kind agree.
-/

namespace XdpFirewall
namespace Lib

variable {ε A B I : Type}

/-! ## Reading -/

/-- A list that can be read in one order can be read in every order. -/
theorem mapM_perm {f : A → Except ε B} {as as' : List A} {bs : List B} (h : as.Perm as')
    (hbs : as.mapM f = .ok bs) : ∃ bs', as'.mapM f = .ok bs' ∧ bs.Perm bs' := by
  obtain ⟨bs', hread, hperm⟩ := List.perm_comp_forall₂ h.symm (forall₂_of_mapM_ok hbs)
  exact ⟨bs', mapM_ok_of_forall₂ hread, hperm.symm⟩

/-- A row that has the only one of its key is found in every order. -/
theorem find?_perm [DecidableEq I] {key : A → I} {l l' : List A} (hnodup : (l.map key).Nodup)
    (h : l.Perm l') (k : I) :
    (l.find? fun a => key a = k) = l'.find? fun a => key a = k := by
  cases hfind : l.find? fun a => key a = k with
  | none =>
      symm
      rw [List.find?_eq_none] at hfind ⊢
      exact fun a ha => hfind a (h.mem_iff.mpr ha)
  | some a =>
      have ha := List.mem_of_find?_eq_some hfind
      have hkey : key a = k := by simpa using List.find?_some hfind
      cases hfind' : l'.find? fun a => key a = k with
      | none =>
          have := List.find?_eq_none.mp hfind' a (h.mem_iff.mp ha)
          simp [hkey] at this
      | some b =>
          have hb := h.mem_iff.mpr (List.mem_of_find?_eq_some hfind')
          have hkey' : key b = k := by simpa using List.find?_some hfind'
          rw [List.inj_on_of_nodup_map hnodup ha hb (hkey.trans hkey'.symm)]

theorem nodup_eraseDups [BEq A] [LawfulBEq A] (l : List A) : l.eraseDups.Nodup := by
  induction hn : l.length using Nat.strongRecOn generalizing l with
  | ind n ih =>
      cases l with
      | nil => simp
      | cons a rest =>
          have hshorter : (rest.filter fun b => !b == a).length < n := by
            rw [← hn]
            exact Nat.lt_succ_of_le (List.length_filter_le _ rest)
          rw [List.eraseDups_cons, List.nodup_cons]
          exact ⟨by simp [List.mem_eraseDups], ih _ hshorter _ rfl⟩

theorem eraseDups_perm [BEq A] [LawfulBEq A] {l l' : List A} (h : l.Perm l') :
    l.eraseDups.Perm l'.eraseDups := by
  rw [List.perm_ext_iff_of_nodup (nodup_eraseDups l) (nodup_eraseDups l')]
  intro a
  rw [List.mem_eraseDups, List.mem_eraseDups, h.mem_iff]

theorem mergeSort_filter_perm {l l' : List A} (h : l.Perm l') (p : A → Bool)
    (le le' : A → A → Bool) :
    ((l.filter p).mergeSort le).Perm ((l'.filter p).mergeSort le') :=
  (List.mergeSort_perm _ le).trans ((h.filter p).trans (List.mergeSort_perm _ le').symm)

/-! ## A row in front -/

theorem mapM_append_ok {f : A → Except ε B} {as as' : List A} {cs : List B}
    (h : (as ++ as').mapM f = .ok cs) :
    ∃ bs bs', as.mapM f = .ok bs ∧ as'.mapM f = .ok bs' ∧ cs = bs ++ bs' := by
  induction as generalizing cs with
  | nil => exact ⟨[], cs, rfl, h, rfl⟩
  | cons a rest ih =>
      rw [List.cons_append, List.mapM_cons] at h
      obtain ⟨b, hb, h⟩ := bind_ok_iff.mp h
      obtain ⟨cs', hrest, h⟩ := bind_ok_iff.mp h
      cases h
      obtain ⟨bs, bs', hbs, hbs', rfl⟩ := ih hrest
      refine ⟨b :: bs, bs', ?_, hbs', rfl⟩
      rw [List.mapM_cons, hb, hbs]
      rfl

/-- After a stable sort only rows that belong strictly before it precede the row that was in
front. -/
theorem mapM_mergeSort_front {f : A → Except ε B} {le : A → A → Bool}
    (trans : ∀ a b c, le a b → le b c → le a c) (total : ∀ a b, le a b || le b a)
    {a : A} {l : List A} {bs : List B} (h : ((a :: l).mergeSort le).mapM f = .ok bs) :
    ∃ before b after, bs = before ++ b :: after ∧ f a = .ok b ∧
      ∀ b' ∈ before, ∃ a' ∈ l, f a' = .ok b' ∧ le a a' = false := by
  obtain ⟨l₁, l₂, hsort, hrest, hbefore⟩ := List.mergeSort_cons trans total a l
  rw [hsort] at h
  obtain ⟨before, bs', hread, hread', rfl⟩ := mapM_append_ok h
  rw [List.mapM_cons] at hread'
  obtain ⟨b, hb, hread'⟩ := bind_ok_iff.mp hread'
  obtain ⟨after, -, hread'⟩ := bind_ok_iff.mp hread'
  cases hread'
  refine ⟨before, b, after, rfl, hb, ?_⟩
  intro b' hb'
  obtain ⟨a', ha', hf⟩ := mem_of_mapM_ok hread hb'
  have hmem : a' ∈ l.mergeSort le := by
    rw [hrest]
    exact List.mem_append_left _ ha'
  exact ⟨a', List.mem_mergeSort.mp hmem, hf, by simpa using hbefore a' ha'⟩

/-! ## The first item of a kind -/

/-- Any element can come first. -/
theorem exists_perm_cons {a : A} {l : List A} (h : a ∈ l) : ∃ rest, l.Perm (a :: rest) := by
  obtain ⟨before, after, rfl⟩ := List.append_of_mem h
  exact ⟨before ++ after, List.perm_middle⟩

/-- A first part that has a match has the first match. -/
theorem mem_of_find?_append {p : A → Bool} {l l' : List A} {a b : A}
    (h : (l ++ l').find? p = some b) (ha : a ∈ l) (hp : p a) : b ∈ l := by
  rw [List.find?_append] at h
  cases hfind : l.find? p with
  | none => exact absurd hp (by simpa using List.find?_eq_none.mp hfind a ha)
  | some c =>
      rw [hfind, Option.some_or] at h
      cases h
      exact List.mem_of_find?_eq_some hfind

namespace Collected

variable [DecidableEq I] {ident : A → I} {l l' : List A}

theorem ids_collect_congr (h : ∀ a, a ∈ l ↔ a ∈ l') :
    (collect ident l).ids = (collect ident l').ids := by
  ext i
  simp only [mem_ids_collect, h]

/-- Every item of the list has a kept item of its identity. -/
theorem exists_mem_items {a : A} (ha : a ∈ l) :
    ∃ b ∈ (collect ident l).items, ident b = ident a := by
  have hid : ident a ∈ (collect ident l).ids := mem_ids_collect.mpr ⟨a, ha, rfl⟩
  exact mem_ids_iff_mem_items.mp hid

/-- An item of the first part has a kept item of its identity in the first part. -/
theorem exists_mem_items_front {a : A} (ha : a ∈ l) (l' : List A) :
    ∃ b ∈ l, b ∈ (collect ident (l ++ l')).items ∧ ident b = ident a := by
  obtain ⟨b, hb, hident⟩ : ∃ b ∈ (collect ident (l ++ l')).items, ident b = ident a :=
    exists_mem_items (List.mem_append_left l' ha)
  have hfind := mem_items_collect.mp hb
  exact ⟨b, mem_of_find?_append hfind ha (decide_eq_true hident.symm), hb, hident⟩

/-- Where the items of one identity have one value, the values that are kept do not depend on the
order. -/
theorem mem_map_items_congr {value : A → B} (h : ∀ a, a ∈ l ↔ a ∈ l')
    (hvalue : ∀ a ∈ l, ∀ b ∈ l, ident a = ident b → value a = value b) (v : B) :
    v ∈ (collect ident l).items.map value ↔ v ∈ (collect ident l').items.map value := by
  have himage : ∀ {l₁ l₂ : List A}, (∀ a, a ∈ l₁ ↔ a ∈ l₂) →
      (∀ a ∈ l₂, ∀ b ∈ l₂, ident a = ident b → value a = value b) →
      v ∈ (collect ident l₁).items.map value → v ∈ (collect ident l₂).items.map value := by
    intro l₁ l₂ hsame hone hv
    obtain ⟨a, ha, rfl⟩ := List.mem_map.mp hv
    have hmem := (hsame a).mp (mem_of_mem_items_collect ha)
    obtain ⟨b, hb, hident⟩ : ∃ b ∈ (collect ident l₂).items, ident b = ident a :=
      exists_mem_items hmem
    exact List.mem_map.mpr ⟨b, hb, hone b (mem_of_mem_items_collect hb) a hmem hident⟩
  refine ⟨himage h ?_, himage (fun a => (h a).symm) hvalue⟩
  intro a ha b hb
  exact hvalue a ((h a).mpr ha) b ((h b).mpr hb)

end Collected

end Lib
end XdpFirewall
