import Mathlib.Data.List.Basic

/-!
# Paging — reading a list of entries page by page

Entries have positions in increasing order, and a page starts at a position. It holds as many
items as there is room for and names the position of the first entry that it leaves out. Nothing
is lost or repeated between a page and the one that starts there.
-/

namespace XdpFirewall
namespace Lib

variable {K A : Type}

structure Page (K A : Type) where
  items : List A
  next : Option K

/-- One more entry: it is taken while there is room, the first one that is not is remembered. -/
def Page.collect (size : Nat) (page : Page K A) (entry : K × A) : Page K A :=
  if page.items.length < size then
    { page with items := page.items ++ [entry.2] }
  else
    { page with next := page.next.or (some entry.1) }

theorem foldl_collect_full {size : Nat} {page : Page K A} {k : K} (hnext : page.next = some k)
    (hfull : size ≤ page.items.length) (entries : List (K × A)) :
    entries.foldl (Page.collect size) page = page := by
  induction entries with
  | nil => rfl
  | cons entry rest ih =>
      have hsame : Page.collect size page entry = page := by
        rw [Page.collect, if_neg (Nat.not_lt.mpr hfull), hnext]
        cases page
        simp_all
      rw [List.foldl_cons, hsame, ih]

/-- What a page without a next position collects. -/
theorem foldl_collect {size : Nat} {page : Page K A} (hnext : page.next = none)
    (hroom : page.items.length ≤ size) (entries : List (K × A)) :
    entries.foldl (Page.collect size) page =
      { items := page.items ++ (entries.take (size - page.items.length)).map Prod.snd
        next := (entries.drop (size - page.items.length)).head?.map Prod.fst } := by
  induction entries generalizing page with
  | nil =>
      cases page
      simp_all
  | cons entry rest ih =>
      rw [List.foldl_cons]
      by_cases hlt : page.items.length < size
      · have hroom' : (page.items ++ [entry.2]).length ≤ size := by
          rw [List.length_append]
          exact hlt
        have hnext' : ({ page with items := page.items ++ [entry.2] } : Page K A).next = none :=
          hnext
        rw [Page.collect, if_pos hlt, ih hnext' hroom']
        obtain ⟨room, hsize⟩ := Nat.exists_eq_add_of_lt hlt
        have hsucc : size - page.items.length = room + 1 := by omega
        simp [hsucc, Nat.sub_add_eq, List.append_assoc]
      · have hfull : size - page.items.length = 0 := by omega
        rw [foldl_collect_full (k := entry.1) (by simp [Page.collect, hlt, hnext])
          (by simpa [Page.collect, hlt] using Nat.not_lt.mp hlt)]
        simp [Page.collect, hlt, hnext, hfull]

/-- A page never holds more than its size, and it is full once a next position is known. -/
theorem length_foldl_collect {size : Nat} {page : Page K A} (hnext : page.next = none)
    (hroom : page.items.length ≤ size) (entries : List (K × A)) :
    (entries.foldl (Page.collect size) page).items.length ≤ size ∧
      ((entries.foldl (Page.collect size) page).next.isSome →
        size ≤ (entries.foldl (Page.collect size) page).items.length) := by
  rw [foldl_collect hnext hroom]
  constructor
  · rw [List.length_append, List.length_map, List.length_take]
    omega
  · intro hsome
    have hleft : entries.drop (size - page.items.length) ≠ [] := by
      intro hnil
      rw [hnil] at hsome
      cases hsome
    have hlong := List.length_pos_of_ne_nil hleft
    rw [List.length_drop] at hlong
    rw [List.length_append, List.length_map, List.length_take]
    omega

/-- The items in pages. All pages but the last are full, and a full one is followed by another only
when there is something left. -/
inductive Paged (size : Nat) : List A → List (List A) → Prop
  | last {items : List A} : items.length ≤ size → Paged size items [items]
  | more {items rest : List A} {pages : List (List A)} : items.length = size → rest ≠ [] →
      Paged size rest pages → Paged size (items ++ rest) (items :: pages)

namespace Paged

variable {size : Nat} {items : List A} {pages : List (List A)}

theorem flatten (h : Paged size items pages) : pages.flatten = items := by
  induction h with
  | last _ => exact List.append_nil _
  | more _ _ _ ih => rw [List.flatten_cons, ih]

theorem ne_nil (h : Paged size items pages) : pages ≠ [] := by
  cases h <;> exact List.cons_ne_nil _ _

theorem full (h : Paged size items pages) : ∀ page ∈ pages.dropLast, page.length = size := by
  induction h with
  | last _ => exact nofun
  | more hlength _ hrest ih =>
      rw [List.dropLast_cons_of_ne_nil hrest.ne_nil]
      exact List.forall_mem_cons.mpr ⟨hlength, ih⟩

theorem length_le (h : Paged size items pages) : ∀ page ∈ pages, page.length ≤ size := by
  induction h with
  | last hlength => simpa using hlength
  | more hlength _ _ ih => exact List.forall_mem_cons.mpr ⟨Nat.le_of_eq hlength, ih⟩

/-- A page is empty only when it is the one page of nothing. -/
theorem nil_not_mem (h : Paged size items pages) (hsize : 0 < size) (hitems : items ≠ []) :
    [] ∉ pages := by
  induction h with
  | last _ => simpa using hitems
  | more hlength hrest _ ih =>
      rw [List.mem_cons, not_or]
      refine ⟨?_, ih hrest⟩
      rintro rfl
      exact absurd hlength (Nat.ne_of_lt hsize)

end Paged

section Positions

variable (le : K → K → Prop) [DecidableRel le]

/-- The entries from a position on. -/
def entriesFrom (entries : List (K × A)) (k : K) : List (K × A) :=
  entries.filter fun entry => le k entry.1

/-- What is still to be read when `next` is the next position. -/
def remaining (entries : List (K × A)) : Option K → List A
  | none => []
  | some k => (entriesFrom le entries k).map Prod.snd

variable {le}

/-- A suffix of the entries is what there is from the position of its first entry on. -/
theorem entriesFrom_head {front rest : List (K × A)} {entry : K × A}
    (hrefl : ∀ k, le k k)
    (hsorted : (front ++ entry :: rest).Pairwise fun a b => le a.1 b.1 ∧ ¬ le b.1 a.1) :
    entriesFrom le (front ++ entry :: rest) entry.1 = entry :: rest := by
  rw [List.pairwise_append, List.pairwise_cons] at hsorted
  obtain ⟨-, ⟨hrest, -⟩, hfront⟩ := hsorted
  rw [entriesFrom, List.filter_append]
  have hnone : (front.filter fun other => le entry.1 other.1) = [] := by
    rw [List.filter_eq_nil_iff]
    intro other hother
    simpa using (hfront other hother entry List.mem_cons_self).2
  have hall : ((entry :: rest).filter fun other => le entry.1 other.1) = entry :: rest := by
    rw [List.filter_eq_self]
    intro other hother
    rcases List.mem_cons.mp hother with rfl | hother
    · simpa using hrefl _
    · simpa using (hrest other hother).1
  rw [hnone, hall, List.nil_append]

/-- What a page leaves out is what there is from its next position on. -/
theorem entriesFrom_next {entries : List (K × A)} (hrefl : ∀ k, le k k)
    (htrans : ∀ a b c, le a b → le b c → le a c)
    (hsorted : entries.Pairwise fun a b => le a.1 b.1 ∧ ¬ le b.1 a.1) {size : Nat} {k : K}
    {entry : K × A} {rest : List (K × A)}
    (hdrop : (entriesFrom le entries k).drop size = entry :: rest) :
    entriesFrom le entries entry.1 = entry :: rest := by
  have hsplit := List.take_append_drop size (entriesFrom le entries k)
  have hfrom : (entriesFrom le entries k).Pairwise fun a b => le a.1 b.1 ∧ ¬ le b.1 a.1 :=
    hsorted.filter _
  have hmem : le k entry.1 := by
    have hmem : entry ∈ entriesFrom le entries k := by
      rw [← hsplit, hdrop]
      exact List.mem_append_right _ List.mem_cons_self
    simpa using (List.mem_filter.mp hmem).2
  have hnested : entriesFrom le entries entry.1 =
      entriesFrom le (entriesFrom le entries k) entry.1 := by
    rw [entriesFrom, entriesFrom, entriesFrom, List.filter_filter]
    refine List.filter_congr fun other _ => ?_
    by_cases hle : le entry.1 other.1
    · simp [hle, htrans _ _ _ hmem hle]
    · simp [hle]
  rw [hnested, ← hsplit, hdrop]
  refine entriesFrom_head hrefl ?_
  rw [← hdrop, hsplit]
  exact hfrom

/-- A page and what remains after it are what remained before it. -/
theorem page_append_remaining {entries : List (K × A)} (hrefl : ∀ k, le k k)
    (htrans : ∀ a b c, le a b → le b c → le a c)
    (hsorted : entries.Pairwise fun a b => le a.1 b.1 ∧ ¬ le b.1 a.1) (size : Nat) (k : K) :
    ((entriesFrom le entries k).take size).map Prod.snd ++
        remaining le entries (((entriesFrom le entries k).drop size).head?.map Prod.fst) =
      remaining le entries (some k) := by
  have hsplit := List.take_append_drop size (entriesFrom le entries k)
  cases hdrop : (entriesFrom le entries k).drop size with
  | nil =>
      rw [hdrop, List.append_nil] at hsplit
      simp [remaining, hsplit]
  | cons entry rest =>
      rw [List.head?_cons, Option.map_some, remaining, remaining,
        entriesFrom_next hrefl htrans hsorted hdrop, ← hdrop, ← List.map_append, hsplit]

end Positions

end Lib
end XdpFirewall
