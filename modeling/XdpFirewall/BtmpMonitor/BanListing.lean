import Mathlib.Data.Fintype.Card
import XdpFirewall.BtmpMonitor.Protection
import XdpFirewall.Lib.Transition

/-!
# BanListing — reading the bans page by page while they change

The monitor asks for one page of bans after the other, and the API answers each request from the
table as it is then: it reads the time, counts the bans that have not expired, and takes the page
by its offset among them, the first to expire first. Bans may be created, prolonged and deleted
between any two of these steps.

A ban is lasting while the table has it all along and no answer finds it expired.
-/

namespace XdpFirewall
namespace BtmpMonitor

open Lib Net Policy ControlPlane Api

/-! ## The table -/

structure BanTable where
  rows : List TempBanRow
  ids : (rows.map TempBanRow.id).Nodup

/-- A ban stays the same one when it is prolonged. -/
abbrev BanKey := Int32 × String

def banKey (row : TempBanRow) : BanKey :=
  (row.id, row.cidr)

def BanTable.bans (table : BanTable) : List BanKey :=
  (table.rows.filter fun row => row.policyName = defaultPolicyName).map banKey

/-- The filters of the query. -/
def BanTable.unexpired (table : BanTable) (now : Int) : List TempBanRow :=
  table.rows.filter fun row => row.policyName = defaultPolicyName && now < row.expiresAt

/-- `order_by_asc`, which leaves the order of bans that expire together to the database. -/
def SortedByExpiry (rows : List TempBanRow) : Prop :=
  rows.Pairwise fun a b => a.expiresAt ≤ b.expiresAt

instance (rows : List TempBanRow) : Decidable (SortedByExpiry rows) :=
  inferInstanceAs (Decidable (rows.Pairwise _))

/-! ## The requests -/

inductive ListingPhase
  | request (page : Nat)
  | answer (page : Nat) (now : Int) (total : Nat)
  | done
  | failed
  deriving DecidableEq

/-- `lasting` are the bans that have been there and unexpired all along, `order` is the order in
which the last answer found the bans, and `requests` counts the requests that were answered. -/
structure Listing where
  table : BanTable
  phase : ListingPhase
  cidrs : List String
  lasting : List BanKey
  order : List BanKey
  requests : Nat

inductive ListingEvent
  | change (table : BanTable)
  | count (now : Int)
  | fetch (rows : List TempBanRow)
  | fail

namespace Listing

def start (table : BanTable) : Listing where
  table := table
  phase := .request 1
  cidrs := []
  lasting := table.bans
  order := []
  requests := 0

/-- `Page::new` -/
def newPage (rows : List TempBanRow) (page total : Nat) : BanPage where
  items := (rows.drop ((page - 1) * 500)).take 500
  total := total
  number := page
  size := 500
  totalPages := (total + 500 - 1) / 500

/-- What the monitor does with a page. -/
def receive (s : Listing) (page : Nat) (body : BanPage) : Listing :=
  { s with
    cidrs := s.cidrs ++ body.items.map TempBanRow.cidr
    phase := if body.totalPages ≤ page ∨ body.items.isEmpty then .done else .request (page + 1) }

def keep (s : Listing) (bans : List BanKey) : Listing :=
  { s with lasting := s.lasting.filter fun ban => ban ∈ bans }

def ended (s : Listing) : Bool :=
  s.phase = .done || s.phase = .failed

/-- Either side may fail at any point; the answer then never arrives. -/
def step (s : Listing) : ListingEvent → Option Listing
  | .fail => if s.ended then none else some { s with phase := .failed }
  | .change table => if s.ended then none else some ({ s with table := table }.keep table.bans)
  | .count now =>
      match s.phase with
      | .request page =>
          let rows := s.table.unexpired now
          some ({ s with
            phase := .answer page now rows.length
            requests := s.requests + 1 }.keep (rows.map banKey))
      | _ => none
  | .fetch rows =>
      match s.phase with
      | .answer page now total =>
          if rows.Perm (s.table.unexpired now) ∧ SortedByExpiry rows then
            some (({ s with order := rows.map banKey }.keep (rows.map banKey)).receive page
              (newPage rows page total))
          else
            none
      | _ => none

variable {s s' : Listing} {e : ListingEvent}

theorem step_fail (h : s.step .fail = some s') : s' = { s with phase := .failed } := by
  rw [step] at h
  split at h
  · cases h
  · exact (Option.some.inj h).symm

theorem step_change {table : BanTable} (h : s.step (.change table) = some s') :
    s.phase ≠ .done ∧ s' = { s with table := table }.keep table.bans := by
  rw [step] at h
  split at h
  · cases h
  next hended =>
    refine ⟨?_, (Option.some.inj h).symm⟩
    intro hdone
    exact hended (by simp [ended, hdone])

theorem step_count {now : Int} (h : s.step (.count now) = some s') :
    ∃ page, s.phase = .request page ∧
      s' = { s with
        phase := .answer page now (s.table.unexpired now).length
        requests := s.requests + 1 }.keep ((s.table.unexpired now).map banKey) := by
  rw [step] at h
  split at h
  next page hphase => exact ⟨page, hphase, (Option.some.inj h).symm⟩
  · cases h

theorem step_fetch {rows : List TempBanRow} (h : s.step (.fetch rows) = some s') :
    ∃ page now total, s.phase = .answer page now total ∧ rows.Perm (s.table.unexpired now) ∧
      s' = ({ s with order := rows.map banKey }.keep (rows.map banKey)).receive page
        (newPage rows page total) := by
  rw [step] at h
  split at h
  next page now total hphase =>
    split at h
    next hrows => exact ⟨page, now, total, hphase, hrows.1, (Option.some.inj h).symm⟩
    · cases h
  · cases h

/-! ## What the pages have covered -/

/-- Before the last page, a lasting ban has been read or the last answer found it behind the pages
read so far. -/
def Covered (s : Listing) : Prop :=
  match s.phase with
  | .request page | .answer page _ _ =>
      ∀ ban ∈ s.lasting, ban.2 ∈ s.cidrs ∨ ban ∉ s.order.take ((page - 1) * 500)
  | .done => ∀ ban ∈ s.lasting, ban.2 ∈ s.cidrs
  | .failed => True

/-- No lasting ban has come from behind the pages read so far to before their end, and none lies
behind this page when the count says that it is the last one. -/
def Unshifted (s : Listing) (e : ListingEvent) (_ : Listing) : Prop :=
  match e, s.phase with
  | .fetch rows, .answer page _ total =>
      ∀ ban ∈ s.lasting, ban ∈ rows.map banKey →
        (ban ∈ (rows.map banKey).take ((page - 1) * 500) →
          ban ∈ s.order.take ((page - 1) * 500)) ∧
        (total ≤ page * 500 → ban ∈ (rows.map banKey).take (page * 500))
  | _, _ => True

@[simp] theorem mem_lasting_keep {bans : List BanKey} {ban : BanKey} :
    ban ∈ (s.keep bans).lasting ↔ ban ∈ s.lasting ∧ ban ∈ bans := by
  simp [keep]

/-- The bans up to the end of a page are those before it and its items. -/
theorem mem_take_page {rows : List TempBanRow} {page total : Nat} {ban : BanKey}
    (h : ban ∈ (rows.map banKey).take (page * 500)) :
    ban ∈ (rows.map banKey).take ((page - 1) * 500) ∨
      ban.2 ∈ (newPage rows page total).items.map TempBanRow.cidr := by
  cases page with
  | zero => simp at h
  | succ page =>
      rw [Nat.succ_mul, List.take_add, List.mem_append] at h
      rcases h with hbefore | hitem
      · exact .inl hbefore
      · right
        rw [← List.map_drop, ← List.map_take] at hitem
        obtain ⟨row, hrow, hkey⟩ := List.mem_map.mp hitem
        exact List.mem_map.mpr ⟨row, hrow, congrArg Prod.snd hkey⟩

theorem covered_fetch {rows : List TempBanRow} {page total : Nat} {now : Int}
    (hphase : s.phase = .answer page now total) (hcov : s.Covered)
    (hunsh : s.Unshifted (.fetch rows) s') :
    (({ s with order := rows.map banKey }.keep (rows.map banKey)).receive page
      (newPage rows page total)).Covered := by
  rw [Covered, hphase] at hcov
  simp only [Unshifted, hphase] at hunsh
  -- A lasting ban within the pages so far was read before, or it is on this page.
  have hread : ∀ ban ∈ s.lasting, ban ∈ rows.map banKey →
      ban ∈ (rows.map banKey).take (page * 500) →
      ban.2 ∈ s.cidrs ++ (newPage rows page total).items.map TempBanRow.cidr := by
    intro ban hlasting hrow htake
    rw [List.mem_append]
    rcases mem_take_page htake with hbefore | hitem
    · left
      exact (hcov ban hlasting).resolve_right
        (not_not_intro ((hunsh ban hlasting hrow).1 hbefore))
    · exact .inr hitem
  by_cases hlast : (newPage rows page total).totalPages ≤ page ∨
      (newPage rows page total).items.isEmpty
  · simp only [Covered, receive, if_pos hlast, mem_lasting_keep]
    rintro ban ⟨hlasting, hrow⟩
    rcases hlast with hcount | hempty
    · -- By the count, nothing lies behind this page.
      have htotal : total ≤ page * 500 := by
        simp only [newPage] at hcount
        omega
      exact hread ban hlasting hrow ((hunsh ban hlasting hrow).2 htotal)
    · -- An empty page: every ban there is lies before it.
      have hlen : rows.length ≤ (page - 1) * 500 := by
        simpa [newPage] using hempty
      have hbefore : ban ∈ (rows.map banKey).take ((page - 1) * 500) := by
        rwa [List.take_of_length_le (by rwa [List.length_map])]
      exact List.mem_append_left _ ((hcov ban hlasting).resolve_right
        (not_not_intro ((hunsh ban hlasting hrow).1 hbefore)))
  · simp only [Covered, receive, if_neg hlast, mem_lasting_keep]
    rintro ban ⟨hlasting, hrow⟩
    by_cases htake : ban ∈ (rows.map banKey).take (page * 500)
    · exact .inl (hread ban hlasting hrow htake)
    · exact .inr htake

theorem covered_step (hcov : s.Covered) (hstep : s.step e = some s')
    (hunsh : s.Unshifted e s') : s'.Covered := by
  cases e with
  | fail =>
      rw [step_fail hstep]
      trivial
  | change table =>
      obtain ⟨hphase, rfl⟩ := step_change hstep
      simp only [Covered, keep] at hcov ⊢
      cases hs : s.phase with
      | request page =>
          rw [hs] at hcov
          exact fun ban hban => hcov ban (List.mem_of_mem_filter hban)
      | answer page now total =>
          rw [hs] at hcov
          exact fun ban hban => hcov ban (List.mem_of_mem_filter hban)
      | done => exact absurd hs hphase
      | failed => trivial
  | count now =>
      obtain ⟨page, hphase, rfl⟩ := step_count hstep
      rw [Covered, hphase] at hcov
      exact fun ban hban => hcov ban (List.mem_of_mem_filter hban)
  | fetch rows =>
      obtain ⟨page, now, total, hphase, -, rfl⟩ := step_fetch hstep
      exact covered_fetch hphase hcov hunsh

/-! ## The end of the loop -/

/-- As many pages as the ids of a table can fill. -/
def maxPages : Nat := 8589935

theorem length_unexpired_le (table : BanTable) (now : Int) :
    (table.unexpired now).length ≤ 2 ^ 32 := by
  have hinj : Function.Injective fun id : Int32 => id.toBitVec.toFin := by
    intro a b h
    exact Int32.toBitVec_inj.mp (BitVec.eq_of_toFin_eq h)
  have hrows := (table.ids.map hinj).length_le_card
  rw [List.length_map, List.length_map, Fintype.card_fin] at hrows
  exact (List.length_filter_le _ _).trans hrows

def Bounded (s : Listing) : Prop :=
  match s.phase with
  | .request page => s.requests + 1 = page ∧ page ≤ maxPages
  | .answer page _ total => s.requests = page ∧ page ≤ maxPages ∧ total ≤ 2 ^ 32
  | .done | .failed => s.requests ≤ maxPages

theorem Bounded.requests_le (h : s.Bounded) : s.requests ≤ maxPages := by
  rw [Bounded] at h
  cases hphase : s.phase with
  | request page =>
      rw [hphase] at h
      exact (Nat.le_succ _).trans (h.1.le.trans h.2)
  | answer page now total =>
      rw [hphase] at h
      exact h.1.le.trans h.2.1
  | done =>
      rw [hphase] at h
      exact h
  | failed =>
      rw [hphase] at h
      exact h

theorem bounded_step (hbound : s.Bounded) (hstep : s.step e = some s') : s'.Bounded := by
  cases e with
  | fail =>
      rw [step_fail hstep]
      exact hbound.requests_le
  | change table =>
      obtain ⟨-, rfl⟩ := step_change hstep
      exact hbound
  | count now =>
      obtain ⟨page, hphase, rfl⟩ := step_count hstep
      rw [Bounded, hphase] at hbound
      exact ⟨hbound.1, hbound.2, length_unexpired_le s.table now⟩
  | fetch rows =>
      obtain ⟨page, now, total, hphase, -, rfl⟩ := step_fetch hstep
      rw [Bounded, hphase] at hbound
      obtain ⟨hrequests, hpage, htotal⟩ := hbound
      by_cases hlast : (newPage rows page total).totalPages ≤ page ∨
          (newPage rows page total).items.isEmpty
      · simp only [Bounded, receive, if_pos hlast, keep]
        omega
      · simp only [Bounded, receive, if_neg hlast, keep]
        refine ⟨by rw [hrequests], ?_⟩
        -- The next page is one that the count has announced.
        have hnext : page < (total + 500 - 1) / 500 := Nat.not_le.mp fun h => hlast (.inl h)
        rw [maxPages]
        omega

/-- There are no more requests than pages, and each of them can be answered: nothing but the
table changing for ever keeps a listing from its end. -/
structure Ends (s : Listing) : Prop where
  requests : s.requests ≤ maxPages
  count : ∀ page, s.phase = .request page → ∀ now, (s.step (.count now)).isSome
  fetch : ∀ page now total, s.phase = .answer page now total →
    ∃ rows, (s.step (.fetch rows)).isSome

theorem sortedByExpiry_mergeSort (rows : List TempBanRow) :
    SortedByExpiry (rows.mergeSort fun a b => a.expiresAt ≤ b.expiresAt) := by
  refine (List.pairwise_mergeSort ?_ ?_ rows).imp of_decide_eq_true
  · intro a b c hab hbc
    simpa using (of_decide_eq_true hab).trans (of_decide_eq_true hbc)
  · intro a b
    simpa using le_total a.expiresAt b.expiresAt

theorem Bounded.ends (h : s.Bounded) : s.Ends where
  requests := h.requests_le
  count page hphase now := by
    simp [step, hphase]
  fetch page now total hphase := by
    refine ⟨(s.table.unexpired now).mergeSort fun a b => a.expiresAt ≤ b.expiresAt, ?_⟩
    simp [step, hphase, List.mergeSort_perm, sortedByExpiry_mergeSort]

theorem bounded_start (table : BanTable) : (start table).Bounded :=
  ⟨rfl, by decide⟩

/-! ## One request -/

/-- A request during which the table stays as it is. -/
def answered (s : Listing) (page : Nat) (now : Int) (rows : List TempBanRow) : Listing :=
  ({ s.keep ((s.table.unexpired now).map banKey) with
    order := rows.map banKey
    requests := s.requests + 1 }.keep (rows.map banKey)).receive page
      (newPage rows page (s.table.unexpired now).length)

theorem run_request {page : Nat} {now : Int} {rows : List TempBanRow}
    (hphase : s.phase = .request page) (hperm : rows.Perm (s.table.unexpired now))
    (hsorted : SortedByExpiry rows) :
    run step s [.count now, .fetch rows] = some (s.answered page now rows) := by
  simp [run, step, hphase, answered, keep, receive, hperm, hsorted]

/-- What `Unshifted` asks of a request during which the table stays as it is. -/
theorem unshifted_request {page : Nat} {now : Int} {rows : List TempBanRow}
    (hphase : s.phase = .request page)
    (hbans : ∀ ban ∈ s.lasting, ban ∈ rows.map banKey →
      (ban ∈ (rows.map banKey).take ((page - 1) * 500) → ban ∈ s.order.take ((page - 1) * 500)) ∧
        ((s.table.unexpired now).length ≤ page * 500 →
          ban ∈ (rows.map banKey).take (page * 500))) :
    EachStep step Unshifted s [.count now, .fetch rows] := by
  intro counted hcount
  obtain ⟨page', hpage, rfl⟩ := step_count hcount
  cases hphase.symm.trans hpage
  refine ⟨trivial, fun fetched hfetch => ⟨?_, trivial⟩⟩
  intro ban hban hrow
  exact hbans ban (List.mem_of_mem_filter hban) hrow

@[simp] theorem answered_table {page : Nat} {now : Int} {rows : List TempBanRow} :
    (s.answered page now rows).table = s.table := rfl

theorem answered_cidrs {page : Nat} {now : Int} {rows : List TempBanRow} :
    (s.answered page now rows).cidrs =
      s.cidrs ++ (((rows.drop ((page - 1) * 500)).take 500).map TempBanRow.cidr) := rfl

theorem answered_phase {page : Nat} {now : Int} {rows : List TempBanRow}
    (hperm : rows.Perm (s.table.unexpired now)) :
    ((s.answered page now rows).phase = .done ↔ rows.length ≤ page * 500) ∧
      ((s.answered page now rows).phase = .request (page + 1) ↔ page * 500 < rows.length) := by
  have hlast : (newPage rows page rows.length).totalPages ≤ page ∨
      (newPage rows page rows.length).items.isEmpty ↔ rows.length ≤ page * 500 := by
    simp only [newPage, List.isEmpty_iff, List.take_eq_nil_iff, List.drop_eq_nil_iff]
    omega
  simp only [answered, receive, ← hperm.length_eq, hlast]
  split
  next h => exact ⟨iff_of_true rfl h, iff_of_false nofun (Nat.not_lt.mpr h)⟩
  next h => exact ⟨iff_of_false nofun h, iff_of_true rfl (Nat.not_le.mp h)⟩

theorem exists_run_still {now : Int} {rows : List TempBanRow} (hsorted : SortedByExpiry rows)
    (left : Nat) {s : Listing} {page : Nat} (hpage : page ≠ 0) (hphase : s.phase = .request page)
    (hperm : rows.Perm (s.table.unexpired now)) (hleft : rows.length ≤ (page + left) * 500) :
    ∃ es s', run step s es = some s' ∧ s'.phase = .done ∧
      s'.cidrs = s.cidrs ++ (rows.drop ((page - 1) * 500)).map TempBanRow.cidr := by
  have hall : ∀ page, page ≠ 0 → rows.length ≤ page * 500 →
      (rows.drop ((page - 1) * 500)).take 500 = rows.drop ((page - 1) * 500) := by
    intro page hpage hlen
    refine List.take_of_length_le ?_
    rw [List.length_drop]
    omega
  -- The induction is on the number of the pages after this one.
  induction left generalizing s page with
  | zero =>
      refine ⟨_, _, run_request hphase hperm hsorted, (answered_phase hperm).1.mpr hleft, ?_⟩
      rw [answered_cidrs, hall page hpage hleft]
  | succ left ih =>
      by_cases hlast : rows.length ≤ page * 500
      · refine ⟨_, _, run_request hphase hperm hsorted, (answered_phase hperm).1.mpr hlast, ?_⟩
        rw [answered_cidrs, hall page hpage hlast]
      · have hphase' : (s.answered page now rows).phase = .request (page + 1) :=
          (answered_phase hperm).2.mpr (Nat.not_le.mp hlast)
        have hleft' : rows.length ≤ (page + 1 + left) * 500 := by
          rwa [Nat.add_assoc, Nat.add_comm 1]
        obtain ⟨es, s', hrest, hdone, hcidrs⟩ :=
          ih (Nat.succ_ne_zero page) hphase' hperm hleft'
        refine ⟨[.count now, .fetch rows] ++ es, s', ?_, hdone, ?_⟩
        · rw [run_append, run_request hphase hperm hsorted]
          exact hrest
        · have hnext : (page + 1 - 1) * 500 = (page - 1) * 500 + 500 := by omega
          rw [hcidrs, answered_cidrs, hnext, ← List.drop_drop, List.append_assoc,
            ← List.map_append, List.take_append_drop]

/-- While nothing changes, a listing gets what `list_temp_ban_cidrs` gets from the table. -/
theorem exists_listing_of_still {Cursor : Type} (round : Round Cursor)
    (hreach : round.unreachable = none) (db : PolicyDb) (table : BanTable)
    (hdb : db.tempBans = table.rows) :
    ∃ es s, run step (start table) es = some s ∧ s.phase = .done ∧
      listTempBanCidrs round db = .ok s.cidrs := by
  have hperm : (unexpiredBans round.env db).Perm (table.unexpired round.env.now) := by
    rw [unexpiredBans, hdb]
    exact List.mergeSort_perm _ _
  obtain ⟨es, s, hrun, hdone, hcidrs⟩ := exists_run_still
    (sortedByExpiry_mergeSort _) (unexpiredBans round.env db).length Nat.one_ne_zero
    (rfl : (start table).phase = .request 1) hperm
    ((Nat.le_mul_of_pos_right _ (by decide)).trans (Nat.mul_le_mul_right _ (Nat.le_add_left _ 1)))
  refine ⟨es, s, hrun, hdone, ?_⟩
  rw [listTempBanCidrs_ok hreach, hcidrs]
  rfl

/-! ## A listing that is complete -/

/-- The lasting bans are found, and no address that one of them bans is banned again. -/
structure Complete (env : ApiEnv) (config : Config) (s : Listing) : Prop where
  found : ∀ ban ∈ s.lasting, ban.2 ∈ s.cidrs
  notAgain : ∀ (entries : List (IpAddr × List Int)),
    ∀ candidate ∈ candidates env config s.cidrs entries, ∀ ban ∈ s.lasting,
      ban.2 ≠ ipCidr env candidate.1

theorem complete_of_found (env : ApiEnv) (config : Config)
    (hfound : ∀ ban ∈ s.lasting, ban.2 ∈ s.cidrs) : s.Complete env config where
  found := hfound
  notAgain entries candidate hcandidate ban hban hcidr := by
    obtain ⟨entry, hentry, rfl⟩ := List.mem_map.mp hcandidate
    have hverdict : verdict env config s.cidrs entry = .candidate := by
      simpa using (List.mem_filter.mp hentry).2
    have hexisting : s.cidrs.contains (ipCidr env entry.1) = true := by
      rw [List.contains_iff_mem, ← hcidr]
      exact hfound ban hban
    rw [verdict, hexisting] at hverdict
    split at hverdict
    · cases hverdict
    · split at hverdict <;> cases hverdict

/-- Every listing ends, and one whose pages no lasting ban slips past is complete. -/
theorem complete_of_unshifted (env : ApiEnv) (config : Config) (table : BanTable)
    (es : List ListingEvent) (s : Listing) (hrun : run step (start table) es = some s) :
    s.Ends ∧ (EachStep step Unshifted (start table) es → s.phase = .done →
      s.Complete env config) := by
  constructor
  · exact (run_invariant (fun _ _ _ hbound hstep => bounded_step hbound hstep)
      (bounded_start table) hrun).ends
  · intro heach hdone
    have hstart : (start table).Covered := fun ban _ => .inr (by simp [start])
    have hcov : s.Covered := run_invariant_of_each
      (fun _ _ _ hcov hstep hunsh => covered_step hcov hstep hunsh) hstart heach hrun
    rw [Covered, hdone] at hcov
    exact complete_of_found env config hcov

/-- Bans of one address for the ports from 1 on, and at the end one of another address. -/
def banRow (i : Nat) : TempBanRow where
  id := Int32.ofNat i
  policyName := defaultPolicyName
  cidr := if i < 500 then "198.51.100.7/32" else "203.0.113.9/32"
  protocol := if i < 500 then "tcp" else "any"
  port := if i < 500 then some (Int32.ofNat (i + 1)) else none
  expiresAt := 1000 + i
  comment := none

def banTable (first count : Nat) (h : first + count ≤ 2 ^ 31) : BanTable where
  rows := (List.range' first count).map banRow
  ids := by
    rw [List.map_map]
    refine List.Nodup.map_on ?_ List.nodup_range'
    intro i hi j hj hid
    rw [List.mem_range'_1] at hi hj
    have hint := congrArg Int32.toInt hid
    simp only [Function.comp_apply, banRow] at hint
    rw [Int32.toInt_ofNat_of_lt (by omega), Int32.toInt_ofNat_of_lt (by omega)] at hint
    exact Int.ofNat_inj.mp hint

theorem sortedByExpiry_banTable {first count : Nat} {h : first + count ≤ 2 ^ 31} :
    SortedByExpiry (banTable first count h).rows := by
  refine List.pairwise_map.mpr ((List.pairwise_lt_range' 1 Nat.one_pos).imp ?_)
  intro i j hij
  simp only [banRow]
  omega

theorem live_banTable {first count : Nat} {h : first + count ≤ 2 ^ 31} :
    ∀ row ∈ (banTable first count h).rows,
      row.policyName = defaultPolicyName ∧ 0 < row.expiresAt := by
  intro row hrow
  obtain ⟨i, -, rfl⟩ := List.mem_map.mp hrow
  simp only [banRow]
  exact ⟨trivial, by omega⟩

theorem unexpired_of_live {table : BanTable} {now : Int}
    (h : ∀ row ∈ table.rows, row.policyName = defaultPolicyName ∧ now < row.expiresAt) :
    table.unexpired now = table.rows := by
  refine List.filter_eq_self.mpr fun row hrow => ?_
  simpa using h row hrow

theorem mem_bans_of_live {table : BanTable} {row : TempBanRow} (hrow : row ∈ table.rows)
    (hlive : row.policyName = defaultPolicyName) : banKey row ∈ table.bans :=
  List.mem_map_of_mem (List.mem_filter.mpr ⟨hrow, by simpa using hlive⟩)

/-- The listing of a table that changes once, between two requests. -/
def changedBetween (table table' : BanTable) (now : Int) : Listing :=
  { (start table).answered 1 now table.rows with table := table' }.keep table'.bans

section TwoPages

variable {table table' : BanTable} {now : Int}

theorem phase_firstPage
    (hlive : ∀ row ∈ table.rows, row.policyName = defaultPolicyName ∧ now < row.expiresAt)
    (hmany : 500 < table.rows.length) :
    ((start table).answered 1 now table.rows).phase = .request 2 := by
  have hperm : table.rows.Perm ((start table).table.unexpired now) := by
    rw [start, unexpired_of_live hlive]
  exact (answered_phase hperm).2.mpr hmany

theorem run_firstPage (hsorted : SortedByExpiry table.rows)
    (hlive : ∀ row ∈ table.rows, row.policyName = defaultPolicyName ∧ now < row.expiresAt)
    (hmany : 500 < table.rows.length) :
    run step (start table) [.count now, .fetch table.rows, .change table'] =
      some (changedBetween table table' now) := by
  have hperm : table.rows.Perm ((start table).table.unexpired now) := by
    rw [start, unexpired_of_live hlive]
  have hfirst := run_request (s := start table) rfl hperm hsorted
  have hchange : ((start table).answered 1 now table.rows).step (.change table') =
      some (changedBetween table table' now) := by
    rw [step, if_neg (by simp [ended, phase_firstPage hlive hmany])]
    rfl
  have hevents : [.count now, .fetch table.rows, .change table'] =
      [.count now, .fetch table.rows] ++ [ListingEvent.change table'] := rfl
  rw [hevents, run_append, hfirst, Option.bind_some, run, hchange]
  rfl

/-- A ban that is in both tables lasts. -/
theorem mem_lasting_twoPages
    (hlive : ∀ row ∈ table.rows, row.policyName = defaultPolicyName ∧ now < row.expiresAt)
    (hlive' : ∀ row ∈ table'.rows, row.policyName = defaultPolicyName ∧ now < row.expiresAt)
    {row : TempBanRow} (hrow : row ∈ table.rows) (hrow' : row ∈ table'.rows) :
    banKey row ∈ ((changedBetween table table' now).answered 2 now table'.rows).lasting := by
  have hkey : banKey row ∈ (table.unexpired now).map banKey := by
    rw [unexpired_of_live hlive]
    exact List.mem_map_of_mem hrow
  have hkey' : banKey row ∈ (table'.unexpired now).map banKey := by
    rw [unexpired_of_live hlive']
    exact List.mem_map_of_mem hrow'
  have hfirst : banKey row ∈ ((start table).answered 1 now table.rows).lasting :=
    mem_lasting_keep.mpr ⟨mem_lasting_keep.mpr ⟨mem_bans_of_live hrow (hlive row hrow).1, hkey⟩,
      List.mem_map_of_mem hrow⟩
  have hchanged : banKey row ∈ (changedBetween table table' now).lasting :=
    mem_lasting_keep.mpr ⟨hfirst, mem_bans_of_live hrow' (hlive' row hrow').1⟩
  exact mem_lasting_keep.mpr ⟨mem_lasting_keep.mpr ⟨hchanged, hkey'⟩,
    List.mem_map_of_mem hrow'⟩

end TwoPages

theorem rows_banTable_succ {count : Nat} {h : 0 + (count + 1) ≤ 2 ^ 31} :
    (banTable 0 (count + 1) h).rows =
      (banTable 0 count (Nat.le_of_succ_le h)).rows ++ [banRow count] := by
  simp [banTable, List.range'_concat]

/-- Between the two pages of a listing of 501 bans a ban is created that expires last: it does not
move the others. -/
theorem run_appended {table table' : BanTable} {now : Int} {row new : TempBanRow}
    (hrows : table'.rows = table.rows ++ [new]) (hlength : table.rows.length = 501)
    (hrow : row ∈ table.rows) (hsorted' : SortedByExpiry table'.rows)
    (hlive' : ∀ row ∈ table'.rows, row.policyName = defaultPolicyName ∧ now < row.expiresAt) :
    ∃ s, run step (start table) [.count now, .fetch table.rows, .change table', .count now,
        .fetch table'.rows] = some s ∧
      EachStep step Unshifted (start table) [.count now, .fetch table.rows, .change table',
        .count now, .fetch table'.rows] ∧
      s.phase = .done ∧ s.requests = 2 ∧ banKey row ∈ s.lasting := by
  have hlive : ∀ row ∈ table.rows, row.policyName = defaultPolicyName ∧ now < row.expiresAt :=
    fun row hrow => hlive' row (hrows ▸ List.mem_append_left _ hrow)
  have hsorted : SortedByExpiry table.rows := by
    rw [SortedByExpiry, hrows] at hsorted'
    exact (List.pairwise_append.mp hsorted').1
  have hlength' : table'.rows.length = 502 := by
    rw [hrows, List.length_append, hlength, List.length_singleton]
  have hmany : 500 < table.rows.length := by omega
  have hevents : [.count now, .fetch table.rows, .change table', .count now,
      .fetch table'.rows] = [.count now, .fetch table.rows, .change table'] ++
        [ListingEvent.count now, .fetch table'.rows] := rfl
  have hphase : (changedBetween table table' now).phase = .request 2 := phase_firstPage hlive hmany
  have hfirst := @run_firstPage table table' now hsorted hlive hmany
  have hperm' : table'.rows.Perm ((changedBetween table table' now).table.unexpired now) :=
    .of_eq (unexpired_of_live hlive').symm
  refine ⟨(changedBetween table table' now).answered 2 now table'.rows, ?_, ?_,
    (answered_phase hperm').1.mpr (by omega), rfl,
    mem_lasting_twoPages hlive hlive' hrow (hrows ▸ List.mem_append_left _ hrow)⟩
  · rw [hevents, run_append, hfirst, Option.bind_some]
    exact run_request hphase hperm' hsorted'
  · rw [hevents]
    refine EachStep.append ?_ fun mid hmid => ?_
    · -- Nothing lies before the first page, and there are too many bans for it to be the last.
      have hone : EachStep step Unshifted (start table) [.count now, .fetch table.rows] := by
        refine @unshifted_request _ 1 _ _ rfl fun ban _ _ => ⟨fun hbefore => ?_, fun hall => ?_⟩
        · rw [Nat.sub_self, Nat.zero_mul, List.take_zero] at hbefore
          exact absurd hbefore List.not_mem_nil
        · rw [start, unexpired_of_live hlive] at hall
          omega
      exact hone.append fun _ _ _ _ => ⟨trivial, trivial⟩
    · obtain rfl := Option.some.inj (hfirst.symm.trans hmid)
      refine unshifted_request hphase fun ban _ hban => ⟨fun hbefore => ?_, fun _ => ?_⟩
      · -- The new ban lies behind the first page.
        have hbehind : (2 - 1) * 500 ≤ (table.rows.map banKey).length := by
          rw [List.length_map]
          omega
        rwa [hrows, List.map_append, List.take_append_of_le_length hbehind] at hbefore
      · have hread : (table'.rows.map banKey).length ≤ 2 * 500 := by
          rw [List.length_map]
          omega
        rwa [List.take_of_length_le hread]

/-- All of the 501 bans are found. -/
theorem complete_of_unshifted_twoPages :
    ∃ s, run step (start (banTable 0 501 (by decide)))
        [.count 0, .fetch (banTable 0 501 (by decide)).rows, .change (banTable 0 502 (by decide)),
          .count 0, .fetch (banTable 0 502 (by decide)).rows] = some s ∧
      s.requests = 2 ∧ s.Ends ∧ banKey (banRow 500) ∈ s.lasting ∧
      s.Complete sshEnv sshConfig := by
  have hlength : (banTable 0 501 (by decide)).rows.length = 501 := by
    simp [banTable]
  have hrow : banRow 500 ∈ (banTable 0 501 (by decide)).rows :=
    List.mem_map_of_mem (List.mem_range'_1.mpr ⟨by decide, by decide⟩)
  have hlive := @live_banTable 0 502 (by decide)
  obtain ⟨s, hrun, hunshifted, hdone, htwo, hlasting⟩ :=
    run_appended rows_banTable_succ hlength hrow sortedByExpiry_banTable hlive
  have hspec := complete_of_unshifted sshEnv sshConfig _ _ _ hrun
  exact ⟨s, hrun, htwo, hspec.1, hlasting, hspec.2 hunshifted hdone⟩

/-! ## A ban that is passed over -/

/-- When the first of 501 bans is deleted after the first page, the last one moves into that page
and the second page is empty. -/
theorem skipped_of_deleted {first last : TempBanRow} {middle : List TempBanRow}
    {table table' : BanTable} {now : Int} (hrows : table.rows = first :: (middle ++ [last]))
    (hrows' : table'.rows = middle ++ [last]) (hlen : middle.length = 499)
    (hsorted : SortedByExpiry table.rows)
    (hlive : ∀ row ∈ table.rows, row.policyName = defaultPolicyName ∧ now < row.expiresAt) :
    ∃ s, run step (start table) [.count now, .fetch table.rows, .change table', .count now,
        .fetch table'.rows] = some s ∧ s.phase = .done ∧ banKey last ∈ s.lasting ∧
      s.cidrs = (first :: middle).map TempBanRow.cidr := by
  have hlive' : ∀ row ∈ table'.rows, row.policyName = defaultPolicyName ∧ now < row.expiresAt := by
    intro row hrow
    refine hlive row ?_
    rw [hrows, ← hrows']
    exact List.mem_cons_of_mem _ hrow
  have hperm' : table'.rows.Perm ((changedBetween table table' now).table.unexpired now) :=
    .of_eq (unexpired_of_live hlive').symm
  have hsorted' : SortedByExpiry table'.rows := by
    rw [SortedByExpiry, hrows] at hsorted
    rw [SortedByExpiry, hrows']
    exact hsorted.of_cons
  have hmany : 500 < table.rows.length := by simp [hrows, hlen]
  have hphase : (changedBetween table table' now).phase = .request 2 := phase_firstPage hlive hmany
  refine ⟨(changedBetween table table' now).answered 2 now table'.rows, ?_, ?_, ?_, ?_⟩
  · have hfirst := @run_firstPage table table' now hsorted hlive hmany
    have hevents : [.count now, .fetch table.rows, .change table', .count now,
        .fetch table'.rows] = [.count now, .fetch table.rows, .change table'] ++
          [ListingEvent.count now, .fetch table'.rows] := rfl
    rw [hevents, run_append, hfirst, Option.bind_some]
    exact run_request hphase hperm' hsorted'
  · exact (answered_phase hperm').1.mpr (by simp [hrows', hlen])
  · exact mem_lasting_twoPages hlive hlive' (by simp [hrows]) (by simp [hrows'])
  · -- After the deletion the last ban is on the first page, and the second one is empty.
    have hempty : (table'.rows.drop ((2 - 1) * 500)).take 500 = [] := by
      simp [hrows', hlen]
    have hpage : (table.rows.drop ((1 - 1) * 500)).take 500 = first :: middle := by
      rw [hrows]
      change ((first :: middle) ++ [last]).take 500 = first :: middle
      exact List.take_left' (by rw [List.length_cons, hlen])
    have hcidrs : (changedBetween table table' now).cidrs =
        (first :: middle).map TempBanRow.cidr := by
      rw [← hpage]
      rfl
    rw [answered_cidrs, hempty, hcidrs, List.map_nil, List.append_nil]

/-- Of 501 bans the first is deleted between the two pages: the last one is not found, and its
address is banned again. -/
theorem deleted_ban_hides_another :
    ∃ s, run step (start (banTable 0 501 (by decide)))
        [.count 0, .fetch (banTable 0 501 (by decide)).rows, .change (banTable 1 500 (by decide)),
          .count 0, .fetch (banTable 1 500 (by decide)).rows] = some s ∧
      s.phase = .done ∧ banKey (banRow 500) ∈ s.lasting ∧ (banRow 500).cidr ∉ s.cidrs ∧
      ∀ (env : ApiEnv) (config : Config) (entry : IpAddr × List Int),
        ipCidr env entry.1 = (banRow 500).cidr → config.ban.threshold ≤ entry.2.length →
        isTrusted entry.1 config.monitor.trustedCidrs = false →
        verdict env config s.cidrs entry = .candidate := by
  have hrows : (banTable 0 501 (by decide)).rows =
      banRow 0 :: ((List.range' 1 499).map banRow ++ [banRow 500]) := by
    change (List.range' 0 (499 + 1 + 1)).map banRow = _
    rw [List.range'_succ, List.range'_concat, List.map_cons, List.map_append]
    rfl
  have hrows' : (banTable 1 500 (by decide)).rows =
      (List.range' 1 499).map banRow ++ [banRow 500] := by
    change (List.range' 1 (499 + 1)).map banRow = _
    rw [List.range'_concat, List.map_append]
    rfl
  obtain ⟨s, hrun, hdone, hlasting, hcidrs⟩ := skipped_of_deleted hrows hrows'
    (by rw [List.length_map, List.length_range']) sortedByExpiry_banTable live_banTable
  have hmissing : (banRow 500).cidr ∉ s.cidrs := by
    rw [hcidrs]
    intro hmem
    obtain ⟨row, hrow, hcidr⟩ := List.mem_map.mp hmem
    have hbefore : ∃ i < 500, row = banRow i := by
      rcases List.mem_cons.mp hrow with rfl | hrow
      · exact ⟨0, by decide, rfl⟩
      · obtain ⟨i, hi, rfl⟩ := List.mem_map.mp hrow
        rw [List.mem_range'_1] at hi
        exact ⟨i, by omega, rfl⟩
    obtain ⟨i, hi, rfl⟩ := hbefore
    simp [banRow, hi] at hcidr
  refine ⟨s, hrun, hdone, hlasting, hmissing, ?_⟩
  intro env config entry hcidr hthreshold htrusted
  rw [verdict, if_neg (Nat.not_lt.mpr hthreshold), htrusted, if_neg nofun, hcidr,
    if_neg (by rwa [List.contains_iff_mem])]

end Listing

end BtmpMonitor
end XdpFirewall
