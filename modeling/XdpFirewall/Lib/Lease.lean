import Mathlib.Data.List.Basic
import Mathlib.Data.Set.Insert

/-!
# Lease — locks whose holders can expire

A lock knows who took it last. Earlier holders may still believe in it, and their leases must have
expired. Each change of the lock is a rule for this, whatever the lock is made of.
-/

namespace XdpFirewall
namespace Lib

variable {A : Type} {holders holders' expired expired' : Set A} {current : Option A}

/-- A holder whose lease has not expired is the current one. -/
def Exclusive (holders expired : Set A) (current : Option A) : Prop :=
  ∀ i ∈ holders, i ∉ expired → current = some i

/-- The current holder does not stand in the way of a new one. -/
def Free (holders expired : Set A) (current : Option A) : Prop :=
  ∀ i, current = some i → i ∈ holders → i ∈ expired

/-- Nobody holds a free lock but those whose leases have expired. -/
theorem Exclusive.expired_of_free (h : Exclusive holders expired current)
    (hfree : Free holders expired current) {i : A} (hi : i ∈ holders) : i ∈ expired := by
  by_contra hlive
  exact hlive (hfree i (h i hi hlive) hi)

theorem Exclusive.acquire (h : Exclusive holders expired current)
    (hfree : Free holders expired current) (j : A) :
    Exclusive (insert j holders) expired (some j) := by
  intro i hi hlive
  rcases Set.mem_insert_iff.mp hi with rfl | hi
  · rfl
  · exact absurd (h.expired_of_free hfree hi) hlive

theorem Exclusive.clear (h : Exclusive holders expired current)
    (hfree : Free holders expired current) : Exclusive holders expired none :=
  fun _ hi hlive => absurd (h.expired_of_free hfree hi) hlive

/-- Holders may leave, and leases may expire. -/
theorem Exclusive.mono (h : Exclusive holders expired current) (hleave : holders' ⊆ holders)
    (hexpire : ∀ i ∈ holders', i ∈ expired → i ∈ expired') : Exclusive holders' expired' current :=
  fun i hi hlive => h i (hleave hi) fun hexpired => hlive (hexpire i hi hexpired)

/-- In the order of the acquisitions, newest first, each earlier holder has expired. -/
theorem Exclusive.pairwise {acquired : List A} (h : Exclusive holders expired acquired.head?)
    (hnodup : acquired.Nodup) :
    acquired.Pairwise fun _ earlier => earlier ∈ holders → earlier ∈ expired := by
  cases acquired with
  | nil => exact List.Pairwise.nil
  | cons newest older =>
      have holder : ∀ i ∈ older, i ∈ holders → i ∈ expired := by
        intro i hi hholds
        by_contra hlive
        have hnewest : newest = i := Option.some.inj (h i hholds hlive)
        exact (List.nodup_cons.mp hnodup).1 (hnewest ▸ hi)
      exact List.Pairwise.cons holder (List.pairwise_of_forall_mem_list fun _ _ i hi => holder i hi)

end Lib
end XdpFirewall
