import Mathlib.Data.List.Basic
import Std.Data.String.ToInt

/-!
# LockTable — the rows that hold a refresh lock

The geo refresh and the threat refresh each keep their lock in a row of a state table, in columns
that mean something else in the other rows. What taking and releasing the lock does to the columns
is what the two have in common.
-/

namespace XdpFirewall
namespace Intelligence

/-- Nanoseconds since 1970, for the readings that `timestamp_nanos_opt` can express. -/
abbrev Timestamp := Int

/-- `lock_owner`, of the process and its clock reading. -/
def lockOwner (pid : Nat) (now : Timestamp) : String :=
  pid.repr ++ ":" ++ now.repr

/-- `lease_is_fresh`. A duration has whole seconds, rounded towards zero. -/
def leaseIsFresh (lastCheckedAt updatedAt now : Timestamp) (staleSeconds : Int) : Bool :=
  Int.tdiv (now - max lastCheckedAt updatedAt) 1000000000 < staleSeconds

/-- The columns of a lock, as the statements of its acquisition and its release use them. -/
structure LockTable (Row : Type) where
  staleSeconds : Int
  lastCheckedAt : Row → Timestamp
  updatedAt : Row → Timestamp
  isRunning : Row → Bool
  ownedBy : Row → String → Bool
  initial : Timestamp → Row
  markRunning : Row → String → Timestamp → Row
  markIdle : Row → Timestamp → Row
  isRunning_markRunning : ∀ row owner now, isRunning (markRunning row owner now) = true
  ownedBy_markRunning : ∀ row owner now owner',
    ownedBy (markRunning row owner now) owner' = true ↔ owner = owner'
  lastCheckedAt_markRunning : ∀ row owner now, lastCheckedAt (markRunning row owner now) = now
  updatedAt_markRunning : ∀ row owner now, updatedAt (markRunning row owner now) = updatedAt row
  isRunning_markIdle : ∀ row now, isRunning (markIdle row now) = false
  updatedAt_markIdle : ∀ row now, updatedAt (markIdle row now) = updatedAt row
  isRunning_initial : ∀ now, isRunning (initial now) = false
  lastCheckedAt_initial : ∀ now, lastCheckedAt (initial now) = now
  updatedAt_initial : ∀ now, updatedAt (initial now) = now

/-- `lock_is_busy` -/
def LockTable.isBusy {Row : Type} (table : LockTable Row) (row : Row) (now : Timestamp) : Bool :=
  table.isRunning row &&
    leaseIsFresh (table.lastCheckedAt row) (table.updatedAt row) now table.staleSeconds

/-! ## Country IP lists -/

def ipdenyRoot : String := "https://www.ipdeny.com/ipblocks/"

/-- The row of the country `__refresh_lock__` in the table of list states. -/
structure GeoIpListState where
  url : String
  lastModified : Option String
  etag : Option String
  prefixCount : Nat
  lastCheckedAt : Timestamp
  lastDownloadedAt : Option Timestamp
  updatedAt : Timestamp
  deriving DecidableEq

/-- `ensure_lock_row`, `lock_is_busy`, `mark_lock_running` and `release_lock` -/
def geoRefreshLock : LockTable GeoIpListState where
  staleSeconds := 30 * 60
  lastCheckedAt row := row.lastCheckedAt
  updatedAt row := row.updatedAt
  isRunning row := row.lastModified = some "running"
  ownedBy row owner := row.etag = some owner
  initial now :=
    { url := ipdenyRoot
      lastModified := some "idle"
      etag := none
      prefixCount := 0
      lastCheckedAt := now
      lastDownloadedAt := none
      updatedAt := now }
  markRunning row owner now :=
    { row with
      lastModified := some "running"
      etag := some owner
      lastCheckedAt := now }
  markIdle row now :=
    { row with
      lastModified := some "idle"
      etag := none
      lastCheckedAt := now }
  isRunning_markRunning _ _ _ := decide_eq_true rfl
  ownedBy_markRunning row owner now owner' := by
    simp
  lastCheckedAt_markRunning _ _ _ := rfl
  updatedAt_markRunning _ _ _ := rfl
  isRunning_markIdle _ _ := by simp
  updatedAt_markIdle _ _ := rfl
  isRunning_initial _ := by simp
  lastCheckedAt_initial _ := rfl
  updatedAt_initial _ := rfl

/-! ## Threat sources -/

/-- The row of the policy `__threat_refresh_lock__` in the table of source states. -/
structure ThreatSourceState where
  fingerprint : String
  prefixCount : Nat
  lastCheckedAt : Timestamp
  lastChangedAt : Option Timestamp
  updatedAt : Timestamp
  deriving DecidableEq

def runningText : String := "running:"

/-- `ensure_threat_refresh_lock_row`, `threat_refresh_lock_is_busy`,
`mark_threat_refresh_lock_running` and `release_threat_refresh_lock` -/
def threatRefreshLock : LockTable ThreatSourceState where
  staleSeconds := 900
  lastCheckedAt row := row.lastCheckedAt
  updatedAt row := row.updatedAt
  isRunning row := runningText.toList <+: row.fingerprint.toList
  ownedBy row owner := row.fingerprint = runningText ++ owner
  initial now :=
    { fingerprint := "idle"
      prefixCount := 0
      lastCheckedAt := now
      lastChangedAt := none
      updatedAt := now }
  markRunning row owner now :=
    { row with
      fingerprint := runningText ++ owner
      lastCheckedAt := now
      lastChangedAt := some now }
  markIdle row now :=
    { row with
      fingerprint := "idle"
      lastCheckedAt := now }
  isRunning_markRunning row owner now := by
    simp
  ownedBy_markRunning row owner now owner' := by
    simp
  lastCheckedAt_markRunning _ _ _ := rfl
  updatedAt_markRunning _ _ _ := rfl
  isRunning_markIdle _ _ := by simp [runningText]
  updatedAt_markIdle _ _ := rfl
  isRunning_initial _ := by simp [runningText]
  lastCheckedAt_initial _ := rfl
  updatedAt_initial _ := rfl

/-! ## Owners -/

theorem colon_notMem_repr (n : Nat) : ':' ∉ n.repr.toList := by
  intro h
  rw [Nat.toList_repr] at h
  have := Nat.isDigit_of_mem_toDigits (by decide) (by decide) h
  exact absurd this (by decide)

theorem colon_notMem_int_repr (now : Int) : ':' ∉ now.repr.toList := by
  cases now with
  | ofNat n => exact colon_notMem_repr n
  | negSucc n =>
      intro h
      rw [Int.repr, String.toList_append] at h
      rcases List.mem_append.mp h with h | h
      · exact absurd h (by decide)
      · exact colon_notMem_repr (n + 1) h

/-- Owners are told apart by their clock readings. -/
theorem now_eq_of_lockOwner_eq {pid pid' : Nat} {now now' : Timestamp}
    (h : lockOwner pid now = lockOwner pid' now') : now = now' := by
  have htext : pid.repr.toList ++ ':' :: now.repr.toList =
      pid'.repr.toList ++ ':' :: now'.repr.toList := by
    simpa [lockOwner, String.toList_append] using congrArg String.toList h
  obtain ⟨-, -, hnow⟩ := (List.append_cons_inj_of_notMem (colon_notMem_repr pid')
    (colon_notMem_int_repr now')).mp htext.symm
  exact Int.repr_injective (String.toList_injective hnow.symm)

end Intelligence
end XdpFirewall
