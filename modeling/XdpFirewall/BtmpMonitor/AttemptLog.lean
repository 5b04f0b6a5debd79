import XdpFirewall.BtmpMonitor.Btmp
import XdpFirewall.Lib.Transition

/-!
# AttemptLog — reads of a file that grows and is rotated

Login programs append to the file, and logrotate puts a new file in its place or copies it away and
truncates it. The cursor of the last read tells a replaced file from a grown one by its inode and
its length alone.
-/

namespace XdpFirewall
namespace BtmpMonitor

open Lib Policy

/-! ## The file -/

/-- The file at the path and the cursor of the last read; then what the reads have returned of the
present contents, and whether these have begun since the last read. -/
structure BtmpLog where
  inode : Nat
  bytes : List U8
  cursor : Option ReadCursor
  returned : List (List U8)
  fresh : Bool

def BtmpLog.start (inode : Nat) (bytes : List U8) : BtmpLog where
  inode := inode
  bytes := bytes
  cursor := none
  returned := []
  fresh := true

/-- `read` is a call of `read_attempts`, in which the file grows between `metadata` and
`read_to_end`. -/
inductive BtmpEvent where
  | append (more : List U8)
  | rename (inode : Nat) (bytes : List U8)
  | truncate
  | read (during : List U8)

/-- The file that a read opens. -/
def BtmpLog.openFile (log : BtmpLog) (during : List U8) : OpenFile where
  metadata := some {
    inode := log.inode
    len := log.bytes.length
    isFile := true }
  seekFails := false
  contents := some (log.bytes ++ during)

/-- The file that was renamed still exists, so the new one has another inode. An inode that is free
again can be given once more. -/
def BtmpLog.step (path : String) (log : BtmpLog) : BtmpEvent → Option BtmpLog
  | .append more => some { log with bytes := log.bytes ++ more }
  | .rename inode bytes =>
      if inode = log.inode then
        none
      else
        some { log with
          inode := inode
          bytes := bytes
          returned := []
          fresh := true }
  | .truncate =>
      some { log with
        bytes := []
        returned := []
        fresh := true }
  | .read during =>
      match readRecords path (some (log.openFile during)) log.cursor with
      | .error _ => some { log with bytes := log.bytes ++ during }
      | .ok (records, cursor) =>
          some { log with
            bytes := log.bytes ++ during
            cursor := some cursor
            returned := log.returned ++ records
            fresh := false }

/-! ## Reading once -/

/-- After a read, the reads of the present contents have returned its complete records, each once
and in order, and the cursor stands behind the last of them. -/
def ReadOnce (_ : BtmpLog) (e : BtmpEvent) (after : BtmpLog) : Prop :=
  match e with
  | .read _ =>
      after.returned = chunksExact utmpRecordSize after.bytes ∧
        after.cursor = some {
          inode := after.inode
          offset := utmpRecordSize * after.returned.length }
  | _ => True

/-- At a read, new contents have another inode than the cursor or are shorter than its offset. A
cursor at the start of a file is right for every file. -/
def Noticed (before : BtmpLog) (e : BtmpEvent) (_ : BtmpLog) : Prop :=
  match e with
  | .read _ => before.fresh = true →
      ∀ c ∈ before.cursor, c.inode = before.inode → c.offset ≤ before.bytes.length → c.offset = 0
  | _ => True

/-- The cursor stands at a border between records. As long as the contents are those of the last
read, it stands behind what was returned of them. -/
structure BtmpLog.Inv (log : BtmpLog) : Prop where
  aligned : ∀ c ∈ log.cursor, utmpRecordSize ∣ c.offset
  returned_nil : log.fresh = true → log.returned = []
  cursor_eq : log.fresh = false → log.cursor = some {
    inode := log.inode
    offset := utmpRecordSize * log.returned.length }
  returned_eq : log.fresh = false →
    log.returned = chunksExact utmpRecordSize (log.bytes.take (utmpRecordSize * log.returned.length))
  le_length : utmpRecordSize * log.returned.length ≤ log.bytes.length

variable {path : String} {log log' : BtmpLog}

theorem utmpRecordSize_pos : 0 < utmpRecordSize := by decide

theorem inv_start (inode : Nat) (bytes : List U8) : (BtmpLog.start inode bytes).Inv where
  aligned := by
    intro c hc
    cases hc
  returned_nil _ := rfl
  cursor_eq := by
    intro h
    cases h
  returned_eq := by
    intro h
    cases h
  le_length := Nat.zero_le _

/-- The offset at which a read of the file begins. -/
def BtmpLog.readFrom (log : BtmpLog) : Nat :=
  startOffset log.cursor log.inode log.bytes.length

/-- The records that a read returns. -/
def BtmpLog.newRecords (log : BtmpLog) (during : List U8) : List (List U8) :=
  chunksExact utmpRecordSize ((log.bytes ++ during).drop log.readFrom)

theorem step_read (during : List U8) :
    log.step path (.read during) = some { log with
      bytes := log.bytes ++ during
      cursor := some {
        inode := log.inode
        offset := log.readFrom + utmpRecordSize * (log.newRecords during).length }
      returned := log.returned ++ log.newRecords during
      fresh := false } := by
  have hread : readRecords path (some (log.openFile during)) log.cursor =
      .ok (log.newRecords during, {
        inode := log.inode
        offset := log.readFrom + utmpRecordSize * (log.newRecords during).length }) := by
    simp only [readRecords, BtmpLog.openFile, Bool.not_true, Bool.false_eq_true, if_false, and_false]
    rw [chunksExact_take utmpRecordSize_pos, BtmpLog.newRecords, length_chunksExact,
      Nat.mul_comm utmpRecordSize]
    rfl
  rw [BtmpLog.step, hread]

theorem startOffset_eq_zero_iff {cursor : Option ReadCursor} {inode len : Nat} :
    startOffset cursor inode len = 0 ↔
      ∀ c ∈ cursor, c.inode = inode → c.offset ≤ len → c.offset = 0 := by
  cases cursor with
  | none => exact iff_of_true rfl fun c hc => by cases hc
  | some c =>
      rw [startOffset]
      constructor
      · intro h c' hc' hinode hle
        cases hc'
        rwa [if_pos ⟨hinode, hle⟩] at h
      · intro h
        split
        · next hsame => exact h c rfl hsame.1 hsame.2
        · rfl

/-- Contents that were not replaced are read on from where the last read ended. -/
theorem readFrom_of_not_fresh (hinv : log.Inv) (hfresh : log.fresh = false) :
    log.readFrom = utmpRecordSize * log.returned.length := by
  rw [BtmpLog.readFrom, hinv.cursor_eq hfresh]
  exact if_pos ⟨rfl, hinv.le_length⟩

/-- From a border up to which everything was returned, a read returns the rest. -/
theorem returned_append (during : List U8)
    (hborder : log.readFrom = utmpRecordSize * log.returned.length)
    (hle : log.readFrom ≤ log.bytes.length)
    (hreturned : log.returned = chunksExact utmpRecordSize (log.bytes.take log.readFrom)) :
    log.returned ++ log.newRecords during =
      chunksExact utmpRecordSize (log.bytes ++ during) := by
  have hfront : utmpRecordSize ∣ (log.bytes.take log.readFrom).length := by
    rw [List.length_take, Nat.min_eq_left hle, hborder]
    exact Nat.dvd_mul_right utmpRecordSize _
  calc log.returned ++ log.newRecords during
      = chunksExact utmpRecordSize (log.bytes.take log.readFrom) ++
          chunksExact utmpRecordSize ((log.bytes ++ during).drop log.readFrom) := by
        rw [← hreturned, BtmpLog.newRecords]
    _ = chunksExact utmpRecordSize
          (log.bytes.take log.readFrom ++ (log.bytes ++ during).drop log.readFrom) :=
        (chunksExact_append utmpRecordSize_pos hfront _).symm
    _ = chunksExact utmpRecordSize (log.bytes ++ during) := by
        rw [List.drop_append_of_le_length hle, ← List.append_assoc, List.take_append_drop]

/-- A read that begins behind the start of contents of which nothing was returned loses a record. -/
theorem newRecords_ne (during : List U8) (hpos : log.readFrom ≠ 0)
    (hdvd : utmpRecordSize ∣ log.readFrom) (hle : log.readFrom ≤ log.bytes.length) :
    log.newRecords during ≠ chunksExact utmpRecordSize (log.bytes ++ during) := by
  intro heq
  have hlen := congrArg List.length heq
  rw [BtmpLog.newRecords, length_chunksExact, length_chunksExact, List.length_drop,
    List.length_append] at hlen
  obtain ⟨count, hcount⟩ := hdvd
  have hcount_pos : count ≠ 0 := by
    rintro rfl
    exact hpos hcount
  have hsplit : log.bytes.length + during.length =
      utmpRecordSize * count + (log.bytes.length + during.length - log.readFrom) := by omega
  rw [hsplit, Nat.mul_add_div utmpRecordSize_pos, hcount, Nat.add_sub_cancel_left] at hlen
  omega

theorem startOffset_le {cursor : Option ReadCursor} {inode len : Nat} :
    startOffset cursor inode len ≤ len := by
  cases cursor with
  | none => exact Nat.zero_le _
  | some c =>
      rw [startOffset]
      split
      · next hsame => exact hsame.2
      · exact Nat.zero_le _

theorem dvd_readFrom (hinv : log.Inv) : utmpRecordSize ∣ log.readFrom := by
  rw [BtmpLog.readFrom]
  cases hcursor : log.cursor with
  | none => exact Nat.dvd_zero _
  | some c =>
      rw [startOffset]
      split
      · exact hinv.aligned c hcursor
      · exact Nat.dvd_zero _

/-! ## Steps -/

/-- Everything returned stands before the point at which a read begins. -/
def BtmpLog.Continues (log : BtmpLog) : Prop :=
  log.readFrom = utmpRecordSize * log.returned.length ∧
    log.returned = chunksExact utmpRecordSize (log.bytes.take log.readFrom)

theorem continues_iff_noticed (hinv : log.Inv) (during : List U8) (after : BtmpLog) :
    log.Continues ↔ Noticed log (.read during) after := by
  cases hfresh : log.fresh with
  | false =>
      have hfrom := readFrom_of_not_fresh hinv hfresh
      refine iff_of_true ⟨hfrom, ?_⟩ fun h => ?_
      · rw [hfrom]
        exact hinv.returned_eq hfresh
      · rw [hfresh] at h
        cases h
  | true =>
      have hnil := hinv.returned_nil hfresh
      have hnoticed : Noticed log (.read during) after ↔ log.readFrom = 0 := by
        rw [BtmpLog.readFrom, startOffset_eq_zero_iff]
        exact forall_prop_of_true hfresh
      rw [hnoticed, BtmpLog.Continues, hnil, List.length_nil, Nat.mul_zero]
      refine ⟨And.left, fun hzero => ⟨hzero, ?_⟩⟩
      rw [hzero, List.take_zero, chunksExact_of_lt utmpRecordSize_pos]

/-- A read that continues leaves nothing out, and one that does not leaves a record out. -/
theorem readOnce_iff_continues (hinv : log.Inv) {during : List U8}
    (hstep : log.step path (.read during) = some log') :
    ReadOnce log (.read during) log' ↔ log.Continues := by
  rw [step_read] at hstep
  cases hstep
  constructor
  · rintro ⟨hreturned, -⟩
    cases hfresh : log.fresh with
    | false =>
        refine (continues_iff_noticed hinv during log).mpr fun h => ?_
        rw [hfresh] at h
        cases h
    | true =>
        have hnil := hinv.returned_nil hfresh
        by_contra hnot
        have hpos : log.readFrom ≠ 0 := by
          intro hzero
          refine hnot ⟨by rw [hzero, hnil, List.length_nil, Nat.mul_zero], ?_⟩
          rw [hnil, hzero, List.take_zero, chunksExact_of_lt utmpRecordSize_pos]
        rw [hnil, List.nil_append] at hreturned
        exact newRecords_ne during hpos (dvd_readFrom hinv) startOffset_le hreturned
  · rintro ⟨hborder, hreturned⟩
    refine ⟨returned_append during hborder startOffset_le hreturned, ?_⟩
    change some _ = some _
    rw [List.length_append, Nat.mul_add, hborder]

theorem inv_of_readOnce (hfresh : log.fresh = false)
    (hreturned : log.returned = chunksExact utmpRecordSize log.bytes)
    (hcursor : log.cursor = some {
      inode := log.inode
      offset := utmpRecordSize * log.returned.length }) : log.Inv := by
  have hcount : utmpRecordSize * log.returned.length =
      log.bytes.length / utmpRecordSize * utmpRecordSize := by
    rw [hreturned, length_chunksExact, Nat.mul_comm]
  refine ⟨?_, fun h => ?_, fun _ => hcursor, fun _ => ?_, ?_⟩
  · intro c hc
    rw [hcursor] at hc
    cases hc
    exact Nat.dvd_mul_right utmpRecordSize _
  · rw [hfresh] at h
    cases h
  · rw [hcount, chunksExact_take utmpRecordSize_pos]
    exact hreturned
  · rw [hcount]
    exact Nat.div_mul_le_self _ _

theorem inv_read (hinv : log.Inv) {during : List U8}
    (hstep : log.step path (.read during) = some log') (hcontinues : log.Continues) :
    log'.Inv := by
  obtain ⟨hreturned, hcursor⟩ := (readOnce_iff_continues hinv hstep).mpr hcontinues
  rw [step_read] at hstep
  cases hstep
  exact inv_of_readOnce rfl hreturned hcursor

theorem inv_step (hinv : log.Inv) {e : BtmpEvent} (hstep : log.step path e = some log')
    (hnoticed : Noticed log e log') : log'.Inv := by
  cases e with
  | append more =>
      cases hstep
      refine ⟨hinv.aligned, hinv.returned_nil, hinv.cursor_eq, fun hfresh => ?_, ?_⟩
      · rw [List.take_append_of_le_length hinv.le_length]
        exact hinv.returned_eq hfresh
      · rw [List.length_append]
        exact Nat.le_add_right_of_le hinv.le_length
  | rename inode bytes =>
      rw [BtmpLog.step] at hstep
      split at hstep
      · cases hstep
      · cases hstep
        exact ⟨hinv.aligned, fun _ => rfl, nofun, nofun,
          Nat.zero_le _⟩
  | truncate =>
      cases hstep
      exact ⟨hinv.aligned, fun _ => rfl, nofun, nofun, Nat.zero_le _⟩
  | read during =>
      exact inv_read hinv hstep ((continues_iff_noticed hinv during log').mpr hnoticed)

/-- The reads of a run return every record once when each of them notices that the file was
replaced, and only then. -/
theorem readOnce_iff_noticed (path : String) (inode : Nat) (bytes : List U8)
    (es : List BtmpEvent) :
    EachStep (BtmpLog.step path) ReadOnce (BtmpLog.start inode bytes) es ↔
      EachStep (BtmpLog.step path) Noticed (BtmpLog.start inode bytes) es := by
  refine eachStep_congr ?_ ?_ (inv_start inode bytes)
  · intro log e log' hinv hstep
    cases e with
    | read during =>
        exact (readOnce_iff_continues hinv hstep).trans (continues_iff_noticed hinv during log')
    | append more => exact Iff.rfl
    | rename inode bytes => exact Iff.rfl
    | truncate => exact Iff.rfl
  · intro log e log' hinv hstep hnoticed
    exact inv_step hinv hstep hnoticed

/-! ## A file that has grown again -/

/-- One record that was read, in a file truncated since, and another one. -/
def regrownLog (inode : Nat) (record : List U8) : BtmpLog where
  inode := inode
  bytes := record
  cursor := some {
    inode := inode
    offset := utmpRecordSize }
  returned := []
  fresh := true

theorem step_read_start (inode : Nat) {record : List U8} (hlen : record.length = utmpRecordSize) :
    (BtmpLog.start inode record).step path (.read []) = some {
      inode := inode
      bytes := record
      cursor := some {
        inode := inode
        offset := utmpRecordSize }
      returned := [record]
      fresh := false } := by
  have hrecords : (BtmpLog.start inode record).newRecords [] = [record] := by
    have hdrop : (record ++ []).drop (BtmpLog.start inode record).readFrom = record :=
      List.append_nil record
    have htake : record.take utmpRecordSize = record := List.take_of_length_le (by rw [hlen])
    change chunksExact utmpRecordSize ((record ++ []).drop _) = [record]
    rw [hdrop, chunksExact, hlen, Nat.div_self utmpRecordSize_pos, List.range_one, List.map_singleton,
      Nat.mul_zero, List.drop_zero, htake]
  rw [step_read, hrecords]
  simp only [BtmpLog.start, List.append_nil, List.nil_append]
  rfl

theorem run_regrown (path : String) (inode : Nat) {first second : List U8}
    (hfirst : first.length = utmpRecordSize) :
    run (BtmpLog.step path) (BtmpLog.start inode [])
      [.append first, .read [], .truncate, .append second] = some (regrownLog inode second) := by
  rw [run_cons_eq_some_iff]
  refine ⟨BtmpLog.start inode first, rfl, ?_⟩
  rw [run_cons_eq_some_iff]
  exact ⟨_, step_read_start inode hfirst, rfl⟩

/-- A record is read, the file is copied away and truncated, and another record comes before the
next read: the file is as long as before, and the read finds nothing in it. -/
theorem not_readOnce_of_regrown (path : String) (inode : Nat) {first second : List U8}
    (hfirst : first.length = utmpRecordSize) (hsecond : second.length = utmpRecordSize) :
    ¬ EachStep (BtmpLog.step path) ReadOnce (BtmpLog.start inode [])
      [.append first, .read [], .truncate, .append second, .read []] := by
  intro h
  have hevents : EachStep (BtmpLog.step path) ReadOnce (BtmpLog.start inode [])
      ([.append first, .read [], .truncate, .append second] ++ [.read []]) := h
  have hlast := hevents.of_append (run_regrown path inode hfirst)
  obtain ⟨⟨hreturned, -⟩, -⟩ := hlast _ (step_read [])
  have hfrom : (regrownLog inode second).readFrom = utmpRecordSize := by
    rw [BtmpLog.readFrom, regrownLog, startOffset, if_pos ⟨rfl, Nat.le_of_eq hsecond.symm⟩]
  refine newRecords_ne [] ?_ ?_ startOffset_le hreturned
  · rw [hfrom]
    decide
  · rw [hfrom]

/-- Two records of which the reads return only the first. -/
theorem regrown_record_lost :
    ¬ ∀ (path : String) (inode : Nat) (bytes : List U8) (es : List BtmpEvent),
      EachStep (BtmpLog.step path) ReadOnce (BtmpLog.start inode bytes) es := by
  intro h
  exact not_readOnce_of_regrown "/var/log/btmp" 7
    (List.length_replicate (n := utmpRecordSize) (a := 0))
    (List.length_replicate (n := utmpRecordSize) (a := 1)) (h _ _ _ _)

end BtmpMonitor
end XdpFirewall
