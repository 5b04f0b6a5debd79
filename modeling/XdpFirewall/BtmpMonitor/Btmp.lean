import XdpFirewall.Agent.DropEvents
import XdpFirewall.BtmpMonitor.Monitor
import XdpFirewall.Lib.Records
import XdpFirewall.Net.IpText

/-!
# Btmp — the records of failed logins in `/var/log/btmp`

The file is a sequence of `struct utmp` records of one size. A cursor remembers which file was read
and how far, so that the next read begins where the last one ended.
-/

namespace XdpFirewall
namespace BtmpMonitor

open Lib Net Policy Agent

/-! ## Records -/

def utmpRecordSize : Nat := 384

def utHostOffset : Nat := 76
def utHostLen : Nat := 256
def utTvSecOffset : Nat := 340
def utAddrV6Offset : Nat := 348
def utAddrV6Len : Nat := 16

/-- `record[offset..offset + len]` -/
def field (record : List U8) (offset len : Nat) : List U8 :=
  (record.drop offset).take len

/-- What stands before the first NUL; bytes that are not UTF-8 give the empty text. -/
def fieldStr (bytes : List U8) : String :=
  (String.fromUTF8? ⟨((bytes.takeWhile fun b => b ≠ 0).map UInt8.ofBitVec).toArray⟩).getD ""

def ipFromAddrV6 (bytes : List U8) : Option IpAddr :=
  if bytes.all fun b => b = 0 then
    none
  else
    let isV4Mapped := ((bytes.take 10).all fun b => b = 0) && bytes[10]? = some 0xff &&
      bytes[11]? = some 0xff
    let isV4Compat := (bytes.take 12).all fun b => b = 0
    if isV4Mapped || isV4Compat then
      (fromBeBytes 4 ((bytes.drop 12).take 4)).map .v4
    else
      (fromBeBytes 16 (bytes.take utAddrV6Len)).map .v6

/-- The address that a text names after `trim`. -/
def parseHost (host : String) : Option IpAddr :=
  IpText.parseIpAddr (trim host.toList)

/-- `u32::try_from(usec).unwrap_or(0)` -/
def unsignedMicros (usec : U32) : U32 :=
  if usec.toInt < 0 then 0 else usec

/-- `DateTime::from_timestamp`, in nanoseconds: the second after a `59` may take two. Every `i32`
of seconds is a date. -/
def fromTimestamp (sec : Int) (nsec : Nat) : Option Int :=
  if 2000000000 ≤ nsec ∨ (1000000000 ≤ nsec ∧ sec % 60 ≠ 59) then
    none
  else
    some (sec * 1000000000 + nsec)

/-- The product with 1000 does not fit an `u32`. With overflow checks the program panics there, and
without them the product wraps. -/
def MicrosOverflow (usec : U32) : Prop :=
  2 ^ 32 ≤ (unsignedMicros usec).toNat * 1000

instance (usec : U32) : Decidable (MicrosOverflow usec) :=
  inferInstanceAs (Decidable (_ ≤ _))

def recordSec (record : List U8) : Option U32 :=
  fromNeBytes 4 (field record utTvSecOffset 4)

def recordUsec (record : List U8) : Option U32 :=
  fromNeBytes 4 (field record (utTvSecOffset + 4) 4)

/-- `parse_record`, without overflow checks. -/
def parseRecord (record : List U8) : Option FailedAttempt := do
  let host := fieldStr (field record utHostOffset utHostLen)
  let ip ← match parseHost host with
    | some ip => some ip
    | none => ipFromAddrV6 (field record utAddrV6Offset utAddrV6Len)
  let sec ← recordSec record
  let usec ← recordUsec record
  let time ← fromTimestamp sec.toInt (unsignedMicros usec * 1000).toNat
  return { ip := ip, time := time }

/-! ## Reads -/

structure ReadCursor where
  inode : Nat
  offset : Nat
  deriving DecidableEq

structure Metadata where
  inode : Nat
  len : Nat
  isFile : Bool

/-- A file that is open: its metadata, whether a seek in it fails, and the bytes that are in it when
it is read, which can be more than its metadata said. -/
structure OpenFile where
  metadata : Option Metadata
  seekFails : Bool
  contents : Option (List U8)

/-- Where the next read begins: a file with another inode, or shorter than the offset, is read from
its start. -/
def startOffset (cursor : Option ReadCursor) (inode len : Nat) : Nat :=
  match cursor with
  | some c => if c.inode = inode ∧ c.offset ≤ len then c.offset else 0
  | none => 0

/-- The complete records after the cursor, and the cursor after the last one. -/
def readRecords (path : String) (file : Option OpenFile) (cursor : Option ReadCursor) :
    Except String (List (List U8) × ReadCursor) :=
  match file with
  | none => .error ("failed to open btmp file: " ++ path)
  | some file =>
      match file.metadata with
      | none => .error ("failed to stat btmp file: " ++ path)
      | some metadata =>
          if !metadata.isFile then
            .error ("btmp path is not a regular file: " ++ path)
          else
            let start := startOffset cursor metadata.inode metadata.len
            if 0 < start ∧ file.seekFails then
              .error ("failed to seek btmp file to " ++ start.repr)
            else
              match file.contents with
              | none => .error ("failed to read btmp file: " ++ path)
              | some contents =>
                  let buf := contents.drop start
                  let complete := buf.length / utmpRecordSize * utmpRecordSize
                  .ok (chunksExact utmpRecordSize (buf.take complete),
                    { inode := metadata.inode
                      offset := start + complete })

def readAttempts (path : String) (file : Option OpenFile) (cursor : Option ReadCursor) :
    Except String (List FailedAttempt × ReadCursor) :=
  (readRecords path file cursor).map fun (records, cursor) =>
    (records.filterMap parseRecord, cursor)

end BtmpMonitor
end XdpFirewall
