import XdpFirewall.BtmpMonitor.Btmp
import XdpFirewall.Net.Ipv6Text

/-!
# Blame — whose address a record of a failed login holds

A login program writes the address of the other host as text, or in the sixteen bytes of
`ut_addr_v6`: an IPv4 address mapped into IPv6, or in the first word with zeros behind it, and an
IPv6 address in full.
-/

namespace XdpFirewall
namespace BtmpMonitor

open Net Policy Api DataPlane Bpf Agent

/-! ## Forms -/

/-- The bytes of an address, the most significant one first. -/
def octets (n : Nat) (ip : BitVec (8 * n)) : List U8 :=
  (List.range n).map fun j => octet ip j

def hostText (record : List U8) : List Char :=
  trim (fieldStr (field record utHostOffset utHostLen)).toList

def addrField (record : List U8) : List U8 :=
  field record utAddrV6Offset utAddrV6Len

/-- How an address is written: dotted, after `::ffff:` or as an IPv6 address in the text, or in the
sixteen bytes. -/
inductive AddressForm where
  | dottedText (ip : BitVec 32)
  | mappedText (ip : BitVec 32)
  | fullText (ip : BitVec 128)
  | mapped (ip : BitVec 32)
  | firstWord (ip : BitVec 32)
  | full (ip : BitVec 128)

namespace AddressForm

def attacker : AddressForm → IpAddr
  | dottedText ip | mappedText ip | mapped ip | firstWord ip => .v4 ip
  | fullText ip | full ip => .v6 ip

/-- The network of the attacker alone. -/
def attackerCidr (env : ApiEnv) (form : AddressForm) : String :=
  env.displayAddr form.attacker ++ match form.attacker with
    | .v4 _ => "/32"
    | .v6 _ => "/128"

/-- The record holds the address in this form; the bytes count when the text is no address. An IPv6
text that is that of a mapped address is not one of a host of its own. -/
def Holds (record : List U8) : AddressForm → Prop
  | dottedText ip => hostText record = IpText.dotted ip
  | mappedText ip => hostText record =
      ':' :: ':' :: 'f' :: 'f' :: 'f' :: 'f' :: ':' :: IpText.dotted ip
  | fullText ip => (IpText.segments ip).take 6 ≠ [0, 0, 0, 0, 0, 0xffff] ∧
      hostText record = IpText.displayIpAddr (.v6 ip)
  | mapped ip => IpText.parseIpAddr (hostText record) = none ∧
      addrField record = List.replicate 10 0 ++ [0xff, 0xff] ++ octets 4 ip
  | firstWord ip => IpText.parseIpAddr (hostText record) = none ∧
      addrField record = octets 4 ip ++ List.replicate 12 0
  | full ip => IpText.parseIpAddr (hostText record) = none ∧ addrField record = octets 16 ip

/-- The forms that the monitor tells apart: an IPv6 address in full must not begin with the twelve
bytes of a mapped one, nor with twelve zeros. -/
def Recognized : AddressForm → Prop
  | dottedText _ | fullText _ | mapped _ => True
  | mappedText _ | firstWord _ => False
  | full ip => (octets 16 ip).take 12 ≠ List.replicate 12 0 ∧
      (octets 16 ip).take 12 ≠ List.replicate 10 0 ++ [0xff, 0xff]

end AddressForm

/-- The microseconds are part of a second, which takes two in a minute with a leap second. A
negative number counts as zero. -/
def Timely (record : List U8) : Prop :=
  ∃ sec usec, recordSec record = some sec ∧ recordUsec record = some usec ∧
    (usec.toInt < 1000000 ∨ usec.toInt < 2000000 ∧ sec.toInt % 60 = 59)

/-- The address that `parse_record` finds. -/
def recordIp (record : List U8) : Option IpAddr :=
  match IpText.parseIpAddr (hostText record) with
  | some ip => some ip
  | none => ipFromAddrV6 (addrField record)

/-- The product with 1000 is made, which is when an address was found, and overflows. -/
def Overflows (record : List U8) : Prop :=
  (∃ ip, recordIp record = some ip) ∧ ∃ usec ∈ recordUsec record, MicrosOverflow usec

/-- The record is read as a failure of the attacker, the ban is one of this host, and no product
overflows on the way. -/
def Blames (record : List U8) (form : AddressForm) : Prop :=
  (∃ attempt, parseRecord record = some attempt ∧ attempt.ip = form.attacker ∧
    ∀ env, ipCidr env attempt.ip = form.attackerCidr env) ∧
  ∀ usec ∈ recordUsec record, ¬ MicrosOverflow usec

/-! ## Bytes -/

theorem length_octets {n : Nat} (ip : BitVec (8 * n)) : (octets n ip).length = n := by
  rw [octets, List.length_map, List.length_range]

theorem fromBeBytes_octets {n : Nat} (ip : BitVec (8 * n)) :
    fromBeBytes n (octets n ip) = some ip := by
  have hbytes : ∀ j < n, (octets n ip).getD j 0 = octet ip j := by
    intro j hj
    rw [List.getD_eq_getElem?_getD, octets, List.getElem?_map, List.getElem?_range hj,
      Option.map_some, Option.getD_some]
  rw [fromBeBytes, if_pos (length_octets ip), ofOctets_congr hbytes, ofOctets_octet]

theorem ipFromAddrV6_mapped (ip : BitVec 32) :
    ipFromAddrV6 (List.replicate 10 0 ++ [0xff, 0xff] ++ octets 4 ip) = some (.v4 ip) := by
  have hzero : ¬ (List.replicate 10 0 ++ [0xff, 0xff] ++ octets 4 ip).all
      (fun b => decide (b = 0)) = true := by
    simp
  have hip : ((List.replicate 10 0 ++ [0xff, 0xff] ++ octets 4 ip).drop 12).take 4 =
      octets 4 ip := rfl
  rw [ipFromAddrV6, if_neg hzero, hip, @fromBeBytes_octets 4 ip]
  rfl

/-- An address in the first word is taken for one in full. -/
theorem ipFromAddrV6_firstWord (ip : BitVec 32) :
    ipFromAddrV6 (octets 4 ip ++ List.replicate 12 0) ≠ some (.v4 ip) := by
  have hbytes : octets 4 ip ++ List.replicate 12 0 =
      [octet ip 0, octet ip 1, octet ip 2, octet ip 3, 0, 0, 0, 0, 0, 0, 0, 0, 0, 0, 0, 0] := rfl
  rw [hbytes, ipFromAddrV6]
  split
  · exact nofun
  · next hzero =>
      have hcompat : ¬ ([octet ip 0, octet ip 1, octet ip 2, octet ip 3, 0, 0, 0, 0, 0, 0, 0, 0, 0,
          0, 0, 0].take 12).all (fun b => decide (b = 0)) = true := by
        simpa using hzero
      rw [if_neg]
      · rw [ne_eq, Option.map_eq_some_iff]
        rintro ⟨ip6, -, h⟩
        cases h
      · simp only [hcompat, Bool.or_false]
        simp

theorem all_zero_iff {bytes : List U8} {n : Nat} (hlen : bytes.length = n) :
    bytes.all (fun b => decide (b = 0)) = true ↔ bytes = List.replicate n 0 := by
  rw [List.all_eq_true, List.eq_replicate_iff, and_iff_right hlen]
  exact forall₂_congr fun b _ => decide_eq_true_iff

theorem mapped_iff {bytes : List U8} (hlen : bytes.length = 16) :
    (((bytes.take 10).all fun b => decide (b = 0)) && decide (bytes[10]? = some 0xff) &&
        decide (bytes[11]? = some 0xff)) = true ↔
      bytes.take 12 = List.replicate 10 0 ++ [0xff, 0xff] := by
  have hfront : (bytes.take 10).length = 10 := by rw [List.length_take, hlen]; rfl
  have hsplit : bytes.take 12 = bytes.take 10 ++ [bytes[10], bytes[11]] := by
    rw [List.take_succ_eq_append_getElem (by omega), List.take_succ_eq_append_getElem (by omega),
      List.append_assoc]
    rfl
  rw [Bool.and_eq_true, Bool.and_eq_true, all_zero_iff hfront, decide_eq_true_iff,
    decide_eq_true_iff, List.getElem?_eq_getElem (by omega), List.getElem?_eq_getElem (by omega),
    hsplit]
  constructor
  · rintro ⟨⟨hzero, hten⟩, heleven⟩
    rw [hzero, Option.some.inj hten, Option.some.inj heleven]
  · intro h
    obtain ⟨hzero, hpair⟩ := List.append_inj h (by rw [hfront, List.length_replicate])
    rw [List.cons.injEq, List.cons.injEq] at hpair
    exact ⟨⟨hzero, congrArg some hpair.1⟩, congrArg some hpair.2.1⟩

/-- An address in full is recognized unless it begins with twelve bytes that mean IPv4. -/
theorem ipFromAddrV6_full_iff (ip : BitVec 128) :
    ipFromAddrV6 (octets 16 ip) = some (.v6 ip) ↔ (AddressForm.full ip).Recognized := by
  have hlen : (octets 16 ip).length = 16 := @length_octets 16 ip
  have hfront : ((octets 16 ip).take 12).length = 12 := by rw [List.length_take, hlen]; rfl
  have hall : (octets 16 ip).take utAddrV6Len = octets 16 ip :=
    List.take_of_length_le (Nat.le_of_eq hlen)
  rw [AddressForm.Recognized, ipFromAddrV6]
  split
  · next hzero =>
      -- the address `::` is no address at all
      refine iff_of_false nofun fun h => h.1 ?_
      rw [(all_zero_iff hlen).mp hzero]
      rfl
  · dsimp only
    split
    · next hv4 =>
        refine iff_of_false ?_ ?_
        · rw [Option.map_eq_some_iff]
          rintro ⟨ip4, -, h⟩
          cases h
        · rw [Bool.or_eq_true, mapped_iff hlen, all_zero_iff hfront] at hv4
          exact fun h => hv4.elim h.2 h.1
    · next hv4 =>
        refine iff_of_true ?_ ?_
        · rw [hall, @fromBeBytes_octets 16 ip]
          rfl
        · rw [Bool.or_eq_true, mapped_iff hlen, all_zero_iff hfront, not_or] at hv4
          exact ⟨hv4.2, hv4.1⟩

/-! ## Times -/

theorem length_field {record : List U8} (hlen : record.length = utmpRecordSize) {offset len : Nat}
    (h : offset + len ≤ utmpRecordSize) : (field record offset len).length = len := by
  rw [field, List.length_take, List.length_drop, hlen]
  omega

theorem exists_fromNeBytes {bytes : List U8} {n : Nat} (hlen : bytes.length = n) :
    ∃ x, fromNeBytes n bytes = some x := by
  rw [fromNeBytes, fromBeBytes, if_pos (by rw [List.length_reverse, hlen])]
  exact ⟨_, rfl⟩

theorem toNat_unsignedMicros (usec : U32) : (unsignedMicros usec).toNat = usec.toInt.toNat := by
  rw [unsignedMicros]
  split
  · next hneg => rw [Int.toNat_of_nonpos (Int.le_of_lt hneg)]; rfl
  · next hnonneg =>
      rw [BitVec.toInt_eq_toNat_cond] at hnonneg ⊢
      split at hnonneg
      · next hsmall => rw [if_pos hsmall, Int.toNat_natCast]
      · have := usec.isLt
        omega

/-- A time is read without overflow exactly when its microseconds are part of a second. -/
theorem fromTimestamp_iff (sec usec : U32) :
    (∃ time, fromTimestamp sec.toInt (unsignedMicros usec * 1000).toNat = some time) ∧
        ¬ MicrosOverflow usec ↔
      usec.toInt < 1000000 ∨ usec.toInt < 2000000 ∧ sec.toInt % 60 = 59 := by
  have hnat := toNat_unsignedMicros usec
  have hproduct : (unsignedMicros usec * 1000).toNat =
      (unsignedMicros usec).toNat * 1000 % 2 ^ 32 := BitVec.toNat_mul _ _
  rw [fromTimestamp, MicrosOverflow, hproduct, hnat]
  constructor
  · rintro ⟨⟨time, htime⟩, hfits⟩
    split at htime
    · cases htime
    · next hvalid =>
        rw [Nat.mod_eq_of_lt (Nat.not_le.mp hfits)] at hvalid
        obtain ⟨hsecond, hleap⟩ := not_or.mp hvalid
        by_cases hminute : sec.toInt % 60 = 59
        · exact .inr ⟨by omega, hminute⟩
        · left
          have hshort := fun h => hleap ⟨h, hminute⟩
          omega
  · intro h
    have hfits : ¬ 2 ^ 32 ≤ usec.toInt.toNat * 1000 := by omega
    refine ⟨?_, hfits⟩
    rw [Nat.mod_eq_of_lt (Nat.not_le.mp hfits), if_neg (by omega)]
    exact ⟨_, rfl⟩

/-! ## Records -/

theorem recordIp_iff {record : List U8} {form : AddressForm} (hholds : form.Holds record) :
    recordIp record = some form.attacker ↔ form.Recognized := by
  rw [recordIp]
  cases form with
  | dottedText ip =>
      rw [show hostText record = _ from hholds, IpText.parseIpAddr_dotted]
      exact iff_of_true rfl trivial
  | mappedText ip =>
      rw [show hostText record = _ from hholds, IpText.parseIpAddr_mapped]
      exact iff_of_false nofun id
  | fullText ip =>
      rw [hholds.2, IpText.parseIpAddr_displayIpAddr]
      exact iff_of_true rfl trivial
  | mapped ip =>
      rw [hholds.1, hholds.2]
      exact iff_of_true (ipFromAddrV6_mapped ip) trivial
  | firstWord ip =>
      rw [hholds.1, hholds.2]
      exact iff_of_false (ipFromAddrV6_firstWord ip) id
  | full ip =>
      rw [hholds.1, hholds.2]
      exact ipFromAddrV6_full_iff ip

theorem parseRecord_some_iff {record : List U8} {sec usec : U32} {attempt : FailedAttempt}
    (hsec : recordSec record = some sec) (husec : recordUsec record = some usec) :
    parseRecord record = some attempt ↔ recordIp record = some attempt.ip ∧
      fromTimestamp sec.toInt (unsignedMicros usec * 1000).toNat = some attempt.time := by
  have hrecord : parseRecord record = (recordIp record).bind fun ip =>
      (fromTimestamp sec.toInt (unsignedMicros usec * 1000).toNat).bind fun time =>
        some { ip := ip, time := time } := by
    rw [parseRecord, hsec, husec, recordIp]
    change (match IpText.parseIpAddr (hostText record) with | some ip => _ | none => _) = _
    cases IpText.parseIpAddr (hostText record) <;> rfl
  rw [hrecord, Option.bind_eq_some_iff]
  constructor
  · rintro ⟨ip, hip, hrest⟩
    obtain ⟨time, htime, hattempt⟩ := Option.bind_eq_some_iff.mp hrest
    cases hattempt
    exact ⟨hip, htime⟩
  · rintro ⟨hip, htime⟩
    exact ⟨attempt.ip, hip, Option.bind_eq_some_iff.mpr ⟨attempt.time, htime, rfl⟩⟩

theorem ipCidr_attacker (env : ApiEnv) (form : AddressForm) :
    ipCidr env form.attacker = form.attackerCidr env := by
  cases form <;> rfl

theorem blames_iff {record : List U8} {form : AddressForm}
    (hlen : record.length = utmpRecordSize) (hholds : form.Holds record) :
    Blames record form ↔ form.Recognized ∧ Timely record := by
  obtain ⟨sec, hsec⟩ : ∃ sec, recordSec record = some sec :=
    exists_fromNeBytes (length_field hlen (show utTvSecOffset + 4 ≤ _ by decide))
  obtain ⟨usec, husec⟩ : ∃ usec, recordUsec record = some usec :=
    exists_fromNeBytes (length_field hlen (show utTvSecOffset + 4 + 4 ≤ _ by decide))
  -- The record is long enough for both parts of the time.
  have htimely : Timely record ↔
      usec.toInt < 1000000 ∨ usec.toInt < 2000000 ∧ sec.toInt % 60 = 59 := by
    rw [Timely, hsec, husec]
    constructor
    · rintro ⟨sec', usec', hsec', husec', h⟩
      cases hsec'
      cases husec'
      exact h
    · intro h
      exact ⟨sec, usec, rfl, rfl, h⟩
  rw [htimely, ← fromTimestamp_iff, ← recordIp_iff hholds, Blames, husec]
  constructor
  · rintro ⟨⟨attempt, hattempt, hip, -⟩, hfits⟩
    obtain ⟨hfound, htime⟩ := (parseRecord_some_iff hsec husec).mp hattempt
    rw [hip] at hfound
    exact ⟨hfound, ⟨attempt.time, htime⟩, hfits usec rfl⟩
  · rintro ⟨hip, ⟨time, htime⟩, hfits⟩
    refine ⟨⟨{ ip := form.attacker, time := time }, ?_, rfl, fun env => ipCidr_attacker env form⟩, ?_⟩
    · exact (parseRecord_some_iff hsec husec).mpr ⟨hip, htime⟩
    · rintro usec' husec'
      cases husec'
      exact hfits

theorem microsOverflow_iff (usec : U32) : MicrosOverflow usec ↔ 4294968 ≤ usec.toInt := by
  rw [MicrosOverflow, toNat_unsignedMicros]
  omega

/-- A record of 384 bytes is blamed on its attacker when the form of the address is one that the
monitor tells apart and the time is one, and only then; whatever it holds, it makes the product
overflow when an address is found beside so many microseconds, and only then. -/
theorem parseRecord_blames_iff {record : List U8} (hlen : record.length = utmpRecordSize) :
    (∀ form : AddressForm, form.Holds record →
      (Blames record form ↔ form.Recognized ∧ Timely record)) ∧
    (Overflows record ↔ (∃ ip, recordIp record = some ip) ∧
      ∃ usec, recordUsec record = some usec ∧ 4294968 ≤ usec.toInt) := by
  refine ⟨fun form hholds => blames_iff hlen hholds, and_congr_right fun _ => ?_⟩
  exact exists_congr fun usec => and_congr_right fun _ => microsOverflow_iff usec

/-! ## A record without a text -/

/-- A record of the first second of the epoch. -/
def addrRecord (addr : List U8) : List U8 :=
  List.replicate utAddrV6Offset 0 ++ (addr ++ List.replicate 20 0)

section AddrRecord

variable {addr : List U8}

theorem length_addrRecord (hlen : addr.length = utAddrV6Len) :
    (addrRecord addr).length = utmpRecordSize := by
  rw [addrRecord, List.length_append, List.length_append, List.length_replicate,
    List.length_replicate, hlen]
  rfl

theorem field_addrRecord {offset len : Nat} (h : offset + len ≤ utAddrV6Offset) :
    field (addrRecord addr) offset len = List.replicate len 0 := by
  rw [field, addrRecord, List.drop_append_of_le_length (by rw [List.length_replicate]; omega),
    List.drop_replicate, List.take_append_of_le_length (by rw [List.length_replicate]; omega),
    List.take_replicate, Nat.min_eq_left (by omega)]

theorem parseIpAddr_addrRecord : IpText.parseIpAddr (hostText (addrRecord addr)) = none := by
  have hempty : fieldStr (field (addrRecord addr) utHostOffset utHostLen) = "" := by
    have hnone : (List.replicate utHostLen (0 : U8)).takeWhile (fun b => decide (b ≠ 0)) = [] := by
      rw [show utHostLen = 255 + 1 from rfl, List.replicate_succ]
      rfl
    rw [field_addrRecord (by decide), fieldStr, hnone]
    rfl
  rw [hostText, hempty]
  rfl

theorem addrField_addrRecord (hlen : addr.length = utAddrV6Len) :
    addrField (addrRecord addr) = addr := by
  have hdrop : (addrRecord addr).drop utAddrV6Offset = addr ++ List.replicate 20 0 :=
    List.drop_left' (List.length_replicate)
  rw [addrField, field, hdrop, ← hlen, List.take_left]

theorem timely_addrRecord : Timely (addrRecord addr) := by
  have hzero : ∀ offset, offset + 4 ≤ utAddrV6Offset →
      fromNeBytes 4 (field (addrRecord addr) offset 4) = some 0 := by
    intro offset hoffset
    rw [field_addrRecord hoffset]
    rfl
  exact ⟨0, 0, hzero _ (by decide), hzero _ (by decide), .inl (by decide)⟩

end AddrRecord

/-- A record with a mapped address is read. -/
theorem parseRecord_blames_mapped :
    Blames (addrRecord (List.replicate 10 0 ++ [0xff, 0xff] ++ octets 4 0x01020304))
        (.mapped 0x01020304) ∧
      ¬ Overflows (addrRecord (List.replicate 10 0 ++ [0xff, 0xff] ++ octets 4 0x01020304)) := by
  have hholds : AddressForm.Holds
      (addrRecord (List.replicate 10 0 ++ [0xff, 0xff] ++ octets 4 0x01020304))
      (.mapped 0x01020304) := ⟨parseIpAddr_addrRecord, addrField_addrRecord rfl⟩
  have hlen : (addrRecord (List.replicate 10 0 ++ [0xff, 0xff] ++
      octets 4 0x01020304)).length = utmpRecordSize := length_addrRecord rfl
  obtain ⟨hblames, hoverflows⟩ := parseRecord_blames_iff hlen
  refine ⟨(hblames _ hholds).mpr ⟨trivial, timely_addrRecord⟩, fun h => ?_⟩
  obtain ⟨-, usec, husec, hlarge⟩ := hoverflows.mp h
  rw [recordUsec, field_addrRecord (by decide)] at husec
  cases husec
  exact absurd hlarge (by decide)

/-- An IPv4 address in the first word, at a time that is one, is blamed on another host. -/
theorem firstWord_not_blamed :
    (addrRecord (octets 4 0x01020304 ++ List.replicate 12 0)).length = utmpRecordSize ∧
      AddressForm.Holds (addrRecord (octets 4 0x01020304 ++ List.replicate 12 0))
        (.firstWord 0x01020304) ∧
      Timely (addrRecord (octets 4 0x01020304 ++ List.replicate 12 0)) ∧
      ¬ Blames (addrRecord (octets 4 0x01020304 ++ List.replicate 12 0))
        (.firstWord 0x01020304) := by
  have hholds : AddressForm.Holds (addrRecord (octets 4 0x01020304 ++ List.replicate 12 0))
      (.firstWord 0x01020304) := ⟨parseIpAddr_addrRecord, addrField_addrRecord rfl⟩
  refine ⟨length_addrRecord rfl, hholds, timely_addrRecord, ?_⟩
  rintro ⟨⟨attempt, hattempt, hip, -⟩, -⟩
  obtain ⟨sec, usec, hsec, husec, -⟩ :=
    @timely_addrRecord (octets 4 0x01020304 ++ List.replicate 12 0)
  obtain ⟨hfound, -⟩ := (parseRecord_some_iff hsec husec).mp hattempt
  rw [hip] at hfound
  exact (recordIp_iff hholds).mp hfound

end BtmpMonitor
end XdpFirewall
