import XdpFirewall.Enforcement.Counters
import XdpFirewall.Lib.Memory
import XdpFirewall.Policy.Compile

/-!
# DropEvents — from the struct that the filter sends to the line that the monitor prints

The filter sends a C struct, and the monitor reads it at offsets of its own. Numbers are in the
byte order of the host except for the port, and an IPv4 address fills four of sixteen bytes. What
the line says is what the event says, and no input makes a read leave its bounds.
-/

namespace XdpFirewall
namespace Agent

open Net Policy Lib Lib.Memory DataPlane Bpf Enforcement

/-! ## The event in memory -/

/-- The bytes of a number in the memory of a little-endian host. -/
def nativeBytes (n : Nat) (x : BitVec (8 * n)) : Vector U8 n :=
  Vector.ofFn fun j => octet x (n - 1 - j)

/-- `struct drop_event` -/
def dropEventFields (event : DropEvent) : List (StructField U8) :=
  [ { align := 8, size := 8, bytes := nativeBytes 8 event.timeNs },
    { align := 4, size := 4, bytes := nativeBytes 4 event.reason.index },
    { align := 1, size := 1, bytes := #v[event.family] },
    { align := 1, size := 1, bytes := #v[event.proto] },
    { align := 2, size := 2, bytes := nativeBytes 2 event.dport },
    { align := 1, size := 16, bytes := event.addr },
    { align := 2, size := 2, bytes := nativeBytes 2 event.country },
    { align := 1, size := 1, bytes := #v[event.action] },
    { align := 1, size := 1, bytes := #v[event.source] },
    { align := 1, size := 4, bytes := Vector.replicate 4 0 } ]

/-- What `bpf_perf_event_output` copies. -/
def dropEventBytes (event : DropEvent) : List U8 :=
  layout 0 8 (dropEventFields event)

/-! ## The line -/

structure DropEventLine where
  time : String
  eventTimeNs : U64
  cpu : U32
  reason : String
  src : IpAddr
  family : U8
  proto : String
  dport : U16
  country : Option String
  action : String

def reasonLabel (reason : U32) (source : U8) : String :=
  if reason = statRuleDrop then
    if source = 2 then "threat_intel" else "firewall_rule"
  else if reason = statGeoDrop then "country"
  else if reason = statTempBanDrop then "temporary_ban"
  else if reason = statRateDrop then "dynamic_defense.ip_rate_limit"
  else if reason = statFloodDrop then "dynamic_defense.flood"
  else if reason = statCustomRateDrop then "dynamic_defense.custom_rate_limit"
  else if reason = statParseDrop then "parse_error"
  else "unknown"

def protoLabel (proto : U8) : String :=
  if proto = 0 then "any"
  else if proto = 1 then "icmp"
  else if proto = 6 then "tcp"
  else if proto = 17 then "udp"
  else "other"

def actionLabel (action : U8) : String :=
  if action = 1 then "allow" else if action = 2 then "deny" else "unknown"

/-- `String::from_utf8` of two bytes: two ASCII characters, or one character of two bytes. -/
def fromUtf8Pair (first second : U8) : Option String :=
  if first < 0x80 ∧ second < 0x80 then
    some (String.ofList [Char.ofNat first.toNat, Char.ofNat second.toNat])
  else if (0xC2 ≤ first ∧ first ≤ 0xDF) ∧ (0x80 ≤ second ∧ second ≤ 0xBF) then
    some (String.ofList [Char.ofNat ((first.toNat - 0xC0) * 64 + (second.toNat - 0x80))])
  else
    none

def decodeCountry (country : U16) : Option String :=
  if country = 0 then
    none
  else
    let first := ((country >>> 8) &&& 0xff).setWidth 8
    let second := (country &&& 0xff).setWidth 8
    (fromUtf8Pair first second).bind fun code =>
      (normalizeCountry code).toOption.map fun (first, second) => String.ofList [first, second]

/-- `from_be_bytes` of a slice, which becomes an array of `n` bytes first. -/
def fromBeBytes (n : Nat) (bytes : List U8) : Option (BitVec (8 * n)) :=
  if bytes.length = n then some (ofOctets n fun j => bytes.getD j 0) else none

/-- `from_ne_bytes` on a little-endian host. -/
def fromNeBytes (n : Nat) (bytes : List U8) : Option (BitVec (8 * n)) :=
  fromBeBytes n bytes.reverse

/-- The address of a family in the sixteen bytes. -/
def addrOfFamily (family : U8) (addr : AddrBytes) : Option IpAddr :=
  if family = 4 then
    some (.v4 (ofOctets 4 fun j => addr.toList.getD j 0))
  else if family = 6 then
    some (.v6 (ofOctets 16 fun j => addr.toList.getD j 0))
  else
    none

/-- `parse_drop_event` at the time that `now` shows. -/
def parseDropEvent (now : String) (cpu : U32) (bytes : List U8) :
    Except ReadPanic (Option DropEventLine) :=
  if bytes.length < 36 then
    return none
  else do
    let some eventTimeNs := fromNeBytes 8 (← slice bytes 0 8) | return none
    let some reason := fromNeBytes 4 (← slice bytes 8 12) | return none
    let family ← index bytes 12
    let proto ← index bytes 13
    let some dport := fromBeBytes 2 (← slice bytes 14 16) | return none
    let addr ← copyFromSlice 16 (← slice bytes 16 32)
    let some country := fromNeBytes 2 (← slice bytes 32 34) | return none
    let action ← index bytes 34
    let source ← index bytes 35
    let some src := addrOfFamily family addr | return none
    return some
      { time := now
        eventTimeNs := eventTimeNs
        cpu := cpu
        reason := reasonLabel reason source
        src := src
        family := family
        proto := protoLabel proto
        dport := dport
        country := decodeCountry country
        action := actionLabel action }

/-! ## What a line says -/

/-- The names that the documentation gives to the reasons of a drop. -/
inductive ReasonText : Stat → U8 → String → Prop
  | threatIntel : ReasonText .ruleDrop (ruleSourceCode .threatIntel) "threat_intel"
  | firewallRule {source : U8} (other : source ≠ ruleSourceCode .threatIntel) :
      ReasonText .ruleDrop source "firewall_rule"
  | temporaryBan {source : U8} : ReasonText .tempBanDrop source "temporary_ban"
  | country {source : U8} : ReasonText .geoDrop source "country"
  | customRateLimit {source : U8} :
      ReasonText .customRateDrop source "dynamic_defense.custom_rate_limit"
  | ipRateLimit {source : U8} : ReasonText .rateDrop source "dynamic_defense.ip_rate_limit"
  | flood {source : U8} : ReasonText .floodDrop source "dynamic_defense.flood"
  | parseError {source : U8} : ReasonText .parseDrop source "parse_error"
  | unknown {source : U8} : ReasonText .pass source "unknown"

inductive ProtoText : U8 → String → Prop
  | any : ProtoText (protoCode .any) "any"
  | tcp : ProtoText (protoCode .tcp) "tcp"
  | udp : ProtoText (protoCode .udp) "udp"
  | icmp : ProtoText (protoCode .icmp) "icmp"
  | other {proto : U8} (unknown : ∀ protocol, protoCode protocol ≠ proto) : ProtoText proto "other"

inductive ActionText : U8 → String → Prop
  | allow : ActionText (actionCode .allow) "allow"
  | deny : ActionText (actionCode .deny) "deny"
  | unknown {action : U8} (unknown : ∀ known, actionCode known ≠ action) :
      ActionText action "unknown"

/-- The country of a number: its two bytes when they are letters, in upper case. -/
def countryText (country : U16) : Option String :=
  let first := Char.ofNat (country.toNat / 256)
  let second := Char.ofNat (country.toNat % 256)
  if first.isAlpha && second.isAlpha then
    some (String.ofList [first.toUpper, second.toUpper])
  else
    none

/-- A line says what an event for a source address says. -/
structure DropEventLine.Describes (line : DropEventLine) (event : DropEvent) (src : IpAddr) :
    Prop where
  time : line.eventTimeNs = event.timeNs
  src : line.src = src
  family : line.family = event.family
  hostPort : toBe line.dport = event.dport
  country : line.country = countryText event.country
  reason : ReasonText event.reason event.source line.reason
  proto : ProtoText event.proto line.proto
  action : ActionText event.action line.action

/-! ## Numbers and addresses -/

theorem ofOctets_octet {n : Nat} (x : BitVec (8 * n)) : ofOctets n (octet x) = x := by
  apply BitVec.eq_of_getMsbD_eq
  intro i hi
  have hsplit : 8 * (i / 8) + i % 8 = i := Nat.div_add_mod i 8
  have hbyte : i / 8 < n := by omega
  have hbit : i % 8 < 8 := Nat.mod_lt _ (by decide)
  calc
    (ofOctets n (octet x)).getMsbD i
        = (ofOctets n (octet x)).getMsbD (8 * (i / 8) + i % 8) := by rw [hsplit]
    _ = (octet x (i / 8)).getMsbD (i % 8) := getMsbD_ofOctets hbyte hbit
    _ = x.getMsbD (8 * (i / 8) + i % 8) := getMsbD_octet x (by omega) hbit
    _ = x.getMsbD i := by rw [hsplit]

theorem ofOctets_congr {n : Nat} {f g : Nat → U8} (h : ∀ j < n, f j = g j) :
    ofOctets n f = ofOctets n g := by
  induction n generalizing f g with
  | zero => rfl
  | succ n ih =>
      have hrest : ofOctets n (fun j => f (j + 1)) = ofOctets n fun j => g (j + 1) :=
        ih fun j hj => h (j + 1) (by omega)
      rw [ofOctets, ofOctets, h 0 (by omega), hrest]

theorem getElem?_nativeBytes {n : Nat} (x : BitVec (8 * n)) {j : Nat} (hj : j < n) :
    (nativeBytes n x).toList[j]? = some (octet x (n - 1 - j)) := by
  simp [nativeBytes, hj]

/-- A number of the host is read back. -/
theorem fromNeBytes_nativeBytes {n : Nat} (x : BitVec (8 * n)) :
    fromNeBytes n (nativeBytes n x).toList = some x := by
  have hlen : (nativeBytes n x).toList.length = n := Vector.length_toList
  have hbytes : ∀ j < n, (nativeBytes n x).toList.reverse.getD j 0 = octet x j := by
    intro j hj
    have hback : n - 1 - (n - 1 - j) = j := by omega
    rw [List.getD_eq_getElem?_getD, List.getElem?_reverse (by omega), hlen,
      getElem?_nativeBytes x (by omega), hback, Option.getD_some]
  rw [fromNeBytes, fromBeBytes, List.length_reverse, if_pos hlen, ofOctets_congr hbytes,
    ofOctets_octet]

/-- A port in network order is read in the order of the host. -/
theorem fromBeBytes_nativeBytes (x : U16) :
    fromBeBytes 2 (nativeBytes 2 x).toList = some (toBe x) := by
  have hbytes : ∀ j < 2, (nativeBytes 2 x).toList.getD j 0 = octet (toBe x) j := by
    intro j hj
    rw [List.getD_eq_getElem?_getD, getElem?_nativeBytes x hj, Option.getD_some]
    apply BitVec.eq_of_getLsbD_eq
    intro i hi
    simp only [octet, toBe, BitVec.getLsbD_append, BitVec.getLsbD_extractLsb']
    rcases (by omega : j = 0 ∨ j = 1) with rfl | rfl
    · simp [hi]
    · simp [hi]
  rw [fromBeBytes, if_pos (Vector.length_toList), ofOctets_congr hbytes, ofOctets_octet]

theorem ofOctets_addrBytes_v4 (ip : BitVec 32) :
    ofOctets 4 (fun j => (addrBytes (.v4 ip)).toList.getD j 0) = ip := by
  have hbytes : ∀ j < 4, (addrBytes (.v4 ip)).toList.getD j 0 = octet ip j := by
    intro j hj
    have hj' : j < 16 := by omega
    simp [addrBytes, List.getD_eq_getElem?_getD, hj, hj']
  exact (ofOctets_congr hbytes).trans (@ofOctets_octet 4 ip)

theorem ofOctets_addrBytes_v6 (ip : BitVec 128) :
    ofOctets 16 (fun j => (addrBytes (.v6 ip)).toList.getD j 0) = ip := by
  have hbytes : ∀ j < 16, (addrBytes (.v6 ip)).toList.getD j 0 = octet ip j := by
    intro j hj
    simp [addrBytes, List.getD_eq_getElem?_getD, hj]
  exact (ofOctets_congr hbytes).trans (@ofOctets_octet 16 ip)

theorem addrOfFamily_addrBytes (src : IpAddr) :
    addrOfFamily (family src) (addrBytes src) = some src := by
  cases src with
  | v4 ip =>
      have hfamily : family (.v4 ip) = 4 := rfl
      rw [addrOfFamily, if_pos hfamily]
      exact congrArg (fun addr => some (IpAddr.v4 addr)) (ofOctets_addrBytes_v4 ip)
  | v6 ip =>
      have hfamily : family (.v6 ip) = 6 := rfl
      have hother : ¬ family (.v6 ip) = 4 := by rw [hfamily]; decide
      rw [addrOfFamily, if_neg hother, if_pos hfamily]
      exact congrArg (fun addr => some (IpAddr.v6 addr)) (ofOctets_addrBytes_v6 ip)

/-! ## Countries -/

theorem isWhitespace_of_isAlpha {c : Char} (h : c.isAlpha) : isWhitespace c = false := by
  have hall : ∀ n < 128, (Char.ofNat n).isAlpha → isWhitespace (Char.ofNat n) = false := by decide
  simpa using hall c.toNat (toNat_lt_of_isAlpha h) (by simpa using h)

theorem normalizeCountry_pair (a b : Char) :
    (normalizeCountry (String.ofList [a, b])).toOption =
      if a.isAlpha && b.isAlpha then some (a.toUpper, b.toUpper) else none := by
  by_cases halpha : (a.isAlpha && b.isAlpha) = true
  · have hboth := Bool.and_eq_true_iff.mp halpha
    have ha := isWhitespace_of_isAlpha hboth.1
    have hb := isWhitespace_of_isAlpha hboth.2
    simp [normalizeCountry, trim, ha, hb, hboth.1, hboth.2, Except.toOption]
  · rw [if_neg halpha]
    cases ha : isWhitespace a <;> cases hb : isWhitespace b <;>
      simp [normalizeCountry, trim, ha, hb, halpha, Except.toOption]

theorem normalizeCountry_single (c : Char) :
    (normalizeCountry (String.ofList [c])).toOption = none := by
  cases hc : isWhitespace c <;> simp [normalizeCountry, trim, hc, Except.toOption]

theorem toNat_lowByte (x : U16) : ((x &&& 0xff).setWidth 8 : U8).toNat = x.toNat % 256 := by
  have hmask : x.toNat &&& 255 = x.toNat % 256 := Nat.and_two_pow_sub_one_eq_mod x.toNat 8
  rw [BitVec.toNat_setWidth, BitVec.toNat_and]
  change (x.toNat &&& 255) % 256 = x.toNat % 256
  rw [hmask, Nat.mod_mod]

theorem toNat_highByte (x : U16) :
    (((x >>> 8) &&& 0xff).setWidth 8 : U8).toNat = x.toNat / 256 := by
  have hlt : x.toNat / 256 < 256 := by
    have := x.isLt
    omega
  rw [toNat_lowByte, BitVec.toNat_ushiftRight, Nat.shiftRight_eq_div_pow, Nat.mod_eq_of_lt hlt]

theorem not_isAlpha_of_le {n : Nat} (hn : 128 ≤ n) (hvalid : n < 256) :
    (Char.ofNat n).isAlpha = false := by
  rw [Bool.eq_false_iff]
  intro halpha
  have hlt := toNat_lt_of_isAlpha halpha
  have hnat : (Char.ofNat n).toNat = n := by
    rw [Char.ofNat, dif_pos (by unfold Nat.isValidChar; omega)]
    rfl
  omega

/-- The monitor names the country of every number, and none for numbers that name none. -/
theorem decodeCountry_eq (country : U16) : decodeCountry country = countryText country := by
  let first : U8 := ((country >>> 8) &&& 0xff).setWidth 8
  let second : U8 := (country &&& 0xff).setWidth 8
  have hfirst : first.toNat = country.toNat / 256 := toNat_highByte country
  have hsecond : second.toNat = country.toNat % 256 := toNat_lowByte country
  rw [decodeCountry, countryText, ← hfirst, ← hsecond]
  by_cases hzero : country = 0
  · subst hzero
    rfl
  rw [if_neg hzero]
  change ((fromUtf8Pair first second).bind fun code => _) = _
  by_cases hascii : first < 0x80 ∧ second < 0x80
  · rw [fromUtf8Pair, if_pos hascii, Option.bind_some, normalizeCountry_pair]
    split <;> rfl
  · -- A letter is a byte below 128, and one character is no code.
    have halpha : ((Char.ofNat first.toNat).isAlpha && (Char.ofNat second.toNat).isAlpha) =
        false := by
      rw [not_and_or, BitVec.not_lt, BitVec.not_lt] at hascii
      rcases hascii with hhigh | hhigh
      · rw [not_isAlpha_of_le hhigh first.isLt, Bool.false_and]
      · rw [not_isAlpha_of_le hhigh second.isLt, Bool.and_false]
    simp only [halpha]
    rw [fromUtf8Pair, if_neg hascii]
    split
    · rw [Option.bind_some, normalizeCountry_single]
      rfl
    · rfl

/-- The number that is stored for a country names this country. -/
theorem countryText_encodeCountry {value : String} {first second : Char} {code : U16}
    (hpair : normalizeCountry value = .ok (first, second))
    (hcode : encodeCountry value = .ok code) :
    countryText code = some (String.ofList [first, second]) := by
  have halpha := isAlpha_of_normalizeCountry hpair
  have hfirst := toNat_lt_of_isAlpha halpha.1
  have hsecond := toNat_lt_of_isAlpha halpha.2
  have hnat : code.toNat = first.toNat * 256 + second.toNat := by
    rw [encodeCountry, hpair] at hcode
    rw [← Except.ok.inj hcode]
    exact toNat_countryCode hfirst hsecond
  have hhigh : code.toNat / 256 = first.toNat := by omega
  have hlow : code.toNat % 256 = second.toNat := by omega
  have hupper : some (first.toUpper, second.toUpper) = some (first, second) := by
    have hnorm := normalizeCountry_pair first second
    rw [normalizeCountry_idempotent hpair, halpha.1, halpha.2] at hnorm
    exact hnorm.symm
  have hboth := Prod.mk.inj (Option.some.inj hupper)
  rw [countryText, hhigh, hlow]
  simp only [Char.ofNat_toNat, halpha.1, halpha.2, hboth.1, hboth.2]
  rfl

/-! ## Labels -/

theorem reasonText_reasonLabel (reason : Stat) (source : U8) :
    ReasonText reason source (reasonLabel reason.index source) := by
  cases reason with
  | pass => exact .unknown
  | ruleDrop =>
      by_cases hthreat : source = ruleSourceCode .threatIntel
      · subst hthreat
        exact .threatIntel
      · have hlabel : reasonLabel Stat.ruleDrop.index source = "firewall_rule" := if_neg hthreat
        rw [hlabel]
        exact .firewallRule hthreat
  | geoDrop => exact .country
  | rateDrop => exact .ipRateLimit
  | floodDrop => exact .flood
  | customRateDrop => exact .customRateLimit
  | parseDrop => exact .parseError
  | tempBanDrop => exact .temporaryBan

theorem protoText_protoLabel (proto : U8) : ProtoText proto (protoLabel proto) := by
  rw [protoLabel]
  split
  · rename_i h
    exact h ▸ .any
  · split
    · rename_i h
      exact h ▸ .icmp
    · split
      · rename_i h
        exact h ▸ .tcp
      · split
        · rename_i h
          exact h ▸ .udp
        · rename_i hany hicmp htcp hudp
          refine .other ?_
          intro protocol hcode
          cases protocol with
          | any => exact hany hcode.symm
          | icmp => exact hicmp hcode.symm
          | tcp => exact htcp hcode.symm
          | udp => exact hudp hcode.symm

theorem actionText_actionLabel (action : U8) : ActionText action (actionLabel action) := by
  rw [actionLabel]
  split
  · rename_i h
    exact h ▸ .allow
  · split
    · rename_i h
      exact h ▸ .deny
    · rename_i hallow hdeny
      refine .unknown ?_
      intro known hcode
      cases known with
      | allow => exact hallow hcode.symm
      | deny => exact hdeny hcode.symm

/-! ## Parsing -/

theorem length_dropEventBytes (event : DropEvent) : (dropEventBytes event).length = 40 := by
  rw [dropEventBytes, length_layout]
  simp [dropEventFields, endOf, gap]

section Parse

variable (event : DropEvent) (rest : List U8)

/-- Field `k` of an event stands at the offset that the compiler gives it. -/
theorem holdsAt_dropEvent {k offset : Nat} {field : StructField U8}
    (hfield : (dropEventFields event)[k]? = some field)
    (hoffset : offsetOf 0 (dropEventFields event) k = offset) :
    HoldsAt (dropEventBytes event ++ rest) offset field.bytes.toList := by
  rw [← hoffset]
  exact (holdsAt_layout hfield).append rest

theorem slice_dropEvent {k start stop : Nat} {field : StructField U8}
    (hfield : (dropEventFields event)[k]? = some field)
    (hoffset : offsetOf 0 (dropEventFields event) k = start) (hstop : start + field.size = stop) :
    slice (dropEventBytes event ++ rest) start stop = .ok field.bytes.toList :=
  (holdsAt_dropEvent event rest hfield hoffset).slice (by rw [Vector.length_toList, hstop])

/-- The offsets that the compiler chooses. -/
theorem offsetOf_dropEventFields :
    (List.range 10).map (offsetOf 0 (dropEventFields event)) =
      [0, 8, 12, 13, 14, 16, 32, 34, 35, 36] := by
  simp [dropEventFields, offsetOf, gap, List.range_succ]

theorem parseDropEvent_bytes (now : String) (cpu : U32) {src : IpAddr}
    (hfamily : event.family = family src) (haddr : event.addr = addrBytes src) :
    parseDropEvent now cpu (dropEventBytes event ++ rest) = .ok (some
      { time := now
        eventTimeNs := event.timeNs
        cpu := cpu
        reason := reasonLabel event.reason.index event.source
        src := src
        family := event.family
        proto := protoLabel event.proto
        dport := toBe event.dport
        country := decodeCountry event.country
        action := actionLabel event.action }) := by
  have hlen : ¬ (dropEventBytes event ++ rest).length < 36 := by
    rw [List.length_append, length_dropEventBytes]
    omega
  have hoffset {k offset : Nat}
      (hk : [0, 8, 12, 13, 14, 16, 32, 34, 35, 36][k]? = some offset) :
      offsetOf 0 (dropEventFields event) k = offset := by
    rw [← offsetOf_dropEventFields event, List.getElem?_map] at hk
    rcases Option.map_eq_some_iff.mp hk with ⟨j, hj, hoffset⟩
    rcases List.getElem?_eq_some_iff.mp hj with ⟨hlt, rfl⟩
    rwa [List.getElem_range] at hoffset
  have htime := slice_dropEvent event rest rfl (@hoffset 0 0 rfl) (Eq.refl 8)
  have hreason := slice_dropEvent event rest rfl (@hoffset 1 8 rfl) (Eq.refl 12)
  have hfam := (holdsAt_dropEvent event rest rfl (@hoffset 2 12 rfl)).index
  have hproto := (holdsAt_dropEvent event rest rfl (@hoffset 3 13 rfl)).index
  have hdport := slice_dropEvent event rest rfl (@hoffset 4 14 rfl) (Eq.refl 16)
  have hbytes := slice_dropEvent event rest rfl (@hoffset 5 16 rfl) (Eq.refl 32)
  have hcountry := slice_dropEvent event rest rfl (@hoffset 6 32 rfl) (Eq.refl 34)
  have haction := (holdsAt_dropEvent event rest rfl (@hoffset 7 34 rfl)).index
  have hsource := (holdsAt_dropEvent event rest rfl (@hoffset 8 35 rfl)).index
  have hsrc : addrOfFamily event.family event.addr = some src := by
    rw [hfamily, haddr, addrOfFamily_addrBytes]
  rw [parseDropEvent, if_neg hlen]
  simp only [htime, hreason, hfam, hproto, hdport, hbytes, hcountry, haction, hsource, bind,
    Except.bind, fromNeBytes_nativeBytes, fromBeBytes_nativeBytes, copyFromSlice_toList, hsrc]
  rfl

end Parse

/-- No input makes a read leave its bounds. -/
theorem parseDropEvent_total (now : String) (cpu : U32) (bytes : List U8) :
    ∃ line, parseDropEvent now cpu bytes = .ok line := by
  rw [parseDropEvent]
  split
  · exact ⟨none, rfl⟩
  · rename_i hlen
    have hslice (start stop : Nat) (hle : start ≤ stop) (hstop : stop ≤ 36) :
        slice bytes start stop = .ok ((bytes.drop start).take (stop - start)) :=
      slice_ok hle (by omega)
    have hindex (i : Nat) (hi : i < 36) : ∃ byte, index bytes i = .ok byte :=
      ⟨_, index_ok (by omega)⟩
    rcases hindex 12 (by omega) with ⟨fam, hfam⟩
    rcases hindex 13 (by omega) with ⟨proto, hproto⟩
    rcases hindex 34 (by omega) with ⟨action, haction⟩
    rcases hindex 35 (by omega) with ⟨source, hsource⟩
    have haddr : ∃ addr, copyFromSlice 16 ((bytes.drop 16).take (32 - 16)) = .ok addr :=
      ⟨_, copyFromSlice_ok (length_of_slice (hslice 16 32 (by omega) (by omega)))⟩
    rcases haddr with ⟨addr, haddr⟩
    rw [hslice 0 8 (by omega) (by omega), hslice 8 12 (by omega) (by omega),
      hslice 14 16 (by omega) (by omega), hslice 16 32 (by omega) (by omega),
      hslice 32 34 (by omega) (by omega)]
    simp only [hfam, hproto, haction, hsource, haddr, bind, Except.bind]
    split
    · split
      · split
        · split
          · split
            · exact ⟨_, rfl⟩
            · exact ⟨none, rfl⟩
          · exact ⟨none, rfl⟩
        · exact ⟨none, rfl⟩
      · exact ⟨none, rfl⟩
    · exact ⟨none, rfl⟩

/-! ## The drops of the filter -/

/-- What the filter reports of a frame carries the source address of the frame. -/
theorem source_of_reported (env : PacketEnv) (data : Frame) (s : FilterState) :
    ∃ sent, (xdpFirewall env data s).2.dropEvents = s.dropEvents ++ sent ∧
      ∀ event ∈ sent, event.family = family (sourceAddr data) ∧
        event.addr = addrBytes (sourceAddr data) := by
  have hreports {packet : Packet} {outcome : XdpAction × FilterState}
      (hpacket : packet.family = family (sourceAddr data) ∧
        packet.src = addrBytes (sourceAddr data))
      (h : Reports env packet s outcome) :
      ∃ sent, outcome.2.dropEvents = s.dropEvents ++ sent ∧
        ∀ event ∈ sent, event.family = family (sourceAddr data) ∧
          event.addr = addrBytes (sourceAddr data) := by
    rcases h with ⟨-, hsame⟩ | ⟨-, event, hevent, hevents⟩
    · exact ⟨[], by rw [hsame, List.append_nil], nofun⟩
    · refine ⟨_, hevents, ?_⟩
      intro sent hsent
      split at hsent
      · cases hsent
      · obtain rfl := List.mem_singleton.mp hsent
        exact ⟨hevent.family.trans hpacket.1, hevent.addr.trans hpacket.2⟩
  have hfrom := from_parseFrame data
  cases hparse : parseFrame data with
  | notIp =>
      rw [xdpFirewall, hparse]
      exact ⟨[], (List.append_nil _).symm, nofun⟩
  | malformed fam proto src =>
      rw [hparse] at hfrom
      rw [xdpFirewall, hparse]
      -- A packet that was cut short is reported without a port.
      let packet : Packet := { family := fam, proto := proto, dport := 0, src := src }
      exact @hreports packet _ hfrom (reports_dropPacket _ _)
  | packet packet =>
      rw [hparse] at hfrom
      rw [xdpFirewall, hparse]
      exact hreports hfrom reports_handlePacket

/-- What the monitor prints for an event is what the event says, whatever stands behind it in the
buffer; every event of the filter is for the source address of its frame, and the numbers that
are stored for countries name these; and no input makes a read leave its bounds. -/
theorem parseDropEvent_describes :
    (∀ (event : DropEvent) (src : IpAddr), event.family = family src →
        event.addr = addrBytes src → ∀ now cpu rest,
          ∃ line, parseDropEvent now cpu (dropEventBytes event ++ rest) = .ok (some line) ∧
            line.Describes event src) ∧
      (∀ env data s, ∃ sent, (xdpFirewall env data s).2.dropEvents = s.dropEvents ++ sent ∧
        ∀ event ∈ sent, event.family = family (sourceAddr data) ∧
          event.addr = addrBytes (sourceAddr data)) ∧
      (∀ value first second code, normalizeCountry value = .ok (first, second) →
        encodeCountry value = .ok code →
          countryText code = some (String.ofList [first, second])) ∧
      ∀ now cpu bytes, ∃ line, parseDropEvent now cpu bytes = .ok line := by
  refine ⟨?_, source_of_reported, fun _ _ _ _ => countryText_encodeCountry, parseDropEvent_total⟩
  intro event src hfamily haddr now cpu rest
  refine ⟨_, parseDropEvent_bytes event rest now cpu hfamily haddr, ?_⟩
  constructor
  · rfl
  · rfl
  · rfl
  · exact toBe_toBe event.dport
  · exact decodeCountry_eq event.country
  · exact reasonText_reasonLabel event.reason event.source
  · exact protoText_protoLabel event.proto
  · exact actionText_actionLabel event.action

/-- A drop by a country rule. -/
def countryDropEvent : DropEvent where
  timeNs := 1000
  reason := .geoDrop
  family := 4
  proto := protoTcp
  dport := toBe 443
  addr := addrBytes (.v4 0xCB007107)
  country := 0x5553
  action := actionDeny
  source := 0

theorem countryDropEvent_described :
    ∃ line, parseDropEvent "2024-01-01T00:00:00+00:00" 0 (dropEventBytes countryDropEvent ++ [0]) =
        .ok (some line) ∧ line.Describes countryDropEvent (.v4 0xCB007107) :=
  parseDropEvent_describes.1 countryDropEvent (.v4 0xCB007107) rfl rfl _ _ _

end Agent
end XdpFirewall
