import Mathlib.Data.Fintype.Basic
import XdpFirewall.Net.IpNet

/-!
# IpText — addresses in text

The reader of `std::net::IpAddr`, and the dotted form of an IPv4 address. A reader takes what it
can from the front of a text and hands back the rest.
-/

namespace XdpFirewall
namespace Net
namespace IpText

/-! ## Numbers -/

/-- `char::to_digit` -/
def toDigit (radix : Nat) (c : Char) : Option Nat :=
  let digit :=
    if '0' ≤ c ∧ c ≤ '9' then
      c.toNat - '0'.toNat
    else if 'a' ≤ c ∧ c ≤ 'z' then
      c.toNat - 'a'.toNat + 10
    else if 'A' ≤ c ∧ c ≤ 'Z' then
      c.toNat - 'A'.toNat + 10
    else
      radix
  if digit < radix then some digit else none

def isDigit (radix : Nat) (c : Char) : Bool :=
  (toDigit radix c).isSome

def numeral (radix : Nat) (digits : List Char) : Nat :=
  digits.foldl (fun value c => value * radix + (toDigit radix c).getD 0) 0

/-- `read_number`, for a type with `bound` values: all digits that come next, if they are not too
many and do not begin with a zero where that is not allowed. -/
def readNumber (radix maxDigits bound : Nat) (allowZeroPrefix : Bool) (s : List Char) :
    Option (Nat × List Char) :=
  let digits := s.takeWhile (isDigit radix)
  if digits = [] ∨ maxDigits < digits.length ∨ bound ≤ numeral radix digits ∨
      (allowZeroPrefix = false ∧ digits.head? = some '0' ∧ 1 < digits.length) then
    none
  else
    some (numeral radix digits, s.drop digits.length)

def readGivenChar (c : Char) : List Char → Option (List Char)
  | [] => none
  | first :: rest => if first = c then some rest else none

/-- `read_separator`: all but the first of several things stand behind a separator. -/
def readSeparator {A : Type} (sep : Char) (first : Bool)
    (inner : List Char → Option (A × List Char)) (s : List Char) : Option (A × List Char) :=
  if first then inner s else (readGivenChar sep s).bind inner

/-! ## Addresses -/

def ofOctets4 (a b c d : Nat) : BitVec 32 :=
  BitVec.ofNat 8 a ++ BitVec.ofNat 8 b ++ BitVec.ofNat 8 c ++ BitVec.ofNat 8 d

def readOctet (first : Bool) (s : List Char) : Option (Nat × List Char) :=
  readSeparator '.' first (readNumber 10 3 256 false) s

def readIpv4Addr (s : List Char) : Option (BitVec 32 × List Char) := do
  let (a, s) ← readOctet true s
  let (b, s) ← readOctet false s
  let (c, s) ← readOctet false s
  let (d, s) ← readOctet false s
  return (ofOctets4 a b c d, s)

/-- `read_groups`: at most `left` groups, and whether an IPv4 address ends them. It takes the room
of two. -/
def readGroups : Nat → Bool → List Char → List (BitVec 16) × Bool × List Char
  | 0, _, s => ([], false, s)
  | left + 1, first, s =>
      match if 1 ≤ left then readSeparator ':' first readIpv4Addr s else none with
      | some (ip, s) => ([ip.extractLsb' 16 16, ip.extractLsb' 0 16], true, s)
      | none =>
          match readSeparator ':' first (readNumber 16 4 65536 true) s with
          | none => ([], false, s)
          | some (group, rest) =>
              let (groups, ipv4, rest) := readGroups left false rest
              (BitVec.ofNat 16 group :: groups, ipv4, rest)

def ofGroups (groups : List (BitVec 16)) : BitVec 128 :=
  groups.foldl (fun ip group => (ip <<< 16) ||| group.setWidth 128) 0

/-- Fewer than eight groups stand before `::`, which stands for at least one. -/
def readIpv6Addr (s : List Char) : Option (BitVec 128 × List Char) :=
  let (head, ipv4, rest) := readGroups 8 true s
  if head.length = 8 then
    some (ofGroups head, rest)
  else if ipv4 then
    none
  else do
    let rest ← readGivenChar ':' rest
    let rest ← readGivenChar ':' rest
    let (tail, _, rest) := readGroups (8 - (head.length + 1)) true rest
    return (ofGroups (head ++ List.replicate (8 - head.length - tail.length) 0 ++ tail), rest)

/-- `read_ip_addr` -/
def readIpAddr (s : List Char) : Option (IpAddr × List Char) :=
  match readIpv4Addr s with
  | some (ip, rest) => some (.v4 ip, rest)
  | none => (readIpv6Addr s).map fun (ip, rest) => (.v6 ip, rest)

/-- `str::parse::<IpAddr>`: nothing may be left. -/
def parseIpAddr (s : List Char) : Option IpAddr :=
  match readIpAddr s with
  | some (ip, []) => some ip
  | _ => none

/-! ## Dotted addresses -/

def octet4 (ip : BitVec 32) (k : Nat) : Fin 256 :=
  (ip.extractLsb' (8 * (3 - k)) 8).toFin

def decimal (n : Fin 256) : List Char :=
  Nat.toDigits 10 n

/-- `Display` of an IPv4 address -/
def dotted (ip : BitVec 32) : List Char :=
  decimal (octet4 ip 0) ++ '.' :: (decimal (octet4 ip 1) ++ '.' ::
    (decimal (octet4 ip 2) ++ '.' :: decimal (octet4 ip 3)))

theorem decimal_spec : ∀ n : Fin 256, (decimal n).all (isDigit 10) = true ∧ decimal n ≠ [] ∧
    (decimal n).length ≤ 3 ∧ numeral 10 (decimal n) = n.val ∧
    ¬ ((decimal n).head? = some '0' ∧ 1 < (decimal n).length) := by
  decide +kernel

/-- A number is read when its digits fit, whatever follows that is no digit. -/
theorem readNumber_of_digits {radix maxDigits bound : Nat} {allowZeroPrefix : Bool}
    {digits rest : List Char} (hdigits : ∀ c ∈ digits, isDigit radix c = true)
    (hne : digits ≠ []) (hlen : digits.length ≤ maxDigits) (hvalue : numeral radix digits < bound)
    (hzero : allowZeroPrefix = false → ¬ (digits.head? = some '0' ∧ 1 < digits.length))
    (hrest : ∀ c ∈ rest.head?, isDigit radix c = false) :
    readNumber radix maxDigits bound allowZeroPrefix (digits ++ rest) =
      some (numeral radix digits, rest) := by
  have htake : (digits ++ rest).takeWhile (isDigit radix) = digits := by
    rw [List.takeWhile_append_of_pos hdigits]
    cases rest with
    | nil => rw [List.takeWhile_nil, List.append_nil]
    | cons c rest =>
        rw [List.takeWhile_cons_of_neg, List.append_nil]
        rw [hrest c rfl]
        exact Bool.false_ne_true
  rw [readNumber]
  simp only [htake, List.drop_left]
  rw [if_neg]
  rintro (h | h | h | ⟨hallow, h⟩)
  · exact hne h
  · omega
  · omega
  · exact hzero hallow h

theorem readNumber_decimal (n : Fin 256) {rest : List Char}
    (hrest : ∀ c ∈ rest.head?, isDigit 10 c = false) :
    readNumber 10 3 256 false (decimal n ++ rest) = some (n.val, rest) := by
  obtain ⟨hdigits, hne, hlen, hvalue, hzero⟩ := decimal_spec n
  have hbound : numeral 10 (decimal n) < 256 := by
    rw [hvalue]
    exact n.isLt
  rw [readNumber_of_digits (List.all_eq_true.mp hdigits) hne hlen hbound (fun _ => hzero) hrest,
    hvalue]

theorem isDigit_dot : isDigit 10 '.' = false := by decide

theorem ofNat_octet4 (ip : BitVec 32) (k : Nat) :
    BitVec.ofNat 8 (octet4 ip k).val = ip.extractLsb' (8 * (3 - k)) 8 := by
  rw [octet4, BitVec.val_toFin, BitVec.ofNat_toNat, BitVec.setWidth_eq]

theorem ofOctets4_octet4 (ip : BitVec 32) :
    ofOctets4 (octet4 ip 0) (octet4 ip 1) (octet4 ip 2) (octet4 ip 3) = ip := by
  rw [ofOctets4, ofNat_octet4, ofNat_octet4, ofNat_octet4, ofNat_octet4]
  apply BitVec.eq_of_getLsbD_eq
  intro i hi
  simp only [BitVec.getLsbD_append, BitVec.getLsbD_extractLsb']
  grind

/-- A dotted address is read back, whatever follows it that is not a digit. -/
theorem readIpv4Addr_dotted (ip : BitVec 32) {rest : List Char}
    (hrest : ∀ c ∈ rest.head?, isDigit 10 c = false) :
    readIpv4Addr (dotted ip ++ rest) = some (ip, rest) := by
  have hdot : ∀ (n : Fin 256) (s : List Char),
      readNumber 10 3 256 false (decimal n ++ '.' :: s) = some (n.val, '.' :: s) := by
    intro n s
    refine readNumber_decimal n fun c hc => ?_
    cases hc
    exact isDigit_dot
  rw [dotted]
  simp only [List.append_assoc, List.cons_append, readIpv4Addr, readOctet, readSeparator,
    if_true, Bool.false_eq_true, if_false, hdot, readGivenChar, Option.bind_some,
    Option.bind_eq_bind, readNumber_decimal _ hrest, Option.pure_def, ofOctets4_octet4]

theorem readIpv4Addr_dotted_nil (ip : BitVec 32) :
    readIpv4Addr (dotted ip) = some (ip, []) := by
  have h : readIpv4Addr (dotted ip ++ []) = some (ip, []) :=
    readIpv4Addr_dotted ip fun c hc => by cases hc
  rwa [List.append_nil] at h

theorem parseIpAddr_dotted (ip : BitVec 32) : parseIpAddr (dotted ip) = some (.v4 ip) := by
  rw [parseIpAddr, readIpAddr, readIpv4Addr_dotted_nil]

theorem readIpv4Addr_cons {c : Char} (h : isDigit 10 c = false) (rest : List Char) :
    readIpv4Addr (c :: rest) = none := by
  have hnumber : readNumber 10 3 256 false (c :: rest) = none := by
    rw [readNumber, List.takeWhile_cons_of_neg (by rw [h]; exact Bool.false_ne_true)]
    exact if_pos (.inl rfl)
  rw [readIpv4Addr, readOctet, readSeparator, if_pos rfl, hnumber]
  rfl

theorem readGroups_ipv4 {left : Nat} {first : Bool} {s rest : List Char} {ip : BitVec 32}
    (hleft : 1 ≤ left) (hread : readSeparator ':' first readIpv4Addr s = some (ip, rest)) :
    readGroups (left + 1) first s =
      ([ip.extractLsb' 16 16, ip.extractLsb' 0 16], true, rest) := by
  rw [readGroups, if_pos hleft, hread]

theorem readGroups_group {left : Nat} {first : Bool} {s rest : List Char} {group : Nat}
    (hipv4 : readSeparator ':' first readIpv4Addr s = none)
    (hread : readSeparator ':' first (readNumber 16 4 65536 true) s = some (group, rest)) :
    readGroups (left + 1) first s =
      (BitVec.ofNat 16 group :: (readGroups left false rest).1, (readGroups left false rest).2) := by
  rw [readGroups, hipv4, ite_self, hread]

theorem readGroups_end {left : Nat} {first : Bool} {s : List Char}
    (hipv4 : readSeparator ':' first readIpv4Addr s = none)
    (hread : readSeparator ':' first (readNumber 16 4 65536 true) s = none) :
    readGroups (left + 1) first s = ([], false, s) := by
  rw [readGroups, hipv4, ite_self, hread]

/-- What is written after `::ffff:` ends an IPv6 address. -/
theorem parseIpAddr_mapped (ip : BitVec 32) :
    parseIpAddr (':' :: ':' :: 'f' :: 'f' :: 'f' :: 'f' :: ':' :: dotted ip) =
      some (.v6 (ofGroups [0, 0, 0, 0, 0, 0xffff, ip.extractLsb' 16 16, ip.extractLsb' 0 16])) := by
  have hcolon : isDigit 10 ':' = false := by decide
  have hf : isDigit 10 'f' = false := by decide
  have hhead : readGroups 8 true (':' :: ':' :: 'f' :: 'f' :: 'f' :: 'f' :: ':' :: dotted ip) =
      ([], false, ':' :: ':' :: 'f' :: 'f' :: 'f' :: 'f' :: ':' :: dotted ip) :=
    readGroups_end (readIpv4Addr_cons hcolon _) rfl
  have htail : readGroups 7 true ('f' :: 'f' :: 'f' :: 'f' :: ':' :: dotted ip) =
      ([0xffff, ip.extractLsb' 16 16, ip.extractLsb' 0 16], true, []) := by
    have hgroup : readSeparator ':' true (readNumber 16 4 65536 true)
        ('f' :: 'f' :: 'f' :: 'f' :: ':' :: dotted ip) = some (0xffff, ':' :: dotted ip) := rfl
    have hdotted : readGroups 6 false (':' :: dotted ip) =
        ([ip.extractLsb' 16 16, ip.extractLsb' 0 16], true, []) :=
      readGroups_ipv4 (by decide) (readIpv4Addr_dotted_nil ip)
    have hipv4 : readSeparator ':' true readIpv4Addr
        ('f' :: 'f' :: 'f' :: 'f' :: ':' :: dotted ip) = none := readIpv4Addr_cons hf _
    rw [readGroups_group hipv4 hgroup, hdotted]
    rfl
  have hread : readIpv6Addr (':' :: ':' :: 'f' :: 'f' :: 'f' :: 'f' :: ':' :: dotted ip) =
      some (ofGroups [0, 0, 0, 0, 0, 0xffff, ip.extractLsb' 16 16, ip.extractLsb' 0 16], []) := by
    rw [readIpv6Addr, hhead]
    change ((readGroups 7 true ('f' :: 'f' :: 'f' :: 'f' :: ':' :: dotted ip)) |>
      fun (tail, _, rest) => some (ofGroups ([] ++ List.replicate (8 - 0 - tail.length) 0 ++ tail),
        rest)) = _
    rw [htail]
    rfl
  rw [parseIpAddr, readIpAddr, readIpv4Addr_cons hcolon, hread]
  rfl

end IpText
end Net
end XdpFirewall
