import XdpFirewall.Lib.LongestPrefix
import XdpFirewall.Policy.Model

/-!
# Encoding — the binary form of policies in the kernel maps

Keys and values as user space writes them. An LPM key is a prefix length and the bytes of its
data; the kernel compares the first `prefixLen` bits of the bytes, and two keys it cannot tell
apart by them are one key. The main result is that an encoded key is a fixed header followed by
the leading bits of its network.
-/

namespace XdpFirewall
namespace DataPlane

open Net Policy Lib

/-! ## Codes -/

def actionAllow : U8 := 1
def actionDeny : U8 := 2
def protoAny : U8 := 0
def protoIcmp : U8 := 1
def protoTcp : U8 := 6
def protoUdp : U8 := 17
def ruleSourceFirewall : U8 := 1
def ruleSourceThreat : U8 := 2

def actionCode : RuleAction → U8
  | .allow => actionAllow
  | .deny => actionDeny

def ruleSourceCode : XdpRuleSource → U8
  | .firewallRule => ruleSourceFirewall
  | .threatIntel => ruleSourceThreat

def protoCode : L4Protocol → U8
  | .any => protoAny
  | .tcp => protoTcp
  | .udp => protoUdp
  | .icmp => protoIcmp

def ruleSourceOrder : XdpRuleSource → Nat
  | .threatIntel => 0
  | .firewallRule => 1

theorem protoCode_injective {a b : L4Protocol} (h : protoCode a = protoCode b) : a = b := by
  cases a <;> cases b <;> first | rfl | exact absurd h (by decide)

@[simp] theorem actionAllow_ne_actionDeny : actionAllow ≠ actionDeny := by decide

theorem actionCode_injective {a b : RuleAction} (h : actionCode a = actionCode b) : a = b := by
  cases a <;> cases b <;> first | rfl | exact absurd h (by decide)

/-! ## Bytes -/

/-- `u16::to_be` on the little-endian hosts the program runs on. -/
def toBe (x : U16) : U16 :=
  x.extractLsb' 0 8 ++ x.extractLsb' 8 8

/-- The bytes of a 16-bit number in the memory of a little-endian host. -/
def memory16 (x : U16) : List U8 :=
  [x.extractLsb' 0 8, x.extractLsb' 8 8]

abbrev AddrBytes := Vector U8 16

/-- Byte `j` of an address, the most significant one first. -/
def octet {w : Nat} (x : BitVec w) (j : Nat) : U8 :=
  x.extractLsb' (w - 8 * (j + 1)) 8

def addrBytes : IpAddr → AddrBytes
  | .v4 ip => Vector.ofFn fun j => if j.val < 4 then octet ip j else 0
  | .v6 ip => Vector.ofFn fun j => octet ip j

def family (addr : IpAddr) : U8 :=
  if addr.isIpv4 then 4 else 6

/-- Types that are copied to the kernel byte by byte. -/
class Pod (α : Type) where
  bytes : α → List U8

/-- `extract_bit` of the kernel: bit `i` of a byte string, the most significant one first. -/
def extractBit (bytes : List U8) (i : Nat) : Bool :=
  (bytes.getD (i / 8) 0).getMsbD (i % 8)

/-! ## LPM keys -/

structure LpmKey (α : Type) where
  prefixLen : Nat
  data : α
  deriving DecidableEq

def LpmKey.bits {α : Type} [Pod α] (key : LpmKey α) : List Bool :=
  (List.range key.prefixLen).map (extractBit (Pod.bytes key.data))

/-- A kernel map of type `BPF_MAP_TYPE_LPM_TRIE`. -/
abbrev LpmTrie (α V : Type) [Pod α] := KeyedStore (LpmKey α) V LpmKey.bits

/-- A kernel map of type `BPF_MAP_TYPE_HASH`, which compares whole keys. -/
abbrev HashMap (K V : Type) := KeyedStore K V (id : K → K)

/-- The data of `RuleKey` and `TempBanKey`, which the source declares twice. -/
structure L4Data where
  family : U8
  proto : U8
  dport : U16
  addr : AddrBytes
  deriving DecidableEq

/-- The data of `GeoKey` and `TrustedKey`, which the source declares twice. -/
structure PaddedData where
  family : U8
  pad : Vector U8 3
  addr : AddrBytes
  deriving DecidableEq

instance : Pod L4Data where
  bytes data := data.family :: data.proto :: memory16 data.dport ++ data.addr.toList

instance : Pod PaddedData where
  bytes data := data.family :: data.pad.toList ++ data.addr.toList

abbrev RuleData := L4Data
abbrev TempBanData := L4Data
abbrev GeoData := PaddedData
abbrev TrustedData := PaddedData

abbrev RuleKey := LpmKey RuleData
abbrev TempBanKey := LpmKey TempBanData
abbrev GeoKey := LpmKey GeoData
abbrev TrustedKey := LpmKey TrustedData

structure CustomRateKey where
  proto : U8
  pad : U8
  dport : U16
  deriving DecidableEq

abbrev RuleId := Nat × U8 × U8 × U16 × AddrBytes
abbrev TempBanId := Nat × U8 × U8 × U16 × AddrBytes
abbrev GeoId := Nat × U8 × AddrBytes
abbrev TrustedId := Nat × U8 × AddrBytes
abbrev CustomRateId := U8 × U16

def lpmPrefixLen (prefixLen : Nat) : Nat :=
  32 + prefixLen

/-- The body shared by `rule_key` and `temp_ban_key`. -/
def l4Key (addr : IpAddr) (prefixLen : Nat) (protocol : L4Protocol) (port : U16) :
    LpmKey L4Data where
  prefixLen := lpmPrefixLen prefixLen
  data :=
    { family := family addr
      proto := protoCode protocol
      dport := toBe port
      addr := addrBytes addr }

def ruleKey (addr : IpAddr) (prefixLen : Nat) (protocol : L4Protocol) (port : U16) : RuleKey :=
  l4Key addr prefixLen protocol port

def tempBanKey (addr : IpAddr) (prefixLen : Nat) (protocol : L4Protocol) (port : U16) :
    TempBanKey :=
  l4Key addr prefixLen protocol port

/-- The body shared by `geo_key` and `trusted_key`. -/
def paddedKey (addr : IpAddr) (prefixLen : Nat) : LpmKey PaddedData where
  prefixLen := lpmPrefixLen prefixLen
  data :=
    { family := family addr
      pad := Vector.replicate 3 0
      addr := addrBytes addr }

def geoKey (addr : IpAddr) (prefixLen : Nat) : GeoKey :=
  paddedKey addr prefixLen

def trustedKey (addr : IpAddr) (prefixLen : Nat) : TrustedKey :=
  paddedKey addr prefixLen

def customRateKey (protocol : L4Protocol) (port : U16) : CustomRateKey where
  proto := protoCode protocol
  pad := 0
  dport := toBe port

def countryKey (country : U16) : U32 :=
  country.setWidth 32

/-! ## Identities by which user space recognises a key -/

def l4KeyId (key : LpmKey L4Data) : Nat × U8 × U8 × U16 × AddrBytes :=
  (key.prefixLen, key.data.family, key.data.proto, key.data.dport, key.data.addr)

def ruleKeyId (key : RuleKey) : RuleId :=
  l4KeyId key

def tempBanKeyId (key : TempBanKey) : TempBanId :=
  l4KeyId key

/-- The padding of a key is not part of its identity. -/
def paddedKeyId (key : LpmKey PaddedData) : Nat × U8 × AddrBytes :=
  (key.prefixLen, key.data.family, key.data.addr)

def geoKeyId (key : GeoKey) : GeoId :=
  paddedKeyId key

def trustedKeyId (key : TrustedKey) : TrustedId :=
  paddedKeyId key

def customRateKeyId (key : CustomRateKey) : CustomRateId :=
  (key.proto, key.dport)

/-! ## Keys as words of bits -/

theorem getMsbD_octet {w : Nat} (x : BitVec w) {j k : Nat} (hj : 8 * (j + 1) ≤ w) (hk : k < 8) :
    (octet x j).getMsbD k = x.getMsbD (8 * j + k) := by
  have hin : 8 * j + k < w := by omega
  have hpos : w - 8 * (j + 1) + (8 - 1 - k) = w - 1 - (8 * j + k) := by omega
  simp only [octet, BitVec.getMsbD_eq_getLsbD, BitVec.getLsbD_extractLsb', hpos, hin, hk]
  simp [show 8 - 1 - k < 8 by omega]

theorem extractBit_of_getElem? {bytes : List U8} {i : Nat} {byte : U8}
    (h : bytes[i / 8]? = some byte) : extractBit bytes i = byte.getMsbD (i % 8) := by
  rw [extractBit, List.getD_eq_getElem?_getD, h, Option.getD_some]

/-- The bits of the address bytes are the bits of the address. -/
theorem extractBit_addrBytes (addr : IpAddr) {i : Nat} (hi : i < addr.bits.length) :
    some (extractBit (addrBytes addr).toList i) = addr.bits[i]? := by
  have hk : i % 8 < 8 := Nat.mod_lt _ (by decide)
  have hsplit : 8 * (i / 8) + i % 8 = i := Nat.div_add_mod i 8
  cases addr with
  | v4 ip =>
      have hi : i < 32 := by simpa [IpAddr.bits] using hi
      have hbyte : (addrBytes (.v4 ip)).toList[i / 8]? = some (octet ip (i / 8)) := by
        have h16 : i / 8 < 16 := by omega
        have h4 : i / 8 < 4 := by omega
        simp [addrBytes, h16, h4]
      rw [extractBit_of_getElem? hbyte, getMsbD_octet ip (by omega) hk, hsplit, IpAddr.bits,
        getElem?_bits ip hi]
  | v6 ip =>
      have hi : i < 128 := by simpa [IpAddr.bits] using hi
      have hbyte : (addrBytes (.v6 ip)).toList[i / 8]? = some (octet ip (i / 8)) := by
        have h16 : i / 8 < 16 := by omega
        simp [addrBytes, h16]
      rw [extractBit_of_getElem? hbyte, getMsbD_octet ip (by omega) hk, hsplit, IpAddr.bits,
        getElem?_bits ip hi]

/-- The bits of the four bytes before the address. -/
def header (head : List U8) : List Bool :=
  (List.range 32).map (extractBit head)

@[simp] theorem length_header (head : List U8) : (header head).length = 32 := by
  simp [header]

theorem header_injective {a b : List U8} (ha : a.length = 4) (hb : b.length = 4)
    (h : header a = header b) : a = b := by
  have hbit : ∀ i < 32, extractBit a i = extractBit b i := by
    intro i hi
    have hget := congrArg (fun l => l[i]?) h
    simpa [header, hi] using hget
  apply List.ext_getElem (ha.trans hb.symm)
  intro j hja hjb
  apply BitVec.eq_of_getMsbD_eq
  intro k hk
  have hdiv : (8 * j + k) / 8 = j := by omega
  have hmod : (8 * j + k) % 8 = k := by omega
  have hget := hbit (8 * j + k) (by omega)
  rw [extractBit_of_getElem? (by rw [hdiv, List.getElem?_eq_getElem hja]),
    extractBit_of_getElem? (by rw [hdiv, List.getElem?_eq_getElem hjb]), hmod] at hget
  exact hget

/-- A key whose bytes are four header bytes and an address is the header's bits and the leading
bits of the address. -/
theorem bits_eq_header_append {α : Type} [Pod α] {data : α} {head : List U8} {addr : IpAddr}
    {len : Nat} (hbytes : Pod.bytes data = head ++ (addrBytes addr).toList)
    (hhead : head.length = 4) (hlen : len ≤ addr.bits.length) :
    LpmKey.bits { prefixLen := lpmPrefixLen len, data := data } =
      header head ++ addr.bits.take len := by
  rw [LpmKey.bits, hbytes, lpmPrefixLen, List.range_add, List.map_append, header]
  congr 1
  · refine List.map_congr_left ?_
    intro i hi
    have hi : i < 32 := List.mem_range.mp hi
    rw [extractBit, extractBit, List.getD_eq_getElem?_getD, List.getD_eq_getElem?_getD,
      List.getElem?_append_left (by omega)]
  · apply List.ext_getElem?
    intro i
    by_cases hi : i < len
    · have hshift : extractBit (head ++ (addrBytes addr).toList) (32 + i) =
          extractBit (addrBytes addr).toList i := by
        have hdiv : (32 + i) / 8 = head.length + i / 8 := by omega
        have hmod : (32 + i) % 8 = i % 8 := by omega
        rw [extractBit, extractBit, hdiv, hmod, List.getD_eq_getElem?_getD,
          List.getD_eq_getElem?_getD, List.getElem?_append_right (by omega), Nat.add_sub_cancel_left]
      rw [List.getElem?_take_of_lt hi, ← extractBit_addrBytes addr (by omega), ← hshift]
      simp [hi]
    · rw [List.getElem?_take_eq_none (by omega)]
      simp [hi]

/-- Words with headers are comparable exactly when the headers agree. -/
theorem header_append_prefix_iff {a b : List U8} {x y : List Bool} :
    header a ++ x <+: header b ++ y ↔ header a = header b ∧ x <+: y := by
  constructor
  · intro h
    have hhead : header a = header b := by
      have htake := List.prefix_of_prefix_length_le ((List.prefix_append _ x).trans h)
        (List.prefix_append _ y) (by simp)
      exact htake.eq_of_length (by simp)
    rw [hhead, List.prefix_append_right_inj] at h
    exact ⟨hhead, h⟩
  · rintro ⟨hhead, h⟩
    rw [hhead, List.prefix_append_right_inj]
    exact h

def l4Header (family proto : U8) (dport : U16) : List Bool :=
  header (family :: proto :: memory16 dport)

def paddedHeader (family : U8) (pad : Vector U8 3) : List Bool :=
  header (family :: pad.toList)

theorem memory16_injective {x y : U16} (h : memory16 x = memory16 y) : x = y := by
  simp only [memory16, List.cons.injEq, and_true] at h
  apply BitVec.eq_of_getLsbD_eq
  intro i hi
  by_cases hlow : i < 8
  · have hbit := congrArg (fun b : U8 => b.getLsbD i) h.1
    simpa [hlow] using hbit
  · have hbit := congrArg (fun b : U8 => b.getLsbD (i - 8)) h.2
    have hin : i - 8 < 8 := by omega
    have hsum : 8 + (i - 8) = i := by omega
    simpa [hin, hsum] using hbit

theorem l4Header_injective {fam fam' proto proto' : U8} {dport dport' : U16}
    (h : l4Header fam proto dport = l4Header fam' proto' dport') :
    fam = fam' ∧ proto = proto' ∧ dport = dport' := by
  have hbytes := header_injective (by simp [memory16]) (by simp [memory16]) h
  simp only [List.cons.injEq] at hbytes
  exact ⟨hbytes.1, hbytes.2.1, memory16_injective hbytes.2.2⟩

theorem bits_l4 (fam proto : U8) (dport : U16) (addr : IpAddr) {len : Nat}
    (hlen : len ≤ addr.bits.length) :
    LpmKey.bits { prefixLen := lpmPrefixLen len, data := L4Data.mk fam proto dport (addrBytes addr) } =
      l4Header fam proto dport ++ addr.bits.take len :=
  bits_eq_header_append (by simp [Pod.bytes]) (by simp [memory16]) hlen

theorem bits_padded (fam : U8) (pad : Vector U8 3) (addr : IpAddr) {len : Nat}
    (hlen : len ≤ addr.bits.length) :
    LpmKey.bits { prefixLen := lpmPrefixLen len, data := PaddedData.mk fam pad (addrBytes addr) } =
      paddedHeader fam pad ++ addr.bits.take len :=
  bits_eq_header_append (by simp [Pod.bytes]) (by simp) hlen

theorem prefixLen_le_length (net : Network) : net.prefixLen ≤ net.addr.bits.length := by
  rw [← net.length_word, Network.word]
  exact List.length_take_le' _ _

theorem bits_l4Key (net : Network) (protocol : L4Protocol) (port : U16) :
    (l4Key net.addr net.prefixLen protocol port).bits =
      l4Header (family net.addr) (protoCode protocol) (toBe port) ++ net.word :=
  bits_l4 _ _ _ _ (prefixLen_le_length net)

theorem bits_paddedKey (net : Network) :
    (paddedKey net.addr net.prefixLen).bits =
      paddedHeader (family net.addr) (Vector.replicate 3 0) ++ net.word :=
  bits_padded _ _ _ (prefixLen_le_length net)

theorem toBe_toBe (x : U16) : toBe (toBe x) = x := by
  apply BitVec.eq_of_getLsbD_eq
  intro i hi
  simp only [toBe, BitVec.getLsbD_append, BitVec.getLsbD_extractLsb']
  by_cases hlow : i < 8
  · simp [hlow]
  · have hin : i - 8 < 8 := by omega
    have hsum : 8 + (i - 8) = i := by omega
    simp [hlow, hin, hsum]

theorem toBe_injective {x y : U16} (h : toBe x = toBe y) : x = y := by
  rw [← toBe_toBe x, h, toBe_toBe]

@[simp] theorem toBe_zero : toBe 0 = 0 := rfl

theorem family_eq_iff {a b : IpAddr} : family a = family b ↔ a.isIpv4 = b.isIpv4 := by
  unfold family
  cases a.isIpv4 <;> cases b.isIpv4 <;> decide

/-- Encoded rule and ban keys determine what they encode. -/
theorem l4Key_bits_injective {a b : Network} {p q : L4Protocol} {x y : U16}
    (h : (l4Key a.addr a.prefixLen p x).bits = (l4Key b.addr b.prefixLen q y).bits) :
    a = b ∧ p = q ∧ x = y := by
  rw [bits_l4Key, bits_l4Key] at h
  obtain ⟨hhead, hword⟩ := List.append_inj h (by simp [l4Header])
  obtain ⟨hfam, hproto, hdport⟩ := l4Header_injective hhead
  exact ⟨Network.eq_of_word_eq (family_eq_iff.mp hfam) hword, protoCode_injective hproto,
    toBe_injective hdport⟩

theorem paddedKey_bits_injective {a b : Network}
    (h : (paddedKey a.addr a.prefixLen).bits = (paddedKey b.addr b.prefixLen).bits) : a = b := by
  rw [bits_paddedKey, bits_paddedKey] at h
  obtain ⟨hhead, hword⟩ := List.append_inj h (by simp [paddedHeader])
  have hbytes := header_injective (by simp) (by simp) hhead
  simp only [List.cons.injEq] at hbytes
  exact Network.eq_of_word_eq (family_eq_iff.mp hbytes.1) hword

/-! ## Values -/

structure RuleValue where
  action : U8
  source : U8
  pad : Vector U8 2
  priority : Int32
  deriving DecidableEq

structure GeoValue where
  country : U16
  deriving DecidableEq

structure CountryValue where
  action : U8
  deriving DecidableEq

structure DefenseValue where
  enabled : U8
  ipRateLimitEnabled : U8
  floodEnabled : U8
  pad : U8
  ipPacketsPerSecond : U32
  ipBurst : U32
  floodPacketsPerSecond : U32
  floodBurst : U32
  floodBlockNs : U64
  deriving DecidableEq

structure CustomRateValue where
  packetsPerSecond : U32
  burst : U32
  deriving DecidableEq

structure TempBanValue where
  expiresAtNs : U64
  deriving DecidableEq

structure TrustedValue where
  value : U8
  deriving DecidableEq

end DataPlane
end XdpFirewall
