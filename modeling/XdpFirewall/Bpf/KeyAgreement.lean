import XdpFirewall.Bpf.ParsePacket

/-!
# KeyAgreement — the keys of user space and those of the filter, byte by byte

User space and the filter declare the key structs separately. What the kernel compares are bytes:
a prefix length in the first four, and the leading bits of the rest. A key that user space writes
matches a key that the filter looks up exactly when it is meant for the packet.
-/

namespace XdpFirewall
namespace Bpf

open Net Policy Lib DataPlane

/-! ## Keys in memory -/

/-- The bytes of a 32-bit number in the memory of a little-endian host. -/
def memory32 (x : U32) : List U8 :=
  [x.extractLsb' 0 8, x.extractLsb' 8 8, x.extractLsb' 16 8, x.extractLsb' 24 8]

def load32 (bytes : List U8) : U32 :=
  bytes.getD 3 0 ++ bytes.getD 2 0 ++ bytes.getD 1 0 ++ bytes.getD 0 0

/-- An `LpmKey` of user space in memory. -/
def lpmKeyBytes {α : Type} [Pod α] (key : LpmKey α) : List U8 :=
  memory32 (BitVec.ofNat 32 key.prefixLen) ++ Pod.bytes key.data

/-- `struct rule_key` and `struct temp_ban_key` of the filter. -/
structure L4KeyStruct where
  prefixlen : U32
  family : U8
  proto : U8
  dport : U16
  addr : AddrBytes

/-- `struct geo_key` and `struct trusted_key` of the filter. -/
structure PaddedKeyStruct where
  prefixlen : U32
  family : U8
  pad : Vector U8 3
  addr : AddrBytes

def L4KeyStruct.bytes (key : L4KeyStruct) : List U8 :=
  memory32 key.prefixlen ++ [key.family, key.proto] ++ memory16 key.dport ++ key.addr.toList

def PaddedKeyStruct.bytes (key : PaddedKeyStruct) : List U8 :=
  memory32 key.prefixlen ++ [key.family] ++ key.pad.toList ++ key.addr.toList

/-- What `lookup_rule` and `temp_ban_active` pass to the kernel. -/
def l4LookupBytes (family proto : U8) (dport : U16) (addr : AddrBytes) : List U8 :=
  L4KeyStruct.bytes
    { prefixlen := BitVec.ofNat 32 (fullPrefixLen family)
      family := family
      proto := proto
      dport := dport
      addr := addr }

/-- What `lookup_geo` and `lookup_trusted` pass to the kernel. -/
def paddedLookupBytes (family : U8) (addr : AddrBytes) : List U8 :=
  PaddedKeyStruct.bytes
    { prefixlen := BitVec.ofNat 32 (fullPrefixLen family)
      family := family
      pad := Vector.replicate 3 0
      addr := addr }

/-- The bits of a key that the kernel compares. -/
def comparedBits (key : List U8) : List Bool :=
  (List.range (load32 key).toNat).map (extractBit (key.drop 4))

/-- A stored key matches a lookup key when its compared bits come first in it. -/
def Matches (stored lookup : List U8) : Prop :=
  comparedBits stored <+: comparedBits lookup

/-! ## Compared bits -/

theorem load32_memory32 (x : U32) (rest : List U8) : load32 (memory32 x ++ rest) = x := by
  apply BitVec.eq_of_getLsbD_eq
  intro i hi
  simp only [load32, memory32, List.cons_append, List.getD_cons_zero, List.getD_cons_succ,
    BitVec.getLsbD_append, BitVec.getLsbD_extractLsb']
  by_cases h0 : i < 8
  · simp [h0]
  · by_cases h1 : i - 8 < 8
    · have hpos : 8 + (i - 8) = i := by omega
      simp [h0, h1, hpos]
    · by_cases h2 : i - 8 - 8 < 8
      · have hpos : 16 + (i - 8 - 8) = i := by omega
        simp [h0, h1, h2, hpos]
      · have h3 : i - 8 - 8 - 8 < 8 := by omega
        have hpos : 24 + (i - 8 - 8 - 8) = i := by omega
        simp [h0, h1, h2, h3, hpos]

theorem comparedBits_memory32 {n : Nat} (hn : n < 2 ^ 32) (bytes : List U8) :
    comparedBits (memory32 (BitVec.ofNat 32 n) ++ bytes) =
      (List.range n).map (extractBit bytes) := by
  rw [comparedBits, load32_memory32, BitVec.toNat_ofNat, Nat.mod_eq_of_lt hn]
  rfl

theorem comparedBits_lpmKeyBytes {α : Type} [Pod α] {key : LpmKey α}
    (hlen : key.prefixLen < 2 ^ 32) : comparedBits (lpmKeyBytes key) = key.bits :=
  comparedBits_memory32 hlen _

theorem fullPrefixLen_lt (family : U8) : fullPrefixLen family < 2 ^ 32 := by
  unfold fullPrefixLen
  split <;> decide

/-- The two declarations of the key structs agree. -/
theorem comparedBits_l4LookupBytes (family proto : U8) (dport : U16) (addr : AddrBytes) :
    comparedBits (l4LookupBytes family proto dport addr) =
      (packetKey family proto dport addr).bits := by
  rw [l4LookupBytes, L4KeyStruct.bytes, List.append_assoc, List.append_assoc,
    comparedBits_memory32 (fullPrefixLen_lt family)]
  rfl

theorem comparedBits_paddedLookupBytes (family : U8) (addr : AddrBytes) :
    comparedBits (paddedLookupBytes family addr) = (packetPaddedKey family addr).bits := by
  rw [paddedLookupBytes, PaddedKeyStruct.bytes, List.append_assoc, List.append_assoc,
    comparedBits_memory32 (fullPrefixLen_lt family)]
  rfl

theorem prefixLen_lt (net : Network) : lpmPrefixLen net.prefixLen < 2 ^ 32 := by
  have hle := prefixLen_le_length net
  have hbits : net.addr.bits.length ≤ 128 := by
    cases net.addr <;> simp [IpAddr.bits]
  unfold lpmPrefixLen
  omega

/-! ## Agreement -/

section Agreement

variable {net : Network} {protocol : L4Protocol} {port : U16}

theorem l4Key_matches_bytes_iff {proto : U8} {dport : U16} {src : IpAddr} :
    Matches (lpmKeyBytes (l4Key net.addr net.prefixLen protocol port))
        (l4LookupBytes (family src) proto dport (addrBytes src)) ↔
      family net.addr = family src ∧ protoCode protocol = proto ∧ toBe port = dport ∧
        net.Contains src := by
  have hlen : (l4Key net.addr net.prefixLen protocol port).prefixLen < 2 ^ 32 := prefixLen_lt net
  rw [Matches, comparedBits_lpmKeyBytes hlen, comparedBits_l4LookupBytes, l4Key_matches_iff]
  exact ⟨fun h => ⟨family_eq_iff.mpr h.2.2.1, h⟩, And.right⟩

theorem paddedKey_matches_bytes_iff {src : IpAddr} :
    Matches (lpmKeyBytes (paddedKey net.addr net.prefixLen))
        (paddedLookupBytes (family src) (addrBytes src)) ↔
      family net.addr = family src ∧ net.Contains src := by
  have hlen : (paddedKey net.addr net.prefixLen).prefixLen < 2 ^ 32 := prefixLen_lt net
  rw [Matches, comparedBits_lpmKeyBytes hlen, comparedBits_paddedLookupBytes,
    paddedKey_matches_iff]
  exact ⟨fun h => ⟨family_eq_iff.mpr h.1, h⟩, And.right⟩

/-- Whatever is in its address bytes, a lookup key starts with its family, protocol and port. -/
theorem bits_packetKey_eq (fam proto : U8) (dport : U16) (addr : AddrBytes) :
    ∃ rest, (packetKey fam proto dport addr).bits = l4Header fam proto dport ++ rest := by
  obtain ⟨ip, rfl⟩ : ∃ ip, addr = addrBytes (.v6 ip) := by
    refine ⟨ofOctets 16 fun j => addr.toList.getD j 0, Vector.ext fun j hj => ?_⟩
    simp [addrBytes, octet_ofOctets hj, hj]
  obtain ⟨len, hle, hfull⟩ : ∃ len ≤ 128, fullPrefixLen fam = lpmPrefixLen len := by
    unfold fullPrefixLen
    split
    · exact ⟨32, by decide, rfl⟩
    · exact ⟨128, by decide, rfl⟩
  refine ⟨(IpAddr.v6 ip).bits.take len, ?_⟩
  rw [packetKey, hfull, bits_l4 _ _ _ _ (by simpa [IpAddr.bits] using hle)]

/-- A key never matches a lookup of another family, protocol or port. -/
theorem l4Key_matches_header {fam proto : U8} {dport : U16} {addr : AddrBytes}
    (h : Matches (lpmKeyBytes (l4Key net.addr net.prefixLen protocol port))
      (l4LookupBytes fam proto dport addr)) :
    family net.addr = fam ∧ protoCode protocol = proto ∧ toBe port = dport := by
  have hlen : (l4Key net.addr net.prefixLen protocol port).prefixLen < 2 ^ 32 := prefixLen_lt net
  obtain ⟨rest, hrest⟩ := bits_packetKey_eq fam proto dport addr
  rw [Matches, comparedBits_lpmKeyBytes hlen, comparedBits_l4LookupBytes, hrest, bits_l4Key,
    l4Header, l4Header, header_append_prefix_iff] at h
  exact l4Header_injective h.1

end Agreement

/-- A key of user space for a network, a protocol and a port matches the filter's lookups for a
packet exactly when it is meant for it. -/
def L4KeysAgree (key : IpAddr → Nat → L4Protocol → U16 → LpmKey L4Data) (packet : Packet)
    (src : IpAddr) : Prop :=
  ∀ (net : Network) (protocol : L4Protocol) (port : U16) (proto : U8) (dport : U16),
    Matches (lpmKeyBytes (key net.addr net.prefixLen protocol port))
        (l4LookupBytes packet.family proto dport packet.src) ↔
      family net.addr = packet.family ∧ protoCode protocol = proto ∧ toBe port = dport ∧
        net.Contains src

def PaddedKeysAgree (key : IpAddr → Nat → LpmKey PaddedData) (packet : Packet) (src : IpAddr) :
    Prop :=
  ∀ net : Network,
    Matches (lpmKeyBytes (key net.addr net.prefixLen))
        (paddedLookupBytes packet.family packet.src) ↔
      family net.addr = packet.family ∧ net.Contains src

/-- No key matches a lookup of another family, protocol or port, whatever the address. -/
def HeadersApart (key : IpAddr → Nat → L4Protocol → U16 → LpmKey L4Data) : Prop :=
  ∀ (net : Network) (protocol : L4Protocol) (port : U16) (fam proto : U8) (dport : U16)
    (addr : AddrBytes),
    family net.addr ≠ fam ∨ protoCode protocol ≠ proto ∨ toBe port ≠ dport →
      ¬ Matches (lpmKeyBytes (key net.addr net.prefixLen protocol port))
        (l4LookupBytes fam proto dport addr)

/-- The longer network has the longer prefix. -/
def LongerFirst {α : Type} [Pod α] (key : Network → LpmKey α) : Prop :=
  ∀ net net' : Network,
    net.prefixLen < net'.prefixLen ↔
      load32 (lpmKeyBytes (key net)) < load32 (lpmKeyBytes (key net'))

structure KeysAgree (packet : Packet) (src : IpAddr) : Prop where
  rule : L4KeysAgree ruleKey packet src
  tempBan : L4KeysAgree tempBanKey packet src
  geo : PaddedKeysAgree geoKey packet src
  trusted : PaddedKeysAgree trustedKey packet src
  ruleApart : HeadersApart ruleKey
  tempBanApart : HeadersApart tempBanKey
  ruleLonger : ∀ protocol port,
    LongerFirst fun net => ruleKey net.addr net.prefixLen protocol port
  tempBanLonger : ∀ protocol port,
    LongerFirst fun net => tempBanKey net.addr net.prefixLen protocol port
  geoLonger : LongerFirst fun net => geoKey net.addr net.prefixLen
  trustedLonger : LongerFirst fun net => trustedKey net.addr net.prefixLen

theorem headersApart_l4Key : HeadersApart l4Key := by
  intro net protocol port fam proto dport addr hother hmatches
  obtain ⟨hfam, hproto, hdport⟩ := l4Key_matches_header hmatches
  rcases hother with hne | hne | hne
  · exact hne hfam
  · exact hne hproto
  · exact hne hdport

theorem longerFirst_of_prefixLen {α : Type} [Pod α] {key : Network → LpmKey α}
    (hkey : ∀ net, (key net).prefixLen = lpmPrefixLen net.prefixLen) : LongerFirst key := by
  intro net net'
  have hlt := prefixLen_lt net
  have hlt' := prefixLen_lt net'
  rw [lpmKeyBytes, lpmKeyBytes, load32_memory32, load32_memory32, hkey, hkey, BitVec.lt_def,
    BitVec.toNat_ofNat, BitVec.toNat_ofNat, Nat.mod_eq_of_lt hlt, Nat.mod_eq_of_lt hlt']
  unfold lpmPrefixLen
  omega

/-- Every packet that the filter decides is looked up under the keys that are meant for it. -/
theorem keysAgree_of_parseFrame {data : Frame} {packet : Packet}
    (hparse : parseFrame data = .packet packet) : KeysAgree packet (sourceAddr data) := by
  obtain ⟨hfamily, hsrc⟩ := source_of_parseFrame hparse
  have hl4 : L4KeysAgree l4Key packet (sourceAddr data) := by
    intro net protocol port proto dport
    rw [hfamily, hsrc]
    exact l4Key_matches_bytes_iff
  have hpadded : PaddedKeysAgree paddedKey packet (sourceAddr data) := by
    intro net
    rw [hfamily, hsrc]
    exact paddedKey_matches_bytes_iff
  exact {
    rule := hl4
    tempBan := hl4
    geo := hpadded
    trusted := hpadded
    ruleApart := headersApart_l4Key
    tempBanApart := headersApart_l4Key
    ruleLonger := fun _ _ => longerFirst_of_prefixLen fun _ => rfl
    tempBanLonger := fun _ _ => longerFirst_of_prefixLen fun _ => rfl
    geoLonger := longerFirst_of_prefixLen fun _ => rfl
    trustedLonger := longerFirst_of_prefixLen fun _ => rfl }

/-- A UDP packet from 203.0.113.7 to port 53. -/
def udpFrame : Frame :=
  List.replicate 12 0 ++ [0x08, 0x00] ++
    [0x45, 0, 0, 28, 0, 0, 0, 0, 64, 17, 0, 0, 203, 0, 113, 7, 198, 51, 100, 1] ++
    [0x30, 0x39, 0, 53, 0, 8, 0, 0]

theorem keysAgree_of_parseFrame_udp :
    parseFrame udpFrame = .packet
        { family := 4
          proto := 17
          dport := toBe 53
          src := addrBytes (.v4 0xCB007107) } ∧
      KeysAgree
        { family := 4
          proto := 17
          dport := toBe 53
          src := addrBytes (.v4 0xCB007107) } (sourceAddr udpFrame) := by
  have hparse : parseFrame udpFrame = .packet
      { family := 4
        proto := 17
        dport := toBe 53
        src := addrBytes (.v4 0xCB007107) } := by
    rfl
  exact ⟨hparse, keysAgree_of_parseFrame hparse⟩

end Bpf
end XdpFirewall
