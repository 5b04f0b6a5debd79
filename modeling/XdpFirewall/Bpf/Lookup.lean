import XdpFirewall.DataPlane.Maps

/-!
# Lookup — the map lookups of the packet filter

Rules, temporary bans and custom limits are looked up in four classes, from the packet's own
protocol and port to any protocol and any port. Rules and limits take the first class that has
an entry; a ban in any class counts.
-/

namespace XdpFirewall
namespace Bpf

open Net Policy Lib DataPlane

/-! ## The filter's functions -/

def fullPrefixLen (family : U8) : Nat :=
  if family = 4 then 64 else 160

/-- `bpf_map_lookup_elem` on an LPM map. A pointer to a value is modelled by its entry. -/
def lookupElem {α V : Type} [Pod α] (trie : LpmTrie α V) (key : LpmKey α) :
    Option (LpmKey α × V) :=
  trie.longest? key.bits

/-- The key that `lookup_rule` and `temp_ban_active` fill in for one class. -/
def packetKey (family proto : U8) (dport : U16) (addr : AddrBytes) : LpmKey L4Data where
  prefixLen := fullPrefixLen family
  data :=
    { family := family
      proto := proto
      dport := dport
      addr := addr }

/-- The key that `lookup_geo` and `lookup_trusted` fill in. -/
def packetPaddedKey (family : U8) (addr : AddrBytes) : LpmKey PaddedData where
  prefixLen := fullPrefixLen family
  data :=
    { family := family
      pad := Vector.replicate 3 0
      addr := addr }

def lookupRule (maps : PolicyMaps) (family proto : U8) (dport : U16) (addr : AddrBytes) :
    Option (RuleKey × RuleValue) :=
  lookupElem maps.ruleCidrs (packetKey family proto dport addr) <|>
    lookupElem maps.ruleCidrs (packetKey family proto 0 addr) <|>
    lookupElem maps.ruleCidrs (packetKey family protoAny dport addr) <|>
    lookupElem maps.ruleCidrs (packetKey family protoAny 0 addr)

def lookupGeo (maps : PolicyMaps) (family : U8) (addr : AddrBytes) : Option (GeoKey × GeoValue) :=
  lookupElem maps.geoCidrs (packetPaddedKey family addr)

def lookupTrusted (maps : PolicyMaps) (family : U8) (addr : AddrBytes) :
    Option (TrustedKey × TrustedValue) :=
  lookupElem maps.trustedCidrs (packetPaddedKey family addr)

def tempBanValueActive (value : Option (TempBanKey × TempBanValue)) (now : U64) : Bool :=
  match value with
  | none => false
  | some entry => now < entry.2.expiresAtNs

/-- `now` is the clock reading after which the four lookups are made. -/
def tempBanActive (maps : PolicyMaps) (family proto : U8) (dport : U16) (addr : AddrBytes)
    (now : U64) : Bool :=
  tempBanValueActive (lookupElem maps.tempBans (packetKey family proto dport addr)) now ||
    tempBanValueActive (lookupElem maps.tempBans (packetKey family proto 0 addr)) now ||
    tempBanValueActive (lookupElem maps.tempBans (packetKey family protoAny dport addr)) now ||
    tempBanValueActive (lookupElem maps.tempBans (packetKey family protoAny 0 addr)) now

/-- A limit with the protocol and port of the key it was found under. -/
structure MatchedRate where
  proto : U8
  dport : U16
  limit : CustomRateValue
  deriving DecidableEq

def lookupCustomRateElem (maps : PolicyMaps) (proto : U8) (dport : U16) : Option MatchedRate :=
  (maps.customRateLimits.get? { proto := proto, pad := 0, dport := dport }).map fun entry =>
    { proto := proto
      dport := dport
      limit := entry.2 }

def lookupCustomRate (maps : PolicyMaps) (proto : U8) (dport : U16) : Option MatchedRate :=
  lookupCustomRateElem maps proto dport <|>
    lookupCustomRateElem maps proto 0 <|>
    lookupCustomRateElem maps protoAny dport <|>
    lookupCustomRateElem maps protoAny 0

/-! ## Classes -/

/-- The protocols and ports that are tried for a packet, in this order. -/
def classes (proto : U8) (dport : U16) : List (U8 × U16) :=
  [(proto, dport), (proto, 0), (protoAny, dport), (protoAny, 0)]

theorem lookupRule_eq_findSome? (maps : PolicyMaps) (family proto : U8) (dport : U16)
    (addr : AddrBytes) :
    lookupRule maps family proto dport addr =
      (classes proto dport).findSome? fun c =>
        lookupElem maps.ruleCidrs (packetKey family c.1 c.2 addr) := by
  simp only [lookupRule, classes, List.findSome?_cons, List.findSome?_nil]
  cases lookupElem maps.ruleCidrs (packetKey family proto dport addr) <;>
    cases lookupElem maps.ruleCidrs (packetKey family proto 0 addr) <;>
    cases lookupElem maps.ruleCidrs (packetKey family protoAny dport addr) <;>
    cases lookupElem maps.ruleCidrs (packetKey family protoAny 0 addr) <;> rfl

theorem tempBanActive_eq_any (maps : PolicyMaps) (family proto : U8) (dport : U16)
    (addr : AddrBytes) (now : U64) :
    tempBanActive maps family proto dport addr now =
      (classes proto dport).any fun c =>
        tempBanValueActive (lookupElem maps.tempBans (packetKey family c.1 c.2 addr)) now := by
  simp [tempBanActive, classes, Bool.or_assoc]

theorem lookupCustomRate_eq_findSome? (maps : PolicyMaps) (proto : U8) (dport : U16) :
    lookupCustomRate maps proto dport =
      (classes proto dport).findSome? fun c => lookupCustomRateElem maps c.1 c.2 := by
  simp only [lookupCustomRate, classes, List.findSome?_cons, List.findSome?_nil]
  cases lookupCustomRateElem maps proto dport <;>
    cases lookupCustomRateElem maps proto 0 <;>
    cases lookupCustomRateElem maps protoAny dport <;>
    cases lookupCustomRateElem maps protoAny 0 <;> rfl

/-- A class holds the entries of one protocol and port that a packet is looked up in. -/
theorem mem_classes_iff {proto : U8} {dport : U16} {c : U8 × U16} :
    c ∈ classes proto dport ↔
      (c.1 = proto ∨ c.1 = protoAny) ∧ (c.2 = dport ∨ c.2 = 0) := by
  obtain ⟨p, d⟩ := c
  simp only [classes, List.mem_cons, Prod.mk.injEq, List.not_mem_nil, or_false]
  tauto

/-! ## Encoded keys and packets -/

theorem fullPrefixLen_family (src : IpAddr) :
    fullPrefixLen (family src) = lpmPrefixLen src.bits.length := by
  cases src with
  | v4 ip => simp [family, IpAddr.isIpv4, fullPrefixLen, lpmPrefixLen, IpAddr.bits]
  | v6 ip => simp [family, IpAddr.isIpv4, fullPrefixLen, lpmPrefixLen, IpAddr.bits]

theorem bits_packetKey (src : IpAddr) (proto : U8) (dport : U16) :
    (packetKey (family src) proto dport (addrBytes src)).bits =
      l4Header (family src) proto dport ++ src.bits := by
  rw [packetKey, fullPrefixLen_family, bits_l4 _ _ _ _ le_rfl, List.take_length]

theorem bits_packetPaddedKey (src : IpAddr) :
    (packetPaddedKey (family src) (addrBytes src)).bits =
      paddedHeader (family src) (Vector.replicate 3 0) ++ src.bits := by
  rw [packetPaddedKey, fullPrefixLen_family, bits_padded _ _ _ le_rfl, List.take_length]

/-- A key of user space matches a packet in one class exactly when it was made for the protocol
and the port of the class and its network contains the source. -/
theorem l4Key_matches_iff {net : Network} {protocol : L4Protocol} {port : U16} {src : IpAddr}
    {proto : U8} {dport : U16} :
    (l4Key net.addr net.prefixLen protocol port).bits <+:
        (packetKey (family src) proto dport (addrBytes src)).bits ↔
      protoCode protocol = proto ∧ toBe port = dport ∧ net.Contains src := by
  rw [bits_l4Key, bits_packetKey, l4Header, l4Header, header_append_prefix_iff]
  constructor
  · rintro ⟨hhead, hword⟩
    obtain ⟨hfam, hproto, hdport⟩ := l4Header_injective hhead
    exact ⟨hproto, hdport, family_eq_iff.mp hfam, hword⟩
  · rintro ⟨rfl, rfl, hfam, hword⟩
    exact ⟨by rw [family_eq_iff.mpr hfam], hword⟩

theorem paddedKey_matches_iff {net : Network} {src : IpAddr} :
    (paddedKey net.addr net.prefixLen).bits <+:
        (packetPaddedKey (family src) (addrBytes src)).bits ↔ net.Contains src := by
  rw [bits_paddedKey, bits_packetPaddedKey, paddedHeader, paddedHeader, header_append_prefix_iff]
  constructor
  · rintro ⟨hhead, hword⟩
    have hbytes := header_injective (by simp) (by simp) hhead
    simp only [List.cons.injEq] at hbytes
    exact ⟨family_eq_iff.mp hbytes.1, hword⟩
  · rintro ⟨hfam, hword⟩
    exact ⟨by rw [family_eq_iff.mpr hfam], hword⟩

theorem length_bits_l4Key (net : Network) (protocol : L4Protocol) (port : U16) :
    (l4Key net.addr net.prefixLen protocol port).bits.length = lpmPrefixLen net.prefixLen := by
  simp [LpmKey.bits, l4Key]

/-! ## Selection of packets -/

/-- A network, a protocol and a port select the packet: the network contains the source, the
protocol is any or the packet's, and the port is unset or the packet's. -/
def Selects (net : Network) (protocol : L4Protocol) (port : U16) (proto : U8) (dport : U16)
    (src : IpAddr) : Prop :=
  net.Contains src ∧ (protocol = .any ∨ protoCode protocol = proto) ∧
    (port = 0 ∨ toBe port = dport)

instance (net : Network) (protocol : L4Protocol) (port : U16) (proto : U8) (dport : U16)
    (src : IpAddr) : Decidable (Selects net protocol port proto dport src) :=
  inferInstanceAs (Decidable (_ ∧ _))

section Selects

variable {net : Network} {protocol : L4Protocol} {port dport : U16} {proto : U8} {src : IpAddr}

theorem selects_iff_codes :
    Selects net protocol port proto dport src ↔
      net.Contains src ∧ (protoCode protocol = protoAny ∨ protoCode protocol = proto) ∧
        (toBe port = 0 ∨ toBe port = dport) := by
  have hany : protocol = .any ↔ protoCode protocol = protoAny :=
    ⟨fun h => congrArg protoCode h, fun h => protoCode_injective h⟩
  have hzero : port = 0 ↔ toBe port = 0 :=
    ⟨fun h => congrArg toBe h, fun h => toBe_injective h⟩
  rw [Selects, hany, hzero]

/-- What selects a packet is found in one of the packet's classes. -/
theorem selects_iff_exists_class :
    Selects net protocol port proto dport src ↔
      ∃ c ∈ classes proto dport, protoCode protocol = c.1 ∧ toBe port = c.2 ∧
        net.Contains src := by
  rw [selects_iff_codes]
  constructor
  · rintro ⟨hnet, hproto, hport⟩
    exact ⟨(protoCode protocol, toBe port),
      mem_classes_iff.mpr ⟨hproto.symm, hport.symm⟩, rfl, rfl, hnet⟩
  · rintro ⟨c, hc, hproto, hport, hnet⟩
    obtain ⟨hp, hd⟩ := mem_classes_iff.mp hc
    rw [← hproto] at hp
    rw [← hport] at hd
    exact ⟨hnet, hp.symm, hd.symm⟩

end Selects

end Bpf
end XdpFirewall
