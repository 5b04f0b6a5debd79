import XdpFirewall.Bpf.HandlePacket

/-!
# ParsePacket — from the bytes of a frame to the packet that is decided

The filter reads the EtherType, the IP header and, for TCP and UDP, the destination port. What is
not IP passes, what is cut short or has an impossible header length is dropped, and everything
else goes to `handle_packet` with the source address of its header.
-/

namespace XdpFirewall
namespace Bpf

open Net Policy DataPlane

/-! ## Loads -/

/-- The bytes between `data` and `data_end`. -/
abbrev Frame := List U8

def byteAt (data : Frame) (offset : Nat) : U8 :=
  data.getD offset 0

/-- A 16-bit load on a little-endian host. -/
def load16 (data : Frame) (offset : Nat) : U16 :=
  byteAt data (offset + 1) ++ byteAt data offset

def familyV4 : U8 := 4
def familyV6 : U8 := 6
def etherHeaderLen : Nat := 14
def etherTypeIp : U16 := 0x0800
def etherTypeIpv6 : U16 := 0x86DD

def ipv6HopByHop : U8 := 0
def ipv6Routing : U8 := 43
def ipv6Fragment : U8 := 44
def ipv6Destination : U8 := 60

/-- Zero the address, then copy the bytes that the family has. -/
def copyAddr (family : U8) (data : Frame) (offset : Nat) : AddrBytes :=
  Vector.ofFn fun j => if family ≠ familyV4 ∨ j.val < 4 then byteAt data (offset + j) else 0

/-! ## Headers -/

def ipv6ExtensionHeader (proto : U8) : Bool :=
  proto = ipv6HopByHop || proto = ipv6Routing || proto = ipv6Fragment || proto = ipv6Destination

/-- The loop over extension headers, `fuel` of them at most: where it ends, unless the frame does
so before, and the protocol that was read last. -/
def skipIpv6Extensions (data : Frame) : Nat → Nat → U8 → Option Nat × U8
  | 0, cursor, proto => (some cursor, proto)
  | fuel + 1, cursor, proto =>
      if !ipv6ExtensionHeader proto then
        (some cursor, proto)
      else if proto = ipv6Fragment then
        if data.length < cursor + 8 then
          (none, proto)
        else
          (some (cursor + 8), byteAt data cursor)
      else if data.length < cursor + 2 then
        (none, proto)
      else
        let len := ((byteAt data (cursor + 1)).toNat + 1) * 8
        if data.length < cursor + len then
          (none, proto)
        else
          skipIpv6Extensions data fuel (cursor + len) (byteAt data cursor)

/-- The destination port of a TCP or UDP header, in network order. -/
def loadDport (data : Frame) (cursor : Nat) (proto : U8) : Option U16 :=
  if proto = protoTcp then
    if data.length < cursor + 20 then none else some (load16 data (cursor + 2))
  else if proto = protoUdp then
    if data.length < cursor + 8 then none else some (load16 data (cursor + 2))
  else
    some 0

/-- What `xdp_firewall` makes of a frame. -/
inductive Parsed
  | notIp
  | malformed (family proto : U8) (src : AddrBytes)
  | packet (packet : Packet)

/-- The transport header, where the packet is complete up to it. -/
def parseTransport (data : Frame) (family proto : U8) (src : AddrBytes) (cursor : Nat) : Parsed :=
  match loadDport data cursor proto with
  | none => .malformed family proto src
  | some dport =>
      .packet
        { family := family
          proto := proto
          dport := dport
          src := src }

def parseIpv4 (data : Frame) : Parsed :=
  let ip := etherHeaderLen
  if data.length < ip + 20 then
    .notIp
  else
    let proto := byteAt data (ip + 9)
    let src := copyAddr familyV4 data (ip + 12)
    let ihl := (byteAt data ip).toNat % 16
    if ihl < 5 then
      .malformed familyV4 proto src
    else
      let cursor := ip + ihl * 4
      if data.length < cursor then
        .malformed familyV4 proto src
      else
        parseTransport data familyV4 proto src cursor

def parseIpv6 (data : Frame) : Parsed :=
  let ip6 := etherHeaderLen
  if data.length < ip6 + 40 then
    .notIp
  else
    let src := copyAddr familyV6 data (ip6 + 8)
    match skipIpv6Extensions data 8 (ip6 + 40) (byteAt data (ip6 + 6)) with
    | (none, proto) => .malformed familyV6 proto src
    | (some cursor, proto) => parseTransport data familyV6 proto src cursor

def parseFrame (data : Frame) : Parsed :=
  if data.length < etherHeaderLen then
    .notIp
  else if load16 data 12 = toBe etherTypeIp then
    parseIpv4 data
  else if load16 data 12 = toBe etherTypeIpv6 then
    parseIpv6 data
  else
    .notIp

def xdpFirewall (env : PacketEnv) (data : Frame) (s : FilterState) : XdpAction × FilterState :=
  match parseFrame data with
  | .notIp => (.pass, s)
  | .malformed family proto src =>
      dropPacket env .parseDrop
        { family := family
          proto := proto
          dport := 0
          src := src }
        { country := 0, action := actionDeny, source := 0 } s
  | .packet packet => handlePacket env packet s

/-! ## The source address -/

/-- The number with these bytes, the most significant one first. -/
def ofOctets : (n : Nat) → (Nat → U8) → BitVec (8 * n)
  | 0, _ => 0
  | n + 1, f => (f 0 ++ ofOctets n fun j => f (j + 1)).cast (by omega)

/-- The source address in the IP header of a frame. -/
def sourceAddr (data : Frame) : IpAddr :=
  if load16 data 12 = toBe etherTypeIp then
    .v4 (ofOctets 4 fun j => byteAt data (etherHeaderLen + 12 + j))
  else
    .v6 (ofOctets 16 fun j => byteAt data (etherHeaderLen + 8 + j))

theorem getMsbD_ofOctets {n : Nat} {f : Nat → U8} {j k : Nat} (hj : j < n) (hk : k < 8) :
    (ofOctets n f).getMsbD (8 * j + k) = (f j).getMsbD k := by
  induction n generalizing f j with
  | zero => omega
  | succ n ih =>
      rw [ofOctets, BitVec.getMsbD_cast, BitVec.getMsbD_append]
      cases j with
      | zero =>
          rw [Nat.mul_zero, Nat.zero_add, if_neg (by omega)]
      | succ j =>
          have hhigh : 8 ≤ 8 * (j + 1) + k := by omega
          have hrest : 8 * (j + 1) + k - 8 = 8 * j + k := by omega
          simp only [hhigh, hrest, if_true]
          exact ih (by omega)

theorem octet_ofOctets {n : Nat} {f : Nat → U8} {j : Nat} (hj : j < n) :
    octet (ofOctets n f) j = f j := by
  apply BitVec.eq_of_getMsbD_eq
  intro k hk
  rw [getMsbD_octet _ (by omega) hk, getMsbD_ofOctets hj hk]

theorem copyAddr_v4 (data : Frame) (offset : Nat) :
    copyAddr familyV4 data offset =
      addrBytes (.v4 (ofOctets 4 fun j => byteAt data (offset + j))) := by
  apply Vector.ext
  intro j hj
  by_cases h4 : j < 4
  · simp [copyAddr, addrBytes, h4, octet_ofOctets]
  · simp [copyAddr, addrBytes, h4]

theorem copyAddr_v6 (data : Frame) (offset : Nat) :
    copyAddr familyV6 data offset =
      addrBytes (.v6 (ofOctets 16 fun j => byteAt data (offset + j))) := by
  have hfamily : familyV6 ≠ familyV4 := by decide
  apply Vector.ext
  intro j hj
  simp [copyAddr, addrBytes, hfamily, octet_ofOctets hj]

/-! ## Packets -/

section Transport

variable {data : Frame} {family proto : U8} {src : AddrBytes} {cursor : Nat} {packet : Packet}

theorem loadDport_of_portless (data : Frame) (cursor : Nat)
    (h : proto ≠ protoTcp ∧ proto ≠ protoUdp) : loadDport data cursor proto = some 0 := by
  rw [loadDport, if_neg h.1, if_neg h.2]

theorem parseTransport_packet_iff :
    parseTransport data family proto src cursor = .packet packet ↔
      ∃ dport, loadDport data cursor proto = some dport ∧
        packet = { family := family, proto := proto, dport := dport, src := src } := by
  rw [parseTransport]
  cases hport : loadDport data cursor proto with
  | none => exact iff_of_false nofun fun ⟨_, h, _⟩ => nomatch h
  | some dport => simp [eq_comm]

theorem dport_of_parseTransport (hportless : packet.proto ≠ protoTcp ∧ packet.proto ≠ protoUdp)
    (h : parseTransport data family proto src cursor = .packet packet) : packet.dport = 0 := by
  rcases parseTransport_packet_iff.mp h with ⟨dport, hload, rfl⟩
  rw [loadDport_of_portless data cursor hportless] at hload
  exact (Option.some.inj hload).symm

end Transport

/-- What a frame is parsed to carries a source address. -/
def Parsed.From (addr : IpAddr) : Parsed → Prop
  | .notIp => True
  | .malformed fam _ src => fam = family addr ∧ src = addrBytes addr
  | .packet decided => decided.family = family addr ∧ decided.src = addrBytes addr

theorem from_parseTransport {addr : IpAddr} (data : Frame) (proto : U8) (cursor : Nat) :
    (parseTransport data (family addr) proto (addrBytes addr) cursor).From addr := by
  rw [parseTransport]
  split <;> exact ⟨rfl, rfl⟩

theorem from_parseIpv4 {data : Frame} (hip : load16 data 12 = toBe etherTypeIp) :
    (parseIpv4 data).From (sourceAddr data) := by
  have hfamily : familyV4 = family (sourceAddr data) := by rw [sourceAddr, if_pos hip]; rfl
  have hsrc : copyAddr familyV4 data (etherHeaderLen + 12) = addrBytes (sourceAddr data) := by
    rw [sourceAddr, if_pos hip, copyAddr_v4]
  simp only [parseIpv4, hsrc]
  split
  · trivial
  · split
    · exact ⟨hfamily, rfl⟩
    · split
      · exact ⟨hfamily, rfl⟩
      · rw [hfamily]
        exact from_parseTransport ..

theorem from_parseIpv6 {data : Frame} (hip : load16 data 12 ≠ toBe etherTypeIp) :
    (parseIpv6 data).From (sourceAddr data) := by
  have hfamily : familyV6 = family (sourceAddr data) := by rw [sourceAddr, if_neg hip]; rfl
  have hsrc : copyAddr familyV6 data (etherHeaderLen + 8) = addrBytes (sourceAddr data) := by
    rw [sourceAddr, if_neg hip, copyAddr_v6]
  simp only [parseIpv6, hsrc]
  split
  · trivial
  · split
    · exact ⟨hfamily, rfl⟩
    · rw [hfamily]
      exact from_parseTransport ..

theorem from_parseFrame (data : Frame) : (parseFrame data).From (sourceAddr data) := by
  rw [parseFrame]
  split
  · trivial
  · split
    · rename_i hip
      exact from_parseIpv4 hip
    · rename_i hip
      split
      · exact from_parseIpv6 hip
      · trivial

/-- Every packet that is decided carries the source address of its frame. -/
theorem source_of_parseFrame {data : Frame} {packet : Packet}
    (h : parseFrame data = .packet packet) :
    packet.family = family (sourceAddr data) ∧ packet.src = addrBytes (sourceAddr data) := by
  have hfrom := from_parseFrame data
  rw [h] at hfrom
  exact hfrom

/-- Packets without ports are looked up with port zero. -/
theorem dport_of_parseFrame {data : Frame} {packet : Packet}
    (hportless : packet.proto ≠ protoTcp ∧ packet.proto ≠ protoUdp)
    (h : parseFrame data = .packet packet) : packet.dport = 0 := by
  rw [parseFrame] at h
  split at h
  · cases h
  · split at h
    · simp only [parseIpv4] at h
      split at h
      · cases h
      · split at h
        · cases h
        · split at h
          · cases h
          · exact dport_of_parseTransport hportless h
    · split at h
      · simp only [parseIpv6] at h
        split at h
        · cases h
        · split at h
          · cases h
          · exact dport_of_parseTransport hportless h
      · cases h

end Bpf
end XdpFirewall
