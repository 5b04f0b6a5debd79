import XdpFirewall.Bpf.ParsePacket

/-!
# HeaderWalk — how far the walk over IPv6 extension headers gets

The headers of a frame are given as a relation on its bytes, whatever their number and order. The
walk stops after eight of them and after the first fragment header, so it comes to the transport
header of the chains that are over by then.
-/

namespace XdpFirewall
namespace Bpf

open Net Policy DataPlane

/-! ## Chains of headers -/

/-- The length of an extension header that carries one. -/
def extensionLen (data : Frame) (cursor : Nat) : Nat :=
  ((byteAt data (cursor + 1)).toNat + 1) * 8

/-- The offset of a fragment, in units of eight bytes: 13 bits in network order. -/
def ipv6FragmentOffset (data : Frame) (cursor : Nat) : Nat :=
  (byteAt data (cursor + 2)).toNat * 32 + (byteAt data (cursor + 3)).toNat / 8

/-- The extension headers that carry their length. -/
def SizedExtension (proto : U8) : Prop :=
  proto = ipv6HopByHop ∨ proto = ipv6Routing ∨ proto = ipv6Destination

/-- The extension headers from one place of a frame to another, with the protocol that is
announced at each of both places. Fragment headers are those of first fragments. -/
inductive ExtensionChain (data : Frame) : Nat → U8 → List U8 → Nat → U8 → Prop
  | done (cursor : Nat) (proto : U8) : ExtensionChain data cursor proto [] cursor proto
  | sized {cursor stop : Nat} {proto upper : U8} {kinds : List U8} (hkind : SizedExtension proto)
      (hfits : cursor + extensionLen data cursor ≤ data.length)
      (rest : ExtensionChain data (cursor + extensionLen data cursor) (byteAt data cursor) kinds
        stop upper) :
      ExtensionChain data cursor proto (proto :: kinds) stop upper
  | fragment {cursor stop : Nat} {upper : U8} {kinds : List U8}
      (hfits : cursor + 8 ≤ data.length) (hfirst : ipv6FragmentOffset data cursor = 0)
      (rest : ExtensionChain data (cursor + 8) (byteAt data cursor) kinds stop upper) :
      ExtensionChain data cursor ipv6Fragment (ipv6Fragment :: kinds) stop upper

/-- A fragment header has no extension header after it. -/
def FragmentLast : List U8 → Prop
  | [] => True
  | kind :: kinds => (kind = ipv6Fragment → kinds = []) ∧ FragmentLast kinds

/-- A TCP or UDP header that is in bounds. -/
def UpperHeader (data : Frame) (cursor : Nat) (proto : U8) : Prop :=
  (proto = protoTcp ∧ cursor + 20 ≤ data.length) ∨ (proto = protoUdp ∧ cursor + 8 ≤ data.length)

/-- An IPv6 frame with these extension headers and then a TCP or UDP header at `cursor`. -/
structure Ipv6Chain (data : Frame) (kinds : List U8) (cursor : Nat) (proto : U8) : Prop where
  etherType : load16 data 12 = toBe etherTypeIpv6
  header : 54 ≤ data.length
  chain : ExtensionChain data 54 (byteAt data 20) kinds cursor proto
  upper : UpperHeader data cursor proto

/-- The packet that is decided has this protocol and the destination port of its header. -/
def FindsUpper (data : Frame) (cursor : Nat) (proto : U8) : Prop :=
  ∃ packet, parseFrame data = .packet packet ∧ packet.proto = proto ∧
    packet.dport = load16 data (cursor + 2)

/-! ## The walk -/

section Walk

variable {data : Frame} {cursor stop fuel : Nat} {proto upper : U8} {kinds : List U8}

theorem SizedExtension.isExtension (h : SizedExtension proto) : ipv6ExtensionHeader proto = true := by
  rcases h with rfl | rfl | rfl <;> rfl

theorem SizedExtension.ne_fragment (h : SizedExtension proto) : proto ≠ ipv6Fragment := by
  rcases h with rfl | rfl | rfl <;> decide

theorem skip_of_upper (hupper : ipv6ExtensionHeader proto = false) :
    skipIpv6Extensions data fuel cursor proto = (some cursor, proto) := by
  cases fuel with
  | zero => rfl
  | succ fuel =>
      rw [skipIpv6Extensions, hupper]
      rfl

theorem skip_sized (hkind : SizedExtension proto)
    (hfits : cursor + extensionLen data cursor ≤ data.length) :
    skipIpv6Extensions data (fuel + 1) cursor proto =
      skipIpv6Extensions data fuel (cursor + extensionLen data cursor) (byteAt data cursor) := by
  have hshort : ¬ data.length < cursor + 2 := by
    rw [extensionLen] at hfits
    omega
  have hin : ¬ data.length < cursor + ((byteAt data (cursor + 1)).toNat + 1) * 8 :=
    Nat.not_lt.mpr hfits
  rw [skipIpv6Extensions, hkind.isExtension, if_neg (by decide), if_neg hkind.ne_fragment,
    if_neg hshort]
  exact if_neg hin

theorem skip_fragment (hfits : cursor + 8 ≤ data.length) :
    skipIpv6Extensions data (fuel + 1) cursor ipv6Fragment =
      (some (cursor + 8), byteAt data cursor) := by
  rw [skipIpv6Extensions, if_neg (by decide), if_pos rfl, if_neg (Nat.not_lt.mpr hfits)]

/-- The protocol that a chain announces first is that of its first extension header. -/
theorem ExtensionChain.isExtension {kind : U8}
    (h : ExtensionChain data cursor proto (kind :: kinds) stop upper) :
    ipv6ExtensionHeader proto = true := by
  cases h with
  | sized hkind => exact hkind.isExtension
  | fragment => rfl

theorem ExtensionChain.eq_of_nil (h : ExtensionChain data cursor proto [] stop upper) :
    cursor = stop ∧ proto = upper := by
  cases h
  exact ⟨rfl, rfl⟩

/-- The walk comes to the end of chains that are short enough and go on after no fragment
header. -/
theorem skip_of_chain (h : ExtensionChain data cursor proto kinds stop upper)
    (hupper : ipv6ExtensionHeader upper = false) (hshort : kinds.length ≤ fuel)
    (hlast : FragmentLast kinds) :
    skipIpv6Extensions data fuel cursor proto = (some stop, upper) := by
  induction h generalizing fuel with
  | done => exact skip_of_upper hupper
  | sized hkind hfits _ ih =>
      obtain ⟨fuel, rfl⟩ := Nat.exists_eq_add_of_le' hshort
      rw [List.length_cons, ← Nat.add_assoc, skip_sized hkind hfits]
      exact ih hupper (Nat.le_add_left _ _) hlast.2
  | fragment hfits _ rest =>
      obtain ⟨fuel, rfl⟩ := Nat.exists_eq_add_of_le' hshort
      -- Nothing but the transport header follows.
      obtain rfl := hlast.1 rfl
      obtain ⟨rfl, hupper⟩ := rest.eq_of_nil
      rw [List.length_cons, ← Nat.add_assoc, skip_fragment hfits, hupper]

/-- On all other chains it stops at an extension header. -/
theorem skip_short (h : ExtensionChain data cursor proto kinds stop upper)
    (hleft : ¬ (kinds.length ≤ fuel ∧ FragmentLast kinds)) :
    ∃ cursor' proto', skipIpv6Extensions data fuel cursor proto = (some cursor', proto') ∧
      ipv6ExtensionHeader proto' = true := by
  induction h generalizing fuel with
  | done => exact absurd ⟨Nat.zero_le _, trivial⟩ hleft
  | @sized cursor _ proto _ kinds hkind hfits rest ih =>
      cases fuel with
      | zero => exact ⟨cursor, proto, rfl, hkind.isExtension⟩
      | succ fuel =>
          rw [skip_sized hkind hfits]
          refine ih fun hends => hleft ⟨Nat.succ_le_succ hends.1, ?_, hends.2⟩
          exact fun hfragment => absurd hfragment hkind.ne_fragment
  | @fragment cursor _ _ kinds hfits _ rest ih =>
      cases fuel with
      | zero => exact ⟨cursor, ipv6Fragment, rfl, rfl⟩
      | succ fuel =>
          refine ⟨cursor + 8, byteAt data cursor, skip_fragment hfits, ?_⟩
          cases kinds with
          | nil => exact absurd ⟨Nat.le_add_left _ _, fun _ => rfl, trivial⟩ hleft
          | cons kind kinds => exact rest.isExtension

end Walk

/-! ## Frames -/

section Frames

variable {data : Frame} {kinds : List U8} {cursor : Nat} {proto : U8}

theorem parseFrame_ipv6 (hether : load16 data 12 = toBe etherTypeIpv6) (hlen : 54 ≤ data.length) :
    parseFrame data =
      match skipIpv6Extensions data 8 54 (byteAt data 20) with
      | (none, proto) => .malformed familyV6 proto (copyAddr familyV6 data 22)
      | (some cursor, proto) =>
          parseTransport data familyV6 proto (copyAddr familyV6 data 22) cursor := by
  have hlong : ¬ data.length < etherHeaderLen := by
    rw [etherHeaderLen]
    omega
  have hheader : ¬ data.length < etherHeaderLen + 40 := Nat.not_lt.mpr hlen
  have hipv4 : ¬ load16 data 12 = toBe etherTypeIp := by
    rw [hether]
    decide
  rw [parseFrame, if_neg hlong, if_neg hipv4, if_pos hether, parseIpv6]
  exact if_neg hheader

theorem UpperHeader.notExtension (h : UpperHeader data cursor proto) :
    ipv6ExtensionHeader proto = false := by
  rcases h with ⟨rfl, -⟩ | ⟨rfl, -⟩ <;> rfl

theorem UpperHeader.loadDport_eq (h : UpperHeader data cursor proto) :
    loadDport data cursor proto = some (load16 data (cursor + 2)) := by
  rcases h with ⟨rfl, hfits⟩ | ⟨rfl, hfits⟩
  · rw [loadDport, if_pos rfl, if_neg (Nat.not_lt.mpr hfits)]
  · rw [loadDport, if_neg (by decide), if_pos rfl, if_neg (Nat.not_lt.mpr hfits)]

/-- The transport header of a frame is found if and only if there are at most eight extension
headers and none of them follows a fragment header. -/
theorem findsUpper_iff (h : Ipv6Chain data kinds cursor proto) :
    FindsUpper data cursor proto ↔ kinds.length ≤ 8 ∧ FragmentLast kinds := by
  have hupper := h.upper.notExtension
  constructor
  · rintro ⟨packet, hparse, hproto, -⟩
    by_contra hleft
    rcases skip_short h.chain hleft with ⟨cursor', proto', hskip, hextension⟩
    rw [parseFrame_ipv6 h.etherType h.header, hskip] at hparse
    -- The protocol of the packet is the one that the walk ended with.
    have hsame : packet.proto = proto' := by
      simp only [parseTransport] at hparse
      split at hparse
      · cases hparse
      · cases hparse
        rfl
    rw [← hsame, hproto, hupper] at hextension
    cases hextension
  · rintro ⟨hshort, hlast⟩
    have hskip := skip_of_chain h.chain hupper hshort hlast
    let packet : Packet :=
      { family := familyV6
        proto := proto
        dport := load16 data (cursor + 2)
        src := copyAddr familyV6 data 22 }
    refine ⟨packet, ?_, rfl, rfl⟩
    rw [parseFrame_ipv6 h.etherType h.header, hskip]
    simp only [parseTransport, h.upper.loadDport_eq, packet]

/-- An IPv6 header between two hosts, with this first extension header. -/
def ipv6Head (next : U8) : Frame :=
  List.replicate 12 0 ++ [0x86, 0xDD, 0x60, 0, 0, 0, 0, 36, next, 64] ++ List.replicate 16 1 ++
    List.replicate 16 2

/-- A TCP header, from port 12345 to port 22. -/
def sshHeader : Frame :=
  [0x30, 0x39, 0, 22] ++ List.replicate 16 0

/-- Destination options, and then a first fragment. -/
def fragmentLastFrame : Frame :=
  ipv6Head 60 ++ [44, 0, 1, 4, 0, 0, 0, 0] ++ [6, 0, 0, 1, 0, 0, 0, 7] ++ sshHeader

theorem chain_fragmentLastFrame : Ipv6Chain fragmentLastFrame [60, 44] 70 6 where
  etherType := by decide
  header := by decide
  chain := by
    refine .sized (Or.inr (Or.inr rfl)) (by decide) ?_
    exact .fragment (by decide) (by decide) (.done 70 6)
  upper := Or.inl ⟨rfl, by decide⟩

theorem findsUpper_fragmentLastFrame : FindsUpper fragmentLastFrame 70 6 := by
  refine (findsUpper_iff chain_fragmentLastFrame).mpr ⟨by decide, ?_⟩
  exact ⟨fun h => absurd h (by decide), fun _ => rfl, trivial⟩

/-- The same headers the other way around. -/
def fragmentFirstFrame : Frame :=
  ipv6Head 44 ++ [60, 0, 0, 1, 0, 0, 0, 7] ++ [6, 0, 1, 4, 0, 0, 0, 0] ++ sshHeader

/-- The packet to port 22 is taken for one of a protocol without ports. -/
theorem fragmentFirstFrame_missed :
    Ipv6Chain fragmentFirstFrame [44, 60] 70 6 ∧
      parseFrame fragmentFirstFrame = .packet
        { family := familyV6
          proto := ipv6Destination
          dport := 0
          src := addrBytes (.v6 0x01010101010101010101010101010101) } ∧
      ¬ FindsUpper fragmentFirstFrame 70 6 := by
  have hparse : parseFrame fragmentFirstFrame = .packet
      { family := familyV6
        proto := ipv6Destination
        dport := 0
        src := addrBytes (.v6 0x01010101010101010101010101010101) } := by
    rfl
  refine ⟨⟨by decide, by decide, ?_, Or.inl ⟨rfl, by decide⟩⟩, hparse, ?_⟩
  · refine .fragment (by decide) (by decide) ?_
    exact .sized (Or.inr (Or.inr rfl)) (by decide) (.done 70 6)
  · rintro ⟨packet, hpacket, hproto, -⟩
    rw [hparse] at hpacket
    cases hpacket
    cases hproto

end Frames

end Bpf
end XdpFirewall
