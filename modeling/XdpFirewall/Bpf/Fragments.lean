import XdpFirewall.Bpf.HeaderWalk

/-!
# Fragments — what is read of a fragment that is not the first

Only the first fragment of a datagram has a transport header. The filter does not look at the
offset of a fragment, so the first bytes of any payload are taken for that header.
-/

namespace XdpFirewall
namespace Bpf

open Net Policy Lib DataPlane

/-! ## Later fragments -/

/-- The offset of an IPv4 fragment, in units of eight bytes: 13 bits in network order. -/
def ipv4FragmentOffset (data : Frame) : Nat :=
  (byteAt data 20).toNat % 32 * 256 + (byteAt data 21).toNat

/-- The headers of a frame that carries a fragment but not the first one, up to its payload: the
extension headers before the fragment header, and the protocol of the datagram. -/
inductive LaterFragment (head : Frame) : List U8 → U8 → Prop
  | ipv4 (etherType : load16 head 12 = toBe etherTypeIp) (words : 5 ≤ (byteAt head 14).toNat % 16)
      (header : head.length = 14 + (byteAt head 14).toNat % 16 * 4)
      (later : 0 < ipv4FragmentOffset head) : LaterFragment head [] (byteAt head 23)
  | ipv6 {cursor : Nat} {kinds : List U8} (etherType : load16 head 12 = toBe etherTypeIpv6)
      (header : 54 ≤ head.length)
      (chain : ExtensionChain head 54 (byteAt head 20) kinds cursor ipv6Fragment)
      (single : ipv6Fragment ∉ kinds) (fragment : head.length = cursor + 8)
      (later : 0 < ipv6FragmentOffset head cursor) : LaterFragment head kinds (byteAt head cursor)

/-- The frame gives one and the same packet whatever its payload says: no byte of it is used, and
the frame is not dropped as malformed. The padding is that of the link. -/
def FragmentSafe (head payload padding : Frame) : Prop :=
  ∃ packet, ∀ bytes : Frame, bytes.length = payload.length →
    parseFrame (head ++ bytes ++ padding) = .packet packet

/-- The bytes that a transport header must have. -/
def transportLen (proto : U8) : Nat :=
  if proto = protoTcp then 20 else if proto = protoUdp then 8 else 0

/-- The protocol has no ports, or the payload ends before the port and the padding is long enough
for the rest of a header. -/
def PortOutside (proto : U8) (payload padding : Frame) : Prop :=
  (proto ≠ protoTcp ∧ proto ≠ protoUdp) ∨
    (payload.length ≤ 2 ∧ transportLen proto ≤ payload.length + padding.length)

/-! ## Reading behind the headers -/

section Loads

variable {head rest : Frame}

theorem byteAt_append (rest : Frame) {i : Nat} (h : i < head.length) :
    byteAt (head ++ rest) i = byteAt head i := by
  rw [byteAt, byteAt, List.getD_eq_getElem?_getD, List.getD_eq_getElem?_getD,
    List.getElem?_append_left h]

theorem byteAt_append_right (rest : Frame) {i : Nat} (h : head.length ≤ i) :
    byteAt (head ++ rest) i = byteAt rest (i - head.length) := by
  rw [byteAt, byteAt, List.getD_eq_getElem?_getD, List.getD_eq_getElem?_getD,
    List.getElem?_append_right h]

theorem load16_append (rest : Frame) {i : Nat} (h : i + 1 < head.length) :
    load16 (head ++ rest) i = load16 head i := by
  rw [load16, load16, byteAt_append rest h, byteAt_append rest (Nat.lt_of_succ_lt h)]

theorem setWidth_load16 (data : Frame) (i : Nat) : (load16 data i).setWidth 8 = byteAt data i := by
  rw [load16, BitVec.setWidth_append]
  simp

theorem copyAddr_append (rest : Frame) (family : U8) {i : Nat} (h : i + 16 ≤ head.length) :
    copyAddr family (head ++ rest) i = copyAddr family head i := by
  apply Vector.ext
  intro j hj
  simp only [copyAddr, Vector.getElem_ofFn]
  rw [byteAt_append rest (by omega)]

theorem extensionLen_append (rest : Frame) {cursor : Nat}
    (h : cursor + extensionLen head cursor ≤ head.length) :
    extensionLen (head ++ rest) cursor = extensionLen head cursor := by
  have hin : cursor + 1 < head.length := by
    rw [extensionLen] at h
    omega
  rw [extensionLen, extensionLen, byteAt_append rest hin]

theorem skip_sized_append (rest : Frame) {cursor fuel : Nat} {proto : U8}
    (hkind : SizedExtension proto) (hfits : cursor + extensionLen head cursor ≤ head.length) :
    skipIpv6Extensions (head ++ rest) (fuel + 1) cursor proto =
      skipIpv6Extensions (head ++ rest) fuel (cursor + extensionLen head cursor)
        (byteAt head cursor) := by
  have hsame := extensionLen_append rest hfits
  have hlen : cursor + extensionLen (head ++ rest) cursor ≤ (head ++ rest).length := by
    rw [hsame, List.length_append]
    omega
  have hin : cursor < head.length := by
    rw [extensionLen] at hfits
    omega
  rw [skip_sized hkind hlen, hsame, byteAt_append rest hin]

/-- Sized extension headers are all walked over. -/
theorem skip_over_sized {cursor stop : Nat} {proto upper : U8} {kinds : List U8} (rest : Frame)
    (h : ExtensionChain head cursor proto kinds stop upper) (hsized : ipv6Fragment ∉ kinds)
    (fuel : Nat) :
    skipIpv6Extensions (head ++ rest) (fuel + kinds.length) cursor proto =
      skipIpv6Extensions (head ++ rest) fuel stop upper := by
  induction h with
  | done => rfl
  | sized hkind hfits _ ih =>
      rw [List.length_cons, ← Nat.add_assoc, skip_sized_append rest hkind hfits]
      exact ih fun hmem => hsized (List.mem_cons_of_mem _ hmem)
  | fragment => exact absurd List.mem_cons_self hsized

/-- With too many of them the walk ends at an extension header. -/
theorem skip_within {cursor stop : Nat} {proto upper : U8} {kinds : List U8}
    (h : ExtensionChain head cursor proto kinds stop upper) (hsized : ipv6Fragment ∉ kinds)
    (hupper : ipv6ExtensionHeader upper = true) {fuel : Nat} (hfuel : fuel ≤ kinds.length) :
    ∃ cursor' proto', ipv6ExtensionHeader proto' = true ∧
      ∀ rest, skipIpv6Extensions (head ++ rest) fuel cursor proto = (some cursor', proto') := by
  induction h generalizing fuel with
  | done cursor proto =>
      obtain rfl := Nat.le_zero.mp hfuel
      exact ⟨cursor, proto, hupper, fun _ => rfl⟩
  | @sized cursor _ proto _ _ hkind hfits _ ih =>
      cases fuel with
      | zero => exact ⟨cursor, proto, hkind.isExtension, fun _ => rfl⟩
      | succ fuel =>
          rcases ih (fun hmem => hsized (List.mem_cons_of_mem _ hmem)) hupper
            (Nat.le_of_succ_le_succ hfuel) with ⟨cursor', proto', hextension, hskip⟩
          refine ⟨cursor', proto', hextension, fun rest => ?_⟩
          rw [skip_sized_append rest hkind hfits]
          exact hskip rest
  | fragment => exact absurd List.mem_cons_self hsized

end Loads

/-! ## Reading behind the headers -/

section Transport

variable {head payload padding : Frame} {proto family : U8} {src : AddrBytes}

/-- The packet that is read when the transport header is looked for right behind `head`. -/
def ReadsOnePacket (head payload padding : Frame) (family proto : U8) (src : AddrBytes) : Prop :=
  ∃ packet, ∀ bytes : Frame, bytes.length = payload.length →
    parseTransport (head ++ bytes ++ padding) family proto src head.length = .packet packet

/-- A destination port is read exactly when a whole header is there. -/
theorem loadDport_of_port (data : Frame) (cursor : Nat)
    (h : ¬ (proto ≠ protoTcp ∧ proto ≠ protoUdp)) :
    loadDport data cursor proto =
      if cursor + transportLen proto ≤ data.length then
        some (load16 data (cursor + 2))
      else
        none := by
  have hflip (stop : Nat) (port : U16) :
      (if data.length < stop then none else some port) =
        if stop ≤ data.length then some port else none := by
    by_cases hfits : stop ≤ data.length
    · rw [if_pos hfits, if_neg (Nat.not_lt.mpr hfits)]
    · rw [if_neg hfits, if_pos (Nat.not_le.mp hfits)]
  by_cases htcp : proto = protoTcp
  · rw [loadDport, if_pos htcp, transportLen, if_pos htcp, hflip]
  · have hudp : proto = protoUdp := by
      by_contra hother
      exact h ⟨htcp, hother⟩
    rw [loadDport, if_neg htcp, if_pos hudp, transportLen, if_neg htcp, if_pos hudp, hflip]

/-- The port lies in the payload when that has three bytes or more, and in the padding otherwise. -/
theorem readsOnePacket_iff :
    ReadsOnePacket head payload padding family proto src ↔
      PortOutside proto payload padding := by
  by_cases hnone : proto ≠ protoTcp ∧ proto ≠ protoUdp
  · refine iff_of_true ⟨_, fun bytes _ => parseTransport_packet_iff.mpr ⟨0, ?_, rfl⟩⟩ (Or.inl hnone)
    exact loadDport_of_portless _ _ hnone
  · rw [PortOutside, or_iff_right hnone]
    constructor
    · rintro ⟨packet, hpacket⟩
      have hport (bytes : Frame) (hlen : bytes.length = payload.length) :
          head.length + transportLen proto ≤ (head ++ bytes ++ padding).length ∧
            packet.dport = load16 (head ++ bytes ++ padding) (head.length + 2) := by
        rcases parseTransport_packet_iff.mp (hpacket bytes hlen) with ⟨dport, hload, rfl⟩
        rw [loadDport_of_port _ _ hnone] at hload
        split at hload
        · rename_i hfits
          exact ⟨hfits, (Option.some.inj hload).symm⟩
        · cases hload
      refine ⟨?_, ?_⟩
      · by_contra hlong
        -- Payloads of zeros and of ones would be read as different ports.
        have hdport (byte : U8) :
            byteAt (head ++ List.replicate payload.length byte ++ padding) (head.length + 2) =
              byte := by
          have hin : 2 < payload.length := Nat.not_le.mp hlong
          have hsub : head.length + 2 - head.length = 2 := by omega
          rw [List.append_assoc, byteAt_append_right _ (by omega), hsub,
            byteAt_append _ (by rw [List.length_replicate]; exact hin)]
          simp [byteAt, List.getD_eq_getElem?_getD, hin]
        have hzero := (hport (List.replicate payload.length 0) List.length_replicate).2
        have hone := (hport (List.replicate payload.length 1) List.length_replicate).2
        have hlow := congrArg (BitVec.setWidth 8) (hzero.symm.trans hone)
        rw [setWidth_load16, setWidth_load16, hdport 0, hdport 1] at hlow
        exact absurd hlow (by decide)
      · have hfits := (hport payload rfl).1
        simp only [List.length_append] at hfits
        omega
    · rintro ⟨hshort, hfits⟩
      have hport (bytes : Frame) (hlen : bytes.length = payload.length) :
          load16 (head ++ bytes ++ padding) (head.length + 2) =
            load16 padding (2 - payload.length) := by
        have hbehind (i : Nat) (hi : 2 ≤ i) :
            byteAt (head ++ bytes ++ padding) (head.length + i) =
              byteAt padding (i - payload.length) := by
          rw [byteAt_append_right _ (by rw [List.length_append]; omega), List.length_append, hlen]
          congr 1
          omega
        have hnext : 2 - payload.length + 1 = 3 - payload.length := by omega
        rw [load16, load16, hbehind 2 (by omega), Nat.add_assoc, hbehind 3 (by omega), hnext]
      refine ⟨_, fun bytes hlen => parseTransport_packet_iff.mpr
        ⟨load16 padding (2 - payload.length), ?_, rfl⟩⟩
      rw [loadDport_of_port _ _ hnone, if_pos ?_, hport bytes hlen]
      simp only [List.length_append]
      omega

end Transport

/-! ## Frames -/

section Frames

variable {head payload padding : Frame} {kinds : List U8} {proto : U8}

theorem parseFrame_ipv4 (rest : Frame) (hether : load16 head 12 = toBe etherTypeIp)
    (hwords : 5 ≤ (byteAt head 14).toNat % 16)
    (hheader : head.length = 14 + (byteAt head 14).toNat % 16 * 4) :
    parseFrame (head ++ rest) =
      parseTransport (head ++ rest) familyV4 (byteAt head 23) (copyAddr familyV4 head 26)
        head.length := by
  have hlen : (head ++ rest).length = head.length + rest.length := List.length_append
  have hlong : ¬ (head ++ rest).length < etherHeaderLen := by
    rw [etherHeaderLen]
    omega
  have hmin : ¬ (head ++ rest).length < etherHeaderLen + 20 := by
    rw [etherHeaderLen]
    omega
  have hether' : load16 (head ++ rest) 12 = toBe etherTypeIp := by
    rw [load16_append rest (by omega), hether]
  have hbyte (i : Nat) (hi : i < 34) : byteAt (head ++ rest) i = byteAt head i :=
    byteAt_append rest (by omega)
  have hsrc : copyAddr familyV4 (head ++ rest) 26 = copyAddr familyV4 head 26 := by
    apply Vector.ext
    intro j hj
    simp only [copyAddr, Vector.getElem_ofFn]
    by_cases hj4 : j < 4
    · rw [hbyte (26 + j) (by omega)]
    · simp [hj4]
  have hwords' : ¬ (byteAt (head ++ rest) etherHeaderLen).toNat % 16 < 5 := by
    rw [hbyte etherHeaderLen (by decide)]
    exact Nat.not_lt.mpr hwords
  have hcursor : etherHeaderLen + (byteAt (head ++ rest) etherHeaderLen).toNat % 16 * 4 =
      head.length := by
    rw [hbyte etherHeaderLen (by decide), hheader]
    rfl
  have hin : ¬ (head ++ rest).length < head.length := by omega
  rw [parseFrame, if_neg hlong, if_pos hether', parseIpv4]
  dsimp only
  rw [if_neg hmin, if_neg hwords', hcursor, if_neg hin, hbyte (etherHeaderLen + 9) (by decide)]
  exact congrArg (fun src => parseTransport (head ++ rest) familyV4 (byteAt head 23) src head.length)
    hsrc

theorem parseFrame_ipv6_append (rest : Frame) (hether : load16 head 12 = toBe etherTypeIpv6)
    (hheader : 54 ≤ head.length) :
    parseFrame (head ++ rest) =
      match skipIpv6Extensions (head ++ rest) 8 54 (byteAt head 20) with
      | (none, proto) => .malformed familyV6 proto (copyAddr familyV6 head 22)
      | (some cursor, proto) =>
          parseTransport (head ++ rest) familyV6 proto (copyAddr familyV6 head 22) cursor := by
  have hether' : load16 (head ++ rest) 12 = toBe etherTypeIpv6 := by
    rw [load16_append rest (by omega), hether]
  have hlen : 54 ≤ (head ++ rest).length := by
    rw [List.length_append]
    omega
  have hparse := parseFrame_ipv6 hether' hlen
  rw [byteAt_append rest (by omega), copyAddr_append rest familyV6 (by omega)] at hparse
  exact hparse

/-- A later fragment is not misread exactly when the walk ends before its fragment header, its
protocol has no ports, or it is too short to reach the port and padded. -/
theorem fragmentSafe_iff (h : LaterFragment head kinds proto) (payload padding : Frame) :
    FragmentSafe head payload padding ↔
      8 ≤ kinds.length ∨ PortOutside proto payload padding := by
  cases h with
  | ipv4 hether hwords hheader _ =>
      have hread : ReadsOnePacket head payload padding familyV4 (byteAt head 23)
          (copyAddr familyV4 head 26) ↔ _ := readsOnePacket_iff
      rw [or_iff_right (by decide : ¬ 8 ≤ ([] : List U8).length), FragmentSafe, ← hread]
      simp only [ReadsOnePacket, List.append_assoc, parseFrame_ipv4 _ hether hwords hheader]
  | @ipv6 cursor _ hether hheader hchain hsingle hfragment _ =>
      by_cases hmany : 8 ≤ kinds.length
      · refine iff_of_true ?_ (Or.inl hmany)
        rcases skip_within hchain hsingle rfl hmany with ⟨stop, upper, hextension, hskip⟩
        have hportless : upper ≠ protoTcp ∧ upper ≠ protoUdp := by
          refine ⟨?_, ?_⟩
          all_goals
            rintro rfl
            cases hextension
        let packet : Packet :=
          { family := familyV6
            proto := upper
            dport := 0
            src := copyAddr familyV6 head 22 }
        refine ⟨packet, fun bytes _ => ?_⟩
        rw [List.append_assoc, parseFrame_ipv6_append _ hether hheader, hskip]
        exact parseTransport_packet_iff.mpr ⟨0, loadDport_of_portless _ _ hportless, rfl⟩
      · have hread : ReadsOnePacket head payload padding familyV6 (byteAt head cursor)
            (copyAddr familyV6 head 22) ↔ _ := readsOnePacket_iff
        rw [or_iff_right hmany, FragmentSafe, ← hread]
        -- The walk is over behind the fragment header, where the payload begins.
        have hskip (rest : Frame) : skipIpv6Extensions (head ++ rest) 8 54 (byteAt head 20) =
            (some head.length, byteAt head cursor) := by
          have hfuel : 8 = (8 - kinds.length - 1 + 1) + kinds.length := by omega
          rw [hfuel, skip_over_sized rest hchain hsingle, skip_fragment, byteAt_append rest,
            hfragment]
          · omega
          · rw [List.length_append]
            omega
        simp only [ReadsOnePacket, List.append_assoc, parseFrame_ipv6_append _ hether hheader, hskip]

/-- The headers of a fragment of a datagram from 203.0.113.7, 1480 bytes into it. -/
def laterHead (proto : U8) : Frame :=
  List.replicate 12 0 ++ [0x08, 0x00] ++
    [0x45, 0, 0, 24, 0, 1, 0, 185, 64, proto, 0, 0, 203, 0, 113, 7, 198, 51, 100, 1]

theorem laterFragment_icmp : LaterFragment (laterHead protoIcmp) [] protoIcmp :=
  .ipv4 (by decide) (by decide) (by decide) (by decide)

theorem fragmentSafe_icmp : FragmentSafe (laterHead protoIcmp) [1, 2, 3, 4] [] := by
  refine (fragmentSafe_iff laterFragment_icmp [1, 2, 3, 4] []).mpr (Or.inr (Or.inl ?_))
  decide

theorem laterFragment_udp : LaterFragment (laterHead protoUdp) [] protoUdp :=
  .ipv4 (by decide) (by decide) (by decide) (by decide)

/-- The last four bytes of a UDP datagram are too short for a UDP header and dropped, whatever the
maps say about the source; with eight bytes, two of them are taken for the port. -/
theorem udp_fragment_misread :
    LaterFragment (laterHead protoUdp) [] protoUdp ∧
      ¬ FragmentSafe (laterHead protoUdp) [1, 2, 3, 4] [] ∧
      (∀ env s, (xdpFirewall env (laterHead protoUdp ++ [1, 2, 3, 4]) s).1 = .drop) ∧
      parseFrame (laterHead protoUdp ++ [1, 2, 0, 53, 5, 6, 7, 8]) = .packet
        { family := familyV4
          proto := protoUdp
          dport := toBe 53
          src := addrBytes (.v4 0xCB007107) } := by
  have hmalformed : parseFrame (laterHead protoUdp ++ [1, 2, 3, 4]) =
      .malformed familyV4 protoUdp (addrBytes (.v4 0xCB007107)) := by
    rfl
  refine ⟨laterFragment_udp, ?_, fun env s => ?_, rfl⟩
  · rintro ⟨packet, hpacket⟩
    have hfour := hpacket [1, 2, 3, 4] rfl
    rw [List.append_nil, hmalformed] at hfour
    cases hfour
  · rw [xdpFirewall, hmalformed]
    rfl

end Frames

end Bpf
end XdpFirewall
