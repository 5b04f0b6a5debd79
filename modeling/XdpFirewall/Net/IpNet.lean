import Mathlib.Algebra.Group.Int.Defs
import Mathlib.Algebra.Group.Nat.Defs
import Mathlib.Data.List.Basic

/-!
# IpNet — addresses and CIDR networks

Addresses are bit vectors, networks an address with a prefix length. The operations are those of
the `ipnet` crate on which the policy compiler and the local filters rely: `network`,
`broadcast`, `trunc`, `contains`. Each is then described by the leading bits of the address,
the form in which the kernel compares keys.
-/

namespace XdpFirewall
namespace Net

/-! ## Bits, most significant first -/

def bits {w : Nat} (x : BitVec w) : List Bool :=
  (List.range w).map x.getMsbD

@[simp] theorem length_bits {w : Nat} (x : BitVec w) : (bits x).length = w := by
  simp [bits]

theorem getElem?_bits {w : Nat} (x : BitVec w) {i : Nat} (h : i < w) :
    (bits x)[i]? = some (x.getMsbD i) := by
  simp [bits, h]

/-- The first `len` bits of two words agree when the words agree position by position. -/
theorem take_bits_eq_iff {w len : Nat} {x y : BitVec w} (h : len ≤ w) :
    (bits x).take len = (bits y).take len ↔ ∀ i < len, x.getMsbD i = y.getMsbD i := by
  rw [List.ext_getElem?_iff]
  constructor
  · intro heq i hi
    have hget := heq i
    rw [List.getElem?_take_of_lt hi, List.getElem?_take_of_lt hi, getElem?_bits x (by omega),
      getElem?_bits y (by omega)] at hget
    exact Option.some.inj hget
  · intro heq i
    by_cases hi : i < len
    · rw [List.getElem?_take_of_lt hi, List.getElem?_take_of_lt hi, getElem?_bits x (by omega),
        getElem?_bits y (by omega), heq i hi]
    · rw [List.getElem?_take_eq_none (by omega), List.getElem?_take_eq_none (by omega)]

theorem take_bits_prefix_iff {w len : Nat} {x y : BitVec w} (h : len ≤ w) :
    (bits x).take len <+: bits y ↔ ∀ i < len, x.getMsbD i = y.getMsbD i := by
  rw [List.prefix_iff_eq_take, List.length_take, length_bits, Nat.min_eq_left h,
    take_bits_eq_iff h]

theorem bits_injective {w : Nat} {x y : BitVec w} (h : bits x = bits y) : x = y := by
  apply BitVec.eq_of_getMsbD_eq
  intro i hi
  have hget := congrArg (fun l => l[i]?) h
  simp only [getElem?_bits x hi, getElem?_bits y hi] at hget
  exact Option.some.inj hget

/-! ## Networks of one address width -/

/-- `Ipv4Net` and `Ipv6Net`: an address with a prefix length the address is wide enough for. -/
structure Cidr (w : Nat) where
  addr : BitVec w
  prefixLen : Nat
  prefixLen_le : prefixLen ≤ w
  deriving DecidableEq

namespace Cidr

variable {w : Nat}

/-- `addr/length`, and the whole address when the length is more than that. -/
def slash (addr : BitVec w) (length : Nat) : Cidr w where
  addr := addr
  prefixLen := min length w
  prefixLen_le := Nat.min_le_right length w

def netmask (net : Cidr w) : BitVec w :=
  BitVec.allOnes w <<< (w - net.prefixLen)

def hostmask (net : Cidr w) : BitVec w :=
  ~~~ net.netmask

def network (net : Cidr w) : BitVec w :=
  net.addr &&& net.netmask

def broadcast (net : Cidr w) : BitVec w :=
  net.addr ||| net.hostmask

def trunc (net : Cidr w) : Cidr w :=
  { net with addr := net.network }

def contains (net : Cidr w) (ip : BitVec w) : Bool :=
  net.network ≤ ip && ip ≤ net.broadcast

theorem getMsbD_netmask (net : Cidr w) (i : Nat) :
    net.netmask.getMsbD i = decide (i < net.prefixLen) := by
  have hle := net.prefixLen_le
  simp only [netmask, BitVec.getMsbD_shiftLeft, BitVec.getMsbD_allOnes, decide_eq_decide]
  omega

theorem getMsbD_network (net : Cidr w) (i : Nat) :
    net.network.getMsbD i = (net.addr.getMsbD i && decide (i < net.prefixLen)) := by
  simp [network, getMsbD_netmask]

theorem getMsbD_broadcast (net : Cidr w) {i : Nat} (hi : i < w) :
    net.broadcast.getMsbD i = (net.addr.getMsbD i || !decide (i < net.prefixLen)) := by
  simp [broadcast, hostmask, getMsbD_netmask, hi]

theorem trunc_prefixLen (net : Cidr w) : net.trunc.prefixLen = net.prefixLen := rfl

theorem take_bits_network (net : Cidr w) :
    (bits net.network).take net.prefixLen = (bits net.addr).take net.prefixLen := by
  rw [take_bits_eq_iff net.prefixLen_le]
  intro i hi
  simp [getMsbD_network, hi]

theorem network_trunc (net : Cidr w) : net.trunc.network = net.network := by
  simp [network, trunc, netmask, BitVec.and_assoc]

/-- The network address is determined by the leading bits. -/
theorem network_eq_of_take_eq {a b : Cidr w} (hlen : a.prefixLen = b.prefixLen)
    (h : (bits a.addr).take a.prefixLen = (bits b.addr).take b.prefixLen) :
    a.network = b.network := by
  rw [← hlen, take_bits_eq_iff a.prefixLen_le] at h
  apply BitVec.eq_of_getMsbD_eq
  intro i _
  rw [getMsbD_network, getMsbD_network, ← hlen]
  by_cases hi : i < a.prefixLen
  · rw [h i hi]
  · simp [hi]

/-- An address whose leading bits are those of the network lies between the bounds. -/
theorem contains_of_agree {net : Cidr w} {ip : BitVec w}
    (h : ∀ i < net.prefixLen, net.addr.getMsbD i = ip.getMsbD i) : net.contains ip := by
  have hlow : net.network = ip &&& net.netmask := by
    apply BitVec.eq_of_getMsbD_eq
    intro i _
    rw [getMsbD_network, BitVec.getMsbD_and, getMsbD_netmask]
    by_cases hi : i < net.prefixLen
    · rw [h i hi]
    · simp [hi]
  have hhigh : net.broadcast = ip ||| net.hostmask := by
    apply BitVec.eq_of_getMsbD_eq
    intro i hw
    rw [getMsbD_broadcast net hw, BitVec.getMsbD_or, hostmask, BitVec.getMsbD_not, getMsbD_netmask]
    by_cases hi : i < net.prefixLen
    · simp [h i hi, hi]
    · simp [hi, hw]
  rw [contains, hlow, hhigh, Bool.and_eq_true, decide_eq_true_eq, decide_eq_true_eq]
  exact ⟨by simpa [BitVec.le_def] using Nat.and_le_left,
    by simpa [BitVec.le_def] using Nat.left_le_or⟩

/-- Between the bounds the leading bits are those of the network. -/
theorem agree_of_contains {net : Cidr w} {ip : BitVec w} (h : net.contains ip) :
    ∀ i < net.prefixLen, net.addr.getMsbD i = ip.getMsbD i := by
  have hle := net.prefixLen_le
  rw [contains, Bool.and_eq_true, decide_eq_true_eq, decide_eq_true_eq] at h
  -- Dropping the host bits is monotone and leaves the same number at both bounds.
  have hmono : ∀ x y : BitVec w, x ≤ y →
      (x >>> (w - net.prefixLen)).toNat ≤ (y >>> (w - net.prefixLen)).toNat := by
    intro x y hxy
    rw [BitVec.toNat_ushiftRight, BitVec.toNat_ushiftRight, Nat.shiftRight_eq_div_pow,
      Nat.shiftRight_eq_div_pow]
    exact Nat.div_le_div_right hxy
  have hlow : net.network >>> (w - net.prefixLen) = net.addr >>> (w - net.prefixLen) := by
    apply BitVec.eq_of_getMsbD_eq
    intro i hw
    simp only [BitVec.getMsbD_ushiftRight, getMsbD_network]
    by_cases hi : i < w - net.prefixLen
    · simp [hi]
    · have : i - (w - net.prefixLen) < net.prefixLen := by omega
      simp [this]
  have hhigh : net.broadcast >>> (w - net.prefixLen) = net.addr >>> (w - net.prefixLen) := by
    apply BitVec.eq_of_getMsbD_eq
    intro i hw
    simp only [BitVec.getMsbD_ushiftRight]
    by_cases hi : i < w - net.prefixLen
    · simp [hi]
    · have : i - (w - net.prefixLen) < net.prefixLen := by omega
      rw [getMsbD_broadcast net (by omega)]
      simp [this]
  have hsame : ip >>> (w - net.prefixLen) = net.addr >>> (w - net.prefixLen) := by
    apply BitVec.eq_of_toNat_eq
    refine Nat.le_antisymm ?_ ?_
    · rw [← hhigh]
      exact hmono _ _ h.2
    · rw [← hlow]
      exact hmono _ _ h.1
  intro i hi
  have hbit := congrArg (fun x : BitVec w => x.getMsbD (i + (w - net.prefixLen))) hsame
  have hin : i + (w - net.prefixLen) < w := by omega
  have hout : ¬ i + (w - net.prefixLen) < w - net.prefixLen := by omega
  simpa [BitVec.getMsbD_ushiftRight, hin, hout] using hbit.symm

theorem contains_iff {net : Cidr w} {ip : BitVec w} :
    net.contains ip ↔ (bits net.addr).take net.prefixLen <+: bits ip := by
  rw [take_bits_prefix_iff net.prefixLen_le]
  exact ⟨agree_of_contains, contains_of_agree⟩

end Cidr

/-! ## Addresses and networks of both families -/

inductive IpAddr
  | v4 (ip : BitVec 32)
  | v6 (ip : BitVec 128)
  deriving DecidableEq

inductive IpNet
  | v4 (net : Cidr 32)
  | v6 (net : Cidr 128)
  deriving DecidableEq

namespace IpAddr

def isIpv4 : IpAddr → Bool
  | .v4 _ => true
  | .v6 _ => false

def bits : IpAddr → List Bool
  | .v4 ip => Net.bits ip
  | .v6 ip => Net.bits ip

theorem eq_of_bits_eq {a b : IpAddr} (hfamily : a.isIpv4 = b.isIpv4) (h : a.bits = b.bits) :
    a = b := by
  cases a with
  | v4 x =>
      cases b with
      | v4 y => rw [bits_injective h]
      | v6 y => cases hfamily
  | v6 x =>
      cases b with
      | v4 y => cases hfamily
      | v6 y => rw [bits_injective h]

end IpAddr

namespace IpNet

/-- `IpNet::new`: a prefix length beyond the address width is an error. -/
def new? (addr : IpAddr) (prefixLen : Nat) : Option IpNet :=
  match addr with
  | .v4 ip => if h : prefixLen ≤ 32 then some (.v4 ⟨ip, prefixLen, h⟩) else none
  | .v6 ip => if h : prefixLen ≤ 128 then some (.v6 ⟨ip, prefixLen, h⟩) else none

def addr : IpNet → IpAddr
  | .v4 net => .v4 net.addr
  | .v6 net => .v6 net.addr

def network : IpNet → IpAddr
  | .v4 net => .v4 net.network
  | .v6 net => .v6 net.network

def prefixLen : IpNet → Nat
  | .v4 net => net.prefixLen
  | .v6 net => net.prefixLen

def trunc : IpNet → IpNet
  | .v4 net => .v4 net.trunc
  | .v6 net => .v6 net.trunc

def contains : IpNet → IpAddr → Bool
  | .v4 net, .v4 ip => net.contains ip
  | .v6 net, .v6 ip => net.contains ip
  | _, _ => false

theorem new?_addr (net : IpNet) : new? net.addr net.prefixLen = some net := by
  cases net with
  | v4 net => exact dif_pos net.prefixLen_le
  | v6 net => exact dif_pos net.prefixLen_le

theorem new?_eq_some_iff {a : IpAddr} {len : Nat} {net : IpNet} :
    new? a len = some net ↔ net.addr = a ∧ net.prefixLen = len := by
  constructor
  · intro h
    cases a with
    | v4 ip =>
        by_cases hle : len ≤ 32
        · simp only [new?, dif_pos hle, Option.some.injEq] at h
          subst h
          exact ⟨rfl, rfl⟩
        · simp [new?, hle] at h
    | v6 ip =>
        by_cases hle : len ≤ 128
        · simp only [new?, dif_pos hle, Option.some.injEq] at h
          subst h
          exact ⟨rfl, rfl⟩
        · simp [new?, hle] at h
  · rintro ⟨rfl, rfl⟩
    exact new?_addr net

theorem contains_iff {net : IpNet} {ip : IpAddr} :
    net.contains ip ↔
      net.addr.isIpv4 = ip.isIpv4 ∧ net.addr.bits.take net.prefixLen <+: ip.bits := by
  cases net with
  | v4 net =>
      cases ip with
      | v4 ip => exact Cidr.contains_iff.trans (and_iff_right rfl).symm
      | v6 ip => simp [contains, addr, IpAddr.isIpv4]
  | v6 net =>
      cases ip with
      | v4 ip => simp [contains, addr, IpAddr.isIpv4]
      | v6 ip => exact Cidr.contains_iff.trans (and_iff_right rfl).symm

@[simp] theorem trunc_prefixLen (net : IpNet) : net.trunc.prefixLen = net.prefixLen := by
  cases net <;> rfl

@[simp] theorem trunc_addr (net : IpNet) : net.trunc.addr = net.network := by
  cases net <;> rfl

@[simp] theorem network_isIpv4 (net : IpNet) : net.network.isIpv4 = net.addr.isIpv4 := by
  cases net <;> rfl

theorem take_bits_network (net : IpNet) :
    net.network.bits.take net.prefixLen = net.addr.bits.take net.prefixLen := by
  cases net with
  | v4 net => exact net.take_bits_network
  | v6 net => exact net.take_bits_network

@[simp] theorem network_trunc (net : IpNet) : net.trunc.network = net.network := by
  cases net with
  | v4 net => exact congrArg IpAddr.v4 net.network_trunc
  | v6 net => exact congrArg IpAddr.v6 net.network_trunc

theorem prefixLen_le_length (net : IpNet) : net.prefixLen ≤ net.addr.bits.length := by
  cases net with
  | v4 net => simpa [addr, IpAddr.bits, prefixLen] using net.prefixLen_le
  | v6 net => simpa [addr, IpAddr.bits, prefixLen] using net.prefixLen_le

/-- Two networks of one family are given by the same address when their leading bits agree. -/
theorem network_eq_of_take_eq {a b : IpNet} (hfamily : a.addr.isIpv4 = b.addr.isIpv4)
    (hlen : a.prefixLen = b.prefixLen)
    (h : a.addr.bits.take a.prefixLen = b.addr.bits.take b.prefixLen) :
    a.network = b.network := by
  cases a with
  | v4 a =>
      cases b with
      | v4 b => exact congrArg IpAddr.v4 (Cidr.network_eq_of_take_eq hlen h)
      | v6 b => cases hfamily
  | v6 a =>
      cases b with
      | v4 b => cases hfamily
      | v6 b => exact congrArg IpAddr.v6 (Cidr.network_eq_of_take_eq hlen h)

end IpNet

/-- An address with a prefix length that fits it and no bit set beyond that length. -/
def IsNetwork (addr : IpAddr) (prefixLen : Nat) : Prop :=
  match IpNet.new? addr prefixLen with
  | some net => net.network = addr
  | none => False

instance (addr : IpAddr) (prefixLen : Nat) : Decidable (IsNetwork addr prefixLen) :=
  match h : IpNet.new? addr prefixLen with
  | some net => decidable_of_iff (net.network = addr) (by simp [IsNetwork, h])
  | none => isFalse (by simp [IsNetwork, h])

/-- A CIDR block by its network address, as the policy compiler hands them to the data plane. -/
structure Network where
  addr : IpAddr
  prefixLen : Nat
  isNetwork : IsNetwork addr prefixLen
  deriving DecidableEq

namespace Network

/-- The leading bits that every address of the block shares. -/
def word (net : Network) : List Bool :=
  net.addr.bits.take net.prefixLen

def Contains (net : Network) (ip : IpAddr) : Prop :=
  net.addr.isIpv4 = ip.isIpv4 ∧ net.word <+: ip.bits

/-- One block lies within another one, which may be the same. -/
def Within (inner outer : Network) : Prop :=
  outer.addr.isIpv4 = inner.addr.isIpv4 ∧ outer.word <+: inner.word

instance (net : Network) (ip : IpAddr) : Decidable (net.Contains ip) :=
  inferInstanceAs (Decidable (_ ∧ _))

instance (inner outer : Network) : Decidable (inner.Within outer) :=
  inferInstanceAs (Decidable (_ ∧ _))

theorem exists_ipNet (net : Network) :
    ∃ cidr, IpNet.new? net.addr net.prefixLen = some cidr ∧ cidr.addr = net.addr ∧
      cidr.network = net.addr ∧ cidr.prefixLen = net.prefixLen := by
  have hnet := net.isNetwork
  unfold IsNetwork at hnet
  split at hnet
  · rename_i cidr hnew
    obtain ⟨haddr, hlen⟩ := IpNet.new?_eq_some_iff.mp hnew
    exact ⟨cidr, hnew, haddr, hnet, hlen⟩
  · exact hnet.elim

theorem length_word (net : Network) : net.word.length = net.prefixLen := by
  obtain ⟨cidr, -, haddr, -, hlen⟩ := net.exists_ipNet
  have hle := cidr.prefixLen_le_length
  rw [haddr, hlen] at hle
  rw [word, List.length_take, Nat.min_eq_left hle]

/-- A block is determined by its family and its leading bits. -/
theorem eq_of_word_eq {a b : Network} (hfamily : a.addr.isIpv4 = b.addr.isIpv4)
    (h : a.word = b.word) : a = b := by
  have hlen : a.prefixLen = b.prefixLen := by
    rw [← length_word a, ← length_word b, h]
  obtain ⟨ca, -, haddr, hnet, hplen⟩ := a.exists_ipNet
  obtain ⟨cb, -, haddr', hnet', hplen'⟩ := b.exists_ipNet
  have heq : ca.network = cb.network := by
    apply IpNet.network_eq_of_take_eq
    · rw [haddr, haddr', hfamily]
    · rw [hplen, hplen', hlen]
    · rw [haddr, haddr', hplen, hplen']
      exact h
  have haddrs : a.addr = b.addr := by
    rw [← hnet, ← hnet', heq]
  cases a
  cases b
  simp_all

theorem Within.refl (net : Network) : net.Within net :=
  ⟨rfl, List.prefix_rfl⟩

theorem Within.trans {a b c : Network} (hab : a.Within b) (hbc : b.Within c) : a.Within c :=
  ⟨hbc.1.trans hab.1, hbc.2.trans hab.2⟩

theorem Within.prefixLen_le {inner outer : Network} (h : inner.Within outer) :
    outer.prefixLen ≤ inner.prefixLen := by
  rw [← length_word inner, ← length_word outer]
  exact h.2.length_le

theorem Within.antisymm {a b : Network} (hab : a.Within b) (hba : b.Within a) : a = b :=
  eq_of_word_eq hba.1 (hba.2.eq_of_length_le hab.2.length_le)

theorem Within.eq_of_prefixLen {inner outer : Network} (h : inner.Within outer)
    (hlen : outer.prefixLen = inner.prefixLen) : outer = inner := by
  refine eq_of_word_eq h.1 (h.2.eq_of_length ?_)
  rw [length_word, length_word, hlen]

theorem Contains.of_within {inner outer : Network} {ip : IpAddr} (h : inner.Contains ip)
    (hw : inner.Within outer) : outer.Contains ip :=
  ⟨hw.1.trans h.1, hw.2.trans h.2⟩

/-- Of two blocks that contain one address, the one with the longer prefix lies in the other. -/
theorem within_of_contains {a b : Network} {ip : IpAddr} (ha : a.Contains ip) (hb : b.Contains ip)
    (hle : b.prefixLen ≤ a.prefixLen) : a.Within b := by
  refine ⟨hb.1.trans ha.1.symm, List.prefix_of_prefix_length_le hb.2 ha.2 ?_⟩
  rw [length_word, length_word]
  exact hle

end Network

/-- The block of a CIDR, host bits dropped. -/
def IpNet.toNetwork (net : IpNet) : Network where
  addr := net.network
  prefixLen := net.prefixLen
  isNetwork := by
    have hnew : IpNet.new? net.network net.prefixLen = some net.trunc :=
      IpNet.new?_eq_some_iff.mpr ⟨net.trunc_addr, net.trunc_prefixLen⟩
    simp [IsNetwork, hnew]

theorem IpNet.toNetwork_contains_iff {net : IpNet} {ip : IpAddr} :
    net.toNetwork.Contains ip ↔ net.contains ip := by
  rw [IpNet.contains_iff, Network.Contains, Network.word, toNetwork, net.network_isIpv4,
    net.take_bits_network]

end Net
end XdpFirewall
