import XdpFirewall.Net.IpNet

/-!
# HostNet — the networks of single addresses

The network of an address has the full length of the address as its prefix. It contains that address
only, and it has no host bits that could be dropped.
-/

namespace XdpFirewall
namespace Net

/-- The network of one address. -/
def hostNet : IpAddr → IpNet
  | .v4 addr => .v4 ⟨addr, 32, by decide⟩
  | .v6 addr => .v6 ⟨addr, 128, by decide⟩

theorem hostNet_addr (addr : IpAddr) : (hostNet addr).addr = addr := by
  cases addr <;> rfl

theorem hostNet_prefixLen (addr : IpAddr) : (hostNet addr).prefixLen = addr.bits.length := by
  cases addr with
  | v4 a => exact (length_bits a).symm
  | v6 a => exact (length_bits a).symm

theorem length_bits_of_family {a b : IpAddr} (h : a.isIpv4 = b.isIpv4) :
    a.bits.length = b.bits.length := by
  cases a with
  | v4 x =>
      cases b with
      | v4 y => exact (length_bits x).trans (length_bits y).symm
      | v6 y => cases h
  | v6 x =>
      cases b with
      | v4 y => cases h
      | v6 y => exact (length_bits x).trans (length_bits y).symm

theorem hostNet_contains_iff {addr ip : IpAddr} :
    (hostNet addr).contains ip = true ↔ ip = addr := by
  rw [IpNet.contains_iff, hostNet_addr, hostNet_prefixLen, List.take_length]
  constructor
  · rintro ⟨hfamily, hbits⟩
    exact (IpAddr.eq_of_bits_eq hfamily
      (hbits.eq_of_length (length_bits_of_family hfamily))).symm
  · rintro rfl
    exact ⟨rfl, List.prefix_rfl⟩

theorem network_hostNet (addr : IpAddr) : (hostNet addr).network = addr := by
  have hfamily : (hostNet addr).network.isIpv4 = addr.isIpv4 := by
    rw [IpNet.network_isIpv4, hostNet_addr]
  refine IpAddr.eq_of_bits_eq hfamily ?_
  have hbits := (hostNet addr).take_bits_network
  rw [hostNet_addr, hostNet_prefixLen, List.take_length, ← length_bits_of_family hfamily,
    List.take_length] at hbits
  exact hbits

theorem trunc_hostNet (addr : IpAddr) : (hostNet addr).trunc = hostNet addr := by
  have htrunc : IpNet.new? addr (hostNet addr).prefixLen = some (hostNet addr).trunc :=
    IpNet.new?_eq_some_iff.mpr
      ⟨(IpNet.trunc_addr _).trans (network_hostNet addr), IpNet.trunc_prefixLen _⟩
  have hsame : IpNet.new? addr (hostNet addr).prefixLen = some (hostNet addr) :=
    IpNet.new?_eq_some_iff.mpr ⟨hostNet_addr addr, rfl⟩
  exact Option.some.inj (htrunc.symm.trans hsame)

end Net
end XdpFirewall
