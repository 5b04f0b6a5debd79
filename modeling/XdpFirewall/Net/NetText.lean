import XdpFirewall.Lib.SplitOnce
import XdpFirewall.Net.Ipv6Text

/-!
# NetText — networks in text

A network is written as an address, a slash and the length of its prefix.
-/

namespace XdpFirewall
namespace Net
namespace IpText

open Lib

/-- `Display` of a network -/
def displayIpNet (net : IpNet) : List Char :=
  displayIpAddr net.addr ++ '/' :: Nat.toDigits 10 net.prefixLen

/-- `str::parse::<IpNet>` -/
def parseIpNet (s : List Char) : Option IpNet := do
  let (addr, len) ← splitOnce '/' s
  match readNumber 10 3 256 false len with
  | some (len, []) => IpNet.new? (← parseIpAddr addr) len
  | _ => none

theorem prefixLen_lt (net : IpNet) : net.prefixLen < 256 := by
  cases net with
  | v4 net => exact Nat.lt_of_le_of_lt net.prefixLen_le (by decide)
  | v6 net => exact Nat.lt_of_le_of_lt net.prefixLen_le (by decide)

theorem parseIpNet_displayIpNet (net : IpNet) : parseIpNet (displayIpNet net) = some net := by
  have hslash : '/' ∉ displayIpAddr net.addr := by
    intro hmem
    cases isAddrChar_of_mem_displayIpAddr hmem
  have hlen := @readNumber_decimal ⟨net.prefixLen, prefixLen_lt net⟩ [] nofun
  rw [List.append_nil, decimal] at hlen
  rw [parseIpNet, displayIpNet, splitOnce_append_cons hslash]
  simp only [Option.bind_eq_bind, Option.bind_some, hlen, parseIpAddr_displayIpAddr]
  exact IpNet.new?_addr net

end IpText
end Net
end XdpFirewall
