import XdpFirewall.Lib.Cover
import XdpFirewall.Policy.Model

/-!
# Local — compaction of nested blocks and the filter of the agent's own addresses

Before trusted CIDRs and temporary bans are written, those that another one makes redundant are
dropped. Deny rules and temporary bans that would hit an address of the agent's interface are
never written.
-/

namespace XdpFirewall
namespace DataPlane

open Net Policy Lib

structure LocalInterfaceCidr where
  ip : IpAddr
  prefixLen : Nat
  deriving DecidableEq

def prefixContainsIp (addr : IpAddr) (prefixLen : Nat) (ip : IpAddr) : Bool :=
  if addr.isIpv4 ≠ ip.isIpv4 then
    false
  else
    match IpNet.new? addr prefixLen with
    | some net => net.trunc.contains ip
    | none => false

/-- `trusted_prefix_ipnet` and `temp_ban_ipnet` -/
def truncatedIpnet (net : Network) : Option IpNet :=
  (IpNet.new? net.addr net.prefixLen).map IpNet.trunc

/-- The comparison of two blocks that ends both covering tests of the source. -/
def ipnetCovers (cover inner : Network) : Bool :=
  match truncatedIpnet cover, truncatedIpnet inner with
  | some (.v4 cover), some (.v4 inner) => cover.contains inner.network
  | some (.v6 cover), some (.v6 inner) => cover.contains inner.network
  | _, _ => false

def trustedPrefixCovers (cover inner : XdpTrustedPrefix) : Bool :=
  if cover = inner ∨ cover.prefixLen > inner.prefixLen then
    false
  else
    ipnetCovers cover.toNetwork inner.toNetwork

def tempBanCoversOrSupersedes (cover ban : XdpTempBan) : Bool :=
  if cover.protocol ≠ ban.protocol ∨ cover.port ≠ ban.port then
    false
  else if cover.addr = ban.addr ∧ cover.prefixLen = ban.prefixLen then
    cover.expiresAt > ban.expiresAt
  else if cover.prefixLen > ban.prefixLen ∨ cover.expiresAt < ban.expiresAt then
    false
  else
    ipnetCovers cover.toNetwork ban.toNetwork

def compactTrustedPrefixes (prefixes : List XdpTrustedPrefix) : List XdpTrustedPrefix :=
  compact trustedPrefixCovers prefixes

def compactTempBans (bans : List XdpTempBan) : List XdpTempBan :=
  compact tempBanCoversOrSupersedes bans

def denyRuleMatchingLocalCidr (rule : XdpPrefixRule) (localCidrs : List LocalInterfaceCidr) :
    Option LocalInterfaceCidr :=
  if rule.action ≠ .deny then
    none
  else
    localCidrs.find? fun own => prefixContainsIp rule.addr rule.prefixLen own.ip

def tempBanMatchingLocalCidr (ban : XdpTempBan) (localCidrs : List LocalInterfaceCidr) :
    Option LocalInterfaceCidr :=
  localCidrs.find? fun own => prefixContainsIp ban.addr ban.prefixLen own.ip

/-! ## Containment -/

theorem prefixContainsIp_iff {net : Network} {ip : IpAddr} :
    prefixContainsIp net.addr net.prefixLen ip ↔ net.Contains ip := by
  obtain ⟨cidr, hnew, haddr, hnet, hlen⟩ := net.exists_ipNet
  unfold prefixContainsIp
  rw [hnew]
  by_cases hfamily : net.addr.isIpv4 = ip.isIpv4
  · simp [hfamily, IpNet.contains_iff, hnet, hlen, Network.Contains, Network.word]
  · simp [hfamily, Network.Contains]

theorem truncatedIpnet_eq (net : Network) :
    ∃ cidr, truncatedIpnet net = some cidr ∧ cidr.addr = net.addr ∧
      cidr.network = net.addr ∧ cidr.prefixLen = net.prefixLen := by
  obtain ⟨cidr, hnew, -, hnet, hlen⟩ := net.exists_ipNet
  refine ⟨cidr.trunc, by simp [truncatedIpnet, hnew], ?_, ?_, ?_⟩
  · rw [IpNet.trunc_addr, hnet]
  · rw [IpNet.network_trunc, hnet]
  · rw [IpNet.trunc_prefixLen, hlen]

/-- A cover that is not longer contains the network address exactly when it contains the block. -/
theorem ipnetCovers_iff {cover inner : Network} (hle : cover.prefixLen ≤ inner.prefixLen) :
    ipnetCovers cover inner ↔ inner.Within cover := by
  obtain ⟨c, hc, hcaddr, -, hclen⟩ := truncatedIpnet_eq cover
  obtain ⟨i, hi, -, hinet, hilen⟩ := truncatedIpnet_eq inner
  have hcontains : ipnetCovers cover inner = c.contains i.network := by
    unfold ipnetCovers
    rw [hc, hi]
    cases c <;> cases i <;> rfl
  have htake : cover.word <+: inner.addr.bits ↔ cover.word <+: inner.word := by
    rw [Network.word.eq_def inner, List.prefix_take_iff, cover.length_word]
    exact (and_iff_left hle).symm
  rw [hcontains, IpNet.contains_iff, hcaddr, hclen, hinet, ← Network.word, htake, Network.Within]

/-! ## Both covering tests are strict orders -/

theorem trustedPrefixCovers_iff {cover inner : XdpTrustedPrefix} :
    trustedPrefixCovers cover inner ↔
      cover ≠ inner ∧ inner.toNetwork.Within cover.toNetwork := by
  unfold trustedPrefixCovers
  by_cases heq : cover = inner
  · simp [heq]
  · by_cases hle : cover.prefixLen ≤ inner.prefixLen
    · simp [heq, Nat.not_lt.mpr hle, ipnetCovers_iff hle]
    · have hnot : ¬ inner.toNetwork.Within cover.toNetwork := fun h => hle h.prefixLen_le
      simp [heq, Nat.lt_of_not_le hle, hnot]

theorem trustedPrefix_ext {a b : XdpTrustedPrefix} (h : a.toNetwork = b.toNetwork) : a = b := by
  cases a
  cases b
  simpa using h

theorem isCovering_trustedPrefixCovers : IsCovering trustedPrefixCovers where
  irrefl a := by
    simp [trustedPrefixCovers]
  trans a b c hab hbc := by
    obtain ⟨hne, hwithin⟩ := trustedPrefixCovers_iff.mp hab
    obtain ⟨-, hwithin'⟩ := trustedPrefixCovers_iff.mp hbc
    refine trustedPrefixCovers_iff.mpr ⟨?_, hwithin'.trans hwithin⟩
    rintro rfl
    -- Mutual covers are one block.
    exact hne (trustedPrefix_ext (Network.Within.antisymm hwithin' hwithin))

theorem tempBanCoversOrSupersedes_iff {cover ban : XdpTempBan} :
    tempBanCoversOrSupersedes cover ban ↔
      cover.protocol = ban.protocol ∧ cover.port = ban.port ∧
        ban.toNetwork.Within cover.toNetwork ∧
        (ban.expiresAt < cover.expiresAt ∨
          cover.toNetwork ≠ ban.toNetwork ∧ ban.expiresAt = cover.expiresAt) := by
  have hnetwork : (cover.addr = ban.addr ∧ cover.prefixLen = ban.prefixLen) ↔
      cover.toNetwork = ban.toNetwork := by
    cases cover.toNetwork
    cases ban.toNetwork
    simp
  unfold tempBanCoversOrSupersedes
  by_cases hclass : cover.protocol ≠ ban.protocol ∨ cover.port ≠ ban.port
  · rw [if_pos hclass]
    simp only [Bool.false_eq_true, false_iff]
    rintro ⟨hproto, hport, -⟩
    exact hclass.elim (fun h => h hproto) fun h => h hport
  · rw [if_neg hclass]
    push Not at hclass
    by_cases hsame : cover.toNetwork = ban.toNetwork
    · rw [if_pos (hnetwork.mpr hsame), decide_eq_true_eq]
      have hself : ban.toNetwork.Within cover.toNetwork := hsame ▸ Network.Within.refl _
      constructor
      · exact fun h => ⟨hclass.1, hclass.2, hself, Or.inl h⟩
      · rintro ⟨-, -, -, h | h⟩
        · exact h
        · exact absurd hsame h.1
    · rw [if_neg (mt hnetwork.mp hsame)]
      by_cases hle : cover.prefixLen ≤ ban.prefixLen
      · by_cases hexp : ban.expiresAt ≤ cover.expiresAt
        · have hor : ban.expiresAt < cover.expiresAt ∨ ban.expiresAt = cover.expiresAt := by omega
          simp [Nat.not_lt.mpr hle, Int.not_lt.mpr hexp, ipnetCovers_iff hle, hclass, hsame, hor]
        · have hlt : cover.expiresAt < ban.expiresAt := by omega
          have hne : ban.expiresAt ≠ cover.expiresAt := by omega
          have hnlt : ¬ ban.expiresAt < cover.expiresAt := by omega
          simp [hlt, hnlt, hne]
      · have hnot : ¬ ban.toNetwork.Within cover.toNetwork := fun h => hle h.prefixLen_le
        simp [Nat.lt_of_not_le hle, hnot]

theorem isCovering_tempBanCoversOrSupersedes : IsCovering tempBanCoversOrSupersedes where
  irrefl a := by
    simp [tempBanCoversOrSupersedes]
  trans a b c hab hbc := by
    obtain ⟨hproto, hport, hwithin, hexp⟩ := tempBanCoversOrSupersedes_iff.mp hab
    obtain ⟨hproto', hport', hwithin', hexp'⟩ := tempBanCoversOrSupersedes_iff.mp hbc
    refine tempBanCoversOrSupersedes_iff.mpr
      ⟨hproto.trans hproto', hport.trans hport', hwithin'.trans hwithin, ?_⟩
    rcases hexp with hlt | ⟨hne, heq⟩
    · left
      rcases hexp' with hlt' | ⟨-, heq'⟩
      · exact Int.lt_trans hlt' hlt
      · exact heq' ▸ hlt
    · rcases hexp' with hlt' | ⟨-, heq'⟩
      · exact Or.inl (heq ▸ hlt')
      · refine Or.inr ⟨?_, heq'.trans heq⟩
        intro hsame
        rw [← hsame] at hwithin'
        exact hne (Network.Within.antisymm hwithin' hwithin)

end DataPlane
end XdpFirewall
