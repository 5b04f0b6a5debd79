import XdpFirewall.Bpf.ParsePacket
import XdpFirewall.ControlPlane.LoadPolicy
import XdpFirewall.DataPlane.ApplyCapacity

/-!
# IcmpFamilies — entries for ICMP, and the packets of both address families

The encoder writes one protocol number for ICMP, whatever the family of the CIDR. The filter looks
a packet up by the protocol number of its own header, which differs between the families.
-/

namespace XdpFirewall
namespace Enforcement

open Net Policy Lib DataPlane Bpf ControlPlane

/-! ## Packets -/

/-- The next header value of ICMPv6. -/
def protoIcmpv6 : U8 := 58

def icmpProto (src : IpAddr) : U8 :=
  if src.isIpv4 then protoIcmp else protoIcmpv6

/-- The ICMP packet of a source, in the protocol of its family. -/
def icmpPacket (src : IpAddr) : Packet where
  family := family src
  proto := icmpProto src
  dport := 0
  src := addrBytes src

/-- What the filter makes of a frame with ICMP of the family of its source. -/
theorem eq_icmpPacket_of_parseFrame {data : Frame} {packet : Packet}
    (h : parseFrame data = .packet packet)
    (hicmp : packet.proto = icmpProto (sourceAddr data)) :
    packet = icmpPacket (sourceAddr data) := by
  rcases source_of_parseFrame h with ⟨hfamily, hsrc⟩
  have hportless : packet.proto ≠ protoTcp ∧ packet.proto ≠ protoUdp := by
    rw [hicmp, icmpProto]
    split <;> decide
  have hdport := dport_of_parseFrame hportless h
  cases packet
  cases hfamily
  cases hsrc
  cases hicmp
  cases hdport
  rfl

/-! ## Entries -/

/-- An entry of a policy, whose CIDR is given separately. -/
inductive PolicyEntry
  | firewallRule (rule : FirewallRule)
  | tempBan (ban : TempBanPolicy)
  | rateLimit (limit : DynamicRateLimitPolicy)

/-- The port of the entry in the maps, zero for any. -/
def PolicyEntry.port : PolicyEntry → U16
  | .firewallRule rule => rule.port.getD 0
  | .tempBan ban => ban.port.getD 0
  | .rateLimit limit => limit.port.getD 0

/-- The entry is for ICMP, some row is read as it, and as a ban it has not expired. -/
def PolicyEntry.AcceptedIcmp (text : TextReaders) (wallNow : Int) : PolicyEntry → Prop
  | .firewallRule rule => rule.protocol = .icmp ∧ ∃ row, parseRule text row = .ok rule
  | .tempBan ban =>
      ban.protocol = .icmp ∧ wallNow < ban.expiresAt ∧ ∃ row, parseTempBan text row = .ok ban
  | .rateLimit limit => limit.protocol = .icmp ∧ ∃ row, parseDynamicRateLimit row = .ok limit

/-- The clocks when the policy is written and when the packet comes, before the end of all bans. -/
structure Clocks where
  wallNow : Int
  packetNow : U64
  expiresAtNs : U64
  live : packetNow < expiresAtNs

/-- The filter finds the entry for the packet when it is the only one of its map. -/
def PolicyEntry.AppliesTo (clocks : Clocks) (maps : PolicyMaps) (cidr : IpNet)
    (packet : Packet) : PolicyEntry → Prop
  | .firewallRule rule =>
      ∃ compiled ∈ compileFirewallRules [{ rule with cidr := cidr }],
        (lookupRule
          { maps with ruleCidrs := KeyedStore.empty.set (keyOfRule compiled) (ruleValue compiled) }
          packet.family packet.proto packet.dport packet.src).isSome
  | .tempBan ban =>
      ∃ compiled ∈ compileActiveTempBans clocks.wallNow [{ ban with cidr := cidr }],
        tempBanActive
          { maps with
            tempBans := KeyedStore.empty.set (keyOfTempBan compiled)
              { expiresAtNs := clocks.expiresAtNs } }
          packet.family packet.proto packet.dport packet.src clocks.packetNow
  | .rateLimit limit =>
      ∃ compiled ∈ compileDynamicRateLimits [limit],
        (lookupCustomRate
          { maps with
            customRateLimits := KeyedStore.empty.set
              (customRateKey compiled.protocol compiled.port) (customRateValue compiled) }
          packet.proto packet.dport).isSome

/-- The sources that the entry is for: those of its CIDR, or all of them for a limit. -/
def PolicyEntry.IsFrom (cidr : IpNet) (src : IpAddr) : PolicyEntry → Prop
  | .firewallRule _ => cidr.toNetwork.Contains src
  | .tempBan _ => cidr.toNetwork.Contains src
  | .rateLimit _ => True

/-! ## Lookups in maps of one entry -/

section Single

theorem lookupElem_single {α V : Type} [Pod α] {key k : LpmKey α} {value : V} :
    lookupElem (KeyedStore.empty.set key value : LpmTrie α V) k =
      if key.bits <+: k.bits then some (key, value) else none := by
  have hmem (entry : LpmKey α × V) :
      entry ∈ (KeyedStore.empty.set key value : LpmTrie α V) ↔ entry = (key, value) := by
    rw [KeyedStore.mem_set]
    refine or_iff_left ?_
    rintro ⟨hold, -⟩
    exact KeyedStore.not_mem_empty entry hold
  by_cases hmatch : key.bits <+: k.bits
  · rw [if_pos hmatch]
    refine KeyedStore.longest?_eq_some_iff.mpr ⟨(hmem _).mpr rfl, hmatch, fun other hother _ => ?_⟩
    rw [(hmem other).mp hother]
  · rw [if_neg hmatch]
    refine KeyedStore.longest?_eq_none_iff.mpr fun entry hentry => ?_
    rw [(hmem entry).mp hentry]
    exact hmatch

theorem isSome_lookupElem_single {α V : Type} [Pod α] {key k : LpmKey α} {value : V} :
    (lookupElem (KeyedStore.empty.set key value : LpmTrie α V) k).isSome ↔ key.bits <+: k.bits := by
  rw [lookupElem_single]
  split <;> simp_all

variable {maps : PolicyMaps} {net : Network} {protocol : L4Protocol} {port dport : U16}
  {proto : U8} {src : IpAddr}

theorem isSome_lookupRule_single {value : RuleValue} :
    (lookupRule
        { maps with
          ruleCidrs := KeyedStore.empty.set (l4Key net.addr net.prefixLen protocol port) value }
        (family src) proto dport (addrBytes src)).isSome ↔
      Selects net protocol port proto dport src := by
  rw [lookupRule_eq_findSome?, List.isSome_findSome?, List.any_eq_true, selects_iff_exists_class]
  refine exists_congr fun c => and_congr_right fun _ => ?_
  exact isSome_lookupElem_single.trans l4Key_matches_iff

theorem tempBanActive_single {now expiresAtNs : U64} (hlive : now < expiresAtNs) :
    tempBanActive
        { maps with
          tempBans := KeyedStore.empty.set (l4Key net.addr net.prefixLen protocol port)
            { expiresAtNs := expiresAtNs } }
        (family src) proto dport (addrBytes src) now ↔
      Selects net protocol port proto dport src := by
  rw [tempBanActive_eq_any, List.any_eq_true, selects_iff_exists_class]
  refine exists_congr fun c => and_congr_right fun _ => ?_
  rw [lookupElem_single, ← l4Key_matches_iff]
  split
  · rename_i hmatch
    exact iff_of_true (decide_eq_true hlive) hmatch
  · rename_i hother
    exact iff_of_false Bool.false_ne_true hother

theorem isSome_lookupCustomRate_single {value : CustomRateValue} :
    (lookupCustomRate
        { maps with
          customRateLimits := KeyedStore.empty.set (customRateKey protocol port) value }
        proto dport).isSome ↔
      ∃ c ∈ classes proto dport, protoCode protocol = c.1 ∧ toBe port = c.2 := by
  rw [lookupCustomRate_eq_findSome?, List.isSome_findSome?, List.any_eq_true]
  refine exists_congr fun c => and_congr_right fun _ => ?_
  rw [lookupCustomRateElem, Option.isSome_map, Option.isSome_iff_exists]
  constructor
  · rintro ⟨entry, hget⟩
    obtain ⟨hmem, hkey⟩ := KeyedStore.get?_eq_some_iff.mp hget
    rcases KeyedStore.mem_set.mp hmem with rfl | ⟨hold, -⟩
    · exact ⟨congrArg CustomRateKey.proto hkey, congrArg CustomRateKey.dport hkey⟩
    · exact absurd hold (KeyedStore.not_mem_empty entry)
  · rintro ⟨hproto, hport⟩
    rw [← hproto, ← hport]
    exact ⟨_, KeyedStore.get?_set KeyedStore.empty (customRateKey protocol port) value⟩

end Single

/-! ## Which packets the entries apply to -/

section Applies

variable {text : TextReaders} {clocks : Clocks} {maps : PolicyMaps} {cidr : IpNet} {src : IpAddr}
  {entry : PolicyEntry} {port : U16}

/-- Only ICMP of IPv4 has the protocol number of the entry, and no ICMP packet has a port. -/
theorem icmp_class_iff :
    (∃ c ∈ classes (icmpProto src) 0, protoCode .icmp = c.1 ∧ toBe port = c.2) ↔
      src.isIpv4 = true ∧ port = 0 := by
  have hzero : toBe port = 0 ↔ port = 0 :=
    ⟨fun h => toBe_injective h, fun h => by rw [h]; rfl⟩
  constructor
  · rintro ⟨c, hc, hproto, hport⟩
    rcases mem_classes_iff.mp hc with ⟨hp, hd⟩
    rw [or_self] at hd
    rw [hd, hzero] at hport
    refine ⟨?_, hport⟩
    rw [← hproto] at hp
    rcases hp with hp | hp
    · by_contra hv6
      rw [icmpProto, if_neg hv6] at hp
      cases hp
    · cases hp
  · rintro ⟨hv4, hport⟩
    refine ⟨(protoIcmp, 0), mem_classes_iff.mpr ⟨Or.inl ?_, Or.inl rfl⟩, rfl, hzero.mpr hport⟩
    rw [icmpProto, if_pos hv4]

theorem selects_icmp_iff {net : Network} :
    Selects net .icmp port (icmpProto src) 0 src ↔
      net.Contains src ∧ src.isIpv4 = true ∧ port = 0 := by
  rw [selects_iff_exists_class, ← icmp_class_iff]
  constructor
  · rintro ⟨c, hc, hproto, hport, hnet⟩
    exact ⟨hnet, c, hc, hproto, hport⟩
  · rintro ⟨hnet, c, hc, hproto, hport⟩
    exact ⟨c, hc, hproto, hport, hnet⟩

/-- An entry for ICMP applies to the ICMP of IPv4 sources only. -/
theorem appliesTo_icmp_iff (h : entry.AcceptedIcmp text clocks.wallNow) :
    entry.AppliesTo clocks maps cidr (icmpPacket src) ↔
      entry.IsFrom cidr src ∧ src.isIpv4 = true ∧ entry.port = 0 := by
  cases entry with
  | firewallRule rule =>
      rcases h with ⟨hprotocol, -⟩
      simp only [PolicyEntry.AppliesTo, compileFirewallRules, List.map_cons, List.map_nil,
        List.mem_singleton, exists_eq_left, hprotocol]
      exact isSome_lookupRule_single.trans selects_icmp_iff
  | tempBan ban =>
      rcases h with ⟨hprotocol, hactive, -⟩
      simp only [PolicyEntry.AppliesTo, compileActiveTempBans, List.filter_cons, hactive,
        decide_true, if_true, List.filter_nil, List.map_cons, List.map_nil, List.mem_singleton,
        exists_eq_left, hprotocol]
      exact (tempBanActive_single clocks.live).trans selects_icmp_iff
  | rateLimit limit =>
      rcases h with ⟨hprotocol, -⟩
      simp only [PolicyEntry.AppliesTo, compileDynamicRateLimits, List.map_cons, List.map_nil,
        List.mem_singleton, exists_eq_left, hprotocol]
      exact isSome_lookupCustomRate_single.trans (icmp_class_iff.trans (true_and _).symm.to_iff)

/-- The entry applies to the ICMPv6 packets from its CIDR just as the entry for an IPv4 CIDR applies
to all ICMP packets from there. -/
def PolicyEntry.CoversBoth (clocks : Clocks) (maps : PolicyMaps) (cidr : IpNet)
    (entry : PolicyEntry) : Prop :=
  ∀ src : IpAddr, src.isIpv4 = false → entry.IsFrom cidr src →
    (entry.AppliesTo clocks maps cidr (icmpPacket src) ↔
      ∀ (other : IpNet) (host : IpAddr), host.isIpv4 = true → entry.IsFrom other host →
        entry.AppliesTo clocks maps other (icmpPacket host))

theorem exists_isFrom (entry : PolicyEntry) (cidr : IpNet) :
    ∃ src, src.isIpv4 = cidr.addr.isIpv4 ∧ entry.IsFrom cidr src := by
  have hself : cidr.toNetwork.Contains cidr.network :=
    ⟨rfl, List.take_prefix _ _⟩
  refine ⟨cidr.network, cidr.network_isIpv4, ?_⟩
  cases entry with
  | firewallRule rule => exact hself
  | tempBan ban => exact hself
  | rateLimit limit => trivial

/-- No entry for ICMP applies to ICMPv6. So the families are treated alike only when the entry has
a port, and then it applies to no ICMP packet at all. -/
theorem coversBoth_iff (clocks : Clocks) (maps : PolicyMaps)
    (haccepted : entry.AcceptedIcmp text clocks.wallNow) (hcidr : cidr.addr.isIpv4 = false) :
    (∀ src : IpAddr, src.isIpv4 = false →
        ¬ entry.AppliesTo clocks maps cidr (icmpPacket src)) ∧
      (entry.CoversBoth clocks maps cidr ↔ entry.port ≠ 0) := by
  have hnever (src : IpAddr) (hv6 : src.isIpv4 = false) :
      ¬ entry.AppliesTo clocks maps cidr (icmpPacket src) := by
    rw [appliesTo_icmp_iff haccepted, hv6]
    exact fun h => Bool.false_ne_true h.2.1
  refine ⟨hnever, ?_⟩
  constructor
  · intro hcovers hport
    rcases exists_isFrom entry cidr with ⟨src, hfamily, hfrom⟩
    have hv6 := hfamily.trans hcidr
    refine hnever src hv6 ((hcovers src hv6 hfrom).mpr fun other host hv4 hhost => ?_)
    exact (appliesTo_icmp_iff haccepted).mpr ⟨hhost, hv4, hport⟩
  · intro hport src hv6 hfrom
    refine iff_of_false (hnever src hv6) fun hall => ?_
    -- The entry for all of IPv4 applies to none of it.
    let everything : IpNet := .v4 { addr := 0, prefixLen := 0, prefixLen_le := by decide }
    rcases exists_isFrom entry everything with ⟨host, hfamily, hhost⟩
    have happlies := hall everything host hfamily hhost
    exact hport ((appliesTo_icmp_iff haccepted).mp happlies).2.2

def noEntries : PolicyMaps :=
  PolicyMaps.fresh (defenseValue XdpDynamicDefense.default)

def oneSecondLeft : Clocks where
  wallNow := 0
  packetNow := 0
  expiresAtNs := 1000000000
  live := by decide

/-- 2001:db8::/32 -/
def docCidr : IpNet :=
  .v6 (.slash 0x20010db8000000000000000000000000 32)

def docText : TextReaders where
  ipNet := fun value => if value = "2001:db8::/32" then some docCidr else none
  ipAddr := fun _ => none
  cidrArray := fun _ => []
  stringArray := fun _ => none

def pingRow (port : Option Int32) : FirewallRuleRow where
  id := 1
  policyName := "default"
  ruleKey := "deny-ping"
  enabled := true
  priority := 100
  action := "deny"
  cidr := "2001:db8::/32"
  protocol := some "icmp"
  port := port
  comment := none

def pingRule (port : Option U16) : FirewallRule where
  priority := 100
  action := .deny
  cidr := docCidr
  protocol := .icmp
  port := port
  comment := none

theorem acceptedIcmp_pingRule (wallNow : Int) :
    (PolicyEntry.firewallRule (pingRule none)).AcceptedIcmp docText wallNow ∧
      (PolicyEntry.firewallRule (pingRule (some 8))).AcceptedIcmp docText wallNow := by
  have hlower : "deny".toLower = "deny" ∧ "icmp".toLower = "icmp" :=
    ⟨toLower_eq_self (by decide), toLower_eq_self (by decide)⟩
  refine ⟨⟨rfl, pingRow none, ?_⟩, rfl, pingRow (some 8), ?_⟩
  all_goals
    simp [parseRule, pingRow, parseAction, parseProtocol, hlower, parseCidr, docText,
      parseOptionalPort, pingRule]
    rfl

/-- A rule for ICMP with a port, which the parser lets through, applies to nothing in either
family. -/
theorem coversBoth_pingRule_port :
    (PolicyEntry.firewallRule (pingRule (some 8))).CoversBoth oneSecondLeft noEntries docCidr := by
  refine ((coversBoth_iff oneSecondLeft noEntries (acceptedIcmp_pingRule 0).2 rfl).2).mpr ?_
  decide

/-- The rule without a port drops the ICMP of IPv4 and not that of IPv6. -/
theorem pingRule_not_coversBoth :
    (PolicyEntry.firewallRule (pingRule none)).AcceptedIcmp docText oneSecondLeft.wallNow ∧
      docCidr.toNetwork.Contains (.v6 0x20010db8000000000000000000000001) ∧
      ¬ (PolicyEntry.firewallRule (pingRule none)).AppliesTo oneSecondLeft noEntries docCidr
        (icmpPacket (.v6 0x20010db8000000000000000000000001)) ∧
      ¬ (PolicyEntry.firewallRule (pingRule none)).CoversBoth oneSecondLeft noEntries docCidr := by
  have haccepted := (acceptedIcmp_pingRule oneSecondLeft.wallNow).1
  have hcontains : docCidr.toNetwork.Contains (.v6 0x20010db8000000000000000000000001) := by decide
  have hmissed : ¬ (PolicyEntry.firewallRule (pingRule none)).AppliesTo oneSecondLeft noEntries
      docCidr (icmpPacket (.v6 0x20010db8000000000000000000000001)) := by
    rw [appliesTo_icmp_iff haccepted]
    exact fun h => Bool.false_ne_true h.2.1
  refine ⟨haccepted, hcontains, hmissed, fun hcovers => hmissed ?_⟩
  refine (hcovers _ rfl hcontains).mpr fun other host hv4 hhost => ?_
  exact (appliesTo_icmp_iff haccepted).mpr ⟨hhost, hv4, rfl⟩

end Applies

end Enforcement
end XdpFirewall
