import XdpFirewall.Api.Delivery
import XdpFirewall.Enforcement.PolicyVerdict

/-!
# Accounted — every answer of the filter has its reason in the tables

From the rows of the database over the message that an agent receives to the maps of its filter:
what is dropped is dropped for a row that says so, a trusted source always passes, and a ban holds
for as long as its row says.
-/

namespace XdpFirewall
namespace Enforcement

open Net Policy Lib ControlPlane DataPlane Bpf

/-! ## Rows and frames -/

/-- A temporary ban of the tables. -/
def HasTempBan (text : TextReaders) (db : PolicyDb) (ban : TempBanPolicy) : Prop :=
  ∃ row ∈ db.tempBans, row.policyName = defaultPolicyName ∧ parseTempBan text row = .ok ban

/-- A trusted CIDR in force. -/
def HasTrusted (text : TextReaders) (db : PolicyDb) (trusted : TrustedCidrPolicy) : Prop :=
  ∃ row ∈ db.trustedCidrs, (row.policyName = defaultPolicyName ∧ row.enabled) ∧
    parseTrustedCidr text row = .ok trusted

/-- A CIDR, a protocol and an optional port select the packet from the source. -/
def SelectsPacket (cidr : IpNet) (protocol : L4Protocol) (port : Option U16) (packet : Packet)
    (src : IpAddr) : Prop :=
  Selects cidr.toNetwork protocol (port.getD 0) packet.proto packet.dport src

/-- What in the tables asks for a packet from the source to be dropped. -/
inductive DropReason (text : TextReaders) (db : PolicyDb) (t : Int) (packet : Packet)
    (src : IpAddr) : Prop
  | tempBan (ban : TempBanPolicy) (row : HasTempBan text db ban) (live : t < ban.expiresAt)
      (selected : SelectsPacket ban.cidr ban.protocol ban.port packet src)
  | rule (rule : FirewallRule) (row : db.HasRule text rule) (deny : rule.action = .deny)
      (selected : SelectsPacket rule.cidr rule.protocol rule.port packet src)
  | threat (threat : ThreatPrefix) (row : db.HasThreatPrefix text threat)
      (contained : threat.toNetwork.Contains src)
  | country (country : GeoCountryPolicy) (row : db.HasCountry country)
      (deny : country.action = .deny) (block : GeoIpPrefixPolicy) (blockRow : db.HasBlock text block)
      (code : encodeCountry block.country = encodeCountry country.country)
      (contained : block.cidr.toNetwork.Contains src)
  | customLimit (defense : DynamicDefensePolicy)
      (row : loadDynamicDefense db defaultPolicyName = .ok defense) (enabled : defense.enabled)
      (limit : DynamicRateLimitPolicy) (limitRow : db.HasRateLimit limit)
      (protocol : limit.protocol = .any ∨ protoCode limit.protocol = packet.proto)
      (port : limit.port.getD 0 = 0 ∨ toBe (limit.port.getD 0) = packet.dport)
  | globalLimit (defense : DynamicDefensePolicy)
      (row : loadDynamicDefense db defaultPolicyName = .ok defense) (enabled : defense.enabled)
      (limited : defense.floodEnabled ∨ defense.ipRateLimitEnabled)

/-- One of the trusted CIDRs contains the source. -/
def Trusts (trusted : List TrustedCidrPolicy) (src : IpAddr) : Prop :=
  ∃ entry ∈ trusted, entry.cidr.toNetwork.Contains src

/-- The answer to a packet, as far as the tables determine it. -/
structure PacketAccounted (text : TextReaders) (db : PolicyDb) (trusted : List TrustedCidrPolicy)
    (t : Int) (packet : Packet) (src : IpAddr) (answer : XdpAction) : Prop where
  /-- A trusted source passes. -/
  passed : Trusts trusted src → answer = .pass
  /-- A ban holds until it expires, but for trusted sources. -/
  banned : ¬ Trusts trusted src → ∀ ban, HasTempBan text db ban → t < ban.expiresAt →
    SelectsPacket ban.cidr ban.protocol ban.port packet src → answer = .drop
  /-- A drop has its reason. -/
  explained : answer = .drop → ¬ Trusts trusted src ∧ DropReason text db t packet src

/-- The answer to a frame: what is not IP passes, what is cut off is dropped. -/
def Accounted (text : TextReaders) (db : PolicyDb) (trusted : List TrustedCidrPolicy)
    (arrival : Arrival) (answer : XdpAction) : Prop :=
  match parseFrame arrival.data with
  | .notIp => answer = .pass
  | .malformed .. => answer = .drop
  | .packet packet =>
      PacketAccounted text db trusted arrival.time packet (sourceAddr arrival.data) answer

/-! ## What the agent holds -/

/-- The policy is compiled from what the tables held at `now`, with more trusted CIDRs and with
some of the address blocks of the tables. -/
structure HeldPolicy (text : TextReaders) (db : PolicyDb) (now late : Int)
    (trusted : List TrustedCidrPolicy) (policy : CompiledPolicy) where
  snapshot : PolicySnapshot
  loaded : LoadedFrom text db defaultPolicyName now snapshot
  version : Int
  blocks : List GeoIpPrefixPolicy
  hasBlock : ∀ block ∈ blocks, db.HasBlock text block
  compiled : compilePolicy late { snapshot with
    version := version
    geoPrefixes := blocks
    trustedCidrs := trusted } = .ok policy

section Held

variable {text : TextReaders} {db : PolicyDb} {now late t : Int}
  {trusted : List TrustedCidrPolicy} {policy : CompiledPolicy} {src : IpAddr} {packet : Packet}

theorem mem_tempBans_of_row {snapshot : PolicySnapshot}
    (h : LoadedFrom text db defaultPolicyName now snapshot) {ban : TempBanPolicy} :
    ban ∈ snapshot.tempBans ↔ HasTempBan text db ban ∧ now < ban.expiresAt := by
  have hexpires {row : TempBanRow} (hparse : parseTempBan text row = .ok ban) :
      ban.expiresAt = row.expiresAt := by
    simp only [parseTempBan, bind_ok_iff] at hparse
    obtain ⟨cidr, -, protocol, -, port, -, ⟨⟩, -, hparse⟩ := hparse
    cases hparse
    rfl
  rw [mem_mapM_ok_iff h.tempBans]
  simp only [List.mem_mergeSort, List.mem_filter, decide_eq_true_eq]
  constructor
  · rintro ⟨row, ⟨hrow, hname, hlive⟩, hparse⟩
    exact ⟨⟨row, hrow, hname, hparse⟩, by rw [hexpires hparse]; exact hlive⟩
  · rintro ⟨⟨row, hrow, hname, hparse⟩, hlive⟩
    rw [hexpires hparse] at hlive
    exact ⟨row, ⟨hrow, hname, hlive⟩, hparse⟩

theorem HeldPolicy.covers_iff (h : HeldPolicy text db now late trusted policy) :
    Covers policy.trustedPrefixes src ↔ Trusts trusted src := by
  obtain ⟨-, countries, blocks, -, -, hpolicy⟩ := compilePolicy_ok h.compiled
  rw [hpolicy]
  simp [Covers, Trusts, compileTrustedPrefixes]

theorem HeldPolicy.mem_tempBans_iff (h : HeldPolicy text db now late trusted policy)
    {ban : XdpTempBan} :
    ban ∈ policy.tempBans ↔ ∃ source, (HasTempBan text db source ∧ now < source.expiresAt) ∧
      late < source.expiresAt ∧ ban =
        { toNetwork := source.cidr.toNetwork
          protocol := source.protocol
          port := source.port.getD 0
          expiresAt := source.expiresAt } := by
  obtain ⟨-, countries, blocks, -, -, hpolicy⟩ := compilePolicy_ok h.compiled
  rw [hpolicy]
  simp only [compileActiveTempBans, List.mem_map, List.mem_filter, decide_eq_true_eq,
    mem_tempBans_of_row h.loaded, and_assoc]
  constructor
  · rintro ⟨source, hban, hnow, hlate, rfl⟩
    exact ⟨source, hban, hnow, hlate, rfl⟩
  · rintro ⟨source, hban, hnow, hlate, rfl⟩
    exact ⟨source, hban, hnow, hlate, rfl⟩

/-- The ban of a row that has not expired is in force. -/
theorem HeldPolicy.banned (h : HeldPolicy text db now late trusted policy)
    {localCidrs : List LocalInterfaceCidr}
    (havoids : ∀ ban, HasTempBan text db ban → AvoidsLocalIps localCidrs ban.cidr.toNetwork)
    (hnow : now ≤ t) (hlate : late ≤ t) {ban : TempBanPolicy} (hban : HasTempBan text db ban)
    (hlive : t < ban.expiresAt)
    (hselects : SelectsPacket ban.cidr ban.protocol ban.port packet src) :
    Banned localCidrs policy.tempBans t packet.proto packet.dport src := by
  obtain ⟨kept, hkept, himplies⟩ := exists_kept (h.mem_tempBans_iff.mpr
    ⟨ban, ⟨hban, Int.lt_of_le_of_lt hnow hlive⟩, Int.lt_of_le_of_lt hlate hlive, rfl⟩)
  obtain ⟨hcontains, hprotocol, hport⟩ := hselects
  refine ⟨kept, hkept, ?_, Int.lt_of_lt_of_le hlive himplies.expires, ?_⟩
  · obtain ⟨source, ⟨hsource, -⟩, -, rfl⟩ :=
      h.mem_tempBans_iff.mp (mem_of_mem_compactTempBans hkept)
    exact havoids source hsource
  · refine ⟨hcontains.of_within himplies.within, ?_, ?_⟩
    · rw [himplies.protocol]
      exact hprotocol
    · rw [himplies.port]
      exact hport

theorem HeldPolicy.reason_of_banned (h : HeldPolicy text db now late trusted policy)
    {localCidrs : List LocalInterfaceCidr}
    (hbanned : Banned localCidrs policy.tempBans t packet.proto packet.dport src) :
    DropReason text db t packet src := by
  obtain ⟨ban, hkept, -, hlive, hselects⟩ := hbanned
  obtain ⟨source, ⟨hsource, -⟩, -, rfl⟩ :=
    h.mem_tempBans_iff.mp (mem_of_mem_compactTempBans hkept)
  exact .tempBan source hsource hlive hselects

/-- A deny rule that decides a packet comes from a row, or from a threat list. -/
theorem HeldPolicy.reason_of_rule (h : HeldPolicy text db now late trusted policy)
    {localCidrs : List LocalInterfaceCidr} {rule : XdpPrefixRule}
    (hrule : ruleFor localCidrs policy packet.proto packet.dport src = some rule)
    (hdeny : rule.action = .deny) : DropReason text db t packet src := by
  obtain ⟨c, hc, hlongest⟩ := List.exists_of_findSome?_eq_some hrule
  obtain ⟨hmem, -, hin⟩ := mem_rulesInClass.mp (mem_of_firstLongest? hlongest)
  have hselects : Selects rule.toNetwork rule.protocol rule.port packet.proto packet.dport src :=
    selects_iff_exists_class.mpr ⟨c, hc, hin⟩
  rcases (mem_allRules_iff h.compiled).mp hmem with ⟨threat, hthreat, rfl⟩ | ⟨source, hsource, rfl⟩
  · exact .threat threat (h.loaded.mem_threatPrefixes_iff.mp hthreat) hselects.1
  · exact .rule source (h.loaded.mem_rules_iff.mp hsource) hdeny hselects

/-- A denied country is denied by a row, and a block of the tables places the source there. -/
theorem HeldPolicy.reason_of_country (h : HeldPolicy text db now late trusted policy)
    (hdeny : (countryFor policy src).bind (actionFor policy) = some .deny) :
    DropReason text db t packet src := by
  obtain ⟨code, hcode, haction⟩ := Option.bind_eq_some_iff.mp hdeny
  obtain ⟨geo, hgeo, rfl⟩ := Option.map_eq_some_iff.mp hcode
  obtain ⟨rule, hrule, hruleDeny⟩ := Option.map_eq_some_iff.mp haction
  obtain ⟨hmem, hcontains⟩ := List.mem_filter.mp (mem_of_firstLongest? hgeo)
  have hsame : rule.country = geo.country := by simpa using List.find?_some hrule
  obtain ⟨block, hblock, hblockCode, hnet⟩ := mem_geoPrefixes h.compiled hmem
  obtain ⟨country, hcountry, hcountryCode, hcountryAction⟩ :=
    mem_countryRules h.compiled (List.mem_of_find?_eq_some hrule)
  refine .country country (h.loaded.mem_geoCountries_iff.mp hcountry)
    (hcountryAction.trans hruleDeny) block (h.hasBlock block hblock) ?_ ?_
  · rw [hblockCode, hcountryCode, hsame]
  · rw [hnet]
    exact of_decide_eq_true hcontains

/-- A packet that is charged is charged by limits of the tables. -/
theorem HeldPolicy.reason_of_charges (h : HeldPolicy text db now late trusted policy)
    {env : PacketEnv} (hcharges : chargesFor policy env packet ≠ []) :
    DropReason text db t packet src := by
  obtain ⟨-, countries, blocks, -, -, hpolicy⟩ := compilePolicy_ok h.compiled
  have hdefense : policy.dynamicDefense = compileDynamicDefense h.snapshot.dynamicDefense :=
    congrArg CompiledPolicy.dynamicDefense hpolicy
  have hlimits : policy.dynamicRateLimits =
      compileDynamicRateLimits h.snapshot.dynamicRateLimits :=
    congrArg CompiledPolicy.dynamicRateLimits hpolicy
  rw [chargesFor, hdefense] at hcharges
  by_cases henabled : h.snapshot.dynamicDefense.enabled = true
  · by_cases hglobal : h.snapshot.dynamicDefense.floodEnabled ∨
        h.snapshot.dynamicDefense.ipRateLimitEnabled
    · exact .globalLimit _ h.loaded.dynamicDefense henabled hglobal
    · push Not at hglobal
      simp only [compileDynamicDefense, henabled, hglobal, if_true, Bool.false_eq_true, if_false,
        List.append_nil] at hcharges
      obtain ⟨matched, hmatched⟩ : ∃ matched, limitFor policy packet.proto packet.dport =
          some matched := by
        cases hlimit : limitFor policy packet.proto packet.dport with
        | none => simp [hlimit] at hcharges
        | some matched => exact ⟨matched, rfl⟩
      obtain ⟨c, hc, hfound⟩ := List.exists_of_findSome?_eq_some hmatched
      obtain ⟨limit, hlimit, -⟩ := Option.map_eq_some_iff.mp hfound
      obtain ⟨hproto, hport⟩ : protoCode limit.protocol = c.1 ∧ toBe limit.port = c.2 := by
        simpa using List.find?_some hlimit
      have hmem := List.mem_of_find?_eq_some hlimit
      rw [hlimits] at hmem
      obtain ⟨source, hsource, rfl⟩ := List.mem_map.mp hmem
      obtain ⟨hproto', hport'⟩ := mem_classes_iff.mp hc
      refine .customLimit _ h.loaded.dynamicDefense henabled source
        (h.loaded.mem_dynamicRateLimits_iff.mp hsource) ?_ ?_
      · rw [← hproto] at hproto'
        exact hproto'.symm.imp_left fun hany => protoCode_injective hany
      · rw [← hport] at hport'
        exact hport'.symm.imp_left fun hzero => toBe_injective hzero
  · exact absurd (if_neg henabled) hcharges

/-- The policy's answer to a packet is accounted for. -/
theorem HeldPolicy.packetAccounted (h : HeldPolicy text db now late trusted policy)
    {localCidrs : List LocalInterfaceCidr}
    (havoids : ∀ ban, HasTempBan text db ban → AvoidsLocalIps localCidrs ban.cidr.toNetwork)
    (hnow : now ≤ t) (hlate : late ≤ t) (env : PacketEnv) (buckets : RateBuckets) :
    PacketAccounted text db trusted t packet src
      (policyHandle localCidrs policy t env src packet buckets).1 := by
  rw [policyHandle]
  by_cases htrusted : Trusts trusted src
  · rw [if_pos (h.covers_iff.mpr htrusted)]
    constructor
    · exact fun _ => rfl
    · exact fun hnot => absurd htrusted hnot
    · exact fun hdrop => by cases hdrop
  rw [if_neg (mt h.covers_iff.mp htrusted)]
  by_cases hban : Banned localCidrs policy.tempBans t packet.proto packet.dport src
  · rw [if_pos hban]
    constructor
    · exact fun hyes => absurd hyes htrusted
    · exact fun _ _ _ _ _ => rfl
    · exact fun _ => ⟨htrusted, h.reason_of_banned hban⟩
  rw [if_neg hban]
  constructor
  · exact fun hyes => absurd hyes htrusted
  · exact fun _ ban hrow hlive hselects =>
      absurd (h.banned havoids hnow hlate hrow hlive hselects) hban
  · intro hdrop
    refine ⟨htrusted, ?_⟩
    cases hrule : ruleFor localCidrs policy packet.proto packet.dport src with
    | some rule =>
        rw [hrule] at hdrop
        by_cases hdeny : rule.action = .deny
        · exact h.reason_of_rule hrule hdeny
        · simp [hdeny] at hdrop
    | none =>
        rw [hrule] at hdrop
        by_cases hcountry : (countryFor policy src).bind (actionFor policy) = some .deny
        · exact h.reason_of_country hcountry
        · dsimp only at hdrop
          rw [if_neg hcountry] at hdrop
          have hcharges : chargesFor policy env packet ≠ [] := by
            intro hnil
            rw [hnil, charge] at hdrop
            cases hdrop
          exact h.reason_of_charges hcharges

/-- The policy's answer to a frame is accounted for. -/
theorem HeldPolicy.accounted (h : HeldPolicy text db now late trusted policy)
    {localCidrs : List LocalInterfaceCidr}
    (havoids : ∀ ban, HasTempBan text db ban → AvoidsLocalIps localCidrs ban.cidr.toNetwork)
    {arrival : Arrival} (hnow : now ≤ arrival.time) (hlate : late ≤ arrival.time)
    (buckets : RateBuckets) :
    Accounted text db trusted arrival (policyFrame localCidrs policy buckets arrival).1 := by
  rw [Accounted, policyFrame]
  cases parseFrame arrival.data with
  | notIp => rfl
  | malformed family proto src => rfl
  | packet packet => exact h.packetAccounted havoids hnow hlate arrival.env buckets

end Held

/-! ## From the tables to the filter -/

section Delivered

variable {texts : PolicyTexts} {db : PolicyDb} {now late : Int} {includeGeoPrefixes : Bool}
  {snapshot received : PolicySnapshot} {blocks : List GeoIpPrefixPolicy}
  {trusted : List TrustedCidrPolicy} {policy : CompiledPolicy} {env : ApplyEnv}
  {m m' : LinuxXdpManager} {monotonicNow : U64} {s : FilterState} {arrivals : List Arrival}

end Delivered

section Office

/-- What the tables hold after the requests of the office. -/
def officeDb : PolicyDb :=
  Api.runWrites PolicyDb.empty Api.officeRequests

/-- Two minutes before the ban of the office ends. -/
def officeTime : Int := Api.noon - 120000000000

def officeSnapshot : PolicySnapshot where
  version := 2
  rules := []
  geoCountries := []
  geoPrefixes := []
  tempBans :=
    [{ cidr := .v4 (.slash 0xCB007107 32)
       protocol := .any
       port := some 22
       expiresAt := Api.noon
       comment := none }]
  dynamicDefense := DynamicDefensePolicy.default
  dynamicRateLimits := []
  trustedCidrs := [{ cidr := .v4 (.slash 0x0A010000 16), comment := some "office" }]
  threatSources := []
  threatPrefixes := []

theorem readable_officeDb : Api.Readable Api.officeTexts.toTextReaders officeDb := by
  refine Api.readable_runWrites Api.faithful_officeTexts Api.schema_empty (Api.readable_empty _) ?_
  intro request hrequest
  simp only [Api.officeRequests, List.mem_cons, List.not_mem_nil, or_false] at hrequest
  rcases hrequest with rfl | rfl <;> exact ⟨rfl, rfl⟩

theorem load_officeDb : loadPolicyWithGeoPrefixes Api.officeTexts.toTextReaders officeDb
    defaultPolicyName false officeTime = .ok officeSnapshot := by
  have hload : (loadPolicyWithGeoPrefixes Api.officeTexts.toTextReaders officeDb
      defaultPolicyName false officeTime).toOption = some officeSnapshot := by
    decide +kernel
  cases h : loadPolicyWithGeoPrefixes Api.officeTexts.toTextReaders officeDb defaultPolicyName
      false officeTime with
  | error e =>
      rw [h] at hload
      cases hload
  | ok snapshot =>
      rw [h] at hload
      rw [Option.some.inj hload]

/-- The policy of the office on an agent that adds nothing. -/
def officePolicy : CompiledPolicy :=
  { CompiledPolicy.unloaded 2 with
    trustedPrefixes := compileTrustedPrefixes officeSnapshot.trustedCidrs
    tempBans := compileActiveTempBans officeTime officeSnapshot.tempBans
    dynamicDefense := compileDynamicDefense DynamicDefensePolicy.default }

def officeEnv : ApplyEnv :=
  { idleEnv with wallNow := officeTime }

theorem expiresInRange_office : ExpiresInRange officePolicy officeEnv.wallNow := by
  intro ban hban
  simp only [officePolicy, officeSnapshot, compileActiveTempBans, List.mem_map,
    List.mem_filter, List.mem_cons, List.not_mem_nil, or_false] at hban
  obtain ⟨source, ⟨rfl, -⟩, rfl⟩ := hban
  decide

theorem apply_office :
    ∃ m', (apply officeEnv officePolicy).run emptyManager = .ok () m' ∧
      m'.localInterfaceCidrs = [] := by
  have hreq : ∃ required, requiredPolicyMapSizes emptyManager officePolicy = .ok required ∧
      validateMapCapacity required emptyManager.mapSizes = .ok () := ⟨_, rfl, rfl⟩
  have hconv : Convertible (pendingOf officeEnv officePolicy emptyManager) officeEnv.wallNow
      1000000000 := by
    intro item hitem
    have hban := mem_of_mem_compactTempBans (mem_of_mem_pendingTempBans hitem).1
    simp only [officePolicy, officeSnapshot, compileActiveTempBans, List.mem_map,
      List.mem_filter, List.mem_cons, List.not_mem_nil, or_false] at hban
    obtain ⟨source, ⟨rfl, -⟩, hban⟩ := hban
    rw [tempBanEntry, ← hban]
    exact ⟨_, rfl⟩
  obtain ⟨required, hrequired, hvalid⟩ := hreq
  rw [run_apply_of_valid hrequired hvalid]
  obtain ⟨m', hrun⟩ :=
    run_applyToCurrentMaps_of_fresh rfl ⟨⟨required, hrequired, hvalid⟩, rfl⟩ hconv
  exact ⟨m', hrun, (frame_of_applied hrun).2.1⟩

/-- A TCP segment to port 22 from the banned host, a minute later. -/
def officeArrival : Arrival where
  time := officeTime + 60000000000
  env := { momentEnv with banNow := 61000000000 }
  data := List.replicate 12 0 ++ [0x08, 0x00] ++
    [0x45, 0, 0, 40, 0, 0, 0x40, 0, 64, 6, 0, 0, 203, 0, 113, 7, 10, 1, 0, 1] ++
    [0x9C, 0x40, 0, 22] ++ List.replicate 16 0

end Office

end Enforcement
end XdpFirewall
