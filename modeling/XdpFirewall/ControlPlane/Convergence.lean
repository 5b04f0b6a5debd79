import XdpFirewall.ControlPlane.SyncRun

/-!
# Convergence — an idle stream has delivered the policy of the database

Between commits, loads, pages, failures and reconnects, the agent can be handed policies that mix
several states of the tables. None of them is left behind: once nothing is under way and the
agent reports the version of the database, what it has written is what the tables give now,
together with the networks of the process, unless one of these is lost because it is spelled in two
ways.
-/

namespace XdpFirewall
namespace ControlPlane

open Lib Net Policy

/-! ## Contents -/

/-- Two policies with the same entries. The order of trusted networks and of address blocks does
not count. -/
structure SameContent (policy policy' : PolicySnapshot) : Prop where
  tables : { policy with trustedCidrs := [], geoPrefixes := [] } =
    { policy' with trustedCidrs := [], geoPrefixes := [] }
  trusted : ∀ entry, entry ∈ policy.trustedCidrs ↔ entry ∈ policy'.trustedCidrs
  blocks : ∀ block, block ∈ policy.geoPrefixes ↔ block ∈ policy'.geoPrefixes

/-- The policy of the database with the networks of the process and those of the agent's control
URL. -/
def deliveredPolicy (env : SyncEnv) (runtime : RuntimeTrustedCidrs) (content : PolicySnapshot) :
    PolicySnapshot :=
  addControlPlaneTrustedCidrs env.control (withRuntimeCidrs content runtime.currentSnapshot)

/-- The blocks that are fetched page by page are those that come with `load_policy`. -/
theorem loadPolicy_of_withoutGeoPrefixes {text : TextReaders} {db : PolicyDb} {now : Int}
    {base : PolicySnapshot} {blocks : List GeoIpPrefixPolicy}
    (hbase : loadPolicyWithoutGeoPrefixes text db defaultPolicyName now = .ok base)
    (hblocks : loadPersistedGeoPrefixes text db (enabledGeoCountries db) = .ok blocks) :
    ∃ own, loadPolicy text db defaultPolicyName now = .ok { base with geoPrefixes := own } ∧
      ∀ block, block ∈ blocks ↔ block ∈ own := by
  -- Both loads ask the same queries; only the one for the blocks is missing here.
  obtain ⟨rules, hrules, h⟩ := bind_ok_iff.mp hbase
  obtain ⟨countries, hcountries, h⟩ := bind_ok_iff.mp h
  obtain ⟨none, -, h⟩ := bind_ok_iff.mp h
  obtain ⟨sources, hsources, h⟩ := bind_ok_iff.mp h
  obtain ⟨prefixes, hprefixes, h⟩ := bind_ok_iff.mp h
  obtain ⟨defense, hdefense, h⟩ := bind_ok_iff.mp h
  obtain ⟨limits, hlimits, h⟩ := bind_ok_iff.mp h
  obtain ⟨bans, hbans, h⟩ := bind_ok_iff.mp h
  obtain ⟨trusted, htrusted, h⟩ := bind_ok_iff.mp h
  cases h
  obtain ⟨own, hown⟩ := exists_loadPersistedGeoPrefixes hcountries hblocks
  refine ⟨own, ?_, fun block => (mem_loadPersistedGeoPrefixes hcountries hown hblocks block).symm⟩
  simp only [loadPolicy, loadPolicyWithGeoPrefixes, hrules, hcountries, loadGeoPrefixes, if_true,
    hown, hsources, hprefixes, hdefense, hlimits, hbans, htrusted, bind, Except.bind]
  rfl

theorem inject_of_fromProcess {runtime : RuntimeTrustedCidrs}
    {snapshot : RuntimeTrustedCidrSnapshot} (h : FromProcess runtime snapshot) :
    snapshot.inject = snapshot.all := by
  obtain ⟨cache, rfl⟩ := h
  exact currentSnapshot_inject _

section Content

variable {env : SyncEnv} {clock : Int → Prop} {db : PolicyDb} {runtime : RuntimeTrustedCidrs}

theorem mem_foldl_pushTrusted_congr {comment : String} {cidrs : List IpNet}
    {trusted trusted' : List TrustedCidrPolicy} (h : ∀ entry, entry ∈ trusted ↔ entry ∈ trusted')
    (entry : TrustedCidrPolicy) :
    entry ∈ cidrs.foldl (pushTrusted comment) trusted ↔
      entry ∈ cidrs.foldl (pushTrusted comment) trusted' := by
  simp only [mem_foldl_pushTrusted, trustedNetworks, List.mem_map, h]

/-- A policy that was built with the networks in force is the one to be delivered. -/
theorem BuiltWhole.sameContent {networks : RuntimeTrustedCidrSnapshot} {snapshot : PolicySnapshot}
    (h : BuiltWhole env clock db networks snapshot) (hprocess : FromProcess runtime networks)
    (hall : ∀ cidr, cidr ∈ networks.all ↔ cidr ∈ runtime.currentSnapshot.all) :
    ∃ now content, clock now ∧ loadPolicy env.text db defaultPolicyName now = .ok content ∧
      SameContent (addControlPlaneTrustedCidrs env.control snapshot)
        (deliveredPolicy env runtime content) := by
  obtain ⟨_, blocks, ⟨now, base, hnow, hbase, rfl⟩, hblocks, rfl⟩ := h
  obtain ⟨own, hload, hown⟩ := loadPolicy_of_withoutGeoPrefixes hbase hblocks
  have htrusted : ∀ entry, entry ∈ (withRuntimeCidrs base networks).trustedCidrs ↔
      entry ∈ (withRuntimeCidrs base runtime.currentSnapshot).trustedCidrs :=
    mem_withRuntimeCidrs_congr (inject_of_fromProcess hprocess) (currentSnapshot_inject runtime)
      hall
  exact ⟨now, _, hnow, hload, rfl, mem_foldl_pushTrusted_congr htrusted, hown⟩

theorem covered_deliveredPolicy {content : PolicySnapshot} {ip : IpAddr} :
    Covered (trustedNetworks (deliveredPolicy env runtime content).trustedCidrs) ip ↔
      Covered (trustedNetworks content.trustedCidrs) ip ∨
        Covered runtime.currentSnapshot.all ip ∨ Covered env.control ip := by
  rw [deliveredPolicy, addControlPlaneTrustedCidrs, covered_foldl_pushTrusted,
    covered_withRuntimeCidrs (currentSnapshot_inject runtime) (incomparable_currentSnapshot runtime),
    or_assoc]

theorem SameContent.covered {policy policy' : PolicySnapshot} (h : SameContent policy policy')
    {ip : IpAddr} :
    Covered (trustedNetworks policy.trustedCidrs) ip ↔
      Covered (trustedNetworks policy'.trustedCidrs) ip := by
  simp only [Covered, trustedNetworks, List.mem_map, h.trusted]

end Content

/-! ## Trusted addresses -/

/-- The trusted networks of the database contain the address. -/
def DatabaseTrusts (env : SyncEnv) (db : PolicyDb) (ip : IpAddr) : Prop :=
  ∃ trusted, loadTrustedCidrs env.text db defaultPolicyName = .ok trusted ∧
    Covered (trustedNetworks trusted) ip

/-- A policy trusts what the database, these networks and the agent's control URL say. -/
def TrustsExactly (env : SyncEnv) (db : PolicyDb) (cidrs : List IpNet) (policy : PolicySnapshot) :
    Prop :=
  ∀ ip, Covered (trustedNetworks policy.trustedCidrs) ip ↔
    DatabaseTrusts env db ip ∨ Covered cidrs ip ∨ Covered env.control ip

/-- A network that is spelled in two ways is part of a larger one or trusted without it. -/
def SpelledOnce (env : SyncEnv) (s : SyncState) : Prop :=
  ∀ cidr ∈ s.runtime.cidrs, SpelledTwice s.runtime.cidrs cidr → ¬ HasWider s.runtime.cidrs cidr →
    ∀ ip, cidr.contains ip → DatabaseTrusts env s.db ip ∨ Covered env.control ip

/-- A policy has what the tables say, and beyond that nothing but networks of these or of the
agent's control URL that it trusts. -/
structure KeepsContent (env : SyncEnv) (cidrs : List IpNet) (content policy : PolicySnapshot) :
    Prop where
  tables : { policy with trustedCidrs := [], geoPrefixes := [] } =
    { content with trustedCidrs := [], geoPrefixes := [] }
  blocks : ∀ block, block ∈ policy.geoPrefixes ↔ block ∈ content.geoPrefixes
  kept : ∀ entry ∈ content.trustedCidrs, entry ∈ policy.trustedCidrs
  added : ∀ entry ∈ policy.trustedCidrs, entry ∉ content.trustedCidrs →
    entry.cidr ∈ cidrs ∨ entry.cidr ∈ env.control

/-- It also trusts all of the addresses that the tables, these networks and those of the control URL
contain. -/
structure HoldsContent (env : SyncEnv) (cidrs : List IpNet) (content policy : PolicySnapshot) :
    Prop extends KeepsContent env cidrs content policy where
  trusted : ∀ ip, Covered (trustedNetworks policy.trustedCidrs) ip ↔
    Covered (trustedNetworks content.trustedCidrs) ip ∨ Covered cidrs ip ∨ Covered env.control ip

section Trust

variable {env : SyncEnv} {s : SyncState}

theorem loadTrustedCidrs_of_loadPolicy {text : TextReaders} {db : PolicyDb} {policyName : String}
    {includeGeoPrefixes : Bool} {now : Int} {base : PolicySnapshot}
    (h : loadPolicyWithGeoPrefixes text db policyName includeGeoPrefixes now = .ok base) :
    loadTrustedCidrs text db policyName = .ok base.trustedCidrs := by
  obtain ⟨rules, -, h⟩ := bind_ok_iff.mp h
  obtain ⟨countries, -, h⟩ := bind_ok_iff.mp h
  obtain ⟨blocks, -, h⟩ := bind_ok_iff.mp h
  obtain ⟨sources, -, h⟩ := bind_ok_iff.mp h
  obtain ⟨prefixes, -, h⟩ := bind_ok_iff.mp h
  obtain ⟨defense, -, h⟩ := bind_ok_iff.mp h
  obtain ⟨limits, -, h⟩ := bind_ok_iff.mp h
  obtain ⟨bans, -, h⟩ := bind_ok_iff.mp h
  obtain ⟨trusted, htrusted, h⟩ := bind_ok_iff.mp h
  cases h
  exact htrusted

theorem databaseTrusts_iff_of_loadPolicy {db : PolicyDb} {includeGeoPrefixes : Bool} {now : Int}
    {content : PolicySnapshot}
    (h : loadPolicyWithGeoPrefixes env.text db defaultPolicyName includeGeoPrefixes now =
      .ok content) (ip : IpAddr) :
    DatabaseTrusts env db ip ↔ Covered (trustedNetworks content.trustedCidrs) ip := by
  simp [DatabaseTrusts, loadTrustedCidrs_of_loadPolicy h]

/-- The maps trust what compaction left of the networks, so the question is which addresses it did
not leave. -/
theorem trustsExactly_cidrs_iff {written : List PolicySnapshot} (hne : written ≠ [])
    (htrusts : ∀ policy ∈ written,
      TrustsExactly env s.db s.runtime.currentSnapshot.all policy) :
    (∀ policy ∈ written, TrustsExactly env s.db s.runtime.cidrs policy) ↔ SpelledOnce env s := by
  have hkept : (∀ policy ∈ written, TrustsExactly env s.db s.runtime.cidrs policy) ↔
      ∀ ip, Covered s.runtime.cidrs ip →
        Covered s.runtime.currentSnapshot.all ip ∨
          DatabaseTrusts env s.db ip ∨ Covered env.control ip := by
    constructor
    · intro hall ip hip
      -- All policies trust the same addresses, so that any of them decides.
      obtain ⟨policy, hpolicy⟩ := List.exists_mem_of_ne_nil _ hne
      have hcovered := (hall policy hpolicy ip).mpr (Or.inr (Or.inl hip))
      rcases (htrusts policy hpolicy ip).mp hcovered with hdb | hkept | hcontrol
      · exact Or.inr (Or.inl hdb)
      · exact Or.inl hkept
      · exact Or.inr (Or.inr hcontrol)
    · intro hall policy hpolicy ip
      rw [htrusts policy hpolicy ip]
      constructor
      · rintro (hdb | hkept | hcontrol)
        · exact Or.inl hdb
        · exact Or.inr (Or.inl (covered_cidrs_of_all hkept))
        · exact Or.inr (Or.inr hcontrol)
      · rintro (hdb | hcidr | hcontrol)
        · exact Or.inl hdb
        · rcases hall ip hcidr with hkept | hdb | hcontrol
          · exact Or.inr (Or.inl hkept)
          · exact Or.inl hdb
          · exact Or.inr (Or.inr hcontrol)
        · exact Or.inr (Or.inr hcontrol)
  rw [hkept, covered_cidrs_iff]
  rfl

/-- Compaction adds no network of its own. -/
theorem mem_trusted_deliveredPolicy {runtime : RuntimeTrustedCidrs} {content : PolicySnapshot}
    {entry : TrustedCidrPolicy}
    (h : entry ∈ (deliveredPolicy env runtime content).trustedCidrs) :
    entry ∈ content.trustedCidrs ∨ entry.cidr ∈ runtime.cidrs ∨ entry.cidr ∈ env.control := by
  rcases mem_foldl_pushTrusted.mp h with hsent | ⟨cidr, hcidr, -, rfl⟩
  · rcases mem_foldl_pushTrusted.mp hsent with htable | ⟨cidr, hcidr, hnew, rfl⟩
    · exact Or.inl htable
    · have hall := (mem_compactRuntimeTrustedCidrs (currentSnapshot_inject runtime)).mp
        ⟨hcidr, hnew⟩
      exact Or.inr (Or.inl (mem_currentSnapshot_all.mp hall.1).1)
  · exact Or.inr (Or.inr hcidr)

/-- A policy as it is delivered has what the tables say. -/
theorem SameContent.keepsContent {runtime : RuntimeTrustedCidrs} {content policy : PolicySnapshot}
    (h : SameContent policy (deliveredPolicy env runtime content)) :
    KeepsContent env runtime.cidrs content policy where
  tables := h.tables
  blocks := h.blocks
  kept := by
    intro entry hentry
    rw [h.trusted]
    exact mem_foldl_pushTrusted.mpr (Or.inl (mem_foldl_pushTrusted.mpr (Or.inl hentry)))
  added := by
    intro entry hentry hnew
    rw [h.trusted] at hentry
    exact (mem_trusted_deliveredPolicy hentry).resolve_left hnew

theorem SameContent.trustsExactly {content policy : PolicySnapshot} {now : Int}
    (h : SameContent policy (deliveredPolicy env s.runtime content))
    (hload : loadPolicy env.text s.db defaultPolicyName now = .ok content) :
    TrustsExactly env s.db s.runtime.currentSnapshot.all policy := by
  intro ip
  rw [databaseTrusts_iff_of_loadPolicy hload, h.covered, covered_deliveredPolicy]

/-- It holds the content, once it trusts the right addresses. -/
theorem SameContent.holdsContent_iff_trusts {content policy : PolicySnapshot} {now : Int}
    (h : SameContent policy (deliveredPolicy env s.runtime content))
    (hload : loadPolicy env.text s.db defaultPolicyName now = .ok content) :
    HoldsContent env s.runtime.cidrs content policy ↔
      TrustsExactly env s.db s.runtime.cidrs policy := by
  simp only [TrustsExactly, databaseTrusts_iff_of_loadPolicy hload]
  exact ⟨HoldsContent.trusted, fun htrusted => { h.keepsContent with trusted := htrusted }⟩

/-- That is so when no network is lost because it is spelled in two ways. -/
theorem SameContent.holdsContent_iff {content policy : PolicySnapshot} {now : Int}
    (h : SameContent policy (deliveredPolicy env s.runtime content))
    (hload : loadPolicy env.text s.db defaultPolicyName now = .ok content) :
    HoldsContent env s.runtime.cidrs content policy ↔ SpelledOnce env s := by
  have hone : ∀ other ∈ [policy],
      TrustsExactly env s.db s.runtime.currentSnapshot.all other :=
    List.forall_mem_singleton.mpr (h.trustsExactly hload)
  rw [h.holdsContent_iff_trusts hload,
    ← trustsExactly_cidrs_iff (List.cons_ne_nil policy []) hone, List.forall_mem_singleton]

end Trust

/-! ## Idle streams -/

section Idle

variable {env : SyncEnv} {clock : Int → Prop} {s : SyncState}

/-- The networks of a process at two times are the same when it has none, or when their
fingerprints agree. -/
theorem mem_iff_of_fromProcess {runtime : RuntimeTrustedCidrs}
    {networks : RuntimeTrustedCidrSnapshot} (hprints : PrintsApart env.display)
    (hprocess : FromProcess runtime networks)
    (hsame : runtime.enabled = false ∨
      env.fingerprint networks = env.fingerprint runtime.currentSnapshot) (cidr : IpNet) :
    cidr ∈ networks.all ↔ cidr ∈ runtime.currentSnapshot.all := by
  rcases hsame with henabled | hfingerprint
  · obtain ⟨cache, rfl⟩ := hprocess
    have hcache : ({ runtime with cache := cache } : RuntimeTrustedCidrs).enabled = false := henabled
    rw [currentSnapshot_all_of_not_enabled henabled, currentSnapshot_all_of_not_enabled hcache]
  · exact mem_iff_of_cidrFingerprint_eq hprints hfingerprint cidr

/-- On an idle stream the agent has the version of the database, and the maps hold the policy
that was sent last; or nothing was sent since the agent subscribed, which a process without
networks allows. -/
theorem SyncInv.idle_cases {K : RuntimeTrustedCidrSnapshot → Prop} (h : SyncInv env clock K s)
    (hidle : Idle env s) :
    s.agent.appliedVersion = s.version ∧
      ((∃ networks policy, FromProcess s.runtime networks ∧
          (s.runtime.enabled = false ∨
            env.fingerprint networks = env.fingerprint s.runtime.currentSnapshot) ∧
          s.agent.written = [policy] ∧ Written env clock s.db networks policy) ∨
        (s.runtime.enabled = false ∧ ∃ stream, s.stream = some stream ∧
          stream.cursor.runtimeFingerprint = none ∧ s.version ≤ stream.cursor.version)) := by
  obtain ⟨hqueue, htask, stream, hstream, -, hunchanged⟩ := hidle
  rw [policyUpdateUnchanged, Bool.and_eq_true, Bool.or_eq_true, Bool.not_eq_eq_eq_not,
    Bool.not_true, decide_eq_true_eq, decide_eq_true_eq] at hunchanged
  obtain ⟨hversion, hsame⟩ := hunchanged
  have happlied := h.applied_le
  have hcursor := (h.stream stream hstream).cursor
  unfold CursorOk at hcursor
  cases hfp : stream.cursor.runtimeFingerprint with
  | none =>
      -- The cursor is still that of the subscription: the server found nothing to send.
      rw [hfp] at hcursor hsame
      have henabled : s.runtime.enabled = false := hsame.resolve_right (by simp)
      exact ⟨by omega, Or.inr ⟨henabled, stream, hstream, hfp, hversion⟩⟩
  | some fingerprint =>
      rw [hfp] at hcursor hsame
      obtain ⟨networks, hprocess, rfl, hlast⟩ := hcursor
      -- Nothing is queued, so the agent holds the last policy that was sent.
      unfold LastOk at hlast
      rw [hqueue] at hlast
      unfold HeldOk at hlast
      rw [htask] at hlast
      obtain ⟨policy, hwritten, heq, hle, hpolicy⟩ := hlast
      have hsame : s.runtime.enabled = false ∨
          env.fingerprint networks = env.fingerprint s.runtime.currentSnapshot := by
        simpa using hsame
      exact ⟨by omega, Or.inl ⟨networks, policy, hprocess, hsame, hwritten, hpolicy⟩⟩

/-- Whatever has been written under the version of the database was built from its tables. -/
theorem SyncInv.built_of_written {K : RuntimeTrustedCidrSnapshot → Prop}
    (h : SyncInv env clock K s) (happlied : s.agent.appliedVersion = s.version)
    {policy : PolicySnapshot} (hpolicy : policy ∈ s.agent.written)
    {networks : RuntimeTrustedCidrSnapshot} (hwritten : Written env clock s.db networks policy) :
    ∃ snapshot, BuiltWhole env clock s.db networks snapshot ∧
      policy = addControlPlaneTrustedCidrs env.control snapshot := by
  have hnonneg := h.version_nonneg
  have hle := (h.written policy hpolicy).1 (by omega)
  rw [happlied] at hle
  exact hwritten.2 (Int.le_antisymm hwritten.1 hle)

end Idle

/-! ## Delivery -/

section Delivery

variable {env : SyncEnv} {s : SyncState} {stream : PolicyStream}

/-- The queries of one load, with the clock at the query for temporary bans. -/
def loadEvents (now : Int) : List SyncEvent :=
  loadOrder.map fun _ => .readTable now

theorem run_readTables {version now : Int} {networks : RuntimeTrustedCidrSnapshot}
    {snapshot base : PolicySnapshot} {tables rest : List PolicyTable}
    (hstream : s.stream =
      some { stream with task := .loading version networks snapshot (tables ++ rest) })
    (hload : tables.foldlM (loadTable env.text s.db defaultPolicyName false now) snapshot =
      .ok base) :
    run (syncStep env) s (tables.map fun _ => .readTable now) =
      some (s.withStream { stream with task := .loading version networks base rest }) := by
  -- One table a step; what has been read so far is in the task of the stream.
  induction tables generalizing s snapshot with
  | nil =>
      cases hload
      rw [List.nil_append] at hstream
      rw [SyncState.withStream, ← hstream]
      rfl
  | cons table tables ih =>
      rw [List.foldlM_cons] at hload
      obtain ⟨snapshot', htable, hload⟩ := bind_ok_iff.mp hload
      have hrest := ih (s := s.withStream
        { stream with task := .loading version networks snapshot' (tables ++ rest) }) rfl hload
      refine run_cons_eq_some_iff.mpr ⟨_, ?_, hrest⟩
      simp only [List.cons_append] at hstream
      simp only [syncStep, hstream, streamStep, htable]

/-- A tick that finds something new starts a load. -/
theorem run_startLoad (hstream : s.stream = some { stream with task := .ticking })
    (hnew : policyUpdateUnchanged s.version stream.cursor.version s.runtime
      stream.cursor.runtimeFingerprint (env.fingerprint s.runtime.currentSnapshot) = false) :
    run (syncStep env) s [.readVersion, .readRuntime, .readPolicyVersion] =
      some (s.withStream
        { stream with
          task := .loading s.version s.runtime.currentSnapshot (PolicySnapshot.unread s.version)
            loadOrder }) := by
  simp only [run, syncStep, hstream, streamStep, SyncState.withStream, SyncState.version,
    Option.bind_some]
  rw [SyncState.version] at hnew
  simp only [hnew]
  rfl

/-- A tick that finds something new sends what the tables give. -/
theorem run_push {now : Int} {base : PolicySnapshot}
    (hstream : s.stream = some { stream with task := .ticking })
    (hnew : policyUpdateUnchanged s.version stream.cursor.version s.runtime
      stream.cursor.runtimeFingerprint (env.fingerprint s.runtime.currentSnapshot) = false)
    (hload : loadPolicyWithoutGeoPrefixes env.text s.db defaultPolicyName now = .ok base) :
    run (syncStep env) s ([.readVersion, .readRuntime, .readPolicyVersion] ++ loadEvents now ++
        [.sendUpdate true]) =
      some
        { s with
          stream := some
            { stream with
              cursor :=
                { version := s.version
                  runtimeFingerprint := some (env.fingerprint s.runtime.currentSnapshot)
                  dropMonitorEnabled := s.monitored env }
              task := .waiting }
          queue := s.queue ++
            [policyUpdate s.version (withRuntimeCidrs base s.runtime.currentSnapshot)
              (s.monitored env)] } := by
  rw [loadPolicyWithoutGeoPrefixes, loadPolicyWithGeoPrefixes_eq_foldlM] at hload
  have htables := @run_readTables env
    (s.withStream
      { stream with
        task := .loading s.version s.runtime.currentSnapshot (PolicySnapshot.unread s.version)
          loadOrder })
    stream s.version now s.runtime.currentSnapshot (PolicySnapshot.unread s.version) base loadOrder
    [] (by rw [List.append_nil]; rfl) hload
  rw [List.append_assoc, run_append, run_startLoad hstream hnew, Option.bind_some, run_append,
    loadEvents, htables]
  rfl

/-- A policy that arrives is applied, here without address blocks. -/
theorem run_receive {snapshot : PolicySnapshot} {queue : List PolicyUpdate} {enabled : Bool}
    (htask : s.agent.task = .waiting)
    (hqueue : s.queue = policyUpdate s.version snapshot enabled :: queue)
    (hcountries : enabledGeoCountries s.db = []) :
    run (syncStep env) s [.receive, .grantPage, .readCountries, .readCountry, .apply true] =
      some
        { s with
          queue := queue
          agent :=
            { appliedVersion := snapshot.version
              task := .waiting
              written := [addControlPlaneTrustedCidrs env.control
                { snapshot with geoPrefixes := [] }]
              dropMonitor := enabled } } := by
  -- Without a country to fetch, the first page is empty and the last one.
  let fetch : GeoFetch :=
    { snapshot := snapshot
      version := s.version
      dropMonitorEnabled := enabled
      received := []
      token := (0, 0) }
  let waiting : SyncState := { s with queue := queue }
  have hreceive : syncStep env s .receive = some (waiting.withTask (.asking fetch)) := by
    simp only [syncStep, htask, agentStep, hqueue]
    rfl
  have hgrant : syncStep env (waiting.withTask (.asking fetch)) .grantPage =
      some (waiting.withTask (.granted fetch)) :=
    if_neg fun h => h.2 rfl
  have hread : syncStep env (waiting.withTask (.granted fetch)) .readCountries =
      some (waiting.withTask (.paging fetch { items := [], next := none } [])) := by
    have hnone : (enabledGeoCountries waiting.db).zipIdx.drop 0 = [] := by
      rw [hcountries]
      rfl
    simp only [syncStep, agentStep, SyncState.withTask, AgentTask.isOffline, Bool.false_eq_true,
      if_false, fetch, hnone]
  rw [run_cons_eq_some_iff]
  refine ⟨_, hreceive, run_cons_eq_some_iff.mpr ⟨_, hgrant, run_cons_eq_some_iff.mpr ⟨_, hread, ?_⟩⟩⟩
  rfl

/-- A tick and what follows until the agent has applied the policy. -/
def deliveryEvents (now : Int) : List SyncEvent :=
  [.readVersion, .readRuntime, .readPolicyVersion] ++ loadEvents now ++ [.sendUpdate true] ++
    [.receive, .grantPage, .readCountries, .readCountry, .apply true]

/-- The state of the stream and the agent once a policy has been delivered. -/
def SyncState.delivered (env : SyncEnv) (s : SyncState) (changed : Bool) (base : PolicySnapshot) :
    SyncState :=
  let policy := addControlPlaneTrustedCidrs env.control
    { withRuntimeCidrs base s.runtime.currentSnapshot with geoPrefixes := [] }
  { s with
    stream := some
      { cursor :=
          { version := s.version
            runtimeFingerprint := some (env.fingerprint s.runtime.currentSnapshot)
            dropMonitorEnabled := s.monitored env }
        task := .waiting
        changed := changed }
    queue := []
    agent :=
      { appliedVersion := policy.version
        task := .waiting
        written := [policy]
        dropMonitor := s.monitored env } }

theorem run_delivery {now : Int} {base : PolicySnapshot}
    (hstream : s.stream = some { stream with task := .ticking })
    (hnew : policyUpdateUnchanged s.version stream.cursor.version s.runtime
      stream.cursor.runtimeFingerprint (env.fingerprint s.runtime.currentSnapshot) = false)
    (hload : loadPolicyWithoutGeoPrefixes env.text s.db defaultPolicyName now = .ok base)
    (hcountries : enabledGeoCountries s.db = []) (hqueue : s.queue = [])
    (htask : s.agent.task = .waiting) :
    run (syncStep env) s (deliveryEvents now) = some (s.delivered env stream.changed base) := by
  let sent : SyncState :=
    { s with
      stream := some
        { stream with
          cursor :=
            { version := s.version
              runtimeFingerprint := some (env.fingerprint s.runtime.currentSnapshot)
              dropMonitorEnabled := s.monitored env }
          task := .waiting }
      queue := [policyUpdate s.version (withRuntimeCidrs base s.runtime.currentSnapshot)
        (s.monitored env)] }
  have hreceive := @run_receive env sent (withRuntimeCidrs base s.runtime.currentSnapshot) []
    (s.monitored env) htask rfl hcountries
  rw [deliveryEvents, run_append, run_push hstream hnew hload, Option.bind_some, hqueue]
  exact hreceive

theorem idle_delivered {base : PolicySnapshot} (changed : Bool) :
    Idle env (s.delivered env changed base) := by
  refine ⟨rfl, rfl, _, rfl, rfl, ?_⟩
  simp [policyUpdateUnchanged, SyncState.delivered, SyncState.version]

/-- The state of an agent that comes to a node without viewers. -/
def SyncState.subscribed (s : SyncState) : SyncState :=
  { s.withTask .waiting with
    stream := some
      { cursor :=
          { version := s.agent.appliedVersion
            runtimeFingerprint := none
            dropMonitorEnabled := false }
        task := .ticking
        changed := false }
    queue := [] }

theorem step_commit {db : PolicyDb} (h : CommitOk s.db db) :
    syncStep env s (.commit db) = some { s with db := db } :=
  if_pos h

theorem step_subscribe (htask : s.agent.task = .offline) (hmonitored : s.monitored env = false) :
    syncStep env s .subscribe = some s.subscribed := by
  simp only [syncStep, htask, AgentTask.isOffline, if_true, offlineStep, hmonitored,
    Bool.false_eq_true, if_false]
  rfl

/-- An agent that comes gets the policy, unless its version and the process say that it has it. -/
theorem run_subscribe_delivery {now : Int} {base : PolicySnapshot}
    (htask : s.agent.task = .offline) (hmonitored : s.monitored env = false)
    (hnew : policyUpdateUnchanged s.version s.agent.appliedVersion s.runtime none
      (env.fingerprint s.runtime.currentSnapshot) = false)
    (hload : loadPolicyWithoutGeoPrefixes env.text s.db defaultPolicyName now = .ok base)
    (hcountries : enabledGeoCountries s.db = []) :
    run (syncStep env) s (.subscribe :: deliveryEvents now) =
      some (s.delivered env false base) := by
  let stream : PolicyStream :=
    { cursor :=
        { version := s.agent.appliedVersion
          runtimeFingerprint := none
          dropMonitorEnabled := false }
      task := .ticking
      changed := false }
  have hdelivery := @run_delivery env s.subscribed stream now base rfl hnew hload hcountries rfl rfl
  exact run_cons_eq_some_iff.mpr ⟨_, step_subscribe htask hmonitored, hdelivery⟩

/-- The first policy that an agent gets. -/
theorem run_first_delivery {runtime : RuntimeTrustedCidrs} {db : PolicyDb} {now : Int}
    {base : PolicySnapshot} (hversion : 0 < policyVersion db defaultPolicyName)
    (hload : loadPolicyWithoutGeoPrefixes env.text db defaultPolicyName now = .ok base)
    (hcountries : enabledGeoCountries db = []) :
    run (syncStep env) (SyncState.start runtime)
        ([.commit db, .subscribe] ++ deliveryEvents now) =
      some ({ SyncState.start runtime with db := db }.delivered env false base) := by
  have hok : CommitOk (SyncState.start runtime).db db := Or.inl hversion
  have hlt : ¬ policyVersion db defaultPolicyName ≤ -1 := by omega
  have hnew : policyUpdateUnchanged (policyVersion db defaultPolicyName) (-1) runtime none
      (env.fingerprint runtime.currentSnapshot) = false := by
    simp [policyUpdateUnchanged, hlt]
  have hdelivery := @run_subscribe_delivery env { SyncState.start runtime with db := db } now base
    rfl rfl hnew hload hcountries
  exact run_cons_eq_some_iff.mpr ⟨_, step_commit hok, hdelivery⟩

end Delivery

/-! ## Convergence -/

section Convergence

variable {env : SyncEnv} {runtime : RuntimeTrustedCidrs}

theorem syncInv_start (clock : Int → Prop) (K : RuntimeTrustedCidrSnapshot → Prop)
    (hK : ∀ networks, FromProcess runtime networks → K networks) :
    SyncInv env clock K (SyncState.start runtime) where
  process := hK
  version_nonneg := (by decide : (0 : Int) ≤ 0)
  applied_le := (by decide : (-1 : Int) ≤ 0)
  written_ne := fun hle => absurd hle (by decide : ¬ (0 : Int) ≤ -1)
  written := by
    intro policy hpolicy
    cases hpolicy
  ordered := List.pairwise_singleton _ _
  queue := by
    intro update hupdate
    cases hupdate
  task := ⟨runtime.currentSnapshot, hK _ ⟨runtime.cache, rfl⟩, trivial⟩
  offline := fun _ => ⟨rfl, rfl⟩
  stream := by
    intro stream hstream
    cases hstream

/-- A restart comes up with this configuration. -/
def KeepsConfiguration (runtime : RuntimeTrustedCidrs) (e : SyncEvent) : Prop :=
  ∀ configured k8sDiscovery, e = .restart configured k8sDiscovery →
    configured = runtime.configured ∧ k8sDiscovery = runtime.k8sDiscovery

/-- The process may have discovered other networks since then. -/
def SameConfiguration (runtime runtime' : RuntimeTrustedCidrs) : Prop :=
  runtime'.configured = runtime.configured ∧ runtime'.k8sDiscovery = runtime.k8sDiscovery

theorem SameConfiguration.fromProcess {runtime' : RuntimeTrustedCidrs}
    (h : SameConfiguration runtime runtime') {networks : RuntimeTrustedCidrSnapshot} :
    FromProcess runtime' networks ↔ FromProcess runtime networks := by
  unfold FromProcess
  cases runtime
  cases runtime'
  obtain ⟨rfl, rfl⟩ := h
  rfl

theorem SameConfiguration.step {s s' : SyncState} {e : SyncEvent}
    (h : SameConfiguration runtime s.runtime) (hkeeps : KeepsConfiguration runtime e)
    (hstep : syncStep env s e = some s') : SameConfiguration runtime s'.runtime := by
  rcases (syncStep_move hstep).runtime_cases with heq | ⟨cidrs, rfl, heq⟩ |
    ⟨configured, k8sDiscovery, rfl, heq⟩
  · rw [heq]
    exact h
  · rw [heq]
    exact h
  · rw [heq]
    exact hkeeps configured k8sDiscovery rfl

/-- An idle stream has delivered the policy of the database with what compaction left of the
networks of the process. -/
theorem written_sameContent_of_idle {es : List SyncEvent} {s : SyncState}
    (hprints : PrintsApart env.display) (hkeeps : ∀ e ∈ es, KeepsConfiguration runtime e)
    (hrun : run (syncStep env) (SyncState.start runtime) es = some s) (hidle : Idle env s) :
    s.agent.appliedVersion = s.version ∧ s.agent.written ≠ [] ∧
      ∀ policy ∈ s.agent.written, ∃ now content, .readTable now ∈ es ∧
        loadPolicy env.text s.db defaultPolicyName now = .ok content ∧
        SameContent policy (deliveredPolicy env s.runtime content) := by
  let clock : Int → Prop := fun now => .readTable now ∈ es
  have hstep (s : SyncState) (e : SyncEvent) (s' : SyncState)
      (h : SyncInv env clock (FromProcess runtime) s ∧ SameConfiguration runtime s.runtime)
      (hstep : syncStep env s e = some s') (he : e ∈ es) :
      SyncInv env clock (FromProcess runtime) s' ∧ SameConfiguration runtime s'.runtime := by
    have hsame' := h.2.step (hkeeps e he) hstep
    exact ⟨h.1.step hstep (fun _ => hsame'.fromProcess.mp) fun now heq => (heq ▸ he : _ ∈ es),
      hsame'⟩
  obtain ⟨hinv, hsame⟩ := run_invariant_of_each hstep
    ⟨syncInv_start clock _ fun _ h => h, rfl, rfl⟩ (eachStep_of_forall_mem fun _ h => h) hrun
  obtain ⟨happlied, hcases⟩ := hinv.idle_cases hidle
  have hnonneg := hinv.version_nonneg
  refine ⟨happlied, hinv.written_ne (by omega), fun policy hpolicy => ?_⟩
  obtain ⟨networks, hprocess, hall, hwritten⟩ : ∃ networks, FromProcess s.runtime networks ∧
      (∀ cidr, cidr ∈ networks.all ↔ cidr ∈ s.runtime.currentSnapshot.all) ∧
        Written env clock s.db networks policy := by
    -- Either the maps hold the policy that was sent last, or the process has no networks and what
    -- an earlier stream has delivered is still right.
    rcases hcases with ⟨networks, sent, hprocess, hagree, hwritten, hsent⟩ | ⟨henabled, -⟩
    · rw [hwritten, List.mem_singleton] at hpolicy
      subst hpolicy
      exact ⟨networks, hprocess, mem_iff_of_fromProcess hprints hprocess hagree, hsent⟩
    · obtain ⟨-, networks, hK, hwritten⟩ := hinv.written policy hpolicy
      have hprocess := hsame.fromProcess.mpr hK
      exact ⟨networks, hprocess, mem_iff_of_fromProcess hprints hprocess (Or.inl henabled),
        hwritten⟩
  obtain ⟨snapshot, hbuilt, rfl⟩ := hinv.built_of_written happlied hpolicy hwritten
  exact hbuilt.sameContent hprocess hall

/-- An idle stream has delivered the content of the database with the networks of the process,
exactly when none of these is lost because it is spelled in two ways. -/
theorem holdsContent_of_idle {es : List SyncEvent} {s : SyncState}
    (hprints : PrintsApart env.display) (hkeeps : ∀ e ∈ es, KeepsConfiguration runtime e)
    (hrun : run (syncStep env) (SyncState.start runtime) es = some s) (hidle : Idle env s) :
    s.agent.appliedVersion = s.version ∧ s.agent.written ≠ [] ∧
      ((∀ policy ∈ s.agent.written, ∃ now content, .readTable now ∈ es ∧
          loadPolicy env.text s.db defaultPolicyName now = .ok content ∧
          HoldsContent env s.runtime.cidrs content policy) ↔
        SpelledOnce env s) := by
  obtain ⟨happlied, hne, hall⟩ := written_sameContent_of_idle hprints hkeeps hrun hidle
  refine ⟨happlied, hne, ?_⟩
  have htrusts : ∀ policy ∈ s.agent.written,
      TrustsExactly env s.db s.runtime.currentSnapshot.all policy := by
    intro policy hpolicy
    obtain ⟨now, content, -, hload, hcontent⟩ := hall policy hpolicy
    exact hcontent.trustsExactly hload
  rw [← trustsExactly_cidrs_iff hne htrusts]
  constructor
  · intro hholds policy hpolicy ip
    obtain ⟨now, content, -, hload, hcontent⟩ := hholds policy hpolicy
    rw [databaseTrusts_iff_of_loadPolicy hload]
    exact hcontent.trusted ip
  · intro hexact policy hpolicy
    obtain ⟨now, content, hread, hload, hcontent⟩ := hall policy hpolicy
    exact ⟨now, content, hread, hload,
      (hcontent.holdsContent_iff_trusts hload).mpr (hexact policy hpolicy)⟩

/-- The network 203.0.113.0/24. -/
def documentationCidr : IpNet :=
  .v4 (.slash 0xCB007100 24)

/-- Text that tells any two networks apart, for `documentationCidr` the one that it prints. -/
def spelledCidr (cidr : IpNet) : String :=
  if cidr = documentationCidr then
    "203.0.113.0/24"
  else
    String.ofList ((if cidr.addr.isIpv4 then '4' else '6') ::
      (List.replicate (addrValue cidr.addr) 'a' ++ List.replicate cidr.prefixLen 'b'))

theorem eq_of_addrValue_eq {a b : IpAddr} (hfamily : a.isIpv4 = b.isIpv4)
    (h : addrValue a = addrValue b) : a = b := by
  cases a <;> cases b <;> first
    | exact congrArg _ (BitVec.eq_of_toNat_eq h)
    | cases hfamily

theorem printsApart_spelledCidr : PrintsApart spelledCidr where
  injective := by
    intro a b h
    unfold spelledCidr at h
    by_cases ha : a = documentationCidr
    · by_cases hb : b = documentationCidr
      · rw [ha, hb]
      · rw [if_pos ha, if_neg hb, String.ext_iff] at h
        have hhead := congrArg List.head? h
        cases hfamily : b.addr.isIpv4 <;> rw [hfamily] at hhead <;> simp at hhead
    · by_cases hb : b = documentationCidr
      · rw [if_neg ha, if_pos hb, String.ext_iff] at h
        have hhead := congrArg List.head? h
        cases hfamily : a.addr.isIpv4 <;> rw [hfamily] at hhead <;> simp at hhead
      · rw [if_neg ha, if_neg hb, String.ofList_inj, List.cons.injEq] at h
        have hfamily : a.addr.isIpv4 = b.addr.isIpv4 := by
          cases hfa : a.addr.isIpv4 <;> cases hfb : b.addr.isIpv4 <;> simp [hfa, hfb] at h ⊢
        -- The letters count the address and the length of the prefix.
        have haddr := congrArg (List.count 'a') h.2
        have hlen := congrArg (List.count 'b') h.2
        simp [List.count_replicate] at haddr hlen
        have hsame : IpNet.new? a.addr a.prefixLen = IpNet.new? b.addr b.prefixLen := by
          rw [eq_of_addrValue_eq hfamily haddr, hlen]
        rw [IpNet.new?_addr, IpNet.new?_addr] at hsame
        exact Option.some.inj hsame
  comma_free := by
    intro cidr
    unfold spelledCidr
    split
    · decide
    · cases cidr.addr.isIpv4 <;> simp [List.mem_replicate]
  ne_empty := by
    intro cidr
    unfold spelledCidr
    split
    · decide
    · simp [← String.toList_inj]

/-- A database with a version and no rows. -/
def versionDb (version : Int) : PolicyDb :=
  { PolicyDb.empty with
    policyVersions := [{ policyName := defaultPolicyName, version := version }] }

theorem loadPolicy_versionDb (text : TextReaders) (version now : Int) :
    loadPolicyWithoutGeoPrefixes text (versionDb version) defaultPolicyName now =
      .ok (PolicySnapshot.unread version) := by
  have hdefault : validateDynamicDefensePolicy DynamicDefensePolicy.default = .ok () := by decide
  simp [hdefault, normalizeThreatPrefixes, loadPolicyWithoutGeoPrefixes,
    loadPolicyWithGeoPrefixes, versionDb, PolicyDb.empty, loadFirewallRules, loadGeoCountries,
    loadGeoPrefixes, loadThreatSources, loadPersistedThreatPrefixes, loadDynamicDefense,
    loadDynamicRateLimits, loadActiveTempBans, loadTrustedCidrs, PolicySnapshot.unread,
    policyVersion, bind, Except.bind, pure, Except.pure]

theorem enabledGeoCountries_versionDb (version : Int) :
    enabledGeoCountries (versionDb version) = [] := by
  simp [enabledGeoCountries, versionDb, PolicyDb.empty]

/-- Every text is refused. -/
def noText : TextReaders where
  ipNet := fun _ => none
  ipAddr := fun _ => none
  cidrArray := fun _ => []
  stringArray := fun _ => none

def operatorEnv : SyncEnv where
  text := noText
  display := spelledCidr
  control := []
  nodeId := "edge-1"

/-- An operator trusts `documentationCidr`. -/
def operatorRuntime : RuntimeTrustedCidrs where
  configured := [documentationCidr]
  k8sDiscovery := false
  cache := []

theorem run_operator_delivery :
    run (syncStep operatorEnv) (SyncState.start operatorRuntime)
        ([.commit (versionDb 1), .subscribe] ++ deliveryEvents 100) =
      some ({ SyncState.start operatorRuntime with db := versionDb 1 }.delivered operatorEnv false
        (PolicySnapshot.unread 1)) :=
  run_first_delivery (by decide) (loadPolicy_versionDb noText 1 100)
    (enabledGeoCountries_versionDb 1)

/-- Surroundings in which one network of the tables can be read. -/
def officeEnv : SyncEnv :=
  { operatorEnv with
    text :=
      { noText with
        ipNet := fun value =>
          if value = "198.51.100.0/24" then some (.v4 (.slash 0xC6336400 24)) else none } }

/-- Two tables have a row that `versionDb 1` does not have. -/
def officeDb : PolicyDb :=
  { versionDb 2 with
    dynamicDefense :=
      [{ policyName := defaultPolicyName
         enabled := true
         ipRateLimitEnabled := false
         ipPacketsPerSecond := none
         ipBurst := none
         floodEnabled := false
         floodPacketsPerSecond := none
         floodBurst := none
         floodBlockSeconds := none }]
    trustedCidrs :=
      [{ id := 1
         policyName := defaultPolicyName
         enabled := true
         cidr := "198.51.100.0/24"
         comment := none }] }

def officeDefense : DynamicDefensePolicy where
  enabled := true
  ipRateLimitEnabled := false
  ipPacketsPerSecond := none
  ipBurst := none
  floodEnabled := false
  floodPacketsPerSecond := none
  floodBurst := none
  floodBlockSeconds := none

def officeTrusted : TrustedCidrPolicy where
  cidr := .v4 (.slash 0xC6336400 24)
  comment := none

theorem loadTables_versionDb :
    (loadOrder.take 6).foldlM
        (loadTable officeEnv.text (versionDb 1) defaultPolicyName false 100)
        (PolicySnapshot.unread 1) = .ok (PolicySnapshot.unread 1) := by
  have hdefault : validateDynamicDefensePolicy DynamicDefensePolicy.default = .ok () := by decide
  simp [hdefault, loadOrder, loadTable, normalizeThreatPrefixes, versionDb, PolicyDb.empty,
    loadFirewallRules, loadGeoCountries, loadGeoPrefixes, loadThreatSources,
    loadPersistedThreatPrefixes, loadDynamicDefense, PolicySnapshot.unread, bind, Except.bind, pure,
    Except.pure]

theorem loadTrustedCidrs_officeDb :
    loadTrustedCidrs officeEnv.text officeDb defaultPolicyName = .ok [officeTrusted] := by
  simp [loadTrustedCidrs, officeDb, officeEnv, parseTrustedCidr, parseCidr, officeTrusted, bind,
    Except.bind, pure, Except.pure]

theorem loadDynamicDefense_officeDb :
    loadDynamicDefense officeDb defaultPolicyName = .ok officeDefense := by
  have hvalid : validateDynamicDefensePolicy officeDefense = .ok () := by decide
  rw [officeDefense] at hvalid
  simp [loadDynamicDefense, officeDb, parseDynamicDefense, optionalInt32ToU32, officeDefense,
    hvalid, bind, Except.bind, pure, Except.pure]

/-- A load that began before a commit and ended after it mixes the two. -/
theorem loadTables_officeDb :
    (loadOrder.drop 6).foldlM
        (loadTable officeEnv.text officeDb defaultPolicyName false 101)
        (PolicySnapshot.unread 1) =
      .ok { PolicySnapshot.unread 1 with trustedCidrs := [officeTrusted] } := by
  simp only [loadOrder, List.drop, List.foldlM_cons, List.foldlM_nil, loadTable,
    loadTrustedCidrs_officeDb]
  simp [loadDynamicRateLimits, loadActiveTempBans, officeDb, versionDb, PolicyDb.empty,
    PolicySnapshot.unread, bind, Except.bind, pure, Except.pure]

theorem loadPolicy_officeDb (now : Int) :
    loadPolicyWithoutGeoPrefixes officeEnv.text officeDb defaultPolicyName now =
      .ok { PolicySnapshot.unread 2 with
        dynamicDefense := officeDefense
        trustedCidrs := [officeTrusted] } := by
  simp only [loadPolicyWithoutGeoPrefixes, loadPolicyWithGeoPrefixes, loadTrustedCidrs_officeDb,
    loadDynamicDefense_officeDb]
  simp [loadFirewallRules, loadGeoCountries, loadGeoPrefixes, loadThreatSources,
    loadPersistedThreatPrefixes, normalizeThreatPrefixes, loadDynamicRateLimits,
    loadActiveTempBans, officeDb, versionDb, PolicyDb.empty, PolicySnapshot.unread, policyVersion,
    bind, Except.bind, pure, Except.pure]

/-- A load with a commit between its queries. The page that the agent asks for is refused, since
the version has changed. -/
def tornLoad : List SyncEvent :=
  [.readVersion, .readRuntime, .readPolicyVersion] ++
    ((loadOrder.take 6).map fun _ => .readTable 100) ++ [.commit officeDb] ++
    ((loadOrder.drop 6).map fun _ => .readTable 101) ++ [.sendUpdate true, .receive, .grantPage]

theorem run_tornLoad :
    run (syncStep officeEnv)
        { SyncState.start operatorRuntime with db := versionDb 1 }.subscribed tornLoad =
      some { SyncState.start operatorRuntime with db := officeDb } := by
  let s : SyncState := { SyncState.start operatorRuntime with db := versionDb 1 }.subscribed
  let stream : PolicyStream :=
    { cursor :=
        { version := -1
          runtimeFingerprint := none
          dropMonitorEnabled := false }
      task := .ticking
      changed := false }
  let networks := operatorRuntime.currentSnapshot
  let loading (tables : List PolicyTable) : SyncState := s.withStream
    { stream with task := .loading 1 networks (PolicySnapshot.unread 1) tables }
  have hstart : run (syncStep officeEnv) s [.readVersion, .readRuntime, .readPolicyVersion] =
      some (loading loadOrder) :=
    @run_startLoad officeEnv s stream rfl rfl
  -- Six queries find the tables as they were, the others find them after the commit.
  have hfirst : run (syncStep officeEnv) (loading loadOrder)
      ((loadOrder.take 6).map fun _ => .readTable 100) = some (loading (loadOrder.drop 6)) :=
    @run_readTables officeEnv (loading loadOrder) stream 1 100 networks _ _ _ (loadOrder.drop 6)
      rfl loadTables_versionDb
  have hcommit : run (syncStep officeEnv) (loading (loadOrder.drop 6)) [.commit officeDb] =
      some { loading (loadOrder.drop 6) with db := officeDb } :=
    run_cons_eq_some_iff.mpr
      ⟨_, step_commit (Or.inl (by decide) : CommitOk (versionDb 1) officeDb), rfl⟩
  have hsecond := @run_readTables officeEnv { loading (loadOrder.drop 6) with db := officeDb }
    stream 1 101 networks _ _ (loadOrder.drop 6) [] rfl loadTables_officeDb
  rw [tornLoad, run_append, run_append, run_append, run_append, hstart, Option.bind_some, hfirst,
    Option.bind_some, hcommit, Option.bind_some, hsecond]
  rfl

def tornEvents : List SyncEvent :=
  [.commit (versionDb 1), .subscribe] ++ (tornLoad ++ .subscribe :: deliveryEvents 200)

theorem run_tornEvents :
    run (syncStep officeEnv) (SyncState.start operatorRuntime) tornEvents =
      some ({ SyncState.start operatorRuntime with db := officeDb }.delivered officeEnv false
        { PolicySnapshot.unread 2 with
          dynamicDefense := officeDefense
          trustedCidrs := [officeTrusted] }) := by
  have hfirst : run (syncStep officeEnv) (SyncState.start operatorRuntime)
      [.commit (versionDb 1), .subscribe] =
        some { SyncState.start operatorRuntime with db := versionDb 1 }.subscribed :=
    run_cons_eq_some_iff.mpr
      ⟨_, step_commit (Or.inl (by decide) : CommitOk PolicyDb.empty (versionDb 1)),
        run_cons_eq_some_iff.mpr ⟨_, step_subscribe rfl rfl, rfl⟩⟩
  have hagain := @run_subscribe_delivery officeEnv
    { SyncState.start operatorRuntime with db := officeDb } 200 _ rfl rfl rfl
    (loadPolicy_officeDb 200) (enabledGeoCountries_versionDb 2)
  rw [tornEvents, run_append, hfirst, Option.bind_some, run_append, run_tornLoad, Option.bind_some,
    hagain]

theorem spelledOnce_operator {env : SyncEnv} {s : SyncState} (h : s.runtime = operatorRuntime) :
    SpelledOnce env s := by
  intro cidr hcidr htwice
  obtain ⟨other, hother, hne, -⟩ := htwice
  rw [h] at hcidr hother
  exact absurd ((List.mem_singleton.mp hother).trans (List.mem_singleton.mp hcidr).symm) hne

/-- A commit tears a load, the agent does not get the pages of that policy, and the policy that it
gets when it comes again holds the content. -/
theorem holdsContent_of_idle_torn :
    ∃ s, run (syncStep officeEnv) (SyncState.start operatorRuntime) tornEvents = some s ∧
      s.agent.appliedVersion = s.version ∧ s.agent.written ≠ [] ∧
        ∀ policy ∈ s.agent.written, ∃ now content, .readTable now ∈ tornEvents ∧
          loadPolicy officeEnv.text s.db defaultPolicyName now = .ok content ∧
          HoldsContent officeEnv s.runtime.cidrs content policy := by
  have hkeeps : ∀ e ∈ tornEvents, KeepsConfiguration operatorRuntime e := by
    intro e he configured k8sDiscovery hrestart
    subst hrestart
    simp [tornEvents, tornLoad, deliveryEvents, loadEvents, loadOrder] at he
  obtain ⟨happlied, hne, hholds⟩ := holdsContent_of_idle printsApart_spelledCidr hkeeps
    run_tornEvents (idle_delivered false)
  exact ⟨_, run_tornEvents, happlied, hne, hholds.mpr (spelledOnce_operator rfl)⟩

/-- The operator names a network in two ways. The stream is idle, and the agent trusts no address of
that network. -/
theorem spelled_twice_not_held :
    normalizeRuntimeTrustedCidrs readSpellings ["10.0.0.1/8, 10.0.0.0/8"] = .ok spellings ∧
      ∃ s, run (syncStep operatorEnv) (SyncState.start (RuntimeTrustedCidrs.of spellings none))
          ([.commit (versionDb 1), .subscribe] ++ deliveryEvents 100) = some s ∧
        Idle operatorEnv s ∧ s.agent.appliedVersion = s.version ∧
        ∃ policy ∈ s.agent.written, ∀ now content,
          loadPolicy operatorEnv.text s.db defaultPolicyName now = .ok content →
          ¬ HoldsContent operatorEnv s.runtime.cidrs content policy := by
  have hrun := @run_first_delivery operatorEnv (RuntimeTrustedCidrs.of spellings none)
    (versionDb 1) 100 _ (by decide) (loadPolicy_versionDb noText 1 100)
    (enabledGeoCountries_versionDb 1)
  refine ⟨normalize_spellings, _, hrun, idle_delivered false, rfl, _, List.mem_singleton_self _, ?_⟩
  intro now content _ hholds
  -- The address 10.0.0.5 is in both spellings, and compaction has left neither.
  have hnamed : Covered (RuntimeTrustedCidrs.of spellings none).cidrs (.v4 0x0A000005) :=
    ⟨.v4 (.slash 0x0A000000 8), by decide, by decide⟩
  obtain ⟨cidr, hcidr, -⟩ := (hholds.trusted (.v4 0x0A000005)).mpr (Or.inr (Or.inl hnamed))
  have hnone : trustedNetworks (withRuntimeCidrs (PolicySnapshot.unread 1)
      (RuntimeTrustedCidrs.of spellings none).currentSnapshot).trustedCidrs = [] := by
    decide
  exact absurd (hnone ▸ hcidr : cidr ∈ []) List.not_mem_nil

end Convergence

end ControlPlane
end XdpFirewall
