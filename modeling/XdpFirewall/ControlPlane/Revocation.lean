import XdpFirewall.ControlPlane.Convergence

/-!
# Revocation — networks that the operator no longer trusts

The networks of a process are part of what an agent applies, but not of the version that it
reports. When an agent comes back, a process with networks of its own sends its policy in any
case; one without them believes the version, and leaves in the maps what an earlier process had
put there.
-/

namespace XdpFirewall
namespace ControlPlane

open Lib Net Policy

/-! ## Clean subscriptions -/

/-- An agent that subscribes gets a policy, or the maps trust nothing of an earlier process. -/
def SubscribesClean (env : SyncEnv) (s : SyncState) (e : SyncEvent) : Prop :=
  e = .subscribe → s.runtime.enabled ∨ s.agent.appliedVersion < s.version ∨
    ∀ policy ∈ s.agent.written, TrustsExactly env s.db [] policy

section

variable {env : SyncEnv} {s s' : SyncState}

theorem databaseTrusts_commit {db db' : PolicyDb}
    (hactive : db'.active defaultPolicyName = db.active defaultPolicyName) (ip : IpAddr) :
    DatabaseTrusts env db' ip ↔ DatabaseTrusts env db ip := by
  unfold DatabaseTrusts
  rw [← loadTrustedCidrs_active env.text db', hactive, loadTrustedCidrs_active]

/-- A policy of the tables trusts what the tables and the networks it was built with trust. -/
theorem BuiltWhole.trusted {clock : Int → Prop} {db : PolicyDb}
    {networks : RuntimeTrustedCidrSnapshot} {snapshot : PolicySnapshot}
    (h : BuiltWhole env clock db networks snapshot) (hinject : networks.inject = networks.all)
    (hincomparable : Incomparable networks.all) :
    TrustsExactly env db networks.all (addControlPlaneTrustedCidrs env.control snapshot) := by
  obtain ⟨_, blocks, ⟨now, base, -, hbase, rfl⟩, -, rfl⟩ := h
  intro ip
  rw [databaseTrusts_iff_of_loadPolicy hbase, addControlPlaneTrustedCidrs,
    covered_foldl_pushTrusted, ← or_assoc, ← covered_withRuntimeCidrs hinject hincomparable]

theorem incomparable_of_fromProcess {runtime : RuntimeTrustedCidrs}
    {networks : RuntimeTrustedCidrSnapshot} (h : FromProcess runtime networks) :
    Incomparable networks.all := by
  obtain ⟨cache, rfl⟩ := h
  exact incomparable_currentSnapshot _

theorem TrustsExactly.congr {db : PolicyDb} {cidrs cidrs' : List IpNet} {policy : PolicySnapshot}
    (h : TrustsExactly env db cidrs policy) (hcidrs : ∀ cidr, cidr ∈ cidrs ↔ cidr ∈ cidrs') :
    TrustsExactly env db cidrs' policy := by
  intro ip
  rw [h ip]
  simp only [Covered, hcidrs]

/-! ## The invariant -/

/-- A stream without a push that would be idle now has an agent whose maps are clean. -/
def CleanUnlessPushed (env : SyncEnv) (s : SyncState) : Prop :=
  ∀ stream, s.stream = some stream → stream.cursor.runtimeFingerprint = none →
    s.runtime.enabled = false → s.version ≤ stream.cursor.version →
      ∀ policy ∈ s.agent.written, TrustsExactly env s.db [] policy

/-- What is known of the networks of every policy. -/
def NetworksOk (networks : RuntimeTrustedCidrSnapshot) : Prop :=
  networks.inject = networks.all ∧ Incomparable networks.all

theorem networksOk_of_fromProcess {runtime : RuntimeTrustedCidrs}
    {networks : RuntimeTrustedCidrSnapshot} (h : FromProcess runtime networks) :
    NetworksOk networks :=
  ⟨inject_of_fromProcess h, incomparable_of_fromProcess h⟩

variable {clock : Int → Prop}

/-- Until a policy is sent on a stream, the agent has none to apply. -/
theorem SyncInv.not_applying {K : RuntimeTrustedCidrSnapshot → Prop} (h : SyncInv env clock K s)
    {stream : PolicyStream} (hstream : s.stream = some stream)
    (hnone : stream.cursor.runtimeFingerprint = none) (snapshot : PolicySnapshot) :
    s.agent.task ≠ .applying snapshot := by
  intro htask
  have hcursor := (h.stream stream hstream).cursor
  unfold CursorOk at hcursor
  rw [hnone] at hcursor
  obtain ⟨hflight, -⟩ := hcursor
  simp [SyncState.flight, htask, AgentTask.policy] at hflight

theorem CleanUnlessPushed.agentMove (h : CleanUnlessPushed env s)
    (hinv : SyncInv env clock NetworksOk s) (hmove : AgentMove env s s') :
    CleanUnlessPushed env s' := by
  intro stream hstream hnone henabled hversion
  have hsame := hmove.sameSurroundings
  have hold : s.stream = some stream := by
    rcases hmove.stream with heq | heq
    · rw [← heq]
      exact hstream
    · rw [heq] at hstream
      cases hstream
  have hwritten : s'.agent.written = s.agent.written := by
    rcases hmove.written with heq | ⟨snapshot, htask⟩
    · exact heq
    · exact absurd htask (hinv.not_applying hold hnone snapshot)
  rw [hsame.runtime] at henabled
  rw [SyncState.version, hsame.db] at hversion
  rw [hwritten, hsame.db]
  exact h stream hold hnone henabled hversion

theorem CleanUnlessPushed.streamMove {stream : PolicyStream} {e : SyncEvent}
    (h : CleanUnlessPushed env s) (hstream : s.stream = some stream)
    (hmove : StreamMove env s stream e s') : CleanUnlessPushed env s' := by
  intro stream' hstream' hnone henabled hversion
  have hsame := hmove.sameSurroundings
  obtain ⟨hold, hcursor⟩ := hmove.cursor hstream' hnone
  rw [hsame.runtime] at henabled
  rw [SyncState.version, hsame.db, hcursor] at hversion
  rw [hmove.agent, hsame.db]
  exact h stream hstream hold henabled hversion

theorem CleanUnlessPushed.commit {db : PolicyDb} (h : CleanUnlessPushed env s)
    (hinv : SyncInv env clock NetworksOk s) (hcommit : CommitOk s.db db) :
    CleanUnlessPushed env { s with db := db } := by
  intro stream hstream hnone henabled hversion policy hpolicy
  have hle := version_le_of_commit hcommit
  rcases hcommit with hlt | hactive
  · -- The cursor has the version that the agent applied, which is now too old.
    have hcursor := (hinv.stream stream hstream).cursor
    unfold CursorOk at hcursor
    rw [hnone] at hcursor
    have happlied := hinv.applied_le
    have hversion : policyVersion db defaultPolicyName ≤ stream.cursor.version := hversion
    rw [SyncState.version] at happlied
    omega
  · intro ip
    rw [databaseTrusts_commit hactive]
    exact h stream hstream hnone henabled (hle.trans hversion) policy hpolicy ip

theorem CleanUnlessPushed.offlineStep {e : SyncEvent} (hinv : SyncInv env clock NetworksOk s)
    (htask : s.agent.task = .offline) (hclean : SubscribesClean env s e)
    (hstep : offlineStep env s e = some s') : CleanUnlessPushed env s' := by
  have hnone := (hinv.offline htask).1
  cases e <;> simp only [ControlPlane.offlineStep] at hstep <;> cases hstep
  case subscribe =>
    intro stream hstream _ henabled hversion
    cases hstream
    have hversion : s.version ≤ s.agent.appliedVersion := hversion
    rcases hclean rfl with hclean | hlt | hclean
    · have henabled : s.runtime.enabled = false := henabled
      rw [hclean] at henabled
      cases henabled
    · omega
    · exact hclean
  case unload | startAgent =>
    intro stream hstream
    have hstream : s.stream = some stream := hstream
    rw [hnone] at hstream
    cases hstream

theorem CleanUnlessPushed.step {e : SyncEvent} (h : CleanUnlessPushed env s)
    (hinv : SyncInv env clock NetworksOk s) (hclean : SubscribesClean env s e)
    (hstep : syncStep env s e = some s') : CleanUnlessPushed env s' := by
  cases syncStep_move hstep with
  | commit db hok => exact h.commit hinv hok
  | discover cidrs hk8s => exact h
  | restart configured k8sDiscovery =>
      intro stream hstream
      cases hstream
  | hub e hub =>
      intro stream hstream
      obtain ⟨old, hold, rfl⟩ := Option.map_eq_some_iff.mp hstream
      exact h old hold
  | offline e s' htask hstep => exact CleanUnlessPushed.offlineStep hinv htask hclean hstep
  | agent e s' htask hmove => exact h.agentMove hinv hmove
  | stream e s' stream hstream hmove => exact h.streamMove hstream hmove

/-! ## Idle streams -/

/-- On an idle stream every policy in the maps trusts the networks that the process keeps. -/
theorem trustsExactly_of_idle (h : SyncInv env clock NetworksOk s) (hclean : CleanUnlessPushed env s)
    (hprints : PrintsApart env.display) (hidle : Idle env s) :
    ∀ policy ∈ s.agent.written,
      TrustsExactly env s.db s.runtime.currentSnapshot.all policy := by
  intro policy hpolicy
  obtain ⟨happlied, hcases⟩ := h.idle_cases hidle
  rcases hcases with ⟨networks, sent, hprocess, hagree, hwritten, hsent⟩ |
    ⟨henabled, stream, hstream, hnone, hversion⟩
  · rw [hwritten, List.mem_singleton] at hpolicy
    subst hpolicy
    have hmem : policy ∈ s.agent.written := by simp [hwritten]
    obtain ⟨snapshot, hbuilt, rfl⟩ := h.built_of_written happlied hmem hsent
    obtain ⟨hinject, hincomparable⟩ := networksOk_of_fromProcess hprocess
    exact (hbuilt.trusted hinject hincomparable).congr
      (mem_iff_of_fromProcess hprints hprocess hagree)
  · rw [currentSnapshot_all_of_not_enabled henabled]
    exact hclean stream hstream hnone henabled hversion policy hpolicy

/-- Revocation reaches the maps: on an idle stream they trust what the database and the networks
now in force say, as long as agents subscribe clean and no network is spelled in two ways. -/
theorem trustsExactly_cidrs_of_idle {runtime : RuntimeTrustedCidrs} {es : List SyncEvent}
    (hprints : PrintsApart env.display)
    (hclean : EachStep (syncStep env) (fun s e _ => SubscribesClean env s e)
      (SyncState.start runtime) es)
    (hrun : run (syncStep env) (SyncState.start runtime) es = some s) (hidle : Idle env s) :
    s.agent.written ≠ [] ∧
      ((∀ policy ∈ s.agent.written, TrustsExactly env s.db s.runtime.cidrs policy) ↔
        SpelledOnce env s) := by
  have hstep (s : SyncState) (e : SyncEvent) (s' : SyncState)
      (h : SyncInv env (fun _ => True) NetworksOk s ∧ CleanUnlessPushed env s)
      (hstep : syncStep env s e = some s') (hclean : SubscribesClean env s e) :
      SyncInv env (fun _ => True) NetworksOk s' ∧ CleanUnlessPushed env s' :=
    ⟨h.1.step hstep (fun _ => networksOk_of_fromProcess) fun _ _ => trivial,
      h.2.step h.1 hclean hstep⟩
  have hstart : CleanUnlessPushed env (SyncState.start runtime) := by
    intro stream hstream
    cases hstream
  obtain ⟨hinv, hpushed⟩ := run_invariant_of_each hstep
    ⟨syncInv_start _ _ fun _ => networksOk_of_fromProcess, hstart⟩ hclean hrun
  have hversion := hinv.version_nonneg
  have hne : s.agent.written ≠ [] := hinv.written_ne (by rw [(hinv.idle_cases hidle).1]; exact hversion)
  have htrusts := trustsExactly_of_idle hinv hpushed hprints hidle
  exact ⟨hne, trustsExactly_cidrs_iff hne htrusts⟩

end

/-- A restart comes up with networks. -/
def RestartsEnabled (e : SyncEvent) : Prop :=
  ∀ configured k8sDiscovery, e = .restart configured k8sDiscovery → configured ≠ []

/-- Where every process has networks, every agent subscribes clean. -/
theorem subscribesClean_of_enabled {env : SyncEnv} {s : SyncState} {es : List SyncEvent}
    (hrestarts : ∀ e ∈ es, RestartsEnabled e) (henabled : s.runtime.enabled = true) :
    EachStep (syncStep env) (fun s e _ => SubscribesClean env s e) s es := by
  have hagree (s : SyncState) (e : SyncEvent) (s' : SyncState) (h : s.runtime.enabled = true)
      (_ : syncStep env s e = some s') :
      SubscribesClean env s e ∧ RestartsEnabled e ↔ RestartsEnabled e :=
    and_iff_right fun _ => Or.inl h
  have hkeeps (s : SyncState) (e : SyncEvent) (s' : SyncState) (h : s.runtime.enabled = true)
      (hstep : syncStep env s e = some s') (hrestart : RestartsEnabled e) :
      s'.runtime.enabled = true := by
    rcases (syncStep_move hstep).runtime_cases with heq | ⟨_, -, heq⟩ |
      ⟨configured, k8sDiscovery, rfl, heq⟩
    · rw [heq]
      exact h
    · rw [heq]
      exact h
    · have hne := hrestart configured k8sDiscovery rfl
      rw [heq]
      simp [RuntimeTrustedCidrs.enabled, hne]
  have hboth := (eachStep_congr hagree hkeeps henabled).mpr (eachStep_of_forall_mem hrestarts)
  exact hboth.mono fun _ _ _ h => h.1

/-- The network 192.0.2.0/24. -/
def replacementCidr : IpNet :=
  .v4 (.slash 0xC0000200 24)

theorem not_contains_both (ip : IpAddr) (h : documentationCidr.contains ip = true) :
    replacementCidr.contains ip = false := by
  cases ip with
  | v6 addr => cases h
  | v4 addr =>
      have hlow : (0xCB007100 : BitVec 32) ≤ addr :=
        of_decide_eq_true (Bool.and_eq_true_iff.mp h).1
      have hhigh : ¬ addr ≤ (0xC00002FF : BitVec 32) := by bv_omega
      exact Bool.and_eq_false_iff.mpr (Or.inr (decide_eq_false hhigh))

/-- The operator starts the process again, with another network in the place of the first one. The
agent comes back with the version of the database. -/
def replacedEvents : List SyncEvent :=
  [.restart [replacementCidr] false, .disconnect] ++ .subscribe :: deliveryEvents 200

theorem run_replacedEvents :
    ∃ s, run (syncStep operatorEnv) (SyncState.start operatorRuntime)
        (([.commit (versionDb 1), .subscribe] ++ deliveryEvents 100) ++ replacedEvents) = some s ∧
      Idle operatorEnv s ∧ s.runtime = RuntimeTrustedCidrs.of [replacementCidr] none ∧
      ∃ policy, s.agent.written = [policy] ∧
        trustedNetworks policy.trustedCidrs = [replacementCidr] := by
  let delivered := { SyncState.start operatorRuntime with db := versionDb 1 }.delivered operatorEnv
    false (PolicySnapshot.unread 1)
  let returned : SyncState :=
    { delivered with
      runtime := RuntimeTrustedCidrs.of [replacementCidr] none
      stream := none
      queue := []
      agent := { delivered.agent with task := .offline } }
  have hrestart : run (syncStep operatorEnv) delivered
      [.restart [replacementCidr] false, .disconnect] = some returned := rfl
  -- The process has networks, so that the version of the agent is not believed.
  have hnew : policyUpdateUnchanged returned.version returned.agent.appliedVersion returned.runtime
      none (operatorEnv.fingerprint returned.runtime.currentSnapshot) = false := by
    have henabled : returned.runtime.enabled = true := rfl
    simp only [policyUpdateUnchanged, henabled, Bool.not_true, Bool.false_or, reduceCtorEq,
      decide_false, Bool.and_false]
  have hagain := @run_subscribe_delivery operatorEnv returned 200 _ rfl rfl hnew
    (loadPolicy_versionDb noText 1 200) (enabledGeoCountries_versionDb 1)
  refine ⟨returned.delivered operatorEnv false (PolicySnapshot.unread 1), ?_, idle_delivered false,
    rfl, _, rfl, by decide⟩
  rw [run_append, run_operator_delivery, Option.bind_some, replacedEvents, run_append, hrestart,
    Option.bind_some, hagain]

/-- The network that was removed is no longer trusted once the agent has come back. -/
theorem trustsExactly_cidrs_of_idle_replaced :
    ∃ s, run (syncStep operatorEnv) (SyncState.start operatorRuntime)
        (([.commit (versionDb 1), .subscribe] ++ deliveryEvents 100) ++ replacedEvents) = some s ∧
      s.agent.written ≠ [] ∧
        (∀ policy ∈ s.agent.written, TrustsExactly operatorEnv s.db s.runtime.cidrs policy) ∧
        ∀ policy ∈ s.agent.written, ∀ ip, documentationCidr.contains ip →
          ¬ Covered (trustedNetworks policy.trustedCidrs) ip := by
  obtain ⟨s, hrun, hidle, hruntime, policy, hwritten, htrusted⟩ := run_replacedEvents
  have hrestarts : ∀ e ∈ ([.commit (versionDb 1), .subscribe] ++ deliveryEvents 100) ++
      replacedEvents, RestartsEnabled e := by
    intro e he configured k8sDiscovery hrestart
    subst hrestart
    simp [replacedEvents, deliveryEvents, loadEvents] at he
    simp [he.1]
  obtain ⟨hne, hiff⟩ := trustsExactly_cidrs_of_idle printsApart_spelledCidr
    (subscribesClean_of_enabled hrestarts (by decide)) hrun hidle
  have honce : SpelledOnce operatorEnv s := by
    rintro cidr hcidr ⟨other, hother, hdiffers, -⟩
    rw [hruntime, RuntimeTrustedCidrs.cidrs_of] at hcidr hother
    exact absurd ((List.mem_singleton.mp hother).trans (List.mem_singleton.mp hcidr).symm) hdiffers
  refine ⟨s, hrun, hne, hiff.mpr honce, ?_⟩
  -- What is trusted now is the other network, and the two have no address in common.
  intro sent hsent ip hremoved hcovered
  rw [hwritten, List.mem_singleton] at hsent
  rw [hsent, htrusted] at hcovered
  obtain ⟨cidr, hcidr, hip⟩ := hcovered
  rw [List.mem_singleton.mp hcidr, not_contains_both ip hremoved] at hip
  cases hip

/-! ## The list becomes empty -/

section

variable {env : SyncEnv} {s : SyncState}

/-- The state of an agent that came back and got nothing. -/
def SyncState.resubscribed (s : SyncState) : SyncState :=
  { s.withTask .waiting with
    stream := some
      { cursor :=
          { version := s.agent.appliedVersion
            runtimeFingerprint := none
            dropMonitorEnabled := false }
        task := .waiting
        changed := false }
    queue := [] }

/-- A process without networks sends nothing to an agent with the version of the database. -/
theorem run_resubscribe (htask : s.agent.task = .offline) (hmonitored : s.monitored env = false)
    (henabled : s.runtime.enabled = false) (happlied : s.version ≤ s.agent.appliedVersion) :
    run (syncStep env) s [.subscribe, .readVersion, .readRuntime] = some s.resubscribed := by
  have hunchanged : policyUpdateUnchanged s.version s.agent.appliedVersion s.runtime none
      (env.fingerprint s.runtime.currentSnapshot) = true := by
    simp [policyUpdateUnchanged, henabled, happlied]
  let stream : PolicyStream :=
    { cursor :=
        { version := s.agent.appliedVersion
          runtimeFingerprint := none
          dropMonitorEnabled := false }
      task := .versionRead s.version
      changed := false }
  have hread : syncStep env (s.subscribed.withStream stream) .readRuntime = some s.resubscribed :=
    if_pos hunchanged
  exact run_cons_eq_some_iff.mpr ⟨_, step_subscribe htask hmonitored, run_cons_eq_some_iff.mpr
    ⟨_, rfl, run_cons_eq_some_iff.mpr ⟨_, hread, rfl⟩⟩⟩

theorem idle_resubscribed (henabled : s.runtime.enabled = false)
    (happlied : s.version ≤ s.agent.appliedVersion) : Idle env s.resubscribed := by
  refine ⟨rfl, rfl, _, rfl, rfl, ?_⟩
  have hversion : s.resubscribed.version ≤ s.agent.appliedVersion := happlied
  have hruntime : s.resubscribed.runtime.enabled = false := henabled
  simp [policyUpdateUnchanged, hversion, hruntime]

theorem cidrs_of_not_enabled {runtime : RuntimeTrustedCidrs} (h : runtime.enabled = false) :
    runtime.cidrs = [] := by
  simp only [RuntimeTrustedCidrs.enabled, Bool.or_eq_false_iff, Bool.not_eq_eq_eq_not,
    Bool.not_false, List.isEmpty_iff] at h
  simp [RuntimeTrustedCidrs.cidrs, h.1, h.2]

/-- Whenever an agent does not subscribe clean, three steps lead to an idle stream with maps that
trust something else than they should. -/
theorem stale_of_not_subscribesClean (htask : s.agent.task = .offline)
    (hmonitored : s.monitored env = false) (hclean : ¬ SubscribesClean env s .subscribe) :
    ∃ s', run (syncStep env) s [.subscribe, .readVersion, .readRuntime] = some s' ∧
      Idle env s' ∧ ∃ policy ∈ s'.agent.written,
        ¬ TrustsExactly env s'.db s'.runtime.cidrs policy := by
  unfold SubscribesClean at hclean
  push Not at hclean
  obtain ⟨-, henabled, happlied, policy, hpolicy, htrusts⟩ := hclean
  have henabled : s.runtime.enabled = false := by simpa using henabled
  refine ⟨s.resubscribed, run_resubscribe htask hmonitored henabled happlied,
    idle_resubscribed henabled happlied, policy, hpolicy, ?_⟩
  have hcidrs : s.resubscribed.runtime.cidrs = [] := cidrs_of_not_enabled henabled
  rw [hcidrs]
  exact htrusts

end

/-- The operator takes 203.0.113.0/24 off the list; the agent that had it keeps trusting it. -/
theorem removed_network_still_trusted :
    ∃ s, run (syncStep operatorEnv) (SyncState.start operatorRuntime)
        ([.commit (versionDb 1), .subscribe] ++ deliveryEvents 100 ++
          [.restart [] false, .disconnect, .subscribe, .readVersion, .readRuntime]) = some s ∧
      Idle operatorEnv s ∧ ∃ policy ∈ s.agent.written,
        ¬ TrustsExactly operatorEnv s.db s.runtime.cidrs policy := by
  let delivered := { SyncState.start operatorRuntime with db := versionDb 1 }.delivered operatorEnv
    false (PolicySnapshot.unread 1)
  let returned : SyncState :=
    { delivered with
      runtime :=
        { configured := []
          k8sDiscovery := false
          cache := [] }
      stream := none
      queue := []
      agent := { delivered.agent with task := .offline } }
  have hagain : run (syncStep operatorEnv) returned [.subscribe, .readVersion, .readRuntime] =
      some returned.resubscribed :=
    run_resubscribe rfl rfl rfl (by decide)
  refine ⟨returned.resubscribed, ?_, idle_resubscribed rfl (by decide), _, List.mem_singleton_self _,
    ?_⟩
  · rw [run_append, run_operator_delivery]
    exact hagain
  · intro htrusts
    -- The policy of the process before still trusts 203.0.113.7, which nobody names any more.
    have hkept : documentationCidr ∈ operatorRuntime.currentSnapshot.all :=
      mem_currentSnapshot_all.mpr (by decide)
    have hcovered : Covered operatorRuntime.currentSnapshot.all (.v4 0xCB007107) :=
      ⟨_, hkept, by decide⟩
    have htrusted : Covered (trustedNetworks (withRuntimeCidrs (PolicySnapshot.unread 1)
        operatorRuntime.currentSnapshot).trustedCidrs) (.v4 0xCB007107) :=
      (covered_withRuntimeCidrs (currentSnapshot_inject operatorRuntime)
        (incomparable_currentSnapshot operatorRuntime)).mpr (Or.inr hcovered)
    rcases (htrusts (.v4 0xCB007107)).mp htrusted with ⟨trusted, hload, hdb⟩ | hcidr | hcontrol
    · have hnone : loadTrustedCidrs noText (versionDb 1) defaultPolicyName = .ok [] := by
        simp [loadTrustedCidrs, versionDb, PolicyDb.empty, pure, Except.pure]
      have hsame : loadTrustedCidrs noText (versionDb 1) defaultPolicyName = .ok trusted := hload
      rw [hnone] at hsame
      cases hsame
      simp [Covered, trustedNetworks] at hdb
    · obtain ⟨cidr, hmem, -⟩ := hcidr
      cases hmem
    · obtain ⟨cidr, hmem, -⟩ := hcontrol
      cases hmem

end ControlPlane
end XdpFirewall
