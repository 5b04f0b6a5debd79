import XdpFirewall.Migrations.Upgrade
import XdpFirewall.Net.HostNet

/-!
# Restart — a migration that is killed and started again

Each start goes on from where the last one was killed. The last start succeeds if and only if the
keys that the migration generates are distinct; then every row has what it had before, and a further
start changes nothing.
-/

namespace XdpFirewall
namespace Migrations

open Lib Net Policy ControlPlane

variable {env : MigrationEnv} {backend : DbBackend} {db db' : Db} {s : Session}
  {m n : Migration Unit}

/-! ## The whole migration -/

def AllDone (tasks : List Task) (db : Db) : Prop :=
  ∀ task ∈ tasks, Done db task

theorem allDone_singleton {task : Task} : AllDone [task] db ↔ Done db task :=
  List.forall_mem_singleton

theorem AllDone.onward {tasks : List Task} (h : AllDone tasks db)
    (honward : Onward env backend db db') : AllDone tasks db' :=
  fun task htask => honward.done task (h task htask)

/-- What was done before a program stays done after it. -/
theorem Leads.last {earlier tasks : List Task} (hearlier : AllDone earlier s.db)
    (h : Leads env backend m s (AllDone tasks)) :
    Leads env backend m s (AllDone (earlier ++ tasks)) := by
  refine h.imp fun t hclean htasks task htask => ?_
  rcases List.mem_append.mp htask with htask | htask
  · exact hearlier.onward hclean.1 task htask
  · exact htasks task htask

theorem Leads.next {earlier tasks : List Task} {post : Db → Prop} (hearlier : AllDone earlier s.db)
    (h : Leads env backend m s (AllDone tasks))
    (hn : ∀ t, Valid env t.db → AllDone (earlier ++ tasks) t.db → Leads env backend n t post) :
    Leads env backend (m >>= fun _ => n) s post := by
  exact (h.last hearlier).then fun t hclean hdone => hn t hclean.1.valid hdone

/-- The first program of a sequence. -/
theorem Leads.first {tasks : List Task} {post : Db → Prop}
    (h : Leads env backend m s (AllDone tasks))
    (hn : ∀ t, Valid env t.db → AllDone tasks t.db → Leads env backend n t post) :
    Leads env backend (m >>= fun _ => n) s post := by
  exact h.then fun t hclean hdone => hn t hclean.1.valid hdone

theorem leads_forM {A : Type} {task : A → Task} {body : A → Migration Unit} {items : List A}
    {earlier : List Task}
    (hbody : ∀ item ∈ items, ∀ s, Valid env s.db → AllDone earlier s.db →
      Leads env backend (body item) s (AllDone [task item])) :
    ∀ {s : Session}, Valid env s.db → AllDone earlier s.db →
      Leads env backend (items.forM body) s (AllDone (items.map task)) := by
  induction items with
  | nil =>
      intro s h _
      exact leads_pure h nofun
  | cons item rest ih =>
      intro s h hearlier
      refine Leads.then (n := rest.forM body) (hbody item List.mem_cons_self s h hearlier)
        fun t hclean hitem => ?_
      refine (ih (fun other hother => hbody other (List.mem_cons_of_mem _ hother))
        hclean.1.valid (hearlier.onward hclean.1)).imp fun u hclean' hrest task' htask => ?_
      rcases List.mem_cons.mp htask with rfl | htask
      · exact hclean'.1.done _ (hitem _ List.mem_cons_self)
      · exact hrest task' htask

theorem leads_createTable (h : Valid env s.db) {table : String} (htable : table ∈ allTables) :
    Leads env backend (createTable table) s (AllDone [.table table]) := by
  by_cases hexists : s.db.tables table = true
  · refine leads_execute ?_ (Onward.refl h) (allDone_singleton.mpr hexists) h
    rw [if_pos hexists]
  · refine leads_execute ?_
      (onward_withTable h (Bool.eq_false_iff.mpr hexists) htable) (allDone_singleton.mpr ?_) h
    · rw [if_neg hexists]
    · exact Bool.or_eq_true_iff.mpr (Or.inl (beq_self_eq_true table))

theorem leads_createPolicyTables (h : Valid env s.db) :
    Leads env backend (createPolicyTables env backend) s
      (AllDone [.table "firewall_policy_versions", .table "firewall_rules", .rules]) := by
  refine Leads.first (leads_createTable h (by decide)) fun t ht hdone => ?_
  refine Leads.next hdone (leads_createTable ht (by decide)) fun t ht hdone => ?_
  exact Leads.last hdone ((leads_ensureFirewallRuleKeyColumn ht).mono
    fun db (hrules : Done db .rules) => allDone_singleton.mpr hrules)

theorem leads_createTables (h : Valid env s.db) {tables : List String}
    (htables : ∀ table ∈ tables, table ∈ allTables) :
    Leads env backend (tables.forM createTable) s (AllDone (tables.map .table)) :=
  leads_forM (fun table htable _ hvalid _ => leads_createTable hvalid (htables table htable)) h
    (List.forall_mem_nil _)

theorem leads_createTempBanTables (h : Valid env s.db) :
    Leads env backend (createTempBanTables env backend) s
      (AllDone [.table "firewall_temp_bans", .bans]) := by
  refine Leads.first (leads_createTable h (by decide)) fun t ht hdone => ?_
  exact Leads.last hdone ((leads_ensureTempBanCidrColumn ht).mono
    fun db (hbans : Done db .bans) => allDone_singleton.mpr hbans)

theorem leads_createNodeTables (h : Valid env s.db) :
    Leads env backend createNodeTables s
      (AllDone [.table "firewall_nodes", .interfaceIps]) := by
  refine Leads.first (leads_createTable h (by decide)) fun t ht hdone => ?_
  refine Leads.last hdone (leads_read ?_)
  by_cases hexists : t.db.nodeInterfaceIps = true
  · rw [if_pos hexists]
    exact leads_pure ht (allDone_singleton.mpr hexists)
  · rw [if_neg hexists]
    exact leads_execute rfl (onward_nodeInterfaceIps ht) (allDone_singleton.mpr rfl) ht

theorem leads_createPlainIndex (h : Valid env s.db) (hrules : RulesDone s.db)
    (hbans : BansDone s.db) {index : String × String} (hindex : index ∈ plainIndexes) :
    Leads env backend (createIndex index fun _ => true) s (AllDone [.index index]) := by
  have hne : index ≠ policyNameRuleKeyIndex := by
    rintro rfl
    exact absurd hindex (by decide)
  have hkey : index ≠ ruleKeyIndex := by
    rintro rfl
    exact absurd hindex (by decide)
  refine leads_read ?_
  by_cases hexists : s.db.indexes index = true
  · rw [if_pos hexists]
    exact leads_pure h (allDone_singleton.mpr ⟨hrules, hbans, hne, hexists⟩)
  · rw [if_neg hexists]
    refine leads_execute rfl (onward_withIndex h (List.mem_cons_of_mem _ hindex)
      fun hsame => absurd hsame hkey) (allDone_singleton.mpr ⟨hrules, hbans, hne, ?_⟩) h
    exact Bool.or_eq_true_iff.mpr (Or.inl (beq_self_eq_true index))

/-- Nothing but this index can refuse the rows. -/
theorem leads_createRuleKeyIndex (h : Valid env s.db) (hrules : RulesDone s.db)
    (hbans : BansDone s.db) :
    Leads env backend
      (createIndex ruleKeyIndex fun db => decide (db.rules.map RuleRecord.ruleKey).Nodup) s
      (AllDone [.index ruleKeyIndex]) := by
  refine leads_read ?_
  by_cases hexists : s.db.indexes ruleKeyIndex = true
  · rw [if_pos hexists]
    exact leads_pure h (allDone_singleton.mpr ⟨hrules, hbans, by decide, hexists⟩)
  · rw [if_neg hexists]
    by_cases hnodup : (s.db.rules.map RuleRecord.ruleKey).Nodup
    · refine leads_execute ?_
        (onward_withIndex h List.mem_cons_self fun _ => ⟨hrules, hnodup⟩)
        (allDone_singleton.mpr ⟨hrules, hbans, by decide, rfl⟩) h
      rw [if_pos (decide_eq_true hnodup)]
    · exact leads_refused (if_neg fun haccepts => hnodup (of_decide_eq_true haccepts)) h
        ⟨hrules, hnodup⟩

theorem leads_ensureFirewallRuleKeyUniqueIndex (h : Valid env s.db) (hrules : RulesDone s.db)
    (hbans : BansDone s.db) :
    Leads env backend ensureFirewallRuleKeyUniqueIndex s
      (AllDone [.dropIndex, .index ruleKeyIndex]) := by
  have hdrop : Leads env backend (dropIndexIfExists policyNameRuleKeyIndex) s
      (AllDone [.dropIndex]) := by
    refine leads_read ?_
    by_cases hexists : s.db.indexes policyNameRuleKeyIndex = true
    · rw [if_pos hexists]
      exact leads_execute rfl (onward_dropIndex h) (allDone_singleton.mpr rfl) h
    · rw [if_neg hexists]
      exact leads_pure h (allDone_singleton.mpr (Bool.eq_false_iff.mpr hexists))
  have hdone : AllDone [.rules, .bans] s.db := by
    intro task htask
    rcases List.mem_pair.mp htask with rfl | rfl
    · exact hrules
    · exact hbans
  refine Leads.next hdone hdrop fun t ht hdone => ?_
  refine ((leads_createRuleKeyIndex ht (hdone .rules (by decide))
    (hdone .bans (by decide))).last hdone).mono fun db hall task htask => hall task ?_
  exact List.mem_append_right [.rules, .bans] htask

/-- What holds at the end of a migration. -/
def migrationTasks : List Task :=
  [.table "firewall_policy_versions", .table "firewall_rules", .rules] ++
    geoTables.map .table ++ threatTables.map .table ++ dynamicPolicyTables.map .table ++
    [.table "firewall_temp_bans", .bans] ++ [.table "firewall_trusted_cidrs"] ++
    [.table "firewall_nodes", .interfaceIps] ++ plainIndexes.map .index ++
    [.dropIndex, .index ruleKeyIndex]

theorem leads_migrate (h : Valid env s.db) :
    Leads env backend (migrate env backend) s (AllDone migrationTasks) := by
  refine Leads.first (leads_createPolicyTables h) fun t ht hdone => ?_
  refine Leads.next hdone (leads_createTables ht (by decide)) fun t ht hdone => ?_
  refine Leads.next hdone (leads_createTables ht (by decide)) fun t ht hdone => ?_
  refine Leads.next hdone (leads_createTables ht (by decide)) fun t ht hdone => ?_
  refine Leads.next hdone (leads_createTempBanTables ht) fun t ht hdone => ?_
  refine Leads.next hdone (leads_createTable ht (by decide)) fun t ht hdone => ?_
  refine Leads.next hdone (leads_createNodeTables ht) fun t ht hdone => ?_
  refine Leads.next hdone (leads_forM (fun index hindex s hvalid hdone =>
    leads_createPlainIndex hvalid (hdone .rules (by decide)) (hdone .bans (by decide)) hindex)
      ht hdone) fun t ht hdone => ?_
  exact Leads.last hdone (leads_ensureFirewallRuleKeyUniqueIndex ht (hdone .rules (by decide))
    (hdone .bans (by decide)))

/-! ## The end of a migration -/

/-- A database in which everything is done is its own target. -/
theorem target_of_done (h : Valid env db) (hdone : AllDone migrationTasks db) :
    target env backend db = db := by
  have hrules : RulesDone db := hdone .rules (by decide)
  have hbans : db.banIp = false := hdone .bans (by decide)
  have hcolumn : db.banCidr ≠ .missing := by
    intro hmissing
    rw [(h.cidrMissing hmissing).1] at hbans
    cases hbans
  have htables : ∀ name, (allTables.contains name || db.tables name) = db.tables name := by
    intro name
    by_cases hname : name ∈ allTables
    · have hexists : Done db (.table name) := hdone _ (by revert name; decide)
      rw [show db.tables name = true from hexists, Bool.or_true]
    · rw [Bool.eq_false_iff.mpr fun hin => hname (List.contains_iff_mem.mp hin), Bool.false_or]
  have hindexes : ∀ index, ((ruleKeyIndex :: plainIndexes).contains index ||
      !isDropped backend db index && db.indexes index) = db.indexes index := by
    intro index
    by_cases hindex : index ∈ ruleKeyIndex :: plainIndexes
    · have hexists : Done db (.index index) := hdone _ (by revert index; decide)
      rw [show db.indexes index = true from hexists.2.2.2, List.contains_iff_mem.mpr hindex,
        Bool.true_or]
    · have hdropped : isDropped backend db index = (index == policyNameRuleKeyIndex) := by
        simp [isDropped, hrules.1, hbans]
      rw [Bool.eq_false_iff.mpr fun hin => hindex (List.contains_iff_mem.mp hin), Bool.false_or,
        hdropped]
      by_cases hname : index = policyNameRuleKeyIndex
      · have hnone : Done db .dropIndex := hdone .dropIndex (by decide)
        rw [hname, show db.indexes policyNameRuleKeyIndex = false from hnone, Bool.and_false]
      · rw [beq_eq_false_iff_ne.mpr hname]
        rfl
  have hips : db.nodeInterfaceIps = true := hdone .interfaceIps (by decide)
  have hcidr : (if backend = .sqlite ∧ db.banIp = true then Column.required
      else if db.banCidr = .missing then .nullable else db.banCidr) = db.banCidr := by
    rw [if_neg fun hip => Bool.eq_false_iff.mp hbans hip.2, if_neg hcolumn]
  have hbanRows : (if db.banIp = true then db.bans.map (convertBan env) else db.bans) = db.bans :=
    if_neg (Bool.eq_false_iff.mp hbans)
  calc
    target env backend db
      = { db with ruleKey := .required, banIp := false, nodeInterfaceIps := true } := by
        simp only [target, htables, hindexes, map_fillKey_of_done hrules.2, hcidr, hbanRows]
    _ = db := by rw [← hrules.1, ← hbans, ← hips]

theorem onward_start (h : Valid env db) (kill : Option Nat) :
    Onward env backend db (start env backend kill db).2 := by
  have hleads : Leads env backend (migrate env backend) { db := db, killAfter := kill }
      (AllDone migrationTasks) := leads_migrate h
  rw [start]
  split
  · rename_i s hrun
    exact (hleads.of_ok hrun).1.1
  · rename_i e s hrun
    exact (hleads.of_error hrun).1

/-- A start that ends well ends in the target. -/
theorem eq_target_of_start (h : Valid env db) {kill : Option Nat}
    (hstart : start env backend kill db = (.ok (), db')) :
    db' = target env backend db ∧ AllDone migrationTasks db' := by
  have hleads : Leads env backend (migrate env backend) { db := db, killAfter := kill }
      (AllDone migrationTasks) := leads_migrate h
  rw [start] at hstart
  split at hstart
  · rename_i s hrun
    cases hstart
    obtain ⟨⟨honward, -⟩, hdone⟩ := hleads.of_ok hrun
    have htarget : target env backend s.db = s.db := target_of_done honward.valid hdone
    exact ⟨htarget.symm.trans honward.target, hdone⟩
  · cases hstart

/-- A start that is not killed ends well, unless two rules collide. -/
theorem start_of_nodup (h : Valid env db)
    (hnodup : ((target env backend db).rules.map RuleRecord.ruleKey).Nodup) :
    start env backend none db = (.ok (), target env backend db) := by
  have hleads : Leads env backend (migrate env backend) { db := db, killAfter := none }
      (AllDone migrationTasks) := leads_migrate h
  cases hrun : (migrate env backend).run { db := db, killAfter := none } with
  | ok a s =>
      have hstart : start env backend none db = (.ok (), s.db) := by rw [start, hrun]
      rw [hstart, (eq_target_of_start h hstart).1]
  | error e s =>
      obtain ⟨honward, hkilled | ⟨hdone, hcollides⟩⟩ := hleads.of_error hrun
      · cases hkilled
      · refine absurd ?_ hcollides
        have hrules : (target env backend s.db).rules = s.db.rules :=
          map_fillKey_of_done hdone.2
        rw [← hrules, honward.target]
        exact hnodup

theorem onward_afterKills (h : Valid env db) (kills : List Nat) :
    Onward env backend db (afterKills env backend kills db) := by
  induction kills generalizing db with
  | nil => exact .refl h
  | cons kill rest ih =>
      have hstart : Onward env backend db (start env backend (some kill) db).2 :=
        onward_start h (some kill)
      exact hstart.trans (ih hstart.valid)

/-! ## Upgrades -/

/-- A database of the time before rules had keys and bans had CIDRs. -/
structure Legacy (env : MigrationEnv) (db : Db) : Prop where
  ruleIds : (db.rules.map fun row => row.fields.id).Nodup
  banIds : (db.bans.map fun row => row.fields.id).Nodup
  ruleTable : db.tables "firewall_rules" = true
  banTable : db.tables "firewall_temp_bans" = true
  ruleKey : db.ruleKey = .missing ∧ ∀ row ∈ db.rules, row.ruleKey = none
  banCidr : db.banCidr = .missing ∧ ∀ row ∈ db.bans, row.cidr = none
  banIp : db.banIp = true ∧ ∀ row ∈ db.bans, ∃ ip addr, row.ip = some ip ∧
    env.text.ipAddr (String.ofList (trim ip.toList)) = some addr
  notIndexed : db.indexes ruleKeyIndex = false

def hostText : IpAddr → String
  | .v4 addr => String.ofList (IpText.displayIpAddr (.v4 addr)) ++ "/32"
  | .v6 addr => String.ofList (IpText.displayIpAddr (.v6 addr)) ++ "/128"

/-- The ban after the upgrade is on exactly the address of the one before. -/
def CoversIp (env : MigrationEnv) (old new : BanRecord) : Prop :=
  new.fields = old.fields ∧ ∃ ip addr cidr net, old.ip = some ip ∧
    env.text.ipAddr (String.ofList (trim ip.toList)) = some addr ∧ new.cidr = some cidr ∧
      env.text.ipNet cidr = some net ∧ ∀ a, net.contains a = true ↔ a = addr

/-- After the kills one start succeeds, every row has kept what it had, the keys are there and
distinct, the bans are on the same addresses, and a further start changes nothing. -/
def Upgraded (env : MigrationEnv) (backend : DbBackend) (kills : List Nat) (old : Db) : Prop :=
  ∃ new, start env backend none (afterKills env backend kills old) = (.ok (), new) ∧
    new.rules.map RuleRecord.fields = old.rules.map RuleRecord.fields ∧
      (∀ row ∈ new.rules, ∃ key, row.ruleKey = some key ∧ key ≠ "") ∧
        (new.rules.map RuleRecord.ruleKey).Nodup ∧
          List.Forall₂ (CoversIp env) old.bans new.bans ∧
            start env backend none new = (.ok (), new)

theorem Legacy.valid (h : Legacy env db) : Valid env db := by
  refine ⟨h.ruleIds, h.banIds, h.ruleTable, h.banTable, fun _ => h.ruleKey.2,
    fun _ => ⟨h.banIp.1, h.banCidr.2⟩, fun _ row hrow => ?_, fun hindexed => ?_⟩
  · obtain ⟨ip, addr, hip, haddr⟩ := h.banIp.2 row hrow
    refine ⟨hostText addr, ?_⟩
    rw [legacyCidr, hip]
    simp only [legacyIpToCidr, haddr]
    cases addr <;> rfl
  · rw [h.notIndexed] at hindexed
    cases hindexed

theorem generatedRuleKey_ne_empty (env : MigrationEnv) (rule : RuleFields) :
    generatedRuleKey env rule ≠ "" := by
  intro hempty
  have hblank := generatedRuleKey_not_blank env rule
  rw [hempty] at hblank
  exact absurd hblank (by decide)

/-- The rules that the migration leads to. -/
theorem Legacy.target_rules (h : Legacy env db) :
    (target env backend db).rules = db.rules.map fun row =>
      { fields := row.fields, ruleKey := some (generatedRuleKey env row.fields) } := by
  refine List.map_congr_left fun row hrow => ?_
  rw [fillKey, h.ruleKey.2 row hrow]
  rfl

theorem Legacy.target_keys_nodup_iff (h : Legacy env db) :
    ((target env backend db).rules.map RuleRecord.ruleKey).Nodup ↔
      (db.rules.map fun row => generatedRuleKey env row.fields).Nodup := by
  have hkeys : (target env backend db).rules.map RuleRecord.ruleKey =
      (db.rules.map fun row => generatedRuleKey env row.fields).map some := by
    rw [h.target_rules, List.map_map, List.map_map]
    rfl
  rw [hkeys, List.nodup_map_iff fun _ _ => Option.some.inj]

theorem Legacy.target_bans (h : Legacy env db)
    (hprints : ∀ row ∈ db.bans, ∀ ip addr, row.ip = some ip →
      env.text.ipAddr (String.ofList (trim ip.toList)) = some addr →
      env.text.ipNet (hostText addr) = some (hostNet addr)) :
    List.Forall₂ (CoversIp env) db.bans (target env backend db).bans := by
  have htarget : (target env backend db).bans = db.bans.map (convertBan env) := if_pos h.banIp.1
  rw [htarget, List.forall₂_map_right_iff, List.forall₂_same]
  intro row hrow
  obtain ⟨ip, addr, hip, haddr⟩ := h.banIp.2 row hrow
  have hcidr : legacyCidr env row = .ok (hostText addr) := by
    rw [legacyCidr, hip]
    simp only [legacyIpToCidr, haddr]
    cases addr <;> rfl
  refine ⟨rfl, ip, addr, hostText addr, hostNet addr, hip, haddr, ?_,
    hprints row hrow ip addr hip haddr, fun a => hostNet_contains_iff⟩
  rw [convertBan, h.banCidr.2 row hrow, cidrText, hcidr]
  rfl

/-- An upgrade ends in the target, whose keys the unique index has accepted. -/
theorem Upgraded.nodup {old : Db} {kills : List Nat} (h : Legacy env old)
    (hupgraded : Upgraded env backend kills old) :
    (old.rules.map fun row => generatedRuleKey env row.fields).Nodup := by
  have honward : Onward env backend old (afterKills env backend kills old) :=
    onward_afterKills h.valid kills
  obtain ⟨new, hstart, -, -, hnodup, -⟩ := hupgraded
  obtain ⟨htarget, -⟩ := eq_target_of_start honward.valid hstart
  have htarget' : target env backend old = new := honward.target.symm.trans htarget.symm
  rw [← htarget'] at hnodup
  exact h.target_keys_nodup_iff.mp hnodup

/-- Whatever the rows and wherever the migration is killed, the upgrade succeeds if and only if the
keys generated for the old rules are distinct. -/
theorem upgraded_iff {old : Db} (h : Legacy env old)
    (hprints : ∀ row ∈ old.bans, ∀ ip addr, row.ip = some ip →
      env.text.ipAddr (String.ofList (trim ip.toList)) = some addr →
      env.text.ipNet (hostText addr) = some (hostNet addr)) (kills : List Nat) :
    Upgraded env backend kills old ↔
      (old.rules.map fun row => generatedRuleKey env row.fields).Nodup := by
  refine ⟨Upgraded.nodup h, fun hnodup => ?_⟩
  have hnodup : ((target env backend old).rules.map RuleRecord.ruleKey).Nodup :=
    h.target_keys_nodup_iff.mpr hnodup
  have honward : Onward env backend old (afterKills env backend kills old) :=
    onward_afterKills h.valid kills
  have hstart : start env backend none (afterKills env backend kills old) =
      (.ok (), target env backend old) := by
    rw [← honward.target] at hnodup ⊢
    exact start_of_nodup honward.valid hnodup
  have hdone : AllDone migrationTasks (target env backend old) :=
    (eq_target_of_start honward.valid hstart).2
  have hvalid : Valid env (target env backend old) := by
    have hend : Valid env (start env backend none (afterKills env backend kills old)).2 :=
      (onward_start honward.valid none).valid
    rw [hstart] at hend
    exact hend
  refine ⟨target env backend old, hstart, ?_, ?_, hnodup, h.target_bans hprints, ?_⟩
  · rw [h.target_rules, List.map_map]
    rfl
  · intro row hrow
    rw [h.target_rules] at hrow
    obtain ⟨rule, -, rfl⟩ := List.mem_map.mp hrow
    exact ⟨_, rfl, generatedRuleKey_ne_empty env rule.fields⟩
  · have hsame : target env backend (target env backend old) = target env backend old :=
      target_of_done hvalid hdone
    have hagain : start env backend none (target env backend old) =
        (.ok (), target env backend (target env backend old)) := by
      refine start_of_nodup hvalid ?_
      rw [hsame]
      exact hnodup
    rw [hsame] at hagain
    exact hagain

/-! ## Two databases -/

def oldRule (id : Int32) (policyName : String) (protocol : Option String) (port : Option Int32) :
    RuleRecord where
  fields :=
    { id := id
      policyName := policyName
      enabled := true
      priority := 10
      action := "deny"
      cidr := "203.0.113.0/24"
      protocol := protocol
      port := port
      comment := none
      updatedAt := 1767225600000000000 }
  ruleKey := none

def oldBan : BanRecord where
  fields :=
    { id := 1
      policyName := "edge"
      protocol := "any"
      port := none
      expiresAt := 1767225900000000000
      comment := none
      createdAt := 1767225600000000000 }
  ip := some "203.0.113.10"
  cidr := none

def oldDb (rules : List RuleRecord) : Db where
  ruleKey := .missing
  rules := rules
  banCidr := .missing
  banIp := true
  bans := [oldBan]
  nodeInterfaceIps := false
  tables := fun name => name == "firewall_rules" || name == "firewall_temp_bans"
  indexes := fun _ => false

/-- The libraries, as far as these databases call them. -/
def oldEnv : MigrationEnv where
  text :=
    { ipNet := fun value =>
        if value = "203.0.113.10/32" then some (hostNet (.v4 0xCB00710A)) else none
      ipAddr := fun value => if value = "203.0.113.10" then some (.v4 0xCB00710A) else none
      cidrArray := fun _ => []
      stringArray := fun _ => none }
  sha256 := fun value =>
    if value = "priority=10\naction=deny\ncidr=203.0.113.0/24\nprotocol=tcp\nport=443\n" then
      [0x35, 0x41, 0x4a, 0x5f, 0x04, 0xd4, 0x55, 0xc9, 0x2e, 0xb7, 0xe7, 0xb4, 0xe3, 0xfc, 0x26, 0x50,
      0x20, 0x22, 0x2d, 0x18, 0x13, 0xb8, 0xe5, 0xa8, 0xef, 0x07, 0xed, 0xf7, 0xa8, 0xcd, 0xe8, 0x8a]
    else
      [0x2a, 0x56, 0xb9, 0xf1, 0xac, 0x39, 0x03, 0xfb, 0x76, 0xb5, 0x61, 0xec, 0x16, 0xac, 0xed, 0x26,
      0x9d, 0xee, 0x22, 0x4b, 0x17, 0x05, 0xb2, 0xeb, 0xe9, 0xa6, 0x8d, 0xaf, 0xc2, 0x54, 0x00, 0x35]

theorem legacy_oldDb {rules : List RuleRecord} (hids : (rules.map fun row => row.fields.id).Nodup)
    (hkeys : ∀ row ∈ rules, row.ruleKey = none) : Legacy oldEnv (oldDb rules) where
  ruleIds := hids
  banIds := List.nodup_singleton _
  ruleTable := rfl
  banTable := rfl
  ruleKey := ⟨rfl, hkeys⟩
  banCidr := ⟨rfl, List.forall_mem_singleton.mpr rfl⟩
  banIp := ⟨rfl, List.forall_mem_singleton.mpr
    ⟨"203.0.113.10", .v4 0xCB00710A, rfl, by decide⟩⟩
  notIndexed := rfl

/-- Two rules that differ in the port, and a migration that is killed twice. -/
theorem upgraded_iff_ports :
    Upgraded oldEnv .sqlite [4, 1]
      (oldDb [oldRule 1 "default" (some "tcp") (some 443), oldRule 2 "default" none none]) := by
  refine (upgraded_iff (legacy_oldDb (by decide) (by decide)) ?_ [4, 1]).mpr (by decide)
  intro row hrow ip addr hip haddr
  cases List.mem_singleton.mp hrow
  cases hip
  have haddr : (some (.v4 0xCB00710A) : Option IpAddr) = some addr := haddr
  cases haddr
  decide

/-- A rule for any protocol and one with the protocol unset, of two policies. -/
theorem unset_stranded :
    Legacy oldEnv (oldDb [oldRule 1 "default" (some "any") none, oldRule 2 "edge" none none]) ∧
      ¬ Upgraded oldEnv .sqlite []
        (oldDb [oldRule 1 "default" (some "any") none, oldRule 2 "edge" none none]) := by
  have hlegacy : Legacy oldEnv
      (oldDb [oldRule 1 "default" (some "any") none, oldRule 2 "edge" none none]) :=
    legacy_oldDb (by decide) (by decide)
  exact ⟨hlegacy, fun hupgraded => absurd (hupgraded.nodup hlegacy) (by decide)⟩

end Migrations
end XdpFirewall
