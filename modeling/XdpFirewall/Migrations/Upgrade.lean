import XdpFirewall.Migrations.Migrate
import Mathlib.Data.List.Nodup

/-!
# Upgrade — where a migration leads, however often it is killed

An undisturbed migration leads every database to the same place, its target. No statement changes
the target, so starts that are killed do not lead elsewhere. What can stop the migration for good
is the unique index on the keys of the rules: equal rules have equal keys.
-/

namespace XdpFirewall
namespace Migrations

open Lib Net Policy ControlPlane

variable {env : MigrationEnv} {backend : DbBackend} {db db' : Db}

/-! ## The target -/

def fillKey (env : MigrationEnv) (row : RuleRecord) : RuleRecord :=
  if isBlank row.ruleKey then
    { row with ruleKey := some (generatedRuleKey env row.fields) }
  else
    row

/-- The text of a row's CIDR; that of a row that cannot be read does not matter. -/
def cidrText (env : MigrationEnv) (row : BanRecord) : String :=
  match legacyCidr env row with
  | .ok cidr => cidr
  | .error _ => ""

def convertBan (env : MigrationEnv) (row : BanRecord) : BanRecord where
  fields := row.fields
  ip := none
  cidr := if isBlank row.cidr then some (cidrText env row) else row.cidr

def allTables : List String :=
  ["firewall_policy_versions", "firewall_rules"] ++ geoTables ++ threatTables ++
    dynamicPolicyTables ++ ["firewall_temp_bans", "firewall_trusted_cidrs", "firewall_nodes"]

/-- SQLite drops the indexes of the tables that are still to be rebuilt. -/
def isDropped (backend : DbBackend) (db : Db) (index : String × String) : Bool :=
  index == policyNameRuleKeyIndex || decide (backend = .sqlite) &&
    (index.1 == "firewall_rules" && decide (db.ruleKey ≠ .required) ||
      index.1 == "firewall_temp_bans" && db.banIp)

/-- The database after a migration that nothing stops. -/
def target (env : MigrationEnv) (backend : DbBackend) (db : Db) : Db where
  ruleKey := .required
  rules := db.rules.map (fillKey env)
  banCidr :=
    if backend = .sqlite ∧ db.banIp = true then .required
    else if db.banCidr = .missing then .nullable
    else db.banCidr
  banIp := false
  bans := if db.banIp then db.bans.map (convertBan env) else db.bans
  nodeInterfaceIps := true
  tables := fun name => allTables.contains name || db.tables name
  indexes := fun index =>
    (ruleKeyIndex :: plainIndexes).contains index || !isDropped backend db index && db.indexes index

/-- What holds of a database that a migration has begun with, killed or not. -/
structure Valid (env : MigrationEnv) (db : Db) : Prop where
  ruleIds : (db.rules.map fun row => row.fields.id).Nodup
  banIds : (db.bans.map fun row => row.fields.id).Nodup
  ruleTable : db.tables "firewall_rules" = true
  banTable : db.tables "firewall_temp_bans" = true
  keyMissing : db.ruleKey = .missing → ∀ row ∈ db.rules, row.ruleKey = none
  cidrMissing : db.banCidr = .missing → db.banIp = true ∧ ∀ row ∈ db.bans, row.cidr = none
  readable : db.banIp = true → ∀ row ∈ db.bans, ∃ cidr, legacyCidr env row = .ok cidr
  indexed : db.indexes ruleKeyIndex = true → (db.rules.map RuleRecord.ruleKey).Nodup ∧
    ∀ row ∈ db.rules, isBlank row.ruleKey = false

/-! ## Tasks -/

/-- The parts of a migration. -/
inductive Task
  | rules
  | bans
  | interfaceIps
  | table (name : String)
  | index (index : String × String)
  | dropIndex
  deriving DecidableEq

def RulesDone (db : Db) : Prop :=
  db.ruleKey = .required ∧ ∀ row ∈ db.rules, isBlank row.ruleKey = false

def BansDone (db : Db) : Prop :=
  db.banIp = false

/-- Indexes stay once both tables have been rebuilt. -/
def Done (db : Db) : Task → Prop
  | .rules => RulesDone db
  | .bans => BansDone db
  | .interfaceIps => db.nodeInterfaceIps = true
  | .table name => db.tables name = true
  | .index index =>
      RulesDone db ∧ BansDone db ∧ index ≠ policyNameRuleKeyIndex ∧ db.indexes index = true
  | .dropIndex => db.indexes policyNameRuleKeyIndex = false

/-- A step on the way: the same target, and nothing undone. -/
structure Onward (env : MigrationEnv) (backend : DbBackend) (db db' : Db) : Prop where
  valid : Valid env db'
  target : target env backend db' = target env backend db
  done : ∀ task, Done db task → Done db' task

theorem Onward.refl (h : Valid env db) : Onward env backend db db :=
  ⟨h, rfl, fun _ hdone => hdone⟩

theorem Onward.trans {db'' : Db} (h : Onward env backend db db') (h' : Onward env backend db' db'') :
    Onward env backend db db'' :=
  ⟨h'.valid, h'.target.trans h.target, fun task hdone => h'.done task (h.done task hdone)⟩

/-! ## Statements on the keys of rules -/

theorem generatedRuleKey_not_blank (env : MigrationEnv) (rule : RuleFields) :
    isBlank (some (generatedRuleKey env rule)) = false := by
  rw [isBlank, List.all_eq_false]
  refine ⟨'-', ?_, by decide⟩
  rw [generatedRuleKey, formatRuleKey, String.toList_ofList]
  exact List.mem_append_right _ List.mem_cons_self

theorem fillKey_of_not_blank {row : RuleRecord} (h : isBlank row.ruleKey = false) :
    fillKey env row = row := by
  rw [fillKey, h]
  rfl

theorem map_fillKey_of_done {rules : List RuleRecord}
    (h : ∀ row ∈ rules, isBlank row.ruleKey = false) : rules.map (fillKey env) = rules := by
  calc
    rules.map (fillKey env) = rules.map id := List.map_congr_left fun row hrow =>
      fillKey_of_not_blank (h row hrow)
    _ = rules := List.map_id rules

theorem onward_addRuleKeyColumn (h : Valid env db) (hmissing : db.ruleKey = .missing) :
    Onward env backend db { db with ruleKey := .nullable } where
  valid := { h with keyMissing := nofun }
  target := by
    have hsame : ∀ index, isDropped backend { db with ruleKey := .nullable } index =
        isDropped backend db index := by
      intro index
      simp [isDropped, hmissing]
    simp only [target, hsame]
  done := by
    intro task hdone
    cases task with
    | rules => exact absurd (hmissing.symm.trans hdone.1) nofun
    | bans => exact hdone
    | interfaceIps => exact hdone
    | table name => exact hdone
    | index index => exact absurd (hmissing.symm.trans hdone.1.1) nofun
    | dropIndex => exact hdone

/-- The update of one row changes no other one, since the ids are distinct. -/
theorem map_fillKey_update {rules : List RuleRecord} {row : RuleRecord}
    (hids : (rules.map fun row => row.fields.id).Nodup) (hrow : row ∈ rules)
    (hblank : isBlank row.ruleKey = true) :
    (rules.map fun other => if other.fields.id = row.fields.id then
        { other with ruleKey := some (generatedRuleKey env row.fields) } else other).map
        (fillKey env) = rules.map (fillKey env) := by
  rw [List.map_map]
  refine List.map_congr_left fun other hother => ?_
  by_cases hid : other.fields.id = row.fields.id
  · cases List.inj_on_of_nodup_map hids hother hrow hid
    simp only [Function.comp_apply, if_pos]
    rw [fillKey_of_not_blank (generatedRuleKey_not_blank env row.fields), fillKey, if_pos hblank]
  · rw [Function.comp_apply, if_neg hid]

theorem onward_updateFirewallRuleKey (h : Valid env db) (hcolumn : db.ruleKey ≠ .missing)
    {row : RuleRecord} (hrow : row ∈ db.rules) (hblank : isBlank row.ruleKey = true) :
    Onward env backend db
      { db with
        rules := db.rules.map fun other => if other.fields.id = row.fields.id then
          { other with ruleKey := some (generatedRuleKey env row.fields) } else other } := by
  have hnotDone : ¬ RulesDone db := fun hdone => by
    rw [hdone.2 row hrow] at hblank
    cases hblank
  refine ⟨?_, ?_, ?_⟩
  · refine
      { h with
        ruleIds := ?_
        keyMissing := fun hmissing => absurd hmissing hcolumn
        indexed := fun hindexed => ?_ }
    · rw [List.map_map]
      have hsame : db.rules.map ((fun row => row.fields.id) ∘ fun other =>
          if other.fields.id = row.fields.id then
            { other with ruleKey := some (generatedRuleKey env row.fields) } else other) =
          db.rules.map fun row => row.fields.id := by
        refine List.map_congr_left fun other _ => ?_
        rw [Function.comp_apply]
        split <;> rfl
      rw [hsame]
      exact h.ruleIds
    · rw [(h.indexed hindexed).2 row hrow] at hblank
      cases hblank
  · simp only [target, map_fillKey_update h.ruleIds hrow hblank]
    rfl
  · intro task hdone
    cases task with
    | rules => exact absurd hdone hnotDone
    | bans => exact hdone
    | interfaceIps => exact hdone
    | table name => exact hdone
    | index index => exact absurd hdone.1 hnotDone
    | dropIndex => exact hdone

/-- Without rows that are still blank, the column can be required. -/
theorem setRuleKeyNotNull_ok (hfilled : ∀ row ∈ db.rules, isBlank row.ruleKey = false) :
    setRuleKeyNotNull db = .ok { db with ruleKey := .required } := by
  rw [setRuleKeyNotNull, if_neg]
  rw [Bool.not_eq_true, List.any_eq_false]
  intro row hrow hnone
  have hblank := hfilled row hrow
  rw [Option.isNone_iff_eq_none.mp hnone] at hblank
  cases hblank

theorem onward_setRuleKeyNotNull (h : Valid env db) (hbackend : backend ≠ .sqlite) :
    Onward env backend db { db with ruleKey := .required } where
  valid := { h with keyMissing := nofun }
  target := by
    have hsame : ∀ index, isDropped backend { db with ruleKey := .required } index =
        isDropped backend db index := by
      intro index
      simp [isDropped, hbackend]
    simp only [target, hsame]
  done := by
    intro task hdone
    cases task with
    | rules => exact ⟨rfl, hdone.2⟩
    | bans => exact hdone
    | interfaceIps => exact hdone
    | table name => exact hdone
    | index index => exact ⟨⟨rfl, hdone.1.2⟩, hdone.2⟩
    | dropIndex => exact hdone

theorem onward_rebuildFirewallRules (h : Valid env db) (hcolumn : db.ruleKey ≠ .required) :
    Onward env .sqlite db
      { db with
        ruleKey := .required
        indexes := dropIndexesOf "firewall_rules" db.indexes } where
  valid :=
    { h with
      keyMissing := nofun
      indexed := fun hindexed => by cases hindexed }
  target := by
    have hsame : ∀ index, (!isDropped .sqlite { db with
        ruleKey := .required, indexes := dropIndexesOf "firewall_rules" db.indexes } index &&
          dropIndexesOf "firewall_rules" db.indexes index) =
        (!isDropped .sqlite db index && db.indexes index) := by
      intro index
      simp only [isDropped, dropIndexesOf, bne, decide_eq_true hcolumn]
      cases index.1 == "firewall_rules" <;> simp
    simp only [target, hsame]
  done := by
    intro task hdone
    cases task with
    | rules => exact ⟨rfl, hdone.2⟩
    | bans => exact hdone
    | interfaceIps => exact hdone
    | table name => exact hdone
    | index index => exact absurd hdone.1.1 hcolumn
    | dropIndex => rfl

/-! ## Statements on temporary bans -/

theorem legacyCidr_not_blank {row : BanRecord} {cidr : String}
    (h : legacyCidr env row = .ok cidr) : isBlank (some cidr) = false := by
  have hslash : '/' ∈ cidr.toList := by
    rw [legacyCidr] at h
    split at h
    · cases h
    · rw [legacyIpToCidr] at h
      split at h
      · cases h
      · cases h
        rw [String.toList_append]
        exact List.mem_append_right _ (by decide)
      · cases h
        rw [String.toList_append]
        exact List.mem_append_right _ (by decide)
  rw [isBlank, List.all_eq_false]
  exact ⟨'/', hslash, by decide⟩

theorem onward_addTempBanCidrColumn (h : Valid env db) (hmissing : db.banCidr = .missing) :
    Onward env backend db { db with banCidr := .nullable } where
  valid := { h with cidrMissing := nofun }
  target := by
    simp only [target, hmissing]
    rfl
  done := by
    intro task hdone
    cases task with
    | rules => exact hdone
    | bans => exact hdone
    | interfaceIps => exact hdone
    | table name => exact hdone
    | index index => exact hdone
    | dropIndex => exact hdone

theorem map_convertBan_update {bans : List BanRecord} {row : BanRecord} {cidr : String}
    (hids : (bans.map fun row => row.fields.id).Nodup) (hrow : row ∈ bans)
    (hblank : isBlank row.cidr = true) (hcidr : legacyCidr env row = .ok cidr) :
    (bans.map fun other => if other.fields.id = row.fields.id then
        { other with cidr := some cidr } else other).map (convertBan env) =
      bans.map (convertBan env) := by
  rw [List.map_map]
  refine List.map_congr_left fun other hother => ?_
  by_cases hid : other.fields.id = row.fields.id
  · cases List.inj_on_of_nodup_map hids hother hrow hid
    have htext : cidrText env row = cidr := by
      rw [cidrText, hcidr]
    simp only [Function.comp_apply, if_pos, convertBan, legacyCidr_not_blank hcidr, hblank, htext]
    rfl
  · rw [Function.comp_apply, if_neg hid]

theorem onward_updateTempBanCidr (h : Valid env db) (hcolumn : db.banCidr ≠ .missing)
    (hip : db.banIp = true) {row : BanRecord} {cidr : String} (hrow : row ∈ db.bans)
    (hblank : isBlank row.cidr = true) (hcidr : legacyCidr env row = .ok cidr) :
    Onward env backend db
      { db with
        bans := db.bans.map fun other => if other.fields.id = row.fields.id then
          { other with cidr := some cidr } else other } where
  valid := by
    refine
      { h with
        banIds := ?_
        cidrMissing := fun hmissing => absurd hmissing hcolumn
        readable := fun _ => ?_ }
    · rw [List.map_map]
      have hsame : db.bans.map ((fun row => row.fields.id) ∘ fun other =>
          if other.fields.id = row.fields.id then { other with cidr := some cidr } else other) =
          db.bans.map fun row => row.fields.id := by
        refine List.map_congr_left fun other _ => ?_
        rw [Function.comp_apply]
        split <;> rfl
      rw [hsame]
      exact h.banIds
    · intro new hnew
      obtain ⟨old, hold, rfl⟩ := List.mem_map.mp hnew
      obtain ⟨text, htext⟩ := h.readable hip old hold
      refine ⟨text, ?_⟩
      -- The text of a CIDR is read from the address and the id.
      split
      · exact htext
      · exact htext
  target := by
    have hsame : ∀ index, isDropped backend { db with
        bans := db.bans.map fun other => if other.fields.id = row.fields.id then
          { other with cidr := some cidr } else other } index = isDropped backend db index :=
      fun _ => rfl
    simp only [target, hsame, if_pos hip, map_convertBan_update h.banIds hrow hblank hcidr]
  done := by
    intro task hdone
    cases task with
    | rules => exact hdone
    | bans => exact hdone
    | interfaceIps => exact hdone
    | table name => exact hdone
    | index index => exact hdone
    | dropIndex => exact hdone

/-- Once every ban has a CIDR, the conversion only forgets the addresses. -/
theorem map_convertBan_of_filled {bans : List BanRecord}
    (hfilled : ∀ row ∈ bans, isBlank row.cidr = false) :
    bans.map (convertBan env) = bans.map fun row => { row with ip := none } := by
  refine List.map_congr_left fun row hrow => ?_
  rw [convertBan, hfilled row hrow]
  rfl

theorem Valid.dropTempBanIp (h : Valid env db) {column : Column} (hcolumn : column ≠ .missing) :
    Valid env
      { db with
        banCidr := column
        banIp := false
        bans := db.bans.map fun row => { row with ip := none } } :=
  { h with
    banIds := by
      rw [List.map_map]
      exact h.banIds
    cidrMissing := fun hmissing => absurd hmissing hcolumn
    readable := nofun }

theorem onward_dropTempBanIp (h : Valid env db) (hbackend : backend ≠ .sqlite)
    (hcolumn : db.banCidr ≠ .missing) (hip : db.banIp = true)
    (hfilled : ∀ row ∈ db.bans, isBlank row.cidr = false) :
    Onward env backend db
      { db with
        banIp := false
        bans := db.bans.map fun row => { row with ip := none } } where
  valid := h.dropTempBanIp hcolumn
  target := by
    have hsame : ∀ index, isDropped backend { db with
        banIp := false, bans := db.bans.map fun row => { row with ip := none } } index =
          isDropped backend db index := by
      intro index
      simp [isDropped, hbackend]
    simp only [target, hsame, hip, map_convertBan_of_filled hfilled, hbackend]
    rfl
  done := by
    intro task hdone
    cases task with
    | rules => exact hdone
    | bans => rfl
    | interfaceIps => exact hdone
    | table name => exact hdone
    | index index => exact ⟨hdone.1, rfl, hdone.2.2⟩
    | dropIndex => exact hdone

theorem onward_rebuildTempBans (h : Valid env db) (hip : db.banIp = true)
    (hfilled : ∀ row ∈ db.bans, isBlank row.cidr = false) :
    Onward env .sqlite db
      { db with
        banIp := false
        bans := db.bans.map fun row => { row with ip := none }
        banCidr := .required
        indexes := dropIndexesOf "firewall_temp_bans" db.indexes } where
  valid :=
    { (h.dropTempBanIp nofun : Valid env { db with
        banCidr := .required
        banIp := false
        bans := db.bans.map fun row => { row with ip := none } }) with
      indexed := fun hindexed => by
        have hindexed : (ruleKeyIndex.1 != "firewall_temp_bans" && db.indexes ruleKeyIndex) = true :=
          hindexed
        exact h.indexed (Bool.and_eq_true_iff.mp hindexed).2 }
  target := by
    have hsame : ∀ index, (!isDropped .sqlite { db with
        banIp := false
        bans := db.bans.map fun row => { row with ip := none }
        banCidr := .required
        indexes := dropIndexesOf "firewall_temp_bans" db.indexes } index &&
          dropIndexesOf "firewall_temp_bans" db.indexes index) =
        (!isDropped .sqlite db index && db.indexes index) := by
      intro index
      simp only [isDropped, dropIndexesOf, bne, hip]
      cases index.1 == "firewall_temp_bans" <;> simp
    simp only [target, hsame, hip, map_convertBan_of_filled hfilled]
    rfl
  done := by
    intro task hdone
    cases task with
    | rules => exact hdone
    | bans => rfl
    | interfaceIps => exact hdone
    | table name => exact hdone
    | index index => exact absurd (hip.symm.trans hdone.2.1) nofun
    | dropIndex =>
        have hnone : db.indexes policyNameRuleKeyIndex = false := hdone
        change (policyNameRuleKeyIndex.1 != "firewall_temp_bans" &&
          db.indexes policyNameRuleKeyIndex) = false
        rw [hnone, Bool.and_false]

/-! ## Statements on the catalog -/

theorem onward_withTable (h : Valid env db) {table : String} (hmissing : db.tables table = false)
    (htable : table ∈ allTables) : Onward env backend db (withTable table db) := by
  have hrules : table ≠ "firewall_rules" := by
    rintro rfl
    exact absurd (h.ruleTable.symm.trans hmissing) nofun
  have hbans : table ≠ "firewall_temp_bans" := by
    rintro rfl
    exact absurd (h.banTable.symm.trans hmissing) nofun
  have hkept : withTable table db =
      { db with
        nodeInterfaceIps := if table = "firewall_nodes" then true else db.nodeInterfaceIps
        tables := fun name => name == table || db.tables name } := by
    simp only [withTable, if_neg hrules, if_neg hbans]
  rw [hkept]
  refine ⟨?_, ?_, ?_⟩
  · exact
      { h with
        ruleTable := Bool.or_eq_true_iff.mpr (Or.inr h.ruleTable)
        banTable := Bool.or_eq_true_iff.mpr (Or.inr h.banTable) }
  · have hsame : ∀ name, (allTables.contains name || (name == table || db.tables name)) =
        (allTables.contains name || db.tables name) := by
      intro name
      by_cases hname : name = table
      · subst hname
        rw [List.contains_iff_mem.mpr htable, Bool.true_or, Bool.true_or]
      · rw [beq_eq_false_iff_ne.mpr hname, Bool.false_or]
    simp only [target, hsame]
    rfl
  · intro task hdone
    cases task with
    | rules => exact hdone
    | bans => exact hdone
    | interfaceIps =>
        rw [Done, show db.nodeInterfaceIps = true from hdone, ite_self]
    | table name => exact Bool.or_eq_true_iff.mpr (Or.inr hdone)
    | index index => exact hdone
    | dropIndex => exact hdone

theorem onward_nodeInterfaceIps (h : Valid env db) :
    Onward env backend db { db with nodeInterfaceIps := true } where
  valid := { h with }
  target := rfl
  done := by
    intro task hdone
    cases task with
    | rules => exact hdone
    | bans => exact hdone
    | interfaceIps => rfl
    | table name => exact hdone
    | index index => exact hdone
    | dropIndex => exact hdone

theorem onward_dropIndex (h : Valid env db) :
    Onward env backend db
      { db with indexes := fun name => name != policyNameRuleKeyIndex && db.indexes name } where
  valid :=
    { h with
      indexed := fun hindexed => by
        have hindexed : (ruleKeyIndex != policyNameRuleKeyIndex && db.indexes ruleKeyIndex) = true :=
          hindexed
        exact h.indexed (Bool.and_eq_true_iff.mp hindexed).2 }
  target := by
    have hsame : ∀ index, (!isDropped backend { db with
        indexes := fun name => name != policyNameRuleKeyIndex && db.indexes name } index &&
          (index != policyNameRuleKeyIndex && db.indexes index)) =
        (!isDropped backend db index && db.indexes index) := by
      intro index
      simp only [isDropped, bne]
      cases index == policyNameRuleKeyIndex <;> simp
    simp only [target, hsame]
  done := by
    intro task hdone
    cases task with
    | rules => exact hdone
    | bans => exact hdone
    | interfaceIps => exact hdone
    | table name => exact hdone
    | index index =>
        obtain ⟨hrules, hbans, hne, hindex⟩ := hdone
        exact ⟨hrules, hbans, hne, Bool.and_eq_true_iff.mpr ⟨bne_iff_ne.mpr hne, hindex⟩⟩
    | dropIndex => rfl

theorem onward_withIndex (h : Valid env db) {index : String × String}
    (hindex : index ∈ ruleKeyIndex :: plainIndexes)
    (hunique : index = ruleKeyIndex → RulesDone db ∧ (db.rules.map RuleRecord.ruleKey).Nodup) :
    Onward env backend db (withIndex index db) where
  valid :=
    { h with
      indexed := fun hindexed => by
        rcases Bool.or_eq_true_iff.mp hindexed with hsame | hindexed
        · obtain ⟨hdone, hnodup⟩ := hunique (beq_iff_eq.mp hsame).symm
          exact ⟨hnodup, hdone.2⟩
        · exact h.indexed hindexed }
  target := by
    have hsame : ∀ name, ((ruleKeyIndex :: plainIndexes).contains name ||
        !isDropped backend (withIndex index db) name && (name == index || db.indexes name)) =
        ((ruleKeyIndex :: plainIndexes).contains name ||
          !isDropped backend db name && db.indexes name) := by
      intro name
      by_cases hname : name = index
      · subst hname
        rw [List.contains_iff_mem.mpr hindex, Bool.true_or, Bool.true_or]
      · rw [beq_eq_false_iff_ne.mpr hname, Bool.false_or]
        rfl
    simp only [withIndex] at hsame
    simp only [target, withIndex, hsame]
    rfl
  done := by
    intro task hdone
    cases task with
    | rules => exact hdone
    | bans => exact hdone
    | interfaceIps => exact hdone
    | table name => exact hdone
    | index other =>
        obtain ⟨hrules, hbans, hne, hother⟩ := hdone
        exact ⟨hrules, hbans, hne, Bool.or_eq_true_iff.mpr (Or.inr hother)⟩
    | dropIndex =>
        have hne : policyNameRuleKeyIndex ≠ index := by
          rintro rfl
          exact absurd hindex (by decide)
        have hnone : db.indexes policyNameRuleKeyIndex = false := hdone
        change (policyNameRuleKeyIndex == index || db.indexes policyNameRuleKeyIndex) = false
        rw [hnone, beq_eq_false_iff_ne.mpr hne, Bool.false_or]

/-! ## Programs -/

/-- The migration goes on from `t`. -/
def Clean (env : MigrationEnv) (backend : DbBackend) (s t : Session) : Prop :=
  Onward env backend s.db t.db ∧ t.killAfter.isSome = s.killAfter.isSome

/-- Every rule has its key, and two rules have the same. -/
def Collides (db : Db) : Prop :=
  RulesDone db ∧ ¬ (db.rules.map RuleRecord.ruleKey).Nodup

/-- From `s` the program ends well in a database with this property, unless it is killed or two rules
collide; either way it is on the way. -/
def Leads (env : MigrationEnv) (backend : DbBackend) (m : Migration Unit) (s : Session)
    (post : Db → Prop) : Prop :=
  Ends m s (fun _ t => Clean env backend s t ∧ post t.db)
    fun _ t => Onward env backend s.db t.db ∧ (s.killAfter.isSome = true ∨ Collides t.db)

variable {s : Session} {m n : Migration Unit} {post post' : Db → Prop}

theorem Clean.trans {t u : Session} (h : Clean env backend s t) (h' : Clean env backend t u) :
    Clean env backend s u :=
  ⟨h.1.trans h'.1, h'.2.trans h.2⟩

theorem leads_pure (h : Valid env s.db) (hpost : post s.db) :
    Leads env backend (pure ()) s post :=
  Ends.pure ⟨⟨.refl h, rfl⟩, hpost⟩

theorem leads_execute {statement : Db → Except String Db} {db' : Db}
    (hstatement : statement s.db = .ok db') (h : Onward env backend s.db db') (hpost : post db')
    (hvalid : Valid env s.db) : Leads env backend (execute statement) s post := by
  obtain ⟨db, killAfter⟩ := s
  cases killAfter with
  | none =>
      refine ends_of_ok (a := ()) (t := { db := db', killAfter := none }) ?_ ⟨⟨h, rfl⟩, hpost⟩
      simp only [execute, EStateM.run, hstatement, Option.map_none]
  | some kill =>
      cases kill with
      | zero => exact ends_of_error rfl ⟨.refl hvalid, Or.inl rfl⟩
      | succ kill =>
          refine ends_of_ok (a := ()) (t := { db := db', killAfter := some kill }) ?_
            ⟨⟨h, rfl⟩, hpost⟩
          simp only [execute, EStateM.run, hstatement, Option.map_some, Nat.add_sub_cancel]

theorem leads_refused {statement : Db → Except String Db} {e : String}
    (hstatement : statement s.db = .error e) (h : Valid env s.db) (hcollides : Collides s.db) :
    Leads env backend (execute statement) s post := by
  obtain ⟨db, killAfter⟩ := s
  cases killAfter with
  | none =>
      refine ends_of_error (e := .failed e) (t := ⟨db, none⟩) ?_ ⟨.refl h, Or.inr hcollides⟩
      simp only [execute, EStateM.run, hstatement]
  | some kill =>
      cases kill with
      | zero => exact ends_of_error rfl ⟨.refl h, Or.inl rfl⟩
      | succ kill =>
          refine ends_of_error (e := .failed e) (t := ⟨db, some (kill + 1)⟩) ?_
            ⟨.refl h, Or.inr hcollides⟩
          simp only [execute, EStateM.run, hstatement]

theorem leads_read {f : Db → Migration Unit} (h : Leads env backend (f s.db) s post) :
    Leads env backend (readDb >>= f) s post :=
  h

theorem Leads.then (h : Leads env backend m s post)
    (hn : ∀ t, Clean env backend s t → post t.db → Leads env backend n t post') :
    Leads env backend (m >>= fun _ => n) s post' := by
  refine Ends.bind h fun _ t ⟨hclean, hpost⟩ => ?_
  refine (hn t hclean hpost).mono ?_ ?_
  · rintro _ u ⟨hclean', hpost'⟩
    exact ⟨hclean.trans hclean', hpost'⟩
  · rintro _ u ⟨honward, hkilled⟩
    exact ⟨hclean.1.trans honward, hclean.2 ▸ hkilled⟩

theorem Leads.imp (h : Leads env backend m s post)
    (hpost : ∀ t, Clean env backend s t → post t.db → post' t.db) :
    Leads env backend m s post' :=
  Ends.mono h (fun _ t ⟨hclean, hdb⟩ => ⟨hclean, hpost t hclean hdb⟩) fun _ _ hfailed => hfailed

theorem Leads.mono (h : Leads env backend m s post) (hpost : ∀ db, post db → post' db) :
    Leads env backend m s post' :=
  h.imp fun t _ => hpost t.db

/-! ## Backfills -/

/-- A loop over the blank rows of a table. Each pass fills its row and leaves the other ones. -/
theorem leads_backfill {Row : Type} {rows : Db → List Row} {blank : Row → Bool}
    {keep : Db → Prop} {body : Row → Migration Unit}
    (hbody : ∀ s row, Valid env s.db → keep s.db → row ∈ rows s.db → blank row = true →
      Leads env backend (body row) s fun db => keep db ∧
        (∀ other ∈ rows db, blank other = true → other ∈ rows s.db ∧ other ≠ row) ∧
        ∀ other ∈ rows s.db, other ≠ row → other ∈ rows db)
    {todo : List Row} (hnodup : todo.Nodup) :
    ∀ {s : Session}, Valid env s.db → keep s.db →
      (∀ row ∈ todo, row ∈ rows s.db ∧ blank row = true) →
      Leads env backend (todo.forM body) s fun db => keep db ∧
        ∀ other ∈ rows db, blank other = true → other ∈ rows s.db ∧ other ∉ todo := by
  induction todo with
  | nil =>
      intro s h hkeep _
      exact leads_pure h ⟨hkeep, fun other hother _ => ⟨hother, List.not_mem_nil⟩⟩
  | cons row rest ih =>
      intro s h hkeep htodo
      obtain ⟨hrow, hblank⟩ := htodo row List.mem_cons_self
      obtain ⟨hnotMem, hrest⟩ := List.nodup_cons.mp hnodup
      refine Leads.then (n := rest.forM body) (hbody s row h hkeep hrow hblank) fun t hclean ⟨hkeep', hfilled, hothers⟩ => ?_
      have htodo' : ∀ other ∈ rest, other ∈ rows t.db ∧ blank other = true := by
        intro other hother
        obtain ⟨hmem, hblank'⟩ := htodo other (List.mem_cons_of_mem _ hother)
        refine ⟨hothers other hmem ?_, hblank'⟩
        rintro rfl
        exact hnotMem hother
      refine (ih hrest hclean.1.valid hkeep' htodo').mono ?_
      rintro db ⟨hkeep'', hleft⟩
      refine ⟨hkeep'', fun other hother hblank' => ?_⟩
      obtain ⟨hmem, hnotRest⟩ := hleft other hother hblank'
      obtain ⟨hmem', hne⟩ := hfilled other hmem hblank'
      refine ⟨hmem', fun hin => ?_⟩
      rcases List.mem_cons.mp hin with rfl | hin
      · exact hne rfl
      · exact hnotRest hin

/-- The loop over all blank rows leaves none of them. -/
theorem leads_backfill_all {Row : Type} {rows : Db → List Row} {blank : Row → Bool}
    {keep : Db → Prop} {body : Row → Migration Unit}
    (hbody : ∀ s row, Valid env s.db → keep s.db → row ∈ rows s.db → blank row = true →
      Leads env backend (body row) s fun db => keep db ∧
        (∀ other ∈ rows db, blank other = true → other ∈ rows s.db ∧ other ≠ row) ∧
        ∀ other ∈ rows s.db, other ≠ row → other ∈ rows db)
    (h : Valid env s.db) (hkeep : keep s.db) (hnodup : (rows s.db).Nodup) :
    Leads env backend (((rows s.db).filter blank).forM body) s fun db => keep db ∧
      ∀ other ∈ rows db, blank other = false := by
  refine (leads_backfill hbody (hnodup.filter _) h hkeep fun row hrow =>
    List.mem_filter.mp hrow).mono ?_
  rintro db ⟨hkeep', hleft⟩
  refine ⟨hkeep', fun other hother => Bool.eq_false_iff.mpr fun hblank => ?_⟩
  obtain ⟨hmem, hnot⟩ := hleft other hother hblank
  exact hnot (List.mem_filter.mpr ⟨hmem, hblank⟩)

/-! ## The two conversions -/

theorem leads_backfillFirewallRuleKeys (h : Valid env s.db) (hcolumn : s.db.ruleKey ≠ .missing) :
    Leads env backend (backfillFirewallRuleKeys env) s fun db => db.ruleKey ≠ .missing ∧
      ∀ row ∈ db.rules, isBlank row.ruleKey = false := by
  refine leads_read (leads_backfill_all ?_ h hcolumn (List.Nodup.of_map _ h.ruleIds))
  intro s row h hcolumn hrow hblank
  refine leads_execute rfl (onward_updateFirewallRuleKey h hcolumn hrow hblank)
    ⟨hcolumn, ?_, ?_⟩ h
  · intro other hother hotherBlank
    obtain ⟨old, hold, rfl⟩ := List.mem_map.mp hother
    by_cases hid : old.fields.id = row.fields.id
    · rw [if_pos hid] at hotherBlank
      have hkey : isBlank (some (generatedRuleKey env row.fields)) = true := hotherBlank
      rw [generatedRuleKey_not_blank] at hkey
      cases hkey
    · rw [if_neg hid]
      exact ⟨hold, fun hsame => hid (congrArg (fun row => row.fields.id) hsame)⟩
  · intro other hother hne
    refine List.mem_map.mpr ⟨other, hother, if_neg fun hid => hne ?_⟩
    exact List.inj_on_of_nodup_map h.ruleIds hother hrow hid

theorem leads_ensureFirewallRuleKeyNotNull (h : Valid env s.db)
    (hfilled : ∀ row ∈ s.db.rules, isBlank row.ruleKey = false) :
    Leads env backend (ensureFirewallRuleKeyNotNull backend) s RulesDone := by
  have hok := setRuleKeyNotNull_ok hfilled
  cases backend with
  | postgres =>
      exact leads_execute hok (onward_setRuleKeyNotNull h nofun) ⟨rfl, hfilled⟩ h
  | mySql =>
      exact leads_execute hok (onward_setRuleKeyNotNull h nofun) ⟨rfl, hfilled⟩ h
  | sqlite =>
      refine leads_read ?_
      by_cases hrequired : s.db.ruleKey = .required
      · rw [if_pos hrequired]
        exact leads_pure h ⟨hrequired, hfilled⟩
      · rw [if_neg hrequired]
        refine leads_execute ?_ (onward_rebuildFirewallRules h hrequired) ⟨rfl, hfilled⟩ h
        rw [rebuildFirewallRules, hok]
        rfl

theorem leads_ensureFirewallRuleKeyColumn (h : Valid env s.db) :
    Leads env backend (ensureFirewallRuleKeyColumn env backend) s RulesDone := by
  have hcolumn : Leads env backend addMissingRuleKeyColumn s fun db => db.ruleKey ≠ .missing := by
    refine leads_read ?_
    by_cases hmissing : s.db.ruleKey = .missing
    · rw [if_pos hmissing]
      exact leads_execute (if_pos hmissing) (onward_addRuleKeyColumn h hmissing) nofun h
    · rw [if_neg hmissing]
      exact leads_pure h hmissing
  refine hcolumn.then fun t hclean hcolumn => ?_
  refine (leads_backfillFirewallRuleKeys hclean.1.valid hcolumn).then fun t hclean hfilled => ?_
  exact leads_ensureFirewallRuleKeyNotNull hclean.1.valid hfilled.2

theorem leads_backfillTempBanCidrs (h : Valid env s.db) (hcolumn : s.db.banCidr ≠ .missing) :
    Leads env backend (backfillTempBanCidrs env) s fun db => db.banCidr ≠ .missing ∧
      (db.banIp = true → ∀ row ∈ db.bans, isBlank row.cidr = false) := by
  refine leads_read ?_
  by_cases hip : s.db.banIp = true
  case neg =>
    rw [if_neg hip]
    exact leads_pure h ⟨hcolumn, fun hip' => absurd hip' hip⟩
  case pos =>
    rw [if_pos hip]
    let keep (db : Db) : Prop := db.banCidr ≠ .missing ∧ db.banIp = true
    have hkeep : keep s.db := ⟨hcolumn, hip⟩
    refine Leads.mono (leads_backfill_all ?_ h hkeep (List.Nodup.of_map _ h.banIds))
      fun db hdb => ⟨hdb.1.1, fun _ => hdb.2⟩
    rintro s row h ⟨hcolumn, hip⟩ hrow hblank
    obtain ⟨cidr, hcidr⟩ := h.readable hip row hrow
    simp only [hcidr]
    refine leads_execute rfl (onward_updateTempBanCidr h hcolumn hip hrow hblank hcidr)
      ⟨⟨hcolumn, hip⟩, ?_, ?_⟩ h
    · intro other hother hotherBlank
      obtain ⟨old, hold, rfl⟩ := List.mem_map.mp hother
      by_cases hid : old.fields.id = row.fields.id
      · rw [if_pos hid] at hotherBlank
        have hfilled : isBlank (some cidr) = true := hotherBlank
        rw [legacyCidr_not_blank hcidr] at hfilled
        cases hfilled
      · rw [if_neg hid]
        exact ⟨hold, fun hsame => hid (congrArg (fun row => row.fields.id) hsame)⟩
    · intro other hother hne
      refine List.mem_map.mpr ⟨other, hother, if_neg fun hid => hne ?_⟩
      exact List.inj_on_of_nodup_map h.banIds hother hrow hid

theorem rebuildTempBans_ok (hfilled : ∀ row ∈ db.bans, isBlank row.cidr = false) :
    rebuildTempBans db = .ok
      { db with
        banIp := false
        bans := db.bans.map fun row => { row with ip := none }
        banCidr := .required
        indexes := dropIndexesOf "firewall_temp_bans" db.indexes } := by
  rw [rebuildTempBans, if_neg]
  · rfl
  · rw [Bool.not_eq_true, List.any_eq_false]
    intro row hrow hnone
    have hblank := hfilled row hrow
    rw [Option.isNone_iff_eq_none.mp hnone] at hblank
    cases hblank

theorem leads_dropLegacyTempBanIpColumn (h : Valid env s.db) (hcolumn : s.db.banCidr ≠ .missing)
    (hfilled : s.db.banIp = true → ∀ row ∈ s.db.bans, isBlank row.cidr = false) :
    Leads env backend (dropLegacyTempBanIpColumn backend) s BansDone := by
  refine leads_read ?_
  by_cases hip : s.db.banIp = true
  case neg =>
    rw [if_neg hip]
    exact leads_pure h (Bool.eq_false_iff.mpr hip)
  case pos =>
    rw [if_pos hip]
    cases backend with
    | postgres =>
        exact leads_execute rfl (onward_dropTempBanIp h nofun hcolumn hip (hfilled hip)) rfl h
    | mySql =>
        exact leads_execute rfl (onward_dropTempBanIp h nofun hcolumn hip (hfilled hip)) rfl h
    | sqlite =>
        exact leads_execute (rebuildTempBans_ok (hfilled hip))
          (onward_rebuildTempBans h hip (hfilled hip)) rfl h

theorem leads_ensureTempBanCidrColumn (h : Valid env s.db) :
    Leads env backend (ensureTempBanCidrColumn env backend) s BansDone := by
  have hcolumn : Leads env backend addMissingTempBanCidrColumn s
      fun db => db.banCidr ≠ .missing := by
    refine leads_read ?_
    by_cases hmissing : s.db.banCidr = .missing
    · rw [if_pos hmissing]
      exact leads_execute (if_pos hmissing) (onward_addTempBanCidrColumn h hmissing) nofun h
    · rw [if_neg hmissing]
      exact leads_pure h hmissing
  refine hcolumn.then fun t hclean hcolumn => ?_
  refine (leads_backfillTempBanCidrs hclean.1.valid hcolumn).then fun t hclean hfilled => ?_
  exact leads_dropLegacyTempBanIpColumn hclean.1.valid hfilled.1 hfilled.2

end Migrations
end XdpFirewall
