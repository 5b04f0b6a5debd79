import XdpFirewall.Api.Validation
import XdpFirewall.Lib.Outcome
import XdpFirewall.Net.Ipv6Text

/-!
# Migrate — bringing a database to the schema of this version

Every start runs the whole migration. It creates the tables and indexes that are missing and
converts two old tables: rules had no key, and temporary bans had an address instead of a CIDR. The
process can be killed after any statement; the next start runs the migration again.
-/

namespace XdpFirewall
namespace Migrations

open Net Policy ControlPlane

/-! ## The database -/

inductive DbBackend
  | postgres
  | mySql
  | sqlite
  deriving DecidableEq

/-- Whether a table has a column, and whether the column admits NULL. -/
inductive Column
  | missing
  | nullable
  | required
  deriving DecidableEq

/-- What the migration leaves alone of a rule. -/
structure RuleFields where
  id : Int32
  policyName : String
  enabled : Bool
  priority : Int32
  action : String
  cidr : String
  protocol : Option String
  port : Option Int32
  comment : Option String
  updatedAt : Int
  deriving DecidableEq

/-- What the migration leaves alone of a temporary ban. -/
structure BanFields where
  id : Int32
  policyName : String
  protocol : String
  port : Option Int32
  expiresAt : Int
  comment : Option String
  createdAt : Int
  deriving DecidableEq

/-- A row of `firewall_rules`; where the column is missing, the key is `none`. -/
structure RuleRecord where
  fields : RuleFields
  ruleKey : Option String
  deriving DecidableEq

structure BanRecord where
  fields : BanFields
  ip : Option String
  cidr : Option String
  deriving DecidableEq

/-- The two tables that are converted and the catalog. `indexes` has pairs of a table and an index.
Nothing else of the other tables is read or written, and they hold no row that a unique index of
theirs refuses; nor are the column types that are widened on MySQL. -/
structure Db where
  ruleKey : Column
  rules : List RuleRecord
  banCidr : Column
  banIp : Bool
  bans : List BanRecord
  nodeInterfaceIps : Bool
  tables : String → Bool
  indexes : String × String → Bool

/-- The libraries that the migration calls. -/
structure MigrationEnv where
  text : TextReaders
  sha256 : String → List (BitVec 8)

/-! ## Running statements -/

inductive MigrationError
  | killed
  | failed (message : String)
  deriving DecidableEq

/-- The process is killed after so many statements, if at all. -/
structure Session where
  db : Db
  killAfter : Option Nat

abbrev Migration := EStateM MigrationError Session

def execute (statement : Db → Except String Db) : Migration Unit := fun s =>
  match s.killAfter with
  | some 0 => .error .killed s
  | killAfter =>
      match statement s.db with
      | .error e => .error (.failed e) s
      | .ok db => .ok () { db := db, killAfter := killAfter.map fun n => n - 1 }

def readDb : Migration Db := do
  let s ← get
  return s.db

/-! ## Rule keys -/

/-- The text that a generated key is the digest of. -/
def ruleCanonical (rule : RuleFields) : String :=
  "priority=" ++ rule.priority.toInt.repr ++ "\naction=" ++ rule.action ++ "\ncidr=" ++ rule.cidr ++
    "\nprotocol=" ++ rule.protocol.getD "any" ++
    "\nport=" ++ (rule.port.map fun port => port.toInt.repr).getD "" ++ "\n"

def hexDigit (n : Nat) : Char :=
  if n < 10 then Char.ofNat ('0'.toNat + n) else Char.ofNat ('a'.toNat + (n - 10))

/-- `{byte:02x}` -/
def hexByte (byte : BitVec 8) : List Char :=
  [hexDigit (byte.toNat / 16), hexDigit (byte.toNat % 16)]

/-- The first half of a digest in groups of hexadecimal digits. -/
def formatRuleKey (digest : List (BitVec 8)) : String :=
  let hex := (digest.take 16).flatMap hexByte
  String.ofList (hex.take 8 ++ '-' :: (hex.drop 8).take 4 ++ '-' :: (hex.drop 12).take 4 ++
    '-' :: (hex.drop 16).take 4 ++ '-' :: (hex.drop 20).take 12)

def generatedRuleKey (env : MigrationEnv) (rule : RuleFields) : String :=
  formatRuleKey (env.sha256 (ruleCanonical rule))

/-- `IS NULL OR TRIM(..) = ''`; SQL trims spaces only. -/
def isBlank (value : Option String) : Bool :=
  match value with
  | none => true
  | some value => value.toList.all fun c => c == ' '

/-- `ALTER TABLE firewall_rules ADD COLUMN rule_key` -/
def addRuleKeyColumn (db : Db) : Except String Db :=
  if db.ruleKey = .missing then
    .ok { db with ruleKey := .nullable }
  else
    .error "duplicate column name: rule_key"

def updateFirewallRuleKey (id : Int32) (ruleKey : String) (db : Db) : Except String Db :=
  .ok
    { db with
      rules := db.rules.map fun row =>
        if row.fields.id = id then { row with ruleKey := some ruleKey } else row }

def dropIndexesOf (table : String) (indexes : String × String → Bool) : String × String → Bool :=
  fun index => index.1 != table && indexes index

/-- `SET NOT NULL`, which a NULL in the column refuses. -/
def setRuleKeyNotNull (db : Db) : Except String Db :=
  if db.rules.any fun row => row.ruleKey.isNone then
    .error "column rule_key contains null values"
  else
    .ok { db with ruleKey := .required }

/-- The transaction that copies the rows to a new table; the indexes go with the old table. -/
def rebuildFirewallRules (db : Db) : Except String Db := do
  let db ← setRuleKeyNotNull db
  .ok { db with indexes := dropIndexesOf "firewall_rules" db.indexes }

def backfillFirewallRuleKeys (env : MigrationEnv) : Migration Unit := do
  let db ← readDb
  (db.rules.filter fun row => isBlank row.ruleKey).forM fun row =>
    execute (updateFirewallRuleKey row.fields.id (generatedRuleKey env row.fields))

def ensureFirewallRuleKeyNotNull (backend : DbBackend) : Migration Unit := do
  match backend with
  | .postgres | .mySql => execute setRuleKeyNotNull
  | .sqlite =>
      let db ← readDb
      if db.ruleKey = .required then pure () else execute rebuildFirewallRules

def addMissingRuleKeyColumn : Migration Unit := do
  let db ← readDb
  if db.ruleKey = .missing then execute addRuleKeyColumn else pure ()

def ensureFirewallRuleKeyColumn (env : MigrationEnv) (backend : DbBackend) : Migration Unit := do
  addMissingRuleKeyColumn
  backfillFirewallRuleKeys env
  ensureFirewallRuleKeyNotNull backend

/-! ## CIDRs of temporary bans -/

/-- `ALTER TABLE firewall_temp_bans ADD COLUMN cidr` -/
def addTempBanCidrColumn (db : Db) : Except String Db :=
  if db.banCidr = .missing then
    .ok { db with banCidr := .nullable }
  else
    .error "duplicate column name: cidr"

def legacyIpToCidr (env : MigrationEnv) (ip : String) : Except String String :=
  match env.text.ipAddr (String.ofList (trim ip.toList)) with
  | none => .error ("invalid legacy temporary ban IP '" ++ ip ++ "'")
  | some (.v4 addr) => .ok (String.ofList (IpText.displayIpAddr (.v4 addr)) ++ "/32")
  | some (.v6 addr) => .ok (String.ofList (IpText.displayIpAddr (.v6 addr)) ++ "/128")

def updateTempBanCidr (id : Int32) (cidr : String) (db : Db) : Except String Db :=
  .ok
    { db with
      bans := db.bans.map fun row =>
        if row.fields.id = id then { row with cidr := some cidr } else row }

/-- The CIDR of a row, or the error that ends the migration. -/
def legacyCidr (env : MigrationEnv) (row : BanRecord) : Except String String :=
  match row.ip with
  | none =>
      .error ("temporary ban row " ++ row.fields.id.toInt.repr ++ " is missing legacy ip value")
  | some ip => legacyIpToCidr env ip

def backfillTempBanCidrs (env : MigrationEnv) : Migration Unit := do
  let db ← readDb
  if db.banIp then
    (db.bans.filter fun row => isBlank row.cidr).forM fun row =>
      match legacyCidr env row with
      | .error e => throw (.failed e)
      | .ok cidr => execute (updateTempBanCidr row.fields.id cidr)
  else
    pure ()

/-- `DROP COLUMN ip` -/
def dropTempBanIp (db : Db) : Except String Db :=
  .ok { db with banIp := false, bans := db.bans.map fun row => { row with ip := none } }

/-- The transaction that copies the rows to a table without the address. -/
def rebuildTempBans (db : Db) : Except String Db :=
  if db.bans.any fun row => row.cidr.isNone then
    .error "NOT NULL constraint failed: firewall_temp_bans_new.cidr"
  else do
    let db ← dropTempBanIp db
    .ok
      { db with
        banCidr := .required
        indexes := dropIndexesOf "firewall_temp_bans" db.indexes }

def dropLegacyTempBanIpColumn (backend : DbBackend) : Migration Unit := do
  let db ← readDb
  if db.banIp then
    match backend with
    | .postgres | .mySql => execute dropTempBanIp
    | .sqlite => execute rebuildTempBans
  else
    pure ()

def addMissingTempBanCidrColumn : Migration Unit := do
  let db ← readDb
  if db.banCidr = .missing then execute addTempBanCidrColumn else pure ()

def ensureTempBanCidrColumn (env : MigrationEnv) (backend : DbBackend) : Migration Unit := do
  addMissingTempBanCidrColumn
  backfillTempBanCidrs env
  dropLegacyTempBanIpColumn backend

/-! ## Tables and indexes -/

/-- A new table has the columns of its entity and no rows. -/
def withTable (table : String) (db : Db) : Db where
  ruleKey := if table = "firewall_rules" then .required else db.ruleKey
  rules := if table = "firewall_rules" then [] else db.rules
  banCidr := if table = "firewall_temp_bans" then .required else db.banCidr
  banIp := if table = "firewall_temp_bans" then false else db.banIp
  bans := if table = "firewall_temp_bans" then [] else db.bans
  nodeInterfaceIps := if table = "firewall_nodes" then true else db.nodeInterfaceIps
  tables := fun name => name == table || db.tables name
  indexes := db.indexes

/-- `CREATE TABLE IF NOT EXISTS` -/
def createTable (table : String) : Migration Unit :=
  execute fun db => .ok (if db.tables table then db else withTable table db)

def ensureNodeInterfaceIpsColumn : Migration Unit := do
  let db ← readDb
  if db.nodeInterfaceIps then
    pure ()
  else
    execute fun db => .ok { db with nodeInterfaceIps := true }

def withIndex (index : String × String) (db : Db) : Db :=
  { db with indexes := fun name => name == index || db.indexes name }

/-- `accepts` is the condition under which the statement succeeds. -/
def createIndex (index : String × String) (accepts : Db → Bool) : Migration Unit := do
  let db ← readDb
  if db.indexes index then
    pure ()
  else
    execute fun db => if accepts db then .ok (withIndex index db) else .error "duplicate key value"

def dropIndexIfExists (index : String × String) : Migration Unit := do
  let db ← readDb
  if db.indexes index then
    execute fun db => .ok { db with indexes := fun name => name != index && db.indexes name }
  else
    pure ()

def ruleKeyIndex : String × String := ("firewall_rules", "idx_firewall_rules_rule_key")

def policyNameRuleKeyIndex : String × String :=
  ("firewall_rules", "idx_firewall_rules_policy_name_rule_key")

/-- A unique index on `rule_key`, whatever the policy. -/
def ensureFirewallRuleKeyUniqueIndex : Migration Unit := do
  dropIndexIfExists policyNameRuleKeyIndex
  createIndex ruleKeyIndex fun db => decide (db.rules.map RuleRecord.ruleKey).Nodup

def geoTables : List String :=
  ["firewall_geo_country_policies", "firewall_geo_country_catalog", "firewall_geo_ip_list_states",
    "firewall_geo_ip_prefixes"]

def threatTables : List String :=
  ["firewall_threat_sources", "firewall_threat_source_states", "firewall_threat_prefixes"]

def dynamicPolicyTables : List String :=
  ["firewall_dynamic_defense", "firewall_dynamic_rate_limits"]

/-- The indexes of the other tables and of the temporary bans, in the order of their creation. -/
def plainIndexes : List (String × String) :=
  [("firewall_geo_country_catalog", "idx_firewall_geo_country_catalog_code"),
    ("firewall_geo_ip_list_states", "idx_firewall_geo_ip_list_states_country"),
    ("firewall_geo_ip_prefixes", "idx_firewall_geo_ip_prefixes_country"),
    ("firewall_dynamic_rate_limits", "idx_firewall_dynamic_rate_limits_policy_name_priority"),
    ("firewall_temp_bans", "idx_firewall_temp_bans_policy_name_expires_at"),
    ("firewall_trusted_cidrs", "idx_firewall_trusted_cidrs_policy_name_cidr"),
    ("firewall_threat_sources", "idx_firewall_threat_sources_policy_name_name"),
    ("firewall_threat_source_states", "idx_firewall_threat_source_states_policy_name_source"),
    ("firewall_threat_prefixes", "idx_firewall_threat_prefixes_policy_name_source")]

def createPolicyTables (env : MigrationEnv) (backend : DbBackend) : Migration Unit := do
  createTable "firewall_policy_versions"
  createTable "firewall_rules"
  ensureFirewallRuleKeyColumn env backend

def createTempBanTables (env : MigrationEnv) (backend : DbBackend) : Migration Unit := do
  createTable "firewall_temp_bans"
  ensureTempBanCidrColumn env backend

def createNodeTables : Migration Unit := do
  createTable "firewall_nodes"
  ensureNodeInterfaceIpsColumn

def migrate (env : MigrationEnv) (backend : DbBackend) : Migration Unit := do
  createPolicyTables env backend
  geoTables.forM createTable
  threatTables.forM createTable
  dynamicPolicyTables.forM createTable
  createTempBanTables env backend
  createTable "firewall_trusted_cidrs"
  createNodeTables
  plainIndexes.forM fun index => createIndex index fun _ => true
  ensureFirewallRuleKeyUniqueIndex

/-! ## Starts -/

/-- One start: how the migration ends, and the database that it leaves. -/
def start (env : MigrationEnv) (backend : DbBackend) (killAfter : Option Nat) (db : Db) :
    Except MigrationError Unit × Db :=
  match (migrate env backend).run { db := db, killAfter := killAfter } with
  | .ok _ s => (.ok (), s.db)
  | .error e s => (.error e, s.db)

/-- The database after starts that are killed after so many statements. -/
def afterKills (env : MigrationEnv) (backend : DbBackend) (kills : List Nat) (db : Db) : Db :=
  kills.foldl (fun db kill => (start env backend (some kill) db).2) db

end Migrations
end XdpFirewall
