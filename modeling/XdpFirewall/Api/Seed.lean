import XdpFirewall.Api.VersionBumps

/-!
# Seed — the rows that the control plane puts into a policy itself

At its start the control plane makes sure that there is a policy, with the threat sources that are
built in. On request it puts an example in the place of what the policy has. Each of them is one
transaction, and raises the version once if it changes anything.
-/

namespace XdpFirewall
namespace Api

open Lib Policy ControlPlane

namespace Seed

/-! ## Built-in rows -/

structure BuiltinThreatSource where
  name : String
  url : String
  format : String
  minScore : Option Int32

/-- `BUILTIN_THREAT_SOURCES` -/
def builtinThreatSources : List BuiltinThreatSource :=
  [{ name := "ipsum"
     url := "https://raw.githubusercontent.com/stamparm/ipsum/master/ipsum.txt"
     format := "ipsum"
     minScore := some 3 },
   { name := "spamhaus-drop"
     url := "https://www.spamhaus.org/drop/drop.txt"
     format := "spamhaus_drop"
     minScore := some 3 },
   { name := "voipbl"
     url := "https://voipbl.org/update/"
     format := "voipbl"
     minScore := some 3 }]

def BuiltinThreatSource.row (source : BuiltinThreatSource) (id : Int32) : ThreatSourceRow where
  id := id
  policyName := defaultPolicyName
  enabled := true
  name := source.name
  url := source.url
  format := source.format
  minScore := source.minScore

/-- The insert of one source. On a conflict of its name the statement leaves the row as it is. -/
def insertBuiltinThreatSource (env : ApiEnv) (source : BuiltinThreatSource) : Transaction Unit := do
  match ← threatSourceTable.select fun row => row.name = source.name with
  | [] =>
      let _ ← threatSourceTable.insert env (.internal "UNIQUE constraint failed") source.row
  | _ :: _ => pure ()

/-- The loop of `insert_builtin_threat_sources`, and how many sources it was missing. -/
def insertMissingSources (env : ApiEnv) (existingNames : List String) :
    List BuiltinThreatSource → Transaction Nat
  | [] => pure 0
  | source :: rest => do
      if source.name ∈ existingNames then
        insertMissingSources env existingNames rest
      else
        insertBuiltinThreatSource env source
        return (← insertMissingSources env existingNames rest) + 1

def insertBuiltinThreatSources (env : ApiEnv) : Transaction Nat := do
  let existing ← threatSourceTable.select fun _ => true
  insertMissingSources env (existing.map ThreatSourceRow.name) builtinThreatSources

/-- `ensure_default_dynamic_defense_exists` -/
def ensureDefaultDynamicDefenseExists : Transaction Unit := do
  match ← DynamicDefense.findRow with
  | some _ => pure ()
  | none =>
      let row ← liftResult
        (fromAnyhow (DynamicDefense.dynamicDefenseRow DynamicDefensePolicy.default))
      DynamicDefense.writeRow row

/-! ## Transactions -/

/-- A transaction of the control plane itself. Without a new version it is rolled back. -/
def settle {A : Type} (env : ApiEnv) (db : PolicyDb) (body : Transaction (Option Int × A)) :
    ApiResult (Option Int × A) × PolicyDb :=
  match env.transactionFails, body.run { db := db, written := [] } with
  | some e, _ => (.error e, db)
  | none, .error e _ => (.error e, db)
  | none, .ok (none, a) _ => (.ok (none, a), db)
  | none, .ok (some version, a) t => (.ok (some version, a), t.db)

def findPolicyVersion : Transaction (Option PolicyVersionRow) := fun s =>
  .ok (s.db.policyVersions.find? fun row => row.policyName = defaultPolicyName) s

/-- The statements of `ensure_builtin_policy`, and how many sources it was missing. -/
def ensureBuiltinPolicyBody (env : ApiEnv) : Transaction (Option Int × Nat) := do
  match ← findPolicyVersion with
  | some _ =>
      let inserted ← insertBuiltinThreatSources env
      if 0 < inserted then
        return (some (← nextPolicyVersionInTransaction), inserted)
      else
        return (none, inserted)
  | none =>
      ensureDefaultDynamicDefenseExists
      let inserted ← insertBuiltinThreatSources env
      return (some (← nextPolicyVersionInTransaction), inserted)

/-- For the default policy, which is the only one. -/
def ensureBuiltinPolicy (env : ApiEnv) (db : PolicyDb) :
    ApiResult (Option Int × Nat) × PolicyDb :=
  settle env db (ensureBuiltinPolicyBody env)

/-! ## The example -/

/-- The rows of the policy in the table of states and in that of prefixes go with the sources. -/
def clearThreatRows : Transaction Unit :=
  modify fun s =>
    { s with
      db :=
        { s.db with
          threatSourceStates := s.db.threatSourceStates.filter fun row =>
            row.policyName ≠ defaultPolicyName
          threatPrefixes := s.db.threatPrefixes.filter fun row =>
            row.policyName ≠ defaultPolicyName } }

def clearExamplePolicyData : Transaction Unit := do
  let _ ← firewallRuleTable.delete fun _ => true
  let _ ← geoCountryTable.delete fun _ => true
  let _ ← threatSourceTable.delete fun _ => true
  clearThreatRows

def exampleRule (env : ApiEnv) (priority : Int32) (action cidr comment : String) (id : Int32) :
    FirewallRuleRow where
  id := id
  policyName := defaultPolicyName
  ruleKey := generatedRuleKey env priority action cidr none none
  enabled := true
  priority := priority
  action := action
  cidr := cidr
  protocol := none
  port := none
  comment := some comment

/-- `insert_example_firewall_rules` inserts these two. -/
def exampleDeny (env : ApiEnv) : Int32 → FirewallRuleRow :=
  exampleRule env 10 "deny" "203.0.113.0/24" "example deny CIDR"

def exampleAllow (env : ApiEnv) : Int32 → FirewallRuleRow :=
  exampleRule env 20 "allow" "10.0.0.0/8" "example private allow CIDR"

/-- `insert_example_geo_country_policy` -/
def exampleCountry (id : Int32) : GeoCountryRow where
  id := id
  policyName := defaultPolicyName
  enabled := true
  country := "CN"
  action := "allow"

/-- The rows of the example; the time of their writing is left out. -/
def seedExamplePolicy (env : ApiEnv) (db : PolicyDb) : ApiResult (Option Int × Unit) × PolicyDb :=
  settle env db do
    clearExamplePolicyData
    let _ ← firewallRuleTable.insert env (.internal "UNIQUE constraint failed") (exampleDeny env)
    let _ ← firewallRuleTable.insert env (.internal "UNIQUE constraint failed") (exampleAllow env)
    let _ ← geoCountryTable.insert env (.internal "UNIQUE constraint failed") exampleCountry
    ensureDefaultDynamicDefenseExists
    let _ ← insertBuiltinThreatSources env
    return (some (← nextPolicyVersionInTransaction), ())

/-! ## What the statements do -/

section Statements

variable {env : ApiEnv} {s : TxnState}

theorem endsOk_and {A : Type} {x : Transaction A} {p q : A → TxnState → Prop} (hp : EndsOk x s p)
    (hq : EndsOk x s q) : EndsOk x s fun a t => p a t ∧ q a t := by
  unfold EndsOk Ends at hp hq ⊢
  cases hrun : x.run s with
  | ok a t =>
      rw [hrun] at hp hq
      exact ⟨hp, hq⟩
  | error e t => trivial

/-- An insert appends the row and changes no other. -/
theorem endsOk_insert_row {Row : Type} {table : RowTable Row} {refused : ApiError}
    {row : Int32 → Row} :
    EndsOk (table.insert env refused row) s fun new t =>
      (∃ id, new = row id) ∧ t.db = table.withRows s.db (table.rows s.db ++ [new]) := by
  by_cases hany : (table.rows s.db).any (fun old => table.collides old
      (row (env.nextId ((table.rows s.db).map table.id)))) = true
  · exact ends_of_error (if_pos hany) trivial
  · exact ends_of_ok (if_neg hany) ⟨⟨_, rfl⟩, rfl⟩

theorem rowOk_builtin {source : BuiltinThreatSource} (hsource : source ∈ builtinThreatSources)
    (text : TextReaders) (id : Int32) : threatSourceTable.RowOk text (source.row id) := by
  have hformat : ∃ format, parseFormat source.format = .ok format := by
    simp only [builtinThreatSources, List.mem_cons, List.not_mem_nil, or_false] at hsource
    rcases hsource with rfl | rfl | rfl
    · exact ⟨.ipsum, by rw [parseFormat, toLower_eq_self (by decide)]; rfl⟩
    · exact ⟨.spamhausDrop, by rw [parseFormat, toLower_eq_self (by decide)]; rfl⟩
    · exact ⟨.voipbl, by rw [parseFormat, toLower_eq_self (by decide)]; rfl⟩
  have hscore : ∃ score, optionalInt32ToU32 "threat min_score" source.minScore = .ok score := by
    simp only [builtinThreatSources, List.mem_cons, List.not_mem_nil, or_false] at hsource
    rcases hsource with rfl | rfl | rfl
    all_goals exact ⟨_, rfl⟩
  obtain ⟨format, hformat⟩ := hformat
  obtain ⟨score, hscore⟩ := hscore
  exact exists_bind_ok hformat (exists_bind_ok hscore ⟨_, rfl⟩)

/-- The rows of sources that were missing, in their order. -/
def RowsOf (sources : List BuiltinThreatSource) (rows : List ThreatSourceRow) : Prop :=
  List.Forall₂ (fun source row => ∃ id, row = BuiltinThreatSource.row source id) sources rows

/-- No row of the policy has the name of a source that is to be inserted. -/
def Missing (s : TxnState) (existingNames : List String) (sources : List BuiltinThreatSource) :
    Prop :=
  ∀ source ∈ sources, source.name ∉ existingNames → ∀ row ∈ s.db.threatSources,
    row.policyName = defaultPolicyName → row.name ≠ source.name

theorem endsOk_insertBuiltinThreatSource (hschema : Schema s.db) {source : BuiltinThreatSource}
    (hsource : source ∈ builtinThreatSources)
    (hmissing : ∀ row ∈ s.db.threatSources, row.policyName = defaultPolicyName →
      row.name ≠ source.name) :
    EndsOk (insertBuiltinThreatSource env source) s fun _ t =>
      Writes env s t true ∧ ∃ id, t.db = { s.db with
        threatSources := s.db.threatSources ++ [source.row id] } := by
  refine EndsOk.select ?_
  have hnone : (threatSourceTable.rows s.db).filter
      (threatSourceTable.selects fun row => row.name = source.name) = [] := by
    refine List.filter_eq_nil_iff.mpr fun row hrow hselects => ?_
    obtain ⟨hpolicy, hname⟩ := of_selects hselects
    exact hmissing row hrow hpolicy (of_decide_eq_true hname)
  rw [hnone]
  have hinsert := endsOk_and
    (@endsOk_insert _ threatSourceTable env s (.internal "UNIQUE constraint failed") source.row
      hschema fun _ => rowOk_builtin hsource env.text)
    endsOk_insert_row
  refine hinsert.bind fun new t hnew => ?_
  obtain ⟨hwrites, ⟨id, rfl⟩, hdb⟩ := hnew
  exact Ends.pure ⟨hwrites, id, hdb⟩

/-- Every source that is missing is appended, enabled, and nothing else is written. -/
theorem endsOk_insertMissingSources (hschema : Schema s.db) {existingNames : List String}
    {sources : List BuiltinThreatSource} (hsources : sources ⊆ builtinThreatSources)
    (hnames : (sources.map BuiltinThreatSource.name).Nodup)
    (hmissing : Missing s existingNames sources) :
    EndsOk (insertMissingSources env existingNames sources) s fun inserted t =>
      Writes env s t (0 < inserted) ∧ ∃ rows,
        RowsOf (sources.filter fun source => source.name ∉ existingNames) rows ∧
        inserted = rows.length ∧ t.db = { s.db with
          threatSources := s.db.threatSources ++ rows } := by
  induction sources generalizing s with
  | nil =>
      refine Ends.pure ⟨Writes.refl hschema, [], List.Forall₂.nil, rfl, ?_⟩
      rw [List.append_nil]
  | cons source rest ih =>
      obtain ⟨hsource, hrest⟩ := List.cons_subset.mp hsources
      obtain ⟨hfresh, hnames⟩ := List.nodup_cons.mp hnames
      rw [insertMissingSources]
      by_cases hexists : source.name ∈ existingNames
      · rw [if_pos hexists, List.filter_cons_of_neg (by simpa using hexists)]
        exact ih hschema hrest hnames fun other hother =>
          hmissing other (List.mem_cons_of_mem _ hother)
      · rw [if_neg hexists, List.filter_cons_of_pos (by simpa using hexists)]
        have hone := hmissing source List.mem_cons_self hexists
        refine (endsOk_insertBuiltinThreatSource hschema hsource hone).bind fun _ mid hmid => ?_
        obtain ⟨hwrites, id, hdb⟩ := hmid
        have hstill : Missing mid existingNames rest := by
          intro other hother hname row hrow hpolicy
          rw [hdb] at hrow
          rcases List.mem_append.mp hrow with hrow | hrow
          · exact hmissing other (List.mem_cons_of_mem _ hother) hname row hrow hpolicy
          · rw [List.mem_singleton.mp hrow]
            intro hsame
            exact hfresh (List.mem_map.mpr ⟨other, hother, hsame.symm⟩)
        refine (ih hwrites.schema hrest hnames hstill).bind fun inserted t ht => ?_
        obtain ⟨hmore, rows, hrows, rfl, hdb'⟩ := ht
        refine Ends.pure ⟨?_, source.row id :: rows, .cons ⟨id, rfl⟩ hrows, rfl, ?_⟩
        · simpa using hwrites.trans hmore
        · rw [hdb', hdb]
          simp

/-- The built-in sources that the policy has no row for. -/
def missingSources (db : PolicyDb) : List BuiltinThreatSource :=
  builtinThreatSources.filter fun source => source.name ∉
    ((db.threatSources.filter fun row => row.policyName = defaultPolicyName).map
      ThreatSourceRow.name)

theorem endsOk_insertBuiltinThreatSources (hschema : Schema s.db) :
    EndsOk (insertBuiltinThreatSources env) s fun inserted t =>
      Writes env s t (0 < inserted) ∧ ∃ rows, RowsOf (missingSources s.db) rows ∧
        inserted = rows.length ∧ t.db = { s.db with
          threatSources := s.db.threatSources ++ rows } := by
  refine EndsOk.select ?_
  have hselects : (threatSourceTable.rows s.db).filter (threatSourceTable.selects fun _ => true) =
      s.db.threatSources.filter fun row => row.policyName = defaultPolicyName := by
    refine List.filter_congr fun row _ => ?_
    rw [RowTable.selects, Bool.and_true]
    rfl
  rw [hselects]
  refine endsOk_insertMissingSources hschema (List.Subset.refl _) (by decide) ?_
  intro source _ hname row hrow hpolicy hsame
  refine hname (List.mem_map.mpr ⟨row, List.mem_filter.mpr ⟨hrow, ?_⟩, hsame⟩)
  exact decide_eq_true hpolicy

def defaultDefenseRow : DynamicDefenseRow where
  policyName := defaultPolicyName
  enabled := true
  ipRateLimitEnabled := true
  ipPacketsPerSecond := some 5000
  ipBurst := some 10000
  floodEnabled := true
  floodPacketsPerSecond := some 20000
  floodBurst := some 40000
  floodBlockSeconds := some 60

theorem dynamicDefenseRow_default :
    DynamicDefense.dynamicDefenseRow DynamicDefensePolicy.default = .ok defaultDefenseRow := rfl

/-- The rows of dynamic defense, with the default one when the policy has none. -/
def defenseRows (db : PolicyDb) : List DynamicDefenseRow :=
  if db.dynamicDefense.any fun row => row.policyName = defaultPolicyName then
    db.dynamicDefense
  else
    db.dynamicDefense ++ [defaultDefenseRow]

theorem endsOk_ensureDefaultDynamicDefenseExists (env : ApiEnv) (hschema : Schema s.db) :
    EndsOk ensureDefaultDynamicDefenseExists s fun _ t => ∃ active,
      Writes env s t active ∧ t.db = { s.db with dynamicDefense := defenseRows s.db } := by
  refine EndsOk.findRow ?_
  cases hfound : s.db.dynamicDefense.find? fun row => row.policyName = defaultPolicyName with
  | some row =>
      have hany : (s.db.dynamicDefense.any fun row => row.policyName = defaultPolicyName) = true :=
        List.any_eq_true.mpr
          ⟨row, List.mem_of_find?_eq_some hfound, by simpa using List.find?_some hfound⟩
      refine Ends.pure ⟨false, Writes.refl hschema, ?_⟩
      rw [defenseRows, if_pos hany]
  | none =>
      have hany : (s.db.dynamicDefense.any fun row => row.policyName = defaultPolicyName) = false :=
        List.any_eq_false.mpr (List.find?_eq_none.mp hfound)
      refine EndsOk.lift fun row hrow => ?_
      rw [dynamicDefenseRow_default] at hrow
      cases hrow
      have hwrite := DynamicDefense.endsOk_writeRow env hschema
        (DynamicDefense.policyName_of_row dynamicDefenseRow_default)
        ⟨_, DynamicDefense.parse_of_row dynamicDefenseRow_default,
          validateDynamicDefensePolicy_default⟩
      have hrows : EndsOk (DynamicDefense.writeRow defaultDefenseRow) s fun _ t =>
          t.db = { s.db with dynamicDefense := defenseRows s.db } := by
        refine Ends.modify ?_
        simp only [defenseRows, hany, Bool.false_eq_true, if_false]
      exact (endsOk_and hwrite hrows).mono (fun _ t ht => ⟨true, ht⟩) fun _ _ => id

end Statements

/-! ## What the transactions do -/

/-- The networks of the example can be read. -/
structure ReadsExample (env : ApiEnv) : Prop where
  deny : ∃ net, env.text.ipNet "203.0.113.0/24" = some net
  allow : ∃ net, env.text.ipNet "10.0.0.0/8" = some net

/-- What statements keep that leave the version alone. -/
structure Keeps (env : ApiEnv) (db db' : PolicyDb) : Prop where
  schema : Schema db'
  readable : Faithful env → Readable env.text db → Readable env.text db'
  policyVersions : db'.policyVersions = db.policyVersions

theorem keeps_of_writes {env : ApiEnv} {s t : TxnState} {active : Bool}
    (h : Writes env s t active) : Keeps env s.db t.db where
  schema := h.schema
  readable := h.readable
  policyVersions := h.policyVersions

/-- What a writer of the control plane may do to a policy. -/
structure Advances (env : ApiEnv) (db db' : PolicyDb) : Prop where
  schema : Schema db'
  readable : Faithful env → Readable env.text db → Readable env.text db'
  version : SameInForce defaultPolicyName db db' ∨
    policyVersion db' defaultPolicyName = policyVersion db defaultPolicyName + 1

section Transactions

variable {env : ApiEnv} {db : PolicyDb}

theorem Keeps.trans {db' db'' : PolicyDb} (h : Keeps env db db') (h' : Keeps env db' db'') :
    Keeps env db db'' where
  schema := h'.schema
  readable hfaithful := h'.readable hfaithful ∘ h.readable hfaithful
  policyVersions := h'.policyVersions.trans h.policyVersions

theorem advances_raised {db' : PolicyDb} (h : Keeps env db db') : Advances env db (raised db') where
  schema := h.schema.raised
  readable hfaithful hreadable := (h.readable hfaithful hreadable).raised
  version := by
    right
    rw [policyVersion_raised, policyVersion, h.policyVersions]
    rfl

/-- A transaction that is not rolled back has ended well and raised the version last. -/
theorem settle_ok {A : Type} {body : Transaction (Option Int × A)}
    {ok : Option Int × A → TxnState → Prop}
    (hbody : EndsOk body { db := db, written := [] } ok) :
    ((∃ e, (settle env db body).1 = .error e) ∧ (settle env db body).2 = db) ∨
    (∃ a t, (settle env db body).1 = .ok (none, a) ∧ (settle env db body).2 = db ∧
      ok (none, a) t) ∨
    ∃ version a t, (settle env db body).1 = .ok (some version, a) ∧
      (settle env db body).2 = t.db ∧ ok (some version, a) t := by
  unfold settle
  cases env.transactionFails with
  | some e => exact Or.inl ⟨⟨e, rfl⟩, rfl⟩
  | none =>
      cases hrun : body.run { db := db, written := [] } with
      | error e t => exact Or.inl ⟨⟨e, rfl⟩, rfl⟩
      | ok result t =>
          obtain ⟨version, a⟩ := result
          have hok := hbody.of_ok hrun
          cases version with
          | none => exact Or.inr (Or.inl ⟨a, t, rfl, rfl, hok⟩)
          | some version => exact Or.inr (Or.inr ⟨version, a, t, rfl, rfl, hok⟩)

/-- There is a version, and each built-in source has a row. -/
structure Settled (db : PolicyDb) : Prop where
  version : ∃ row ∈ db.policyVersions, row.policyName = defaultPolicyName
  sources : missingSources db = []

/-- The database after a start that had something to do: the missing sources, and, for a new policy,
dynamic defense. -/
def started (db : PolicyDb) (rows : List ThreatSourceRow) : PolicyDb :=
  raised { db with
    threatSources := db.threatSources ++ rows
    dynamicDefense :=
      if db.policyVersions.any fun row => row.policyName = defaultPolicyName then
        db.dynamicDefense
      else
        defenseRows db }

theorem endsOk_raiseVersion (s : TxnState) :
    EndsOk nextPolicyVersionInTransaction s fun version t =>
      version = policyVersion s.db defaultPolicyName + 1 ∧ t.db = raised s.db :=
  ends_of_ok run_nextPolicyVersionInTransaction ⟨rfl, rfl⟩

theorem EndsOk.findPolicyVersion {B : Type} {s : TxnState}
    {f : Option PolicyVersionRow → Transaction B} {ok : B → TxnState → Prop}
    (h : EndsOk (f (s.db.policyVersions.find? fun row => row.policyName = defaultPolicyName)) s
      ok) : EndsOk (findPolicyVersion >>= f) s ok := h

/-- What the statements of a start can have done. -/
def StartDone (env : ApiEnv) (db : PolicyDb) (result : Option Int × Nat) (t : TxnState) : Prop :=
  (Settled db ∧ result = (none, 0)) ∨
  ∃ rows, ¬ Settled db ∧ RowsOf (missingSources db) rows ∧
    result = (some (policyVersion db defaultPolicyName + 1), rows.length) ∧
    t.db = started db rows ∧ Advances env db (started db rows)

theorem startDone_of_writes {s t u : TxnState} {active : Bool} (hwrites : Writes env s t active)
    {rows : List ThreatSourceRow} (hunsettled : ¬ Settled s.db)
    (hrows : RowsOf (missingSources s.db) rows) (hstarted : raised t.db = started s.db rows)
    (hu : u.db = raised t.db) :
    StartDone env s.db (some (policyVersion t.db defaultPolicyName + 1), rows.length) u := by
  refine Or.inr ⟨rows, hunsettled, hrows, ?_, hu.trans hstarted, ?_⟩
  · rw [policyVersion, hwrites.policyVersions]
    rfl
  · rw [← hstarted]
    exact advances_raised (keeps_of_writes hwrites)

theorem endsOk_start_existing (hschema : Schema db) {version : PolicyVersionRow}
    (hmem : version ∈ db.policyVersions) (hname : version.policyName = defaultPolicyName) :
    EndsOk (do
      let inserted ← insertBuiltinThreatSources env
      if 0 < inserted then
        return (some (← nextPolicyVersionInTransaction), inserted)
      else
        return (none, inserted)) { db := db, written := [] } (StartDone env db) := by
  have hany : (db.policyVersions.any fun row => row.policyName = defaultPolicyName) = true :=
    List.any_eq_true.mpr ⟨version, hmem, decide_eq_true hname⟩
  refine (endsOk_insertBuiltinThreatSources hschema).bind fun inserted t ht => ?_
  obtain ⟨hwrites, rows, hrows, rfl, hdb⟩ := ht
  have hlength := hrows.length_eq
  split
  · next hsome =>
      have hunsettled : ¬ Settled db := by
        intro hsettled
        rw [hsettled.sources, List.length_nil] at hlength
        omega
      refine (endsOk_raiseVersion t).bind fun _ u hu => ?_
      obtain ⟨rfl, hu⟩ := hu
      refine Ends.pure (startDone_of_writes hwrites hunsettled hrows ?_ hu)
      rw [hdb, started, if_pos hany]
  · next hnone =>
      have hempty : rows = [] := List.eq_nil_of_length_eq_zero (by omega)
      subst hempty
      refine Ends.pure (Or.inl ⟨⟨⟨version, hmem, hname⟩, ?_⟩, rfl⟩)
      exact List.eq_nil_of_length_eq_zero hlength

theorem endsOk_start_fresh (hschema : Schema db)
    (hnone : ∀ row ∈ db.policyVersions, row.policyName ≠ defaultPolicyName) :
    EndsOk (do
      ensureDefaultDynamicDefenseExists
      let inserted ← insertBuiltinThreatSources env
      return (some (← nextPolicyVersionInTransaction), inserted)) { db := db, written := [] }
      (StartDone env db) := by
  have hany : ¬ (db.policyVersions.any fun row => row.policyName = defaultPolicyName) = true := by
    rw [Bool.not_eq_true]
    exact List.any_eq_false.mpr fun row hrow => by simpa using hnone row hrow
  have hunsettled : ¬ Settled db := fun hsettled => by
    obtain ⟨row, hrow, hname⟩ := hsettled.version
    exact hnone row hrow hname
  refine (endsOk_ensureDefaultDynamicDefenseExists env hschema).bind fun _ mid hmid => ?_
  obtain ⟨active, hdefense, hmid⟩ := hmid
  refine (endsOk_insertBuiltinThreatSources hdefense.schema).bind fun inserted t ht => ?_
  obtain ⟨hsources, rows, hrows, rfl, hdb⟩ := ht
  have hmissing : missingSources mid.db = missingSources db := by
    rw [hmid]
    rfl
  rw [hmissing] at hrows
  refine (endsOk_raiseVersion t).bind fun _ u hu => ?_
  obtain ⟨rfl, hu⟩ := hu
  refine Ends.pure (startDone_of_writes (hdefense.trans hsources) hunsettled hrows ?_ hu)
  rw [hdb, hmid, started, if_neg hany]

/-- What a start can have done: it has failed, it had nothing to do, or it has put in place what was
missing. -/
theorem ensureBuiltinPolicy_cases (env : ApiEnv) (hschema : Schema db) :
    ((∃ e, (ensureBuiltinPolicy env db).1 = .error e) ∧ (ensureBuiltinPolicy env db).2 = db) ∨
    (Settled db ∧ (ensureBuiltinPolicy env db).1 = .ok (none, 0) ∧
      (ensureBuiltinPolicy env db).2 = db) ∨
    ∃ rows, ¬ Settled db ∧ RowsOf (missingSources db) rows ∧
      (ensureBuiltinPolicy env db).1 =
        .ok (some (policyVersion db defaultPolicyName + 1), rows.length) ∧
      (ensureBuiltinPolicy env db).2 = started db rows ∧ Advances env db (started db rows) := by
  have hbody : EndsOk (ensureBuiltinPolicyBody env) { db := db, written := [] }
      (StartDone env db) := by
    refine EndsOk.findPolicyVersion ?_
    cases hfound : db.policyVersions.find? fun row => row.policyName = defaultPolicyName with
    | some version =>
        exact endsOk_start_existing hschema (List.mem_of_find?_eq_some hfound)
          (by simpa using List.find?_some hfound)
    | none =>
        exact endsOk_start_fresh hschema fun row hrow => by
          simpa using List.find?_eq_none.mp hfound row hrow
  rcases settle_ok hbody with hfailed | ⟨inserted, t, hanswer, hsame, hdone⟩ |
    ⟨version, inserted, t, hanswer, hdb, hdone⟩
  · exact Or.inl hfailed
  · rcases hdone with ⟨hsettled, hresult⟩ | ⟨rows, -, -, hresult, -⟩
    · cases hresult
      exact Or.inr (Or.inl ⟨hsettled, hanswer, hsame⟩)
    · cases hresult
  · rcases hdone with ⟨-, hresult⟩ | ⟨rows, hunsettled, hrows, hresult, ht, hadvances⟩
    · cases hresult
    · cases hresult
      exact Or.inr (Or.inr ⟨rows, hunsettled, hrows, hanswer, hdb.trans ht, hadvances⟩)

theorem exists_of_rowsOf {sources : List BuiltinThreatSource} {rows : List ThreatSourceRow}
    (h : RowsOf sources rows) {source : BuiltinThreatSource} (hsource : source ∈ sources) :
    ∃ row ∈ rows, row.policyName = defaultPolicyName ∧ row.name = source.name := by
  obtain ⟨row, hrow, id, rfl⟩ := exists_right_of_forall₂ h hsource
  exact ⟨_, hrow, rfl, rfl⟩

theorem missingSources_eq_nil_iff :
    missingSources db = [] ↔ ∀ source ∈ builtinThreatSources, ∃ row ∈ db.threatSources,
      row.policyName = defaultPolicyName ∧ row.name = source.name := by
  rw [missingSources, List.filter_eq_nil_iff]
  simp [and_assoc]

theorem exists_raised (db : PolicyDb) :
    ∃ row ∈ (raised db).policyVersions, row.policyName = defaultPolicyName := by
  unfold raised
  cases hfound : db.policyVersions.find? fun row => row.policyName = defaultPolicyName with
  | none => exact ⟨_, List.mem_append_right _ List.mem_cons_self, rfl⟩
  | some row =>
      have hname : row.policyName = defaultPolicyName := by simpa using List.find?_some hfound
      refine ⟨_, List.mem_map.mpr ⟨row, List.mem_of_find?_eq_some hfound, rfl⟩, ?_⟩
      rw [if_pos hname]
      exact hname

theorem settled_started {rows : List ThreatSourceRow} (hrows : RowsOf (missingSources db) rows) :
    Settled (started db rows) where
  version := exists_raised _
  sources := by
    rw [missingSources_eq_nil_iff]
    intro source hsource
    by_cases hmissing : source ∈ missingSources db
    · obtain ⟨row, hrow, hname⟩ := exists_of_rowsOf hrows hmissing
      exact ⟨row, List.mem_append_right _ hrow, hname⟩
    · rw [missingSources, List.mem_filter, not_and] at hmissing
      have hexists := hmissing hsource
      simp only [decide_eq_true_eq, not_not, List.mem_map, List.mem_filter] at hexists
      obtain ⟨row, ⟨hrow, hpolicy⟩, hname⟩ := hexists
      exact ⟨row, List.mem_append_left _ hrow, hpolicy, hname⟩

/-! ## Starts -/

/-- One start after the other, each with its own surroundings. -/
def runStarts (db : PolicyDb) (starts : List ApiEnv) : PolicyDb :=
  starts.foldl (fun db env => (ensureBuiltinPolicy env db).2) db

theorem runStarts_append (db : PolicyDb) (before after : List ApiEnv) :
    runStarts db (before ++ after) = runStarts (runStarts db before) after :=
  List.foldl_append

theorem ensureBuiltinPolicy_of_settled (env : ApiEnv) (hschema : Schema db) (h : Settled db) :
    (ensureBuiltinPolicy env db).2 = db := by
  rcases ensureBuiltinPolicy_cases env hschema with ⟨-, hsame⟩ | ⟨-, -, hsame⟩ | ⟨_, hnot, -⟩
  · exact hsame
  · exact hsame
  · exact absurd h hnot

theorem runStarts_of_settled (hschema : Schema db) (h : Settled db) (starts : List ApiEnv) :
    runStarts db starts = db := by
  induction starts with
  | nil => rfl
  | cons env rest ih =>
      change runStarts (ensureBuiltinPolicy env db).2 rest = db
      rw [ensureBuiltinPolicy_of_settled env hschema h]
      exact ih

/-- At most one of many starts does something. -/
theorem runStarts_cases (hschema : Schema db) (starts : List ApiEnv) :
    runStarts db starts = db ∨ ∃ rows, ¬ Settled db ∧ RowsOf (missingSources db) rows ∧
      Schema (started db rows) ∧ runStarts db starts = started db rows := by
  induction starts with
  | nil => exact Or.inl rfl
  | cons env rest ih =>
      change runStarts (ensureBuiltinPolicy env db).2 rest = db ∨ ∃ rows, ¬ Settled db ∧ _ ∧ _ ∧
        runStarts (ensureBuiltinPolicy env db).2 rest = started db rows
      rcases ensureBuiltinPolicy_cases env hschema with
        ⟨-, hsame⟩ | ⟨-, -, hsame⟩ | ⟨rows, hnot, hrows, -, hstarted, hadvances⟩
      · rw [hsame]
        exact ih
      · rw [hsame]
        exact ih
      · rw [hstarted]
        refine Or.inr ⟨rows, hnot, hrows, hadvances.schema, ?_⟩
        exact runStarts_of_settled hadvances.schema (settled_started hrows) rest

theorem schema_runStarts (hschema : Schema db) (starts : List ApiEnv) :
    Schema (runStarts db starts) := by
  rcases runStarts_cases hschema starts with hsame | ⟨rows, -, -, hafter, hstarted⟩
  · rw [hsame]
    exact hschema
  · rw [hstarted]
    exact hafter

/-- A start that does not fail leaves a policy that is settled. -/
theorem settled_of_ok {env : ApiEnv} {result : Option Int × Nat} (hschema : Schema db)
    (h : (ensureBuiltinPolicy env db).1 = .ok result) : Settled (ensureBuiltinPolicy env db).2 := by
  rcases ensureBuiltinPolicy_cases env hschema with
    ⟨⟨e, herror⟩, -⟩ | ⟨hsettled, -, hsame⟩ | ⟨rows, -, hrows, -, hstarted, -⟩
  · rw [h] at herror
    cases herror
  · rw [hsame]
    exact hsettled
  · rw [hstarted]
    exact settled_started hrows

/-- However often the control plane starts, what is missing is put in place once: rows that there
were before stay as they are, also when they are disabled, and the version is raised by one. From
the first start that does not fail, no start changes anything. -/
theorem runStarts_onlyOnce (db : PolicyDb) (hschema : Schema db) (starts : List ApiEnv) :
    (runStarts db starts = db ∨ ∃ rows, ¬ Settled db ∧ RowsOf (missingSources db) rows ∧
      runStarts db starts = started db rows) ∧
    ∀ before env after result, starts = before ++ env :: after →
      (ensureBuiltinPolicy env (runStarts db before)).1 = .ok result →
        Settled (runStarts db starts) ∧
          runStarts db starts = (ensureBuiltinPolicy env (runStarts db before)).2 := by
  constructor
  · rcases runStarts_cases hschema starts with hsame | ⟨rows, hnot, hrows, -, hstarted⟩
    · exact Or.inl hsame
    · exact Or.inr ⟨rows, hnot, hrows, hstarted⟩
  · intro before env after result hsplit hok
    have hbefore := schema_runStarts hschema before
    have hsettled := settled_of_ok hbefore hok
    have hthere : Schema (ensureBuiltinPolicy env (runStarts db before)).2 :=
      schema_runStarts hbefore [env]
    have hrest : runStarts db starts = (ensureBuiltinPolicy env (runStarts db before)).2 := by
      rw [hsplit, runStarts_append]
      exact runStarts_of_settled hthere hsettled after
    rw [hrest]
    exact ⟨hsettled, rfl⟩

/-- The first start finds the database empty, the second one finds what the first has left. -/
theorem runStarts_onlyOnce_empty :
    Settled (runStarts PolicyDb.empty [officeEnv none, officeEnv none]) ∧
      runStarts PolicyDb.empty [officeEnv none, officeEnv none] =
        (ensureBuiltinPolicy (officeEnv none) PolicyDb.empty).2 :=
  (runStarts_onlyOnce PolicyDb.empty schema_empty [officeEnv none, officeEnv none]).2 []
    (officeEnv none) [officeEnv none] (some 1, 3) rfl rfl

/-! ## The example in the place of the policy -/

/-- The database without the rows that the example replaces. -/
def cleared (db : PolicyDb) : PolicyDb :=
  { db with
    firewallRules := db.firewallRules.filter fun row => row.policyName ≠ defaultPolicyName
    geoCountries := db.geoCountries.filter fun row => row.policyName ≠ defaultPolicyName
    threatSources := db.threatSources.filter fun row => row.policyName ≠ defaultPolicyName
    threatSourceStates := db.threatSourceStates.filter fun row =>
      row.policyName ≠ defaultPolicyName
    threatPrefixes := db.threatPrefixes.filter fun row => row.policyName ≠ defaultPolicyName }

/-- The database with the example. -/
def exampled (env : ApiEnv) (db : PolicyDb) (deny allow country : Int32)
    (rows : List ThreatSourceRow) : PolicyDb :=
  raised { cleared db with
    firewallRules := (cleared db).firewallRules ++ [exampleDeny env deny, exampleAllow env allow]
    geoCountries := (cleared db).geoCountries ++ [exampleCountry country]
    threatSources := (cleared db).threatSources ++ rows
    dynamicDefense := defenseRows db }

theorem endsOk_deleteAll {Row : Type} {table : RowTable Row} {s : TxnState} (env : ApiEnv)
    (hschema : Schema s.db) :
    EndsOk (table.delete fun _ => true) s fun _ t => Keeps env s.db t.db ∧
      t.db = table.withRows s.db
        ((table.rows s.db).filter fun row => table.policyName row ≠ defaultPolicyName) := by
  have hrows : EndsOk (table.delete fun _ => true) s fun _ t => t.db = table.withRows s.db
      ((table.rows s.db).filter fun row => table.policyName row ≠ defaultPolicyName) := by
    refine ends_of_ok rfl ?_
    simp only [RowTable.selects, Bool.and_true, decide_not]
  refine (endsOk_and (endsOk_delete env hschema) hrows).mono (fun _ t ht => ?_) fun _ _ => id
  exact ⟨keeps_of_writes ht.1.2.2, ht.2⟩

theorem endsOk_clearExamplePolicyData {s : TxnState} (env : ApiEnv) (hschema : Schema s.db) :
    EndsOk clearExamplePolicyData s fun _ t => Keeps env s.db t.db ∧ t.db = cleared s.db := by
  refine (endsOk_deleteAll env hschema).bind fun _ s₁ h₁ => ?_
  refine (endsOk_deleteAll env h₁.1.schema).bind fun _ s₂ h₂ => ?_
  refine (endsOk_deleteAll env h₂.1.schema).bind fun _ s₃ h₃ => ?_
  refine Ends.modify ⟨(h₁.1.trans (h₂.1.trans h₃.1)).trans ?_, ?_⟩
  · refine { schema := { h₃.1.schema with }, readable := fun _ hreadable => ?_, policyVersions := rfl }
    exact { hreadable with
            threatPrefixes := fun row hrow =>
              hreadable.threatPrefixes row (List.mem_of_mem_filter hrow) }
  · rw [h₃.2, h₂.2, h₁.2]
    rfl

theorem endsOk_insertExample {Row : Type} {table : RowTable Row} {refused : ApiError}
    {row : Int32 → Row} {s : TxnState} (hschema : Schema s.db)
    (hrow : ∀ id, table.RowOk env.text (row id)) :
    EndsOk (table.insert env refused row) s fun _ t => Keeps env s.db t.db ∧
      ∃ id, t.db = table.withRows s.db (table.rows s.db ++ [row id]) := by
  refine (endsOk_and (endsOk_insert hschema fun _ => hrow) endsOk_insert_row).mono
    (fun new t ht => ?_) fun _ _ => id
  obtain ⟨hwrites, ⟨id, rfl⟩, hdb⟩ := ht
  exact ⟨keeps_of_writes hwrites, id, hdb⟩

/-- The loaders can read the rows of the example. -/
theorem rowOk_exampleRule {priority : Int32} {action cidr comment : String}
    (hcidr : ∃ net, env.text.ipNet cidr = some net)
    (haction : ∃ parsed, parseAction action = .ok parsed) (id : Int32) :
    firewallRuleTable.RowOk env.text (exampleRule env priority action cidr comment id) := by
  obtain ⟨net, hnet⟩ := hcidr
  obtain ⟨parsed, hparsed⟩ := haction
  have hparse : parseCidr env.text "CIDR" cidr = .ok net := by rw [parseCidr, hnet]
  exact exists_bind_ok hparsed (exists_bind_ok hparse ⟨_, rfl⟩)

theorem parseAction_deny : ∃ parsed, parseAction "deny" = .ok parsed :=
  ⟨.deny, by rw [parseAction, toLower_eq_self (by decide)]; rfl⟩

theorem parseAction_allow : ∃ parsed, parseAction "allow" = .ok parsed :=
  ⟨.allow, by rw [parseAction, toLower_eq_self (by decide)]; rfl⟩

theorem rowOk_exampleCountry (text : TextReaders) (id : Int32) :
    geoCountryTable.RowOk text (exampleCountry id) := by
  obtain ⟨parsed, hparsed⟩ := parseAction_allow
  have hcountry : normalizedCountry "CN" = .ok "CN" := rfl
  exact exists_bind_ok hcountry (exists_bind_ok hparsed ⟨_, rfl⟩)

theorem missingSources_cleared (db : PolicyDb) :
    missingSources (cleared db) = builtinThreatSources := by
  refine List.filter_eq_self.mpr fun source _ => ?_
  have hnone : (cleared db).threatSources.filter
      (fun row => row.policyName = defaultPolicyName) = [] := by
    simp [cleared, List.filter_filter]
  rw [hnone]
  rfl

/-- What the statements of the example have done. -/
def ExampleDone (env : ApiEnv) (db : PolicyDb) (result : Option Int × Unit) (t : TxnState) : Prop :=
  ∃ deny allow country rows, RowsOf builtinThreatSources rows ∧
    result = (some (policyVersion db defaultPolicyName + 1), ()) ∧
    t.db = exampled env db deny allow country rows ∧ Advances env db t.db

/-- The example takes the place of the rules, the countries and the threat sources that the policy
has, as a whole or not at all. -/
theorem seedExamplePolicy_cases (hschema : Schema db) (hexample : ReadsExample env) :
    ((∃ e, (seedExamplePolicy env db).1 = .error e) ∧ (seedExamplePolicy env db).2 = db) ∨
    ∃ deny allow country rows, RowsOf builtinThreatSources rows ∧
      (seedExamplePolicy env db).1 =
        .ok (some (policyVersion db defaultPolicyName + 1), ()) ∧
      (seedExamplePolicy env db).2 = exampled env db deny allow country rows ∧
      Advances env db (seedExamplePolicy env db).2 := by
  have hdone : ((∃ e, (seedExamplePolicy env db).1 = .error e) ∧
        (seedExamplePolicy env db).2 = db) ∨
      (∃ a t, (seedExamplePolicy env db).1 = .ok (none, a) ∧ (seedExamplePolicy env db).2 = db ∧
        ExampleDone env db (none, a) t) ∨
      ∃ version a t, (seedExamplePolicy env db).1 = .ok (some version, a) ∧
        (seedExamplePolicy env db).2 = t.db ∧ ExampleDone env db (some version, a) t := by
    refine settle_ok ?_
    refine (endsOk_clearExamplePolicyData env hschema).bind fun _ s₁ h₁ => ?_
    refine (endsOk_insertExample h₁.1.schema
      (rowOk_exampleRule hexample.deny parseAction_deny)).bind fun _ s₂ h₂ => ?_
    refine (endsOk_insertExample h₂.1.schema
      (rowOk_exampleRule hexample.allow parseAction_allow)).bind fun _ s₃ h₃ => ?_
    refine (endsOk_insertExample h₃.1.schema (rowOk_exampleCountry env.text)).bind
      fun _ s₄ h₄ => ?_
    refine (endsOk_ensureDefaultDynamicDefenseExists env h₄.1.schema).bind fun _ s₅ h₅ => ?_
    obtain ⟨active, hdefense, hdb₅⟩ := h₅
    refine (endsOk_insertBuiltinThreatSources hdefense.schema).bind fun inserted s₆ h₆ => ?_
    obtain ⟨hsources, rows, hrows, -, hdb₆⟩ := h₆
    refine (endsOk_raiseVersion s₆).bind fun _ u hu => ?_
    obtain ⟨rfl, hu⟩ := hu
    obtain ⟨hkeeps₁, hdb₁⟩ := h₁
    obtain ⟨hkeeps₂, deny, hdb₂⟩ := h₂
    obtain ⟨hkeeps₃, allow, hdb₃⟩ := h₃
    obtain ⟨hkeeps₄, country, hdb₄⟩ := h₄
    have hkeeps : Keeps env db s₆.db :=
      (((hkeeps₁.trans hkeeps₂).trans (hkeeps₃.trans hkeeps₄)).trans
        (keeps_of_writes hdefense)).trans (keeps_of_writes hsources)
    have hmissing : missingSources s₅.db = builtinThreatSources := by
      rw [← missingSources_cleared db, hdb₅, hdb₄, hdb₃, hdb₂, hdb₁]
      rfl
    rw [hmissing] at hrows
    refine Ends.pure ⟨deny, allow, country, rows, hrows, ?_, hu.trans ?_, ?_⟩
    · rw [policyVersion, hkeeps.policyVersions]
      rfl
    · rw [hdb₆, hdb₅, hdb₄, hdb₃, hdb₂, hdb₁]
      simp only [exampled, firewallRuleTable, geoCountryTable, List.append_assoc,
        List.cons_append, List.nil_append]
      rfl
    · rw [hu]
      exact advances_raised hkeeps
  rcases hdone with hfailed | ⟨a, t, -, -, hdone⟩ | ⟨version, a, t, hanswer, hdb, hdone⟩
  · exact Or.inl hfailed
  · obtain ⟨_, _, _, _, -, hresult, -⟩ := hdone
    cases hresult
  · obtain ⟨deny, allow, country, rows, hrows, hresult, ht, hadvances⟩ := hdone
    cases hresult
    rw [← hdb] at ht hadvances
    exact Or.inr ⟨deny, allow, country, rows, hrows, hanswer, ht, hadvances⟩

end Transactions

end Seed

end Api
end XdpFirewall
