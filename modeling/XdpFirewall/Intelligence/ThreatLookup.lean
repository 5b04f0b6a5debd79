import Mathlib.Logic.Function.Basic
import XdpFirewall.Intelligence.ThreatLists

/-!
# ThreatLookup — the lookup database and the rebuilds behind it

Dropped packets are named after the threat feed that lists their source. The database for that is
rebuilt in the background: when a lookup finds a new version of the policy, and by force after a
refresh. A rebuild reads the version first and the feeds in queries of their own, while other
requests go on.
-/

namespace XdpFirewall
namespace Intelligence

open ControlPlane Lib Net Policy

/-! ## The feeds in force -/

/-- The sources of every network that one of them lists: a map sorted by its keys, of sorted
sets. -/
abbrev SourcesByCidr := List (String × List String)

def textLe (a b : String) : Bool :=
  a ≤ b

def sourcesByCidr (entries : List (String × String)) : SourcesByCidr :=
  (canonical textLe (entries.map Prod.fst)).map fun cidr =>
    (cidr, canonical textLe ((entries.filter fun entry => entry.1 = cidr).map Prod.snd))

def loadEnabledThreatSourceNames (db : PolicyDb) : List String :=
  (db.threatSources.filter fun row => row.policyName = defaultPolicyName ∧ row.enabled).map
    ThreatSourceRow.name

def threatEntries (text : TextReaders) (row : ThreatPrefixRow) :
    Except String (List (String × String)) := do
  return (← persistedPrefixes text row).map fun p => (prefixToCidr p, row.sourceName)

/-- The second query of `load_threat_sources_by_cidr`. -/
def loadThreatRowsByCidr (text : TextReaders) (names : List String) (db : PolicyDb) :
    Except String SourcesByCidr := do
  let rows := (db.threatPrefixes.filter fun row =>
    row.policyName = defaultPolicyName ∧ row.sourceName ∈ names).mergeSort
      fun a b => a.sourceName ≤ b.sourceName
  return sourcesByCidr (← rows.mapM (threatEntries text)).flatten

/-- `load_threat_sources_by_cidr`, with both queries on one state of the tables. -/
def loadThreatSourcesByCidr (text : TextReaders) (db : PolicyDb) : Except String SourcesByCidr :=
  let names := loadEnabledThreatSourceNames db
  if names = [] then .ok [] else loadThreatRowsByCidr text names db

/-- A database is made for feeds that list something. -/
structure ThreatIntelDatabase where
  sources : SourcesByCidr
  deriving DecidableEq

def databaseOf (sources : SourcesByCidr) : Option ThreatIntelDatabase :=
  if sources = [] then none else some ⟨sources⟩

theorem databaseOf_nil : databaseOf [] = none := rfl

theorem databaseOf_injective : Function.Injective databaseOf := by
  intro sources sources' h
  rw [databaseOf, databaseOf] at h
  split at h <;> split at h
  · next hnil hnil' => rw [hnil, hnil']
  · cases h
  · cases h
  · cases h
    rfl

theorem databaseOf_eq_none_iff {sources : SourcesByCidr} :
    databaseOf sources = none ↔ sources = [] := by
  rw [← databaseOf_nil]
  exact databaseOf_injective.eq_iff

/-! ## The state of the lookup -/

structure ThreatIntelLookupState where
  version : Option Int
  lastChecked : Option Nat
  rebuildRunning : Bool
  database : Option ThreatIntelDatabase
  deriving DecidableEq

namespace ThreatIntelLookupState

def default : ThreatIntelLookupState where
  version := none
  lastChecked := none
  rebuildRunning := false
  database := none

def shouldCheckVersion (state : ThreatIntelLookupState) (now interval : Nat) : Bool :=
  match state.lastChecked with
  | none => true
  | some last => interval ≤ now - last

/-- Whether a rebuild starts, and the state after it. -/
def startForcedRebuild (state : ThreatIntelLookupState) : Bool × ThreatIntelLookupState :=
  if state.rebuildRunning then
    (false, state)
  else
    (true, { state with
      rebuildRunning := true
      database := none })

def startRebuildForVersion (state : ThreatIntelLookupState) (version : Int)
    (checkedAt : Option Nat) : Bool × ThreatIntelLookupState :=
  let state := { state with lastChecked := checkedAt.or state.lastChecked }
  if state.version = some version ∨ state.rebuildRunning = true then
    (false, state)
  else
    (true, { state with
      rebuildRunning := true
      database := none })

def finishRebuild (state : ThreatIntelLookupState) : ThreatIntelLookupState :=
  { state with rebuildRunning := false }

def installDatabase (state : ThreatIntelLookupState) (version : Int)
    (database : ThreatIntelDatabase) : ThreatIntelLookupState :=
  { state with
    version := some version
    database := some database }

def clearDatabase (state : ThreatIntelLookupState) (version : Int) : ThreatIntelLookupState :=
  { state with
    version := some version
    database := none }

end ThreatIntelLookupState

/-! ## Steps -/

/-- Where a call of `lookup_source` is, and the tables from which it has read the version. -/
inductive LookupPhase
  | idle
  | checking (now : Nat)
  | checked (now : Nat) (version : Int) (seen : PolicyDb)

/-- The tables at the queries of a rebuild: that of the version, that of the names of the enabled
sources, and that of what these list, which is left out when there are none. -/
structure QueryTables where
  version : PolicyDb
  names : PolicyDb
  prefixes : PolicyDb

/-- What the sources that are enabled at the second query list at the third. -/
def QueryTables.listed (text : TextReaders) (tables : QueryTables) : Except String SourcesByCidr :=
  let names := loadEnabledThreatSourceNames tables.names
  if names = [] then .ok [] else loadThreatRowsByCidr text names tables.prefixes

/-- Where the background rebuild is. `seen` are the tables from which its version was read. -/
inductive RebuildPhase
  | readVersion
  | loadSources (version : Int) (seen : PolicyDb)
  | loadPrefixes (version : Int) (seen namesFrom : PolicyDb) (names : List String)
  | install (version : Int) (tables : QueryTables) (sources : SourcesByCidr)
  | finish (installed : Option QueryTables)

/-- The tables and all their states up to now, the lookup and its tasks, and the version for which
the last rebuild has failed. -/
structure LookupRun where
  db : PolicyDb
  past : List PolicyDb
  lookup : ThreatIntelLookupState
  requests : Nat → LookupPhase
  rebuild : Option RebuildPhase
  lastFailed : Option Int

/-- `rebuild` is the next step of the background rebuild, and `fail` its failure there. -/
inductive LookupEvent
  | commit (db : PolicyDb)
  | lookup (i : Nat) (now : Nat)
  | readVersion (i : Nat) (failed : Bool)
  | queueRebuild (i : Nat)
  | spawnRebuild
  | rebuild
  | fail

namespace LookupRun

def initial (db : PolicyDb) : LookupRun where
  db := db
  past := [db]
  lookup := .default
  requests _ := .idle
  rebuild := none
  lastFailed := none

/-- `current_policy_version` -/
def currentPolicyVersion (db : PolicyDb) : Int :=
  policyVersion db defaultPolicyName

def setRequest (s : LookupRun) (i : Nat) (phase : LookupPhase) : LookupRun :=
  { s with requests := Function.update s.requests i phase }

def start (s : LookupRun) (lookup : ThreatIntelLookupState) (phase : RebuildPhase) : LookupRun :=
  { s with
    lookup := lookup
    rebuild := some phase
    lastFailed := none }

def failed (s : LookupRun) (version : Int) : LookupRun :=
  { s with
    rebuild := some (.finish none)
    lastFailed := some version }

/-- `spawn_rebuild`, up to its task -/
def spawnRebuild (s : LookupRun) : LookupRun :=
  let (started, lookup) := s.lookup.startForcedRebuild
  if started then s.start lookup .readVersion else { s with lookup := lookup }

/-- `queue_rebuild_for_version`, up to its task -/
def queueRebuildForVersion (s : LookupRun) (now : Nat) (version : Int) (seen : PolicyDb) :
    LookupRun :=
  let (started, lookup) := s.lookup.startRebuildForVersion version (some now)
  if started then s.start lookup (.loadSources version seen) else { s with lookup := lookup }

/-- `rebuild_from_db` and what is done before and after it in the task -/
def rebuildStep (text : TextReaders) (s : LookupRun) : RebuildPhase → LookupRun
  | .readVersion =>
      { s with rebuild := some (.loadSources (currentPolicyVersion s.db) s.db) }
  | .loadSources version seen =>
      let names := loadEnabledThreatSourceNames s.db
      { s with
        rebuild := some (if names = [] then
            .install version
              { version := seen
                names := s.db
                prefixes := s.db } []
          else
            .loadPrefixes version seen s.db names) }
  | .loadPrefixes version seen namesFrom names =>
      match loadThreatRowsByCidr text names s.db with
      | .ok sources =>
          { s with
            rebuild := some (.install version
              { version := seen
                names := namesFrom
                prefixes := s.db } sources) }
      | .error _ => s.failed version
  | .install version tables sources =>
      { s with
        lookup := if sources = [] then s.lookup.clearDatabase version else
          s.lookup.installDatabase version ⟨sources⟩
        rebuild := some (.finish (some tables)) }
  | .finish _ =>
      { s with
        lookup := s.lookup.finishRebuild
        rebuild := none }

/-- A query or a file that fails. Without a version, it is the present one that was asked for. -/
def failStep (s : LookupRun) : RebuildPhase → Option LookupRun
  | .readVersion => some (s.failed (currentPolicyVersion s.db))
  | .loadSources version _ => some (s.failed version)
  | .loadPrefixes version _ _ _ => some (s.failed version)
  | .install version _ sources => if sources = [] then none else some (s.failed version)
  | .finish _ => none

def step (text : TextReaders) (interval : Nat) (s : LookupRun) : LookupEvent → Option LookupRun
  | .commit db => some { s with
      db := db
      past := db :: s.past }
  | .lookup i now =>
      match s.requests i with
      | .idle =>
          some (if s.lookup.shouldCheckVersion now interval then s.setRequest i (.checking now)
            else s)
      | _ => none
  | .readVersion i failed =>
      match s.requests i with
      | .checking now =>
          some (s.setRequest i
            (if failed then .idle else .checked now (currentPolicyVersion s.db) s.db))
      | _ => none
  | .queueRebuild i =>
      match s.requests i with
      | .checked now version seen =>
          some ((s.setRequest i .idle).queueRebuildForVersion now version seen)
      | _ => none
  | .spawnRebuild => some s.spawnRebuild
  | .rebuild => s.rebuild.map (s.rebuildStep text)
  | .fail => s.rebuild.bind s.failStep

/-! ## What lookups rely on -/

/-- The tables had this version at one time, and their feeds listed this. -/
def Published (text : TextReaders) (s : LookupRun) (version : Int) (sources : SourcesByCidr) :
    Prop :=
  ∃ db ∈ s.past, currentPolicyVersion db = version ∧
    loadThreatSourcesByCidr text db = .ok sources

/-- Between rebuilds, the database is that of the recorded version. -/
def Serves (text : TextReaders) (s : LookupRun) : Prop :=
  s.lookup.rebuildRunning = false → ∀ version, s.lookup.version = some version →
    ∃ sources, s.Published text version sources ∧ s.lookup.database = databaseOf sources

/-- A rebuild that has failed is started again by the next request for its version. -/
def Restarts (s : LookupRun) : Prop :=
  s.lookup.rebuildRunning = false → ∀ version, s.lastFailed = some version → ∀ checkedAt,
    (s.lookup.startRebuildForVersion version checkedAt).1 = true

/-- The end of a rebuild that does no harm. One that failed was not for the recorded version, whose
feeds list nothing. For one that did not, the feeds list at its queries what they listed when it
read the version. -/
def Harmless (text : TextReaders) (s : LookupRun) (e : LookupEvent) (_ : LookupRun) : Prop :=
  match e, s.rebuild with
  | .rebuild, some (.finish none) =>
      s.lastFailed ≠ s.lookup.version ∧
        ∀ version, s.lookup.version = some version → s.Published text version []
  | .rebuild, some (.finish (some tables)) =>
      loadThreatSourcesByCidr text tables.version = tables.listed text
  | _, _ => True

/-- Tables of one version list the same. -/
def Versioned (text : TextReaders) (s : LookupRun) : Prop :=
  ∀ db ∈ s.past, ∀ db' ∈ s.past, currentPolicyVersion db = currentPolicyVersion db' →
    loadThreatSourcesByCidr text db = loadThreatSourcesByCidr text db'

/-- What is in memory while a rebuild is on its way. -/
def PhaseOk (text : TextReaders) (s : LookupRun) : RebuildPhase → Prop
  | .readVersion => s.lookup.database = none
  | .loadSources version seen =>
      s.lookup.database = none ∧ seen ∈ s.past ∧ currentPolicyVersion seen = version
  | .loadPrefixes version seen namesFrom names =>
      s.lookup.database = none ∧ seen ∈ s.past ∧ currentPolicyVersion seen = version ∧
        names = loadEnabledThreatSourceNames namesFrom ∧ names ≠ []
  | .install version tables sources =>
      s.lookup.database = none ∧ tables.version ∈ s.past ∧
        currentPolicyVersion tables.version = version ∧ tables.listed text = .ok sources
  | .finish none => s.lookup.database = none ∧ s.lastFailed.isSome = true
  | .finish (some tables) =>
      tables.version ∈ s.past ∧ s.lookup.version = some (currentPolicyVersion tables.version) ∧
        s.lastFailed = none ∧
        ∃ sources, tables.listed text = .ok sources ∧ s.lookup.database = databaseOf sources

structure Inv (text : TextReaders) (s : LookupRun) : Prop where
  db_mem : s.db ∈ s.past
  running : s.lookup.rebuildRunning = s.rebuild.isSome
  request : ∀ i now version seen, s.requests i = .checked now version seen →
    seen ∈ s.past ∧ currentPolicyVersion seen = version
  lastFailed : ∀ phase, s.rebuild = some phase → (∀ o, phase ≠ .finish o) → s.lastFailed = none
  phase : ∀ phase, s.rebuild = some phase → s.PhaseOk text phase
  serves : s.Serves text
  restarts : s.Restarts

variable {text : TextReaders} {interval : Nat} {s s' : LookupRun}

theorem inv_initial (db : PolicyDb) : (initial db).Inv text where
  db_mem := List.mem_cons_self
  running := rfl
  request := nofun
  lastFailed := nofun
  phase := nofun
  serves := nofun
  restarts := nofun

/-- A rebuild that is running hides what lookups rely on. -/
theorem serves_of_running (h : s.lookup.rebuildRunning = true) : s.Serves text := by
  intro hnot
  rw [h] at hnot
  cases hnot

theorem restarts_of_running (h : s.lookup.rebuildRunning = true) : s.Restarts := by
  intro hnot
  rw [h] at hnot
  cases hnot

theorem Inv.of_running (hdb : s.db ∈ s.past) (hrunning : s.lookup.rebuildRunning = true)
    {phase : RebuildPhase} (hrebuild : s.rebuild = some phase)
    (hrequest : ∀ i now version seen, s.requests i = .checked now version seen →
      seen ∈ s.past ∧ currentPolicyVersion seen = version)
    (hfailed : (∀ o, phase ≠ .finish o) → s.lastFailed = none) (hphase : s.PhaseOk text phase) :
    s.Inv text where
  db_mem := hdb
  running := by rw [hrunning, hrebuild, Option.isSome_some]
  request := hrequest
  lastFailed phase' hphase' hfinish := by
    rw [hrebuild] at hphase'
    cases hphase'
    exact hfailed hfinish
  phase phase' hphase' := by
    rw [hrebuild] at hphase'
    cases hphase'
    exact hphase
  serves := serves_of_running hrunning
  restarts := restarts_of_running hrunning

theorem Published.mono {version : Int} {sources : SourcesByCidr} (hpast : s.past ⊆ s'.past)
    (h : s.Published text version sources) : s'.Published text version sources := by
  obtain ⟨db, hdb, hversion, hload⟩ := h
  exact ⟨db, hpast hdb, hversion, hload⟩

theorem startRebuildForVersion_iff {state : ThreatIntelLookupState} {version : Int}
    {checkedAt : Option Nat} :
    (state.startRebuildForVersion version checkedAt).1 = true ↔
      state.version ≠ some version ∧ state.rebuildRunning = false := by
  rw [ThreatIntelLookupState.startRebuildForVersion]
  dsimp only
  split
  · next h => simpa using fun hne => h.resolve_left hne
  · next h => simpa [not_or] using h

/-- Steps that leave the rebuild and its results alone. -/
theorem Inv.of_same (h : s.Inv text) (hdb : s'.db ∈ s'.past) (hpast : s.past ⊆ s'.past)
    (hversion : s'.lookup.version = s.lookup.version)
    (hrunning : s'.lookup.rebuildRunning = s.lookup.rebuildRunning)
    (hdatabase : s'.lookup.database = s.lookup.database) (hrebuild : s'.rebuild = s.rebuild)
    (hfailed : s'.lastFailed = s.lastFailed)
    (hrequest : ∀ i now version seen, s'.requests i = .checked now version seen →
      seen ∈ s'.past ∧ currentPolicyVersion seen = version) : s'.Inv text where
  db_mem := hdb
  running := by rw [hrunning, hrebuild, h.running]
  request := hrequest
  lastFailed := by
    rw [hrebuild, hfailed]
    exact h.lastFailed
  phase phase hphase := by
    rw [hrebuild] at hphase
    have hok := h.phase phase hphase
    cases phase with
    | readVersion => exact hdatabase.trans hok
    | loadSources version seen => exact ⟨hdatabase.trans hok.1, hpast hok.2.1, hok.2.2⟩
    | loadPrefixes version seen namesFrom names =>
        exact ⟨hdatabase.trans hok.1, hpast hok.2.1, hok.2.2⟩
    | install version tables sources => exact ⟨hdatabase.trans hok.1, hpast hok.2.1, hok.2.2⟩
    | finish installed =>
        cases installed with
        | none =>
            obtain ⟨hnone, hlast⟩ := hok
            exact ⟨hdatabase.trans hnone, by rwa [hfailed]⟩
        | some tables =>
            obtain ⟨hseen, hrecorded, hlast, sources, hlisted, hmemory⟩ := hok
            exact ⟨hpast hseen, hversion.trans hrecorded, hfailed.trans hlast, sources, hlisted,
              hdatabase.trans hmemory⟩
  serves := by
    intro hidle version hrecorded
    rw [hrunning] at hidle
    rw [hversion] at hrecorded
    obtain ⟨sources, hpublished, hmemory⟩ := h.serves hidle version hrecorded
    exact ⟨sources, hpublished.mono hpast, hdatabase.trans hmemory⟩
  restarts := by
    intro hidle version hlast checkedAt
    rw [hrunning] at hidle
    rw [hfailed] at hlast
    rw [startRebuildForVersion_iff, hversion, hrunning]
    exact startRebuildForVersion_iff.mp (h.restarts hidle version hlast checkedAt)

theorem request_update (h : s.Inv text) (i : Nat) {phase : LookupPhase}
    (hphase : ∀ now version seen, phase = .checked now version seen →
      seen ∈ s.past ∧ currentPolicyVersion seen = version) :
    ∀ j now version seen, (s.setRequest i phase).requests j = .checked now version seen →
      seen ∈ s.past ∧ currentPolicyVersion seen = version := by
  intro j now version seen hj
  rw [setRequest] at hj
  dsimp only at hj
  by_cases hji : j = i
  · subst hji
    rw [Function.update_self] at hj
    exact hphase now version seen hj
  · rw [Function.update_of_ne hji] at hj
    exact h.request j now version seen hj

theorem Inv.setRequest (h : s.Inv text) (i : Nat) {phase : LookupPhase}
    (hphase : ∀ now version seen, phase = .checked now version seen →
      seen ∈ s.past ∧ currentPolicyVersion seen = version) : (s.setRequest i phase).Inv text :=
  h.of_same h.db_mem (List.Subset.refl _) rfl rfl rfl rfl rfl (request_update h i hphase)

theorem Inv.spawnRebuild (h : s.Inv text) : s.spawnRebuild.Inv text := by
  rw [LookupRun.spawnRebuild, ThreatIntelLookupState.startForcedRebuild]
  cases hrunning : s.lookup.rebuildRunning with
  | true => exact h
  | false =>
      exact .of_running h.db_mem rfl rfl h.request (fun _ => rfl) rfl

theorem Inv.queueRebuildForVersion (h : s.Inv text) (now : Nat) {version : Int} {seen : PolicyDb}
    (hseen : seen ∈ s.past) (hversion : currentPolicyVersion seen = version) :
    (s.queueRebuildForVersion now version seen).Inv text := by
  rw [LookupRun.queueRebuildForVersion, ThreatIntelLookupState.startRebuildForVersion]
  dsimp only
  split
  · exact h.of_same h.db_mem (List.Subset.refl _) rfl rfl rfl rfl rfl h.request
  · exact .of_running h.db_mem rfl rfl h.request (fun _ => rfl) ⟨rfl, hseen, hversion⟩

theorem Inv.failed (h : s.Inv text) {phase : RebuildPhase} (hrebuild : s.rebuild = some phase)
    (hdatabase : s.lookup.database = none) (version : Int) : (s.failed version).Inv text := by
  refine .of_running h.db_mem ?_ rfl h.request (fun hfinish => absurd rfl (hfinish none))
    ⟨hdatabase, rfl⟩
  change s.lookup.rebuildRunning = true
  rw [h.running, hrebuild, Option.isSome_some]

/-- Up to its end, a rebuild keeps the database out of memory or installs what it has found. -/
theorem Inv.rebuildStep (h : s.Inv text) {phase : RebuildPhase} (hrebuild : s.rebuild = some phase)
    (hfinish : ∀ o, phase ≠ .finish o) : (s.rebuildStep text phase).Inv text := by
  have hrunning : s.lookup.rebuildRunning = true := by
    rw [h.running, hrebuild, Option.isSome_some]
  have hlast := h.lastFailed phase hrebuild hfinish
  have hok := h.phase phase hrebuild
  -- Until it is installed, a rebuild changes nothing that lookups read.
  cases phase with
  | readVersion =>
      exact .of_running h.db_mem hrunning rfl h.request (fun _ => hlast) ⟨hok, h.db_mem, rfl⟩
  | loadSources version seen =>
      rw [LookupRun.rebuildStep]
      refine .of_running h.db_mem hrunning rfl h.request (fun _ => hlast) ?_
      obtain ⟨hdatabase, hseen, hversion⟩ := hok
      split
      · next hnames => exact ⟨hdatabase, hseen, hversion, if_pos hnames⟩
      · next hnames => exact ⟨hdatabase, hseen, hversion, rfl, hnames⟩
  | loadPrefixes version seen namesFrom names =>
      obtain ⟨hdatabase, hseen, hversion, rfl, hnames⟩ := hok
      rw [LookupRun.rebuildStep]
      split
      · next sources hload =>
          -- Three queries, each of which may have found the tables of another time.
          have hlisted : (QueryTables.mk seen namesFrom s.db).listed text = .ok sources :=
            (if_neg hnames).trans hload
          exact .of_running h.db_mem hrunning rfl h.request (fun _ => hlast)
            ⟨hdatabase, hseen, hversion, hlisted⟩
      · exact h.failed hrebuild hdatabase version
  | install version tables sources =>
      obtain ⟨-, hseen, rfl, hlisted⟩ := hok
      rw [LookupRun.rebuildStep]
      refine .of_running h.db_mem ?_ rfl h.request (fun hnot => absurd rfl (hnot _))
        ⟨hseen, ?_, hlast, sources, hlisted, ?_⟩
      · dsimp only
        split
        · exact hrunning
        · exact hrunning
      · dsimp only
        split <;> rfl
      · dsimp only
        split
        · next hnil => rw [hnil]; rfl
        · next hsome => exact (if_neg hsome).symm
  | finish installed => exact absurd rfl (hfinish installed)

theorem Inv.failStep (h : s.Inv text) {phase : RebuildPhase} (hrebuild : s.rebuild = some phase)
    (hstep : s.failStep phase = some s') : s'.Inv text := by
  have hok := h.phase phase hrebuild
  cases phase with
  | readVersion =>
      cases hstep
      exact h.failed hrebuild hok _
  | loadSources version seen =>
      cases hstep
      exact h.failed hrebuild hok.1 _
  | loadPrefixes version seen namesFrom names =>
      cases hstep
      exact h.failed hrebuild hok.1 _
  | install version tables sources =>
      rw [LookupRun.failStep] at hstep
      split at hstep
      · cases hstep
      · cases hstep
        exact h.failed hrebuild hok.1 _
  | finish installed => cases hstep

/-! ## The end of a rebuild -/

/-- Whatever has been recorded before, it is not what a failed rebuild leaves in memory. -/
theorem sound_finish_failed (h : s.Inv text) (hrebuild : s.rebuild = some (.finish none)) :
    (s.rebuildStep text (.finish none)).Serves text ∧ (s.rebuildStep text (.finish none)).Restarts ↔
      s.lastFailed ≠ s.lookup.version ∧
        ∀ version, s.lookup.version = some version → s.Published text version [] := by
  obtain ⟨hdatabase, hsome⟩ := h.phase _ hrebuild
  obtain ⟨failed, hlast⟩ := Option.isSome_iff_exists.mp hsome
  constructor
  · rintro ⟨hserves, hrestarts⟩
    constructor
    · rw [hlast]
      exact fun heq => (startRebuildForVersion_iff.mp
        (hrestarts rfl failed hlast none)).1 heq.symm
    · intro version hrecorded
      obtain ⟨sources, hpublished, hmemory⟩ := hserves rfl version hrecorded
      have hnil : sources = [] := databaseOf_eq_none_iff.mp (hmemory.symm.trans hdatabase)
      rwa [hnil] at hpublished
  · rintro ⟨hother, hempty⟩
    constructor
    · intro _ version hrecorded
      exact ⟨[], hempty version hrecorded, hdatabase⟩
    · intro _ version hversion checkedAt
      refine startRebuildForVersion_iff.mpr ⟨fun hrecorded => hother ?_, rfl⟩
      exact hversion.trans hrecorded.symm

theorem sound_finish_installed (h : s.Inv text) {tables : QueryTables}
    (hrebuild : s.rebuild = some (.finish (some tables)))
    (hsame : loadThreatSourcesByCidr text tables.version = tables.listed text) :
    (s.rebuildStep text (.finish (some tables))).Serves text ∧
      (s.rebuildStep text (.finish (some tables))).Restarts := by
  obtain ⟨hseen, hrecorded, hlast, sources, hlisted, hmemory⟩ := h.phase _ hrebuild
  constructor
  · intro _ version hversion
    refine ⟨sources, ⟨tables.version, hseen, ?_, hsame.trans hlisted⟩, hmemory⟩
    exact Option.some.inj (hrecorded.symm.trans hversion)
  · intro _ version hversion
    cases hlast.symm.trans hversion

/-- Where a version tells what the tables list, a database of another time is of another list. -/
theorem listed_of_serves (h : s.Inv text) {tables : QueryTables}
    (hrebuild : s.rebuild = some (.finish (some tables))) (hversioned : s.Versioned text)
    (hserves : (s.rebuildStep text (.finish (some tables))).Serves text) :
    loadThreatSourcesByCidr text tables.version = tables.listed text := by
  obtain ⟨hseen, hrecorded, -, sources, hlisted, hmemory⟩ := h.phase _ hrebuild
  obtain ⟨sources', ⟨db, hdb, hversion, hload⟩, hmemory'⟩ := hserves rfl _ hrecorded
  have hsame : sources = sources' := databaseOf_injective (hmemory.symm.trans hmemory')
  rw [hversioned tables.version hseen db hdb hversion.symm, hload, hlisted, hsame]

theorem Inv.finish (h : s.Inv text) {installed : Option QueryTables}
    (hserves : (s.rebuildStep text (.finish installed)).Serves text)
    (hrestarts : (s.rebuildStep text (.finish installed)).Restarts) :
    (s.rebuildStep text (.finish installed)).Inv text where
  db_mem := h.db_mem
  running := rfl
  request := h.request
  lastFailed := by
    intro phase hphase
    cases hphase
  phase := by
    intro phase hphase
    cases hphase
  serves := hserves
  restarts := hrestarts

/-! ## Runs -/

/-- Every step but the end of a rebuild keeps what lookups rely on. -/
theorem inv_step (h : s.Inv text) {e : LookupEvent} (hstep : s.step text interval e = some s')
    (hend : e = .rebuild → ∀ o, s.rebuild ≠ some (.finish o)) : s'.Inv text := by
  cases e with
  | commit db =>
      cases hstep
      refine h.of_same List.mem_cons_self (List.subset_cons_self _ _) rfl rfl rfl rfl rfl ?_
      intro i now version seen hi
      obtain ⟨hseen, hversion⟩ := h.request i now version seen hi
      exact ⟨List.mem_cons_of_mem _ hseen, hversion⟩
  | lookup i now =>
      rw [step] at hstep
      split at hstep
      · cases hstep
        split
        · exact h.setRequest i nofun
        · exact h
      · cases hstep
  | readVersion i failed =>
      rw [step] at hstep
      split at hstep
      · cases hstep
        refine h.setRequest i fun now version seen hphase => ?_
        cases failed with
        | true => cases hphase
        | false =>
            cases hphase
            exact ⟨h.db_mem, rfl⟩
      · cases hstep
  | queueRebuild i =>
      rw [step] at hstep
      split at hstep
      · next now version seen hi =>
          cases hstep
          obtain ⟨hseen, hversion⟩ := h.request i now version seen hi
          have hidle : (s.setRequest i .idle).Inv text := h.setRequest i nofun
          exact hidle.queueRebuildForVersion now hseen hversion
      · cases hstep
  | spawnRebuild =>
      cases hstep
      exact h.spawnRebuild
  | rebuild =>
      obtain ⟨phase, hphase, rfl⟩ := Option.map_eq_some_iff.mp hstep
      refine h.rebuildStep hphase fun o hfinish => hend rfl o ?_
      rw [hphase, hfinish]
  | fail =>
      obtain ⟨phase, hphase, hfail⟩ := Option.bind_eq_some_iff.mp hstep
      exact h.failStep hphase hfail

/-- What holds after a step. -/
def Sound (text : TextReaders) (_ : LookupRun) (_ : LookupEvent) (after : LookupRun) : Prop :=
  after.Serves text ∧ after.Restarts

theorem sound_iff_harmless (h : s.Inv text) {e : LookupEvent}
    (hstep : s.step text interval e = some s') :
    (s.Harmless text e s' → Sound text s e s') ∧
      (s'.Versioned text → Sound text s e s' → s.Harmless text e s') := by
  -- Only the end of a rebuild can break what lookups rely on.
  by_cases hend : ∃ o, e = .rebuild ∧ s.rebuild = some (.finish o)
  · obtain ⟨installed, rfl, hrebuild⟩ := hend
    have hafter : s' = s.rebuildStep text (.finish installed) := by
      rw [step, hrebuild] at hstep
      exact (Option.some.inj hstep).symm
    subst hafter
    cases installed with
    | none =>
        have hiff := sound_finish_failed h hrebuild
        simp only [Harmless, hrebuild]
        exact ⟨hiff.mpr, fun _ => hiff.mp⟩
    | some tables =>
        simp only [Harmless, hrebuild]
        refine ⟨fun hsame => sound_finish_installed h hrebuild hsame, ?_⟩
        intro hversioned hsound
        exact listed_of_serves h hrebuild hversioned hsound.1
  · have hinv := inv_step h hstep fun he o hrebuild => hend ⟨o, he, hrebuild⟩
    refine ⟨fun _ => ⟨hinv.serves, hinv.restarts⟩, fun _ _ => ?_⟩
    unfold Harmless
    split
    · next hrebuild _ => exact absurd ⟨_, rfl, hrebuild⟩ hend
    · next hrebuild _ => exact absurd ⟨_, rfl, hrebuild⟩ hend
    · trivial

theorem inv_of_sound (h : s.Inv text) {e : LookupEvent}
    (hstep : s.step text interval e = some s') (hsound : Sound text s e s') : s'.Inv text := by
  by_cases hend : ∃ o, e = .rebuild ∧ s.rebuild = some (.finish o)
  · obtain ⟨installed, rfl, hrebuild⟩ := hend
    rw [step, hrebuild] at hstep
    cases hstep
    exact h.finish hsound.1 hsound.2
  · exact inv_step h hstep fun he o hrebuild => hend ⟨o, he, hrebuild⟩

/-- Lookups can rely on the database in every state of a run in which each end of a rebuild does no
harm; where a version tells what the tables list, in no other run. -/
theorem sound_of_harmless (text : TextReaders) (interval : Nat) (db : PolicyDb)
    (es : List LookupEvent) :
    (EachStep (step text interval) (Harmless text) (initial db) es →
      EachStep (step text interval) (Sound text) (initial db) es) ∧
    (EachStep (step text interval) (fun _ _ after => after.Versioned text) (initial db) es →
      EachStep (step text interval) (Sound text) (initial db) es →
      EachStep (step text interval) (Harmless text) (initial db) es) := by
  -- The invariant holds as long as the steps before were sound, so both go along the run together.
  constructor
  · intro hharmless
    have hboth : EachStep (step text interval)
        (fun s e s' => s.Harmless text e s' ∧ Sound text s e s') (initial db) es := by
      refine (@eachStep_congr _ _ _ (Inv text) _ _ ?_ ?_ es _ (inv_initial db)).mpr hharmless
      · intro s e s' hinv hstep
        exact and_iff_left_of_imp (sound_iff_harmless hinv hstep).1
      · intro s e s' hinv hstep hok
        exact inv_of_sound hinv hstep ((sound_iff_harmless hinv hstep).1 hok)
    exact hboth.mono fun _ _ _ h => h.2
  · intro hversioned hsound
    have hboth : EachStep (step text interval)
        (fun s e s' => s.Harmless text e s' ∧ s'.Versioned text ∧ Sound text s e s')
        (initial db) es := by
      refine (@eachStep_congr _ _ _ (Inv text) _ _ ?_ ?_ es _ (inv_initial db)).mpr
        (hversioned.and hsound)
      · intro s e s' hinv hstep
        exact and_iff_right_of_imp fun h => (sound_iff_harmless hinv hstep).2 h.1 h.2
      · intro s e s' hinv hstep hok
        exact inv_of_sound hinv hstep hok.2
    exact hboth.mono fun _ _ _ h => h.1

/-! ## A refresh that is followed by a failure -/

/-- A rebuild by force from beginning to end. -/
def forcedRebuild : List LookupEvent :=
  [.spawnRebuild, .rebuild, .rebuild, .rebuild, .rebuild, .rebuild]

/-- A rebuild by force whose first query fails. -/
def failedRebuild : List LookupEvent :=
  [.spawnRebuild, .fail, .rebuild]

/-- The lookup after both of them. -/
def emptied (db : PolicyDb) : LookupRun where
  db := db
  past := [db]
  lookup := { ThreatIntelLookupState.default with version := some (currentPolicyVersion db) }
  requests _ := .idle
  rebuild := none
  lastFailed := some (currentPolicyVersion db)

theorem run_emptied {db : PolicyDb} {sources : SourcesByCidr}
    (hnames : loadEnabledThreatSourceNames db ≠ [])
    (hload : loadThreatRowsByCidr text (loadEnabledThreatSourceNames db) db = .ok sources)
    (hsome : sources ≠ []) :
    run (step text interval) (initial db) (forcedRebuild ++ failedRebuild) =
      some (emptied db) := by
  simp [run, forcedRebuild, failedRebuild, step, initial, spawnRebuild, start, rebuildStep,
    failStep, failed, ThreatIntelLookupState.startForcedRebuild, ThreatIntelLookupState.default,
    ThreatIntelLookupState.installDatabase, ThreatIntelLookupState.finishRebuild, hnames, hload,
    hsome, emptied]

/-- Nothing but a new version brings the database back. -/
theorem not_restarts_emptied (db : PolicyDb) : ¬ (emptied db).Restarts := by
  intro h
  exact (startRebuildForVersion_iff.mp (h rfl _ rfl none)).1 rfl

theorem not_sound_emptied {db : PolicyDb} {sources : SourcesByCidr}
    (hnames : loadEnabledThreatSourceNames db ≠ [])
    (hload : loadThreatRowsByCidr text (loadEnabledThreatSourceNames db) db = .ok sources)
    (hsome : sources ≠ []) :
    ¬ EachStep (step text interval) (Sound text) (initial db) (forcedRebuild ++ failedRebuild) := by
  intro heach
  have hinv : (initial db).Inv text := inv_initial db
  have hinitial : (initial db).Serves text ∧ (initial db).Restarts := ⟨hinv.serves, hinv.restarts⟩
  have hlast : (emptied db).Serves text ∧ (emptied db).Restarts :=
    @run_invariant_of_each _ _ _ (fun s => s.Serves text ∧ s.Restarts) _
      (fun _ _ _ _ _ hsound => hsound) _ _ _ hinitial heach (run_emptied hnames hload hsome)
  exact not_restarts_emptied db hlast.2

/-- The feed of `198.51.100.0/24`, under version 1. -/
def oneFeed : PolicyDb :=
  { PolicyDb.empty with
    policyVersions := [{
      policyName := defaultPolicyName
      version := 1 }]
    threatSources := [{
      id := 1
      policyName := defaultPolicyName
      enabled := true
      name := "feed"
      url := "https://example.com/feed.txt"
      format := "cidr"
      minScore := none }]
    threatPrefixes := [{
      id := 1
      policyName := defaultPolicyName
      sourceName := "feed"
      cidrsJson := cidrsJsonFromPrefixes arrayText
        [{ toNetwork := (IpNet.v4 (.slash 0xc6336400 24)).toNetwork }] }] }

theorem loadThreatRowsByCidr_oneFeed :
    loadThreatRowsByCidr feedReaders (loadEnabledThreatSourceNames oneFeed) oneFeed =
      .ok (sourcesByCidr [("198.51.100.0/24", "feed")]) := by
  have hrow (row : ThreatPrefixRow) (hjson : row.cidrsJson = cidrsJsonFromPrefixes arrayText
      [{ toNetwork := (IpNet.v4 (.slash 0xc6336400 24)).toNetwork }]) :
      threatEntries feedReaders row = .ok [("198.51.100.0/24", row.sourceName)] := by
    rw [threatEntries, persistedPrefixes_cidrsJson readsBack_feedReaders _ row hjson]
    rfl
  rw [loadThreatRowsByCidr]
  simp [oneFeed, loadEnabledThreatSourceNames, hrow]

theorem sources_oneFeed_ne_nil : sourcesByCidr [("198.51.100.0/24", "feed")] ≠ [] := by
  have hmem : "198.51.100.0/24" ∈ canonical textLe ["198.51.100.0/24"] :=
    mem_canonical.mpr List.mem_cons_self
  exact List.ne_nil_of_mem (List.mem_map_of_mem hmem)

theorem names_oneFeed_ne_nil : loadEnabledThreatSourceNames oneFeed ≠ [] := by
  simp [oneFeed, loadEnabledThreatSourceNames]

/-- A refresh has stored the feed; the rebuild after it succeeds and that after the next one
fails. -/
theorem failed_rebuild_forgotten :
    ¬ ∀ (text : TextReaders) (interval : Nat) (db : PolicyDb) (es : List LookupEvent),
      EachStep (step text interval) (Sound text) (initial db) es := by
  intro h
  exact not_sound_emptied names_oneFeed_ne_nil loadThreatRowsByCidr_oneFeed
    sources_oneFeed_ne_nil (h feedReaders 5 oneFeed _)

/-! ## A rebuild that is started again -/

/-- The first rebuild fails. The next lookup starts another one, and between its last two queries
the tables change. -/
def repeatedRebuild (later : PolicyDb) : List LookupEvent :=
  failedRebuild ++ [.lookup 0 0, .readVersion 0 false, .queueRebuild 0, .rebuild, .commit later,
    .rebuild, .rebuild, .rebuild]

theorem harmless_repeatedRebuild {db later : PolicyDb} {sources : SourcesByCidr}
    (hnames : loadEnabledThreatSourceNames db ≠ [])
    (hload : loadThreatRowsByCidr text (loadEnabledThreatSourceNames db) db = .ok sources)
    (hlater : loadThreatRowsByCidr text (loadEnabledThreatSourceNames db) later = .ok sources)
    (hsome : sources ≠ []) :
    EachStep (step text interval) (Harmless text) (initial db) (repeatedRebuild later) ∧
      ∃ s, run (step text interval) (initial db) (repeatedRebuild later) = some s ∧
        s.lookup.rebuildRunning = false ∧ s.lookup.version = some (currentPolicyVersion db) ∧
        s.lookup.database = some ⟨sources⟩ := by
  have hsame : loadThreatSourcesByCidr text db = (QueryTables.mk db db later).listed text := by
    rw [loadThreatSourcesByCidr, QueryTables.listed]
    simp only [if_neg hnames, hload, hlater]
  constructor
  · simp [EachStep, repeatedRebuild, failedRebuild, step, initial, spawnRebuild, start, rebuildStep,
      failStep, failed, setRequest, queueRebuildForVersion, Harmless,
      ThreatIntelLookupState.startForcedRebuild, ThreatIntelLookupState.default,
      ThreatIntelLookupState.shouldCheckVersion, ThreatIntelLookupState.startRebuildForVersion,
      ThreatIntelLookupState.installDatabase, ThreatIntelLookupState.finishRebuild, hnames, hlater,
      hsame]
  · simp [run, repeatedRebuild, failedRebuild, step, initial, spawnRebuild, start, rebuildStep,
      failStep, failed, setRequest, queueRebuildForVersion,
      ThreatIntelLookupState.startForcedRebuild, ThreatIntelLookupState.default,
      ThreatIntelLookupState.shouldCheckVersion, ThreatIntelLookupState.startRebuildForVersion,
      ThreatIntelLookupState.installDatabase, ThreatIntelLookupState.finishRebuild, hnames, hlater,
      hsome]

/-- The policy changes, and the feed stays. -/
def laterFeed : PolicyDb :=
  { oneFeed with
    policyVersions := [{
      policyName := defaultPolicyName
      version := 2 }] }

/-- Lookups find the feed again. -/
theorem sound_of_harmless_laterFeed :
    EachStep (step feedReaders 5) (Sound feedReaders) (initial oneFeed)
        (repeatedRebuild laterFeed) ∧
      ∃ s, run (step feedReaders 5) (initial oneFeed) (repeatedRebuild laterFeed) = some s ∧
        s.lookup.rebuildRunning = false ∧
        s.lookup.version = some (currentPolicyVersion oneFeed) ∧
        s.lookup.database = some ⟨sourcesByCidr [("198.51.100.0/24", "feed")]⟩ := by
  have hlater : loadThreatRowsByCidr feedReaders (loadEnabledThreatSourceNames oneFeed) laterFeed =
      .ok (sourcesByCidr [("198.51.100.0/24", "feed")]) := loadThreatRowsByCidr_oneFeed
  obtain ⟨hharmless, hrun⟩ := @harmless_repeatedRebuild feedReaders 5 _ _ _
    names_oneFeed_ne_nil loadThreatRowsByCidr_oneFeed hlater sources_oneFeed_ne_nil
  exact ⟨(sound_of_harmless feedReaders 5 oneFeed (repeatedRebuild laterFeed)).1 hharmless, hrun⟩

end LookupRun

end Intelligence
end XdpFirewall
