import XdpFirewall.ControlPlane.LoadPolicy
import XdpFirewall.Intelligence.LockTable
import XdpFirewall.Lib.Transition

/-!
# ThreatRefresh — refreshes of threat feeds beside requests that change their sources

A refresh loads the enabled sources, what was stored for them, and then one feed after the other.
It stores all of them at its end, under the names of the sources. Requests are committed at any
time in between. The version that both of them raise is left to its own module.
-/

namespace XdpFirewall
namespace Intelligence

open ControlPlane Lib Net Policy

/-! ## Tables -/

/-- What is stored of the last refresh of a source. No statement reads for which row of the sources
it was written. -/
structure SourceStateRow where
  sourceName : String
  state : ThreatSourceState
  writtenFor : Int32
  deriving DecidableEq

structure SourcePrefixRow where
  sourceName : String
  cidrs : List ThreatPrefix
  updatedAt : Timestamp
  writtenFor : Int32
  deriving DecidableEq

/-- The sources, the rows of the default policy in the tables that are keyed by their names, and
the ids that sources have had. -/
structure ThreatTables where
  sources : List ThreatSourceRow
  states : List SourceStateRow
  prefixes : List SourcePrefixRow
  usedIds : List Int32

def ThreatTables.empty : ThreatTables where
  sources := []
  states := []
  prefixes := []
  usedIds := []

/-! ## Requests -/

structure ThreatSourceInput where
  enabled : Bool
  name : String
  url : String
  format : String
  minScore : Option Int32
  deriving DecidableEq

/-- `active_model`, with the id that the database gives. -/
def ThreatSourceInput.row (input : ThreatSourceInput) (id : Int32) : ThreatSourceRow where
  id := id
  policyName := defaultPolicyName
  enabled := input.enabled
  name := input.name
  url := input.url
  format := input.format
  minScore := input.minScore

def ThreatSourceInput.matchesExisting (input : ThreatSourceInput) (row : ThreatSourceRow) : Bool :=
  row.enabled = input.enabled && row.url = input.url && row.format = input.format &&
    row.minScore = input.minScore

/-- A source whose name is taken is a conflict, unless it is the same source. An id is given once. -/
def createThreatSource (t : ThreatTables) (input : ThreatSourceInput) (id : Int32) :
    Option ThreatTables :=
  match t.sources.find? fun row => row.policyName = defaultPolicyName ∧ row.name = input.name with
  | none =>
      if id ∈ t.usedIds then
        none
      else
        some { t with
          sources := t.sources ++ [input.row id]
          usedIds := id :: t.usedIds }
  | some existing => if input.matchesExisting existing then some t else none

/-- `create_threat_source_rows`, in one transaction. -/
def createThreatSourceRows (t : ThreatTables) :
    List (ThreatSourceInput × Int32) → Option ThreatTables
  | [] => some t
  | (input, id) :: rest => (createThreatSource t input id).bind fun t =>
      createThreatSourceRows t rest

def deleteThreatSourceStatesByName (names : List String) (t : ThreatTables) : ThreatTables :=
  { t with
    states := t.states.filter fun row => row.sourceName ∉ names
    prefixes := t.prefixes.filter fun row => row.sourceName ∉ names }

/-- `update`, from the transaction on: whether the request changes anything is decided before. -/
def updateThreatSource (t : ThreatTables) (id : Int32) (enabled : Bool) : Option ThreatTables :=
  match t.sources.find? fun row => row.policyName = defaultPolicyName ∧ row.id = id with
  | none => none
  | some source =>
      let t := { t with
        sources := t.sources.map fun row =>
          if row.id = id then { row with enabled := enabled } else row }
      some (if enabled then t else deleteThreatSourceStatesByName [source.name] t)

/-- The sources of the default policy that a request names are deleted with what is stored under
their names. -/
def deleteThreatSources (t : ThreatTables) (named : ThreatSourceRow → Bool) : ThreatTables :=
  deleteThreatSourceStatesByName
    ((t.sources.filter fun row => row.policyName = defaultPolicyName ∧ named row).map
      ThreatSourceRow.name)
    { t with
      sources := t.sources.filter fun row =>
        ¬ (row.policyName = defaultPolicyName ∧ named row = true) }

/-- `delete_by_id` and `delete_batch` -/
def deleteByIds (t : ThreatTables) (ids : List Int32) : Option ThreatTables :=
  if (t.sources.filter fun row => row.policyName = defaultPolicyName ∧ row.id ∈ ids).length =
      ids.length then
    some (deleteThreatSources t fun row => row.id ∈ ids)
  else
    none

/-- `delete_by_query`, with the name trimmed. -/
def deleteByName (t : ThreatTables) (name : String) : Option ThreatTables :=
  if name = "" ∨ (t.sources.any fun row =>
      row.policyName = defaultPolicyName ∧ row.name = name) = false then
    none
  else
    some (deleteThreatSources t fun row => row.name = name)

/-! ## Fingerprints -/

def hashByte (hash : UInt64) (byte : UInt8) : UInt64 :=
  (hash ^^^ byte.toUInt64) * 0x100000001b3

def hashBytes (hash : UInt64) (bytes : List UInt8) : UInt64 :=
  bytes.foldl hashByte hash

/-- Sixteen hexadecimal digits. -/
def hexText (hash : UInt64) : String :=
  let digits := Nat.toDigits 16 hash.toNat
  String.ofList (List.replicate (16 - digits.length) '0' ++ digits)

/-- `threat_prefix_fingerprint`, over the text of an address. -/
def threatPrefixFingerprint (addrText : IpAddr → List UInt8) (prefixes : List ThreatPrefix) :
    String :=
  hexText (prefixes.foldl
    (fun hash p =>
      let hash := hashByte (hashBytes hash (addrText p.addr)) 0x2f
      let length := (Nat.toDigits 10 p.prefixLen).map fun c => UInt8.ofNat c.toNat
      hashByte (hashBytes hash length) 0x0a)
    0xcbf29ce484222325)

/-! ## One refresh -/

structure ThreatRefreshBatch where
  states : List SourceStateRow
  changedPrefixesBySource : List SourcePrefixRow
  changedSourceCount : Nat
  prefixCount : Nat
  checkedAt : Timestamp

def ThreatRefreshBatch.empty (now : Timestamp) : ThreatRefreshBatch where
  states := []
  changedPrefixesBySource := []
  changedSourceCount := 0
  prefixCount := 0
  checkedAt := now

/-- A source as a refresh has loaded it, and the id of its row. -/
structure LoadedSource where
  source : ThreatSource
  id : Int32

/-- `load_enabled_threat_sources` -/
def loadEnabledThreatSources (t : ThreatTables) : Except String (List LoadedSource) :=
  (t.sources.filter fun row => row.policyName = defaultPolicyName ∧ row.enabled).mapM fun row => do
    return { source := ← parseThreatSource row, id := row.id }

def threatSourceChanged (name fingerprint : String) (existing : List SourceStateRow)
    (existingPrefixSources : List String) : Bool :=
  match existing.find? fun row => row.sourceName = name with
  | some row => row.state.fingerprint ≠ fingerprint || name ∉ existingPrefixSources
  | none => true

def threatSourceRefreshState (name fingerprint : String) (prefixCount : Nat) (changed : Bool)
    (existing : List SourceStateRow) (now : Timestamp) : ThreatSourceState :=
  let before := (existing.find? fun row => row.sourceName = name).map SourceStateRow.state
  { fingerprint := fingerprint
    prefixCount := prefixCount
    lastCheckedAt := now
    lastChangedAt := if changed then some now else before.bind ThreatSourceState.lastChangedAt
    updatedAt := if changed then now else (before.map ThreatSourceState.updatedAt).getD now }

/-- `refresh_one_source`, with what was fetched. The number of prefixes has to fit its column. -/
def refreshOneSource (addrText : IpAddr → List UInt8) (loaded : LoadedSource)
    (existing : List SourceStateRow) (existingPrefixSources : List String)
    (fetched : List ThreatPrefix) (batch : ThreatRefreshBatch) : Option ThreatRefreshBatch :=
  let prefixes := normalizeThreatPrefixes fetched
  let fingerprint := threatPrefixFingerprint addrText prefixes
  let name := loaded.source.name
  let changed := threatSourceChanged name fingerprint existing existingPrefixSources
  if prefixes.length < 2 ^ 31 then
    some { batch with
      states := batch.states ++
        [{ sourceName := name
           state := threatSourceRefreshState name fingerprint prefixes.length changed existing
             batch.checkedAt
           writtenFor := loaded.id }]
      changedPrefixesBySource := batch.changedPrefixesBySource ++
        (if changed then
          [{ sourceName := name
             cidrs := prefixes
             updatedAt := batch.checkedAt
             writtenFor := loaded.id }]
        else
          [])
      changedSourceCount := batch.changedSourceCount + if changed then 1 else 0
      prefixCount := batch.prefixCount + prefixes.length }
  else
    none

def persistThreatSourcePrefixes (t : ThreatTables) (row : SourcePrefixRow) : ThreatTables :=
  { t with
    prefixes := (t.prefixes.filter fun other => other.sourceName ≠ row.sourceName) ++ [row] }

def upsertThreatSourceState (t : ThreatTables) (row : SourceStateRow) : ThreatTables :=
  { t with
    states :=
      if t.states.any fun other => other.sourceName = row.sourceName then
        t.states.map fun other => if other.sourceName = row.sourceName then row else other
      else
        t.states ++ [row] }

/-- `persist_threat_refresh_batch`, in one transaction. -/
def persistThreatRefreshBatch (batch : ThreatRefreshBatch) (t : ThreatTables) : ThreatTables :=
  batch.states.foldl upsertThreatSourceState
    (batch.changedPrefixesBySource.foldl persistThreatSourcePrefixes t)

/-! ## Steps -/

/-- Where a refresh is. -/
inductive RefreshPhase
  | idle
  | loadingSources
  | loadingStates (sources : List LoadedSource)
  | loadingPrefixes (sources : List LoadedSource) (existing : List SourceStateRow)
  | fetching (sources : List LoadedSource) (existing : List SourceStateRow)
      (existingPrefixSources : List String) (batch : ThreatRefreshBatch)
  | finished

def RefreshPhase.running : RefreshPhase → Bool
  | .idle => false
  | .finished => false
  | _ => true

structure ThreatRun where
  tables : ThreatTables
  refreshes : Nat → RefreshPhase

/-- Committed requests, and the steps of the refreshes. A fetch brings the prefixes of a feed or
fails, and any other step can fail too; a refresh that fails stores nothing. -/
inductive ThreatEvent
  | create (inputs : List (ThreatSourceInput × Int32))
  | update (id : Int32) (enabled : Bool)
  | deleteIds (ids : List Int32)
  | deleteName (name : String)
  | start (i : Nat)
  | loadSources (i : Nat)
  | loadStates (i : Nat)
  | loadPrefixes (i : Nat) (now : Timestamp)
  | fetch (i : Nat) (fetched : Option (List ThreatPrefix))
  | persist (i : Nat)
  | fail (i : Nat)

namespace ThreatRun

def initial (tables : ThreatTables) : ThreatRun where
  tables := tables
  refreshes _ := .idle

def set (s : ThreatRun) (i : Nat) (phase : RefreshPhase) : ThreatRun :=
  { s with refreshes := Function.update s.refreshes i phase }

def commit (s : ThreatRun) (tables : Option ThreatTables) : Option ThreatRun :=
  tables.map fun tables => { s with tables := tables }

end ThreatRun

/-- The fetch of the next source, or of a source too many. -/
def fetchNext (addrText : IpAddr → List UInt8) (sources : List LoadedSource)
    (existing : List SourceStateRow) (existingPrefixSources : List String)
    (fetched : Option (List ThreatPrefix)) (batch : ThreatRefreshBatch) : Option RefreshPhase :=
  match sources, fetched with
  | [], _ => none
  | _ :: _, none => some .finished
  | loaded :: rest, some fetched =>
      match refreshOneSource addrText loaded existing existingPrefixSources fetched batch with
      | some batch => some (.fetching rest existing existingPrefixSources batch)
      | none => some .finished

def threatStep (addrText : IpAddr → List UInt8) (s : ThreatRun) : ThreatEvent → Option ThreatRun
  | .create inputs => s.commit (createThreatSourceRows s.tables inputs)
  | .update id enabled => s.commit (updateThreatSource s.tables id enabled)
  | .deleteIds ids => s.commit (deleteByIds s.tables ids)
  | .deleteName name => s.commit (deleteByName s.tables name)
  | .start i =>
      match s.refreshes i with
      | .idle => some (s.set i .loadingSources)
      | _ => none
  | .loadSources i =>
      match s.refreshes i with
      | .loadingSources =>
          match loadEnabledThreatSources s.tables with
          | .ok [] => some (s.set i .finished)
          | .ok sources => some (s.set i (.loadingStates sources))
          | .error _ => some (s.set i .finished)
      | _ => none
  | .loadStates i =>
      match s.refreshes i with
      | .loadingStates sources => some (s.set i (.loadingPrefixes sources s.tables.states))
      | _ => none
  | .loadPrefixes i now =>
      match s.refreshes i with
      | .loadingPrefixes sources existing =>
          some (s.set i (.fetching sources existing
            (s.tables.prefixes.map SourcePrefixRow.sourceName) (.empty now)))
      | _ => none
  | .fetch i fetched =>
      match s.refreshes i with
      | .fetching sources existing existingPrefixSources batch =>
          (fetchNext addrText sources existing existingPrefixSources fetched batch).map (s.set i)
      | _ => none
  | .persist i =>
      match s.refreshes i with
      | .fetching [] _ _ batch =>
          some { s.set i .finished with tables := persistThreatRefreshBatch batch s.tables }
      | _ => none
  | .fail i => if (s.refreshes i).running then some (s.set i .finished) else none

end Intelligence
end XdpFirewall
