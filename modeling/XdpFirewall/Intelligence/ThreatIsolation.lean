import Mathlib.Data.List.Nodup
import XdpFirewall.Intelligence.ThreatRefresh

/-!
# ThreatIsolation — one refresh of all threat feeds and the version it raises

The feeds are fetched one after the other into a batch, and the batch is stored at the end. A feed
that cannot be fetched ends the refresh, so that what was fetched of the others is lost with it.
-/

namespace XdpFirewall
namespace Intelligence

open ControlPlane Lib Net Policy

/-! ## A refresh -/

/-- The tables and the version of the default policy. -/
structure ThreatStore where
  tables : ThreatTables
  version : Int

structure ThreatRefreshReport where
  enabledSourceCount : Nat
  changedSourceCount : Nat
  prefixCount : Nat
  refreshed : Bool
  refreshStatus : String
  cached : Bool
  running : Bool
  deriving DecidableEq

def ThreatRefreshReport.empty (refreshStatus : String) : ThreatRefreshReport where
  enabledSourceCount := 0
  changedSourceCount := 0
  prefixCount := 0
  refreshed := false
  refreshStatus := refreshStatus
  cached := false
  running := false

def threatRefreshReport (enabledSourceCount changedSourceCount prefixCount : Nat) :
    ThreatRefreshReport where
  enabledSourceCount := enabledSourceCount
  changedSourceCount := changedSourceCount
  prefixCount := prefixCount
  refreshed := 0 < changedSourceCount
  refreshStatus := if 0 < changedSourceCount then "changed" else "unchanged"
  cached := false
  running := false

section Refresh

variable (addrText : IpAddr → List UInt8) (fetch : ThreatSource → Option (List ThreatPrefix))

def refreshThreatSourceBatch (existing : List SourceStateRow)
    (existingPrefixSources : List String) :
    List LoadedSource → ThreatRefreshBatch → Option ThreatRefreshBatch
  | [], batch => some batch
  | loaded :: rest, batch => do
      let fetched ← fetch loaded.source
      let batch ← refreshOneSource addrText loaded existing existingPrefixSources fetched batch
      refreshThreatSourceBatch existing existingPrefixSources rest batch

/-- The transaction of `persist_threat_refresh_batch`, with the version. -/
def ThreatStore.persist (s : ThreatStore) (batch : ThreatRefreshBatch) : ThreatStore where
  tables := persistThreatRefreshBatch batch s.tables
  version := if 0 < batch.changedSourceCount then s.version + 1 else s.version

/-- `refresh_enabled_threat_sources`, once it has the lock. Without a report it has failed. -/
def refreshEnabledThreatSources (now : Timestamp) (s : ThreatStore) :
    Option ThreatRefreshReport × ThreatStore :=
  match loadEnabledThreatSources s.tables with
  | .error _ => (none, s)
  | .ok [] => (some (.empty "empty"), s)
  | .ok sources =>
      match refreshThreatSourceBatch addrText fetch s.tables.states
          (s.tables.prefixes.map SourcePrefixRow.sourceName) sources (.empty now) with
      | none => (none, s)
      | some batch =>
          (some (threatRefreshReport sources.length batch.changedSourceCount batch.prefixCount),
            s.persist batch)

end Refresh

/-! ## Stored lists -/

/-- The list of a source, if there is one. -/
def ThreatTables.listOf (t : ThreatTables) (name : String) : Option (List ThreatPrefix) :=
  (t.prefixes.find? fun row => row.sourceName = name).map SourcePrefixRow.cidrs

theorem listOf_persist_self (t : ThreatTables) (row : SourcePrefixRow) :
    (persistThreatSourcePrefixes t row).listOf row.sourceName = some row.cidrs := by
  have hnone : (t.prefixes.filter fun other => other.sourceName ≠ row.sourceName).find?
      (fun other => other.sourceName = row.sourceName) = none := by
    rw [List.find?_eq_none]
    intro other hother
    simpa using (List.mem_filter.mp hother).2
  rw [ThreatTables.listOf, persistThreatSourcePrefixes, List.find?_append, hnone,
    Option.none_or, List.find?_cons_of_pos (by simp)]
  rfl

theorem listOf_persist_of_ne (t : ThreatTables) {row : SourcePrefixRow} {name : String}
    (h : row.sourceName ≠ name) :
    (persistThreatSourcePrefixes t row).listOf name = t.listOf name := by
  have hlast : [row].find? (fun other => other.sourceName = name) = none := by
    simp [h]
  have hfilter : (t.prefixes.filter fun other => other.sourceName ≠ row.sourceName).find?
      (fun other => other.sourceName = name) =
        t.prefixes.find? fun other => other.sourceName = name := by
    rw [List.find?_filter]
    congr 1
    funext other
    by_cases hname : other.sourceName = name
    · simp [hname, Ne.symm h]
    · simp [hname]
  rw [ThreatTables.listOf, persistThreatSourcePrefixes, List.find?_append, hlast, Option.or_none,
    hfilter]
  rfl

theorem listOf_foldl_of_notMem {rows : List SourcePrefixRow} {name : String}
    (h : ∀ row ∈ rows, row.sourceName ≠ name) (t : ThreatTables) :
    (rows.foldl persistThreatSourcePrefixes t).listOf name = t.listOf name := by
  induction rows generalizing t with
  | nil => rfl
  | cons row rows ih =>
      rw [List.forall_mem_cons] at h
      rw [List.foldl_cons, ih h.2, listOf_persist_of_ne t h.1]

/-- Each row of a batch is the list of its source afterwards. -/
theorem listOf_foldl_of_mem {rows : List SourcePrefixRow}
    (hnodup : (rows.map SourcePrefixRow.sourceName).Nodup) {row : SourcePrefixRow} (hrow : row ∈ rows)
    (t : ThreatTables) :
    (rows.foldl persistThreatSourcePrefixes t).listOf row.sourceName = some row.cidrs := by
  induction rows generalizing t with
  | nil => cases hrow
  | cons first rows ih =>
      rw [List.map_cons, List.nodup_cons] at hnodup
      rw [List.foldl_cons]
      rcases List.mem_cons.mp hrow with rfl | hrow
      · rw [listOf_foldl_of_notMem, listOf_persist_self]
        intro other hother hname
        exact hnodup.1 (List.mem_map.mpr ⟨other, hother, hname⟩)
      · exact ih hnodup.2 hrow _

theorem listOf_upsert (t : ThreatTables) (row : SourceStateRow) (name : String) :
    (upsertThreatSourceState t row).listOf name = t.listOf name := rfl

theorem listOf_foldl_upsert (rows : List SourceStateRow) (t : ThreatTables) (name : String) :
    (rows.foldl upsertThreatSourceState t).listOf name = t.listOf name := by
  induction rows generalizing t with
  | nil => rfl
  | cons row rows ih => rw [List.foldl_cons, ih, listOf_upsert]

/-! ## What a batch holds -/

section Batch

variable (addrText : IpAddr → List UInt8) (fetch : ThreatSource → Option (List ThreatPrefix))
  (existing : List SourceStateRow) (existingPrefixSources : List String)

/-- The feed can be fetched and its length fits the column for it. -/
def Refreshable (loaded : LoadedSource) : Prop :=
  ∃ fetched, fetch loaded.source = some fetched ∧ (normalizeThreatPrefixes fetched).length < 2 ^ 31

/-- `threat_source_changed` of a list that was fetched. -/
def Changed (loaded : LoadedSource) (fetched : List ThreatPrefix) : Prop :=
  threatSourceChanged loaded.source.name
    (threatPrefixFingerprint addrText (normalizeThreatPrefixes fetched)) existing
    existingPrefixSources = true

instance (loaded : LoadedSource) (fetched : List ThreatPrefix) :
    Decidable (Changed addrText existing existingPrefixSources loaded fetched) :=
  inferInstanceAs (Decidable (_ = true))

def prefixRow (now : Timestamp) (loaded : LoadedSource) (fetched : List ThreatPrefix) :
    SourcePrefixRow where
  sourceName := loaded.source.name
  cidrs := normalizeThreatPrefixes fetched
  updatedAt := now
  writtenFor := loaded.id

/-- What a source adds to the lists of a batch. -/
def changedRows (now : Timestamp) (loaded : LoadedSource) : List SourcePrefixRow :=
  match fetch loaded.source with
  | none => []
  | some fetched =>
      if Changed addrText existing existingPrefixSources loaded fetched then
        [prefixRow now loaded fetched]
      else
        []

variable {addrText fetch existing existingPrefixSources}

theorem refreshOneSource_ok {loaded : LoadedSource} {fetched : List ThreatPrefix}
    {batch batch' : ThreatRefreshBatch} (hfetch : fetch loaded.source = some fetched)
    (h : refreshOneSource addrText loaded existing existingPrefixSources fetched batch =
      some batch') :
    (normalizeThreatPrefixes fetched).length < 2 ^ 31 ∧ batch'.checkedAt = batch.checkedAt ∧
      batch'.changedPrefixesBySource = batch.changedPrefixesBySource ++
        changedRows addrText fetch existing existingPrefixSources batch.checkedAt loaded ∧
      batch'.changedSourceCount = batch.changedSourceCount +
        (changedRows addrText fetch existing existingPrefixSources batch.checkedAt loaded).length := by
  rw [refreshOneSource] at h
  split at h
  · next hlen =>
      cases h
      have hrows : changedRows addrText fetch existing existingPrefixSources batch.checkedAt
          loaded = if Changed addrText existing existingPrefixSources loaded fetched then
            [prefixRow batch.checkedAt loaded fetched] else [] := by
        rw [changedRows, hfetch]
      refine ⟨hlen, rfl, ?_, ?_⟩
      · rw [hrows]
        rfl
      · rw [hrows, apply_ite List.length]
        rfl
  · cases h

theorem mem_changedRows {now : Timestamp} {loaded : LoadedSource} {row : SourcePrefixRow} :
    row ∈ changedRows addrText fetch existing existingPrefixSources now loaded ↔
      ∃ fetched, fetch loaded.source = some fetched ∧
        Changed addrText existing existingPrefixSources loaded fetched ∧
        row = prefixRow now loaded fetched := by
  rw [changedRows]
  cases hfetch : fetch loaded.source with
  | none => simp
  | some fetched =>
      dsimp only
      split
      · next hchanged => simp [hchanged]
      · next hsame => simp [hsame]

/-- A batch is made of what each source adds. -/
theorem refreshThreatSourceBatch_ok {sources : List LoadedSource}
    {batch batch' : ThreatRefreshBatch}
    (h : refreshThreatSourceBatch addrText fetch existing existingPrefixSources sources batch =
      some batch') :
    (∀ loaded ∈ sources, Refreshable fetch loaded) ∧
      batch'.changedPrefixesBySource = batch.changedPrefixesBySource ++ sources.flatMap
        (changedRows addrText fetch existing existingPrefixSources batch.checkedAt) ∧
      batch'.changedSourceCount = batch.changedSourceCount + (sources.flatMap
        (changedRows addrText fetch existing existingPrefixSources batch.checkedAt)).length := by
  induction sources generalizing batch with
  | nil =>
      cases h
      exact ⟨nofun, by simp, by simp⟩
  | cons loaded rest ih =>
      obtain ⟨fetched, hfetch, h⟩ := Option.bind_eq_some_iff.mp h
      obtain ⟨mid, hmid, h⟩ := Option.bind_eq_some_iff.mp h
      obtain ⟨hlen, hnow, hrows, hcount⟩ := refreshOneSource_ok hfetch hmid
      obtain ⟨hrest, hrestRows, hrestCount⟩ := ih h
      rw [hnow, hrows, List.append_assoc] at hrestRows
      rw [hnow, hcount, Nat.add_assoc] at hrestCount
      refine ⟨List.forall_mem_cons.mpr ⟨⟨fetched, hfetch, hlen⟩, hrest⟩, ?_, ?_⟩
      · rw [hrestRows, List.flatMap_cons]
      · rw [hrestCount, List.flatMap_cons, List.length_append]

variable (addrText existing existingPrefixSources) in
theorem exists_refreshThreatSourceBatch {sources : List LoadedSource}
    (h : ∀ loaded ∈ sources, Refreshable fetch loaded) (batch : ThreatRefreshBatch) :
    ∃ batch', refreshThreatSourceBatch addrText fetch existing existingPrefixSources sources
      batch = some batch' := by
  induction sources generalizing batch with
  | nil => exact ⟨batch, rfl⟩
  | cons loaded rest ih =>
      rw [List.forall_mem_cons] at h
      obtain ⟨⟨fetched, hfetch, hlen⟩, hrest⟩ := h
      obtain ⟨mid, hmid⟩ : ∃ mid, refreshOneSource addrText loaded existing existingPrefixSources
          fetched batch = some mid := ⟨_, if_pos hlen⟩
      obtain ⟨batch', hbatch'⟩ := ih hrest mid
      refine ⟨batch', ?_⟩
      rw [refreshThreatSourceBatch, hfetch]
      change (refreshOneSource addrText loaded existing existingPrefixSources fetched
        batch).bind _ = _
      rw [hmid]
      exact hbatch'

/-- Rows of sources with different names have different names. -/
theorem nodup_changedRows {now : Timestamp} {sources : List LoadedSource}
    (h : (sources.map fun loaded => loaded.source.name).Nodup) :
    ((sources.flatMap (changedRows addrText fetch existing existingPrefixSources now)).map
      SourcePrefixRow.sourceName).Nodup := by
  refine h.sublist ?_
  clear h
  induction sources with
  | nil => exact List.Sublist.refl _
  | cons loaded rest ih =>
      rw [List.flatMap_cons, List.map_append, List.map_cons]
      have hone : List.Sublist
          ((changedRows addrText fetch existing existingPrefixSources now loaded).map
            SourcePrefixRow.sourceName) [loaded.source.name] := by
        rw [changedRows]
        split
        · exact List.nil_sublist _
        · split
          · exact List.Sublist.refl _
          · exact List.nil_sublist _
      exact hone.append ih

end Batch

/-! ## Isolation -/

section Isolation

variable (addrText : IpAddr → List UInt8) (fetch : ThreatSource → Option (List ThreatPrefix))
  (now : Timestamp) (s : ThreatStore) (sources : List LoadedSource)

/-- After a refresh a feed that could be fetched has the list that was fetched, and another one the
list it had. The version is raised once if that changes a list, and else stays. -/
def Isolated : Prop :=
  let after := (refreshEnabledThreatSources addrText fetch now s).2
  (∀ loaded ∈ sources, after.tables.listOf loaded.source.name =
    match fetch loaded.source with
    | some fetched => some (normalizeThreatPrefixes fetched)
    | none => s.tables.listOf loaded.source.name) ∧
  ((∃ name, after.tables.listOf name ≠ s.tables.listOf name) → after.version = s.version + 1) ∧
  ((∀ name, after.tables.listOf name = s.tables.listOf name) → after.version = s.version)

/-- The list that was fetched is stored already. -/
def Stored (loaded : LoadedSource) (fetched : List ThreatPrefix) : Prop :=
  s.tables.listOf loaded.source.name = some (normalizeThreatPrefixes fetched)

def ChangedIn (loaded : LoadedSource) (fetched : List ThreatPrefix) : Prop :=
  Changed addrText s.tables.states (s.tables.prefixes.map SourcePrefixRow.sourceName) loaded fetched

/-- The comparison of fingerprints sees each list that is to be stored, and sees none when there is
none. -/
def Compared : Prop :=
  (∀ loaded ∈ sources, ∀ fetched, fetch loaded.source = some fetched →
    ¬ ChangedIn addrText s loaded fetched → Stored s loaded fetched) ∧
  ((∃ loaded ∈ sources, ∃ fetched, fetch loaded.source = some fetched ∧
    ChangedIn addrText s loaded fetched) →
    ∃ loaded ∈ sources, ∃ fetched, fetch loaded.source = some fetched ∧
      ChangedIn addrText s loaded fetched ∧ ¬ Stored s loaded fetched)

/-- Every source can be refreshed and the comparison is right, or nothing that can be fetched is
new. -/
def Undisturbed : Prop :=
  ((∀ loaded ∈ sources, Refreshable fetch loaded) → Compared addrText fetch s sources) ∧
  ((∃ loaded ∈ sources, ¬ Refreshable fetch loaded) →
    ∀ loaded ∈ sources, ∀ fetched, fetch loaded.source = some fetched → Stored s loaded fetched)

variable {addrText fetch now s sources}

/-- A refresh that cannot fetch one of the feeds stores nothing. -/
theorem refresh_failed (hload : loadEnabledThreatSources s.tables = .ok sources)
    (hfail : ∃ loaded ∈ sources, ¬ Refreshable fetch loaded) :
    refreshEnabledThreatSources addrText fetch now s = (none, s) := by
  obtain ⟨loaded, hloaded, hnot⟩ := hfail
  rw [refreshEnabledThreatSources, hload]
  cases sources with
  | nil => cases hloaded
  | cons first rest =>
      dsimp only
      cases hbatch : refreshThreatSourceBatch addrText fetch s.tables.states
          (s.tables.prefixes.map SourcePrefixRow.sourceName) (first :: rest) (.empty now) with
      | none => rfl
      | some batch => exact absurd ((refreshThreatSourceBatch_ok hbatch).1 loaded hloaded) hnot

/-- The rows that a refresh of these sources stores. -/
def storedRows (addrText : IpAddr → List UInt8) (fetch : ThreatSource → Option (List ThreatPrefix))
    (now : Timestamp) (s : ThreatStore) (sources : List LoadedSource) : List SourcePrefixRow :=
  sources.flatMap (changedRows addrText fetch s.tables.states
    (s.tables.prefixes.map SourcePrefixRow.sourceName) now)

theorem refresh_stored (hload : loadEnabledThreatSources s.tables = .ok sources)
    (hall : ∀ loaded ∈ sources, Refreshable fetch loaded) :
    (∀ name, (refreshEnabledThreatSources addrText fetch now s).2.tables.listOf name =
      ((storedRows addrText fetch now s sources).foldl persistThreatSourcePrefixes
        s.tables).listOf name) ∧
    (refreshEnabledThreatSources addrText fetch now s).2.version =
      if 0 < (storedRows addrText fetch now s sources).length then s.version + 1
      else s.version := by
  cases sources with
  | nil =>
      rw [refreshEnabledThreatSources, hload]
      exact ⟨fun _ => rfl, rfl⟩
  | cons first rest =>
      obtain ⟨batch, hbatch⟩ := exists_refreshThreatSourceBatch addrText s.tables.states
        (s.tables.prefixes.map SourcePrefixRow.sourceName) hall (.empty now)
      obtain ⟨-, hrows, hcount⟩ := refreshThreatSourceBatch_ok hbatch
      have hrows' : batch.changedPrefixesBySource =
          storedRows addrText fetch now s (first :: rest) := hrows
      have hcount' : batch.changedSourceCount =
          (storedRows addrText fetch now s (first :: rest)).length :=
        hcount.trans (Nat.zero_add _)
      have hafter : (refreshEnabledThreatSources addrText fetch now s).2 = s.persist batch := by
        rw [refreshEnabledThreatSources, hload]
        dsimp only
        rw [hbatch]
      rw [hafter]
      refine ⟨fun name => ?_, ?_⟩
      · rw [ThreatStore.persist, persistThreatRefreshBatch, listOf_foldl_upsert, hrows']
      · rw [ThreatStore.persist, hcount']

theorem mem_storedRows {row : SourcePrefixRow} :
    row ∈ storedRows addrText fetch now s sources ↔ ∃ loaded ∈ sources, ∃ fetched,
      fetch loaded.source = some fetched ∧ ChangedIn addrText s loaded fetched ∧
        row = prefixRow now loaded fetched := by
  rw [storedRows, List.mem_flatMap]
  exact exists_congr fun loaded => and_congr_right fun _ => mem_changedRows

section Complete

variable (hload : loadEnabledThreatSources s.tables = .ok sources)
  (hnames : (sources.map fun loaded => loaded.source.name).Nodup)
  (hall : ∀ loaded ∈ sources, Refreshable fetch loaded)
include hload hall

/-- Only lists that a refresh finds changed are replaced. -/
theorem listOf_refresh_of_same {name : String}
    (h : ∀ loaded ∈ sources, loaded.source.name = name → ∀ fetched,
      fetch loaded.source = some fetched → ¬ ChangedIn addrText s loaded fetched) :
    (refreshEnabledThreatSources addrText fetch now s).2.tables.listOf name =
      s.tables.listOf name := by
  rw [(refresh_stored hload hall).1, listOf_foldl_of_notMem]
  intro row hrow hname
  obtain ⟨loaded, hloaded, fetched, hfetch, hchanged, rfl⟩ := mem_storedRows.mp hrow
  exact h loaded hloaded hname fetched hfetch hchanged

include hnames

theorem listOf_refresh_of_changed {loaded : LoadedSource} (hloaded : loaded ∈ sources)
    {fetched : List ThreatPrefix} (hfetch : fetch loaded.source = some fetched)
    (hchanged : ChangedIn addrText s loaded fetched) :
    (refreshEnabledThreatSources addrText fetch now s).2.tables.listOf loaded.source.name =
      some (normalizeThreatPrefixes fetched) := by
  have hrow : prefixRow now loaded fetched ∈ storedRows addrText fetch now s sources :=
    mem_storedRows.mpr ⟨loaded, hloaded, fetched, hfetch, hchanged, rfl⟩
  rw [(refresh_stored hload hall).1]
  exact listOf_foldl_of_mem (nodup_changedRows hnames) hrow s.tables

theorem listOf_refresh_of_unchanged {loaded : LoadedSource} (hloaded : loaded ∈ sources)
    {fetched : List ThreatPrefix} (hfetch : fetch loaded.source = some fetched)
    (hsame : ¬ ChangedIn addrText s loaded fetched) :
    (refreshEnabledThreatSources addrText fetch now s).2.tables.listOf loaded.source.name =
      s.tables.listOf loaded.source.name := by
  refine listOf_refresh_of_same hload hall fun other hother hname fetched' hfetch' => ?_
  have hone : other = loaded := List.inj_on_of_nodup_map hnames hother hloaded hname
  subst hone
  cases hfetch.symm.trans hfetch'
  exact hsame

omit hnames in
/-- The version is raised when a list is found changed. -/
theorem version_refresh :
    ((∃ loaded ∈ sources, ∃ fetched, fetch loaded.source = some fetched ∧
      ChangedIn addrText s loaded fetched) →
      (refreshEnabledThreatSources addrText fetch now s).2.version = s.version + 1) ∧
    ((∀ loaded ∈ sources, ∀ fetched, fetch loaded.source = some fetched →
      ¬ ChangedIn addrText s loaded fetched) →
      (refreshEnabledThreatSources addrText fetch now s).2.version = s.version) := by
  rw [(refresh_stored hload hall).2]
  constructor
  · rintro ⟨loaded, hloaded, fetched, hfetch, hchanged⟩
    exact if_pos (List.length_pos_of_mem
      (mem_storedRows.mpr ⟨loaded, hloaded, fetched, hfetch, hchanged, rfl⟩))
  · intro hsame
    refine if_neg fun hpos => ?_
    obtain ⟨row, hrow⟩ := List.exists_mem_of_length_pos hpos
    obtain ⟨loaded, hloaded, fetched, hfetch, hchanged, -⟩ := mem_storedRows.mp hrow
    exact hsame loaded hloaded fetched hfetch hchanged

theorem isolated_iff_compared :
    Isolated addrText fetch now s sources ↔ Compared addrText fetch s sources := by
  constructor
  · rintro ⟨hlists, -, hkept⟩
    constructor
    · intro loaded hloaded fetched hfetch hsame
      have hlist := hlists loaded hloaded
      rw [hfetch, listOf_refresh_of_unchanged hload hnames hall hloaded hfetch hsame] at hlist
      exact hlist
    · intro hchanged
      by_contra hnone
      have hraised : (refreshEnabledThreatSources addrText fetch now s).2.version =
          s.version + 1 := (version_refresh hload hall).1 hchanged
      -- Without a new list, the version has no reason to be raised.
      have hsame : ∀ name, (refreshEnabledThreatSources addrText fetch now s).2.tables.listOf name =
          s.tables.listOf name := by
        intro name
        by_cases hname : ∃ loaded ∈ sources, loaded.source.name = name ∧ ∃ fetched,
            fetch loaded.source = some fetched ∧ ChangedIn addrText s loaded fetched
        · obtain ⟨loaded, hloaded, rfl, fetched, hfetch, hnew⟩ := hname
          have hstored : Stored s loaded fetched := by
            by_contra hnot
            exact hnone ⟨loaded, hloaded, fetched, hfetch, hnew, hnot⟩
          rw [listOf_refresh_of_changed hload hnames hall hloaded hfetch hnew]
          exact hstored.symm
        · refine listOf_refresh_of_same hload hall fun loaded hloaded hloadedName fetched hfetch
            hnew => hname ⟨loaded, hloaded, hloadedName, fetched, hfetch, hnew⟩
      have hversion := hkept hsame
      omega
  · rintro ⟨hsame, hnew⟩
    refine ⟨fun loaded hloaded => ?_, ?_, ?_⟩
    · obtain ⟨fetched, hfetch, -⟩ := hall loaded hloaded
      rw [hfetch]
      by_cases hchanged : ChangedIn addrText s loaded fetched
      · exact listOf_refresh_of_changed hload hnames hall hloaded hfetch hchanged
      · rw [listOf_refresh_of_unchanged hload hnames hall hloaded hfetch hchanged]
        exact hsame loaded hloaded fetched hfetch hchanged
    · rintro ⟨name, hname⟩
      refine (version_refresh hload hall).1 ?_
      by_contra hnone
      refine hname (listOf_refresh_of_same hload hall fun loaded hloaded _ fetched hfetch hchanged =>
        hnone ⟨loaded, hloaded, fetched, hfetch, hchanged⟩)
    · intro hlists
      refine (version_refresh hload hall).2 fun loaded hloaded fetched hfetch hchanged => ?_
      obtain ⟨other, hother, fetched', hfetch', hchanged', hnot⟩ :=
        hnew ⟨loaded, hloaded, fetched, hfetch, hchanged⟩
      refine hnot ((hlists other.source.name).symm.trans ?_)
      exact listOf_refresh_of_changed hload hnames hall hother hfetch' hchanged'

end Complete

/-- A refresh keeps the feeds apart when all of them can be fetched and their fingerprints tell what
is new. When one of them cannot be fetched, it does so only if none of the others is new. -/
theorem isolated_iff_undisturbed (hload : loadEnabledThreatSources s.tables = .ok sources)
    (hnames : (sources.map fun loaded => loaded.source.name).Nodup) :
    Isolated addrText fetch now s sources ↔ Undisturbed addrText fetch s sources := by
  by_cases hall : ∀ loaded ∈ sources, Refreshable fetch loaded
  · rw [isolated_iff_compared hload hnames hall]
    refine ⟨fun h => ⟨fun _ => h, ?_⟩, fun h => h.1 hall⟩
    rintro ⟨loaded, hloaded, hnot⟩
    exact absurd (hall loaded hloaded) hnot
  · have hfail : ∃ loaded ∈ sources, ¬ Refreshable fetch loaded := by
      simpa only [not_forall, exists_prop] using hall
    have hafter : (refreshEnabledThreatSources addrText fetch now s).2 = s := by
      rw [refresh_failed hload hfail]
    rw [Isolated, hafter]
    constructor
    · rintro ⟨hlists, -⟩
      refine ⟨fun h => absurd h hall, fun _ loaded hloaded fetched hfetch => ?_⟩
      have hlist := hlists loaded hloaded
      rw [hfetch] at hlist
      exact hlist
    · rintro ⟨-, hstored⟩
      refine ⟨fun loaded hloaded => ?_, fun ⟨name, hname⟩ => absurd rfl hname, fun _ => rfl⟩
      cases hfetch : fetch loaded.source with
      | none => rfl
      | some fetched => exact hstored hfail loaded hloaded fetched hfetch

/-! ### Rows that belong together -/

/-- What is stored of a source is the fingerprint of its list. -/
def Consistent (addrText : IpAddr → List UInt8) (t : ThreatTables) : Prop :=
  ∀ name, (t.states.find? fun row => row.sourceName = name).map (fun row => row.state.fingerprint) =
    (t.listOf name).map (threatPrefixFingerprint addrText)

/-- Fingerprints that tell the lists that were fetched from those that are stored. -/
def FingerprintsApart (addrText : IpAddr → List UInt8)
    (fetch : ThreatSource → Option (List ThreatPrefix)) (s : ThreatStore)
    (sources : List LoadedSource) : Prop :=
  ∀ loaded ∈ sources, ∀ fetched, fetch loaded.source = some fetched →
    ∀ before ∈ s.tables.listOf loaded.source.name,
      threatPrefixFingerprint addrText before =
        threatPrefixFingerprint addrText (normalizeThreatPrefixes fetched) →
      before = normalizeThreatPrefixes fetched

theorem mem_prefixSources_iff {name : String} :
    name ∈ s.tables.prefixes.map SourcePrefixRow.sourceName ↔
      (s.tables.listOf name).isSome = true := by
  rw [ThreatTables.listOf, Option.isSome_map, List.find?_isSome, List.mem_map]
  simp

/-- Of rows that belong together, the comparison finds those that are to be replaced. -/
theorem changedIn_iff (hconsistent : Consistent addrText s.tables)
    (hapart : FingerprintsApart addrText fetch s sources) {loaded : LoadedSource}
    (hloaded : loaded ∈ sources) {fetched : List ThreatPrefix}
    (hfetch : fetch loaded.source = some fetched) :
    ChangedIn addrText s loaded fetched ↔ ¬ Stored s loaded fetched := by
  have hprint := hconsistent loaded.source.name
  rw [ChangedIn, Changed, threatSourceChanged, Stored]
  cases hlist : s.tables.listOf loaded.source.name with
  | none =>
      rw [hlist, Option.map_none, Option.map_eq_none_iff] at hprint
      rw [hprint]
      exact iff_of_true rfl nofun
  | some before =>
      rw [hlist, Option.map_some, Option.map_eq_some_iff] at hprint
      obtain ⟨row, hrow, hprint⟩ := hprint
      have hmem : loaded.source.name ∈ s.tables.prefixes.map SourcePrefixRow.sourceName := by
        rw [mem_prefixSources_iff, hlist]
        rfl
      rw [hrow]
      simp only [hprint, hmem, not_true_eq_false, decide_false, Bool.or_false, decide_eq_true_eq,
        Option.some.injEq, ne_eq]
      refine not_congr ⟨hapart loaded hloaded fetched hfetch before hlist, ?_⟩
      rintro rfl
      rfl

/-- Of rows that belong together, a refresh keeps the feeds apart unless one of them cannot be
fetched while another is new. -/
theorem isolated_iff_of_consistent (hload : loadEnabledThreatSources s.tables = .ok sources)
    (hnames : (sources.map fun loaded => loaded.source.name).Nodup)
    (hconsistent : Consistent addrText s.tables)
    (hapart : FingerprintsApart addrText fetch s sources) :
    Isolated addrText fetch now s sources ↔
      (∀ loaded ∈ sources, Refreshable fetch loaded) ∨
        ∀ loaded ∈ sources, ∀ fetched, fetch loaded.source = some fetched →
          Stored s loaded fetched := by
  have hcompared : Compared addrText fetch s sources := by
    refine ⟨fun loaded hloaded fetched hfetch hsame => ?_, ?_⟩
    · by_contra hnot
      exact hsame ((changedIn_iff hconsistent hapart hloaded hfetch).mpr hnot)
    · rintro ⟨loaded, hloaded, fetched, hfetch, hchanged⟩
      exact ⟨loaded, hloaded, fetched, hfetch, hchanged,
        (changedIn_iff hconsistent hapart hloaded hfetch).mp hchanged⟩
  rw [isolated_iff_undisturbed hload hnames, Undisturbed]
  constructor
  · rintro ⟨-, hstored⟩
    by_cases hall : ∀ loaded ∈ sources, Refreshable fetch loaded
    · exact .inl hall
    · exact .inr (hstored (by simpa only [not_forall, exists_prop] using hall))
  · rintro (hall | hstored)
    · exact ⟨fun _ => hcompared, fun ⟨loaded, hloaded, hnot⟩ => absurd (hall loaded hloaded) hnot⟩
    · exact ⟨fun _ => hcompared, fun _ => hstored⟩

end Isolation

/-! ## A feed that cannot be fetched -/

/-- Two feeds that have never been fetched. -/
def twoFeeds : ThreatStore where
  tables :=
    { ThreatTables.empty with
      sources := [{
        id := 1
        policyName := defaultPolicyName
        enabled := true
        name := "dead"
        url := "https://dead.example/list"
        format := "cidr"
        minScore := none }, {
        id := 2
        policyName := defaultPolicyName
        enabled := true
        name := "live"
        url := "https://live.example/list"
        format := "cidr"
        minScore := none }] }
  version := 0

def twoSources : List LoadedSource :=
  [{ source :=
      { name := "dead"
        url := "https://dead.example/list"
        format := .cidr
        minScore := none }
     id := 1 },
   { source :=
      { name := "live"
        url := "https://live.example/list"
        format := .cidr
        minScore := none }
     id := 2 }]

/-- Both feeds list `198.51.100.0/24`. -/
def listed : List ThreatPrefix :=
  [{ toNetwork := (IpNet.v4 (.slash 0xc6336400 24)).toNetwork }]

/-- One of the feeds answers. -/
def liveOnly (source : ThreatSource) : Option (List ThreatPrefix) :=
  if source.name = "live" then some listed else none

theorem loadEnabledThreatSources_twoFeeds :
    loadEnabledThreatSources twoFeeds.tables = .ok twoSources := by
  have hlower : "cidr".toLower = "cidr" := toLower_eq_self (by decide)
  simp [loadEnabledThreatSources, twoFeeds, twoSources, parseThreatSource, parseFormat, hlower,
    optionalInt32ToU32]
  rfl

theorem nodup_twoSources : (twoSources.map fun loaded => loaded.source.name).Nodup := by decide

/-- Both feeds answer for the first time, and both lists are stored under one new version. -/
theorem isolated_iff_undisturbed_twoFeeds :
    Isolated (fun _ => []) (fun _ => some listed) 0 twoFeeds twoSources := by
  refine (isolated_iff_undisturbed loadEnabledThreatSources_twoFeeds nodup_twoSources).mpr ?_
  have hlen : (normalizeThreatPrefixes listed).length < 2 ^ 31 := by
    simp [normalizeThreatPrefixes, listed, List.eraseDups_cons]
  have hchanged : ∀ loaded fetched, ChangedIn (fun _ => []) twoFeeds loaded fetched := by
    intro loaded fetched
    rfl
  have hnone : ∀ loaded fetched, ¬ Stored twoFeeds loaded fetched := by
    intro loaded fetched hstored
    cases hstored
  refine ⟨fun _ => ⟨fun loaded _ fetched _ hsame => absurd (hchanged loaded fetched) hsame, ?_⟩, ?_⟩
  · intro _
    exact ⟨_, List.mem_cons_self, listed, rfl, hchanged _ _, hnone _ _⟩
  · rintro ⟨loaded, -, hnot⟩
    exact absurd ⟨listed, rfl, hlen⟩ hnot

/-- The list of the feed that answers is not stored, because the other one does not. -/
theorem live_feed_not_stored :
    ¬ ∀ (addrText : IpAddr → List UInt8) (fetch : ThreatSource → Option (List ThreatPrefix))
      (now : Timestamp) (s : ThreatStore) (sources : List LoadedSource),
      loadEnabledThreatSources s.tables = .ok sources →
      (sources.map fun loaded => loaded.source.name).Nodup →
      FingerprintsApart addrText fetch s sources →
      Isolated addrText fetch now s sources := by
  intro h
  have hapart : FingerprintsApart (fun _ => []) liveOnly twoFeeds twoSources := by
    intro loaded _ fetched _ before hbefore
    cases hbefore
  have hisolated := h (fun _ => []) liveOnly 0 twoFeeds twoSources
    loadEnabledThreatSources_twoFeeds nodup_twoSources hapart
  have hfail : ∃ loaded ∈ twoSources, ¬ Refreshable liveOnly loaded := by
    refine ⟨_, List.mem_cons_self, ?_⟩
    rintro ⟨fetched, hfetch, -⟩
    cases hfetch
  have hafter : refreshEnabledThreatSources (fun _ => []) liveOnly 0 twoFeeds =
      (none, twoFeeds) := refresh_failed loadEnabledThreatSources_twoFeeds hfail
  have hlive := hisolated.1 _ (List.mem_cons_of_mem _ List.mem_cons_self)
  rw [hafter] at hlive
  cases hlive

end Intelligence
end XdpFirewall
