import Mathlib.Data.List.Nodup
import XdpFirewall.Intelligence.ThreatRefresh
import XdpFirewall.Net.Ipv6Text

/-!
# ThreatOwnership — what is stored of a feed belongs to an enabled source

Deleting or disabling a source deletes what is stored under its name. A refresh that has loaded
the source before brings it back, unless the source is still enabled when the refresh stores what
it has fetched.
-/

namespace XdpFirewall
namespace Intelligence

open ControlPlane Lib Net Policy

/-! ## Ownership -/

/-- The row with this id has this name and is enabled. -/
def HasEnabled (t : ThreatTables) (name : String) (id : Int32) : Prop :=
  ∃ source ∈ t.sources, source.policyName = defaultPolicyName ∧ source.id = id ∧
    source.name = name ∧ source.enabled = true

/-- Nothing is stored for a source that is deleted or disabled, and the prefixes of a name are those
of the source that has the name now. -/
structure ThreatTables.DataOwned (t : ThreatTables) : Prop where
  states : ∀ row ∈ t.states, ∃ source ∈ t.sources, source.policyName = defaultPolicyName ∧
    source.name = row.sourceName ∧ source.enabled = true
  prefixes : ∀ row ∈ t.prefixes, ∃ source ∈ t.sources, source.policyName = defaultPolicyName ∧
    source.name = row.sourceName ∧ source.enabled = true
  own : ∀ row ∈ t.prefixes, ∀ source ∈ t.sources, source.policyName = defaultPolicyName →
    source.name = row.sourceName → source.id = row.writtenFor

/-- The keys of the sources, and whose the stored rows are. -/
structure Owned (t : ThreatTables) : Prop where
  ids : (t.sources.map ThreatSourceRow.id).Nodup
  names : ∀ a ∈ t.sources, ∀ b ∈ t.sources, a.policyName = defaultPolicyName →
    b.policyName = defaultPolicyName → a.name = b.name → a = b
  used : ∀ source ∈ t.sources, source.id ∈ t.usedIds
  states : ∀ row ∈ t.states, HasEnabled t row.sourceName row.writtenFor
  prefixes : ∀ row ∈ t.prefixes, HasEnabled t row.sourceName row.writtenFor

theorem owned_empty : Owned .empty where
  ids := List.nodup_nil
  names := nofun
  used := nofun
  states := nofun
  prefixes := nofun

theorem Owned.dataOwned {t : ThreatTables} (h : Owned t) : t.DataOwned where
  states := by
    intro row hrow
    obtain ⟨source, hmem, hpolicy, -, hname, henabled⟩ := h.states row hrow
    exact ⟨source, hmem, hpolicy, hname, henabled⟩
  prefixes := by
    intro row hrow
    obtain ⟨source, hmem, hpolicy, -, hname, henabled⟩ := h.prefixes row hrow
    exact ⟨source, hmem, hpolicy, hname, henabled⟩
  own := by
    intro row hrow source hmem hpolicy hname
    obtain ⟨owner, howner, hpolicy', hid, hname', -⟩ := h.prefixes row hrow
    rw [h.names source hmem owner howner hpolicy hpolicy' (hname.trans hname'.symm)]
    exact hid

/-! ## Requests -/

theorem owned_createThreatSource {t t' : ThreatTables} (h : Owned t) {input : ThreatSourceInput}
    {id : Int32} (hcreate : createThreatSource t input id = some t') : Owned t' := by
  unfold createThreatSource at hcreate
  split at hcreate
  · rename_i hfree
    have hname : ∀ source ∈ t.sources, source.policyName = defaultPolicyName →
        source.name ≠ input.name := by
      intro source hmem hpolicy hname
      have hno := List.find?_eq_none.mp hfree source hmem
      exact hno (decide_eq_true ⟨hpolicy, hname⟩)
    split at hcreate
    case isTrue => cases hcreate
    case isFalse hunused =>
      cases hcreate
      have hmono {name : String} {owner : Int32} : HasEnabled t name owner →
          HasEnabled { t with
            sources := t.sources ++ [input.row id]
            usedIds := id :: t.usedIds } name owner := by
        rintro ⟨source, hmem, hsource⟩
        exact ⟨source, List.mem_append_left _ hmem, hsource⟩
      refine ⟨?_, ?_, ?_, fun row hrow => hmono (h.states row hrow),
        fun row hrow => hmono (h.prefixes row hrow)⟩
      · -- The database gives an id to one source only, also after that source has gone.
        rw [List.map_append, List.nodup_append]
        refine ⟨h.ids, by simp, ?_⟩
        rintro used hused _ hid rfl
        obtain ⟨source, hsource, rfl⟩ := List.mem_map.mp hused
        have hsame : source.id = id := List.mem_singleton.mp hid
        exact hunused (hsame ▸ h.used source hsource)
      · intro a ha b hb hpolicy hpolicy' hsame
        rcases List.mem_append.mp ha with ha | ha
        · rcases List.mem_append.mp hb with hb | hb
          · exact h.names a ha b hb hpolicy hpolicy' hsame
          · rw [List.mem_singleton.mp hb] at hsame
            exact absurd hsame (hname a ha hpolicy)
        · rcases List.mem_append.mp hb with hb | hb
          · rw [List.mem_singleton.mp ha] at hsame
            exact absurd hsame.symm (hname b hb hpolicy')
          · rw [List.mem_singleton.mp ha, List.mem_singleton.mp hb]
      · intro source hsource
        rcases List.mem_append.mp hsource with hsource | hsource
        · exact List.mem_cons_of_mem _ (h.used source hsource)
        · rw [List.mem_singleton.mp hsource]
          exact List.mem_cons_self
  · split at hcreate
    · cases hcreate
      exact h
    · cases hcreate

theorem owned_createThreatSourceRows {inputs : List (ThreatSourceInput × Int32)} :
    ∀ {t t' : ThreatTables}, Owned t → createThreatSourceRows t inputs = some t' → Owned t' := by
  induction inputs with
  | nil =>
      intro t t' h hcreate
      cases hcreate
      exact h
  | cons item rest ih =>
      intro t t' h hcreate
      obtain ⟨mid, hmid, hrest⟩ := Option.bind_eq_some_iff.mp hcreate
      exact ih (owned_createThreatSource h hmid) hrest

/-- Sources may change their flags and go, when what is stored belongs to those that stay
enabled. -/
theorem Owned.restrict {t t' : ThreatTables} (h : Owned t) (flag : ThreatSourceRow → Bool)
    (hsources : List.Sublist t'.sources
      (t.sources.map fun row => { row with enabled := flag row }))
    (hused : t'.usedIds = t.usedIds)
    (hstates : ∀ row ∈ t'.states, HasEnabled t' row.sourceName row.writtenFor)
    (hprefixes : ∀ row ∈ t'.prefixes, HasEnabled t' row.sourceName row.writtenFor) : Owned t' := by
  have hback : ∀ source ∈ t'.sources, ∃ before ∈ t.sources,
      { before with enabled := flag before } = source := by
    intro source hsource
    exact List.mem_map.mp (hsources.subset hsource)
  refine ⟨?_, ?_, ?_, hstates, hprefixes⟩
  · have hids : ((t.sources.map fun row => { row with enabled := flag row }).map
        ThreatSourceRow.id).Nodup := by
      rw [List.map_map]
      exact h.ids
    exact (hsources.map ThreatSourceRow.id).nodup hids
  · intro a ha b hb hpolicy hpolicy' hsame
    obtain ⟨before, hbefore, rfl⟩ := hback a ha
    obtain ⟨before', hbefore', rfl⟩ := hback b hb
    rw [h.names before hbefore before' hbefore' hpolicy hpolicy' hsame]
  · intro source hsource
    obtain ⟨before, hbefore, rfl⟩ := hback source hsource
    rw [hused]
    exact h.used before hbefore

/-- Disabling a source deletes what is stored under its name, and only that belongs to it. -/
theorem owned_updateThreatSource {t t' : ThreatTables} (h : Owned t) {id : Int32} {enabled : Bool}
    (hupdate : updateThreatSource t id enabled = some t') : Owned t' := by
  unfold updateThreatSource at hupdate
  split at hupdate
  case h_1 => cases hupdate
  case h_2 source hfind =>
    have hsource : source ∈ t.sources := List.mem_of_find?_eq_some hfind
    have hfound : source.policyName = defaultPolicyName ∧ source.id = id := by
      simpa using List.find?_some hfind
    have hflag : (t.sources.map fun row =>
        if row.id = id then { row with enabled := enabled } else row) =
        t.sources.map fun row =>
          { row with enabled := if row.id = id then enabled else row.enabled } := by
      refine List.map_congr_left fun row _ => ?_
      split <;> rfl
    have hsub : List.Sublist
        (t.sources.map fun row => if row.id = id then { row with enabled := enabled } else row)
        (t.sources.map fun row =>
          { row with enabled := if row.id = id then enabled else row.enabled }) := by
      rw [hflag]
    have hkeep {states : List SourceStateRow} {prefixes : List SourcePrefixRow} {name : String}
        {owner : Int32} (howner : HasEnabled t name owner)
        (hstays : enabled = true ∨ name ≠ source.name) :
        HasEnabled { t with
          sources := t.sources.map fun row =>
            if row.id = id then { row with enabled := enabled } else row
          states := states
          prefixes := prefixes } name owner := by
      obtain ⟨row, hrow, hpolicy, hid, hname, henabled⟩ := howner
      refine ⟨if row.id = id then { row with enabled := enabled } else row,
        List.mem_map.mpr ⟨row, hrow, rfl⟩, ?_⟩
      split
      case isFalse => exact ⟨hpolicy, hid, hname, henabled⟩
      case isTrue hmatch =>
        refine ⟨hpolicy, hid, hname, ?_⟩
        rcases hstays with henabled | hother
        · exact henabled
        · -- The row with this id is the one whose name was deleted.
          have hsame : row = source :=
            List.inj_on_of_nodup_map h.ids hrow hsource (hmatch.trans hfound.2.symm)
          exact absurd (hname.symm.trans (congrArg ThreatSourceRow.name hsame)) hother
    cases hupdate
    -- A source that is turned off takes its state and its prefixes with it.
    split
    case isTrue henabled =>
      exact h.restrict _ hsub rfl
        (fun row hrow => hkeep (h.states row hrow) (Or.inl henabled))
        (fun row hrow => hkeep (h.prefixes row hrow) (Or.inl henabled))
    case isFalse =>
      refine h.restrict _ hsub rfl (fun row hrow => ?_) fun row hrow => ?_
      · obtain ⟨hmem, hother⟩ := List.mem_filter.mp hrow
        exact hkeep (h.states row hmem)
          (Or.inr fun hname => of_decide_eq_true hother (List.mem_singleton.mpr hname))
      · obtain ⟨hmem, hother⟩ := List.mem_filter.mp hrow
        exact hkeep (h.prefixes row hmem)
          (Or.inr fun hname => of_decide_eq_true hother (List.mem_singleton.mpr hname))

/-- Deleting sources deletes what is stored under their names. -/
theorem owned_deleteThreatSources {t : ThreatTables} (h : Owned t)
    (named : ThreatSourceRow → Bool) : Owned (deleteThreatSources t named) := by
  have hkeep {name : String} {owner : Int32} (howner : HasEnabled t name owner)
      (hstays : name ∉ (t.sources.filter fun row =>
        row.policyName = defaultPolicyName ∧ named row).map ThreatSourceRow.name) :
      HasEnabled (deleteThreatSources t named) name owner := by
    obtain ⟨row, hrow, hpolicy, hid, hname, henabled⟩ := howner
    refine ⟨row, List.mem_filter.mpr ⟨hrow, decide_eq_true ?_⟩, hpolicy, hid, hname, henabled⟩
    rintro ⟨-, hnamed⟩
    exact hstays (List.mem_map.mpr ⟨row, List.mem_filter.mpr
      ⟨hrow, decide_eq_true ⟨hpolicy, hnamed⟩⟩, hname⟩)
  refine h.restrict ThreatSourceRow.enabled ?_ rfl (fun row hrow => ?_) fun row hrow => ?_
  · change List.Sublist (t.sources.filter _) (t.sources.map fun row => row)
    rw [List.map_id']
    exact List.filter_sublist
  · obtain ⟨hmem, hother⟩ := List.mem_filter.mp hrow
    exact hkeep (h.states row hmem) (of_decide_eq_true hother)
  · obtain ⟨hmem, hother⟩ := List.mem_filter.mp hrow
    exact hkeep (h.prefixes row hmem) (of_decide_eq_true hother)

/-! ## Refreshes -/

theorem owned_persistThreatSourcePrefixes {t : ThreatTables} (h : Owned t) {row : SourcePrefixRow}
    (hrow : HasEnabled t row.sourceName row.writtenFor) :
    Owned (persistThreatSourcePrefixes t row) where
  ids := h.ids
  names := h.names
  used := h.used
  states := h.states
  prefixes := by
    intro other hother
    rcases List.mem_append.mp hother with hother | hother
    · exact h.prefixes other (List.mem_filter.mp hother).1
    · rw [List.mem_singleton.mp hother]
      exact hrow

theorem owned_upsertThreatSourceState {t : ThreatTables} (h : Owned t) {row : SourceStateRow}
    (hrow : HasEnabled t row.sourceName row.writtenFor) :
    Owned (upsertThreatSourceState t row) where
  ids := h.ids
  names := h.names
  used := h.used
  states := by
    intro other hother
    change other ∈ (if _ then _ else _) at hother
    change HasEnabled t other.sourceName other.writtenFor
    split at hother
    · obtain ⟨before, hbefore, rfl⟩ := List.mem_map.mp hother
      split
      · exact hrow
      · exact h.states before hbefore
    · rcases List.mem_append.mp hother with hother | hother
      · exact h.states other hother
      · rw [List.mem_singleton.mp hother]
        exact hrow
  prefixes := h.prefixes

/-- Writing rows one after the other, each for an enabled source. -/
theorem owned_foldl {Row : Type} (write : ThreatTables → Row → ThreatTables)
    (name : Row → String) (owner : Row → Int32)
    (hsources : ∀ t row, (write t row).sources = t.sources)
    (hwrite : ∀ t row, Owned t → HasEnabled t (name row) (owner row) → Owned (write t row))
    {rows : List Row} : ∀ {t : ThreatTables}, Owned t →
      (∀ row ∈ rows, HasEnabled t (name row) (owner row)) →
      Owned (rows.foldl write t) ∧ (rows.foldl write t).sources = t.sources := by
  induction rows with
  | nil => exact fun h _ => ⟨h, rfl⟩
  | cons row rows ih =>
      intro t h hrows
      have hwritten := hwrite t row h (hrows row List.mem_cons_self)
      obtain ⟨howned, hsame⟩ := ih hwritten fun other hother => by
        have hother := hrows other (List.mem_cons_of_mem _ hother)
        unfold HasEnabled at hother ⊢
        rw [hsources]
        exact hother
      exact ⟨howned, hsame.trans (hsources t row)⟩

/-- Prefixes are stored together with the state of their source. -/
def ThreatRefreshBatch.Covered (batch : ThreatRefreshBatch) : Prop :=
  ∀ row ∈ batch.changedPrefixesBySource, ∃ state ∈ batch.states,
    state.sourceName = row.sourceName ∧ state.writtenFor = row.writtenFor

theorem owned_persistThreatRefreshBatch {t : ThreatTables} (h : Owned t)
    {batch : ThreatRefreshBatch} (hcovered : batch.Covered)
    (henabled : ∀ row ∈ batch.states, HasEnabled t row.sourceName row.writtenFor) :
    Owned (persistThreatRefreshBatch batch t) := by
  obtain ⟨howned, hsources⟩ := owned_foldl persistThreatSourcePrefixes
    SourcePrefixRow.sourceName SourcePrefixRow.writtenFor (fun _ _ => rfl)
    (fun _ _ h hrow => owned_persistThreatSourcePrefixes h hrow) h fun row hrow => by
      obtain ⟨state, hstate, hname, hid⟩ := hcovered row hrow
      rw [← hname, ← hid]
      exact henabled state hstate
  refine (owned_foldl upsertThreatSourceState SourceStateRow.sourceName SourceStateRow.writtenFor
    (fun _ _ => rfl) (fun _ _ h hrow => owned_upsertThreatSourceState h hrow) howned
    fun row hrow => ?_).1
  have hrow := henabled row hrow
  unfold HasEnabled at hrow ⊢
  rw [hsources]
  exact hrow

theorem covered_refreshOneSource {addrText : IpAddr → List UInt8} {loaded : LoadedSource}
    {existing : List SourceStateRow} {existingPrefixSources : List String}
    {fetched : List ThreatPrefix} {batch batch' : ThreatRefreshBatch} (h : batch.Covered)
    (hrefresh : refreshOneSource addrText loaded existing existingPrefixSources fetched batch =
      some batch') : batch'.Covered := by
  unfold refreshOneSource at hrefresh
  dsimp only at hrefresh
  split at hrefresh
  case isFalse => cases hrefresh
  case isTrue =>
    cases hrefresh
    intro row hrow
    rcases List.mem_append.mp hrow with hrow | hrow
    · obtain ⟨state, hstate, hsame⟩ := h row hrow
      exact ⟨state, List.mem_append_left _ hstate, hsame⟩
    · split at hrow
      · rw [List.mem_singleton.mp hrow]
        exact ⟨_, List.mem_append_right _ List.mem_cons_self, rfl, rfl⟩
      · cases hrow

/-! ## Runs -/

/-- A refresh stores what it has fetched while every source it has loaded is still there, under its
name, and enabled. -/
def PersistsEnabled (s : ThreatRun) : ThreatEvent → Prop
  | .persist i => ∀ existing existingPrefixSources batch,
      s.refreshes i = .fetching [] existing existingPrefixSources batch →
      ∀ row ∈ batch.states, HasEnabled s.tables row.sourceName row.writtenFor
  | _ => True

structure ThreatInv (s : ThreatRun) : Prop where
  owned : Owned s.tables
  covered : ∀ i sources existing existingPrefixSources batch,
    s.refreshes i = .fetching sources existing existingPrefixSources batch → batch.Covered

/-- A refresh moves on with a batch that is covered. -/
theorem ThreatInv.set {s : ThreatRun} (h : ThreatInv s) (i : Nat) {phase : RefreshPhase}
    (hphase : ∀ sources existing existingPrefixSources batch,
      phase = .fetching sources existing existingPrefixSources batch → batch.Covered) :
    ThreatInv (s.set i phase) where
  owned := h.owned
  covered := by
    intro j sources existing existingPrefixSources batch hj
    by_cases hij : j = i
    · rw [hij, ThreatRun.set] at hj
      exact hphase _ _ _ _ ((Function.update_self i phase s.refreshes).symm.trans hj)
    · rw [ThreatRun.set] at hj
      exact h.covered j _ _ _ _ ((Function.update_of_ne hij phase s.refreshes).symm.trans hj)

theorem ThreatInv.commit {s s' : ThreatRun} (h : ThreatInv s) {tables : Option ThreatTables}
    (howned : ∀ t, tables = some t → Owned t) (hcommit : s.commit tables = some s') :
    ThreatInv s' := by
  obtain ⟨t, htables, rfl⟩ := Option.map_eq_some_iff.mp hcommit
  exact ⟨howned t htables, h.covered⟩

/-- One request or one step of a refresh keeps the invariant. -/
theorem threatInv_step {addrText : IpAddr → List UInt8} (s : ThreatRun) (e : ThreatEvent)
    (s' : ThreatRun) (h : ThreatInv s) (hstep : threatStep addrText s e = some s')
    (henabled : PersistsEnabled s e) : ThreatInv s' := by
  cases e with
  | create inputs =>
      exact h.commit (fun t ht => owned_createThreatSourceRows h.owned ht) hstep
  | update id enabled =>
      exact h.commit (fun t ht => owned_updateThreatSource h.owned ht) hstep
  | deleteIds ids =>
      refine h.commit (fun t ht => ?_) hstep
      unfold deleteByIds at ht
      split at ht
      · cases ht
        exact owned_deleteThreatSources h.owned _
      · cases ht
  | deleteName name =>
      refine h.commit (fun t ht => ?_) hstep
      unfold deleteByName at ht
      split at ht
      · cases ht
      · cases ht
        exact owned_deleteThreatSources h.owned _
  | start i =>
      simp only [threatStep] at hstep
      split at hstep
      · cases hstep
        exact h.set i nofun
      · cases hstep
  | loadSources i =>
      simp only [threatStep] at hstep
      split at hstep
      · split at hstep <;>
          (cases hstep
           exact h.set i nofun)
      · cases hstep
  | loadStates i =>
      simp only [threatStep] at hstep
      split at hstep
      · cases hstep
        exact h.set i nofun
      · cases hstep
  | loadPrefixes i now =>
      simp only [threatStep] at hstep
      split at hstep
      · cases hstep
        refine h.set i fun sources existing existingPrefixSources batch hphase => ?_
        cases hphase
        intro row hrow
        cases hrow
      · cases hstep
  | fetch i fetched =>
      simp only [threatStep] at hstep
      split at hstep
      · rename_i sources existing existingPrefixSources batch hi
        obtain ⟨phase, hfetch, rfl⟩ := Option.map_eq_some_iff.mp hstep
        refine h.set i fun sources' existing' existingPrefixSources' batch' hphase => ?_
        rw [hphase] at hfetch
        unfold fetchNext at hfetch
        split at hfetch
        · cases hfetch
        · cases hfetch
        · split at hfetch
          · rename_i hrefresh
            cases hfetch
            exact covered_refreshOneSource (h.covered i _ _ _ _ hi) hrefresh
          · cases hfetch
      · cases hstep
  | persist i =>
      simp only [threatStep] at hstep
      split at hstep
      · rename_i existing existingPrefixSources batch hi
        cases hstep
        -- The sources were loaded long before: here the condition on the step is needed.
        have howned := owned_persistThreatRefreshBatch h.owned (h.covered i _ _ _ _ hi)
          (henabled existing existingPrefixSources batch hi)
        have hfinished : ThreatInv (s.set i .finished) := h.set i nofun
        exact ⟨howned, hfinished.covered⟩
      · cases hstep
  | fail i =>
      simp only [threatStep] at hstep
      split at hstep
      · cases hstep
        exact h.set i nofun
      · cases hstep

/-- In every run whose refreshes store what they have fetched for sources that are still enabled,
what is stored belongs to enabled sources. -/
theorem run_dataOwned {addrText : IpAddr → List UInt8} {tables : ThreatTables} {s : ThreatRun}
    {events : List ThreatEvent} (hstart : Owned tables)
    (hrun : run (threatStep addrText) (.initial tables) events = some s)
    (henabled : EachStep (threatStep addrText) (fun s e _ => PersistsEnabled s e)
      (.initial tables) events) : s.tables.DataOwned := by
  have hinv : ThreatInv (.initial tables) := ⟨hstart, fun i _ _ _ _ hi => by cases hi⟩
  exact (run_invariant_of_each threatInv_step hinv henabled hrun).owned.dataOwned

/-! ### A source that is deleted during a refresh -/

def feedInput : ThreatSourceInput where
  enabled := true
  name := "feed"
  url := "https://example.com/feed"
  format := "cidr"
  minScore := none

def feedSource : LoadedSource where
  source :=
    { name := "feed"
      url := "https://example.com/feed"
      format := .cidr
      minScore := none }
  id := 1

/-- The text of an address that the fingerprint is made of. -/
def feedText (addr : IpAddr) : List UInt8 :=
  (IpText.displayIpAddr addr).map fun c => UInt8.ofNat c.toNat

/-- The list of the feed. -/
def feedPrefix : ThreatPrefix where
  addr := .v4 0xCB007100
  prefixLen := 24
  isNetwork := by decide

theorem normalizeThreatPrefixes_feed : normalizeThreatPrefixes [feedPrefix] = [feedPrefix] := by
  simp [normalizeThreatPrefixes, List.eraseDups_cons]

theorem parseThreatSource_feed (id : Int32) :
    parseThreatSource (feedInput.row id) = .ok feedSource.source := by
  have hlower : "cidr".toLower = "cidr" := toLower_eq_self (by decide)
  simp [parseThreatSource, feedInput, ThreatSourceInput.row, feedSource, parseFormat, hlower,
    optionalInt32ToU32]
  rfl

/-- A refresh that has fetched the only source. -/
def refreshFeed : List ThreatEvent :=
  [.create [(feedInput, 1)], .start 0, .loadSources 0, .loadStates 0, .loadPrefixes 0 0,
    .fetch 0 (some [feedPrefix])]

/-- What the refresh is about to store. -/
def feedBatch : ThreatRefreshBatch where
  states :=
    [{ sourceName := "feed"
       state :=
        { fingerprint := threatPrefixFingerprint feedText [feedPrefix]
          prefixCount := 1
          lastCheckedAt := 0
          lastChangedAt := some 0
          updatedAt := 0 }
       writtenFor := 1 }]
  changedPrefixesBySource :=
    [{ sourceName := "feed"
       cidrs := [feedPrefix]
       updatedAt := 0
       writtenFor := 1 }]
  changedSourceCount := 1
  prefixCount := 1
  checkedAt := 0

def feedTables : ThreatTables where
  sources := [feedInput.row 1]
  states := []
  prefixes := []
  usedIds := [1]

/-- The first refresh is in a phase, and no other refresh has begun. -/
def feedRun (t : ThreatTables) (phase : RefreshPhase) : ThreatRun where
  tables := t
  refreshes := Function.update (fun _ => .idle) 0 phase

theorem run_refreshFeed : run (threatStep feedText) (.initial .empty) refreshFeed =
    some (feedRun feedTables (.fetching [] [] [] feedBatch)) := by
  have hload : loadEnabledThreatSources feedTables = .ok [feedSource] := by
    have hfilter : (feedTables.sources.filter fun row =>
        row.policyName = defaultPolicyName ∧ row.enabled) = [feedInput.row 1] := by
      simp [feedTables, feedInput, ThreatSourceInput.row]
    rw [loadEnabledThreatSources, hfilter]
    simp only [List.mapM_cons, List.mapM_nil, parseThreatSource_feed]
    rfl
  have hcreate : createThreatSourceRows .empty [(feedInput, 1)] = some feedTables := by
    simp [createThreatSourceRows, createThreatSource, ThreatTables.empty, feedTables]
  have hrefresh : refreshOneSource feedText feedSource [] [] [feedPrefix] (.empty 0) =
      some feedBatch := by
    simp [refreshOneSource, normalizeThreatPrefixes_feed, threatSourceChanged,
      threatSourceRefreshState, ThreatRefreshBatch.empty, feedBatch, feedSource]
  have hstates : feedTables.states = [] := rfl
  have hprefixes : feedTables.prefixes = [] := rfl
  simp [run, refreshFeed, threatStep, ThreatRun.commit, ThreatRun.initial, ThreatRun.set, hcreate,
    hload, hstates, hprefixes, hrefresh, fetchNext, feedRun]

theorem persist_feedRun (t : ThreatTables) :
    threatStep feedText (feedRun t (.fetching [] [] [] feedBatch)) (.persist 0) =
      some (feedRun (persistThreatRefreshBatch feedBatch t) .finished) := by
  simp [threatStep, feedRun, ThreatRun.set]

theorem not_running_feedRun (t : ThreatTables) (i : Nat) :
    ((feedRun t .finished).refreshes i).running = false := by
  by_cases hi : i = 0
  · simp only [hi, feedRun, Function.update_self]
    rfl
  · simp only [feedRun, Function.update_of_ne hi]
    rfl

theorem prefixes_persisted {t : ThreatTables} (h : t.prefixes = []) :
    (persistThreatRefreshBatch feedBatch t).prefixes =
      [{ sourceName := "feed", cidrs := [feedPrefix], updatedAt := 0, writtenFor := 1 }] := by
  simp [persistThreatRefreshBatch, feedBatch, persistThreatSourcePrefixes,
    upsertThreatSourceState, h]

theorem deleteByIds_feed : deleteByIds feedTables [1] = some { feedTables with sources := [] } := by
  simp [deleteByIds, deleteThreatSources, deleteThreatSourceStatesByName, feedTables, feedInput,
    ThreatSourceInput.row]

/-- Another source of the same name. -/
def otherInput : ThreatSourceInput :=
  { feedInput with url := "https://example.org/other" }

theorem createThreatSourceRows_other :
    createThreatSourceRows { feedTables with sources := [] } [(otherInput, 2)] =
      some { feedTables with
        sources := [otherInput.row 2]
        usedIds := [2, 1] } := by
  simp [createThreatSourceRows, createThreatSource, feedTables]

/-- The refresh stores the feed of a source that was deleted, or deleted and created again under its
old name. -/
theorem deleted_feed_stored :
    (∃ s, run (threatStep feedText) (.initial .empty)
        (refreshFeed ++ [.deleteIds [1], .persist 0]) = some s ∧
      (∀ i, (s.refreshes i).running = false) ∧ ¬ s.tables.DataOwned) ∧
    ∃ s, run (threatStep feedText) (.initial .empty)
        (refreshFeed ++ [.deleteIds [1], .create [(otherInput, 2)], .persist 0]) = some s ∧
      (∀ i, (s.refreshes i).running = false) ∧ ¬ s.tables.DataOwned := by
  constructor
  · refine ⟨_, ?_, not_running_feedRun (persistThreatRefreshBatch feedBatch
      { feedTables with sources := [] }), fun howned => ?_⟩
    · rw [run_append, run_refreshFeed, Option.bind_some, run]
      have hdelete : threatStep feedText (feedRun feedTables (.fetching [] [] [] feedBatch))
          (.deleteIds [1]) =
            some (feedRun { feedTables with sources := [] } (.fetching [] [] [] feedBatch)) :=
        congrArg (ThreatRun.commit _) deleteByIds_feed
      rw [hdelete, Option.bind_some, run, persist_feedRun]
      rfl
    · have hprefixes := howned.prefixes
      change ∀ row ∈ (persistThreatRefreshBatch feedBatch _).prefixes, _ at hprefixes
      rw [prefixes_persisted rfl] at hprefixes
      obtain ⟨source, hsource, -⟩ := hprefixes _ List.mem_cons_self
      cases hsource
  · refine ⟨_, ?_, not_running_feedRun (persistThreatRefreshBatch feedBatch
      { feedTables with
        sources := [otherInput.row 2]
        usedIds := [2, 1] }), fun howned => ?_⟩
    · rw [run_append, run_refreshFeed, Option.bind_some, run]
      have hdelete : threatStep feedText (feedRun feedTables (.fetching [] [] [] feedBatch))
          (.deleteIds [1]) =
            some (feedRun { feedTables with sources := [] } (.fetching [] [] [] feedBatch)) :=
        congrArg (ThreatRun.commit _) deleteByIds_feed
      have hcreate : threatStep feedText
          (feedRun { feedTables with sources := [] } (.fetching [] [] [] feedBatch))
          (.create [(otherInput, 2)]) =
            some (feedRun { feedTables with
              sources := [otherInput.row 2]
              usedIds := [2, 1] } (.fetching [] [] [] feedBatch)) :=
        congrArg (ThreatRun.commit _) createThreatSourceRows_other
      rw [hdelete, Option.bind_some, run, hcreate, Option.bind_some, run, persist_feedRun]
      rfl
    · -- The name is in use again, by a source with another id.
      have hown := howned.own
      change ∀ row ∈ (persistThreatRefreshBatch feedBatch _).prefixes, _ at hown
      rw [prefixes_persisted rfl] at hown
      have hid := hown _ List.mem_cons_self (otherInput.row 2) List.mem_cons_self rfl rfl
      exact absurd hid (by decide)

/-- Once the refresh has ended, the source is disabled. -/
theorem updateThreatSource_feed :
    updateThreatSource (persistThreatRefreshBatch feedBatch feedTables) 1 false =
      some
        { sources := [{ feedInput.row 1 with enabled := false }]
          states := []
          prefixes := []
          usedIds := [1] } := by
  simp [updateThreatSource, persistThreatRefreshBatch, persistThreatSourcePrefixes,
    upsertThreatSourceState, deleteThreatSourceStatesByName, feedTables, feedBatch, feedInput,
    ThreatSourceInput.row]

theorem run_refreshFeed_persist :
    run (threatStep feedText) (.initial .empty) (refreshFeed ++ [.persist 0]) =
      some (feedRun (persistThreatRefreshBatch feedBatch feedTables) .finished) := by
  rw [run_append, run_refreshFeed, Option.bind_some, run, persist_feedRun]
  rfl

theorem persistsEnabled_refreshFeed :
    EachStep (threatStep feedText) (fun s e _ => PersistsEnabled s e) (.initial .empty)
      (refreshFeed ++ [.persist 0]) := by
  refine EachStep.append (by simp [EachStep, refreshFeed, PersistsEnabled]) fun mid hmid => ?_
  rw [run_refreshFeed] at hmid
  cases hmid
  refine fun _ _ => ⟨fun existing existingPrefixSources batch hbatch row hrow => ?_, trivial⟩
  simp only [feedRun, Function.update_self] at hbatch
  cases hbatch
  rw [List.mem_singleton.mp hrow]
  exact ⟨feedInput.row 1, List.mem_cons_self, rfl, rfl, rfl, rfl⟩

/-- The list is stored, and deleted with the request that disables its source. -/
theorem run_dataOwned_disabled :
    (∃ s, run (threatStep feedText) (.initial .empty) (refreshFeed ++ [.persist 0]) = some s ∧
      s.tables.prefixes.map SourcePrefixRow.cidrs = [[feedPrefix]] ∧ s.tables.DataOwned) ∧
    ∃ s, run (threatStep feedText) (.initial .empty)
        (refreshFeed ++ [.persist 0] ++ [.update 1 false]) = some s ∧
      s.tables.prefixes = [] ∧ s.tables.DataOwned := by
  constructor
  · refine ⟨_, run_refreshFeed_persist, ?_,
      run_dataOwned owned_empty run_refreshFeed_persist persistsEnabled_refreshFeed⟩
    change (persistThreatRefreshBatch feedBatch feedTables).prefixes.map _ = _
    rw [prefixes_persisted rfl]
    rfl
  · have hstep : threatStep feedText
        (feedRun (persistThreatRefreshBatch feedBatch feedTables) .finished) (.update 1 false) =
          some (feedRun
            { sources := [{ feedInput.row 1 with enabled := false }]
              states := []
              prefixes := []
              usedIds := [1] } .finished) :=
      congrArg (ThreatRun.commit _) updateThreatSource_feed
    have hrun : run (threatStep feedText) (.initial .empty)
        (refreshFeed ++ [.persist 0] ++ [.update 1 false]) =
          some (feedRun
            { sources := [{ feedInput.row 1 with enabled := false }]
              states := []
              prefixes := []
              usedIds := [1] } .finished) := by
      rw [run_append, run_refreshFeed_persist, Option.bind_some, run, hstep]
      rfl
    have henabled : EachStep (threatStep feedText) (fun s e _ => PersistsEnabled s e)
        (.initial .empty) (refreshFeed ++ [.persist 0] ++ [.update 1 false]) :=
      persistsEnabled_refreshFeed.append fun _ _ _ _ => ⟨trivial, trivial⟩
    exact ⟨_, hrun, rfl, run_dataOwned owned_empty hrun henabled⟩

end Intelligence
end XdpFirewall
