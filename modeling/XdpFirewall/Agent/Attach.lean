import XdpFirewall.Agent.Host

/-!
# Attach — how an attach can end

An attach that ends well leaves a program on the interface that uses the maps of the manager. One
that fails leaves the old maps alone, and the program as it was, gone, or replaced by one with
maps that nobody has written to.
-/

namespace XdpFirewall
namespace Agent

open DataPlane Lib

variable {env : HostEnv} {interface : String} {options : XdpAttachOptions} {host : Host}

/-! ## Calls -/

section Calls

variable {A B : Type} {ok : A → Host → Prop} {failed : Host → Prop}

theorem ask_ends {ok : Unit → Host → Prop} {call : HostCall} (hfailed : failed host)
    (hok : env.fails call = none → ok () host) :
    Ends (ask env call) host ok (fun _ => failed) := by
  unfold ask
  cases h : env.fails call with
  | none => exact Ends.pure (hok h)
  | some reason => exact Ends.throw hfailed

theorem ask_bind {call : HostCall} {rest : Unit → OnHost A} (hfailed : failed host)
    (hrest : env.fails call = none → Ends (rest ()) host ok (fun _ => failed)) :
    Ends (ask env call >>= rest) host ok (fun _ => failed) := by
  unfold ask
  cases h : env.fails call with
  | none => exact hrest h
  | some reason => exact Ends.throw hfailed

theorem run_withContext (text : String) (x : OnHost A) (host : Host) :
    (withContext text x).run host =
      match x.run host with
      | .ok a host => .ok a host
      | .error reason host => .error (text ++ ": " ++ reason) host := rfl

theorem withContext_ends {text : String} {x : OnHost A}
    (h : Ends x host ok (fun _ => failed)) :
    Ends (withContext text x) host ok (fun _ => failed) := by
  unfold Ends at h ⊢
  rw [run_withContext]
  cases hx : x.run host with
  | ok a after =>
      rw [hx] at h
      exact h
  | error reason after =>
      rw [hx] at h
      exact h

theorem ensureReplaceable_ends {call : HostCall} (hfailed : failed host) :
    Ends (ensureReplaceable env call interface options) host (fun _ after => after = host)
      (fun _ => failed) := by
  unfold ensureReplaceable
  cases options.allowReplace with
  | true => exact Ends.pure rfl
  | false =>
      refine ask_bind hfailed fun _ => Ends.get_bind ?_
      cases existingXdpSummary (env.ipLinkShow host.program) with
      | none => exact Ends.pure rfl
      | some existing => exact Ends.throw hfailed

end Calls

/-! ## The program -/

/-- The maps and the pins are as before. -/
structure SameSets (host after : Host) : Prop where
  sets : after.sets = host.sets
  nextSet : after.nextSet = host.nextSet
  pins : after.pins = host.pins

theorem SameSets.refl (host : Host) : SameSets host host :=
  ⟨rfl, rfl, rfl⟩

theorem SameSets.trans {middle after : Host} (h : SameSets host middle)
    (h' : SameSets middle after) : SameSets host after :=
  ⟨h'.sets.trans h.sets, h'.nextSet.trans h.nextSet, h'.pins.trans h.pins⟩

/-- Nothing new runs on the interface. -/
structure Kept (host after : Host) : Prop where
  same : SameSets host after
  program : after.program = host.program ∨ after.program = none

theorem Kept.refl (host : Host) : Kept host host :=
  ⟨SameSets.refl host, Or.inl rfl⟩

/-- Our program runs on the interface, with what is pinned. -/
structure Loaded (dispatcher : Bool) (host after : Host) : Prop where
  same : SameSets host after
  program : ∃ id, after.program = some { id := id, set := host.pins, dispatcher := dispatcher }

/-- How a direct attach of one program ends well. -/
def AttachedWith (allowReplace : Bool) (set : Nat) (host : Host) (links : Links) (after : Host) :
    Prop :=
  after = host.run (some set) false ∧
    (host.program = none ∧
        links = { ebpfLink := some host.nextProgram, directNetlinkLink := none } ∨
      allowReplace = true ∧
        links = { ebpfLink := none, directNetlinkLink := some host.nextProgram })

theorem run_attachFree (set : Nat) (host : Host) :
    (attachFree set).run host =
      match host.program with
      | some _ => .error "device or resource busy" host
      | none =>
          .ok { ebpfLink := some host.nextProgram, directNetlinkLink := none }
            (host.run (some set) false) := rfl

theorem attachFree_ends (allowReplace : Bool) (set : Nat) (host : Host) :
    Ends (attachFree set) host (AttachedWith allowReplace set host)
      (fun _ after => after = host) := by
  unfold Ends
  rw [run_attachFree]
  cases hprogram : host.program with
  | some program => rfl
  | none => exact ⟨rfl, Or.inl ⟨hprogram, rfl⟩⟩

theorem attachProgramMode_ends (env : HostEnv) (interface : String) (mode : XdpAttachMode)
    (allowReplace : Bool) (set : Nat) (host : Host) :
    Ends (attachProgramMode env interface mode allowReplace set) host
      (AttachedWith allowReplace set host) (fun _ after => after = host) := by
  refine ask_bind rfl fun _ => Ends.get_bind ?_
  cases env.programId host.program mode with
  | none =>
      exact ask_bind rfl fun _ => attachFree_ends allowReplace set host
  | some existingId =>
      cases allowReplace with
      | false => exact Ends.throw rfl
      | true => exact ask_bind rfl fun _ => ⟨rfl, Or.inr ⟨rfl, rfl⟩⟩

theorem run_attachProgramAuto (env : HostEnv) (interface : String) (allowReplace : Bool)
    (set : Nat) (host : Host) :
    (attachProgramAuto env interface allowReplace set).run host =
      match (attachProgramMode env interface .driver allowReplace set).run host with
      | .ok links host => .ok links host
      | .error driverErr host =>
          (withContext ("driver XDP attach failed (" ++ driverErr ++ "); skb attach failed")
            (attachProgramMode env interface .skb allowReplace set)).run host := rfl

theorem attachProgram_ends (env : HostEnv) (interface : String) (mode : XdpAttachMode)
    (allowReplace : Bool) (set : Nat) (host : Host) :
    Ends (attachProgram env interface mode allowReplace set) host
      (AttachedWith allowReplace set host) (fun _ after => after = host) := by
  cases mode with
  | driver => exact withContext_ends (attachProgramMode_ends ..)
  | skb => exact withContext_ends (attachProgramMode_ends ..)
  | auto =>
      have hdriver := attachProgramMode_ends env interface .driver allowReplace set host
      rw [attachProgram]
      unfold Ends at hdriver ⊢
      rw [run_attachProgramAuto]
      cases hresult : (attachProgramMode env interface .driver allowReplace set).run host with
      | ok links after =>
          rw [hresult] at hdriver
          exact hdriver
      | error reason after =>
          rw [hresult] at hdriver
          have hsame : after = host := hdriver
          rw [hsame]
          exact withContext_ends (attachProgramMode_ends ..)

/-! ## The dispatcher -/

theorem unloadDispatcherProgramsByName_ends (env : HostEnv) (site : UnloadSite) (host : Host) :
    Ends (unloadDispatcherProgramsByName env site) host (fun _ => Kept host)
      (fun _ => Kept host) := by
  refine ask_bind (Kept.refl host) fun _ => Ends.get_bind ?_
  cases host.program with
  | none => exact Ends.pure (Kept.refl host)
  | some program =>
      dsimp only
      split
      · exact ask_bind (Kept.refl host) fun _ => Ends.modify ⟨⟨rfl, rfl, rfl⟩, Or.inr rfl⟩
      · exact Ends.pure (Kept.refl host)

theorem loadMode_ends (env : HostEnv) (mode : XdpAttachMode) (host : Host) :
    Ends (loadMode env mode) host (fun _ => Loaded true host) (fun _ after => after = host) :=
  ask_bind rfl fun _ => Ends.modify ⟨⟨rfl, rfl, rfl⟩, _, rfl⟩

theorem run_runXdpLoaderLoad_auto (env : HostEnv) (host : Host) :
    (runXdpLoaderLoad env .auto).run host =
      match (loadMode env .driver).run host with
      | .ok _ host => .ok () host
      | .error driverErr host =>
          (withContext ("dispatcher native XDP attach failed (" ++ driverErr ++
            "); skb attach failed") (loadMode env .skb)).run host := rfl

theorem runXdpLoaderLoad_ends (env : HostEnv) (mode : XdpAttachMode) (host : Host) :
    Ends (runXdpLoaderLoad env mode) host (fun _ => Loaded true host)
      (fun _ after => after = host) := by
  cases mode with
  | driver => exact loadMode_ends env .driver host
  | skb => exact loadMode_ends env .skb host
  | auto =>
      have hdriver := loadMode_ends env .driver host
      unfold Ends at hdriver ⊢
      rw [run_runXdpLoaderLoad_auto]
      cases hresult : (loadMode env .driver).run host with
      | ok _ after =>
          rw [hresult] at hdriver
          exact hdriver
      | error reason after =>
          rw [hresult] at hdriver
          have hsame : after = host := hdriver
          rw [hsame]
          exact withContext_ends (loadMode_ends env .skb host)

/-- A dispatcher keeps our program when the check of its maps fails. -/
def LeftLoaded (env : HostEnv) (options : XdpAttachOptions) (host after : Host) : Prop :=
  Kept host after ∨
    options.strategy = .dispatcher ∧ env.fails .verifyMaps ≠ none ∧ Loaded true host after

theorem attachDispatcherProgram_ends (env : HostEnv) {options : XdpAttachOptions}
    (hstrategy : options.strategy = .dispatcher) (host : Host) :
    Ends (attachDispatcherProgram env options) host (fun _ => Loaded true host)
      (fun _ => LeftLoaded env options host) := by
  have hunload : Ends (unloadDispatcherProgramsByName env .attach) host (fun _ => Kept host)
      (fun _ => LeftLoaded env options host) :=
    (unloadDispatcherProgramsByName_ends env .attach host).mono (fun _ _ h => h)
      fun _ _ h => Or.inl h
  refine hunload.bind fun _ middle hkept => ?_
  have hload : Ends (runXdpLoaderLoad env options.mode) middle (fun _ => Loaded true middle)
      (fun _ => LeftLoaded env options host) := by
    refine (runXdpLoaderLoad_ends env options.mode middle).mono (fun _ _ h => h) ?_
    intro _ after hsame
    rw [hsame]
    exact Or.inl hkept
  refine hload.bind fun _ after hloaded => ?_
  obtain ⟨id, hprogram⟩ := hloaded.program
  rw [hkept.same.pins] at hprogram
  have hall : Loaded true host after := ⟨hkept.same.trans hloaded.same, id, hprogram⟩
  unfold ask
  -- The program runs already when its maps are checked, and a refusal leaves it there.
  cases hverify : env.fails .verifyMaps with
  | none => exact Ends.pure hall
  | some reason =>
      refine Ends.throw (Or.inr ⟨hstrategy, ?_, hall⟩)
      rw [hverify]
      exact Option.some_ne_none reason

/-! ## Loading and attaching -/

/-- The program was attached with these links, under either strategy. -/
inductive Attached (options : XdpAttachOptions) (set : Nat) (host : Host) (links : Links)
    (after : Host) : Prop
  | direct (hstrategy : options.strategy = .direct)
      (hattached : AttachedWith options.allowReplace set host links after)
  | dispatcher (hstrategy : options.strategy = .dispatcher) (hloaded : Loaded true host after)
      (hlinks : links = { ebpfLink := none, directNetlinkLink := none })

theorem attachLoadedProgram_ends (env : HostEnv) (interface : String)
    (options : XdpAttachOptions) (set : Nat) (host : Host) :
    Ends (attachLoadedProgram env interface options set) host (Attached options set host)
      (fun _ => LeftLoaded env options host) := by
  unfold attachLoadedProgram
  have hsame : LeftLoaded env options host host := Or.inl (Kept.refl host)
  cases hstrategy : options.strategy with
  | direct =>
      refine (ensureReplaceable_ends hsame).bind_same fun _ => ?_
      have hload : Ends (withContext "failed to load XDP program" (ask env .loadProgram)) host
          (fun _ after => after = host) (fun _ => LeftLoaded env options host) :=
        withContext_ends (ask_ends hsame fun _ => rfl)
      refine hload.bind_same fun _ => ?_
      refine (attachProgram_ends env interface options.mode options.allowReplace set host).mono
        (fun _ _ hattached => .direct hstrategy hattached) ?_
      intro _ after hafter
      rw [hafter]
      exact hsame
  | dispatcher =>
      refine (attachDispatcherProgram_ends env hstrategy host).bind fun _ after hloaded => ?_
      exact Ends.pure (.dispatcher hstrategy hloaded rfl)

/-- The program that is attached uses the maps that are pinned. -/
theorem Attached.loaded {set : Nat} {links : Links} {after : Host}
    (h : Attached options set host links after) (hpins : host.pins = some set) :
    ∃ dispatcher, Loaded dispatcher host after := by
  cases h with
  | direct hstrategy hattached =>
      obtain ⟨rfl, -⟩ := hattached
      exact ⟨false, ⟨rfl, rfl, rfl⟩, host.nextProgram, by rw [hpins]; rfl⟩
  | dispatcher hstrategy hloaded hlinks => exact ⟨true, hloaded⟩

/-! ## Pinned maps -/

/-- Pins of the wrong type are removed, and nothing happens without pins. -/
structure Cleared (host after : Host) : Prop where
  sets : after.sets = host.sets
  nextSet : after.nextSet = host.nextSet
  pins : after.pins = host.pins ∨ after.pins = none
  unpinned : host.pins = none → after = host

theorem recreateIncompatiblePinnedMaps_ends (env : HostEnv) (interface : String)
    (options : XdpAttachOptions) (host : Host) :
    Ends (recreateIncompatiblePinnedMaps env interface options) host (fun _ => Cleared host)
      (fun _ _ => host.pins ≠ none) := by
  refine Ends.get_bind ?_
  cases hpins : host.pins with
  | none => exact Ends.pure ⟨rfl, rfl, Or.inl rfl, fun _ => rfl⟩
  | some set =>
      have hpinned : some set ≠ none := Option.some_ne_none set
      refine ask_bind hpinned fun _ => ?_
      -- Maps of the right kind stay; the pins of others go once no program uses them.
      split
      · exact Ends.pure ⟨rfl, rfl, Or.inl rfl, fun _ => rfl⟩
      · have hclear : Ends (clearIncompatible env interface options) host
            (fun _ => SameSets host) (fun _ _ => some set ≠ none) := by
          unfold clearIncompatible
          cases options.strategy with
          | direct =>
              refine (ensureReplaceable_ends hpinned).mono ?_ fun _ _ h => h
              intro _ after hafter
              rw [hafter]
              exact SameSets.refl host
          | dispatcher =>
              exact (unloadDispatcherProgramsByName_ends env .incompatible host).mono
                (fun _ _ h => h.same) fun _ _ _ => hpinned
        refine hclear.bind fun _ after hsame => ask_bind hpinned fun _ => ?_
        refine Ends.modify ⟨hsame.sets, hsame.nextSet, Or.inr rfl, fun hnone => ?_⟩
        rw [hpins] at hnone
        exact absurd hnone hpinned

theorem run_openMaps (sizes : XdpMapSizes) (host : Host) :
    (openMaps sizes).run host =
      match host.pins with
      | some set => .ok set host
      | none => .ok host.nextSet (host.withNewSet sizes) := rfl

theorem loadObject_ends (env : HostEnv) (sizes : XdpMapSizes) (host : Host) :
    Ends (loadObject env sizes) host
      (fun set after => host.pins = some set ∧ after = host ∨
        host.pins = none ∧ set = host.nextSet ∧ after = host.withNewSet sizes)
      (fun _ after => after = host) := by
  refine ask_bind rfl fun _ => ?_
  unfold Ends
  rw [run_openMaps]
  cases host.pins with
  | some set => exact Or.inl ⟨rfl, rfl⟩
  | none => exact Or.inr ⟨rfl, rfl, rfl⟩

/-- The host right after the object is loaded. -/
structure Prepared (sizes : XdpMapSizes) (host : Host) (set : Nat) (before : Host) : Prop where
  pins : before.pins = some set
  sets : before.sets = host.sets ∧ before.nextSet = host.nextSet ∧ host.pins = some set ∨
    set = host.nextSet ∧ before.nextSet = host.nextSet + 1 ∧
      before.sets = Function.update host.sets host.nextSet (MapSet.fresh sizes)
  unpinned : host.pins = none → set = host.nextSet ∧ before = host.withNewSet sizes

theorem loadAndAttach_ends (env : HostEnv) (interface : String) (sizes : XdpMapSizes)
    (options : XdpAttachOptions) (host : Host) :
    Ends (loadAndAttach env interface sizes options) host
      (fun loaded after => ∃ before, Prepared sizes host loaded.1 before ∧
        Attached options loaded.1 before loaded.2 after)
      (fun _ after => host.pins = none →
        after = host ∨ LeftLoaded env options (host.withNewSet sizes) after) := by
  refine ask_bind (fun _ => Or.inl rfl) fun _ => ?_
  have hclear : Ends (recreateIncompatiblePinnedMaps env interface options) host
      (fun _ => Cleared host) (fun _ after => host.pins = none →
        after = host ∨ LeftLoaded env options (host.withNewSet sizes) after) :=
    (recreateIncompatiblePinnedMaps_ends env interface options host).mono (fun _ _ h => h)
      fun _ _ hpinned hnone => absurd hnone hpinned
  refine hclear.bind fun _ cleared hcleared => ?_
  have hload : Ends (loadObject env sizes) cleared (Prepared sizes host) (fun _ after =>
      host.pins = none → after = host ∨ LeftLoaded env options (host.withNewSet sizes) after) := by
    refine (loadObject_ends env sizes cleared).mono ?_ ?_
    -- Either the pinned set is opened again, or a new one is made and pinned.
    · rintro set before (⟨hpins, rfl⟩ | ⟨hnone, rfl, rfl⟩)
      · have hold : host.pins = some set := by
          rcases hcleared.pins with hsame | hgone
          · rw [← hsame, hpins]
          · rw [hgone] at hpins
            cases hpins
        refine ⟨hpins, Or.inl ⟨hcleared.sets, hcleared.nextSet, hold⟩, fun hnone => ?_⟩
        rw [hnone] at hold
        cases hold
      · refine ⟨rfl, Or.inr ⟨hcleared.nextSet, ?_, ?_⟩, fun hnone => ?_⟩
        · rw [← hcleared.nextSet]
          rfl
        · rw [← hcleared.nextSet, ← hcleared.sets]
          rfl
        · rw [hcleared.unpinned hnone]
          exact ⟨rfl, rfl⟩
    · intro _ after hafter hnone
      rw [hafter]
      exact Or.inl (hcleared.unpinned hnone)
  refine hload.bind fun set before hprepared => ?_
  have hattach : Ends (attachLoadedProgram env interface options set) before
      (Attached options set before) (fun _ after => host.pins = none →
        after = host ∨ LeftLoaded env options (host.withNewSet sizes) after) := by
    refine (attachLoadedProgram_ends env interface options set before).mono (fun _ _ h => h) ?_
    intro _ after hleft hnone
    rw [← (hprepared.unpinned hnone).2]
    exact Or.inr hleft
  exact hattach.bind fun links after hattached => Ends.pure ⟨before, hprepared, hattached⟩

theorem buildAttachedManager_ends (env : HostEnv) (interface : String) (sizes : XdpMapSizes)
    (options : XdpAttachOptions) (set : Nat) (links : Links) (host : Host) :
    Ends (buildAttachedManager env interface sizes options set links) host
      (fun m after => after = writeDropConfig set false host ∧
        m =
          { interface := interface
            options := options
            set := set
            mapSizes := { (host.sets set).sizes with rateEntries := sizes.rateEntries }
            localInterfaceCidrs := env.localInterfaceCidrs
            links := links })
      (fun _ after => after = host) := by
  refine ask_bind rfl fun _ => ask_bind rfl fun _ => Ends.get_bind (ask_bind rfl fun _ => ?_)
  have hwrite : Ends (setDropConfig env .resetDropConfig set false) host
      (fun _ after => after = writeDropConfig set false host) (fun _ after => after = host) :=
    ask_bind rfl fun _ => Ends.modify rfl
  refine hwrite.bind fun _ after hafter => ?_
  exact Ends.pure ⟨hafter, rfl⟩

/-! ## What an attach leaves behind -/

/-- An attach that ends well. -/
structure AttachDone (interface : String) (sizes : XdpMapSizes) (options : XdpAttachOptions)
    (host : Host) (m : XdpManager) (after : Host) : Prop where
  options_eq : m.options = options
  interface_eq : m.interface = interface
  pins : after.pins = some m.set
  program : ∃ id dispatcher,
    after.program = some { id := id, set := some m.set, dispatcher := dispatcher }
  direct : options.strategy = .direct → ∃ id,
    after.program = some { id := id, set := some m.set, dispatcher := false } ∧
      (m.links = { ebpfLink := some id, directNetlinkLink := none } ∨
        options.allowReplace = true ∧
          m.links = { ebpfLink := none, directNetlinkLink := some id })
  dropConfig : (after.sets m.set).dropConfig = 0
  nextSet : (∀ set, host.pins = some set → set < host.nextSet) → m.set < after.nextSet
  new : host.pins = none → m.set = host.nextSet ∧
    after.sets = Function.update host.sets host.nextSet (MapSet.fresh sizes) ∧
      m.mapSizes = sizes

/-- The calls that undo a failed attach end well. A dispatcher's program also stays on the interface
when the check of its maps fails. -/
structure Undoes (env : HostEnv) (strategy : XdpAttachStrategy) : Prop where
  direct : strategy = .direct → env.fails .detach = none
  dispatcher : strategy = .dispatcher →
    env.fails .verifyMaps = none ∧ env.fails (.loaderStatus .rollback) = none ∧
      env.fails (.loaderUnload .rollback) = none
  rollbackPins : env.fails .rollbackPins = none

/-- A failed attach on a host without pins. -/
structure AttachFailed (env : HostEnv) (sizes : XdpMapSizes) (options : XdpAttachOptions)
    (host after : Host) : Prop where
  sets : after.sets = host.sets ∧ after.nextSet = host.nextSet ∨
    after.sets = Function.update host.sets host.nextSet (MapSet.fresh sizes) ∧
      after.nextSet = host.nextSet + 1
  program : after.program = host.program ∨ after.program = none ∨
    ¬ Undoes env options.strategy ∧ after.nextSet = host.nextSet + 1 ∧
      ∃ program, after.program = some program ∧ program.set = some host.nextSet
  pins : Undoes env options.strategy → after.pins = none

/-! ## Dropping and rolling back -/

theorem dropLink_kept (env : HostEnv) (link : Option Nat) (host : Host) :
    Kept host (dropLink env link host) := by
  unfold dropLink
  split
  · split
    · exact ⟨⟨rfl, rfl, rfl⟩, Or.inr rfl⟩
    · exact Kept.refl host
  · exact Kept.refl host

theorem Kept.trans {middle after : Host} (h : Kept host middle) (h' : Kept middle after) :
    Kept host after where
  same := h.same.trans h'.same
  program := by
    rcases h'.program with hsame | hgone
    · rw [hsame]
      exact h.program
    · exact Or.inr hgone

theorem Links.drop_kept (env : HostEnv) (links : Links) (host : Host) :
    Kept host (links.drop env host) :=
  (dropLink_kept env links.directNetlinkLink host).trans (dropLink_kept env links.ebpfLink _)

/-- Dropping its own link takes a program off the interface. -/
theorem dropLink_own {id : Nat} {set : Option Nat} (hdetach : env.fails .detach = none)
    (hprogram : host.program = some { id := id, set := set, dispatcher := false }) :
    (dropLink env (some id) host).program = none := by
  simp [dropLink, hprogram, hdetach]

theorem finalState_of_ends {x : OnHost Unit} {P : Host → Prop}
    (h : Ends x host (fun _ => P) (fun _ => P)) : P (finalState (x.run host)) := by
  unfold Ends at h
  cases hrun : x.run host with
  | ok a after =>
      rw [hrun] at h
      exact h
  | error reason after =>
      rw [hrun] at h
      exact h

theorem rollbackFailedAttach_kept (env : HostEnv) (pinDirExisted dispatcherLoaded : Bool)
    (host : Host) :
    (rollbackFailedAttach env pinDirExisted dispatcherLoaded host).sets = host.sets ∧
      (rollbackFailedAttach env pinDirExisted dispatcherLoaded host).nextSet = host.nextSet ∧
      ((rollbackFailedAttach env pinDirExisted dispatcherLoaded host).program = host.program ∨
        (rollbackFailedAttach env pinDirExisted dispatcherLoaded host).program = none) := by
  have hunload := finalState_of_ends
    (unloadDispatcherProgramsByName_ends env .rollback host)
  unfold rollbackFailedAttach
  cases dispatcherLoaded with
  | true =>
      dsimp only
      split <;> exact ⟨hunload.same.sets, hunload.same.nextSet, hunload.program⟩
  | false =>
      dsimp only
      split <;> exact ⟨rfl, rfl, Or.inl rfl⟩

theorem rollbackFailedAttach_pins (hpins : env.fails .rollbackPins = none)
    (dispatcherLoaded : Bool) :
    (rollbackFailedAttach env false dispatcherLoaded host).pins = none := by
  simp [rollbackFailedAttach, hpins]

/-- The rollback takes our program out of the dispatcher. -/
theorem rollbackFailedAttach_unloads {id set : Nat} (hundoes : Undoes env .dispatcher)
    (hprogram : host.program = some { id := id, set := some set, dispatcher := true }) :
    (rollbackFailedAttach env false true host).program = none := by
  obtain ⟨-, hstatus, hunload⟩ := hundoes.dispatcher rfl
  have hrun : (unloadDispatcherProgramsByName env .rollback).run host =
      .ok () { host with program := none } := by
    simp [unloadDispatcherProgramsByName, ask, hstatus, hunload, hprogram, EStateM.run_bind]
  simp [rollbackFailedAttach, hrun, finalState, hundoes.rollbackPins]

/-! ## The whole attach -/

theorem update_self_fresh {sets : Nat → MapSet} {set : Nat} {sizes : XdpMapSizes} :
    Function.update (Function.update sets set (MapSet.fresh sizes)) set
        { Function.update sets set (MapSet.fresh sizes) set with dropConfig := boolCode false } =
      Function.update sets set (MapSet.fresh sizes) := by
  rw [Function.update_self, Function.update_idem]
  rfl

theorem attachDone_of_attached {sizes : XdpMapSizes} {set : Nat} {links : Links}
    {before loaded : Host} {m : XdpManager} (hprepared : Prepared sizes host set before)
    (hattached : Attached options set before links loaded)
    (hm : m =
      { interface := interface
        options := options
        set := set
        mapSizes := { (loaded.sets set).sizes with rateEntries := sizes.rateEntries }
        localInterfaceCidrs := env.localInterfaceCidrs
        links := links }) :
    AttachDone interface sizes options host m (writeDropConfig set false loaded) := by
  obtain ⟨dispatcher, hloaded⟩ := hattached.loaded hprepared.pins
  obtain ⟨id, hprogram⟩ := hloaded.program
  rw [hprepared.pins] at hprogram
  subst hm
  refine
    { options_eq := rfl
      interface_eq := rfl
      pins := hloaded.same.pins.trans hprepared.pins
      program := ⟨id, dispatcher, hprogram⟩
      direct := fun hdirect => ?_
      dropConfig := ?_
      nextSet := fun hpinned => ?_
      new := fun hnone => ?_ }
  · cases hattached with
    | direct hstrategy hattached =>
        obtain ⟨rfl, hlinks⟩ := hattached
        refine ⟨before.nextProgram, rfl, ?_⟩
        rcases hlinks with ⟨-, hlinks⟩ | hlinks
        · exact Or.inl hlinks
        · exact Or.inr hlinks
    | dispatcher hstrategy hloaded hlinks =>
        rw [hstrategy] at hdirect
        cases hdirect
  · simp [writeDropConfig, boolCode]
  · have hnext : (writeDropConfig set false loaded).nextSet = before.nextSet :=
      hloaded.same.nextSet
    rw [hnext]
    rcases hprepared.sets with ⟨-, hsame, hpins⟩ | ⟨hset, hsame, -⟩
    · rw [hsame]
      exact hpinned set hpins
    · rw [hsame, hset]
      exact Nat.lt_succ_self _
  · obtain ⟨hset, hbefore⟩ := hprepared.unpinned hnone
    have hsets : loaded.sets = Function.update host.sets host.nextSet (MapSet.fresh sizes) := by
      rw [hloaded.same.sets, hbefore]
      rfl
    refine ⟨hset, ?_, ?_⟩
    · rw [writeDropConfig, hsets, hset]
      exact update_self_fresh
    · rw [hsets, hset, Function.update_self]
      rfl

/-- A failure while the object is loaded or the program is attached. -/
theorem attachFailed_of_load {sizes : XdpMapSizes} {failed : Host}
    (hfailed : failed = host ∨ LeftLoaded env options (host.withNewSet sizes) failed)
    (hnone : host.pins = none) :
    AttachFailed env sizes options host (rollbackFailedAttach env false false failed) := by
  obtain ⟨hsets, hnext, hprogram⟩ := rollbackFailedAttach_kept env false false failed
  have hpins (hundoes : Undoes env options.strategy) :
      (rollbackFailedAttach env false false failed).pins = none :=
    rollbackFailedAttach_pins hundoes.rollbackPins false
  rcases hfailed with rfl | hkept | ⟨hstrategy, hverify, hloaded⟩
  · exact ⟨Or.inl ⟨hsets, hnext⟩, hprogram.imp_right Or.inl, hpins⟩
  · refine ⟨Or.inr ⟨hsets.trans hkept.same.sets, hnext.trans hkept.same.nextSet⟩, ?_, hpins⟩
    rcases hprogram with hsame | hgone
    · rcases hkept.program with hsame' | hgone
      · exact Or.inl (hsame.trans hsame')
      · exact Or.inr (Or.inl (hsame.trans hgone))
    · exact Or.inr (Or.inl hgone)
  · refine ⟨Or.inr ⟨hsets.trans hloaded.same.sets, hnext.trans hloaded.same.nextSet⟩, ?_, hpins⟩
    obtain ⟨id, hid⟩ := hloaded.program
    rcases hprogram with hsame | hgone
    · exact Or.inr (Or.inr ⟨fun hundoes => hverify (hundoes.dispatcher hstrategy).1,
        hnext.trans hloaded.same.nextSet, _, hsame.trans hid, rfl⟩)
    · exact Or.inr (Or.inl hgone)

/-- A failure after the program was attached. -/
theorem attachFailed_of_build {sizes : XdpMapSizes} {set : Nat} {links : Links}
    {before loaded : Host} (hprepared : Prepared sizes host set before)
    (hattached : Attached options set before links loaded) (hnone : host.pins = none) :
    AttachFailed env sizes options host
      (rollbackFailedAttach env false (options.strategy = .dispatcher)
        (links.drop env loaded)) := by
  obtain ⟨hset, rfl⟩ := hprepared.unpinned hnone
  obtain ⟨dispatcher, hloaded⟩ := hattached.loaded hprepared.pins
  have hdrop := Links.drop_kept env links loaded
  obtain ⟨hsets, hnext, hprogram⟩ := rollbackFailedAttach_kept env false
    (options.strategy = .dispatcher) (links.drop env loaded)
  have hnext' := hnext.trans (hdrop.same.nextSet.trans hloaded.same.nextSet)
  refine ⟨Or.inr ⟨hsets.trans (hdrop.same.sets.trans hloaded.same.sets), hnext'⟩, ?_,
    fun hundoes => rollbackFailedAttach_pins hundoes.rollbackPins _⟩
  obtain ⟨id, hid⟩ := hloaded.program
  -- Either what was attached is taken off again, or a call that does so failed.
  by_cases hundoes : Undoes env options.strategy
  · refine Or.inr (Or.inl ?_)
    cases hattached with
    | direct hstrategy hattached =>
        have hgone : (links.drop env loaded).program = none := by
          obtain ⟨rfl, hlinks⟩ := hattached
          rcases hlinks with ⟨-, rfl⟩ | ⟨-, rfl⟩
          · exact dropLink_own (hundoes.direct hstrategy) rfl
          · exact dropLink_own (hundoes.direct hstrategy) rfl
        rcases hprogram with hsame | hgone'
        · exact hsame.trans hgone
        · exact hgone'
    | dispatcher hstrategy hloaded' hlinks =>
        have hdispatcher : decide (options.strategy = .dispatcher) = true := by
          rw [hstrategy]
          rfl
        obtain ⟨id', hid'⟩ := hloaded'.program
        subst hlinks
        rw [hdispatcher]
        exact rollbackFailedAttach_unloads (hstrategy ▸ hundoes) hid'
  · rcases hprogram with hsame | hgone
    · rcases hdrop.program with hsame' | hgone
      · exact Or.inr (Or.inr ⟨hundoes, hnext', _, hsame.trans (hsame'.trans hid), rfl⟩)
      · exact Or.inr (Or.inl (hsame.trans hgone))
    · exact Or.inr (Or.inl hgone)

theorem run_attachOrRollBack (env : HostEnv) (interface : String) (sizes : XdpMapSizes)
    (options : XdpAttachOptions) (host : Host) :
    (attachOrRollBack env interface sizes options).run host =
      match (loadAndAttach env interface sizes options).run host with
      | .error reason failed =>
          .error reason (rollbackFailedAttach env host.pins.isSome false failed)
      | .ok (set, links) loaded =>
          match (buildAttachedManager env interface sizes options set links).run loaded with
          | .ok m after => .ok m after
          | .error reason failed =>
              .error reason (rollbackFailedAttach env host.pins.isSome
                (options.strategy = .dispatcher) (links.drop env failed)) := rfl

/-- How an attach ends. -/
theorem attach_ends (env : HostEnv) (interface : String) (sizes : XdpMapSizes)
    (options : XdpAttachOptions) (host : Host) :
    Ends (attach env interface sizes options) host (AttachDone interface sizes options host)
      (fun _ after => host.pins = none → AttachFailed env sizes options host after) := by
  have hsame (hnone : host.pins = none) : AttachFailed env sizes options host host :=
    ⟨Or.inl ⟨rfl, rfl⟩, Or.inl rfl, fun _ => hnone⟩
  refine ask_bind hsame fun _ => ask_bind hsame fun _ => ?_
  have hload := loadAndAttach_ends env interface sizes options host
  unfold Ends at hload ⊢
  rw [run_attachOrRollBack]
  cases hfirst : (loadAndAttach env interface sizes options).run host with
  | error reason failed =>
      rw [hfirst] at hload
      intro hnone
      -- Pins that were there before the attach are kept by a rollback.
      have hno : host.pins.isSome = false := by
        rw [hnone]
        rfl
      rw [hno]
      exact attachFailed_of_load (hload hnone) hnone
  | ok loaded mid =>
      rw [hfirst] at hload
      obtain ⟨before, hprepared, hattached⟩ := hload
      have hbuild := buildAttachedManager_ends env interface sizes options loaded.1 loaded.2 mid
      unfold Ends at hbuild
      dsimp only
      cases hrest : (buildAttachedManager env interface sizes options loaded.1 loaded.2).run
          mid with
      | ok m after =>
          rw [hrest] at hbuild
          obtain ⟨rfl, hm⟩ := hbuild
          exact (attachDone_of_attached hprepared hattached hm :)
      | error reason failed =>
          rw [hrest] at hbuild
          have hfailed : failed = mid := hbuild
          intro hnone
          have hno : host.pins.isSome = false := by
            rw [hnone]
            rfl
          rw [hno, hfailed]
          exact attachFailed_of_build hprepared hattached hnone

end Agent
end XdpFirewall
