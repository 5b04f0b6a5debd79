import XdpFirewall.Agent.Attach

/-!
# Resize — applying a policy that needs larger maps

An apply whose policy does not fit takes the program off, removes the pins and attaches again with
larger maps. Under the direct strategy it takes off only what a replacement has attached, so that
an agent that may not replace programs finds its own program in the way.
-/

namespace XdpFirewall
namespace Agent

open DataPlane Lib Policy

variable {env : HostEnv} {host : Host} {m : XdpManager}

/-! ## How a resize ends -/

/-- The manager has new maps that nobody has written to. -/
structure ResizeDone (resized : XdpMapSizes) (host : Host) (m : XdpManager) (host' : Host)
    (m' : XdpManager) : Prop where
  options : m'.options = m.options
  set : m'.set = host.nextSet
  mapSizes : m'.mapSizes = resized
  sets : host'.sets = Function.update host.sets host.nextSet (MapSet.fresh resized)
  nextSet : m'.set < host'.nextSet
  pins : host'.pins = some m'.set
  program : host'.program = none ∨
    ∃ program, host'.program = some program ∧ program.set = some m'.set

/-- The manager has the maps it had. -/
structure ResizeFailed (env : HostEnv) (resized : XdpMapSizes) (host : Host) (m : XdpManager)
    (host' : Host) (m' : XdpManager) : Prop where
  options : m'.options = m.options
  set : m'.set = m.set
  sets : host'.sets = host.sets ∧ host'.nextSet = host.nextSet ∨
    host'.sets = Function.update host.sets host.nextSet (MapSet.fresh resized) ∧
      host'.nextSet = host.nextSet + 1
  program : host'.program = host.program ∨ host'.program = none ∨
    ¬ Undoes env m.options.strategy ∧ host'.nextSet = host.nextSet + 1 ∧
      ∃ program, host'.program = some program ∧ program.set = some host.nextSet
  pins : Undoes env m.options.strategy → host'.pins = host.pins ∨ host'.pins = none

/-- Detaching leaves the manager its maps. -/
structure Detached (host : Host) (m : XdpManager) (host' : Host) (m' : XdpManager) : Prop where
  kept : Kept host host'
  options : m'.options = m.options
  set : m'.set = m.set
  interface : m'.interface = m.interface

theorem detachForResize_cases (env : HostEnv) (host : Host) (m : XdpManager) :
    ∃ host' m', Detached host m host' m' ∧
      (detachForResize env (host, m) = .ok () (host', m') ∨
        ∃ reason, detachForResize env (host, m) = .error reason (host', m')) := by
  unfold detachForResize
  cases hstrategy : m.options.strategy with
  | direct =>
      exact ⟨dropLink env m.links.directNetlinkLink host,
        { m with links := { m.links with directNetlinkLink := none } },
        ⟨dropLink_kept env m.links.directNetlinkLink host, rfl, rfl, rfl⟩, Or.inl rfl⟩
  | dispatcher =>
      have hunload := unloadDispatcherProgramsByName_ends env .resize host
      unfold Ends at hunload
      dsimp only
      cases hrun : (unloadDispatcherProgramsByName env .resize).run host with
      | ok _ after =>
          rw [hrun] at hunload
          exact ⟨after, m, ⟨hunload, rfl, rfl, rfl⟩, Or.inl rfl⟩
      | error reason after =>
          rw [hrun] at hunload
          exact ⟨after, m, ⟨hunload, rfl, rfl, rfl⟩, Or.inr ⟨reason, rfl⟩⟩

theorem removeMapPinDir_ends (env : HostEnv) (host : Host) :
    Ends (removeMapPinDir env) host (fun _ after => after = { host with pins := none })
      (fun _ after => after = host) :=
  ask_bind rfl fun _ => Ends.modify rfl

/-- Removing the pins and attaching again. -/
theorem removeAndAttach_ends (env : HostEnv) (resized : XdpMapSizes) (host : Host)
    (m : XdpManager) :
    Ends (do
        removeMapPinDir env
        attach env m.interface resized m.options : OnHost XdpManager) host
      (fun m' after => ResizeDone resized host m after m')
      (fun _ after => ResizeFailed env resized host m after m) := by
  have hremove : Ends (removeMapPinDir env) host
      (fun _ after => after = { host with pins := none })
      (fun _ after => ResizeFailed env resized host m after m) := by
    refine (removeMapPinDir_ends env host).mono (fun _ _ h => h) ?_
    intro _ after hafter
    rw [hafter]
    exact ⟨rfl, rfl, Or.inl ⟨rfl, rfl⟩, Or.inl rfl, fun _ => Or.inl rfl⟩
  refine hremove.bind fun _ unpinned hunpinned => ?_
  rw [hunpinned]
  refine (attach_ends env m.interface resized m.options { host with pins := none }).mono ?_ ?_
  · intro m' after hdone
    obtain ⟨hset, hsets, hsizes⟩ := hdone.new rfl
    obtain ⟨id, dispatcher, hprogram⟩ := hdone.program
    exact
      { options := hdone.options_eq
        set := hset
        mapSizes := hsizes
        sets := hsets
        nextSet := hdone.nextSet nofun
        pins := hdone.pins
        program := Or.inr ⟨_, hprogram, rfl⟩ }
  · intro _ after hfailed
    obtain ⟨hsets, hprogram, hpins⟩ := hfailed rfl
    exact ⟨rfl, rfl, hsets, hprogram, fun hundoes => Or.inr (hpins hundoes)⟩

theorem run_resizeMaps (env : HostEnv) (resized : XdpMapSizes) (s : Host × XdpManager) :
    (resizeMaps env resized).run s =
      match detachForResize env s with
      | .error reason s => .error reason s
      | .ok _ s =>
          match (do
              removeMapPinDir env
              attach env s.2.interface resized s.2.options : OnHost XdpManager).run s.1 with
          | .error reason host => .error reason (host, s.2)
          | .ok replacement host => .ok () (s.2.links.drop env host, replacement) := rfl

theorem resizeMaps_ends (env : HostEnv) (resized : XdpMapSizes) (host : Host) (m : XdpManager) :
    Ends (resizeMaps env resized) (host, m)
      (fun _ after => ResizeDone resized host m after.1 after.2)
      (fun _ after => ResizeFailed env resized host m after.1 after.2) := by
  obtain ⟨host₁, m₁, hdetached, hrun⟩ := detachForResize_cases env host m
  have hback {host' : Host} {m' : XdpManager} (h : ResizeFailed env resized host₁ m₁ host' m') :
      ResizeFailed env resized host m host' m' := by
    have hsame := hdetached.kept.same
    refine
      { options := h.options.trans hdetached.options
        set := h.set.trans hdetached.set
        sets := ?_
        program := ?_
        pins := ?_ }
    · rw [← hsame.sets, ← hsame.nextSet]
      exact h.sets
    · rw [← hsame.nextSet, ← hdetached.options]
      rcases h.program with hkept | hgone | hnew
      · rcases hdetached.kept.program with hkept' | hgone
        · exact Or.inl (hkept.trans hkept')
        · exact Or.inr (Or.inl (hkept.trans hgone))
      · exact Or.inr (Or.inl hgone)
      · exact Or.inr (Or.inr hnew)
    · rw [← hsame.pins, ← hdetached.options]
      exact h.pins
  unfold Ends
  rw [run_resizeMaps]
  rcases hrun with hrun | ⟨reason, hrun⟩
  · rw [hrun]
    have hattach := removeAndAttach_ends env resized host₁ m₁
    unfold Ends at hattach
    dsimp only
    cases hresult : (do
        removeMapPinDir env
        attach env m₁.interface resized m₁.options : OnHost XdpManager).run host₁ with
    | error reason after =>
        rw [hresult] at hattach
        exact hback hattach
    | ok replacement after =>
        rw [hresult] at hattach
        have hsame := hdetached.kept.same
        have hdrop := Links.drop_kept env m₁.links after
        refine
          { options := hattach.options.trans hdetached.options
            set := hattach.set.trans hsame.nextSet
            mapSizes := hattach.mapSizes
            sets := ?_
            nextSet := hdrop.same.nextSet ▸ hattach.nextSet
            pins := hdrop.same.pins.trans hattach.pins
            program := ?_ }
        · rw [← hsame.sets, ← hsame.nextSet]
          exact hdrop.same.sets.trans hattach.sets
        · rcases hdrop.program with hkept | hgone
          · rw [hkept]
            exact hattach.program
          · exact Or.inl hgone
  · rw [hrun]
    exact hback ⟨rfl, rfl, Or.inl ⟨rfl, rfl⟩, Or.inl rfl, fun _ => Or.inl rfl⟩

/-! ## How an apply ends -/

/-- What an apply comes down to: it fails before it touches a map, or it writes to the maps the
manager has, which are the old ones or new ones. -/
inductive ApplyMove (env : HostEnv) (policy : CompiledPolicy) (host : Host) (m : XdpManager) :
    EStateM.Result (Fault ApplyError) (Host × XdpManager) Unit → Prop
  | sizes (e : ApplyError) (hsizes : resizeOf (m.view host) policy = .error e) :
      ApplyMove env policy host m (.error (.error e) (host, m))
  | inPlace (hsizes : resizeOf (m.view host) policy = .ok none) :
      ApplyMove env policy host m ((applyToMaps env policy).run (host, m))
  | resizeFailed (resized : XdpMapSizes) (reason : String) (host' : Host) (m' : XdpManager)
      (hsizes : resizeOf (m.view host) policy = .ok (some resized))
      (hresize : (resizeMaps env resized).run (host, m) = .error reason (host', m'))
      (hfailed : ResizeFailed env resized host m host' m') :
      ApplyMove env policy host m (.error (.error (.attach reason)) (host', m'))
  | resized (resized : XdpMapSizes) (host' : Host) (m' : XdpManager)
      (hsizes : resizeOf (m.view host) policy = .ok (some resized))
      (hresize : (resizeMaps env resized).run (host, m) = .ok () (host', m'))
      (hdone : ResizeDone resized host m host' m') :
      ApplyMove env policy host m ((applyToMaps env policy).run (host', m'))

theorem run_apply (env : HostEnv) (policy : CompiledPolicy) (host : Host) (m : XdpManager) :
    (apply env policy).run (host, m) =
      match resizeOf (m.view host) policy with
      | .error e => .error (.error e) (host, m)
      | .ok none => (applyToMaps env policy).run (host, m)
      | .ok (some resized) =>
          match (resizeMaps env resized).run (host, m) with
          | .error reason s => .error (.error (.attach reason)) s
          | .ok _ s => (applyToMaps env policy).run s := rfl

theorem apply_move (env : HostEnv) (policy : CompiledPolicy) (host : Host) (m : XdpManager) :
    ApplyMove env policy host m ((apply env policy).run (host, m)) := by
  rw [run_apply]
  cases hsizes : resizeOf (m.view host) policy with
  | error e => exact .sizes e hsizes
  | ok size =>
      cases size with
      | none => exact .inPlace hsizes
      | some resized =>
          have hends := resizeMaps_ends env resized host m
          unfold Ends at hends
          dsimp only
          cases hresize : (resizeMaps env resized).run (host, m) with
          | ok _ after =>
              rw [hresize] at hends
              exact .resized resized after.1 after.2 hsizes hresize hends
          | error reason after =>
              rw [hresize] at hends
              exact .resizeFailed resized reason after.1 after.2 hsizes hresize hends

/-! ## Direct agents that may not replace programs -/

/-- A manager whose program was attached directly to an interface without a program. -/
structure AttachedDirect (host : Host) (m : XdpManager) : Prop where
  strategy : m.options.strategy = .direct
  allowReplace : m.options.allowReplace = false
  directNetlinkLink : m.links.directNetlinkLink = none
  program : ∃ id, m.links.ebpfLink = some id ∧
    host.program = some { id := id, set := some m.set, dispatcher := false }
  set_lt : m.set < host.nextSet

/-- Every attach with these options that ends well gives such a manager. -/
theorem attachedDirect_of_attach {interface : String} {sizes : XdpMapSizes}
    {options : XdpAttachOptions} {start : Host} (hdirect : options.strategy = .direct)
    (hkeeps : options.allowReplace = false)
    (hpinned : ∀ set, start.pins = some set → set < start.nextSet)
    (hrun : (attach env interface sizes options).run start = .ok m host) :
    AttachedDirect host m := by
  have hdone := (attach_ends env interface sizes options start).of_ok hrun
  obtain ⟨id, hprogram, hlinks⟩ := hdone.direct hdirect
  have hlinks : m.links = { ebpfLink := some id, directNetlinkLink := none } := by
    rcases hlinks with hlinks | ⟨hreplaces, -⟩
    · exact hlinks
    · rw [hkeeps] at hreplaces
      cases hreplaces
  exact
    { strategy := by rw [hdone.options_eq, hdirect]
      allowReplace := by rw [hdone.options_eq, hkeeps]
      directNetlinkLink := by rw [hlinks]
      program := ⟨id, by rw [hlinks], hprogram⟩
      set_lt := hdone.nextSet hpinned }

/-- All calls and commands end well. -/
def AllSucceed (env : HostEnv) : Prop :=
  ∀ call, env.fails call = none

/-- `ip -details` names the program of an interface. -/
def ShowsPrograms (env : HostEnv) : Prop :=
  ∀ program, ∃ existing, existingXdpSummary (env.ipLinkShow (some program)) = some existing

theorem run_ask (hsucceed : AllSucceed env) (call : HostCall) (host : Host) :
    (ask env call).run host = .ok () host := by
  rw [ask, hsucceed call]
  rfl

/-- The object is loaded, and then the own program is found on the interface. -/
theorem run_loadAndAttach_occupied {interface : String} {options : XdpAttachOptions}
    {program : Program} (hsucceed : AllSucceed env) (hshows : ShowsPrograms env)
    (hdirect : options.strategy = .direct) (hkeeps : options.allowReplace = false)
    (hpins : host.pins = none) (hprogram : host.program = some program)
    (sizes : XdpMapSizes) :
    ∃ reason, (loadAndAttach env interface sizes options).run host =
      .error reason (host.withNewSet sizes) := by
  obtain ⟨existing, hexisting⟩ := hshows program
  have hload : (loadObject env sizes).run host = .ok host.nextSet (host.withNewSet sizes) := by
    rw [loadObject, EStateM.run_bind, run_ask hsucceed]
    simp only [openMaps, EStateM.run, hpins]
  have hrecreate : (recreateIncompatiblePinnedMaps env interface options).run host =
      .ok () host := by
    simp only [recreateIncompatiblePinnedMaps, EStateM.run_bind, EStateM.run_get, hpins,
      EStateM.run_pure]
  have hprogram' : (host.withNewSet sizes).program = some program := hprogram
  have hattach : ∃ reason, (attachLoadedProgram env interface options host.nextSet).run
      (host.withNewSet sizes) = .error reason (host.withNewSet sizes) := by
    simp only [attachLoadedProgram, hdirect, attachDirectProgram, ensureReplaceable, hkeeps,
      ensureNoExistingXdp, EStateM.run_bind, run_ask hsucceed, EStateM.run_get, hprogram',
      hexisting, EStateM.run_throw, Bool.false_eq_true, if_false]
    exact ⟨_, rfl⟩
  obtain ⟨reason, hattach⟩ := hattach
  refine ⟨reason, ?_⟩
  simp only [loadAndAttach, EStateM.run_bind, run_ask hsucceed, hrecreate, hload, hattach]

/-- The resize stops after the pins are gone. -/
theorem run_resizeMaps_occupied (hsucceed : AllSucceed env) (hshows : ShowsPrograms env)
    (h : AttachedDirect host m) (resized : XdpMapSizes) :
    ∃ reason, (resizeMaps env resized).run (host, m) =
      .error reason
        ({ host.withNewSet resized with pins := none },
          { m with links := { m.links with directNetlinkLink := none } }) := by
  obtain ⟨id, -, hprogram⟩ := h.program
  have hdetach : detachForResize env (host, m) =
      .ok () (host, { m with links := { m.links with directNetlinkLink := none } }) := by
    rw [detachForResize, h.strategy, h.directNetlinkLink]
    rfl
  have hunpinned : ({ host with pins := none } : Host).program =
      some { id := id, set := some m.set, dispatcher := false } := hprogram
  obtain ⟨reason, hload⟩ :=
    @run_loadAndAttach_occupied env { host with pins := none } m.interface m.options _ hsucceed
      hshows h.strategy h.allowReplace rfl hunpinned resized
  have hattach : (attach env m.interface resized m.options).run { host with pins := none } =
      .error reason (rollbackFailedAttach env false false
        (({ host with pins := none } : Host).withNewSet resized)) := by
    simp only [attach, EStateM.run_bind, run_ask hsucceed]
    simp only [attachOrRollBack, EStateM.run] at hload ⊢
    rw [hload]
    rfl
  have hremove : (removeMapPinDir env).run host = .ok () { host with pins := none } := by
    rw [removeMapPinDir, EStateM.run_bind, run_ask hsucceed]
    rfl
  have hrollback : rollbackFailedAttach env false false
      (({ host with pins := none } : Host).withNewSet resized) =
      { host.withNewSet resized with pins := none } := by
    simp [rollbackFailedAttach, hsucceed .rollbackPins, Host.withNewSet]
  refine ⟨reason, ?_⟩
  have hboth : (do
      removeMapPinDir env
      attach env m.interface resized m.options : OnHost XdpManager).run host =
      .error reason { host.withNewSet resized with pins := none } := by
    rw [EStateM.run_bind, hremove]
    dsimp only
    rw [hattach, hrollback]
  simp only [resizeMaps, EStateM.run] at hboth ⊢
  rw [hdetach]
  dsimp only
  rw [hboth]

/-- A resize completes: the apply ends with the program attached and the policy in maps of the new
sizes, and no failure leaves the interface without pins. -/
structure ResizeCompletes (env : HostEnv) (policy : CompiledPolicy) (host : Host)
    (m : XdpManager) (resized : XdpMapSizes) : Prop where
  applied : ∃ host' m', (apply env policy).run (host, m) = .ok () (host', m') ∧
    (∃ program, host'.program = some program ∧ program.set = some m'.set) ∧
    (host'.sets m'.set).sizes = resized ∧
    ∃ before, (applyToCurrentMaps env.applyEnv policy).run before = .ok () (m'.view host')
  pinned : ∀ e host' m', (apply env policy).run (host, m) = .error e (host', m') →
    host'.pins ≠ none

/-- What happens instead: the pins are gone, and the program goes on with the maps it had. -/
theorem run_apply_occupied {policy : CompiledPolicy} {resized : XdpMapSizes}
    (hsucceed : AllSucceed env) (hshows : ShowsPrograms env) (h : AttachedDirect host m)
    (hsizes : resizeOf (m.view host) policy = .ok (some resized)) :
    ∃ reason host' m', (apply env policy).run (host, m) =
        .error (.error (.attach reason)) (host', m') ∧
      host'.pins = none ∧ host'.program = host.program ∧ m'.set = m.set ∧
      host'.sets m.set = host.sets m.set := by
  obtain ⟨reason, hresize⟩ := run_resizeMaps_occupied hsucceed hshows h resized
  refine ⟨reason, { host.withNewSet resized with pins := none },
    { m with links := { m.links with directNetlinkLink := none } }, ?_, rfl, rfl, rfl, ?_⟩
  · simp only [EStateM.run] at hresize
    simp only [apply, EStateM.run, hsizes, hresize]
  · exact Function.update_of_ne (Nat.ne_of_lt h.set_lt) _ _

/-- An agent that attached its program directly and may not replace programs never completes a
resize: its own program is in the way of the attach. -/
theorem not_resizeCompletes {policy : CompiledPolicy} {resized : XdpMapSizes}
    (hsucceed : AllSucceed env) (hshows : ShowsPrograms env) (h : AttachedDirect host m)
    (hsizes : resizeOf (m.view host) policy = .ok (some resized)) :
    ¬ ResizeCompletes env policy host m resized := by
  intro hcompletes
  obtain ⟨reason, host', m', hrun, hpins, -⟩ := run_apply_occupied hsucceed hshows h hsizes
  exact hcompletes.pinned _ host' m' hrun hpins

/-! ### An agent with maps for one country -/

def oneEntry : XdpMapSizes where
  ruleEntries := 1
  geoEntries := 1
  trustedEntries := 1
  countryEntries := 1
  rateEntries := 1
  customRateLimitEntries := 1
  tempBanEntries := 1

def twoCountries : XdpMapSizes :=
  { oneEntry with countryEntries := 2 }

/-- Deny two countries. -/
def twoCountryPolicy : CompiledPolicy :=
  { CompiledPolicy.unloaded 1 with
    countryRules := [{ country := 1, action := .deny }, { country := 2, action := .deny }] }

def directOptions : XdpAttachOptions where
  mode := .driver
  strategy := .direct
  allowReplace := false
  autoResizeMaps := true

/-- Two lines of `ip -details`. -/
def shownProgram : List Char :=
  ['e', 't', 'h', '0', '\n', 'p', 'r', 'o', 'g', '/', 'x', 'd', 'p', ' ', 'i', 'd']

/-- A host on which everything succeeds and `ip` names the program of the interface. -/
def quietHostEnv : HostEnv where
  fails _ := none
  ipLinkShow program := if program.isSome then shownProgram else ['e', 't', 'h', '0']
  programId program _ := program.map Program.id
  localInterfaceCidrs := []
  wallNow := 0
  clockGettime := some (1, 0)
  granted := none

def blankHost : Host where
  sets _ := MapSet.fresh oneEntry
  nextSet := 0
  pins := none
  program := none
  nextProgram := 0

/-- The manager of the first attach, and the host after it. -/
def ownManager : XdpManager where
  interface := "eth0"
  options := directOptions
  set := 0
  mapSizes := oneEntry
  localInterfaceCidrs := []
  links := { ebpfLink := some 0, directNetlinkLink := none }

theorem exists_ownHost : ∃ ownHost,
    (attach quietHostEnv "eth0" oneEntry directOptions).run blankHost = .ok ownManager ownHost ∧
      resizeOf (ownManager.view ownHost) twoCountryPolicy = .ok (some twoCountries) :=
  ⟨_, rfl, by decide⟩

theorem attachedDirect_own {ownHost : Host}
    (hattach : (attach quietHostEnv "eth0" oneEntry directOptions).run blankHost =
      .ok ownManager ownHost) : AttachedDirect ownHost ownManager := by
  refine attachedDirect_of_attach rfl rfl ?_ hattach
  intro set hset
  cases hset

theorem quietHostEnv_showsPrograms : ShowsPrograms quietHostEnv :=
  fun _ => ⟨"prog/xdp id", (by decide : existingXdpSummary shownProgram = some "prog/xdp id")⟩

/-- The second country needs larger maps, and the agent ends without pins. -/
theorem two_countries_unpinned : ∃ ownHost,
    (attach quietHostEnv "eth0" oneEntry directOptions).run blankHost = .ok ownManager ownHost ∧
      AllSucceed quietHostEnv ∧
      resizeOf (ownManager.view ownHost) twoCountryPolicy = .ok (some twoCountries) ∧
      ¬ ResizeCompletes quietHostEnv twoCountryPolicy ownHost ownManager twoCountries := by
  obtain ⟨ownHost, hattach, hsizes⟩ := exists_ownHost
  refine ⟨ownHost, hattach, fun _ => rfl, hsizes, fun hcompletes => ?_⟩
  obtain ⟨_, host', m', hrun, hpins, -⟩ := run_apply_occupied (fun _ => rfl)
    quietHostEnv_showsPrograms (attachedDirect_own hattach) hsizes
  exact hcompletes.pinned _ host' m' hrun hpins

theorem not_resizeCompletes_two_countries : ∃ ownHost,
    AttachedDirect ownHost ownManager ∧
      ¬ ResizeCompletes quietHostEnv twoCountryPolicy ownHost ownManager twoCountries := by
  obtain ⟨ownHost, hattach, hsizes⟩ := exists_ownHost
  have hattached := attachedDirect_own hattach
  exact ⟨ownHost, hattached,
    not_resizeCompletes (fun _ => rfl) quietHostEnv_showsPrograms hattached hsizes⟩

end Agent
end XdpFirewall
