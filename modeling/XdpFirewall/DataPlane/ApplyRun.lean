import XdpFirewall.DataPlane.Apply

/-!
# ApplyRun — how an apply can end

An apply runs to its end, fails to convert a ban's expiry, or finds a map full. Which of the
three it is depends on the old and the pending keys alone. At its end every map holds the pending
entries and those old entries whose key user space takes for a pending one.
-/

namespace XdpFirewall
namespace DataPlane

open Net Policy Lib

/-! ## Entries to write -/

def ruleEntry (item : RuleKey × XdpPrefixRule) : RuleKey × RuleValue :=
  (item.1, ruleValue item.2)

def geoEntry (item : GeoKey × XdpGeoPrefix) : GeoKey × GeoValue :=
  (item.1, geoValue item.2)

def trustedEntry (key : TrustedKey) : TrustedKey × TrustedValue :=
  (key, trustedValue)

def countryEntry (item : U32 × XdpCountryRule) : U32 × CountryValue :=
  (item.1, countryValue item.2)

def customRateEntry (item : CustomRateKey × XdpDynamicRateLimit) :
    CustomRateKey × CustomRateValue :=
  (item.1, customRateValue item.2)

/-- The entry of one ban, when its expiry can be converted and lies ahead. -/
def tempBanEntry (wallNow : Int) (monotonicNow : U64) (item : TempBanKey × XdpTempBan) :
    Except ApplyError (Option (TempBanKey × TempBanValue)) :=
  (tempBanValue item.2 wallNow monotonicNow).map (Option.map (Prod.mk item.1))

namespace PendingPolicyKeys

variable (pending : PendingPolicyKeys)

def ruleEntries : List (RuleKey × RuleValue) :=
  pending.rules.items.map ruleEntry

def geoEntries : List (GeoKey × GeoValue) :=
  pending.geoPrefixes.items.map geoEntry

def trustedEntries : List (TrustedKey × TrustedValue) :=
  pending.trustedKeys.items.map trustedEntry

def countryEntries : List (U32 × CountryValue) :=
  pending.countryRules.items.map countryEntry

def customRateEntries : List (CustomRateKey × CustomRateValue) :=
  pending.customRateLimits.items.map customRateEntry

/-- The entries of the bans before the first one whose expiry overflows. -/
def tempBanEntries (wallNow : Int) (monotonicNow : U64) : List (TempBanKey × TempBanValue) :=
  KeyedStore.computed (tempBanEntry wallNow monotonicNow) pending.tempBans.items

end PendingPolicyKeys

open PendingPolicyKeys

/-! ## One loop -/

/-- The loop over the bans, as a computation on their map. -/
def writeTempBans (sizes : XdpMapSizes) (wallNow : Int) (monotonicNow : U64)
    (items : List (TempBanKey × XdpTempBan)) :
    EStateM ApplyError (LpmTrie TempBanData TempBanValue) Unit :=
  forM items (KeyedStore.putComputed (.mapFull "temp_bans") sizes.tempBanEntries
    (tempBanEntry wallNow monotonicNow))

theorem forM_putTempBanKey (sizes : XdpMapSizes) (wallNow : Int) (monotonicNow : U64)
    (items : List (TempBanKey × XdpTempBan)) :
    (forM items fun item => putTempBanKey sizes item.1 item.2 wallNow monotonicNow) =
      focus LinuxXdpManager.tempBans (writeTempBans sizes wallNow monotonicNow items) := by
  rw [writeTempBans, ← forM_focus]
  congr 1
  funext item
  unfold putTempBanKey KeyedStore.putComputed tempBanEntry
  cases tempBanValue item.2 wallNow monotonicNow with
  | error e =>
      exact (focus_throw _ e).symm
  | ok value =>
      cases value with
      | none => exact (focus_pure _ _).symm
      | some value => rfl

section Loop

variable {K V I A : Type} [DecidableEq I] {ident : K → I}
  (part : Part LinuxXdpManager (KeyedStore K V ident)) (f : A → K × V)
  {full : ApplyError} {cap : Nat} {l : List A} {m : LinuxXdpManager} {loop : Apply Unit}
  {rest : Unit → Apply Unit}

/-- With room for its entries, a loop over one map writes them and what follows sees them. -/
theorem run_loop_bind_ok (hcap : (part.get m).size ≤ cap)
    (hroom : ((part.get m).setAll (l.map f)).size ≤ cap)
    (hloop : loop = forM l fun a => focus part (KeyedStore.put full cap (f a).1 (f a).2)) :
    (loop >>= rest).run m = (rest ()).run (part.set ((part.get m).setAll (l.map f)) m) := by
  rw [EStateM.run_bind, hloop, forM_focus, run_focus, KeyedStore.run_forM_put_ok hcap hroom]

/-- Without room it ends the whole run. -/
theorem run_loop_bind_full (hcap : (part.get m).size ≤ cap)
    (hroom : ¬ ((part.get m).setAll (l.map f)).size ≤ cap)
    (hloop : loop = forM l fun a => focus part (KeyedStore.put full cap (f a).1 (f a).2)) :
    ∃ m', (loop >>= rest).run m = .error full m' := by
  obtain ⟨s', hrun⟩ : ∃ s', (forM l fun a => KeyedStore.put full cap (f a).1 (f a).2).run
      (part.get m) = .error full s' := KeyedStore.run_forM_put_full hcap hroom
  rw [EStateM.run_bind, hloop, forM_focus, run_focus, hrun]
  exact ⟨_, rfl⟩

/-- When the whole run ends well, so did the loop. -/
theorem run_loop_bind_inv {m' : LinuxXdpManager}
    (hloop : loop = forM l fun a => focus part (KeyedStore.put full cap (f a).1 (f a).2))
    (h : (loop >>= rest).run m = .ok () m') :
    (rest ()).run (part.set ((part.get m).setAll (l.map f)) m) = .ok () m' := by
  rw [EStateM.run_bind, hloop, forM_focus, run_focus] at h
  cases hrun : (forM l fun a => KeyedStore.put full cap (f a).1 (f a).2).run (part.get m) with
  | ok u s =>
      rw [hrun, KeyedStore.run_forM_put_inv hrun] at h
      exact h
  | error e s =>
      rw [hrun] at h
      cases h

end Loop

/-! ## The sweep -/

/-- The maps after the stale keys are gone. -/
def swept (m : LinuxXdpManager) (pending : PendingPolicyKeys) : LinuxXdpManager :=
  { m with
    maps :=
      { m.maps with
        ruleCidrs := m.maps.ruleCidrs.retain fun key => ruleKeyId key ∈ pending.rules.ids
        geoCidrs := m.maps.geoCidrs.retain fun key => geoKeyId key ∈ pending.geoPrefixes.ids
        trustedCidrs :=
          m.maps.trustedCidrs.retain fun key => trustedKeyId key ∈ pending.trustedKeys.ids
        countryRules := m.maps.countryRules.retain fun key => key ∈ pending.countryRules.ids
        customRateLimits :=
          m.maps.customRateLimits.retain fun key =>
            customRateKeyId key ∈ pending.customRateLimits.ids
        tempBans := m.maps.tempBans.retain fun key => tempBanKeyId key ∈ pending.tempBans.ids } }

theorem run_removeStalePolicyKeys (m : LinuxXdpManager) (pending : PendingPolicyKeys) :
    (removeStalePolicyKeys pending).run m = .ok () (swept m pending) := by
  simp only [removeStalePolicyKeys, removeStaleRuleKeys, removeStaleGeoKeys,
    removeStaleTrustedKeys, removeStaleCountryKeys, removeStaleCustomRateKeys,
    removeStaleTempBanKeys, EStateM.run_bind, run_focus, KeyedStore.run_sweep]
  rfl

/-! ## All loops -/

/-- There is room in the old map for the entries of the bans next to the old ones. -/
def RoomForBans (m : LinuxXdpManager) (bans : List (TempBanKey × TempBanValue)) : Prop :=
  (m.maps.tempBans.setAll bans).size ≤ m.mapSizes.tempBanEntries

/-- There is room in the other five maps for old and pending entries together. -/
structure RoomForRest (m : LinuxXdpManager) (pending : PendingPolicyKeys) : Prop where
  customRate : (m.maps.customRateLimits.setAll pending.customRateEntries).size ≤
    m.mapSizes.customRateLimitEntries
  trusted : (m.maps.trustedCidrs.setAll pending.trustedEntries).size ≤ m.mapSizes.trustedEntries
  rules : (m.maps.ruleCidrs.setAll pending.ruleEntries).size ≤ m.mapSizes.ruleEntries
  geo : (m.maps.geoCidrs.setAll pending.geoEntries).size ≤ m.mapSizes.geoEntries
  country : (m.maps.countryRules.setAll pending.countryEntries).size ≤ m.mapSizes.countryEntries

/-- The maps with old and pending entries, before the sweep. -/
def written (m : LinuxXdpManager) (pending : PendingPolicyKeys)
    (bans : List (TempBanKey × TempBanValue)) : LinuxXdpManager :=
  { m with
    maps :=
      { m.maps with
        ruleCidrs := m.maps.ruleCidrs.setAll pending.ruleEntries
        geoCidrs := m.maps.geoCidrs.setAll pending.geoEntries
        trustedCidrs := m.maps.trustedCidrs.setAll pending.trustedEntries
        countryRules := m.maps.countryRules.setAll pending.countryEntries
        customRateLimits := m.maps.customRateLimits.setAll pending.customRateEntries
        tempBans := m.maps.tempBans.setAll bans } }

/-- The state after the loop over the bans. -/
def afterBans (m : LinuxXdpManager) (bans : List (TempBanKey × TempBanValue)) :
    LinuxXdpManager :=
  { m with maps.tempBans := m.maps.tempBans.setAll bans }

/-- The five loops after the one over the bans. -/
def writeRest (sizes : XdpMapSizes) (pending : PendingPolicyKeys) : Apply Unit := do
  forM pending.customRateLimits.items fun item => putCustomRateKey sizes item.1 item.2
  forM pending.trustedKeys.items fun key => putTrustedKey sizes key
  forM pending.rules.items fun item => putRuleKey sizes item.1 item.2
  forM pending.geoPrefixes.items fun item => putGeoKey sizes item.1 item.2
  forM pending.countryRules.items fun item => putCountryKey sizes item.1 item.2
  removeStalePolicyKeys pending

theorem run_writeRest_ok {m : LinuxXdpManager} {pending : PendingPolicyKeys}
    (hcap : m.WithinCapacity) (hroom : RoomForRest m pending) :
    (writeRest m.mapSizes pending).run m =
      .ok () (swept (written m pending []) pending) := by
  refine Eq.trans (run_loop_bind_ok LinuxXdpManager.customRateLimits
    customRateEntry hcap.customRate hroom.customRate rfl) ?_
  refine Eq.trans (run_loop_bind_ok LinuxXdpManager.trustedCidrs
    trustedEntry hcap.trusted hroom.trusted rfl) ?_
  refine Eq.trans (run_loop_bind_ok LinuxXdpManager.ruleCidrs
    ruleEntry hcap.rules hroom.rules rfl) ?_
  refine Eq.trans (run_loop_bind_ok LinuxXdpManager.geoCidrs
    geoEntry hcap.geo hroom.geo rfl) ?_
  refine Eq.trans (run_loop_bind_ok LinuxXdpManager.countryRules
    countryEntry hcap.country hroom.country rfl) ?_
  exact run_removeStalePolicyKeys _ _

/-- A run that ends with a full map, whichever it is. -/
def EndsFull (r : EStateM.Result ApplyError LinuxXdpManager Unit) : Prop :=
  ∃ map m', r = .error (.mapFull map) m'

theorem EndsFull.of_eq {r r' : EStateM.Result ApplyError LinuxXdpManager Unit} (heq : r = r')
    (h : EndsFull r') : EndsFull r :=
  heq ▸ h

theorem run_writeRest_full {m : LinuxXdpManager} {pending : PendingPolicyKeys}
    (hcap : m.WithinCapacity) (hroom : ¬ RoomForRest m pending) :
    EndsFull ((writeRest m.mapSizes pending).run m) := by
  -- The first loop without room ends the run; before it, every loop has written its entries.
  by_cases hcustom : (m.maps.customRateLimits.setAll pending.customRateEntries).size ≤
      m.mapSizes.customRateLimitEntries
  swap
  · exact ⟨_, run_loop_bind_full LinuxXdpManager.customRateLimits customRateEntry
      hcap.customRate hcustom rfl⟩
  refine EndsFull.of_eq (run_loop_bind_ok LinuxXdpManager.customRateLimits customRateEntry
    hcap.customRate hcustom rfl) ?_
  by_cases htrusted : (m.maps.trustedCidrs.setAll pending.trustedEntries).size ≤
      m.mapSizes.trustedEntries
  swap
  · exact ⟨_, run_loop_bind_full LinuxXdpManager.trustedCidrs trustedEntry
      hcap.trusted htrusted rfl⟩
  refine EndsFull.of_eq (run_loop_bind_ok LinuxXdpManager.trustedCidrs trustedEntry
    hcap.trusted htrusted rfl) ?_
  by_cases hrules : (m.maps.ruleCidrs.setAll pending.ruleEntries).size ≤ m.mapSizes.ruleEntries
  swap
  · exact ⟨_, run_loop_bind_full LinuxXdpManager.ruleCidrs ruleEntry hcap.rules hrules rfl⟩
  refine EndsFull.of_eq (run_loop_bind_ok LinuxXdpManager.ruleCidrs ruleEntry
    hcap.rules hrules rfl) ?_
  by_cases hgeo : (m.maps.geoCidrs.setAll pending.geoEntries).size ≤ m.mapSizes.geoEntries
  swap
  · exact ⟨_, run_loop_bind_full LinuxXdpManager.geoCidrs geoEntry hcap.geo hgeo rfl⟩
  refine EndsFull.of_eq (run_loop_bind_ok LinuxXdpManager.geoCidrs geoEntry hcap.geo hgeo rfl) ?_
  have hcountry : ¬ (m.maps.countryRules.setAll pending.countryEntries).size ≤
      m.mapSizes.countryEntries := fun h => hroom ⟨hcustom, htrusted, hrules, hgeo, h⟩
  exact ⟨_, run_loop_bind_full LinuxXdpManager.countryRules countryEntry
    hcap.country hcountry rfl⟩

/-! ## The whole run -/

theorem writePending_eq (sizes : XdpMapSizes) (pending : PendingPolicyKeys) (wallNow : Int)
    (monotonicNow : U64) :
    writePending sizes pending wallNow monotonicNow =
      focus LinuxXdpManager.tempBans
          (writeTempBans sizes wallNow monotonicNow pending.tempBans.items) >>=
        fun _ => writeRest sizes pending := by
  rw [← forM_putTempBanKey]
  rfl

/-- The entries that a ban's expiry cannot be computed for come with this error only. -/
theorem tempBanEntry_error {wallNow : Int} {monotonicNow : U64} {item : TempBanKey × XdpTempBan}
    {e : ApplyError} (h : tempBanEntry wallNow monotonicNow item = .error e) :
    e = .expirationOverflow := by
  unfold tempBanEntry tempBanValue at h
  split at h
  · cases h
  · split at h
    · cases h
    · split at h
      · cases h
      · cases h
        rfl

/-- Every ban's expiry can be converted to the monotonic clock. -/
def Convertible (pending : PendingPolicyKeys) (wallNow : Int) (monotonicNow : U64) : Prop :=
  ∀ item ∈ pending.tempBans.items, ∃ entry, tempBanEntry wallNow monotonicNow item = .ok entry

/-- How writing the pending keys ends. -/
inductive WriteOutcome (m : LinuxXdpManager) (pending : PendingPolicyKeys) (wallNow : Int)
    (monotonicNow : U64) : EStateM.Result ApplyError LinuxXdpManager Unit → Prop
  | done : Convertible pending wallNow monotonicNow →
      RoomForBans m (pending.tempBanEntries wallNow monotonicNow) → RoomForRest m pending →
        WriteOutcome m pending wallNow monotonicNow
          (.ok () (swept (written m pending (pending.tempBanEntries wallNow monotonicNow)) pending))
  | overflow (m' : LinuxXdpManager) : ¬ Convertible pending wallNow monotonicNow →
      RoomForBans m (pending.tempBanEntries wallNow monotonicNow) →
        WriteOutcome m pending wallNow monotonicNow (.error .expirationOverflow m')
  | full (map : String) (m' : LinuxXdpManager) :
      (RoomForBans m (pending.tempBanEntries wallNow monotonicNow) →
        Convertible pending wallNow monotonicNow ∧ ¬ RoomForRest m pending) →
        WriteOutcome m pending wallNow monotonicNow (.error (.mapFull map) m')

theorem run_writePending {m : LinuxXdpManager} (hcap : m.WithinCapacity)
    (pending : PendingPolicyKeys) (wallNow : Int) (monotonicNow : U64) :
    WriteOutcome m pending wallNow monotonicNow
      ((writePending m.mapSizes pending wallNow monotonicNow).run m) := by
  have hbans : KeyedStore.Outcome (ApplyError.mapFull "temp_bans") m.mapSizes.tempBanEntries
      (tempBanEntry wallNow monotonicNow) pending.tempBans.items m.maps.tempBans
      ((writeTempBans m.mapSizes wallNow monotonicNow pending.tempBans.items).run
        (LinuxXdpManager.tempBans.get m)) :=
    KeyedStore.run_forM_putComputed _ _ _ hcap.tempBans
  rw [writePending_eq, EStateM.run_bind, run_focus]
  generalize (writeTempBans m.mapSizes wallNow monotonicNow pending.tempBans.items).run
    (LinuxXdpManager.tempBans.get m) = r at hbans ⊢
  let bans := pending.tempBanEntries wallNow monotonicNow
  cases hbans with
  | overfull s' hover =>
      exact .full _ _ fun hroom => absurd hroom (Nat.not_le.mpr hover)
  | failed item e s' hroom hitem he =>
      obtain rfl := tempBanEntry_error he
      refine .overflow _ ?_ hroom
      intro hconv
      obtain ⟨entry, hentry⟩ := hconv item hitem
      rw [he] at hentry
      cases hentry
  | done hroom hconv =>
      -- What follows sees the new ban map and the old five others.
      have hcap' : (afterBans m bans).WithinCapacity :=
        ⟨hcap.rules, hcap.geo, hcap.trusted, hcap.country, hcap.customRate, hroom⟩
      by_cases hrest : RoomForRest m pending
      · have hrest' : RoomForRest (afterBans m bans) pending :=
          ⟨hrest.customRate, hrest.trusted, hrest.rules, hrest.geo, hrest.country⟩
        have hrun := run_writeRest_ok hcap' hrest'
        exact (congrArg (WriteOutcome m pending wallNow monotonicNow) hrun).mpr
          (.done hconv hroom hrest)
      · have hrest' : ¬ RoomForRest (afterBans m bans) pending := by
          intro h
          exact hrest ⟨h.customRate, h.trusted, h.rules, h.geo, h.country⟩
        obtain ⟨map, m', hrun⟩ := run_writeRest_full hcap' hrest'
        exact (congrArg (WriteOutcome m pending wallNow monotonicNow) hrun).mpr
          (.full map m' fun _ => ⟨hconv, hrest⟩)

/-- A run that ends well has converted every expiry, written every entry and swept every map. -/
theorem writePending_ok {sizes : XdpMapSizes} {pending : PendingPolicyKeys} {wallNow : Int}
    {monotonicNow : U64} {m m' : LinuxXdpManager}
    (h : (writePending sizes pending wallNow monotonicNow).run m = .ok () m') :
    Convertible pending wallNow monotonicNow ∧
      m' = swept (written m pending (pending.tempBanEntries wallNow monotonicNow)) pending := by
  rw [writePending_eq, EStateM.run_bind, run_focus] at h
  cases hrun : (writeTempBans sizes wallNow monotonicNow pending.tempBans.items).run
      (LinuxXdpManager.tempBans.get m) with
  | error e s =>
      rw [hrun] at h
      cases h
  | ok u bans =>
      obtain ⟨hconv, rfl⟩ := KeyedStore.run_forM_putComputed_ok hrun
      rw [hrun] at h
      refine ⟨hconv, ?_⟩
      have hcustom := run_loop_bind_inv LinuxXdpManager.customRateLimits customRateEntry rfl h
      have htrusted := run_loop_bind_inv LinuxXdpManager.trustedCidrs trustedEntry rfl hcustom
      have hrules := run_loop_bind_inv LinuxXdpManager.ruleCidrs ruleEntry rfl htrusted
      have hgeo := run_loop_bind_inv LinuxXdpManager.geoCidrs geoEntry rfl hrules
      have hcountry := run_loop_bind_inv LinuxXdpManager.countryRules countryEntry rfl hgeo
      rw [run_removeStalePolicyKeys] at hcountry
      cases hcountry
      rfl

/-- The state in which the loops start: only the dynamic defense is written. -/
def withDefense (m : LinuxXdpManager) (policy : CompiledPolicy) : LinuxXdpManager :=
  { m with maps.defensePolicy := defenseValue policy.dynamicDefense }

theorem run_putDynamicDefense (m : LinuxXdpManager) (policy : CompiledPolicy) :
    (putDynamicDefense policy.dynamicDefense).run m = .ok () (withDefense m policy) := rfl

/-- The checks before the loops, all of them passed. -/
structure Admitted (env : ApplyEnv) (policy : CompiledPolicy) (m : LinuxXdpManager)
    (monotonicNow : U64) : Prop where
  sizes : ∃ required, requiredPolicyMapSizes m policy = .ok required ∧
    validateMapCapacity required m.mapSizes = .ok ()
  clock : monotonicNowNs env = .ok monotonicNow

theorem run_ofExcept {A : Type} (x : Except ApplyError A) (m : LinuxXdpManager) :
    (ofExcept x : Apply A).run m =
      match x with
      | .ok a => .ok a m
      | .error e => .error e m := by
  cases x <;> rfl

section Checks

variable {A B : Type} {sizes : LinuxXdpManager → Except ApplyError A}
  {check : LinuxXdpManager → A → Except ApplyError Unit} {first : Apply Unit}
  {clock : Except ApplyError B} {rest : LinuxXdpManager → B → Apply Unit}
  {m m' : LinuxXdpManager}

/-- The shape of `apply_to_current_maps`: two checks, a first write, the clock, the loops. -/
def checked (sizes : LinuxXdpManager → Except ApplyError A)
    (check : LinuxXdpManager → A → Except ApplyError Unit) (first : Apply Unit)
    (clock : Except ApplyError B) (rest : LinuxXdpManager → B → Apply Unit) : Apply Unit := do
  let m ← get
  let required ← ofExcept (sizes m)
  ofExcept (check m required)
  first
  let now ← ofExcept clock
  rest m now

theorem run_checked_ok {required : A} {now : B} (hsizes : sizes m = .ok required)
    (hcheck : check m required = .ok ()) (hfirst : first.run m = .ok () m')
    (hclock : clock = .ok now) :
    (checked sizes check first clock rest).run m = (rest m now).run m' := by
  simp only [checked, EStateM.run_bind, EStateM.run_get, run_ofExcept, hsizes, hcheck, hfirst,
    hclock]

theorem run_checked_error (hfirst : first.run m = .ok () m')
    (h : ∀ required now, sizes m = .ok required → check m required = .ok () → clock ≠ .ok now) :
    ∃ e m'', (checked sizes check first clock rest).run m = .error e m'' ∧
      (sizes m = .error e ∨ (∃ required, check m required = .error e) ∨ clock = .error e) := by
  cases hsizes : sizes m with
  | error e =>
      refine ⟨e, m, ?_, Or.inl rfl⟩
      simp only [checked, EStateM.run_bind, EStateM.run_get, run_ofExcept, hsizes]
  | ok required =>
      cases hcheck : check m required with
      | error e =>
          refine ⟨e, m, ?_, Or.inr (Or.inl ⟨required, hcheck⟩)⟩
          simp only [checked, EStateM.run_bind, EStateM.run_get, run_ofExcept, hsizes, hcheck]
      | ok u =>
          cases hclock : clock with
          | error e =>
              refine ⟨e, m', ?_, Or.inr (Or.inr rfl)⟩
              simp only [checked, EStateM.run_bind, EStateM.run_get, run_ofExcept, hsizes, hcheck,
                hfirst]
          | ok now =>
              exact absurd hclock (h required now hsizes hcheck)

end Checks

theorem applyToCurrentMaps_eq (env : ApplyEnv) (policy : CompiledPolicy) :
    applyToCurrentMaps env policy =
      checked (fun m => requiredPolicyMapSizes m policy)
        (fun m required => validateMapCapacity required m.mapSizes)
        (putDynamicDefense policy.dynamicDefense) (monotonicNowNs env)
        (fun m now => writePending m.mapSizes
          (buildPendingPolicyKeys m.localInterfaceCidrs policy env.wallNow) env.wallNow now) :=
  rfl

theorem run_applyToCurrentMaps_of_admitted {env : ApplyEnv} {policy : CompiledPolicy}
    {m : LinuxXdpManager} {monotonicNow : U64} (h : Admitted env policy m monotonicNow) :
    (applyToCurrentMaps env policy).run m =
      (writePending m.mapSizes
        (buildPendingPolicyKeys m.localInterfaceCidrs policy env.wallNow) env.wallNow
        monotonicNow).run (withDefense m policy) := by
  obtain ⟨required, hreq, hvalid⟩ := h.sizes
  rw [applyToCurrentMaps_eq]
  exact run_checked_ok hreq hvalid (run_putDynamicDefense m policy) h.clock

/-- A run whose checks fail ends with the error of a check. -/
theorem run_applyToCurrentMaps_of_not_admitted {env : ApplyEnv} {policy : CompiledPolicy}
    {m : LinuxXdpManager} (h : ∀ monotonicNow, ¬ Admitted env policy m monotonicNow) :
    ∃ e m', (applyToCurrentMaps env policy).run m = .error e m' ∧
      (requiredPolicyMapSizes m policy = .error e ∨
        (∃ required, validateMapCapacity required m.mapSizes = .error e) ∨
        monotonicNowNs env = .error e) := by
  rw [applyToCurrentMaps_eq]
  refine run_checked_error (run_putDynamicDefense m policy) ?_
  intro required now hreq hvalid hclock
  exact h now ⟨⟨required, hreq, hvalid⟩, hclock⟩

/-- What an apply that ends well leaves behind. -/
theorem applyToCurrentMaps_ok {env : ApplyEnv} {policy : CompiledPolicy}
    {m m' : LinuxXdpManager} (h : (applyToCurrentMaps env policy).run m = .ok () m') :
    ∃ monotonicNow, Admitted env policy m monotonicNow ∧
      Convertible (buildPendingPolicyKeys m.localInterfaceCidrs policy env.wallNow) env.wallNow
        monotonicNow ∧
      m' = swept
        (written (withDefense m policy)
          (buildPendingPolicyKeys m.localInterfaceCidrs policy env.wallNow)
          ((buildPendingPolicyKeys m.localInterfaceCidrs policy env.wallNow).tempBanEntries
            env.wallNow monotonicNow))
        (buildPendingPolicyKeys m.localInterfaceCidrs policy env.wallNow) := by
  by_cases hadm : ∃ monotonicNow, Admitted env policy m monotonicNow
  · obtain ⟨monotonicNow, hadm⟩ := hadm
    rw [run_applyToCurrentMaps_of_admitted hadm] at h
    obtain ⟨hconv, rfl⟩ := writePending_ok h
    exact ⟨monotonicNow, hadm, hconv, rfl⟩
  · obtain ⟨e, m'', hrun, -⟩ :=
      run_applyToCurrentMaps_of_not_admitted fun monotonicNow hm => hadm ⟨monotonicNow, hm⟩
    rw [hrun] at h
    cases h

/-- An apply that ends well writes to the maps it has or to those it replaced them by. -/
theorem apply_ok {env : ApplyEnv} {policy : CompiledPolicy} {m m' : LinuxXdpManager}
    (h : (apply env policy).run m = .ok () m') :
    ∃ current, (growMaps env policy).run m = .ok () current ∧
      (applyToCurrentMaps env policy).run current = .ok () m' := by
  rw [apply, EStateM.run_bind] at h
  cases hgrow : (growMaps env policy).run m with
  | ok u current =>
      rw [hgrow] at h
      exact ⟨current, rfl, h⟩
  | error e current =>
      rw [hgrow] at h
      cases h

/-- A policy that fits is written to the maps the manager has. -/
theorem run_apply_of_valid {env : ApplyEnv} {policy : CompiledPolicy} {m : LinuxXdpManager}
    {required : XdpMapSizes} (hreq : requiredPolicyMapSizes m policy = .ok required)
    (hvalid : validateMapCapacity required m.mapSizes = .ok ()) :
    (apply env policy).run m = (applyToCurrentMaps env policy).run m := by
  have hgrow : (growMaps env policy).run m = .ok () m := by
    simp only [growMaps, EStateM.run_bind, EStateM.run_get, run_ofExcept, hreq,
      resizedMapSizes_of_valid hvalid]
    rfl
  rw [apply, EStateM.run_bind, hgrow]

end DataPlane
end XdpFirewall
