import Mathlib.Data.Nat.Log
import XdpFirewall.DataPlane.Encoding
import XdpFirewall.DataPlane.Local
import XdpFirewall.Lib.Focus

/-!
# Maps — the policy maps, their sizes and the manager that holds them
-/

namespace XdpFirewall
namespace DataPlane

open Net Policy Lib

/-! ## Errors of an apply -/

inductive ApplyError
  | ruleEntryCount
  | entryCount (map : String) (value : Nat)
  | capacity (map : String) (needed configured : Nat)
  | resizeLimit (map : String) (rounded : Nat)
  | attach (reason : String)
  | clock (reason : String)
  | expirationOverflow
  | mapFull (map : String)
  | keyNotFound (map : String)
  deriving DecidableEq

/-- The error texts of the source. The last two come from the kernel. -/
def ApplyError.message : ApplyError → String
  | .ruleEntryCount => "rule entry count overflowed"
  | .entryCount map value => map ++ " entry count " ++ toString value ++ " exceeds u32 max"
  | .capacity map needed configured =>
      map ++ " needs " ++ toString needed ++ " entries but map capacity is " ++
        toString configured
  | .resizeLimit map rounded =>
      map ++ " resized capacity " ++ toString rounded ++ " exceeds u32 max"
  | .attach reason => reason
  | .clock reason => reason
  | .expirationOverflow => "temporary ban monotonic expiration overflowed"
  | .mapFull map => map ++ ": no space left"
  | .keyNotFound map => map ++ ": key not found"

/-! ## Sizes -/

structure XdpMapSizes where
  ruleEntries : Nat
  geoEntries : Nat
  trustedEntries : Nat
  countryEntries : Nat
  rateEntries : Nat
  customRateLimitEntries : Nat
  tempBanEntries : Nat
  deriving DecidableEq, Repr

def usizeToU32 (map : String) (value : Nat) : Except ApplyError Nat :=
  if value < 2 ^ 32 then
    .ok value
  else
    .error (.entryCount map value)

def ensureCapacity (map : String) (needed configured : Nat) : Except ApplyError Unit :=
  if needed > configured then
    .error (.capacity map needed configured)
  else
    .ok ()

def validateMapCapacity (required configured : XdpMapSizes) : Except ApplyError Unit := do
  ensureCapacity "rule_cidrs" required.ruleEntries configured.ruleEntries
  ensureCapacity "trusted_cidrs" required.trustedEntries configured.trustedEntries
  ensureCapacity "geo_cidrs" required.geoEntries configured.geoEntries
  ensureCapacity "country_rules" required.countryEntries configured.countryEntries
  ensureCapacity "custom_rate_limits" required.customRateLimitEntries
    configured.customRateLimitEntries
  ensureCapacity "temp_bans" required.tempBanEntries configured.tempBanEntries

/-- Twice the current capacity or what is required, rounded up to a power of two. Both numbers
fit 32 bits, so the 64-bit steps of the source cannot overflow. -/
def expandedCapacity (map : String) (current required : Nat) : Except ApplyError Nat :=
  if required ≤ current then
    .ok current
  else
    let target := max (max (2 * current) required) 1
    let rounded := 2 ^ Nat.clog 2 target
    if rounded < 2 ^ 32 then
      .ok rounded
    else
      .error (.resizeLimit map rounded)

def resizedMapSizes (current required : XdpMapSizes) :
    Except ApplyError (Option XdpMapSizes) := do
  let resized : XdpMapSizes := {
    ruleEntries := ← expandedCapacity "rule_cidrs" current.ruleEntries required.ruleEntries
    geoEntries := ← expandedCapacity "geo_cidrs" current.geoEntries required.geoEntries
    trustedEntries :=
      ← expandedCapacity "trusted_cidrs" current.trustedEntries required.trustedEntries
    countryEntries :=
      ← expandedCapacity "country_rules" current.countryEntries required.countryEntries
    rateEntries := current.rateEntries
    customRateLimitEntries :=
      ← expandedCapacity "custom_rate_limits" current.customRateLimitEntries
        required.customRateLimitEntries
    tempBanEntries :=
      ← expandedCapacity "temp_bans" current.tempBanEntries required.tempBanEntries }
  return if resized ≠ current then some resized else none

theorem ensureCapacity_ok_iff {map : String} {needed configured : Nat} :
    ensureCapacity map needed configured = .ok () ↔ needed ≤ configured := by
  unfold ensureCapacity
  split <;> simp_all

/-- The check passes exactly when every map is large enough. -/
theorem validateMapCapacity_ok_iff {required configured : XdpMapSizes} :
    validateMapCapacity required configured = .ok () ↔
      required.ruleEntries ≤ configured.ruleEntries ∧
      required.trustedEntries ≤ configured.trustedEntries ∧
      required.geoEntries ≤ configured.geoEntries ∧
      required.countryEntries ≤ configured.countryEntries ∧
      required.customRateLimitEntries ≤ configured.customRateLimitEntries ∧
      required.tempBanEntries ≤ configured.tempBanEntries := by
  have hbind : ∀ (x y : Except ApplyError Unit),
      (do x; y) = .ok () ↔ x = .ok () ∧ y = .ok () := by
    intro x y
    cases x <;> simp [bind, Except.bind]
  simp only [validateMapCapacity, hbind, ensureCapacity_ok_iff]

/-- Maps that pass the check are not resized. -/
theorem resizedMapSizes_of_valid {required current : XdpMapSizes}
    (h : validateMapCapacity required current = .ok ()) :
    resizedMapSizes current required = .ok none := by
  obtain ⟨hrules, htrusted, hgeo, hcountry, hcustom, hbans⟩ := validateMapCapacity_ok_iff.mp h
  simp [resizedMapSizes, expandedCapacity, hrules, htrusted, hgeo, hcountry, hcustom, hbans, bind,
    Except.bind, pure, Except.pure]

theorem ensureCapacity_error {map : String} {needed configured : Nat} {e : ApplyError}
    (h : ensureCapacity map needed configured = .error e) :
    e = .capacity map needed configured ∧ configured < needed := by
  unfold ensureCapacity at h
  split at h
  · rename_i hover
    cases h
    exact ⟨rfl, hover⟩
  · cases h

/-- A failed check names a map and by how much the policy exceeds it. -/
theorem validateMapCapacity_error {required configured : XdpMapSizes} {e : ApplyError}
    (h : validateMapCapacity required configured = .error e) :
    ∃ map needed available, e = .capacity map needed available ∧ available < needed := by
  have hbind : ∀ (x y : Except ApplyError Unit), (do x; y) = .error e →
      x = .error e ∨ y = .error e := by
    intro x y hxy
    cases x with
    | ok u => exact Or.inr hxy
    | error e' => exact Or.inl hxy
  have hensure : ∀ map needed available, ensureCapacity map needed available = .error e →
      ∃ map needed available, e = .capacity map needed available ∧ available < needed :=
    fun map needed available he => ⟨map, needed, available, ensureCapacity_error he⟩
  rcases hbind _ _ h with h | h
  · exact hensure _ _ _ h
  rcases hbind _ _ h with h | h
  · exact hensure _ _ _ h
  rcases hbind _ _ h with h | h
  · exact hensure _ _ _ h
  rcases hbind _ _ h with h | h
  · exact hensure _ _ _ h
  rcases hbind _ _ h with h | h
  · exact hensure _ _ _ h
  · exact hensure _ _ _ h

/-! ## Maps and manager -/

/-- The kernel maps that hold the policy. -/
structure PolicyMaps where
  ruleCidrs : LpmTrie RuleData RuleValue
  geoCidrs : LpmTrie GeoData GeoValue
  trustedCidrs : LpmTrie TrustedData TrustedValue
  countryRules : HashMap U32 CountryValue
  defensePolicy : DefenseValue
  customRateLimits : HashMap CustomRateKey CustomRateValue
  tempBans : LpmTrie TempBanData TempBanValue

/-- The part of `LinuxXdpManager` that writing a policy reads. The maps hold as many entries as
`mapSizes` tells: the sizes are read back from the maps when the program is attached. -/
structure LinuxXdpManager where
  maps : PolicyMaps
  mapSizes : XdpMapSizes
  localInterfaceCidrs : List LocalInterfaceCidr
  autoResizeMaps : Bool

namespace LinuxXdpManager

def ruleCidrs : Part LinuxXdpManager (LpmTrie RuleData RuleValue) where
  get m := m.maps.ruleCidrs
  set t m := { m with maps.ruleCidrs := t }
  get_set _ _ := rfl
  set_get _ := rfl
  set_set _ _ _ := rfl

def geoCidrs : Part LinuxXdpManager (LpmTrie GeoData GeoValue) where
  get m := m.maps.geoCidrs
  set t m := { m with maps.geoCidrs := t }
  get_set _ _ := rfl
  set_get _ := rfl
  set_set _ _ _ := rfl

def trustedCidrs : Part LinuxXdpManager (LpmTrie TrustedData TrustedValue) where
  get m := m.maps.trustedCidrs
  set t m := { m with maps.trustedCidrs := t }
  get_set _ _ := rfl
  set_get _ := rfl
  set_set _ _ _ := rfl

def countryRules : Part LinuxXdpManager (HashMap U32 CountryValue) where
  get m := m.maps.countryRules
  set t m := { m with maps.countryRules := t }
  get_set _ _ := rfl
  set_get _ := rfl
  set_set _ _ _ := rfl

def customRateLimits : Part LinuxXdpManager (HashMap CustomRateKey CustomRateValue) where
  get m := m.maps.customRateLimits
  set t m := { m with maps.customRateLimits := t }
  get_set _ _ := rfl
  set_get _ := rfl
  set_set _ _ _ := rfl

def tempBans : Part LinuxXdpManager (LpmTrie TempBanData TempBanValue) where
  get m := m.maps.tempBans
  set t m := { m with maps.tempBans := t }
  get_set _ _ := rfl
  set_get _ := rfl
  set_set _ _ _ := rfl

/-- Every map is within its capacity. -/
structure WithinCapacity (m : LinuxXdpManager) : Prop where
  rules : m.maps.ruleCidrs.size ≤ m.mapSizes.ruleEntries
  geo : m.maps.geoCidrs.size ≤ m.mapSizes.geoEntries
  trusted : m.maps.trustedCidrs.size ≤ m.mapSizes.trustedEntries
  country : m.maps.countryRules.size ≤ m.mapSizes.countryEntries
  customRate : m.maps.customRateLimits.size ≤ m.mapSizes.customRateLimitEntries
  tempBans : m.maps.tempBans.size ≤ m.mapSizes.tempBanEntries

end LinuxXdpManager

end DataPlane
end XdpFirewall
