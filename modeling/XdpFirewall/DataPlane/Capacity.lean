import XdpFirewall.DataPlane.Maps
import XdpFirewall.Lib.Traverse

/-!
# Capacity — the sizes that maps are resized to

A map that is too small is replaced by one of at least twice its size, rounded up to a power of two.
The source computes in 64 bits and converts the result to 32; that conversion is the only step that
can fail.
-/

namespace XdpFirewall
namespace DataPlane

open Lib Policy

/-! ## The steps of the source -/

/-- `u64::checked_mul` by two -/
def checkedDouble (x : U64) : Option U64 :=
  if 2 * x.toNat < 2 ^ 64 then some (2 * x) else none

/-- `u64::checked_next_power_of_two` -/
def checkedNextPowerOfTwo (x : U64) : Option U64 :=
  let rounded := 2 ^ Nat.clog 2 x.toNat
  if rounded < 2 ^ 64 then some (BitVec.ofNat 64 rounded) else none

/-- `u64::max` -/
def max64 (x y : U64) : U64 :=
  if x < y then y else x

/-- `expanded_capacity` in the widths of the source. -/
def expandedCapacity32 (map : String) (current required : U32) : Except String U32 :=
  if required ≤ current then
    .ok current
  else
    match checkedDouble (current.setWidth 64) with
    | none => .error (map ++ " capacity overflowed while resizing")
    | some doubled =>
        match checkedNextPowerOfTwo (max64 (max64 doubled (required.setWidth 64)) 1) with
        | none => .error (map ++ " capacity overflowed while rounding resize target")
        | some rounded =>
            if rounded.toNat < 2 ^ 32 then
              .ok (rounded.setWidth 32)
            else
              .error (map ++ " resized capacity " ++ toString rounded.toNat ++ " exceeds u32 max")

/-- What a map that is too small is replaced by. -/
def resizeTarget (current required : Nat) : Nat :=
  2 ^ Nat.clog 2 (max (max (2 * current) required) 1)

theorem le_resizeTarget (current required : Nat) :
    2 * current ≤ resizeTarget current required ∧ required ≤ resizeTarget current required := by
  have hle : max (max (2 * current) required) 1 ≤ resizeTarget current required :=
    Nat.le_pow_clog (by decide) _
  exact ⟨le_trans (le_trans (le_max_left _ _) (le_max_left _ _)) hle,
    le_trans (le_trans (le_max_right _ _) (le_max_left _ _)) hle⟩

/-- The target is the least power of two that is large enough. -/
theorem resizeTarget_least {current required exponent : Nat} (hgrows : current < required)
    (hcurrent : 2 * current ≤ 2 ^ exponent) (hrequired : required ≤ 2 ^ exponent) :
    resizeTarget current required ≤ 2 ^ exponent := by
  refine Nat.pow_le_pow_right (by decide) (Nat.clog_le_of_le_pow ?_)
  exact max_le (max_le hcurrent hrequired) (by omega)

/-- The map has to grow, and its target does not fit 32 bits. -/
def TooLarge (current required : Nat) : Prop :=
  current < required ∧ 2 ^ 32 ≤ resizeTarget current required

instance (current required : Nat) : Decidable (TooLarge current required) :=
  inferInstanceAs (Decidable (_ ∧ _))

/-- The size that a map has after a resize. -/
def expandedSize (current required : Nat) : Nat :=
  if required ≤ current then current else resizeTarget current required

theorem expandedCapacity_eq (map : String) (current required : Nat) :
    expandedCapacity map current required =
      if TooLarge current required then
        .error (.resizeLimit map (resizeTarget current required))
      else
        .ok (expandedSize current required) := by
  by_cases hfits : required ≤ current
  · have hsmall : ¬ TooLarge current required := fun h => Nat.not_le.mpr h.1 hfits
    rw [if_neg hsmall, expandedCapacity, if_pos hfits, expandedSize, if_pos hfits]
  · have hgrows : current < required := Nat.not_le.mp hfits
    have hsize : expandedSize current required = resizeTarget current required := if_neg hfits
    rw [expandedCapacity, if_neg hfits, hsize]
    by_cases hlimit : resizeTarget current required < 2 ^ 32
    · have hsmall : ¬ TooLarge current required := fun h => Nat.not_lt.mpr h.2 hlimit
      rw [if_neg hsmall]
      exact if_pos hlimit
    · have hlarge : TooLarge current required := ⟨hgrows, Nat.not_lt.mp hlimit⟩
      rw [if_pos hlarge]
      exact if_neg hlimit

theorem toNat_max64 (x y : U64) : (max64 x y).toNat = max x.toNat y.toNat := by
  unfold max64
  split
  · rename_i hlt
    exact (max_eq_right (Nat.le_of_lt hlt)).symm
  · rename_i hle
    exact (max_eq_left (Nat.not_lt.mp hle)).symm

/-- Sizes of 32 bits do not overflow the 64-bit steps, so only the last conversion can fail. -/
theorem expandedCapacity32_eq (map : String) (current required : U32) :
    expandedCapacity32 map current required =
      match expandedCapacity map current.toNat required.toNat with
      | .ok size => .ok (BitVec.ofNat 32 size)
      | .error e => .error e.message := by
  have hcurrent : current.toNat < 2 ^ 32 := current.isLt
  have hrequired : required.toNat < 2 ^ 32 := required.isLt
  have hwide : ∀ x : U32, (x.setWidth 64).toNat = x.toNat := by
    intro x
    rw [BitVec.toNat_setWidth]
    exact Nat.mod_eq_of_lt (by omega)
  rw [expandedCapacity_eq]
  by_cases hfits : required ≤ current
  · have hle : required.toNat ≤ current.toNat := hfits
    have hsmall : ¬ TooLarge current.toNat required.toNat := fun h => Nat.not_le.mpr h.1 hle
    rw [expandedCapacity32, if_pos hfits, if_neg hsmall, expandedSize, if_pos hle]
    simp
  · have hnotle : ¬ required.toNat ≤ current.toNat := hfits
    have hgrows : current.toNat < required.toNat := Nat.not_le.mp hnotle
    have hdouble : checkedDouble (current.setWidth 64) = some (2 * current.setWidth 64) := by
      rw [checkedDouble, hwide, if_pos (by omega)]
    have hdoubled : (2 * current.setWidth 64).toNat = 2 * current.toNat := by
      rw [BitVec.toNat_mul, hwide]
      change 2 * current.toNat % 2 ^ 64 = 2 * current.toNat
      exact Nat.mod_eq_of_lt (by omega)
    have htarget : (max64 (max64 (2 * current.setWidth 64) (required.setWidth 64)) 1).toNat =
        max (max (2 * current.toNat) required.toNat) 1 := by
      rw [toNat_max64, toNat_max64, hdoubled, hwide]
      rfl
    -- Both sizes are at most 2 ^ 32, so the target is at most 2 ^ 33.
    have hbound : resizeTarget current.toNat required.toNat ≤ 2 ^ 33 :=
      resizeTarget_least hgrows (by omega) (by omega)
    have hrounded : checkedNextPowerOfTwo
        (max64 (max64 (2 * current.setWidth 64) (required.setWidth 64)) 1) =
          some (BitVec.ofNat 64 (resizeTarget current.toNat required.toNat)) := by
      rw [checkedNextPowerOfTwo, htarget]
      exact if_pos (Nat.lt_of_le_of_lt hbound (by decide))
    have hnat : (BitVec.ofNat 64 (resizeTarget current.toNat required.toNat)).toNat =
        resizeTarget current.toNat required.toNat :=
      Nat.mod_eq_of_lt (Nat.lt_of_le_of_lt hbound (by decide))
    have hsize : expandedSize current.toNat required.toNat =
        resizeTarget current.toNat required.toNat := if_neg hnotle
    rw [expandedCapacity32, if_neg hfits, hdouble]
    dsimp only
    rw [hrounded]
    dsimp only
    rw [hnat]
    by_cases hlimit : resizeTarget current.toNat required.toNat < 2 ^ 32
    · have hsmall : ¬ TooLarge current.toNat required.toNat := fun h => Nat.not_lt.mpr h.2 hlimit
      rw [if_pos hlimit, if_neg hsmall, hsize]
      simp [BitVec.setWidth_ofNat_of_le]
    · have hlarge : TooLarge current.toNat required.toNat := ⟨hgrows, Nat.not_lt.mp hlimit⟩
      rw [if_neg hlimit, if_pos hlarge]
      rfl

/-! ## All maps -/

/-- The maps whose sizes follow the policy. -/
inductive SizedMap
  | rule
  | geo
  | trusted
  | country
  | customRate
  | tempBan
  deriving DecidableEq, Repr

def XdpMapSizes.entries (sizes : XdpMapSizes) : SizedMap → Nat
  | .rule => sizes.ruleEntries
  | .geo => sizes.geoEntries
  | .trusted => sizes.trustedEntries
  | .country => sizes.countryEntries
  | .customRate => sizes.customRateLimitEntries
  | .tempBan => sizes.tempBanEntries

/-- All sizes fit 32 bits. -/
structure XdpMapSizes.InRange (sizes : XdpMapSizes) : Prop where
  entries : ∀ map, sizes.entries map < 2 ^ 32
  rate : sizes.rateEntries < 2 ^ 32

/-- The sizes after a resize in which no map is too large. -/
def expandedSizes (current required : XdpMapSizes) : XdpMapSizes where
  ruleEntries := expandedSize current.ruleEntries required.ruleEntries
  geoEntries := expandedSize current.geoEntries required.geoEntries
  trustedEntries := expandedSize current.trustedEntries required.trustedEntries
  countryEntries := expandedSize current.countryEntries required.countryEntries
  rateEntries := current.rateEntries
  customRateLimitEntries :=
    expandedSize current.customRateLimitEntries required.customRateLimitEntries
  tempBanEntries := expandedSize current.tempBanEntries required.tempBanEntries

theorem entries_expandedSizes (current required : XdpMapSizes) (map : SizedMap) :
    (expandedSizes current required).entries map =
      expandedSize (current.entries map) (required.entries map) := by
  cases map <;> rfl

section Resize

variable {current required : XdpMapSizes}

theorem expandedCapacity_ok_iff {map : String} {size needed grown : Nat} :
    expandedCapacity map size needed = .ok grown ↔
      ¬ TooLarge size needed ∧ grown = expandedSize size needed := by
  rw [expandedCapacity_eq]
  by_cases hlarge : TooLarge size needed
  · rw [if_pos hlarge]
    exact iff_of_false nofun fun h => h.1 hlarge
  · rw [if_neg hlarge, and_iff_right hlarge]
    exact ⟨fun h => (Except.ok.inj h).symm, fun h => congrArg Except.ok h.symm⟩

theorem resizedMapSizes_ok_iff {resized : Option XdpMapSizes} :
    resizedMapSizes current required = .ok resized ↔
      (∀ map, ¬ TooLarge (current.entries map) (required.entries map)) ∧
        resized =
          if expandedSizes current required ≠ current then
            some (expandedSizes current required)
          else
            none := by
  constructor
  · intro h
    simp only [resizedMapSizes, bind_ok_iff, expandedCapacity_ok_iff] at h
    rcases h with ⟨_, ⟨hrule, rfl⟩, _, ⟨hgeo, rfl⟩, _, ⟨htrusted, rfl⟩, _, ⟨hcountry, rfl⟩, _,
      ⟨hcustom, rfl⟩, _, ⟨hban, rfl⟩, h⟩
    refine ⟨?_, (Except.ok.inj h).symm⟩
    intro map
    cases map with
    | rule => exact hrule
    | geo => exact hgeo
    | trusted => exact htrusted
    | country => exact hcountry
    | customRate => exact hcustom
    | tempBan => exact hban
  · rintro ⟨hfit, rfl⟩
    have hok (name : String) (map : SizedMap) :
        expandedCapacity name (current.entries map) (required.entries map) =
          .ok (expandedSize (current.entries map) (required.entries map)) :=
      expandedCapacity_ok_iff.mpr ⟨hfit map, rfl⟩
    simp only [resizedMapSizes, bind_ok_iff]
    exact ⟨_, hok _ .rule, _, hok _ .geo, _, hok _ .trusted, _, hok _ .country, _,
      hok _ .customRate, _, hok _ .tempBan, rfl⟩

theorem expandedSizes_eq_iff :
    expandedSizes current required = current ↔
      ∀ map, required.entries map ≤ current.entries map := by
  constructor
  · intro h map
    have hsame : expandedSize (current.entries map) (required.entries map) =
        current.entries map := by
      rw [← entries_expandedSizes, h]
    by_contra hnot
    rw [expandedSize, if_neg hnot] at hsame
    have hle := (le_resizeTarget (current.entries map) (required.entries map)).2
    omega
  · intro h
    have hkeep (map : SizedMap) :
        expandedSize (current.entries map) (required.entries map) = current.entries map :=
      if_pos (h map)
    rw [expandedSizes]
    congr
    · exact hkeep .rule
    · exact hkeep .geo
    · exact hkeep .trusted
    · exact hkeep .country
    · exact hkeep .customRate
    · exact hkeep .tempBan

/-- How one map is resized: it keeps its size where that is enough, and grows to the least power of
two that is at least twice its size and large enough. -/
structure ResizedMap (old needed new : Nat) : Prop where
  old_le : old ≤ new
  needed_le : needed ≤ new
  kept : needed ≤ old → new = old
  grown : old < needed → ∃ exponent, new = 2 ^ exponent ∧ 2 * old ≤ new
  least : old < needed → ∀ exponent, 2 * old ≤ 2 ^ exponent → needed ≤ 2 ^ exponent →
    new ≤ 2 ^ exponent

theorem resizedMap_expandedSize (old needed : Nat) :
    ResizedMap old needed (expandedSize old needed) := by
  by_cases hfits : needed ≤ old
  · rw [expandedSize, if_pos hfits]
    exact ⟨Nat.le_refl _, hfits, fun _ => rfl, fun hlt => absurd hfits (Nat.not_le.mpr hlt),
      fun hlt => absurd hfits (Nat.not_le.mpr hlt)⟩
  · rw [expandedSize, if_neg hfits]
    rcases le_resizeTarget old needed with ⟨hdouble, hneeded⟩
    refine ⟨by omega, hneeded, fun h => absurd h hfits, fun _ => ⟨_, rfl, hdouble⟩, ?_⟩
    intro hlt exponent hold hneed
    exact resizeTarget_least hlt hold hneed

/-- The result of a resize. -/
structure Resized (current required resized : XdpMapSizes) : Prop where
  maps : ∀ map, ResizedMap (current.entries map) (required.entries map) (resized.entries map)
  rate : resized.rateEntries = current.rateEntries
  inRange : resized.InRange
  valid : validateMapCapacity required resized = .ok ()

/-- The steps of the source, in its widths, give the size that each map gets. -/
def SourceWidths (current required : XdpMapSizes) : Prop :=
  ∀ name map,
    expandedCapacity32 name (BitVec.ofNat 32 (current.entries map))
        (BitVec.ofNat 32 (required.entries map)) =
      match expandedCapacity name (current.entries map) (required.entries map) with
      | .ok size => .ok (BitVec.ofNat 32 size)
      | .error e => .error e.message

theorem sourceWidths_of_inRange (hcurrent : current.InRange) (hrequired : required.InRange) :
    SourceWidths current required := by
  intro name map
  have hwidth (sizes : XdpMapSizes) (h : sizes.InRange) :
      (BitVec.ofNat 32 (sizes.entries map)).toNat = sizes.entries map :=
    Nat.mod_eq_of_lt (h.entries map)
  rw [expandedCapacity32_eq, hwidth current hcurrent, hwidth required hrequired]

/-- A resize fails exactly when the target of a map that has to grow exceeds 32 bits, leaves the
maps alone exactly when all sizes are enough, and gives sizes that are enough otherwise. -/
theorem resizedMapSizes_spec (hcurrent : current.InRange) (hrequired : required.InRange) :
    SourceWidths current required ∧
      ((∃ e, resizedMapSizes current required = .error e) ↔
        ∃ map, TooLarge (current.entries map) (required.entries map)) ∧
      (resizedMapSizes current required = .ok none ↔
        ∀ map, required.entries map ≤ current.entries map) ∧
      ∀ resized, resizedMapSizes current required = .ok (some resized) →
        Resized current required resized := by
  refine ⟨sourceWidths_of_inRange hcurrent hrequired, ?_, ?_, ?_⟩
  · cases hresult : resizedMapSizes current required with
    | error e =>
        refine iff_of_true ⟨e, rfl⟩ ?_
        by_contra hnone
        have hok := resizedMapSizes_ok_iff.mpr ⟨not_exists.mp hnone, rfl⟩
        rw [hresult] at hok
        cases hok
    | ok resized =>
        refine iff_of_false nofun ?_
        exact not_exists.mpr (resizedMapSizes_ok_iff.mp hresult).1
  · rw [resizedMapSizes_ok_iff, ← expandedSizes_eq_iff]
    constructor
    · rintro ⟨-, hnone⟩
      by_contra hgrown
      rw [if_pos hgrown] at hnone
      cases hnone
    · intro hsame
      refine ⟨fun map hlarge => ?_, ?_⟩
      · exact Nat.not_le.mpr hlarge.1 (expandedSizes_eq_iff.mp hsame map)
      · rw [if_neg (not_not.mpr hsame)]
  · intro resized h
    rcases resizedMapSizes_ok_iff.mp h with ⟨hfit, hresized⟩
    have heq : resized = expandedSizes current required := by
      split at hresized
      · exact Option.some.inj hresized
      · cases hresized
    subst heq
    have hmaps (map : SizedMap) : ResizedMap (current.entries map) (required.entries map)
        ((expandedSizes current required).entries map) := by
      rw [entries_expandedSizes]
      exact resizedMap_expandedSize _ _
    refine ⟨hmaps, rfl, ⟨fun map => ?_, hcurrent.rate⟩, ?_⟩
    · rw [entries_expandedSizes, expandedSize]
      split
      · exact hcurrent.entries map
      · rename_i hgrows
        by_contra hlimit
        exact hfit map ⟨Nat.not_le.mp hgrows, Nat.not_lt.mp hlimit⟩
    · exact validateMapCapacity_ok_iff.mpr ⟨(hmaps .rule).needed_le, (hmaps .trusted).needed_le,
        (hmaps .geo).needed_le, (hmaps .country).needed_le, (hmaps .customRate).needed_le,
        (hmaps .tempBan).needed_le⟩

/-- Three of these maps are too small for `neededSizes`. -/
def smallSizes : XdpMapSizes where
  ruleEntries := 100
  geoEntries := 8
  trustedEntries := 4
  countryEntries := 676
  rateEntries := 16
  customRateLimitEntries := 4
  tempBanEntries := 4

def neededSizes : XdpMapSizes where
  ruleEntries := 101
  geoEntries := 8
  trustedEntries := 9
  countryEntries := 676
  rateEntries := 999
  customRateLimitEntries := 5
  tempBanEntries := 4

def grownSizes : XdpMapSizes :=
  { smallSizes with
    ruleEntries := 256
    trustedEntries := 16
    customRateLimitEntries := 8 }

theorem inRange_smallSizes : smallSizes.InRange := by
  refine ⟨fun map => ?_, by decide⟩
  cases map <;> decide

theorem inRange_neededSizes : neededSizes.InRange := by
  refine ⟨fun map => ?_, by decide⟩
  cases map <;> decide

theorem resized_smallSizes :
    resizedMapSizes smallSizes neededSizes = .ok (some grownSizes) ∧
      Resized smallSizes neededSizes grownSizes := by
  have hgrown : resizedMapSizes smallSizes neededSizes = .ok (some grownSizes) := by decide
  refine ⟨hgrown, ?_⟩
  exact (resizedMapSizes_spec inRange_smallSizes inRange_neededSizes).2.2.2 _ hgrown

end Resize

end DataPlane
end XdpFirewall
