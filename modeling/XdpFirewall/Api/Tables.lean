import Mathlib.Data.List.Pairwise
import XdpFirewall.ControlPlane.ActiveRows

/-!
# Tables — the tables that requests write to

The tables whose rows policies are built from work alike: a row has an id, names a policy, and can
be in force. The schema declares their keys and the database enforces them.
-/

namespace XdpFirewall
namespace Api

open Lib Policy ControlPlane

/-! ## Keys -/

section Keys

variable {Row : Type} {collides : Row → Row → Bool} {rows : List Row}

/-- No two rows collide on a primary key or a unique index. -/
def Distinct (collides : Row → Row → Bool) (rows : List Row) : Prop :=
  rows.Pairwise fun a b => collides a b = false

theorem Distinct.filter (h : Distinct collides rows) (p : Row → Bool) :
    Distinct collides (rows.filter p) :=
  List.Pairwise.filter p h

theorem Distinct.append {row : Row} (h : Distinct collides rows)
    (hrow : ∀ old ∈ rows, collides old row = false) : Distinct collides (rows ++ [row]) := by
  refine List.pairwise_append.mpr ⟨h, List.pairwise_singleton _ _, ?_⟩
  intro old hold new hnew
  rw [List.mem_singleton.mp hnew]
  exact hrow old hold

theorem Distinct.map {f : Row → Row} (h : Distinct collides rows)
    (hf : ∀ a ∈ rows, ∀ b ∈ rows, collides (f a) (f b) = collides a b) :
    Distinct collides (rows.map f) := by
  refine List.pairwise_map.mpr (List.Pairwise.imp_of_mem ?_ h)
  intro a b ha hb hab
  rw [hf a ha b hb, hab]

theorem Distinct.eq_of_collides {a b : Row} (h : Distinct collides rows)
    (hsymm : ∀ a b, collides a b = collides b a) (ha : a ∈ rows) (hb : b ∈ rows)
    (hab : collides a b = true) : a = b := by
  by_contra hne
  have : Std.Symm fun a b => collides a b = false := ⟨fun a b h => by rw [← hsymm, h]⟩
  have hfalse : collides a b = false := List.Pairwise.forall h ha hb hne
  rw [hab] at hfalse
  cases hfalse

end Keys

def sameRule (a b : FirewallRuleRow) : Bool :=
  a.id = b.id || a.ruleKey = b.ruleKey

def sameGeoCountry (a b : GeoCountryRow) : Bool :=
  a.id = b.id

def sameThreatSource (a b : ThreatSourceRow) : Bool :=
  a.id = b.id || (a.policyName = b.policyName && a.name = b.name)

def sameRateLimit (a b : DynamicRateLimitRow) : Bool :=
  a.id = b.id

def sameTempBan (a b : TempBanRow) : Bool :=
  a.id = b.id

def sameTrustedCidr (a b : TrustedCidrRow) : Bool :=
  a.id = b.id || (a.policyName = b.policyName && a.cidr = b.cidr)

def samePolicyVersion (a b : PolicyVersionRow) : Bool :=
  a.policyName = b.policyName

def sameDynamicDefense (a b : DynamicDefenseRow) : Bool :=
  a.policyName = b.policyName

/-- The keys of the tables that requests write to. -/
structure Schema (db : PolicyDb) : Prop where
  policyVersions : Distinct samePolicyVersion db.policyVersions
  firewallRules : Distinct sameRule db.firewallRules
  geoCountries : Distinct sameGeoCountry db.geoCountries
  threatSources : Distinct sameThreatSource db.threatSources
  dynamicDefense : Distinct sameDynamicDefense db.dynamicDefense
  dynamicRateLimits : Distinct sameRateLimit db.dynamicRateLimits
  tempBans : Distinct sameTempBan db.tempBans
  trustedCidrs : Distinct sameTrustedCidr db.trustedCidrs

theorem schema_empty : Schema PolicyDb.empty :=
  ⟨.nil, .nil, .nil, .nil, .nil, .nil, .nil, .nil⟩

/-! ## Readable rows -/

/-- The loaders can read every row, whether it is in force or not, and a ban ends at a point in
time that can be expressed. -/
structure Readable (text : TextReaders) (db : PolicyDb) : Prop where
  firewallRules : ∀ row ∈ db.firewallRules, ∃ rule, parseRule text row = .ok rule
  geoCountries : ∀ row ∈ db.geoCountries, ∃ policy, parseGeoCountryPolicy row = .ok policy
  threatSources : ∀ row ∈ db.threatSources, ∃ source, parseThreatSource row = .ok source
  threatPrefixes : ∀ row ∈ db.threatPrefixes,
    ∃ prefixes, persistedPrefixes text row = .ok prefixes
  dynamicDefense : ∀ row ∈ db.dynamicDefense, ∃ policy, parseDynamicDefense row = .ok policy ∧
    validateDynamicDefensePolicy policy = .ok ()
  dynamicRateLimits : ∀ row ∈ db.dynamicRateLimits,
    ∃ limit, parseDynamicRateLimit row = .ok limit
  tempBans : ∀ row ∈ db.tempBans,
    row.expiresAt ≤ maxNaiveDateTime ∧ ∃ ban, parseTempBan text row = .ok ban
  trustedCidrs : ∀ row ∈ db.trustedCidrs, ∃ trusted, parseTrustedCidr text row = .ok trusted

theorem readable_empty (text : TextReaders) : Readable text PolicyDb.empty :=
  ⟨nofun, nofun, nofun, nofun, nofun, nofun, nofun, nofun⟩

/-! ## Rows in force -/

section Active

variable {db db' : PolicyDb} {policyName : String}

/-- `CountryEnabled` looks at rows in force. -/
theorem countryEnabled_congr
    (h : (db'.geoCountries.filter fun row => row.policyName = policyName ∧ row.enabled) =
      db.geoCountries.filter fun row => row.policyName = policyName ∧ row.enabled)
    (country : String) :
    db'.CountryEnabled policyName country ↔ db.CountryEnabled policyName country := by
  have hmem (row : GeoCountryRow) := congrArg (row ∈ ·) h
  simp only [List.mem_filter, decide_eq_true_eq, eq_iff_iff] at hmem
  simp only [PolicyDb.CountryEnabled, ← and_assoc, hmem]

/-- So does `SourceEnabled`. -/
theorem sourceEnabled_congr
    (h : (db'.threatSources.filter fun row => row.policyName = policyName ∧ row.enabled) =
      db.threatSources.filter fun row => row.policyName = policyName ∧ row.enabled)
    (name : String) :
    db'.SourceEnabled policyName name ↔ db.SourceEnabled policyName name := by
  have hmem (row : ThreatSourceRow) := congrArg (row ∈ ·) h
  simp only [List.mem_filter, decide_eq_true_eq, eq_iff_iff] at hmem
  simp only [PolicyDb.SourceEnabled, ← and_assoc, hmem]

/-- Two databases look the same when their rows in force do. -/
structure SameInForce (policyName : String) (db db' : PolicyDb) : Prop where
  policyVersions : db'.policyVersions = db.policyVersions
  firewallRules : (db'.firewallRules.filter fun row => row.policyName = policyName ∧ row.enabled) =
    db.firewallRules.filter fun row => row.policyName = policyName ∧ row.enabled
  geoCountries : (db'.geoCountries.filter fun row => row.policyName = policyName ∧ row.enabled) =
    db.geoCountries.filter fun row => row.policyName = policyName ∧ row.enabled
  geoIpPrefixes : db'.geoIpPrefixes = db.geoIpPrefixes
  threatSources : (db'.threatSources.filter fun row => row.policyName = policyName ∧ row.enabled) =
    db.threatSources.filter fun row => row.policyName = policyName ∧ row.enabled
  threatPrefixes : (db'.threatPrefixes.filter fun row =>
      row.policyName = policyName ∧ db.SourceEnabled policyName row.sourceName) =
    db.threatPrefixes.filter fun row =>
      row.policyName = policyName ∧ db.SourceEnabled policyName row.sourceName
  dynamicDefense : db'.dynamicDefense = db.dynamicDefense
  dynamicRateLimits :
    (db'.dynamicRateLimits.filter fun row => row.policyName = policyName ∧ row.enabled) =
      db.dynamicRateLimits.filter fun row => row.policyName = policyName ∧ row.enabled
  tempBans : (db'.tempBans.filter fun row => row.policyName = policyName) =
    db.tempBans.filter fun row => row.policyName = policyName
  trustedCidrs : (db'.trustedCidrs.filter fun row => row.policyName = policyName ∧ row.enabled) =
    db.trustedCidrs.filter fun row => row.policyName = policyName ∧ row.enabled

theorem SameInForce.refl : SameInForce policyName db db :=
  ⟨rfl, rfl, rfl, rfl, rfl, rfl, rfl, rfl, rfl, rfl⟩

theorem SameInForce.active (h : SameInForce policyName db db') :
    db'.active policyName = db.active policyName := by
  have hcountries := countryEnabled_congr h.geoCountries
  have hsources := sourceEnabled_congr h.threatSources
  simp only [PolicyDb.active, h.policyVersions, h.firewallRules, h.geoCountries, h.geoIpPrefixes,
    h.threatSources, h.dynamicDefense, h.dynamicRateLimits, h.tempBans, h.trustedCidrs, hcountries,
    hsources, h.threatPrefixes]

theorem SameInForce.trans {db'' : PolicyDb} (h : SameInForce policyName db db')
    (h' : SameInForce policyName db' db'') : SameInForce policyName db db'' where
  policyVersions := h'.policyVersions.trans h.policyVersions
  firewallRules := h'.firewallRules.trans h.firewallRules
  geoCountries := h'.geoCountries.trans h.geoCountries
  geoIpPrefixes := h'.geoIpPrefixes.trans h.geoIpPrefixes
  threatSources := h'.threatSources.trans h.threatSources
  threatPrefixes := by
    have hprefixes := h'.threatPrefixes
    simp only [sourceEnabled_congr h.threatSources] at hprefixes
    exact hprefixes.trans h.threatPrefixes
  dynamicDefense := h'.dynamicDefense.trans h.dynamicDefense
  dynamicRateLimits := h'.dynamicRateLimits.trans h.dynamicRateLimits
  tempBans := h'.tempBans.trans h.tempBans
  trustedCidrs := h'.trustedCidrs.trans h.trustedCidrs

end Active

/-! ## Tables of rows that can be in force -/

/-- What the statements on a table need to know of it, with the laws that carry over to the
database. -/
structure RowTable (Row : Type) where
  rows : PolicyDb → List Row
  withRows : PolicyDb → List Row → PolicyDb
  id : Row → Int32
  policyName : Row → String
  enabled : Row → Bool
  collides : Row → Row → Bool
  RowOk : TextReaders → Row → Prop
  collides_symm : ∀ a b, collides a b = collides b a
  collides_of_id : ∀ a b, id a = id b → collides a b = true
  rows_withRows : ∀ db l, rows (withRows db l) = l
  policyVersions_withRows : ∀ db l, (withRows db l).policyVersions = db.policyVersions
  sameInForce : ∀ db l,
    l.filter (fun row => policyName row = defaultPolicyName ∧ enabled row) =
        (rows db).filter (fun row => policyName row = defaultPolicyName ∧ enabled row) →
      SameInForce defaultPolicyName db (withRows db l)
  distinct : ∀ db, Schema db → Distinct collides (rows db)
  schema : ∀ db l, Schema db → Distinct collides l → Schema (withRows db l)
  rowOk : ∀ text db, Readable text db → ∀ row ∈ rows db, RowOk text row
  readable : ∀ text db l, Readable text db → (∀ row ∈ l, RowOk text row) →
    Readable text (withRows db l)

def firewallRuleTable : RowTable FirewallRuleRow where
  rows := PolicyDb.firewallRules
  withRows db l := { db with firewallRules := l }
  id := FirewallRuleRow.id
  policyName := FirewallRuleRow.policyName
  enabled := FirewallRuleRow.enabled
  collides := sameRule
  RowOk text row := ∃ rule, parseRule text row = .ok rule
  collides_symm a b := by simp only [sameRule, eq_comm]
  collides_of_id a b h := by simp [sameRule, h]
  rows_withRows _ _ := rfl
  policyVersions_withRows _ _ := rfl
  sameInForce _ _ h := { SameInForce.refl with firewallRules := h }
  distinct _ h := h.firewallRules
  schema _ _ h hrows := { h with firewallRules := hrows }
  rowOk _ _ h := h.firewallRules
  readable _ _ _ h hrows := { h with firewallRules := hrows }

def geoCountryTable : RowTable GeoCountryRow where
  rows := PolicyDb.geoCountries
  withRows db l := { db with geoCountries := l }
  id := GeoCountryRow.id
  policyName := GeoCountryRow.policyName
  enabled := GeoCountryRow.enabled
  collides := sameGeoCountry
  RowOk _ row := ∃ policy, parseGeoCountryPolicy row = .ok policy
  collides_symm a b := by simp only [sameGeoCountry, eq_comm]
  collides_of_id a b h := by simp [sameGeoCountry, h]
  rows_withRows _ _ := rfl
  policyVersions_withRows _ _ := rfl
  sameInForce _ _ h := { SameInForce.refl with geoCountries := h }
  distinct _ h := h.geoCountries
  schema _ _ h hrows := { h with geoCountries := hrows }
  rowOk _ _ h := h.geoCountries
  readable _ _ _ h hrows := { h with geoCountries := hrows }

def threatSourceTable : RowTable ThreatSourceRow where
  rows := PolicyDb.threatSources
  withRows db l := { db with threatSources := l }
  id := ThreatSourceRow.id
  policyName := ThreatSourceRow.policyName
  enabled := ThreatSourceRow.enabled
  collides := sameThreatSource
  RowOk _ row := ∃ source, parseThreatSource row = .ok source
  collides_symm a b := by simp only [sameThreatSource, eq_comm]
  collides_of_id a b h := by simp [sameThreatSource, h]
  rows_withRows _ _ := rfl
  policyVersions_withRows _ _ := rfl
  sameInForce _ _ h := ⟨rfl, rfl, rfl, rfl, h, rfl, rfl, rfl, rfl, rfl⟩
  distinct _ h := h.threatSources
  schema _ _ h hrows := { h with threatSources := hrows }
  rowOk _ _ h := h.threatSources
  readable _ _ _ h hrows := { h with threatSources := hrows }

def rateLimitTable : RowTable DynamicRateLimitRow where
  rows := PolicyDb.dynamicRateLimits
  withRows db l := { db with dynamicRateLimits := l }
  id := DynamicRateLimitRow.id
  policyName := DynamicRateLimitRow.policyName
  enabled := DynamicRateLimitRow.enabled
  collides := sameRateLimit
  RowOk _ row := ∃ limit, parseDynamicRateLimit row = .ok limit
  collides_symm a b := by simp only [sameRateLimit, eq_comm]
  collides_of_id a b h := by simp [sameRateLimit, h]
  rows_withRows _ _ := rfl
  policyVersions_withRows _ _ := rfl
  sameInForce _ _ h := { SameInForce.refl with dynamicRateLimits := h }
  distinct _ h := h.dynamicRateLimits
  schema _ _ h hrows := { h with dynamicRateLimits := hrows }
  rowOk _ _ h := h.dynamicRateLimits
  readable _ _ _ h hrows := { h with dynamicRateLimits := hrows }

/-- A ban is in force until it expires; nothing else switches it off. -/
def tempBanTable : RowTable TempBanRow where
  rows := PolicyDb.tempBans
  withRows db l := { db with tempBans := l }
  id := TempBanRow.id
  policyName := TempBanRow.policyName
  enabled _ := true
  collides := sameTempBan
  RowOk text row := row.expiresAt ≤ maxNaiveDateTime ∧ ∃ ban, parseTempBan text row = .ok ban
  collides_symm a b := by simp only [sameTempBan, eq_comm]
  collides_of_id a b h := by simp [sameTempBan, h]
  rows_withRows _ _ := rfl
  policyVersions_withRows _ _ := rfl
  sameInForce _ _ h := { SameInForce.refl with tempBans := by simpa using h }
  distinct _ h := h.tempBans
  schema _ _ h hrows := { h with tempBans := hrows }
  rowOk _ _ h := h.tempBans
  readable _ _ _ h hrows := { h with tempBans := hrows }

def trustedCidrTable : RowTable TrustedCidrRow where
  rows := PolicyDb.trustedCidrs
  withRows db l := { db with trustedCidrs := l }
  id := TrustedCidrRow.id
  policyName := TrustedCidrRow.policyName
  enabled := TrustedCidrRow.enabled
  collides := sameTrustedCidr
  RowOk text row := ∃ trusted, parseTrustedCidr text row = .ok trusted
  collides_symm a b := by simp only [sameTrustedCidr, eq_comm]
  collides_of_id a b h := by simp [sameTrustedCidr, h]
  rows_withRows _ _ := rfl
  policyVersions_withRows _ _ := rfl
  sameInForce _ _ h := { SameInForce.refl with trustedCidrs := h }
  distinct _ h := h.trustedCidrs
  schema _ _ h hrows := { h with trustedCidrs := hrows }
  rowOk _ _ h := h.trustedCidrs
  readable _ _ _ h hrows := { h with trustedCidrs := hrows }

end Api
end XdpFirewall
