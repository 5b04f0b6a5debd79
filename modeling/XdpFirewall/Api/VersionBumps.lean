import XdpFirewall.Api.Handlers

/-!
# Version bumps — agents learn of every change to the policy

A request that changes what `load_policy` returns raises the version, once, with the rows that it
writes. One that fails leaves everything as it was, and one that writes only rows that are never
part of a policy leaves the version alone.
-/

namespace XdpFirewall
namespace Api

open Lib Policy ControlPlane

/-! ## Requests -/

/-- The requests that write to the resources of a policy. -/
inductive ApiWrite
  | createRule (request : FirewallRules.CreateRuleRequest)
  | createRules (items : List FirewallRules.CreateRuleRequest)
  | deleteRule (id : Int32)
  | deleteRules (request : FirewallRules.RuleBatchDeleteRequest)
  | deleteMatchingRules (query : FirewallRules.RuleMatchQuery)
  | createGeoCountry (request : GeoCountries.CreateGeoCountryRequest)
  | createGeoCountries (items : List GeoCountries.CreateGeoCountryRequest)
  | deleteGeoCountry (id : Int32)
  | deleteGeoCountries (ids : List Int32)
  | deleteMatchingGeoCountry (query : GeoCountries.GeoCountryMatchQuery)
  | createThreatSource (request : ThreatSources.CreateThreatSourceRequest)
  | createThreatSources (items : List ThreatSources.CreateThreatSourceRequest)
  | updateThreatSource (id : Int32) (enabled : Bool)
  | deleteThreatSource (id : Int32)
  | deleteThreatSources (ids : List Int32)
  | deleteNamedThreatSource (name : String)
  | updateDynamicDefense (request : DynamicDefense.UpdateDynamicDefenseRequest)
  | createRateLimit (request : DynamicRateLimits.CreateDynamicRateLimitRequest)
  | createRateLimits (items : List DynamicRateLimits.CreateDynamicRateLimitRequest)
  | deleteRateLimit (id : Int32)
  | deleteRateLimits (ids : List Int32)
  | deleteMatchingRateLimit (query : DynamicRateLimits.DynamicRateLimitMatchQuery)
  | createTempBan (request : TempBans.CreateTempBanRequest)
  | createTempBans (items : List TempBans.CreateTempBanRequest)
  | deleteTempBan (id : Int32)
  | deleteTempBans (ids : List Int32)
  | createTrustedCidr (request : TrustedCidrs.CreateTrustedCidrRequest)
  | createTrustedCidrs (items : List TrustedCidrs.CreateTrustedCidrRequest)
  | deleteTrustedCidr (id : Int32)
  | deleteTrustedCidrs (ids : List Int32)
  | deleteNamedTrustedCidr (cidr : String)

/-- An answer without its data. -/
def Outcome.versionOnly {A : Type} (outcome : Outcome A) : Outcome Unit where
  answer := outcome.answer.map fun answer =>
    { version := answer.version
      data := () }
  db := outcome.db
  written := outcome.written

def ApiWrite.run (env : ApiEnv) (db : PolicyDb) : ApiWrite → Outcome Unit
  | .createRule request => (FirewallRules.create env db request).versionOnly
  | .createRules items => (FirewallRules.createBatch env db items).versionOnly
  | .deleteRule id => (FirewallRules.deleteById env db id).versionOnly
  | .deleteRules request => (FirewallRules.deleteBatch env db request).versionOnly
  | .deleteMatchingRules query => (FirewallRules.deleteByQuery env db query).versionOnly
  | .createGeoCountry request => (GeoCountries.create env db request).versionOnly
  | .createGeoCountries items => (GeoCountries.createBatch env db items).versionOnly
  | .deleteGeoCountry id => (GeoCountries.deleteById env db id).versionOnly
  | .deleteGeoCountries ids => (GeoCountries.deleteBatch env db ids).versionOnly
  | .deleteMatchingGeoCountry query => (GeoCountries.deleteByQuery env db query).versionOnly
  | .createThreatSource request => (ThreatSources.create env db request).versionOnly
  | .createThreatSources items => (ThreatSources.createBatch env db items).versionOnly
  | .updateThreatSource id enabled => (ThreatSources.update env db id enabled).versionOnly
  | .deleteThreatSource id => (ThreatSources.deleteById env db id).versionOnly
  | .deleteThreatSources ids => (ThreatSources.deleteBatch env db ids).versionOnly
  | .deleteNamedThreatSource name => (ThreatSources.deleteByQuery env db name).versionOnly
  | .updateDynamicDefense request => (DynamicDefense.update env db request).versionOnly
  | .createRateLimit request => (DynamicRateLimits.create env db request).versionOnly
  | .createRateLimits items => (DynamicRateLimits.createBatch env db items).versionOnly
  | .deleteRateLimit id => (DynamicRateLimits.deleteById env db id).versionOnly
  | .deleteRateLimits ids => (DynamicRateLimits.deleteBatch env db ids).versionOnly
  | .deleteMatchingRateLimit query => (DynamicRateLimits.deleteByQuery env db query).versionOnly
  | .createTempBan request => (TempBans.create env db request).versionOnly
  | .createTempBans items => (TempBans.createBatch env db items).versionOnly
  | .deleteTempBan id => (TempBans.deleteById env db id).versionOnly
  | .deleteTempBans ids => (TempBans.deleteBatch env db ids).versionOnly
  | .createTrustedCidr request => (TrustedCidrs.create env db request).versionOnly
  | .createTrustedCidrs items => (TrustedCidrs.createBatch env db items).versionOnly
  | .deleteTrustedCidr id => (TrustedCidrs.deleteById env db id).versionOnly
  | .deleteTrustedCidrs ids => (TrustedCidrs.deleteBatch env db ids).versionOnly
  | .deleteNamedTrustedCidr cidr => (TrustedCidrs.deleteByQuery env db cidr).versionOnly

theorem WriteOk.versionOnly {A : Type} {env : ApiEnv} {db : PolicyDb} {outcome : Outcome A}
    (h : WriteOk env db outcome) : WriteOk env db outcome.versionOnly where
  schema := h.schema
  readable := h.readable
  version := by
    rcases h.version with hsame | ⟨⟨data, hdata⟩, hraised⟩
    · exact Or.inl hsame
    · refine Or.inr ⟨⟨(), ?_⟩, hraised⟩
      rw [Outcome.versionOnly, hdata]
      rfl
  rolledBack := by
    intro e herror
    refine h.rolledBack e ?_
    rw [Outcome.versionOnly] at herror
    cases hanswer : outcome.answer with
    | ok answer =>
        rw [hanswer] at herror
        cases herror
    | error e' =>
        rw [hanswer] at herror
        cases herror
        rfl

theorem writeOk_run {env : ApiEnv} {db : PolicyDb} (h : Schema db) (write : ApiWrite) :
    WriteOk env db (write.run env db) := by
  cases write with
  | createRule => exact (FirewallRules.writeOk_create h _).versionOnly
  | createRules => exact (FirewallRules.writeOk_createBatch h _).versionOnly
  | deleteRule => exact (writeOk_deleteById h cascadeOk_noCascade _).versionOnly
  | deleteRules => exact (FirewallRules.writeOk_deleteBatch h _).versionOnly
  | deleteMatchingRules => exact (FirewallRules.writeOk_deleteByQuery h _).versionOnly
  | createGeoCountry => exact (GeoCountries.writeOk_create h _).versionOnly
  | createGeoCountries => exact (GeoCountries.writeOk_createBatch h _).versionOnly
  | deleteGeoCountry => exact (writeOk_deleteById h cascadeOk_noCascade _).versionOnly
  | deleteGeoCountries => exact (writeOk_deleteBatch h cascadeOk_noCascade _).versionOnly
  | deleteMatchingGeoCountry => exact (writeOk_deleteOnly h).versionOnly
  | createThreatSource => exact (ThreatSources.writeOk_create h _).versionOnly
  | createThreatSources => exact (ThreatSources.writeOk_createBatch h _).versionOnly
  | updateThreatSource => exact (ThreatSources.writeOk_update h _ _).versionOnly
  | deleteThreatSource => exact (ThreatSources.writeOk_deleteById h _).versionOnly
  | deleteThreatSources => exact (ThreatSources.writeOk_deleteBatch h _).versionOnly
  | deleteNamedThreatSource => exact (ThreatSources.writeOk_deleteByQuery h _).versionOnly
  | updateDynamicDefense => exact (DynamicDefense.writeOk_update h _).versionOnly
  | createRateLimit => exact (DynamicRateLimits.writeOk_create h _).versionOnly
  | createRateLimits => exact (DynamicRateLimits.writeOk_createBatch h _).versionOnly
  | deleteRateLimit => exact (writeOk_deleteById h cascadeOk_noCascade _).versionOnly
  | deleteRateLimits => exact (writeOk_deleteBatch h cascadeOk_noCascade _).versionOnly
  | deleteMatchingRateLimit => exact (writeOk_deleteOnly h).versionOnly
  | createTempBan => exact (TempBans.writeOk_create h _).versionOnly
  | createTempBans => exact (TempBans.writeOk_createBatch h _).versionOnly
  | deleteTempBan => exact (TempBans.writeOk_deleteById h _).versionOnly
  | deleteTempBans => exact (TempBans.writeOk_deleteBatch h _).versionOnly
  | createTrustedCidr => exact (TrustedCidrs.writeOk_create h _).versionOnly
  | createTrustedCidrs => exact (TrustedCidrs.writeOk_createBatch h _).versionOnly
  | deleteTrustedCidr => exact (writeOk_deleteById h cascadeOk_noCascade _).versionOnly
  | deleteTrustedCidrs => exact (writeOk_deleteBatch h cascadeOk_noCascade _).versionOnly
  | deleteNamedTrustedCidr => exact (TrustedCidrs.writeOk_deleteByQuery h _).versionOnly

/-! ## Versions -/

/-- What `load_policy` returns, without the version. -/
def content (text : TextReaders) (db : PolicyDb) (now : Int) : Except String PolicySnapshot :=
  (loadPolicy text db defaultPolicyName now).map fun snapshot => { snapshot with version := 0 }

theorem SameInForce.content {text : TextReaders} {db db' : PolicyDb}
    (h : SameInForce defaultPolicyName db db') (now : Int) :
    content text db' now = content text db now := by
  rw [Api.content, Api.content, loadPolicy, loadPolicy, ← loadPolicyWithGeoPrefixes_active,
    h.active, loadPolicyWithGeoPrefixes_active]

theorem SameInForce.policyVersion {db db' : PolicyDb} (h : SameInForce defaultPolicyName db db') :
    policyVersion db' defaultPolicyName = policyVersion db defaultPolicyName := by
  rw [ControlPlane.policyVersion, ControlPlane.policyVersion, h.policyVersions]

/-- What a request may do to the version. -/
structure VersionBumped (env : ApiEnv) (db : PolicyDb) (outcome : Outcome Unit) : Prop where
  complete : ∀ now, content env.text outcome.db now ≠ content env.text db now →
    policyVersion outcome.db defaultPolicyName = policyVersion db defaultPolicyName + 1
  once : policyVersion outcome.db defaultPolicyName = policyVersion db defaultPolicyName ∨
    policyVersion outcome.db defaultPolicyName = policyVersion db defaultPolicyName + 1
  atomic : ∀ e, outcome.answer = .error e → env.versionReadFails = none → outcome.db = db
  quiet : true ∉ outcome.written →
    policyVersion outcome.db defaultPolicyName = policyVersion db defaultPolicyName

/-- Every request raises the version by one when it changes what is loaded, and by no other amount;
it leaves it alone when it writes no row in force. The reading of the version that follows a commit
is left aside. -/
theorem versionBumped_run (env : ApiEnv) (db : PolicyDb) (hschema : Schema db) (write : ApiWrite) :
    VersionBumped env db (write.run env db) := by
  have hwrite := @writeOk_run env db hschema write
  rcases hwrite.version with hsame | ⟨-, hraised, hwritten⟩
  · exact {
      complete := fun now hchanged => absurd (hsame.content now) hchanged
      once := Or.inl hsame.policyVersion
      atomic := hwrite.rolledBack
      quiet := fun _ => hsame.policyVersion }
  · exact {
      complete := fun _ _ => hraised
      once := Or.inr hraised
      atomic := hwrite.rolledBack
      quiet := fun hquiet => absurd hwritten hquiet }

section Exceptions

/-- Surroundings in which only one network is written and read. -/
def officeEnv (versionReadFails : Option ApiError) : ApiEnv where
  text :=
    { ipNet := fun value =>
        if value = "10.0.0.0/8" then some (.v4 (.slash 0x0A000000 8)) else none
      ipAddr := fun _ => none
      cidrArray := fun _ => []
      stringArray := fun _ => none }
  display _ := "10.0.0.0/8"
  displayAddr _ := ""
  keyDigest _ := ""
  urlScheme _ := none
  nodes := []
  now := 0
  nextId ids := Int32.ofNat (ids.length + 1)
  transactionFails := none
  versionReadFails := versionReadFails

/-- A trusted network that is not in force. -/
def disabledOffice : TrustedCidrs.CreateTrustedCidrRequest where
  enabled := some false
  cidr := "10.0.0.0/8"
  comment := none

/-- A trusted network in force. -/
def office : TrustedCidrs.CreateTrustedCidrRequest :=
  { disabledOffice with enabled := some true }

def officeCreated : Outcome Unit :=
  (ApiWrite.createTrustedCidr office).run (officeEnv none) PolicyDb.empty

/-- The number of trusted networks that are loaded. -/
def trustedCount (db : PolicyDb) : Option Nat :=
  (content (officeEnv none).text db 0).toOption.map fun snapshot => snapshot.trustedCidrs.length

theorem versionBumped_run_office :
    content (officeEnv none).text officeCreated.db 0 ≠
        content (officeEnv none).text PolicyDb.empty 0 ∧
      VersionBumped (officeEnv none) PolicyDb.empty officeCreated ∧
      policyVersion officeCreated.db defaultPolicyName = 1 := by
  have hbumped : VersionBumped (officeEnv none) PolicyDb.empty officeCreated :=
    versionBumped_run _ _ schema_empty _
  have hchanged : content (officeEnv none).text officeCreated.db 0 ≠
      content (officeEnv none).text PolicyDb.empty 0 := by
    intro hsame
    have hcount : trustedCount officeCreated.db = trustedCount PolicyDb.empty := by
      rw [trustedCount, trustedCount, hsame]
    exact absurd hcount (by decide +kernel)
  exact ⟨hchanged, hbumped, hbumped.complete 0 hchanged⟩

/-- Dynamic defense that is switched off, with another burst than before. -/
def disabledDefense (ipBurst : Int32) : DynamicDefense.UpdateDynamicDefenseRequest where
  enabled := some false
  ipRateLimitEnabled := none
  ipPacketsPerSecond := none
  ipBurst := some ipBurst
  floodEnabled := none
  floodPacketsPerSecond := none
  floodBurst := none
  floodBlockSeconds := none

def defenseEdited (db : PolicyDb) (ipBurst : Int32) : PolicyDb :=
  ((ApiWrite.updateDynamicDefense (disabledDefense ipBurst)).run (officeEnv none) db).db

/-- A database whose only row is dynamic defense that is switched off. -/
def defenseOff : PolicyDb :=
  defenseEdited PolicyDb.empty 7

/-- The answer to a request for the network, when the version cannot be read after the commit. -/
def unreadVersion : Outcome Unit :=
  (ApiWrite.createTrustedCidr disabledOffice).run
    (officeEnv (some (.internal "database is locked"))) PolicyDb.empty

/-- Dynamic defense is part of every policy, so that editing it raises the version although its row
says disabled before and afterwards. And a request that fails to read the version after its commit
has stored its row. -/
theorem disabled_defense_raises_and_failed_request_stores :
    ((∀ row ∈ defenseOff.dynamicDefense ++ (defenseEdited defenseOff 8).dynamicDefense,
        row.enabled = false) ∧
      policyVersion (defenseEdited defenseOff 8) defaultPolicyName ≠
        policyVersion defenseOff defaultPolicyName) ∧
      (∃ e, unreadVersion.answer = .error e) ∧ unreadVersion.db ≠ PolicyDb.empty := by
  refine ⟨⟨by decide, by decide⟩, ⟨_, rfl⟩, ?_⟩
  intro h
  have hrows := congrArg (fun db => db.trustedCidrs.length) h
  revert hrows
  decide

end Exceptions

end Api
end XdpFirewall
