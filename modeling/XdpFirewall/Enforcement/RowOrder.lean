import Mathlib.Data.Finset.Order
import XdpFirewall.DataPlane.ApplyCapacity
import XdpFirewall.Enforcement.Ties

/-!
# RowOrder — one content, many orders of its rows, one set of maps

A delivery loads the rows, compiles the snapshot and applies the policy. Agents that start from the
same maps end with the same ones, in whatever order the database returned the rows, if and only if
no two rows in force are tied.
-/

namespace XdpFirewall
namespace Enforcement

open Net Policy Lib DataPlane ControlPlane

/-! ## Deliveries -/

/-- The clocks and the operating system during one delivery. -/
structure Moment where
  loadNow : Int
  compileNow : Int
  env : ApplyEnv

/-- From `m` the delivery ends in `m'`. -/
def Delivers (text : TextReaders) (db : PolicyDb) (external : Bool) (moment : Moment)
    (m m' : LinuxXdpManager) : Prop :=
  ∃ snapshot policy, deliveredSnapshot text db external moment.loadNow = .ok snapshot ∧
    compilePolicy moment.compileNow snapshot = .ok policy ∧
      (apply moment.env policy).run m = .ok () m'

/-- Some agent gets the content at some time. -/
def Deliverable (text : TextReaders) (db : PolicyDb) (external : Bool) : Prop :=
  ∃ moment m m', Delivers text db external moment m m'

/-- The maps do not depend on the order of the rows. -/
def OrderFree (text : TextReaders) (db : PolicyDb) (external : Bool) : Prop :=
  ∀ db₁ db₂, SameRows db db₁ → SameRows db db₂ → ∀ moment m m₁ m₂,
    Delivers text db₁ external moment m m₁ → Delivers text db₂ external moment m m₂ →
      SameEntries m₁.maps m₂.maps

variable {text : TextReaders} {db db₁ : PolicyDb} {external : Bool} {now compileNow : Int}
  {snapshot : PolicySnapshot} {policy : CompiledPolicy}

/-! ## Without ties -/

/-- Without ties the same entries are pending in two orders of the rows. -/
theorem samePending_of_noTies {db' : PolicyDb} {snapshot' : PolicySnapshot}
    {policy' : CompiledPolicy} (hsame : SameRows db db') (hkeys : LookupKeys db)
    (hties : NoTies text db external)
    (hload : deliveredSnapshot text db external now = .ok snapshot)
    (hload' : deliveredSnapshot text db' external now = .ok snapshot')
    (hcompile : compilePolicy compileNow snapshot = .ok policy)
    (hcompile' : compilePolicy compileNow snapshot' = .ok policy')
    (hlists : SnapshotPerm snapshot snapshot') (hperm : PolicyPerm policy policy')
    (localCidrs : List LocalInterfaceCidr) (wallNow : Int) :
    SamePending (buildPendingPolicyKeys localCidrs policy wallNow)
      (buildPendingPolicyKeys localCidrs policy' wallNow) := by
  obtain ⟨hloaded, hblocks⟩ := deliveredSnapshot_ok_iff.mp hload
  obtain ⟨hloaded', -⟩ := deliveredSnapshot_ok_iff.mp hload'
  have hpaged : external = true → policy.geoPrefixes = policy'.geoPrefixes := by
    rintro rfl
    obtain ⟨-, _, blocks, -, hgeo, rfl⟩ := compilePolicy_ok hcompile
    obtain ⟨-, _, blocks', -, hgeo', rfl⟩ := compilePolicy_ok hcompile'
    rw [geoPrefixes_of_external hsame hkeys hload hload'] at hgeo
    exact Except.ok.inj (hgeo.symm.trans hgeo')
  have hlimits : ∀ entry,
      entry ∈ (pendingCustomRateLimits policy.dynamicRateLimits).items.map customRateEntry ↔
        entry ∈ (pendingCustomRateLimits policy'.dynamicRateLimits).items.map customRateEntry := by
    obtain ⟨-, _, _, -, -, rfl⟩ := compilePolicy_ok hcompile
    obtain ⟨-, _, _, -, -, rfl⟩ := compilePolicy_ok hcompile'
    exact mem_customRateEntries_congr hloaded hloaded' hlists.dynamicRateLimits hties
  constructor
  · exact mem_ruleEntries_congr hloaded hcompile hperm hties
  · refine mem_geoEntries_congr hloaded hcompile hperm hties ?_ hpaged
    rintro rfl
    exact hblocks
  · exact Collected.ids_collect_congr fun item => (hperm.geoPrefixes.map _).mem_iff
  · exact mem_trustedEntries_congr hperm
  · exact Collected.ids_collect_congr fun key =>
      ((compact_perm isCovering_trustedPrefixCovers.irrefl hperm.trustedPrefixes).map _).mem_iff
  · exact mem_countryEntries_congr hloaded hcompile hperm hties
  · exact hlimits
  · exact Collected.ids_collect_congr fun item => (hperm.dynamicRateLimits.map _).mem_iff
  · exact mem_pendingTempBans_congr hperm
  · exact ids_pendingTempBans_congr hperm

theorem orderFree_of_noTies (hkeys : LookupKeys db) (hties : NoTies text db external) :
    OrderFree text db external := by
  rintro db₁ db₂ hsame₁ hsame₂ moment m m₁ m₂ ⟨snapshot₁, policy₁, hload₁, hcompile₁, happly₁⟩
    ⟨snapshot₂, policy₂, hload₂, hcompile₂, happly₂⟩
  have hsame : SameRows db₁ db₂ := hsame₁.between hsame₂
  have hkeys₁ : LookupKeys db₁ := hsame₁.lookupKeys hkeys
  have hties₁ : NoTies text db₁ external := hties.congr hsame₁ hkeys
  obtain ⟨snapshot', hload', hlists⟩ := deliveredSnapshot_perm hsame hkeys₁ hload₁
  cases hload₂.symm.trans hload'
  obtain ⟨policy', hcompile', hperm⟩ := compilePolicy_perm hlists hcompile₁
  cases hcompile₂.symm.trans hcompile'
  obtain ⟨current, hgrow, happly₁⟩ := apply_ok happly₁
  obtain ⟨current', hgrow', happly₂⟩ := apply_ok happly₂
  -- Both need the same room, so both write to the same maps.
  rw [← growMaps_perm hperm] at hgrow'
  cases hgrow.symm.trans hgrow'
  exact sameEntries_of_applied hperm.dynamicDefense
    (samePending_of_noTies hsame hkeys₁ hties₁ hload₁ hload₂ hcompile₁ hcompile₂ hlists hperm _ _)
    happly₁ happly₂

/-! ## A delivery that every order reaches -/

/-- A delivery to the maps that the agent has. -/
structure Delivered (text : TextReaders) (db : PolicyDb) (external : Bool) (moment : Moment)
    (m : LinuxXdpManager) (snapshot : PolicySnapshot) (policy : CompiledPolicy)
    (m' : LinuxXdpManager) : Prop where
  loaded : LoadedFrom text db defaultPolicyName moment.loadNow snapshot
  blocks : loadPersistedGeoPrefixes text db (blockCountries db external snapshot.geoCountries) =
    .ok snapshot.geoPrefixes
  compiled : compilePolicy moment.compileNow snapshot = .ok policy
  applied : (applyToCurrentMaps moment.env policy).run m = .ok () m'
  run : (apply moment.env policy).run m = .ok () m'

theorem Delivered.delivers {moment : Moment} {m m' : LinuxXdpManager}
    (h : Delivered text db external moment m snapshot policy m') :
    Delivers text db external moment m m' :=
  ⟨snapshot, policy, deliveredSnapshot_ok_iff.mpr ⟨h.loaded, h.blocks⟩, h.compiled, h.run⟩

/-- Late enough no ban is in force. -/
theorem exists_noBans (bans : List TempBanPolicy) :
    ∃ late, compileActiveTempBans late bans = [] := by
  obtain ⟨late, hlate⟩ := (bans.map TempBanPolicy.expiresAt).toFinset.exists_le
  refine ⟨late, ?_⟩
  rw [compileActiveTempBans, List.map_eq_nil_iff, List.filter_eq_nil_iff]
  intro ban hban
  have hle := hlate ban.expiresAt (List.mem_toFinset.mpr (List.mem_map_of_mem hban))
  rw [decide_eq_true_eq]
  exact Int.not_lt.mpr hle

/-- What some agent gets in some order, an agent with empty maps of the right size gets in every
order once the bans have ended. -/
theorem exists_delivered (hkeys : LookupKeys db) (h : Deliverable text db external) :
    ∃ moment m, m.localInterfaceCidrs = [] ∧ ∀ db', SameRows db db' →
      ∃ snapshot policy m', Delivered text db' external moment m snapshot policy m' := by
  obtain ⟨moment, m, m', snapshot, policy, hload, hcompile, happly⟩ := h
  obtain ⟨current, -, happlied⟩ := apply_ok happly
  obtain ⟨monotonicNow, hadmitted, -⟩ := applyToCurrentMaps_ok happlied
  obtain ⟨required, hreq, -⟩ := hadmitted.sizes
  obtain ⟨hvalid, countries, blocks, hcountries, hblocks, rfl⟩ := compilePolicy_ok hcompile
  obtain ⟨late, hlate⟩ := exists_noBans snapshot.tempBans
  have hcompile' := compilePolicy_of_valid late hvalid hcountries hblocks
  rw [hlate] at hcompile'
  obtain ⟨room, hroom, hrates⟩ := requiredPolicyMapSizes_of_noBans hreq
  refine ⟨⟨moment.loadNow, late, idleEnv⟩, freshManager room, rfl, fun db' hsame => ?_⟩
  obtain ⟨snapshot', hload', hlists⟩ := deliveredSnapshot_perm hsame hkeys hload
  obtain ⟨policy', hcompiled, hperm⟩ := compilePolicy_perm hlists hcompile'
  have hbans : policy'.tempBans = [] := hperm.tempBans.symm.eq_nil
  have hreq' : requiredPolicyMapSizes (freshManager room) policy' = .ok room := by
    rw [← requiredPolicyMapSizes_perm hperm, ← hroom]
    exact requiredPolicyMapSizes_congr hrates _
  obtain ⟨m'', happlied', hrun⟩ := run_freshManager hbans hreq'
  obtain ⟨hloaded, hpages⟩ := deliveredSnapshot_ok_iff.mp hload'
  exact ⟨snapshot', policy', m'', hloaded, hpages, hcompiled, happlied', hrun⟩

/-- Two orders of the rows, delivered to one agent. -/
theorem exists_both (hkeys : LookupKeys db) (hdeliverable : Deliverable text db external)
    (h : OrderFree text db external) {db₁ db₂ : PolicyDb} (hsame₁ : SameRows db db₁)
    (hsame₂ : SameRows db db₂) :
    ∃ moment m snapshot₁ policy₁ m₁ snapshot₂ policy₂ m₂, m.localInterfaceCidrs = [] ∧
      Delivered text db₁ external moment m snapshot₁ policy₁ m₁ ∧
      Delivered text db₂ external moment m snapshot₂ policy₂ m₂ ∧
      SameEntries m₁.maps m₂.maps := by
  obtain ⟨moment, m, hlocal, hevery⟩ := exists_delivered hkeys hdeliverable
  obtain ⟨snapshot₁, policy₁, m₁, hdelivered₁⟩ := hevery db₁ hsame₁
  obtain ⟨snapshot₂, policy₂, m₂, hdelivered₂⟩ := hevery db₂ hsame₂
  exact ⟨moment, m, snapshot₁, policy₁, m₁, snapshot₂, policy₂, m₂, hlocal, hdelivered₁,
    hdelivered₂, h db₁ db₂ hsame₁ hsame₂ moment m m₁ m₂ hdelivered₁.delivers
      hdelivered₂.delivers⟩

/-! ## With ties -/

section Necessary

variable (hkeys : LookupKeys db) (hdeliverable : Deliverable text db external)
  (horder : OrderFree text db external)
include hkeys hdeliverable horder

/-- Each of two rules that nothing precedes is the stored one where its row comes first. -/
theorem rules_of_orderFree {a b : FirewallRule} (ha : db.HasRule text a)
    (hb : db.HasRule text b) (hkey : SameRuleKey a b) (hpriority : a.priority = b.priority)
    (hnot : ¬ Preceded text db a) : a.action = b.action := by
  have hnot' : ¬ Preceded text db b := fun h => hnot (preceded_of_sameKey hkey hpriority h)
  obtain ⟨rowA, hrowA, hforceA, hparseA⟩ := ha
  obtain ⟨rowB, hrowB, hforceB, hparseB⟩ := hb
  obtain ⟨restA, hpermA⟩ := exists_perm_cons hrowA
  obtain ⟨restB, hpermB⟩ := exists_perm_cons hrowB
  have hsameA : SameRows db { db with firewallRules := rowA :: restA } :=
    { SameRows.refl db with firewallRules := hpermA }
  have hsameB : SameRows db { db with firewallRules := rowB :: restB } :=
    { SameRows.refl db with firewallRules := hpermB }
  obtain ⟨moment, m, snapshotA, policyA, mA, snapshotB, policyB, mB, hlocal, hA, hB, hentries⟩ :=
    exists_both hkeys hdeliverable horder hsameA hsameB
  have hstoredA : Stored [] policyA (compiledRule a) :=
    stored_of_front hA.loaded hA.compiled rfl hforceA hparseA
      fun h => hnot ((preceded_congr hsameA).mpr h)
  have hstoredB : Stored [] policyB (compiledRule b) :=
    stored_of_front hB.loaded hB.compiled rfl hforceB hparseB
      fun h => hnot' ((preceded_congr hsameB).mpr h)
  rw [← hlocal] at hstoredA hstoredB
  have hmemA := (hentries.rules _).mp
    ((mem_ruleCidrs_iff_stored hA.applied).mpr ⟨_, hstoredA, rfl⟩)
  have hmemB := (mem_ruleCidrs_iff_stored hB.applied).mpr ⟨_, hstoredB, rfl⟩
  have hsame := KeyedStore.eq_of_ident_eq _ hmemA hmemB
    (congrArg LpmKey.bits (keyOfRule_compiledRule.mpr hkey))
  exact actionCode_injective (congrArg (fun entry => RuleValue.action entry.2) hsame)

theorem rateLimits_of_orderFree {a b : DynamicRateLimitPolicy} (ha : db.HasRateLimit a)
    (hb : db.HasRateLimit b) (hkey : SameLimitKey a b) (hpriority : a.priority = b.priority)
    (hnot : ∀ other, db.HasRateLimit other → SameLimitKey other a →
      ¬ other.priority < a.priority) :
    a.packetsPerSecond = b.packetsPerSecond ∧ a.burst = b.burst := by
  obtain ⟨rowA, hrowA, hforceA, hparseA⟩ := ha
  obtain ⟨rowB, hrowB, hforceB, hparseB⟩ := hb
  obtain ⟨restA, hpermA⟩ := exists_perm_cons hrowA
  obtain ⟨restB, hpermB⟩ := exists_perm_cons hrowB
  have hsameA : SameRows db { db with dynamicRateLimits := rowA :: restA } :=
    { SameRows.refl db with dynamicRateLimits := hpermA }
  have hsameB : SameRows db { db with dynamicRateLimits := rowB :: restB } :=
    { SameRows.refl db with dynamicRateLimits := hpermB }
  obtain ⟨moment, m, snapshotA, policyA, mA, snapshotB, policyB, mB, -, hA, hB, hentries⟩ :=
    exists_both hkeys hdeliverable horder hsameA hsameB
  have hfirstA : FirstLimit snapshotA.dynamicRateLimits a :=
    firstLimit_of_front hA.loaded rfl hforceA hparseA
      fun other hother => hnot other (hsameA.hasRateLimit.mpr hother)
  have hfirstB : FirstLimit snapshotB.dynamicRateLimits b := by
    refine firstLimit_of_front hB.loaded rfl hforceB hparseB fun other hother hsame => ?_
    rw [← hpriority]
    exact hnot other (hsameB.hasRateLimit.mpr hother)
      ⟨hsame.1.trans hkey.1.symm, hsame.2.trans hkey.2.symm⟩
  have hwritten : ∀ {snapshot policy m'} {limit : DynamicRateLimitPolicy},
      compilePolicy moment.compileNow snapshot = .ok policy →
      (applyToCurrentMaps moment.env policy).run m = .ok () m' →
      FirstLimit snapshot.dynamicRateLimits limit →
        limitEntry limit ∈ m'.maps.customRateLimits := by
    intro snapshot policy m' limit hcompile happlied hfirst
    obtain ⟨-, countries, blocks, -, -, rfl⟩ := compilePolicy_ok hcompile
    exact (mem_customRateLimits_of_applied happlied).mpr
      (Or.inl (mem_customRateEntries_iff.mpr ⟨limit, hfirst, rfl⟩))
  have hmemA := (hentries.customRate _).mp (hwritten hA.compiled hA.applied hfirstA)
  have hmemB := hwritten hB.compiled hB.applied hfirstB
  have hident : (limitEntry a).1 = (limitEntry b).1 := by
    simp only [limitEntry, customRateEntry, hkey.1, hkey.2]
  have hsame := KeyedStore.eq_of_ident_eq _ hmemA hmemB hident
  exact ⟨congrArg (fun entry => CustomRateValue.packetsPerSecond entry.2) hsame,
    congrArg (fun entry => CustomRateValue.burst entry.2) hsame⟩

theorem countries_of_orderFree {a b : GeoCountryPolicy} (ha : db.HasCountry a)
    (hb : db.HasCountry b) (hcountry : a.country = b.country) : a.action = b.action := by
  obtain ⟨rowA, hrowA, hforceA, hparseA⟩ := ha
  obtain ⟨rowB, hrowB, hforceB, hparseB⟩ := hb
  obtain ⟨restA, hpermA⟩ := exists_perm_cons hrowA
  obtain ⟨restB, hpermB⟩ := exists_perm_cons hrowB
  have hsameA : SameRows db { db with geoCountries := rowA :: restA } :=
    { SameRows.refl db with geoCountries := hpermA }
  have hsameB : SameRows db { db with geoCountries := rowB :: restB } :=
    { SameRows.refl db with geoCountries := hpermB }
  obtain ⟨moment, m, snapshotA, policyA, mA, snapshotB, policyB, mB, -, hA, hB, hentries⟩ :=
    exists_both hkeys hdeliverable horder hsameA hsameB
  obtain ⟨a', afterA, hparseA', hcountriesA⟩ := hA.loaded.geoCountries_front rfl hforceA
  obtain ⟨b', afterB, hparseB', hcountriesB⟩ := hB.loaded.geoCountries_front rfl hforceB
  cases hparseA.symm.trans hparseA'
  cases hparseB.symm.trans hparseB'
  obtain ⟨code, hcodeA, hpendingA⟩ :=
    countryEntry_of_front hA.compiled hcountriesA moment.env.wallNow
  obtain ⟨code', hcodeB, hpendingB⟩ :=
    countryEntry_of_front hB.compiled hcountriesB moment.env.wallNow
  rw [hcountry] at hcodeA
  cases hcodeA.symm.trans hcodeB
  have hmemA := (hentries.country _).mp ((mem_countryRules_of_applied hA.applied).mpr hpendingA)
  have hmemB := (mem_countryRules_of_applied hB.applied).mpr hpendingB
  have hsame := KeyedStore.eq_of_ident_eq _ hmemA hmemB rfl
  exact actionCode_injective (congrArg (fun entry => CountryValue.action entry.2) hsame)

end Necessary

theorem blocks_of_orderFree (hkeys : LookupKeys db) (hdeliverable : Deliverable text db false)
    (horder : OrderFree text db false) {a b : GeoIpPrefixPolicy} (ha : db.HasBlock text a)
    (hb : db.HasBlock text b) (hnet : a.cidr.toNetwork = b.cidr.toNetwork) :
    a.country = b.country := by
  obtain ⟨countryA, hcountryA, blocksA, hblocksA, hmemA⟩ := ha
  obtain ⟨countryB, hcountryB, blocksB, hblocksB, hmemB⟩ := hb
  have hnormalA := normalized_of_hasCountry hcountryA
  have hnormalB := normalized_of_hasCountry hcountryB
  obtain ⟨rowA, hrowA, hforceA, hparseA⟩ := hcountryA
  obtain ⟨rowB, hrowB, hforceB, hparseB⟩ := hcountryB
  obtain ⟨restA, hpermA⟩ := exists_perm_cons hrowA
  obtain ⟨restB, hpermB⟩ := exists_perm_cons hrowB
  have hsameA : SameRows db { db with geoCountries := rowA :: restA } :=
    { SameRows.refl db with geoCountries := hpermA }
  have hsameB : SameRows db { db with geoCountries := rowB :: restB } :=
    { SameRows.refl db with geoCountries := hpermB }
  obtain ⟨moment, m, snapshotA, policyA, mA, snapshotB, policyB, mB, -, hA, hB, hentries⟩ :=
    exists_both hkeys hdeliverable horder hsameA hsameB
  -- In either order the network is written with the country that comes first.
  have hwritten : ∀ {db' : PolicyDb} {snapshot policy m'} {row : GeoCountryRow}
      {rest : List GeoCountryRow} {country : GeoCountryPolicy} {blocks : List GeoIpPrefixPolicy}
      {block : GeoIpPrefixPolicy}, SameRows db db' →
      Delivered text db' false moment m snapshot policy m' → db'.geoCountries = row :: rest →
      (row.policyName = defaultPolicyName ∧ row.enabled) →
      parseGeoCountryPolicy row = .ok country →
      normalizedCountry country.country = .ok country.country →
      persistedCountryPrefixes text db country.country = .ok blocks → block ∈ blocks →
      ∃ code, encodeCountry country.country = .ok code ∧
        (geoKey block.cidr.toNetwork.addr block.cidr.toNetwork.prefixLen,
          ({ country := code } : GeoValue)) ∈ m'.maps.geoCidrs := by
    intro db' snapshot policy m' row rest country blocks block hsame h hrows hforce hparse hnormal
      hblocks hblock
    obtain ⟨first, after, hfirst, hcountries⟩ := h.loaded.geoCountries_front hrows hforce
    cases hparse.symm.trans hfirst
    obtain ⟨front, back, hfront, hsplit⟩ := geoPrefixes_front hcountries h.blocks
    rw [← persistedCountryPrefixes_perm hsame hkeys] at hfront
    cases hblocks.symm.trans hfront
    obtain ⟨other, hother, code, hcode, hpending⟩ :=
      geoEntry_of_front h.compiled hsplit hblock moment.env.wallNow
    rw [country_of_mem_persistedCountryPrefixes hnormal hblocks hother] at hcode
    exact ⟨code, hcode, (mem_geoCidrs_of_applied h.applied).mpr (Or.inl hpending)⟩
  obtain ⟨codeA, hcodeA, hkeptA⟩ :=
    hwritten hsameA hA rfl hforceA hparseA hnormalA hblocksA hmemA
  obtain ⟨codeB, hcodeB, hkeptB⟩ :=
    hwritten hsameB hB rfl hforceB hparseB hnormalB hblocksB hmemB
  rw [hnet] at hkeptA
  have hsame := KeyedStore.eq_of_ident_eq _ ((hentries.geo _).mp hkeptA) hkeptB rfl
  have hcodes : codeA = codeB := congrArg (fun entry => GeoValue.country entry.2) hsame
  rw [country_of_mem_persistedCountryPrefixes hnormalA hblocksA hmemA,
    country_of_mem_persistedCountryPrefixes hnormalB hblocksB hmemB]
  exact eq_of_encodeCountry hnormalA hnormalB hcodeA (hcodes ▸ hcodeB)

/-- Maps that do not depend on the order of the rows come from rows without ties. -/
theorem noTies_of_orderFree (hkeys : LookupKeys db)
    (hdeliverable : Deliverable text db external) (horder : OrderFree text db external) :
    NoTies text db external where
  rules a b ha hb hkey hpriority := by
    by_cases hpreceded : Preceded text db a
    · exact Or.inr hpreceded
    · exact Or.inl
        (rules_of_orderFree hkeys hdeliverable horder ha hb hkey hpriority hpreceded)
  countries _ _ := countries_of_orderFree hkeys hdeliverable horder
  rateLimits a b ha hb hkey hpriority := by
    by_cases hpreceded : ∃ other, db.HasRateLimit other ∧ SameLimitKey other a ∧
        other.priority < a.priority
    · exact Or.inr hpreceded
    · refine Or.inl (rateLimits_of_orderFree hkeys hdeliverable horder ha hb hkey hpriority ?_)
      exact fun other hother hsame hlt => hpreceded ⟨other, hother, hsame, hlt⟩
  blocks := by
    rintro rfl a b ha hb
    exact blocks_of_orderFree hkeys hdeliverable horder ha hb

/-- Whether some agent can get the content does not depend on the order either. -/
theorem Deliverable.congr (h : Deliverable text db₁ external) (hkeys : LookupKeys db₁)
    (hsame : SameRows db₁ db) : Deliverable text db external := by
  obtain ⟨moment, m, -, hevery⟩ := exists_delivered hkeys h
  obtain ⟨snapshot, policy, m', hdelivered⟩ := hevery db hsame
  exact ⟨moment, m, m', hdelivered.delivers⟩

/-- The order of the rows does not matter exactly when no agent can get the content at all or no
two rows are tied. -/
theorem orderFree_iff (hkeys : LookupKeys db) :
    OrderFree text db external ↔ (Deliverable text db external → NoTies text db external) := by
  constructor
  · exact fun horder hdeliverable => noTies_of_orderFree hkeys hdeliverable horder
  · intro h db₁ db₂ hsame₁ hsame₂ moment m m₁ m₂ hdelivers₁ hdelivers₂
    have hdeliverable : Deliverable text db external :=
      Deliverable.congr ⟨moment, m, m₁, hdelivers₁⟩ (hsame₁.lookupKeys hkeys)
        (hsame₁.between (.refl db))
    exact orderFree_of_noTies hkeys (h hdeliverable) db₁ db₂ hsame₁ hsame₂ moment m m₁ m₂
      hdelivers₁ hdelivers₂

/-! ## Two rules that are tied -/

def officeCidr : IpNet :=
  .v4 (.slash 0xc0000200 24)

def officeText : TextReaders where
  ipNet := fun value => if value = "192.0.2.0/24" then some officeCidr else none
  ipAddr := fun _ => none
  cidrArray := fun _ => []
  stringArray := fun _ => none

def officeRow (id : Int32) (ruleKey action : String) : FirewallRuleRow where
  id := id
  policyName := defaultPolicyName
  ruleKey := ruleKey
  enabled := true
  priority := 100
  action := action
  cidr := "192.0.2.0/24"
  protocol := none
  port := none
  comment := none

def officeRule (action : RuleAction) : FirewallRule where
  priority := 100
  action := action
  cidr := officeCidr
  protocol := .any
  port := none
  comment := none

/-- One rule allows what the other one, with the same priority, denies. -/
def tiedRules : PolicyDb :=
  { PolicyDb.empty with
    firewallRules := [officeRow 1 "allow-office" "allow", officeRow 2 "deny-office" "deny"] }

theorem parseRule_officeRow (id : Int32) (ruleKey : String) :
    parseRule officeText (officeRow id ruleKey "allow") = .ok (officeRule .allow) ∧
      parseRule officeText (officeRow id ruleKey "deny") = .ok (officeRule .deny) := by
  have hlower : "allow".toLower = "allow" ∧ "deny".toLower = "deny" :=
    ⟨toLower_eq_self (by decide), toLower_eq_self (by decide)⟩
  constructor <;>
    simp [parseRule, officeRow, parseAction, hlower, parseCidr, officeText, parseOptionalPort,
      officeRule] <;> rfl

theorem lookupKeys_tiedRules : LookupKeys tiedRules :=
  ⟨List.nodup_nil, List.nodup_nil⟩

theorem orderFree_iff_tiedRules :
    OrderFree officeText tiedRules true ↔
      (Deliverable officeText tiedRules true → NoTies officeText tiedRules true) :=
  orderFree_iff lookupKeys_tiedRules

/-- The snapshot of the two rules. -/
def tiedSnapshot : PolicySnapshot where
  version := 0
  rules := [officeRule .allow, officeRule .deny]
  geoCountries := []
  geoPrefixes := []
  tempBans := []
  dynamicDefense := DynamicDefensePolicy.default
  dynamicRateLimits := []
  trustedCidrs := []
  threatSources := []
  threatPrefixes := []

theorem loadedFrom_tiedRules (now : Int) :
    LoadedFrom officeText tiedRules defaultPolicyName now tiedSnapshot := by
  have hrules : loadFirewallRules officeText tiedRules defaultPolicyName =
      .ok tiedSnapshot.rules := by
    have hfilter : (tiedRules.firewallRules.filter fun row =>
        row.policyName = defaultPolicyName ∧ row.enabled) = tiedRules.firewallRules := by decide
    have hsorted : (tiedRules.firewallRules.mergeSort fun a b => a.priority ≤ b.priority) =
        tiedRules.firewallRules := List.mergeSort_of_pairwise (by decide)
    rw [loadFirewallRules, hfilter, hsorted]
    simp only [tiedRules, List.mapM_cons, List.mapM_nil, parseRule_officeRow]
    rfl
  constructor
  · rfl
  · exact hrules
  · rfl
  · rfl
  · simp [loadPersistedThreatPrefixes, tiedRules, PolicyDb.empty, normalizeThreatPrefixes,
      tiedSnapshot]
    rfl
  · rfl
  · simp [loadDynamicRateLimits, tiedRules, PolicyDb.empty, tiedSnapshot]
    rfl
  · simp [loadActiveTempBans, tiedRules, PolicyDb.empty, tiedSnapshot]
    rfl
  · simp [loadTrustedCidrs, tiedRules, PolicyDb.empty, tiedSnapshot]
    rfl

/-- Room for the two rules. -/
def tiedSizes : XdpMapSizes where
  ruleEntries := 2
  geoEntries := 0
  trustedEntries := 0
  countryEntries := 0
  rateEntries := 16
  customRateLimitEntries := 0
  tempBanEntries := 0

theorem deliverable_tiedRules : Deliverable officeText tiedRules true := by
  have hblocks : loadPersistedGeoPrefixes officeText tiedRules
      (blockCountries tiedRules true tiedSnapshot.geoCountries) = .ok tiedSnapshot.geoPrefixes := by
    simp [blockCountries, enabledGeoCountries, tiedRules, PolicyDb.empty, tiedSnapshot,
      loadPersistedGeoPrefixes]
    rfl
  have hload := deliveredSnapshot_ok_iff.mpr ⟨loadedFrom_tiedRules 0, hblocks⟩
  obtain ⟨policy, hcompile, hbans, hreq⟩ : ∃ policy, compilePolicy 0 tiedSnapshot = .ok policy ∧
      policy.tempBans = [] ∧
      requiredPolicyMapSizes (freshManager tiedSizes) policy = .ok tiedSizes :=
    ⟨_, compilePolicy_of_valid 0 rfl rfl rfl, rfl, rfl⟩
  obtain ⟨m', -, hrun⟩ := run_freshManager hbans hreq
  exact ⟨⟨0, 0, idleEnv⟩, freshManager tiedSizes, m', tiedSnapshot, policy, hload, hcompile, hrun⟩

/-- Nothing decides which of the two rules an agent enforces. -/
theorem tiedRules_not_orderFree :
    ¬ ∀ text db external, LookupKeys db → OrderFree text db external := by
  intro h
  have hties := noTies_of_orderFree lookupKeys_tiedRules deliverable_tiedRules
    (h officeText tiedRules true lookupKeys_tiedRules)
  have hallow : tiedRules.HasRule officeText (officeRule .allow) :=
    ⟨officeRow 1 "allow-office" "allow", by decide, by decide, (parseRule_officeRow _ _).1⟩
  have hdeny : tiedRules.HasRule officeText (officeRule .deny) :=
    ⟨officeRow 2 "deny-office" "deny", by decide, by decide, (parseRule_officeRow _ _).2⟩
  rcases hties.rules _ _ hallow hdeny ⟨rfl, rfl, rfl⟩ rfl with haction | hpreceded
  · cases haction
  · rcases hpreceded with ⟨other, ⟨row, hrow, -, hparse⟩, -, hlt⟩ |
      ⟨threat, ⟨source, hsource, -⟩, -⟩
    · rw [priority_of_parseRule hparse] at hlt
      have hpriority : row.priority = 100 := by
        rcases List.mem_cons.mp hrow with rfl | hrow
        · rfl
        · rcases List.mem_singleton.mp hrow with rfl
          rfl
      rw [hpriority] at hlt
      exact Int32.lt_irrefl hlt
    · cases hsource

end Enforcement
end XdpFirewall
