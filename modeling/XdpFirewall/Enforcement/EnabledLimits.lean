import XdpFirewall.Bpf.RateLimit
import XdpFirewall.DataPlane.ApplyContent
import XdpFirewall.DataPlane.ApplyExact
import XdpFirewall.Enforcement.Ties

/-!
# EnabledLimits — a limit that is turned on has a rate

The filter takes a rate or a burst of zero for no limit at all. Numbers are optional in the
policy, and an absent one is compiled to zero. The validators ask for the numbers of the limits
that are turned on, and for those only, so no limit that the filter asks is such a zero.
-/

namespace XdpFirewall
namespace Enforcement

open Net Policy Lib DataPlane Bpf

/-! ## Validators -/

theorem requirePositiveDynamicValue_ok {name : String} {value : Option U32}
    (h : requirePositiveDynamicValue name value = .ok ()) : value.getD 0 ≠ 0 := by
  cases value with
  | none => cases h
  | some value =>
      rw [requirePositiveDynamicValue] at h
      split at h
      · rename_i hpos
        rintro rfl
        exact absurd hpos (by decide)
      · cases h

section Defense

variable {policy : DynamicDefensePolicy}

/-- What is checked of the global limits when dynamic defense is on. -/
structure ValidDefense (policy : DynamicDefensePolicy) : Prop where
  ip : policy.ipRateLimitEnabled = true →
    policy.ipPacketsPerSecond.getD 0 ≠ 0 ∧ policy.ipBurst.getD 0 ≠ 0
  flood : policy.floodEnabled = true →
    policy.floodPacketsPerSecond.getD 0 ≠ 0 ∧ policy.floodBurst.getD 0 ≠ 0 ∧
      policy.floodBlockSeconds.getD 0 ≠ 0

theorem floodValues_of_ok
    (h : (if policy.floodEnabled = true then do
        requirePositiveDynamicValue "dynamic defense flood packets_per_second"
          policy.floodPacketsPerSecond
        requirePositiveDynamicValue "dynamic defense flood burst" policy.floodBurst
        requirePositiveDynamicValue "dynamic defense flood block seconds" policy.floodBlockSeconds
      else pure ()) = Except.ok ()) (hflood : policy.floodEnabled = true) :
    policy.floodPacketsPerSecond.getD 0 ≠ 0 ∧ policy.floodBurst.getD 0 ≠ 0 ∧
      policy.floodBlockSeconds.getD 0 ≠ 0 := by
  simp only [hflood, if_true, bind_ok_iff] at h
  rcases h with ⟨_, hpps, _, hburst, hblock⟩
  exact ⟨requirePositiveDynamicValue_ok hpps, requirePositiveDynamicValue_ok hburst,
    requirePositiveDynamicValue_ok hblock⟩

theorem validDefense_of_ok (h : validateDynamicDefensePolicy policy = .ok ())
    (henabled : policy.enabled = true) : ValidDefense policy := by
  rw [validateDynamicDefensePolicy, henabled] at h
  simp only [Bool.not_true, Bool.false_eq_true, if_false] at h
  cases hip : policy.ipRateLimitEnabled with
  | false =>
      simp only [hip, if_false, Bool.false_eq_true] at h
      exact ⟨fun hon => absurd (hip.symm.trans hon) Bool.false_ne_true, floodValues_of_ok h⟩
  | true =>
      simp only [hip, if_true, bind_ok_iff] at h
      rcases h with ⟨_, hpps, _, hburst, hflood⟩
      exact ⟨fun _ => ⟨requirePositiveDynamicValue_ok hpps, requirePositiveDynamicValue_ok hburst⟩,
        floodValues_of_ok hflood⟩

end Defense

theorem validRateLimit_of_ok {limit : DynamicRateLimitPolicy}
    (h : validateDynamicRateLimitPolicy limit = .ok ()) :
    limit.packetsPerSecond ≠ 0 ∧ limit.burst ≠ 0 := by
  rw [validateDynamicRateLimitPolicy] at h
  constructor
  · intro hzero
    rw [if_pos hzero] at h
    cases h
  · intro hzero
    by_cases hpps : limit.packetsPerSecond = 0
    · rw [if_pos hpps] at h
      cases h
    · rw [if_neg hpps, if_pos hzero] at h
      cases h

/-! ## Limits of the filter -/

/-- The filter takes the limit for one. -/
def LimitInForce (limit : RateLimit) : Prop :=
  limit.packetsPerSecond ≠ 0 ∧ limit.burst ≠ 0

/-- What `token_bucket_limited` does after its early return. -/
def chargeBucket (env : PacketEnv) (now : U64) (key : RateKey) (limit : RateLimit)
    (buckets : RateBuckets) : Bool × RateBuckets :=
  match buckets.get? key with
  | none =>
      let initial : RateBucket :=
        { tokens := (limit.burst - 1).setWidth 64
          updatedNs := now
          blockedUntilNs := 0 }
      (false, storeBucket env key initial buckets)
  | some entry =>
      let (limited, bucket) := takeToken entry.2 now limit
      (limited, buckets.set key bucket)

theorem tokenBucketLimited_of_inForce {limit : RateLimit} (h : LimitInForce limit)
    (env : PacketEnv) (now : U64) (key : RateKey) (buckets : RateBuckets) :
    tokenBucketLimited env now key limit buckets = chargeBucket env now key limit buckets := by
  have hnonzero : ¬ (limit.packetsPerSecond = 0 ∨ limit.burst = 0) :=
    not_or.mpr h
  rw [tokenBucketLimited, if_neg hnonzero]
  rfl

/-- The limits of a packet that `dynamic_defense_limited` asks while they are turned on. -/
inductive EnabledLimit (maps : PolicyMaps) (packet : Packet) : RateLimit → Prop
  | custom {matched : MatchedRate} (enabled : maps.defensePolicy.enabled ≠ 0)
      (found : lookupCustomRate maps packet.proto packet.dport = some matched) :
      EnabledLimit maps packet (customLimit matched.limit)
  | flood (enabled : maps.defensePolicy.enabled ≠ 0)
      (floodEnabled : maps.defensePolicy.floodEnabled ≠ 0) :
      EnabledLimit maps packet (floodLimit maps.defensePolicy)
  | ip (enabled : maps.defensePolicy.enabled ≠ 0)
      (ipEnabled : maps.defensePolicy.ipRateLimitEnabled ≠ 0) :
      EnabledLimit maps packet (ipLimit maps.defensePolicy)

/-- The global limits that are turned on in a value of the defense map. -/
structure GlobalInForce (value : DefenseValue) : Prop where
  ip : value.enabled ≠ 0 → value.ipRateLimitEnabled ≠ 0 → LimitInForce (ipLimit value)
  flood : value.enabled ≠ 0 → value.floodEnabled ≠ 0 →
    LimitInForce (floodLimit value) ∧ value.floodBlockNs ≠ 0

/-! ## Compiled policies -/

theorem boolCode_ne_zero {flag : Bool} (h : boolCode flag ≠ 0) : flag = true := by
  cases flag with
  | true => rfl
  | false => exact absurd rfl h

/-- Seconds of 32 bits are nanoseconds of 64 bits. -/
theorem toNat_floodBlockNs (policy : XdpDynamicDefense) :
    (defenseValue policy).floodBlockNs.toNat = policy.floodBlockSeconds.toNat * 1000000000 := by
  have hlt : policy.floodBlockSeconds.toNat * 1000000000 < 2 ^ 64 := by
    have := policy.floodBlockSeconds.isLt
    omega
  have hwide : policy.floodBlockSeconds.toNat < 2 ^ 64 := by omega
  rw [defenseValue, BitVec.toNat_mul, BitVec.toNat_setWidth, Nat.mod_eq_of_lt hwide]
  exact Nat.mod_eq_of_lt hlt

section Compiled

variable {now : Int} {snapshot : PolicySnapshot} {policy : CompiledPolicy}

theorem globalInForce_of_compiled (h : compilePolicy now snapshot = .ok policy) :
    GlobalInForce (defenseValue policy.dynamicDefense) := by
  rcases compilePolicy_ok h with ⟨hvalid, countryRules, geoPrefixes, -, -, rfl⟩
  have hdefense := (validatePolicy_ok_iff.mp hvalid).1
  constructor
  · intro henabled hip
    exact (validDefense_of_ok hdefense (boolCode_ne_zero henabled)).ip (boolCode_ne_zero hip)
  · intro henabled hflood
    rcases (validDefense_of_ok hdefense (boolCode_ne_zero henabled)).flood
      (boolCode_ne_zero hflood) with ⟨hpps, hburst, hblock⟩
    refine ⟨⟨hpps, hburst⟩, ?_⟩
    intro hzero
    have hns := toNat_floodBlockNs (compileDynamicDefense snapshot.dynamicDefense)
    rw [hzero] at hns
    have hseconds : (snapshot.dynamicDefense.floodBlockSeconds.getD 0).toNat = 0 :=
      (Nat.mul_eq_zero.mp hns.symm).resolve_right (by decide)
    exact hblock (BitVec.eq_of_toNat_eq hseconds)

theorem customInForce_of_compiled (h : compilePolicy now snapshot = .ok policy)
    {limit : XdpDynamicRateLimit} (hlimit : limit ∈ policy.dynamicRateLimits) :
    LimitInForce (customLimit (customRateValue limit)) := by
  rcases compilePolicy_ok h with ⟨hvalid, countryRules, geoPrefixes, -, -, rfl⟩
  rcases List.mem_map.mp hlimit with ⟨row, hrow, rfl⟩
  exact validRateLimit_of_ok ((validatePolicy_ok_iff.mp hvalid).2 row hrow)

end Compiled

/-! ## Applied policies -/

section Applied

variable {now : Int} {snapshot : PolicySnapshot} {policy : CompiledPolicy} {env : ApplyEnv}
  {m m' : LinuxXdpManager} {packet : Packet} {limit : RateLimit}

/-- A lookup finds an entry whose key is padded with zeros. -/
theorem entry_of_lookupCustomRate {maps : PolicyMaps} {proto : U8} {dport : U16}
    {matched : MatchedRate} (h : lookupCustomRate maps proto dport = some matched) :
    ∃ entry ∈ maps.customRateLimits, entry.1.pad = 0 ∧ entry.2 = matched.limit := by
  rw [lookupCustomRate_eq_findSome?] at h
  rcases List.exists_of_findSome?_eq_some h with ⟨c, -, hc⟩
  rcases Option.map_eq_some_iff.mp hc with ⟨entry, hget, rfl⟩
  rcases KeyedStore.get?_eq_some_iff.mp hget with ⟨hmem, hkey⟩
  have hkey : entry.1 = { proto := c.1, pad := 0, dport := c.2 } := hkey
  exact ⟨entry, hmem, by rw [hkey], rfl⟩

/-- The custom limits that a lookup can find after an apply are those of the policy. -/
theorem limit_of_applied (happly : (applyToCurrentMaps env policy).run m = .ok () m')
    {entry : CustomRateKey × CustomRateValue} (hentry : entry ∈ m'.maps.customRateLimits)
    (hpad : entry.1.pad = 0) :
    ∃ row ∈ policy.dynamicRateLimits, entry.2 = customRateValue row := by
  rcases (mem_customRateLimits_of_applied happly).mp hentry with hpending | ⟨-, hother, -⟩
  · rcases List.mem_map.mp hpending with ⟨item, hitem, rfl⟩
    rcases List.mem_map.mp (Collected.mem_of_mem_items_collect hitem) with ⟨row, hrow, rfl⟩
    exact ⟨row, hrow, rfl⟩
  · exact absurd hpad hother

theorem inForce_of_applied (hcompile : compilePolicy now snapshot = .ok policy)
    (happly : (apply env policy).run m = .ok () m') (h : EnabledLimit m'.maps packet limit) :
    LimitInForce limit := by
  rcases apply_ok happly with ⟨current, -, happlied⟩
  have hdefense : m'.maps.defensePolicy = defenseValue policy.dynamicDefense :=
    (frame_of_applied happlied).2.2
  have hglobal := globalInForce_of_compiled hcompile
  rw [← hdefense] at hglobal
  cases h with
  | custom enabled found =>
      rcases entry_of_lookupCustomRate found with ⟨entry, hentry, hpad, hvalue⟩
      rcases limit_of_applied happlied hentry hpad with ⟨row, hrow, hrowValue⟩
      rw [← hvalue, hrowValue]
      exact customInForce_of_compiled hcompile hrow
  | flood enabled floodEnabled => exact (hglobal.flood enabled floodEnabled).1
  | ip enabled ipEnabled => exact hglobal.ip enabled ipEnabled

/-- Every limit of a compiled policy that is turned on has a rate and a burst, and for floods a
block time that does not wrap; once the policy is applied, the filter takes none of the limits
that it asks for no limit. -/
theorem enabledLimits_inForce (hcompile : compilePolicy now snapshot = .ok policy) :
    GlobalInForce (defenseValue policy.dynamicDefense) ∧
      (defenseValue policy.dynamicDefense).floodBlockNs.toNat =
        policy.dynamicDefense.floodBlockSeconds.toNat * 1000000000 ∧
      (∀ row ∈ policy.dynamicRateLimits, LimitInForce (customLimit (customRateValue row))) ∧
      ∀ env m m', (apply env policy).run m = .ok () m' →
        ∀ packet limit, EnabledLimit m'.maps packet limit →
          LimitInForce limit ∧ ∀ env now key buckets,
            tokenBucketLimited env now key limit buckets =
              chargeBucket env now key limit buckets := by
  refine ⟨globalInForce_of_compiled hcompile, toNat_floodBlockNs _, ?_, ?_⟩
  · intro row hrow
    exact customInForce_of_compiled hcompile hrow
  · intro env m m' happly packet limit hlimit
    have hforce := inForce_of_applied hcompile happly hlimit
    exact ⟨hforce, tokenBucketLimited_of_inForce hforce⟩

end Applied

/-- A limit for floods and one for DNS; the limit of one source is off and has no numbers. -/
def limitedSnapshot : PolicySnapshot where
  version := 1
  rules := []
  geoCountries := []
  geoPrefixes := []
  tempBans := []
  dynamicDefense :=
    { enabled := true
      ipRateLimitEnabled := false
      ipPacketsPerSecond := none
      ipBurst := none
      floodEnabled := true
      floodPacketsPerSecond := some 1000
      floodBurst := some 2000
      floodBlockSeconds := some 60 }
  dynamicRateLimits :=
    [{ priority := 0
       protocol := .udp
       port := some 53
       packetsPerSecond := 100
       burst := 200
       comment := none }]
  trustedCidrs := []
  threatSources := []
  threatPrefixes := []

theorem enabledLimits_inForce_limitedSnapshot :
    ∃ policy m', compilePolicy 0 limitedSnapshot = .ok policy ∧
      (apply idleEnv policy).run emptyManager = .ok () m' ∧
      m'.maps.defensePolicy.floodBlockNs.toNat = 60000000000 ∧
      ∀ packet limit, EnabledLimit m'.maps packet limit → LimitInForce limit := by
  have hcompiled : ∃ policy, compilePolicy 0 limitedSnapshot = .ok policy ∧
      policy.tempBans = [] ∧ (∃ required, requiredPolicyMapSizes emptyManager policy =
        .ok required ∧ validateMapCapacity required emptyManager.mapSizes = .ok ()) ∧
      policy.dynamicDefense.floodBlockSeconds.toNat = 60 :=
    ⟨_, compilePolicy_of_valid 0 rfl rfl rfl, rfl, ⟨_, rfl, rfl⟩, rfl⟩
  rcases hcompiled with ⟨policy, hcompile, hbans, ⟨required, hrequired, hvalid⟩, hseconds⟩
  have hconv : Convertible (pendingOf idleEnv policy emptyManager) idleEnv.wallNow 1000000000 := by
    intro item hitem
    rw [pendingOf, buildPendingPolicyKeys, hbans] at hitem
    cases hitem
  rcases run_applyToCurrentMaps_of_fresh rfl ⟨⟨required, hrequired, hvalid⟩, rfl⟩ hconv with
    ⟨m', happlied⟩
  have happly : (apply idleEnv policy).run emptyManager = .ok () m' :=
    (run_apply_of_valid hrequired hvalid).trans happlied
  rcases enabledLimits_inForce hcompile with ⟨-, hblock, -, happlies⟩
  refine ⟨policy, m', hcompile, happly, ?_, ?_⟩
  · rw [(frame_of_applied happlied).2.2, hblock, hseconds]
  · exact fun packet limit hlimit => (happlies _ _ _ happly packet limit hlimit).1

end Enforcement
end XdpFirewall
