import XdpFirewall.Bpf.Lookup

/-!
# RateLimit — the token buckets of the packet filter

A bucket belongs to one source address and one kind of limit. It is filled by the time that has
passed, at most up to the burst, and every packet takes one token. The buckets live in a map that
forgets old entries when it is full; which ones is the kernel's choice.
-/

namespace XdpFirewall
namespace Bpf

open Net Policy Lib DataPlane

/-! ## Buckets -/

def rateKindCustom : U8 := 1
def rateKindIp : U8 := 2
def rateKindFlood : U8 := 3

structure RateKey where
  kind : U8
  family : U8
  proto : U8
  pad : U8
  dport : U16
  addr : AddrBytes
  deriving DecidableEq

structure RateBucket where
  tokens : U64
  updatedNs : U64
  blockedUntilNs : U64
  deriving DecidableEq

abbrev RateBuckets := HashMap RateKey RateBucket

/-- A rate, a burst and the time a source is blocked for when it exceeds them. -/
structure RateLimit where
  packetsPerSecond : U32
  burst : U32
  blockNs : U64
  deriving DecidableEq

/-- What the kernel answers while one packet is handled: the clock at each reading, and which
buckets are still there after a new one is stored. -/
structure PacketEnv where
  banNow : U64
  customNow : U64
  floodNow : U64
  ipNow : U64
  eventNow : U64
  retained : RateKey → RateKey → Bool

/-- `bpf_map_update_elem` on the map of buckets, for a key that is not there. -/
def storeBucket (env : PacketEnv) (key : RateKey) (bucket : RateBucket) (buckets : RateBuckets) :
    RateBuckets :=
  (buckets.set key bucket).retain (env.retained key)

/-! ## One decision -/

/-- The tokens of a bucket after the time up to `now` is credited, and when that was last done. -/
def refilled (bucket : RateBucket) (now : U64) (limit : RateLimit) : U64 × U64 :=
  let elapsed := now - bucket.updatedNs
  let refill := elapsed * limit.packetsPerSecond.setWidth 64 / 1000000000
  if 0 < refill then
    let tokens := bucket.tokens + refill
    (if limit.burst.setWidth 64 < tokens then limit.burst.setWidth 64 else tokens, now)
  else
    (bucket.tokens, bucket.updatedNs)

/-- The part of `token_bucket_limited` on a bucket that exists: whether the packet is over the
limit, and the bucket afterwards. -/
def takeToken (bucket : RateBucket) (now : U64) (limit : RateLimit) : Bool × RateBucket :=
  if 0 < limit.blockNs ∧ now < bucket.blockedUntilNs then
    (true, bucket)
  else
    let (tokens, updatedNs) := refilled bucket now limit
    if tokens = 0 then
      -- The tokens of a refused packet are not written back.
      let blockedUntilNs :=
        if 0 < limit.blockNs then now + limit.blockNs else bucket.blockedUntilNs
      (true, { bucket with updatedNs := updatedNs, blockedUntilNs := blockedUntilNs })
    else
      (false, { bucket with tokens := tokens - 1, updatedNs := updatedNs })

def tokenBucketLimited (env : PacketEnv) (now : U64) (key : RateKey) (limit : RateLimit)
    (buckets : RateBuckets) : Bool × RateBuckets :=
  if limit.packetsPerSecond = 0 ∨ limit.burst = 0 then
    (false, buckets)
  else
    match buckets.get? key with
    | none =>
        let initial : RateBucket :=
          { tokens := (limit.burst - 1).setWidth 64
            updatedNs := now
            blockedUntilNs := 0 }
        (false, storeBucket env key initial buckets)
    | some entry =>
        let (limited, bucket) := takeToken entry.2 now limit
        (limited, buckets.set key bucket)

/-! ## Statistics and limits -/

/-- The counters of the filter, which name the reasons of a drop as well. -/
inductive Stat
  | pass
  | ruleDrop
  | geoDrop
  | rateDrop
  | floodDrop
  | customRateDrop
  | parseDrop
  | tempBanDrop
  deriving DecidableEq, Repr

def Stat.index : Stat → U32
  | .pass => 0
  | .ruleDrop => 1
  | .geoDrop => 2
  | .rateDrop => 3
  | .floodDrop => 4
  | .customRateDrop => 5
  | .parseDrop => 6
  | .tempBanDrop => 7

/-- The fields of a packet that the filter reads. -/
structure Packet where
  family : U8
  proto : U8
  dport : U16
  src : AddrBytes
  deriving DecidableEq

def bucketKey (kind : U8) (packet : Packet) (proto : U8) (dport : U16) : RateKey where
  kind := kind
  family := packet.family
  proto := proto
  pad := 0
  dport := dport
  addr := packet.src

def customLimit (limit : CustomRateValue) : RateLimit where
  packetsPerSecond := limit.packetsPerSecond
  burst := limit.burst
  blockNs := 0

def floodLimit (policy : DefenseValue) : RateLimit where
  packetsPerSecond := policy.floodPacketsPerSecond
  burst := policy.floodBurst
  blockNs := policy.floodBlockNs

def ipLimit (policy : DefenseValue) : RateLimit where
  packetsPerSecond := policy.ipPacketsPerSecond
  burst := policy.ipBurst
  blockNs := 0

def customDynamicRateLimited (env : PacketEnv) (maps : PolicyMaps) (packet : Packet)
    (buckets : RateBuckets) : Option Stat × RateBuckets :=
  match lookupCustomRate maps packet.proto packet.dport with
  | none => (none, buckets)
  | some matched =>
      let (limited, buckets) := tokenBucketLimited env env.customNow
        (bucketKey rateKindCustom packet matched.proto matched.dport)
        (customLimit matched.limit) buckets
      (if limited then some .customRateDrop else none, buckets)

/-- The condition of the flood branch of `dynamic_defense_limited`. -/
def floodLimited (env : PacketEnv) (policy : DefenseValue) (packet : Packet)
    (buckets : RateBuckets) : Bool × RateBuckets :=
  if policy.floodEnabled ≠ 0 then
    tokenBucketLimited env env.floodNow (bucketKey rateKindFlood packet protoAny 0)
      (floodLimit policy) buckets
  else
    (false, buckets)

/-- The condition of the branch for the limit of one source. -/
def ipLimited (env : PacketEnv) (policy : DefenseValue) (packet : Packet)
    (buckets : RateBuckets) : Bool × RateBuckets :=
  if policy.ipRateLimitEnabled ≠ 0 then
    tokenBucketLimited env env.ipNow (bucketKey rateKindIp packet protoAny 0) (ipLimit policy)
      buckets
  else
    (false, buckets)

def dynamicDefenseLimited (env : PacketEnv) (maps : PolicyMaps) (packet : Packet)
    (buckets : RateBuckets) : Option Stat × RateBuckets :=
  let policy := maps.defensePolicy
  if policy.enabled = 0 then
    (none, buckets)
  else
    match customDynamicRateLimited env maps packet buckets with
    | (some customDrop, buckets) => (some customDrop, buckets)
    | (none, buckets) =>
        match floodLimited env policy packet buckets with
        | (true, buckets) => (some .floodDrop, buckets)
        | (false, buckets) =>
            match ipLimited env policy packet buckets with
            | (true, buckets) => (some .rateDrop, buckets)
            | (false, buckets) => (none, buckets)

/-! ## When a limit refuses a packet -/

/-- The bucket refuses the packet: its source is blocked, or no token is left. -/
def Refuses (bucket : RateBucket) (now : U64) (limit : RateLimit) : Prop :=
  (0 < limit.blockNs ∧ now < bucket.blockedUntilNs) ∨ (refilled bucket now limit).1 = 0

theorem takeToken_fst (bucket : RateBucket) (now : U64) (limit : RateLimit) :
    (takeToken bucket now limit).1 ↔ Refuses bucket now limit := by
  unfold takeToken Refuses
  by_cases hblocked : 0 < limit.blockNs ∧ now < bucket.blockedUntilNs
  · rw [if_pos hblocked]
    exact iff_of_true rfl (Or.inl hblocked)
  · rw [if_neg hblocked, or_iff_right hblocked]
    dsimp only
    split <;> simp_all

/-- The limit is in force, and the bucket under the key refuses the packet. -/
def OverLimit (buckets : RateBuckets) (key : RateKey) (now : U64) (limit : RateLimit) : Prop :=
  limit.packetsPerSecond ≠ 0 ∧ limit.burst ≠ 0 ∧
    ∃ bucket, (key, bucket) ∈ buckets ∧ Refuses bucket now limit

/-- A limit of zero refuses nothing, and neither does a source's first packet. -/
theorem tokenBucketLimited_fst {env : PacketEnv} {now : U64} {key : RateKey} {limit : RateLimit}
    {buckets : RateBuckets} :
    (tokenBucketLimited env now key limit buckets).1 ↔ OverLimit buckets key now limit := by
  unfold tokenBucketLimited OverLimit
  by_cases hzero : limit.packetsPerSecond = 0 ∨ limit.burst = 0
  · rw [if_pos hzero]
    refine iff_of_false Bool.false_ne_true ?_
    rintro ⟨hpps, hburst, -⟩
    exact hzero.elim hpps hburst
  · rw [if_neg hzero]
    push Not at hzero
    cases hget : buckets.get? key with
    | none =>
        have hnone := KeyedStore.get?_eq_none_iff.mp hget
        refine iff_of_false Bool.false_ne_true ?_
        rintro ⟨-, -, bucket, hmem, -⟩
        exact hnone (key, bucket) hmem rfl
    | some entry =>
        obtain ⟨hmem, hkey⟩ := KeyedStore.get?_eq_some_iff.mp hget
        have hkey : entry.1 = key := hkey
        refine (takeToken_fst entry.2 now limit).trans ?_
        constructor
        · intro hrefuses
          refine ⟨hzero.1, hzero.2, entry.2, ?_, hrefuses⟩
          rw [← hkey]
          exact hmem
        · rintro ⟨-, -, bucket, hbucket, hrefuses⟩
          -- A key has one bucket.
          rw [buckets.eq_of_ident_eq hmem hbucket hkey]
          exact hrefuses

/-- The custom limit of the packet refuses it. -/
def CustomExceeded (env : PacketEnv) (maps : PolicyMaps) (packet : Packet)
    (buckets : RateBuckets) : Prop :=
  ∃ matched, lookupCustomRate maps packet.proto packet.dport = some matched ∧
    OverLimit buckets (bucketKey rateKindCustom packet matched.proto matched.dport)
      env.customNow (customLimit matched.limit)

def FloodExceeded (env : PacketEnv) (policy : DefenseValue) (packet : Packet)
    (buckets : RateBuckets) : Prop :=
  policy.floodEnabled ≠ 0 ∧
    OverLimit buckets (bucketKey rateKindFlood packet protoAny 0) env.floodNow
      (floodLimit policy)

def IpExceeded (env : PacketEnv) (policy : DefenseValue) (packet : Packet)
    (buckets : RateBuckets) : Prop :=
  policy.ipRateLimitEnabled ≠ 0 ∧
    OverLimit buckets (bucketKey rateKindIp packet protoAny 0) env.ipNow (ipLimit policy)

/-- A limit refuses the packet, each on the buckets that the limits before it leave. -/
def LimitExceeded (env : PacketEnv) (maps : PolicyMaps) (packet : Packet)
    (buckets : RateBuckets) : Prop :=
  let afterCustom := (customDynamicRateLimited env maps packet buckets).2
  let afterFlood := (floodLimited env maps.defensePolicy packet afterCustom).2
  maps.defensePolicy.enabled ≠ 0 ∧
    (CustomExceeded env maps packet buckets ∨
      FloodExceeded env maps.defensePolicy packet afterCustom ∨
      IpExceeded env maps.defensePolicy packet afterFlood)

theorem customDynamicRateLimited_fst {env : PacketEnv} {maps : PolicyMaps} {packet : Packet}
    {buckets : RateBuckets} :
    (customDynamicRateLimited env maps packet buckets).1.isSome ↔
      CustomExceeded env maps packet buckets := by
  unfold customDynamicRateLimited CustomExceeded
  cases hlookup : lookupCustomRate maps packet.proto packet.dport with
  | none => simp
  | some matched =>
      simp only [Option.some.injEq, exists_eq_left']
      rw [← tokenBucketLimited_fst]
      cases (tokenBucketLimited env env.customNow _ (customLimit matched.limit) buckets).1 <;> simp

theorem floodLimited_fst {env : PacketEnv} {policy : DefenseValue} {packet : Packet}
    {buckets : RateBuckets} :
    (floodLimited env policy packet buckets).1 ↔ FloodExceeded env policy packet buckets := by
  unfold floodLimited FloodExceeded
  by_cases henabled : policy.floodEnabled ≠ 0
  · rw [if_pos henabled, tokenBucketLimited_fst]
    exact (and_iff_right henabled).symm
  · rw [if_neg henabled]
    exact iff_of_false Bool.false_ne_true fun h => henabled h.1

theorem ipLimited_fst {env : PacketEnv} {policy : DefenseValue} {packet : Packet}
    {buckets : RateBuckets} :
    (ipLimited env policy packet buckets).1 ↔ IpExceeded env policy packet buckets := by
  unfold ipLimited IpExceeded
  by_cases henabled : policy.ipRateLimitEnabled ≠ 0
  · rw [if_pos henabled, tokenBucketLimited_fst]
    exact (and_iff_right henabled).symm
  · rw [if_neg henabled]
    exact iff_of_false Bool.false_ne_true fun h => henabled h.1

/-- Dynamic defense drops a packet exactly when one of its limits refuses it. -/
theorem dynamicDefenseLimited_isSome_iff {env : PacketEnv} {maps : PolicyMaps} {packet : Packet}
    {buckets : RateBuckets} :
    (dynamicDefenseLimited env maps packet buckets).1.isSome ↔
      LimitExceeded env maps packet buckets := by
  unfold dynamicDefenseLimited LimitExceeded
  dsimp only
  rw [← customDynamicRateLimited_fst, ← floodLimited_fst, ← ipLimited_fst]
  by_cases henabled : maps.defensePolicy.enabled = 0
  · simp [henabled]
  · simp only [ne_eq, henabled, not_false_eq_true, true_and]
    cases hcustom : customDynamicRateLimited env maps packet buckets with
    | mk drop afterCustom =>
      cases drop with
      | some stat => simp
      | none =>
        cases hflood : floodLimited env maps.defensePolicy packet afterCustom with
        | mk flooded afterFlood =>
          cases flooded with
          | true => simp [hflood]
          | false =>
            cases hip : ipLimited env maps.defensePolicy packet afterFlood with
            | mk limited afterIp => cases limited <;> simp [hflood, hip]

end Bpf
end XdpFirewall
