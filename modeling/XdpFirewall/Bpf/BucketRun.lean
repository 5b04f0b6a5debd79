import Mathlib.Data.BitVec
import XdpFirewall.Bpf.RateLimit
import XdpFirewall.Lib.TokenBucket
import XdpFirewall.Lib.Transition

/-!
# BucketRun — one bucket over many packets

The bucket of one key, asked by packet after packet with constant parameters. In 64-bit
arithmetic that does not wrap it is a token bucket of unbounded numbers, which bounds what is let
through in every window of time and says which packets are.
-/

namespace XdpFirewall
namespace Bpf

open Net Policy Lib DataPlane

/-! ## The bucket in unbounded numbers -/

/-- Tokens per second, with times in nanoseconds. -/
def RateLimit.toLimit (limit : RateLimit) (h : limit.burst ≠ 0) : Limit where
  scale := 1000000000
  rate := limit.packetsPerSecond.toNat
  burst := limit.burst.toNat
  scale_pos := by decide
  burst_pos := by
    rw [Nat.pos_iff_ne_zero]
    intro hzero
    exact h (BitVec.eq_of_toNat_eq hzero)

def RateBucket.toBucket (bucket : RateBucket) : Bucket where
  tokens := bucket.tokens.toNat
  updated := bucket.updatedNs.toNat

/-- The bucket is not ahead of the clock, and the time since its last refill does not wrap. -/
structure InRange (limit : RateLimit) (bucket : RateBucket) (now : U64) : Prop where
  updated_le : bucket.updatedNs.toNat ≤ now.toNat
  tokens_lt : bucket.tokens.toNat < limit.burst.toNat
  earned_lt : (now.toNat - bucket.updatedNs.toNat) * limit.packetsPerSecond.toNat < 2 ^ 64

section Refill

variable {limit : RateLimit} {bucket : RateBucket} {now : U64}

/-- The whole tokens that `refilled` computes. -/
def refillTokens (bucket : RateBucket) (now : U64) (limit : RateLimit) : U64 :=
  (now - bucket.updatedNs) * limit.packetsPerSecond.setWidth 64 / 1000000000

/-- Rate times elapsed time, in unbounded numbers. -/
def product (limit : RateLimit) (bucket : RateBucket) (now : U64) : Nat :=
  (now.toNat - bucket.updatedNs.toNat) * limit.packetsPerSecond.toNat

/-- The whole tokens of a refill, whose product wraps. -/
theorem toNat_refillTokens_wrapped (hupdated : bucket.updatedNs.toNat ≤ now.toNat) :
    (refillTokens bucket now limit).toNat = product limit bucket now % 2 ^ 64 / 1000000000 := by
  have helapsed : (now - bucket.updatedNs).toNat = now.toNat - bucket.updatedNs.toNat :=
    BitVec.toNat_sub_of_le hupdated
  have hpps : (limit.packetsPerSecond.setWidth 64).toNat = limit.packetsPerSecond.toNat := by
    rw [BitVec.toNat_setWidth]
    exact Nat.mod_eq_of_lt (by omega)
  rw [refillTokens, BitVec.toNat_udiv, BitVec.toNat_mul, helapsed, hpps]
  rfl

theorem refilled_eq :
    refilled bucket now limit =
      if 0 < refillTokens bucket now limit then
        (if limit.burst.setWidth 64 < bucket.tokens + refillTokens bucket now limit then
          limit.burst.setWidth 64
        else
          bucket.tokens + refillTokens bucket now limit, now)
      else
        (bucket.tokens, bucket.updatedNs) :=
  rfl

/-- A refill adds these tokens, up to the burst. The sum does not wrap. -/
theorem toNat_refilled_eq (htokens : bucket.tokens.toNat < 2 ^ 32) :
    (refilled bucket now limit).1.toNat =
      if 0 < refillTokens bucket now limit then
        min (bucket.tokens.toNat + (refillTokens bucket now limit).toNat) limit.burst.toNat
      else
        bucket.tokens.toNat := by
  have hburst64 : (limit.burst.setWidth 64).toNat = limit.burst.toNat := by
    rw [BitVec.toNat_setWidth]
    exact Nat.mod_eq_of_lt (by omega)
  -- A quotient by the nanoseconds of a second leaves room for the sum below.
  have hsmall : (refillTokens bucket now limit).toNat < 2 ^ 35 := by
    rw [refillTokens, BitVec.toNat_udiv]
    refine Nat.div_lt_of_lt_mul (Nat.lt_of_lt_of_le (BitVec.isLt _) ?_)
    decide
  have hsum : (bucket.tokens + refillTokens bucket now limit).toNat =
      bucket.tokens.toNat + (refillTokens bucket now limit).toNat := by
    rw [BitVec.toNat_add]
    exact Nat.mod_eq_of_lt (by omega)
  rw [refilled_eq]
  by_cases hgain : 0 < refillTokens bucket now limit
  · rw [if_pos hgain, if_pos hgain]
    by_cases hcap : limit.burst.setWidth 64 < bucket.tokens + refillTokens bucket now limit
    · rw [if_pos hcap]
      rw [BitVec.lt_def, hburst64, hsum] at hcap
      simp only [hburst64]
      omega
    · rw [if_neg hcap]
      rw [BitVec.lt_def, hburst64, hsum] at hcap
      simp only [hsum]
      omega
  · rw [if_neg hgain, if_neg hgain]

theorem toNat_refilled_fst (htokens : bucket.tokens.toNat ≤ limit.burst.toNat) :
    (refilled bucket now limit).1.toNat =
      min (bucket.tokens.toNat + (refillTokens bucket now limit).toNat) limit.burst.toNat := by
  have hfits : bucket.tokens.toNat < 2 ^ 32 := Nat.lt_of_le_of_lt htokens limit.burst.isLt
  rw [toNat_refilled_eq hfits]
  split
  · rfl
  · rename_i hnone
    have hzero : (refillTokens bucket now limit).toNat = 0 := Nat.eq_zero_of_not_pos hnone
    rw [hzero, Nat.add_zero, Nat.min_eq_left htokens]

theorem refilled_snd :
    (refilled bucket now limit).2 =
      if 0 < refillTokens bucket now limit then now else bucket.updatedNs := by
  rw [refilled_eq]
  split <;> rfl

theorem toNat_refillTokens (hburst : limit.burst ≠ 0) (h : InRange limit bucket now) :
    (refillTokens bucket now limit).toNat =
      (limit.toLimit hburst).earned (now.toNat - bucket.updatedNs.toNat) := by
  have hfits : product limit bucket now < 2 ^ 64 := h.earned_lt
  rw [toNat_refillTokens_wrapped h.updated_le, Nat.mod_eq_of_lt hfits]
  rfl

/-- `refilled` is the refill of a token bucket. -/
theorem toNat_refilled (hburst : limit.burst ≠ 0) (h : InRange limit bucket now) :
    (refilled bucket now limit).1.toNat =
        ((limit.toLimit hburst).refill bucket.toBucket now.toNat).tokens ∧
      (refilled bucket now limit).2.toNat =
        ((limit.toLimit hburst).refill bucket.toBucket now.toNat).updated := by
  have hrefill := toNat_refillTokens hburst h
  have hpos : 0 < refillTokens bucket now limit ↔
      0 < (limit.toLimit hburst).earned (now.toNat - bucket.toBucket.updated) :=
    BitVec.lt_def.trans (iff_of_eq (congrArg (0 < ·) hrefill))
  constructor
  · have hle : bucket.toBucket.tokens ≤ (limit.toLimit hburst).burst := h.tokens_lt.le
    rw [toNat_refilled_fst h.tokens_lt.le, hrefill, refill_tokens hle]
    rfl
  · rw [refilled_snd, refill_updated]
    by_cases hgain : 0 < refillTokens bucket now limit
    · rw [if_pos hgain, if_pos (hpos.mp hgain)]
    · rw [if_neg hgain, if_neg (mt hpos.mpr hgain)]
      rfl

theorem takeToken_of_blocked (h : 0 < limit.blockNs ∧ now < bucket.blockedUntilNs) :
    takeToken bucket now limit = (true, bucket) :=
  if_pos h

theorem takeToken_of_free (h : ¬ (0 < limit.blockNs ∧ now < bucket.blockedUntilNs)) :
    takeToken bucket now limit =
      if (refilled bucket now limit).1 = 0 then
        (true,
          { bucket with
            updatedNs := (refilled bucket now limit).2
            blockedUntilNs :=
              if 0 < limit.blockNs then now + limit.blockNs else bucket.blockedUntilNs })
      else
        (false,
          { bucket with
            tokens := (refilled bucket now limit).1 - 1
            updatedNs := (refilled bucket now limit).2 }) :=
  if_neg h

/-- A limited packet leaves the tokens and the time of the refill as they were. -/
theorem takeToken_limited (hburst : limit.burst ≠ 0) (h : InRange limit bucket now)
    (hlimited : (takeToken bucket now limit).1 = true) :
    (takeToken bucket now limit).2.toBucket = bucket.toBucket := by
  by_cases hblocked : 0 < limit.blockNs ∧ now < bucket.blockedUntilNs
  · rw [takeToken_of_blocked hblocked]
  · rw [takeToken_of_free hblocked] at hlimited ⊢
    by_cases hzero : (refilled bucket now limit).1 = 0
    · -- Nothing was earned, so there was no refill either.
      obtain ⟨htokens, hupdated⟩ := toNat_refilled hburst h
      rw [hzero] at htokens
      rw [refill_eq_of_empty htokens.symm] at hupdated
      rw [if_pos hzero]
      simp only [RateBucket.toBucket, Bucket.mk.injEq, true_and]
      exact hupdated
    · rw [if_neg hzero] at hlimited
      cases hlimited

/-- A packet that is let through takes a token from the refilled bucket. -/
theorem takeToken_passed (hburst : limit.burst ≠ 0) (h : InRange limit bucket now)
    (hpassed : (takeToken bucket now limit).1 = false) :
    0 < ((limit.toLimit hburst).refill bucket.toBucket now.toNat).tokens ∧
      (takeToken bucket now limit).2.toBucket =
        ((limit.toLimit hburst).refill bucket.toBucket now.toNat).take ∧
      (takeToken bucket now limit).2.blockedUntilNs = bucket.blockedUntilNs := by
  by_cases hblocked : 0 < limit.blockNs ∧ now < bucket.blockedUntilNs
  · rw [takeToken_of_blocked hblocked] at hpassed
    cases hpassed
  · rw [takeToken_of_free hblocked] at hpassed ⊢
    by_cases hzero : (refilled bucket now limit).1 = 0
    · rw [if_pos hzero] at hpassed
      cases hpassed
    · obtain ⟨htokens, hupdated⟩ := toNat_refilled hburst h
      have hpos : 0 < (refilled bucket now limit).1.toNat := by
        rw [Nat.pos_iff_ne_zero]
        exact fun heq => hzero (BitVec.eq_of_toNat_eq heq)
      have hone : ((refilled bucket now limit).1 - 1).toNat =
          (refilled bucket now limit).1.toNat - 1 := by
        apply BitVec.toNat_sub_of_le
        rw [BitVec.le_def]
        exact hpos
      rw [if_neg hzero]
      refine ⟨htokens ▸ hpos, ?_, rfl⟩
      simp only [RateBucket.toBucket, Bucket.take, hone, htokens, hupdated]

/-- A token taken from a refilled bucket leaves it below the burst. -/
theorem inRange_take (hburst : limit.burst ≠ 0) (h : InRange limit bucket now) {after : RateBucket}
    (hafter : after.toBucket = ((limit.toLimit hburst).refill bucket.toBucket now.toNat).take) :
    after.tokens.toNat < limit.burst.toNat ∧ after.updatedNs.toNat ≤ now.toNat := by
  have hpos := (limit.toLimit hburst).burst_pos
  have htokens : after.tokens.toNat =
      ((limit.toLimit hburst).refill bucket.toBucket now.toNat).take.tokens :=
    congrArg Bucket.tokens hafter
  have hupdated : after.updatedNs.toNat =
      ((limit.toLimit hburst).refill bucket.toBucket now.toNat).take.updated :=
    congrArg Bucket.updated hafter
  have hle : bucket.toBucket.tokens ≤ (limit.toLimit hburst).burst := h.tokens_lt.le
  rw [htokens, hupdated]
  simp only [Bucket.take, refill_tokens hle, refill_updated]
  refine ⟨?_, ?_⟩
  · have hmin := Nat.min_le_right (bucket.toBucket.tokens +
      (limit.toLimit hburst).earned (now.toNat - bucket.toBucket.updated))
      (limit.toLimit hburst).burst
    have hsame : (limit.toLimit hburst).burst = limit.burst.toNat := rfl
    omega
  · split
    · exact Nat.le_refl _
    · exact h.updated_le

end Refill

/-! ## One call -/

/-- The bucket under a key. -/
def bucketOf (buckets : RateBuckets) (key : RateKey) : Option RateBucket :=
  (buckets.get? key).map Prod.snd

def RateLimit.firstBucket (limit : RateLimit) (now : U64) : RateBucket where
  tokens := (limit.burst - 1).setWidth 64
  updatedNs := now
  blockedUntilNs := 0

theorem toBucket_firstBucket {limit : RateLimit} (hburst : limit.burst ≠ 0) (now : U64) :
    (limit.firstBucket now).toBucket = (limit.toLimit hburst).first now.toNat := by
  have hpos := (limit.toLimit hburst).burst_pos
  have hone : (limit.burst - 1).toNat = limit.burst.toNat - 1 :=
    BitVec.toNat_sub_of_le (BitVec.le_def.mpr hpos)
  have hwide : ((limit.burst - 1).setWidth 64).toNat = limit.burst.toNat - 1 := by
    rw [BitVec.toNat_setWidth, hone]
    exact Nat.mod_eq_of_lt (by omega)
  simp only [RateBucket.toBucket, RateLimit.firstBucket, Limit.first, Bucket.mk.injEq, and_true]
  exact hwide

section Call

variable (env : PacketEnv) (now : U64) {key : RateKey} {limit : RateLimit}
  {buckets : RateBuckets}

/-- The first packet of a key is let through, and its bucket stays. -/
theorem tokenBucketLimited_of_none (hpps : limit.packetsPerSecond ≠ 0) (hburst : limit.burst ≠ 0)
    (hnone : bucketOf buckets key = none) :
    (tokenBucketLimited env now key limit buckets).1 = false ∧
      (env.retained key key = true →
        bucketOf (tokenBucketLimited env now key limit buckets).2 key =
          some (limit.firstBucket now)) := by
  have hget : buckets.get? key = none := Option.map_eq_none_iff.mp hnone
  have hcall : tokenBucketLimited env now key limit buckets =
      (false, storeBucket env key (limit.firstBucket now) buckets) := by
    rw [tokenBucketLimited, if_neg (not_or.mpr ⟨hpps, hburst⟩), hget]
    rfl
  rw [hcall]
  refine ⟨rfl, fun hretained => ?_⟩
  have hstored : (storeBucket env key (limit.firstBucket now) buckets).get? key =
      some (key, limit.firstBucket now) := by
    refine KeyedStore.get?_eq_some_iff.mpr ⟨KeyedStore.mem_retain.mpr ⟨?_, hretained⟩, rfl⟩
    exact KeyedStore.mem_set.mpr (Or.inl rfl)
  rw [bucketOf, hstored]
  rfl

/-- If a bucket is there after the first packet, it is the one that was stored. -/
theorem bucketOf_of_none {bucket : RateBucket} (hpps : limit.packetsPerSecond ≠ 0)
    (hburst : limit.burst ≠ 0) (hnone : bucketOf buckets key = none)
    (hbucket : bucketOf (tokenBucketLimited env now key limit buckets).2 key = some bucket) :
    bucket = limit.firstBucket now := by
  have hget : buckets.get? key = none := Option.map_eq_none_iff.mp hnone
  have hcall : tokenBucketLimited env now key limit buckets =
      (false, storeBucket env key (limit.firstBucket now) buckets) := by
    rw [tokenBucketLimited, if_neg (not_or.mpr ⟨hpps, hburst⟩), hget]
    rfl
  rw [hcall] at hbucket
  obtain ⟨entry, hentry, rfl⟩ := Option.map_eq_some_iff.mp hbucket
  obtain ⟨hmem, hkey⟩ := KeyedStore.get?_eq_some_iff.mp hentry
  rcases KeyedStore.mem_set.mp (KeyedStore.mem_retain.mp hmem).1 with hset | ⟨-, hother⟩
  · rw [hset]
  · exact absurd hkey hother

/-- Every later packet asks the bucket. -/
theorem tokenBucketLimited_of_some {bucket : RateBucket} (hpps : limit.packetsPerSecond ≠ 0)
    (hburst : limit.burst ≠ 0) (hsome : bucketOf buckets key = some bucket) :
    (tokenBucketLimited env now key limit buckets).1 = (takeToken bucket now limit).1 ∧
      bucketOf (tokenBucketLimited env now key limit buckets).2 key =
        some (takeToken bucket now limit).2 := by
  obtain ⟨entry, hget, rfl⟩ := Option.map_eq_some_iff.mp hsome
  have hcall : tokenBucketLimited env now key limit buckets =
      ((takeToken entry.2 now limit).1, buckets.set key (takeToken entry.2 now limit).2) := by
    rw [tokenBucketLimited, if_neg (not_or.mpr ⟨hpps, hburst⟩), hget]
  rw [hcall]
  refine ⟨rfl, ?_⟩
  have hstored := KeyedStore.get?_set buckets key (takeToken entry.2 now limit).2
  rw [bucketOf]
  exact congrArg (Option.map Prod.snd) hstored

end Call

/-! ## Runs of calls on one key -/

structure LimiterCall where
  env : PacketEnv
  now : U64

/-- The buckets, the last reading of the clock, and what was decided when. -/
structure Limiter where
  buckets : RateBuckets
  clock : U64
  decisions : List (U64 × Bool)

def limiterStep (key : RateKey) (limit : RateLimit) (s : Limiter) (call : LimiterCall) :
    Option Limiter :=
  let (limited, buckets) := tokenBucketLimited call.env call.now key limit s.buckets
  some
    { buckets := buckets
      clock := call.now
      decisions := s.decisions ++ [(call.now, limited)] }

/-- The clock does not go back, the bucket of the key is not evicted, and the product of
`elapsed` and the rate does not wrap. -/
def CallInRange (key : RateKey) (limit : RateLimit) (s : Limiter) (call : LimiterCall)
    (_ : Limiter) : Prop :=
  s.clock.toNat ≤ call.now.toNat ∧ call.env.retained key key = true ∧
    ∀ bucket ∈ bucketOf s.buckets key,
      (call.now.toNat - bucket.updatedNs.toNat) * limit.packetsPerSecond.toNat < 2 ^ 64

instance (key : RateKey) (limit : RateLimit) (s : Limiter) (call : LimiterCall) (s' : Limiter) :
    Decidable (CallInRange key limit s call s') :=
  inferInstanceAs (Decidable (_ ∧ _ ∧ ∀ bucket ∈ bucketOf s.buckets key, _))

def Limiter.start (buckets : RateBuckets) : Limiter where
  buckets := buckets
  clock := 0
  decisions := []

/-- The times of the packets. -/
def Limiter.times (s : Limiter) : List Nat :=
  s.decisions.map fun decision => decision.1.toNat

/-- The times of the packets that were let through. -/
def Limiter.letThrough (s : Limiter) : List Nat :=
  (s.decisions.filter fun decision => !decision.2).map fun decision => decision.1.toNat

/-- What was let through is paid for by the bucket. -/
structure LimiterInv (key : RateKey) (limit : RateLimit) (hburst : limit.burst ≠ 0) (s : Limiter) :
    Prop where
  withinRate : WithinRate (limit.toLimit hburst) s.letThrough
  fresh : bucketOf s.buckets key = none → s.letThrough = []
  accounted : ∀ bucket, bucketOf s.buckets key = some bucket →
    Accounted (limit.toLimit hburst) s.letThrough bucket.toBucket s.clock.toNat

section Run

variable {key : RateKey} {limit : RateLimit} {s s' : Limiter} {call : LimiterCall}

theorem limiterStep_eq (hstep : limiterStep key limit s call = some s') :
    s'.buckets = (tokenBucketLimited call.env call.now key limit s.buckets).2 ∧
      s'.clock = call.now ∧
      s'.decisions = s.decisions ++
        [(call.now, (tokenBucketLimited call.env call.now key limit s.buckets).1)] := by
  cases hstep
  exact ⟨rfl, rfl, rfl⟩

theorem letThrough_append {limited : Bool}
    (hdecisions : s'.decisions = s.decisions ++ [(call.now, limited)]) :
    s'.letThrough = s.letThrough ++ if limited then [] else [call.now.toNat] := by
  rw [Limiter.letThrough, Limiter.letThrough, hdecisions, List.filter_append, List.map_append]
  cases limited <;> rfl

theorem inRange_of_accounted (hburst : limit.burst ≠ 0) {bucket : RateBucket} {times : List Nat}
    (haccounted : Accounted (limit.toLimit hburst) times bucket.toBucket s.clock.toNat)
    (hcall : CallInRange key limit s call s') (hbucket : bucketOf s.buckets key = some bucket) :
    InRange limit bucket call.now where
  updated_le := haccounted.updated_le.trans hcall.1
  tokens_lt := haccounted.tokens_lt
  earned_lt := hcall.2.2 bucket hbucket

/-- One call keeps the account. -/
theorem LimiterInv.step (hpps : limit.packetsPerSecond ≠ 0) (hburst : limit.burst ≠ 0)
    (h : LimiterInv key limit hburst s) (hstep : limiterStep key limit s call = some s')
    (hcall : CallInRange key limit s call s') : LimiterInv key limit hburst s' := by
  obtain ⟨hbuckets, hclock, hdecisions⟩ := limiterStep_eq hstep
  have hthrough := letThrough_append hdecisions
  -- Whatever the call does, a bucket is there afterwards that pays for what went through.
  suffices hpaid : ∃ bucket, bucketOf s'.buckets key = some bucket ∧
      Accounted (limit.toLimit hburst) s'.letThrough bucket.toBucket call.now.toNat ∧
      WithinRate (limit.toLimit hburst) s'.letThrough by
    obtain ⟨bucket, hbucket, haccounted, hwithin⟩ := hpaid
    refine ⟨hwithin, fun hnone => ?_, fun other hother => ?_⟩
    · rw [hbucket] at hnone
      cases hnone
    · rw [hbucket] at hother
      cases hother
      rw [hclock]
      exact haccounted
  cases hbucket : bucketOf s.buckets key with
  | none =>
      obtain ⟨hpassed, hfirst⟩ :=
        tokenBucketLimited_of_none call.env call.now hpps hburst hbucket
      rw [hpassed, h.fresh hbucket] at hthrough
      have hthrough : s'.letThrough = [call.now.toNat] := hthrough
      have haccounted : Accounted (limit.toLimit hburst) [call.now.toNat]
          (limit.firstBucket call.now).toBucket call.now.toNat := by
        rw [toBucket_firstBucket hburst]
        exact Accounted.first _
      refine ⟨limit.firstBucket call.now, ?_, ?_, ?_⟩
      · rw [hbuckets]
        exact hfirst hcall.2.1
      · rw [hthrough]
        exact haccounted
      · rw [hthrough]
        exact WithinRate.nil.append haccounted
  | some bucket =>
      have hold := h.accounted bucket hbucket
      have hrange := inRange_of_accounted hburst hold hcall hbucket
      have hwait := hold.wait hcall.1
      obtain ⟨hlimited, hafter⟩ :=
        tokenBucketLimited_of_some call.env call.now hpps hburst hbucket
      rw [← hbuckets] at hafter
      rw [hlimited] at hthrough
      refine ⟨_, hafter, ?_⟩
      cases htake : (takeToken bucket call.now limit).1 with
      | true =>
          rw [htake] at hthrough
          have hthrough : s'.letThrough = s.letThrough := hthrough.trans (List.append_nil _)
          rw [hthrough, takeToken_limited hburst hrange htake]
          exact ⟨hwait, h.withinRate⟩
      | false =>
          rw [htake] at hthrough
          have hthrough : s'.letThrough = s.letThrough ++ [call.now.toNat] := hthrough
          obtain ⟨htokens, hbucket', -⟩ := takeToken_passed hburst hrange htake
          have haccounted := hwait.admit htokens
          rw [hthrough, hbucket']
          exact ⟨haccounted, h.withinRate.append haccounted⟩

theorem LimiterInv.start (hburst : limit.burst ≠ 0) {buckets : RateBuckets}
    (hnone : bucketOf buckets key = none) :
    LimiterInv key limit hburst (Limiter.start buckets) where
  withinRate := WithinRate.nil
  fresh := fun _ => rfl
  accounted := by
    intro bucket hsome
    rw [Limiter.start, hnone] at hsome
    cases hsome

theorem LimiterInv.run {calls : List LimiterCall} (hpps : limit.packetsPerSecond ≠ 0)
    (hburst : limit.burst ≠ 0) (h : LimiterInv key limit hburst s)
    (hcalls : EachStep (limiterStep key limit) (CallInRange key limit) s calls)
    (hrun : Lib.run (limiterStep key limit) s calls = some s') :
    LimiterInv key limit hburst s' := by
  have hstep (s : Limiter) (call : LimiterCall) (s' : Limiter)
      (h : LimiterInv key limit hburst s) (hstep : limiterStep key limit s call = some s')
      (hcall : CallInRange key limit s call s') : LimiterInv key limit hburst s' :=
    h.step hpps hburst hstep hcall
  exact run_invariant_of_each hstep h hcalls hrun

/-- What earlier calls with the same parameters have left, from the first packet of the key on:
any bucket that can be there, or none when there was no such call. -/
def LeftByCalls (key : RateKey) (limit : RateLimit) (left : Limiter) : Prop :=
  ∃ buckets calls, bucketOf buckets key = none ∧
    EachStep (limiterStep key limit) (CallInRange key limit) (Limiter.start buckets) calls ∧
    run (limiterStep key limit) (Limiter.start buckets) calls = some left

/-- In every window the packets of a key that are let through are at most the burst and what the
rate earns in it. -/
theorem between_letThrough_le {left : Limiter} {calls : List LimiterCall}
    (hpps : limit.packetsPerSecond ≠ 0) (hburst : limit.burst ≠ 0)
    (hleft : LeftByCalls key limit left)
    (hcalls : EachStep (limiterStep key limit) (CallInRange key limit) left calls)
    (hrun : run (limiterStep key limit) left calls = some s) (start stop : Nat) :
    between start stop s.letThrough ≤
      limit.burst.toNat + (stop - start) * limit.packetsPerSecond.toNat / 1000000000 := by
  obtain ⟨buckets, earlier, hnone, hearlier, hmid⟩ := hleft
  have hinv := (LimiterInv.start hburst hnone).run hpps hburst hearlier hmid
  exact (hinv.run hpps hburst hcalls hrun).withinRate start stop

/-- One packet a second for one address, and two at once. -/
def oneASecond : RateLimit where
  packetsPerSecond := 1
  burst := 2
  blockNs := 0

def sourceKey : RateKey where
  kind := rateKindIp
  family := 2
  proto := 0
  pad := 0
  dport := 0
  addr := 0

def callAt (now : U64) : LimiterCall where
  env :=
    { banNow := now
      customNow := now
      floodNow := now
      ipNow := now
      eventNow := now
      retained := fun _ _ => true }
  now := now

def limiterAfter (calls : List LimiterCall) : Option Limiter :=
  run (limiterStep sourceKey oneASecond) (Limiter.start KeyedStore.empty) calls

/-- The first packet leaves a bucket, and of the two that come with it one is limited. -/
theorem between_letThrough_le_burst :
    ∃ left s, limiterAfter [callAt 5] = some left ∧ bucketOf left.buckets sourceKey ≠ none ∧
      run (limiterStep sourceKey oneASecond) left [callAt 5, callAt 5, callAt 1000000005] =
        some s ∧
      s.letThrough = [5, 5, 1000000005] ∧
      between 5 1000000005 s.letThrough ≤ 2 + (1000000005 - 5) * 1 / 1000000000 := by
  refine ⟨_, _, rfl, by decide, rfl, by decide, ?_⟩
  have hleft : LeftByCalls sourceKey oneASecond _ :=
    ⟨KeyedStore.empty, [callAt 5], rfl, by decide, rfl⟩
  exact @between_letThrough_le sourceKey oneASecond _ _ [callAt 5, callAt 5, callAt 1000000005]
    (by decide) (by decide) hleft (by decide) rfl 5 1000000005

end Run

/-! ## When every packet is let through -/

/-- In every window from one packet to another there are at most the burst and what the rate
earns in it, as for a bucket that keeps fractions. -/
def Conforming (limit : RateLimit) (times : List Nat) : Prop :=
  ∀ start ∈ times, ∀ stop ∈ times, between start stop times ≤
    limit.burst.toNat + (stop - start) * limit.packetsPerSecond.toNat / 1000000000

instance (limit : RateLimit) (times : List Nat) : Decidable (Conforming limit times) :=
  inferInstanceAs (Decidable (∀ start ∈ times, ∀ stop ∈ times, _))

def Limiter.Unlimited (s : Limiter) : Prop :=
  ∀ decision ∈ s.decisions, decision.2 = false

instance (s : Limiter) : Decidable s.Unlimited :=
  List.decidableBAll (fun decision : U64 × Bool => decision.2 = false) s.decisions

section Unlimited

variable {key : RateKey} {limit : RateLimit} {s s' : Limiter} {calls : List LimiterCall}

theorem run_decisions (hrun : run (limiterStep key limit) s calls = some s') :
    ∃ later, s'.decisions = s.decisions ++ later ∧
      later.map Prod.fst = calls.map LimiterCall.now := by
  induction calls generalizing s with
  | nil =>
      cases hrun
      exact ⟨[], (List.append_nil _).symm, rfl⟩
  | cons call calls ih =>
      obtain ⟨mid, hmid, hrest⟩ := run_cons_eq_some_iff.mp hrun
      obtain ⟨-, -, hdecisions⟩ := limiterStep_eq hmid
      obtain ⟨later, hlater, htimes⟩ := ih hrest
      refine ⟨(call.now, (tokenBucketLimited call.env call.now key limit s.buckets).1) :: later,
        ?_, ?_⟩
      · rw [hlater, hdecisions, List.append_assoc]
        rfl
      · rw [List.map_cons, List.map_cons, htimes]

theorem unlimited_append {limited : Bool} {now : U64}
    (hdecisions : s'.decisions = s.decisions ++ [(now, limited)]) :
    s'.Unlimited ↔ s.Unlimited ∧ limited = false := by
  rw [Limiter.Unlimited, hdecisions, List.forall_mem_append, List.forall_mem_singleton]
  rfl

/-- A packet that was limited stays so. -/
theorem unlimited_of_run (hrun : run (limiterStep key limit) s calls = some s')
    (h : s'.Unlimited) : s.Unlimited := by
  obtain ⟨later, hlater, -⟩ := run_decisions hrun
  intro decision hmem
  refine h decision ?_
  rw [hlater]
  exact List.mem_append_left _ hmem

/-- A bucket that never limited a packet does not block its source. While it does not, the calls
are those of the token bucket. -/
theorem unlimited_iff_admitsAll {bucket : RateBucket} (hpps : limit.packetsPerSecond ≠ 0)
    (hburst : limit.burst ≠ 0) (hbucket : bucketOf s.buckets key = some bucket)
    (hblocked : bucket.blockedUntilNs = 0) (htokens : bucket.tokens.toNat < limit.burst.toNat)
    (hupdated : bucket.updatedNs.toNat ≤ s.clock.toNat)
    (hcalls : EachStep (limiterStep key limit) (CallInRange key limit) s calls)
    (hrun : run (limiterStep key limit) s calls = some s') :
    s'.Unlimited ↔ s.Unlimited ∧
      AdmitsAll (limit.toLimit hburst) bucket.toBucket (calls.map fun call => call.now.toNat) := by
  induction calls generalizing s bucket with
  | nil =>
      cases hrun
      exact (and_iff_left trivial).symm
  | cons call calls ih =>
      obtain ⟨mid, hmid, hrest⟩ := run_cons_eq_some_iff.mp hrun
      obtain ⟨hcall, hcalls⟩ := hcalls mid hmid
      obtain ⟨hbuckets, hclock, hdecisions⟩ := limiterStep_eq hmid
      obtain ⟨hlimited, hafter⟩ :=
        tokenBucketLimited_of_some call.env call.now hpps hburst hbucket
      rw [← hbuckets] at hafter
      rw [hlimited] at hdecisions
      have hrange : InRange limit bucket call.now :=
        ⟨hupdated.trans hcall.1, htokens, hcall.2.2 bucket hbucket⟩
      have hfree : ¬ (0 < limit.blockNs ∧ call.now < bucket.blockedUntilNs) := by
        rw [hblocked]
        exact fun h => Nat.not_lt_zero _ (BitVec.lt_def.mp h.2)
      have hmidUnlimited := unlimited_append hdecisions
      cases htake : (takeToken bucket call.now limit).1 with
      | true =>
          -- The packet is limited, since its bucket stays empty.
          have hempty : ¬ 0 < ((limit.toLimit hburst).refill bucket.toBucket
              call.now.toNat).tokens := by
            rw [← (toNat_refilled hburst hrange).1]
            have hrefuses := (takeToken_fst bucket call.now limit).mp htake
            rw [(hrefuses.resolve_left hfree)]
            exact Nat.lt_irrefl 0
          refine iff_of_false (fun hall => ?_) (fun hall => hempty hall.2.1)
          have hmid := hmidUnlimited.mp (unlimited_of_run hrest hall)
          rw [htake] at hmid
          cases hmid.2
      | false =>
          obtain ⟨hpos, htaken, hblocked'⟩ := takeToken_passed hburst hrange htake
          have hstate := inRange_take hburst hrange htaken
          rw [ih hafter (hblocked'.trans hblocked) hstate.1 (hclock ▸ hstate.2) hcalls hrest,
            hmidUnlimited, htaken, and_iff_left htake, List.map_cons, AdmitsAll,
            and_iff_right hpos]

theorem times_of_run {buckets : RateBuckets}
    (hrun : run (limiterStep key limit) (Limiter.start buckets) calls = some s') :
    s'.times = calls.map fun call => call.now.toNat := by
  obtain ⟨later, hlater, htimes⟩ := run_decisions hrun
  have hall : s'.decisions = later := hlater
  calc s'.times = (later.map Prod.fst).map BitVec.toNat := by
        rw [Limiter.times, hall, List.map_map]
        rfl
    _ = (calls.map LimiterCall.now).map BitVec.toNat := by rw [htimes]
    _ = calls.map fun call => call.now.toNat := by
        rw [List.map_map]
        rfl

/-- All packets of a key are let through exactly when no stretch of them takes more than the burst
and the whole tokens that its packets find earned. -/
theorem unlimited_of_start {buckets : RateBuckets} (hpps : limit.packetsPerSecond ≠ 0)
    (hburst : limit.burst ≠ 0) (hnone : bucketOf buckets key = none)
    (hcalls : EachStep (limiterStep key limit) (CallInRange key limit) (Limiter.start buckets)
      calls)
    (hrun : run (limiterStep key limit) (Limiter.start buckets) calls = some s) :
    s.Unlimited ↔
      WithinCredit limit.burst.toNat ((limit.toLimit hburst).packetCredits s.times) := by
  rw [times_of_run hrun]
  cases calls with
  | nil =>
      cases hrun
      refine iff_of_true (fun decision hmem => ?_) fun before credit window after heq => ?_
      · cases hmem
      · cases before <;> cases heq
  | cons call calls =>
      obtain ⟨mid, hmid, hrest⟩ := run_cons_eq_some_iff.mp hrun
      obtain ⟨hcall, hcalls⟩ := hcalls mid hmid
      obtain ⟨hbuckets, hclock, hdecisions⟩ := limiterStep_eq hmid
      -- The first call passes and leaves a bucket, and from there on a bucket decides.
      obtain ⟨hpassed, hfirst⟩ :=
        tokenBucketLimited_of_none call.env call.now hpps hburst hnone
      have hbucket : bucketOf mid.buckets key = some (limit.firstBucket call.now) := by
        rw [hbuckets]
        exact hfirst hcall.2.1
      have hbucketFirst := toBucket_firstBucket hburst call.now
      have htokens : (limit.firstBucket call.now).tokens.toNat < limit.burst.toNat := by
        have hpos : 0 < limit.burst.toNat := (limit.toLimit hburst).burst_pos
        have heq : (limit.firstBucket call.now).tokens.toNat = limit.burst.toNat - 1 :=
          congrArg Bucket.tokens hbucketFirst
        omega
      have hupdated : (limit.firstBucket call.now).updatedNs.toNat ≤ mid.clock.toNat := by
        rw [hclock]
        exact Nat.le_refl _
      have hmidUnlimited : mid.Unlimited :=
        (unlimited_append hdecisions).mpr ⟨fun _ hmem => (nomatch hmem), hpassed⟩
      rw [unlimited_iff_admitsAll hpps hburst hbucket rfl htokens hupdated hcalls hrest,
        and_iff_right hmidUnlimited, hbucketFirst, List.map_cons]
      exact admitsAll_first_iff

/-- Traffic that an ideal token bucket lets through is not limited exactly when the fractions that
the refills forget are not missed. -/
theorem conforming_unlimited_iff {left : Limiter} (hpps : limit.packetsPerSecond ≠ 0)
    (hburst : limit.burst ≠ 0) (hleft : LeftByCalls key limit left)
    (hcalls : EachStep (limiterStep key limit) (CallInRange key limit) left calls)
    (hrun : run (limiterStep key limit) left calls = some s) :
    (Conforming limit s.times → s.Unlimited) ↔
      (Conforming limit s.times →
        WithinCredit limit.burst.toNat ((limit.toLimit hburst).packetCredits s.times)) := by
  obtain ⟨buckets, earlier, hnone, hearlier, hmid⟩ := hleft
  have hall : EachStep (limiterStep key limit) (CallInRange key limit) (Limiter.start buckets)
      (earlier ++ calls) := by
    refine hearlier.append fun mid hrunMid => ?_
    obtain rfl := Option.some.inj (hmid.symm.trans hrunMid)
    exact hcalls
  have hwhole : run (limiterStep key limit) (Limiter.start buckets) (earlier ++ calls) =
      some s := by
    rw [run_append, hmid, Option.bind_some]
    exact hrun
  exact forall_congr' fun _ => unlimited_of_start hpps hburst hnone hall hwhole

/-- Two packets at once, one after a second and a half, and one half a second later. The third
packet finds a second and a half, and takes a token for it; the rest is forgotten. -/
def fractionCalls : List LimiterCall :=
  [callAt 0, callAt 0, callAt 1500000000, callAt 2000000000]

theorem conforming_packet_limited :
    ∃ s, EachStep (limiterStep sourceKey oneASecond) (CallInRange sourceKey oneASecond)
        (Limiter.start KeyedStore.empty) fractionCalls ∧
      limiterAfter fractionCalls = some s ∧ Conforming oneASecond s.times ∧ ¬ s.Unlimited := by
  refine ⟨_, by decide, rfl, by decide, fun hunlimited => ?_⟩
  -- The last packet is the one that is refused.
  have hlast := hunlimited (2000000000, true) (.tail _ (.tail _ (.tail _ (.head _))))
  cases hlast

/-- Two packets at once, and then one each second, keep every token. -/
theorem conforming_unlimited_every_second :
    ∃ left s, limiterAfter [callAt 0, callAt 0] = some left ∧
      run (limiterStep sourceKey oneASecond) left [callAt 1000000000, callAt 2000000000] =
        some s ∧
      s.times = [0, 0, 1000000000, 2000000000] ∧ s.Unlimited ∧
      ((Conforming oneASecond s.times → s.Unlimited) ↔
        (Conforming oneASecond s.times →
          WithinCredit 2 ((oneASecond.toLimit (by decide)).packetCredits s.times))) := by
  refine ⟨_, _, rfl, rfl, rfl, by decide, ?_⟩
  have hleft : LeftByCalls sourceKey oneASecond _ :=
    ⟨KeyedStore.empty, [callAt 0, callAt 0], rfl, by decide, rfl⟩
  exact @conforming_unlimited_iff sourceKey oneASecond _ [callAt 1000000000, callAt 2000000000] _
    (by decide) (by decide) hleft (by decide) rfl

end Unlimited

end Bpf
end XdpFirewall
