import XdpFirewall.Bpf.BucketRun

/-!
# RefillExact — when a refill is the one of unbounded numbers

The product of the elapsed time and the rate is computed in 64 bits. It wraps after a pause whose
length depends on the rate, and then a refill credits what is left of it.
-/

namespace XdpFirewall
namespace Bpf

open Net Policy Lib DataPlane

/-! ## One refill -/

/-- The rates and bursts that validation lets through: `i32` columns that are at least one. -/
structure RateLimit.Configured (limit : RateLimit) : Prop where
  rate_pos : 1 ≤ limit.packetsPerSecond.toNat
  rate_lt : limit.packetsPerSecond.toNat < 2 ^ 31
  burst_pos : 1 ≤ limit.burst.toNat
  burst_lt : limit.burst.toNat < 2 ^ 31

/-- The refill is the one of unbounded numbers. -/
def RefillExact (limit : RateLimit) (bucket : RateBucket) (now : U64) : Prop :=
  (refilled bucket now limit).1.toNat =
    min (bucket.tokens.toNat + product limit bucket now / 1000000000) limit.burst.toNat

/-- The product does not wrap, or what is left of it fills the bucket all the same. -/
def RefillFits (limit : RateLimit) (bucket : RateBucket) (now : U64) : Prop :=
  product limit bucket now < 2 ^ 64 ∨
    limit.burst.toNat ≤ bucket.tokens.toNat + product limit bucket now % 2 ^ 64 / 1000000000

section Refill

variable {limit : RateLimit} {bucket : RateBucket} {now : U64}

theorem refillExact_iff (htokens : bucket.tokens.toNat ≤ limit.burst.toNat)
    (hupdated : bucket.updatedNs.toNat ≤ now.toNat) :
    RefillExact limit bucket now ↔ RefillFits limit bucket now := by
  rw [RefillExact, RefillFits, toNat_refilled_fst htokens, toNat_refillTokens_wrapped hupdated]
  by_cases hfits : product limit bucket now < 2 ^ 64
  · rw [Nat.mod_eq_of_lt hfits]
    exact iff_of_true rfl (Or.inl hfits)
  · rw [or_iff_right hfits]
    -- What is lost by wrapping is more than a token.
    have hless : product limit bucket now % 2 ^ 64 / 1000000000 <
        product limit bucket now / 1000000000 := by
      have hmod : product limit bucket now % 2 ^ 64 + 1000000000 ≤ product limit bucket now := by
        have hlt := Nat.mod_lt (product limit bucket now) (by decide : 0 < 2 ^ 64)
        have hsplit := Nat.mod_add_div (product limit bucket now) (2 ^ 64)
        omega
      calc product limit bucket now % 2 ^ 64 / 1000000000
          < product limit bucket now % 2 ^ 64 / 1000000000 + 1 := Nat.lt_succ_self _
        _ = (product limit bucket now % 2 ^ 64 + 1000000000) / 1000000000 := by omega
        _ ≤ product limit bucket now / 1000000000 := Nat.div_le_div_right hmod
    omega

end Refill

/-! ## Sources that keep their distance -/

/-- At least `10 ^ 9 / pps` nanoseconds have passed since the packet before. -/
def SpacedCall (limit : RateLimit) (s : Limiter) (call : LimiterCall) (_ : Limiter) : Prop :=
  s.decisions ≠ [] →
    1000000000 ≤ (call.now.toNat - s.clock.toNat) * limit.packetsPerSecond.toNat

def FittingCall (key : RateKey) (limit : RateLimit) (s : Limiter) (call : LimiterCall)
    (_ : Limiter) : Prop :=
  ∀ bucket ∈ bucketOf s.buckets key, RefillFits limit bucket call.now

instance (limit : RateLimit) (s : Limiter) (call : LimiterCall) (s' : Limiter) :
    Decidable (SpacedCall limit s call s') :=
  inferInstanceAs (Decidable (s.decisions ≠ [] → _))

instance (limit : RateLimit) (bucket : RateBucket) (now : U64) :
    Decidable (RefillFits limit bucket now) :=
  inferInstanceAs (Decidable (_ ∨ _))

instance (key : RateKey) (limit : RateLimit) (s : Limiter) (call : LimiterCall) (s' : Limiter) :
    Decidable (FittingCall key limit s call s') :=
  inferInstanceAs (Decidable (∀ bucket ∈ bucketOf s.buckets key, _))

/-- Nothing was limited, and a bucket that is there was last refilled by the last packet. -/
structure SpacedInv (key : RateKey) (limit : RateLimit) (s : Limiter) : Prop where
  unlimited : s.Unlimited
  started : ∀ bucket ∈ bucketOf s.buckets key, s.decisions ≠ []
  updated : ∀ bucket ∈ bucketOf s.buckets key, bucket.updatedNs = s.clock
  tokens_lt : ∀ bucket ∈ bucketOf s.buckets key, bucket.tokens.toNat < limit.burst.toNat
  free : ∀ bucket ∈ bucketOf s.buckets key, bucket.blockedUntilNs = 0

section Spaced

variable {key : RateKey} {limit : RateLimit} {bucket : RateBucket} {now : U64}
  {s s' : Limiter} {call : LimiterCall}

/-- A packet that comes late enough finds a token, and the bucket is refilled. -/
theorem takeToken_of_late (hlate : 1000000000 ≤ product limit bucket now)
    (hburst : 1 ≤ limit.burst.toNat) (htokens : bucket.tokens.toNat < limit.burst.toNat)
    (hfree : bucket.blockedUntilNs = 0) (hfits : RefillFits limit bucket now) :
    takeToken bucket now limit =
      (false,
        { bucket with
          tokens := (refilled bucket now limit).1 - 1
          updatedNs := now }) ∧
      ((refilled bucket now limit).1 - 1).toNat < limit.burst.toNat := by
  have hupdated : bucket.updatedNs.toNat ≤ now.toNat := by
    by_contra hahead
    have hzero : now.toNat - bucket.updatedNs.toNat = 0 := by omega
    rw [product, hzero, Nat.zero_mul] at hlate
    omega
  have hexact : (refilled bucket now limit).1.toNat = _ :=
    (refillExact_iff htokens.le hupdated).mpr hfits
  have hwhole : 1 ≤ product limit bucket now / 1000000000 :=
    (Nat.one_le_div_iff (by decide)).mpr hlate
  have hgain : 0 < refillTokens bucket now limit := by
    rw [BitVec.lt_def, toNat_refillTokens_wrapped hupdated]
    rcases hfits with hfits | hfits
    · rw [Nat.mod_eq_of_lt hfits]
      exact hwhole
    · change 0 < _
      omega
  have hnonzero : (refilled bucket now limit).1 ≠ 0 := by
    intro hzero
    rw [hzero] at hexact
    change 0 = _ at hexact
    omega
  have hone : ((refilled bucket now limit).1 - 1).toNat =
      (refilled bucket now limit).1.toNat - 1 := by
    apply BitVec.toNat_sub_of_le
    rw [BitVec.le_def, hexact]
    change 1 ≤ _
    omega
  have hunblocked : ¬ (0 < limit.blockNs ∧ now < bucket.blockedUntilNs) := by
    rw [hfree]
    exact fun h => Nat.not_lt_zero _ (BitVec.lt_def.mp h.2)
  rw [takeToken_of_free hunblocked, if_neg hnonzero, refilled_snd, if_pos hgain]
  refine ⟨rfl, ?_⟩
  rw [hone, hexact]
  omega

theorem SpacedInv.step (hlimit : limit.Configured) (h : SpacedInv key limit s)
    (hstep : limiterStep key limit s call = some s') (hspaced : SpacedCall limit s call s')
    (hfits : FittingCall key limit s call s') : SpacedInv key limit s' := by
  rcases limiterStep_eq hstep with ⟨hbuckets, hclock, hdecisions⟩
  have hpps : limit.packetsPerSecond ≠ 0 := by
    rintro hzero
    have hpos := hlimit.rate_pos
    rw [hzero] at hpos
    cases hpos
  have hburst : limit.burst ≠ 0 := by
    rintro hzero
    have hpos := hlimit.burst_pos
    rw [hzero] at hpos
    cases hpos
  have hnonempty : s'.decisions ≠ [] := by
    rw [hdecisions]
    exact List.append_ne_nil_of_right_ne_nil _ (List.cons_ne_nil _ _)
  -- The call passes, and what it leaves is a bucket that was refilled at its time.
  suffices hcall :
      (tokenBucketLimited call.env call.now key limit s.buckets).1 = false ∧
        ∀ bucket ∈ bucketOf s'.buckets key, bucket.updatedNs = call.now ∧
          bucket.tokens.toNat < limit.burst.toNat ∧ bucket.blockedUntilNs = 0 by
    refine ⟨(unlimited_append hdecisions).mpr ⟨h.unlimited, hcall.1⟩, fun _ _ => hnonempty, ?_,
      fun bucket hmem => (hcall.2 bucket hmem).2.1, fun bucket hmem => (hcall.2 bucket hmem).2.2⟩
    rw [hclock]
    exact fun bucket hmem => (hcall.2 bucket hmem).1
  cases hbucket : bucketOf s.buckets key with
  | none =>
      refine ⟨(tokenBucketLimited_of_none call.env call.now hpps hburst hbucket).1, ?_⟩
      intro bucket hmem
      rw [hbuckets] at hmem
      have hfirst := bucketOf_of_none call.env call.now hpps hburst hbucket hmem
      have htokens : (limit.firstBucket call.now).tokens.toNat = limit.burst.toNat - 1 :=
        congrArg Bucket.tokens (toBucket_firstBucket hburst call.now)
      have hpos := hlimit.burst_pos
      rw [hfirst, htokens]
      exact ⟨rfl, by omega, rfl⟩
  | some bucket =>
      have hmem : bucket ∈ bucketOf s.buckets key := hbucket
      have hlate : 1000000000 ≤ product limit bucket call.now := by
        rw [product, h.updated bucket hmem]
        exact hspaced (h.started bucket hmem)
      rcases takeToken_of_late hlate hlimit.burst_pos (h.tokens_lt bucket hmem)
        (h.free bucket hmem) (hfits bucket hmem) with ⟨htake, htokens⟩
      rcases tokenBucketLimited_of_some call.env call.now hpps hburst hbucket with
        ⟨hpassed, hafter⟩
      rw [htake] at hpassed hafter
      refine ⟨hpassed, fun other hother => ?_⟩
      rw [hbuckets, hafter] at hother
      cases hother
      exact ⟨rfl, htokens, h.free bucket hmem⟩

/-- A source whose packets are far enough apart is not limited, as long as the products of its
calls fit. -/
theorem unlimited_of_spaced {buckets : RateBuckets} {calls : List LimiterCall}
    (hlimit : limit.Configured) (hnone : bucketOf buckets key = none)
    (hspaced : EachStep (limiterStep key limit) (SpacedCall limit) (Limiter.start buckets) calls)
    (hfits : EachStep (limiterStep key limit) (FittingCall key limit) (Limiter.start buckets)
      calls)
    (hrun : run (limiterStep key limit) (Limiter.start buckets) calls = some s) :
    s.Unlimited := by
  have hstart : SpacedInv key limit (Limiter.start buckets) := by
    refine ⟨fun _ hmem => (nomatch hmem), ?_, ?_, ?_, ?_⟩
    all_goals
      intro bucket hmem
      rw [Limiter.start, hnone] at hmem
      cases hmem
  have hboth := hspaced.and hfits
  have hstep (s : Limiter) (call : LimiterCall) (s' : Limiter) (h : SpacedInv key limit s)
      (hstep : limiterStep key limit s call = some s')
      (hcall : SpacedCall limit s call s' ∧ FittingCall key limit s call s') :
      SpacedInv key limit s' :=
    h.step hlimit hstep hcall.1 hcall.2
  exact (run_invariant_of_each hstep hstart hboth hrun).unlimited

/-- A refill is exact if and only if its product fits, and where the products fit, a source whose
packets are far enough apart is never limited. -/
theorem refill_exact_iff_fits (hlimit : limit.Configured) :
    (∀ bucket now, bucket.tokens.toNat ≤ limit.burst.toNat →
        bucket.updatedNs.toNat ≤ now.toNat →
          (RefillExact limit bucket now ↔ RefillFits limit bucket now)) ∧
      ∀ key buckets calls s, bucketOf buckets key = none →
        EachStep (limiterStep key limit) (SpacedCall limit) (Limiter.start buckets) calls →
        EachStep (limiterStep key limit) (FittingCall key limit) (Limiter.start buckets) calls →
        run (limiterStep key limit) (Limiter.start buckets) calls = some s → s.Unlimited := by
  refine ⟨fun bucket now htokens hupdated => refillExact_iff htokens hupdated, ?_⟩
  intro key buckets calls s hnone hspaced hfits hrun
  exact unlimited_of_spaced hlimit hnone hspaced hfits hrun

theorem configured_oneASecond : oneASecond.Configured :=
  ⟨by decide, by decide, by decide, by decide⟩

theorem refill_exact_oneASecond :
    RefillExact oneASecond (oneASecond.firstBucket 0) 5000000000 ∧
      ∀ s, run (limiterStep sourceKey oneASecond) (Limiter.start KeyedStore.empty)
        [callAt 0, callAt 1000000000] = some s → s.Unlimited := by
  rcases refill_exact_iff_fits configured_oneASecond with ⟨hrefill, hspaced⟩
  refine ⟨(hrefill _ _ (by decide) (by decide)).mpr (Or.inl (by decide)), fun s hrun => ?_⟩
  exact hspaced sourceKey KeyedStore.empty _ s rfl (by decide) (by decide) hrun

/-- A million packets a second, one at a time. The product wraps after a little more than five
hours. -/
def millionASecond : RateLimit where
  packetsPerSecond := 1000000
  burst := 1
  blockNs := 0

def pauseCalls : List LimiterCall :=
  [callAt 0, callAt 18446744073710]

theorem pause_limited :
    millionASecond.Configured ∧
      ¬ RefillExact millionASecond (millionASecond.firstBucket 0) 18446744073710 ∧
      EachStep (limiterStep sourceKey millionASecond) (SpacedCall millionASecond)
        (Limiter.start KeyedStore.empty) pauseCalls ∧
      ∃ s, run (limiterStep sourceKey millionASecond) (Limiter.start KeyedStore.empty)
        pauseCalls = some s ∧ ¬ s.Unlimited := by
  have hlimited : (run (limiterStep sourceKey millionASecond) (Limiter.start KeyedStore.empty)
      pauseCalls).any (fun s => decide (¬ s.Unlimited)) = true := by decide
  rcases (Option.any_eq_true _ _).mp hlimited with ⟨s, hrun, hs⟩
  exact ⟨⟨by decide, by decide, by decide, by decide⟩, by unfold RefillExact; decide, by decide,
    s, hrun, of_decide_eq_true hs⟩

end Spaced

end Bpf
end XdpFirewall
