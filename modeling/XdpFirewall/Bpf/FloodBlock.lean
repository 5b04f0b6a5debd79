import XdpFirewall.Bpf.BucketRun

/-!
# FloodBlock — the time that a flooding source is blocked for

A call that finds no token blocks its source until `block_ns` later. Until then every call is
refused before it looks at the tokens, so the block is not extended, and the time of it is credited
by the first refill after it.
-/

namespace XdpFirewall
namespace Bpf

open Net Policy Lib DataPlane

/-! ## The call that finds no token -/

/-- The call comes to the tokens of a bucket, and none is left after the refill. -/
def FindsNoToken (key : RateKey) (limit : RateLimit) (s : Limiter) (call : LimiterCall) : Prop :=
  limit.packetsPerSecond ≠ 0 ∧ limit.burst ≠ 0 ∧
    ∃ bucket ∈ bucketOf s.buckets key,
      ¬ (0 < limit.blockNs ∧ call.now < bucket.blockedUntilNs) ∧
        (refilled bucket call.now limit).1 = 0

/-- The tokens of the bucket fit 32 bits, as all bursts do. -/
def TokensFit (key : RateKey) (s : Limiter) : Prop :=
  ∀ bucket ∈ bucketOf s.buckets key, bucket.tokens.toNat < 2 ^ 32

section Step

variable {key : RateKey} {limit : RateLimit} {bucket : RateBucket} {now : U64}
  {s s' : Limiter} {call : LimiterCall}

theorem takeToken_tokens_lt (htokens : bucket.tokens.toNat < 2 ^ 32) :
    (takeToken bucket now limit).2.tokens.toNat < 2 ^ 32 := by
  by_cases hblocked : 0 < limit.blockNs ∧ now < bucket.blockedUntilNs
  · rw [takeToken_of_blocked hblocked]
    exact htokens
  · rw [takeToken_of_free hblocked]
    by_cases hzero : (refilled bucket now limit).1 = 0
    · rw [if_pos hzero]
      exact htokens
    · rw [if_neg hzero]
      have hle : (refilled bucket now limit).1.toNat < 2 ^ 32 := by
        have hburst := limit.burst.isLt
        rw [toNat_refilled_eq htokens]
        split
        · exact Nat.lt_of_le_of_lt (Nat.min_le_right _ _) hburst
        · exact htokens
      have hone : ((refilled bucket now limit).1 - 1).toNat =
          (refilled bucket now limit).1.toNat - 1 := by
        apply BitVec.toNat_sub_of_le
        rw [BitVec.le_def]
        refine Nat.pos_of_ne_zero fun heq => hzero ?_
        exact BitVec.eq_of_toNat_eq heq
      simp only [hone]
      omega

theorem TokensFit.step (h : TokensFit key s) (hstep : limiterStep key limit s call = some s') :
    TokensFit key s' := by
  rcases limiterStep_eq hstep with ⟨hbuckets, -, -⟩
  intro bucket hmem
  rw [hbuckets] at hmem
  by_cases hzero : limit.packetsPerSecond = 0 ∨ limit.burst = 0
  · rw [tokenBucketLimited, if_pos hzero] at hmem
    exact h bucket hmem
  · rcases not_or.mp hzero with ⟨hpps, hburst⟩
    cases hbucket : bucketOf s.buckets key with
    | none =>
        rw [bucketOf_of_none call.env call.now hpps hburst hbucket hmem]
        have htokens : (limit.firstBucket call.now).tokens.toNat = limit.burst.toNat - 1 :=
          congrArg Bucket.tokens (toBucket_firstBucket hburst call.now)
        have hlt := limit.burst.isLt
        omega
    | some old =>
        rcases tokenBucketLimited_of_some call.env call.now hpps hburst hbucket with ⟨-, hafter⟩
        rw [hafter] at hmem
        cases hmem
        exact takeToken_tokens_lt (h old hbucket)

/-- A bucket without a token has earned none. -/
theorem refillTokens_eq_zero_of_empty (hburst : limit.burst ≠ 0)
    (htokens : bucket.tokens.toNat < 2 ^ 32) (hempty : (refilled bucket now limit).1 = 0) :
    ¬ 0 < refillTokens bucket now limit := by
  intro hgain
  have hpos : 0 < limit.burst.toNat := (limit.toLimit hburst).burst_pos
  have hrefilled := @toNat_refilled_eq limit bucket now htokens
  rw [if_pos hgain, hempty] at hrefilled
  have hgain : 0 < (refillTokens bucket now limit).toNat := hgain
  change 0 = _ at hrefilled
  omega

/-- The call that finds no token only sets the end of the block. -/
theorem blocking_step (hblock : 0 < limit.blockNs) (hfit : TokensFit key s)
    (hempty : FindsNoToken key limit s call) (hstep : limiterStep key limit s call = some s') :
    ∃ bucket, bucketOf s.buckets key = some bucket ∧
      bucketOf s'.buckets key =
        some { bucket with blockedUntilNs := call.now + limit.blockNs } := by
  rcases hempty with ⟨hpps, hburst, bucket, hbucket, hfree, hzero⟩
  refine ⟨bucket, hbucket, ?_⟩
  rcases limiterStep_eq hstep with ⟨hbuckets, -, -⟩
  rcases tokenBucketLimited_of_some call.env call.now hpps hburst hbucket with ⟨-, hafter⟩
  have hnone := refillTokens_eq_zero_of_empty hburst (hfit bucket hbucket) hzero
  rw [hbuckets, hafter, takeToken_of_free hfree, if_pos hzero, refilled_snd, if_neg hnone,
    if_pos hblock]

/-- A call before the end of the block is refused and changes nothing. -/
theorem blocked_step (hblock : 0 < limit.blockNs) (hpps : limit.packetsPerSecond ≠ 0)
    (hburst : limit.burst ≠ 0) (hbucket : bucketOf s.buckets key = some bucket)
    (hbefore : call.now < bucket.blockedUntilNs)
    (hstep : limiterStep key limit s call = some s') :
    bucketOf s'.buckets key = some bucket ∧
      s'.decisions = s.decisions ++ [(call.now, true)] := by
  rcases limiterStep_eq hstep with ⟨hbuckets, -, hdecisions⟩
  rcases tokenBucketLimited_of_some call.env call.now hpps hburst hbucket with
    ⟨hlimited, hafter⟩
  rw [takeToken_of_blocked ⟨hblock, hbefore⟩] at hlimited hafter
  rw [hbuckets, hdecisions, hlimited]
  exact ⟨hafter, rfl⟩

/-- A call after the end of the block is decided by a refill. -/
theorem unblocked_step (hpps : limit.packetsPerSecond ≠ 0) (hburst : limit.burst ≠ 0)
    (hbucket : bucketOf s.buckets key = some bucket)
    (hafter : bucket.blockedUntilNs.toNat ≤ call.now.toNat)
    (hstep : limiterStep key limit s call = some s') :
    s'.decisions =
      s.decisions ++ [(call.now, decide ((refilled bucket call.now limit).1 = 0))] := by
  rcases limiterStep_eq hstep with ⟨-, -, hdecisions⟩
  rcases tokenBucketLimited_of_some call.env call.now hpps hburst hbucket with ⟨hlimited, -⟩
  have hfree : ¬ (0 < limit.blockNs ∧ call.now < bucket.blockedUntilNs) := fun h =>
    Nat.not_le.mpr (BitVec.lt_def.mp h.2) hafter
  rw [hdecisions, hlimited, takeToken_of_free hfree]
  by_cases hzero : (refilled bucket call.now limit).1 = 0
  · rw [if_pos hzero, decide_eq_true hzero]
  · rw [if_neg hzero, decide_eq_false hzero]

end Step

/-! ## Runs -/

/-- The clock does not go back. -/
def ClockKept (s : Limiter) (call : LimiterCall) (_ : Limiter) : Prop :=
  s.clock.toNat ≤ call.now.toNat

instance (s : Limiter) (call : LimiterCall) (s' : Limiter) : Decidable (ClockKept s call s') :=
  inferInstanceAs (Decidable (_ ≤ _))

section Run

variable {key : RateKey} {limit : RateLimit} {bucket : RateBucket} {s s' : Limiter}
  {calls : List LimiterCall}

theorem blocked_run (hblock : 0 < limit.blockNs) (hpps : limit.packetsPerSecond ≠ 0)
    (hburst : limit.burst ≠ 0) (hbucket : bucketOf s.buckets key = some bucket)
    (hbefore : ∀ call ∈ calls, call.now < bucket.blockedUntilNs)
    (hrun : run (limiterStep key limit) s calls = some s') :
    bucketOf s'.buckets key = some bucket := by
  induction calls generalizing s with
  | nil =>
      cases hrun
      exact hbucket
  | cons call calls ih =>
      rcases run_cons_eq_some_iff.mp hrun with ⟨mid, hmid, hrest⟩
      rcases List.forall_mem_cons.mp hbefore with ⟨hcall, hcalls⟩
      exact ih (blocked_step hblock hpps hburst hbucket hcall hmid).1 hcalls hrest

theorem TokensFit.run (h : TokensFit key s)
    (hrun : run (limiterStep key limit) s calls = some s') : TokensFit key s' := by
  induction calls generalizing s with
  | nil =>
      cases hrun
      exact h
  | cons call calls ih =>
      rcases run_cons_eq_some_iff.mp hrun with ⟨mid, hmid, hrest⟩
      exact ih (h.step hmid) hrest

/-- The last reading of a clock that does not go back is the latest. -/
theorem le_clock_of_run (hcalls : EachStep (limiterStep key limit) ClockKept s calls)
    (hrun : Lib.run (limiterStep key limit) s calls = some s') :
    s.clock.toNat ≤ s'.clock.toNat ∧ ∀ call ∈ calls, call.now.toNat ≤ s'.clock.toNat := by
  induction calls generalizing s with
  | nil =>
      cases hrun
      exact ⟨Nat.le_refl _, fun _ hmem => (nomatch hmem)⟩
  | cons call calls ih =>
      rcases run_cons_eq_some_iff.mp hrun with ⟨mid, hmid, hrest⟩
      rcases hcalls mid hmid with ⟨hcall, hcalls⟩
      rcases limiterStep_eq hmid with ⟨-, hclock, -⟩
      rcases ih hcalls hrest with ⟨hle, hall⟩
      rw [hclock] at hle
      refine ⟨hcall.trans hle, ?_⟩
      exact List.forall_mem_cons.mpr ⟨hle, hall⟩

end Run

/-! ## The window of a block -/

/-- The end of the block that a call begins. -/
def blockEnd (limit : RateLimit) (blocking : LimiterCall) : Nat :=
  blocking.now.toNat + limit.blockNs.toNat

/-- What follows from a call in state `s` that finds no token, for the call `next` that comes after
the calls of `later`. Before the end of the block it is refused and changes nothing; as the first
one after it, it is decided by a refill of the bucket that was there before the block. -/
def BlockWindow (key : RateKey) (limit : RateLimit) (s : Limiter) (blocking : LimiterCall)
    (later : List LimiterCall) (next : LimiterCall) : Prop :=
  ∀ blocked waiting final, limiterStep key limit s blocking = some blocked →
    run (limiterStep key limit) blocked later = some waiting →
      limiterStep key limit waiting next = some final →
        (next.now.toNat < blockEnd limit blocking →
          final.decisions = waiting.decisions ++ [(next.now, true)] ∧
            bucketOf final.buckets key = bucketOf waiting.buckets key) ∧
        ((∀ call ∈ later, call.now.toNat < blockEnd limit blocking) →
          blockEnd limit blocking ≤ next.now.toNat →
          ∃ bucket ∈ bucketOf s.buckets key,
            final.decisions = waiting.decisions ++
              [(next.now, decide ((refilled bucket next.now limit).1 = 0))])

section Window

variable {key : RateKey} {limit : RateLimit} {buckets : RateBuckets} {s : Limiter}
  {before later : List LimiterCall} {blocking next : LimiterCall}

/-- A block lasts for its time, unless the end of it is beyond the last nanosecond of the clock. -/
theorem blockWindow_of_empty (hblock : 0 < limit.blockNs)
    (hstart : TokensFit key (Limiter.start buckets))
    (hclock : EachStep (limiterStep key limit) ClockKept (Limiter.start buckets)
      (before ++ blocking :: (later ++ [next])))
    (hrun : run (limiterStep key limit) (Limiter.start buckets) before = some s)
    (hempty : FindsNoToken key limit s blocking)
    (hend : blockEnd limit blocking < 2 ^ 64) :
    BlockWindow key limit s blocking later next := by
  intro blocked waiting final hblocking hlater hnext
  have hpps := hempty.1
  have hburst := hempty.2.1
  rcases blocking_step hblock (hstart.run hrun) hempty hblocking with ⟨bucket, hbucket, hset⟩
  have hstop : (blocking.now + limit.blockNs).toNat = blockEnd limit blocking := by
    rw [BitVec.toNat_add]
    exact Nat.mod_eq_of_lt hend
  -- While the calls in between come before the end, the bucket is the one of the blocking call.
  have hwaiting (hbefore : ∀ call ∈ later, call.now.toNat < blockEnd limit blocking) :
      bucketOf waiting.buckets key =
        some { bucket with blockedUntilNs := blocking.now + limit.blockNs } := by
    refine blocked_run hblock hpps hburst hset (fun call hmem => ?_) hlater
    rw [BitVec.lt_def, hstop]
    exact hbefore call hmem
  constructor
  · intro hnow
    have hrest := hclock.of_append hrun
    rcases hrest blocked hblocking with ⟨-, hrest⟩
    have hlast := (hrest.of_append hlater) final hnext
    have hle := (le_clock_of_run hrest.append_left hlater).2
    have hbefore (call : LimiterCall) (hmem : call ∈ later) :
        call.now.toNat < blockEnd limit blocking :=
      Nat.lt_of_le_of_lt ((hle call hmem).trans hlast.1) hnow
    have hheld := hwaiting hbefore
    have hin : next.now < blocking.now + limit.blockNs := by
      rw [BitVec.lt_def, hstop]
      exact hnow
    rcases blocked_step hblock hpps hburst hheld hin hnext with ⟨hkept, hlimited⟩
    rw [hkept, hheld]
    exact ⟨hlimited, rfl⟩
  · intro hbefore hafter
    refine ⟨bucket, hbucket, ?_⟩
    have hfree : (blocking.now + limit.blockNs).toNat ≤ next.now.toNat := by
      rw [hstop]
      exact hafter
    -- A refill does not look at the end of the block.
    have hdecided := unblocked_step hpps hburst (hwaiting hbefore) hfree hnext
    exact hdecided

/-- One packet a nanosecond, and a second of block. -/
def secondOfBlock : RateLimit where
  packetsPerSecond := 1000000000
  burst := 1
  blockNs := 1000000000

def floodKey : RateKey :=
  { sourceKey with kind := rateKindFlood }

/-- The limiter after the first packet, which takes the only token. -/
def afterFirst (now : U64) : Limiter where
  buckets := storeBucket (callAt now).env floodKey (secondOfBlock.firstBucket now) KeyedStore.empty
  clock := now
  decisions := [(now, false)]

theorem run_first (now : U64) :
    run (limiterStep floodKey secondOfBlock) (Limiter.start KeyedStore.empty) [callAt now] =
      some (afterFirst now) := rfl

theorem tokensFit_start : TokensFit floodKey (Limiter.start KeyedStore.empty) := by
  intro bucket hmem
  cases hmem

theorem blockWindow_early :
    BlockWindow floodKey secondOfBlock (afterFirst 0) (callAt 0) [callAt 1] (callAt 1000000000) := by
  refine blockWindow_of_empty (by decide) tokensFit_start ?_ (run_first 0) ?_ (by decide)
  · decide
  · exact ⟨by decide, by decide, secondOfBlock.firstBucket 0, rfl, by decide, by decide⟩

/-- Near the end of the clock the end of the block wraps around, and the block is over at once. -/
theorem blockWindow_wraps :
    run (limiterStep floodKey secondOfBlock) (Limiter.start KeyedStore.empty)
        [callAt 18446744073709551611] = some (afterFirst 18446744073709551611) ∧
      FindsNoToken floodKey secondOfBlock (afterFirst 18446744073709551611)
        (callAt 18446744073709551611) ∧
      EachStep (limiterStep floodKey secondOfBlock) ClockKept (Limiter.start KeyedStore.empty)
        [callAt 18446744073709551611, callAt 18446744073709551611,
          callAt 18446744073709551612] ∧
      ¬ BlockWindow floodKey secondOfBlock (afterFirst 18446744073709551611)
        (callAt 18446744073709551611) [] (callAt 18446744073709551612) := by
  refine ⟨rfl, ⟨by decide, by decide, secondOfBlock.firstBucket 18446744073709551611, rfl, by decide,
    by decide⟩, by decide, fun hwindow => ?_⟩
  have hlimited := (hwindow _ _ _ rfl rfl rfl).1 (by decide)
  exact absurd hlimited.1 (by decide)

end Window

end Bpf
end XdpFirewall
