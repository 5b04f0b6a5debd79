import XdpFirewall.Bpf.BucketRun
import Mathlib.Logic.Function.Basic

/-!
# StaleClock — one bucket, asked by several CPUs at once

A call reads the clock, looks the bucket up, reads its fields and writes them, and other CPUs take
such steps in between. So a call can come to a bucket that was refilled later than its own clock
says, and what it writes then depends on what is left of the elapsed time after it wraps.
-/

namespace XdpFirewall
namespace Bpf

open Net Policy Lib DataPlane

/-! ## The steps of a call -/

/-- Where a CPU is in `token_bucket_limited`. -/
inductive CallPhase
  | idle
  | clockRead (now : U64)
  | bucketMissing (now : U64)
  | bucketFound (now : U64) (element : Nat)
  | fieldsRead (now : U64) (element : Nat) (seen : RateBucket)
  deriving DecidableEq

/-- The clock value that a call goes by. -/
def CallPhase.now : CallPhase → Option U64
  | .idle => none
  | .clockRead now => some now
  | .bucketMissing now => some now
  | .bucketFound now _ => some now
  | .fieldsRead now _ _ => some now

/-- The memory of the map for one key. Storing a bucket links a new element; a pointer to the old
one stays good for reading and writing, but no longer leads to the bucket of the key. -/
structure SharedBucket (Cpu : Type) where
  elements : List RateBucket
  linked : Option Nat
  phase : Cpu → CallPhase

def SharedBucket.bucket {Cpu : Type} (s : SharedBucket Cpu) : Option RateBucket :=
  s.linked.bind fun element => s.elements[element]?

inductive CpuEvent (Cpu : Type)
  | readClock (cpu : Cpu) (now : U64)
  | lookUp (cpu : Cpu)
  | readFields (cpu : Cpu)
  | writeFields (cpu : Cpu)

def CpuEvent.cpu {Cpu : Type} : CpuEvent Cpu → Cpu
  | .readClock cpu _ => cpu
  | .lookUp cpu => cpu
  | .readFields cpu => cpu
  | .writeFields cpu => cpu

/-- The fields that `token_bucket_limited` assigns, computed from those it read; the others stay as
they are by now. -/
def assignFields (limit : RateLimit) (now : U64) (seen bucket : RateBucket) : RateBucket :=
  if 0 < limit.blockNs ∧ now < seen.blockedUntilNs then
    bucket
  else
    let tokens := (refilled seen now limit).1
    let updatedNs := if 0 < refillTokens seen now limit then now else bucket.updatedNs
    if tokens = 0 then
      let blockedUntilNs :=
        if 0 < limit.blockNs then now + limit.blockNs else bucket.blockedUntilNs
      { bucket with updatedNs := updatedNs, blockedUntilNs := blockedUntilNs }
    else
      { bucket with tokens := tokens - 1, updatedNs := updatedNs }

/-- Without other CPUs in between this is `takeToken`. -/
theorem assignFields_self (limit : RateLimit) (now : U64) (bucket : RateBucket) :
    assignFields limit now bucket bucket = (takeToken bucket now limit).2 := by
  by_cases hblocked : 0 < limit.blockNs ∧ now < bucket.blockedUntilNs
  · rw [takeToken_of_blocked hblocked, assignFields, if_pos hblocked]
  · rw [takeToken_of_free hblocked, assignFields, if_neg hblocked, refilled_snd]
    dsimp only
    by_cases hzero : (refilled bucket now limit).1 = 0
    · rw [if_pos hzero, if_pos hzero]
    · rw [if_neg hzero, if_neg hzero]

/-- The bucket stays, and is not set back. -/
def SetForward {Cpu : Type} (s s' : SharedBucket Cpu) : Prop :=
  ∀ bucket ∈ s.bucket, ∃ bucket' ∈ s'.bucket, bucket.updatedNs.toNat ≤ bucket'.updatedNs.toNat

theorem SetForward.refl {Cpu : Type} (s : SharedBucket Cpu) : SetForward s s :=
  fun bucket hbucket => ⟨bucket, hbucket, Nat.le_refl _⟩

theorem SetForward.trans {Cpu : Type} {s s' s'' : SharedBucket Cpu} (h : SetForward s s')
    (h' : SetForward s' s'') : SetForward s s'' := by
  intro bucket hbucket
  rcases h bucket hbucket with ⟨mid, hmid, hle⟩
  rcases h' mid hmid with ⟨last, hlast, hle'⟩
  exact ⟨last, hlast, hle.trans hle'⟩

section Steps

variable {Cpu : Type} [DecidableEq Cpu]

def SharedBucket.enter (s : SharedBucket Cpu) (cpu : Cpu) (phase : CallPhase) : SharedBucket Cpu :=
  { s with phase := Function.update s.phase cpu phase }

/-- One step of one CPU. A call with a rate or burst of zero returns before it reads the clock. -/
def cpuStep (limit : RateLimit) (s : SharedBucket Cpu) : CpuEvent Cpu → Option (SharedBucket Cpu)
  | .readClock cpu now =>
      match s.phase cpu with
      | .idle =>
          if limit.packetsPerSecond = 0 ∨ limit.burst = 0 then
            none
          else
            some (s.enter cpu (.clockRead now))
      | _ => none
  | .lookUp cpu =>
      match s.phase cpu with
      | .clockRead now =>
          match s.linked with
          | none => some (s.enter cpu (.bucketMissing now))
          | some element => some (s.enter cpu (.bucketFound now element))
      | _ => none
  | .readFields cpu =>
      match s.phase cpu with
      | .bucketFound now element =>
          (s.elements[element]?).map fun seen => s.enter cpu (.fieldsRead now element seen)
      | _ => none
  | .writeFields cpu =>
      match s.phase cpu with
      | .bucketMissing now =>
          some
            { s.enter cpu .idle with
              elements := s.elements ++ [limit.firstBucket now]
              linked := some s.elements.length }
      | .fieldsRead now element seen =>
          some
            { s.enter cpu .idle with
              elements := s.elements.modify element (assignFields limit now seen) }
      | _ => none

/-! ## What a stale call does -/

/-- A call whose clock is behind the bucket grants no token and does not set the bucket back. -/
def GrantsNothing (s : SharedBucket Cpu) (event : CpuEvent Cpu) (s' : SharedBucket Cpu) : Prop :=
  ∀ now ∈ (s.phase event.cpu).now, ∀ bucket ∈ s.bucket, now < bucket.updatedNs →
    ∃ bucket' ∈ s'.bucket, bucket'.tokens.toNat ≤ bucket.tokens.toNat ∧
      bucket.updatedNs.toNat ≤ bucket'.updatedNs.toNat

/-- The product of the time since the last refill and the rate, both in 64 bits. -/
def wrappedProduct (limit : RateLimit) (seen : RateBucket) (now : U64) : Nat :=
  (now - seen.updatedNs).toNat * limit.packetsPerSecond.toNat % 2 ^ 64

/-- The source was blocked when the fields were read, or they earn no whole token by the product
that wraps and hold no more tokens than the bucket has by now, apart from the one to be taken. -/
def EarnsNothing (limit : RateLimit) (now : U64) (seen bucket : RateBucket) : Prop :=
  (0 < limit.blockNs ∧ now < seen.blockedUntilNs) ∨
    (wrappedProduct limit seen now < 1000000000 ∧ seen.tokens.toNat ≤ bucket.tokens.toNat + 1)

/-- A call that is about to write is not behind the bucket, or earns nothing. -/
def Harmless (limit : RateLimit) (s : SharedBucket Cpu) (event : CpuEvent Cpu)
    (_ : SharedBucket Cpu) : Prop :=
  ∀ bucket ∈ s.bucket,
    match s.phase event.cpu with
    | .bucketMissing now => bucket.updatedNs ≤ now
    | .fieldsRead now element seen =>
        s.linked = some element → now < bucket.updatedNs → EarnsNothing limit now seen bucket
    | _ => True

variable {limit : RateLimit} {s s' : SharedBucket Cpu} {event : CpuEvent Cpu} {now : U64}
  {seen bucket : RateBucket}

theorem refillTokens_pos_iff :
    0 < refillTokens seen now limit ↔ ¬ wrappedProduct limit seen now < 1000000000 := by
  have hpps : (limit.packetsPerSecond.setWidth 64).toNat = limit.packetsPerSecond.toNat := by
    rw [BitVec.toNat_setWidth]
    exact Nat.mod_eq_of_lt (by omega)
  have htokens : (refillTokens seen now limit).toNat =
      wrappedProduct limit seen now / 1000000000 := by
    rw [refillTokens, BitVec.toNat_udiv, BitVec.toNat_mul, hpps]
    rfl
  rw [BitVec.lt_def, htokens]
  exact (Nat.div_pos_iff.trans (and_iff_right (by decide))).trans Nat.not_lt.symm

/-- What is written to a bucket that is ahead of the clock. -/
theorem assignFields_grantsNothing_iff (hstale : now < bucket.updatedNs) :
    ((assignFields limit now seen bucket).tokens.toNat ≤ bucket.tokens.toNat ∧
        bucket.updatedNs.toNat ≤ (assignFields limit now seen bucket).updatedNs.toNat) ↔
      EarnsNothing limit now seen bucket := by
  have hlt : now.toNat < bucket.updatedNs.toNat := hstale
  by_cases hblocked : 0 < limit.blockNs ∧ now < seen.blockedUntilNs
  · rw [assignFields, if_pos hblocked]
    exact iff_of_true ⟨Nat.le_refl _, Nat.le_refl _⟩ (Or.inl hblocked)
  · rw [EarnsNothing, or_iff_right hblocked, assignFields, if_neg hblocked]
    dsimp only
    by_cases hgain : 0 < refillTokens seen now limit
    · -- A refill sets the time of the bucket to the clock of the call.
      rw [if_pos hgain]
      refine iff_of_false ?_ fun h => refillTokens_pos_iff.mp hgain h.1
      rintro ⟨-, hupdated⟩
      split at hupdated
      all_goals
        simp only at hupdated
        omega
    · have hsmall : wrappedProduct limit seen now < 1000000000 :=
        not_not.mp (mt refillTokens_pos_iff.mpr hgain)
      have htokens : (refilled seen now limit).1 = seen.tokens := by
        rw [refilled_eq, if_neg hgain]
      rw [if_neg hgain, htokens, and_iff_right hsmall]
      by_cases hzero : seen.tokens = 0
      · rw [if_pos hzero, hzero]
        exact iff_of_true ⟨Nat.le_refl _, Nat.le_refl _⟩ (Nat.zero_le _)
      · have hone : (seen.tokens - 1).toNat = seen.tokens.toNat - 1 := by
          apply BitVec.toNat_sub_of_le
          rw [BitVec.le_def]
          exact Nat.pos_of_ne_zero fun heq => hzero (BitVec.eq_of_toNat_eq heq)
        rw [if_neg hzero]
        simp only [hone, Nat.le_refl, and_true]
        omega

/-- A call that is not behind the bucket does not set it back. -/
theorem le_updatedNs_assignFields (hfresh : bucket.updatedNs ≤ now) :
    bucket.updatedNs.toNat ≤ (assignFields limit now seen bucket).updatedNs.toNat := by
  have hle : bucket.updatedNs.toNat ≤ now.toNat := hfresh
  have hassigned : bucket.updatedNs.toNat ≤
      (if 0 < refillTokens seen now limit then now else bucket.updatedNs).toNat := by
    split
    · exact hle
    · exact Nat.le_refl _
  rw [assignFields]
  split
  · exact Nat.le_refl _
  · dsimp only
    split
    · exact hassigned
    · exact hassigned

theorem bucket_enter (cpu : Cpu) (phase : CallPhase) : (s.enter cpu phase).bucket = s.bucket := rfl

/-- What a step does to the bucket, by the phase of its CPU. -/
theorem cpuStep_cases (hstep : cpuStep limit s event = some s') :
    (s'.bucket = s.bucket ∧
        (s.phase event.cpu = .idle ∨ (∃ now, s.phase event.cpu = .clockRead now) ∨
          ∃ now element, s.phase event.cpu = .bucketFound now element)) ∨
      (∃ now, s.phase event.cpu = .bucketMissing now ∧
        s'.bucket = some (limit.firstBucket now)) ∨
      ∃ now element seen, s.phase event.cpu = .fieldsRead now element seen ∧
        s'.bucket =
          if s.linked = some element then s.bucket.map (assignFields limit now seen)
          else s.bucket := by
  cases event with
  | readClock cpu now =>
      cases hphase : s.phase cpu <;> simp only [cpuStep, hphase, reduceCtorEq] at hstep
      split at hstep
      · cases hstep
      · cases hstep
        exact Or.inl ⟨bucket_enter _ _, Or.inl hphase⟩
  | lookUp cpu =>
      cases hphase : s.phase cpu <;> simp only [cpuStep, hphase, reduceCtorEq] at hstep
      refine Or.inl ⟨?_, Or.inr (Or.inl ⟨_, hphase⟩)⟩
      split at hstep
      all_goals
        cases hstep
        exact bucket_enter _ _
  | readFields cpu =>
      cases hphase : s.phase cpu <;> simp only [cpuStep, hphase, reduceCtorEq] at hstep
      rcases Option.map_eq_some_iff.mp hstep with ⟨seen, -, rfl⟩
      exact Or.inl ⟨bucket_enter _ _, Or.inr (Or.inr ⟨_, _, hphase⟩)⟩
  | writeFields cpu =>
      cases hphase : s.phase cpu <;> simp only [cpuStep, hphase, reduceCtorEq] at hstep
      · cases hstep
        refine Or.inr (Or.inl ⟨_, hphase, ?_⟩)
        simp [SharedBucket.bucket]
      · rename_i now element seen
        cases hstep
        refine Or.inr (Or.inr ⟨now, element, seen, hphase, ?_⟩)
        cases hlinked : s.linked with
        | none => simp [SharedBucket.bucket, SharedBucket.enter, hlinked]
        | some linked =>
            by_cases hsame : linked = element
            · subst hsame
              simp [SharedBucket.bucket, SharedBucket.enter, hlinked]
            · simp [SharedBucket.bucket, SharedBucket.enter, hlinked, hsame,
                List.getElem?_modify_ne _ _ (Ne.symm hsame)]

/-- One step grants nothing to a stale call exactly when it is harmless. -/
theorem grantsNothing_iff (hstep : cpuStep limit s event = some s') :
    GrantsNothing s event s' ↔ Harmless limit s event s' := by
  rcases cpuStep_cases hstep with ⟨hkept, hphase⟩ | ⟨now, hphase, hstored⟩ |
    ⟨now, element, seen, hphase, hwritten⟩
  · refine iff_of_true (fun now _ bucket hbucket _ => ?_) fun bucket _ => ?_
    · rw [hkept]
      exact ⟨bucket, hbucket, Nat.le_refl _, Nat.le_refl _⟩
    · rcases hphase with hphase | ⟨_, hphase⟩ | ⟨_, _, hphase⟩
      all_goals rw [hphase]; trivial
  · -- A new bucket has the time of the call, whatever it replaces.
    have hnew (bucket : RateBucket) :
        (∃ bucket' ∈ s'.bucket, bucket'.tokens.toNat ≤ bucket.tokens.toNat ∧
          bucket.updatedNs.toNat ≤ bucket'.updatedNs.toNat) → bucket.updatedNs ≤ now := by
      rintro ⟨bucket', hmem, -, hle⟩
      rw [hstored] at hmem
      cases hmem
      exact hle
    constructor
    · intro h bucket hbucket
      rw [hphase]
      by_contra hahead
      have hstale : now < bucket.updatedNs := BitVec.not_le.mp hahead
      refine hahead (hnew bucket (h now ?_ bucket hbucket hstale))
      rw [hphase]
      rfl
    · intro h other hnow bucket hbucket hstale
      have hle := h bucket hbucket
      rw [hphase] at hnow hle
      cases hnow
      exact absurd hstale (BitVec.not_lt.mpr hle)
  · constructor
    · intro h bucket hbucket
      rw [hphase]
      intro hlinked hstale
      rcases h now (by rw [hphase]; rfl) bucket hbucket hstale with ⟨bucket', hmem, hgrants⟩
      rw [hwritten, if_pos hlinked, hbucket] at hmem
      cases hmem
      exact (assignFields_grantsNothing_iff hstale).mp hgrants
    · intro h other hnow bucket hbucket hstale
      have hearns := h bucket hbucket
      rw [hphase] at hnow hearns
      cases hnow
      by_cases hlinked : s.linked = some element
      · rw [hwritten, if_pos hlinked, hbucket]
        exact ⟨_, rfl, (assignFields_grantsNothing_iff hstale).mpr (hearns hlinked hstale)⟩
      · -- The pointer is to an element that was replaced.
        rw [hwritten, if_neg hlinked]
        exact ⟨bucket, hbucket, Nat.le_refl _, Nat.le_refl _⟩

theorem setForward_of_harmless (hstep : cpuStep limit s event = some s')
    (hharmless : Harmless limit s event s') : SetForward s s' := by
  intro bucket hbucket
  have hgrants := (grantsNothing_iff hstep).mpr hharmless
  rcases cpuStep_cases hstep with ⟨hkept, -⟩ | ⟨now, hphase, hstored⟩ |
    ⟨now, element, seen, hphase, hwritten⟩
  · rw [hkept]
    exact ⟨bucket, hbucket, Nat.le_refl _⟩
  · have hle := hharmless bucket hbucket
    rw [hphase] at hle
    rw [hstored]
    exact ⟨_, rfl, hle⟩
  · by_cases hstale : now < bucket.updatedNs
    · rcases hgrants now (by rw [hphase]; rfl) bucket hbucket hstale with ⟨bucket', hmem, -, hle⟩
      exact ⟨bucket', hmem, hle⟩
    · by_cases hlinked : s.linked = some element
      · rw [hwritten, if_pos hlinked, hbucket]
        exact ⟨_, rfl, le_updatedNs_assignFields (BitVec.not_lt.mp hstale)⟩
      · rw [hwritten, if_neg hlinked]
        exact ⟨bucket, hbucket, Nat.le_refl _⟩

/-! ## Runs -/

theorem setForward_of_run {events : List (CpuEvent Cpu)}
    (hharmless : EachStep (cpuStep limit) (Harmless limit) s events)
    (hrun : run (cpuStep limit) s events = some s') : SetForward s s' := by
  have hstep (mid : SharedBucket Cpu) (event : CpuEvent Cpu) (next : SharedBucket Cpu)
      (hforward : SetForward s mid) (hnext : cpuStep limit mid event = some next)
      (hcall : Harmless limit mid event next) : SetForward s next :=
    hforward.trans (setForward_of_harmless hnext hcall)
  exact run_invariant_of_each hstep (SetForward.refl s) hharmless hrun

/-- In every interleaving the stale calls grant nothing exactly when each of their writes is
harmless; and then the bucket is never set back at all. -/
theorem stale_grantsNothing_iff (limit : RateLimit) (s : SharedBucket Cpu)
    (events : List (CpuEvent Cpu)) :
    (EachStep (cpuStep limit) GrantsNothing s events ↔
        EachStep (cpuStep limit) (Harmless limit) s events) ∧
      (EachStep (cpuStep limit) (Harmless limit) s events →
        ∀ s', run (cpuStep limit) s events = some s' → SetForward s s') := by
  constructor
  · have hagree (s : SharedBucket Cpu) (event : CpuEvent Cpu) (s' : SharedBucket Cpu) (_ : True)
        (hstep : cpuStep limit s event = some s') :
        GrantsNothing s event s' ↔ Harmless limit s event s' :=
      grantsNothing_iff hstep
    exact eachStep_congr hagree (fun _ _ _ _ _ _ => trivial) trivial
  · intro hharmless s' hrun
    exact setForward_of_run hharmless hrun

end Steps

/-- Ten tokens, a thousand a second. -/
def tenAtOnce : RateLimit where
  packetsPerSecond := 1000
  burst := 10
  blockNs := 0

/-- Before the first packet of the key. -/
def unused : SharedBucket (Fin 2) where
  elements := []
  linked := none
  phase := fun _ => .idle

/-- One CPU reads the clock, and another handles two packets before the first one goes on. -/
def overtaken : List (CpuEvent (Fin 2)) :=
  [.readClock 0 5, .readClock 1 10, .lookUp 1, .writeFields 1, .readClock 1 10, .lookUp 1,
    .readFields 1, .writeFields 1, .lookUp 0, .readFields 0]

/-- The late write gives back a token that was taken, and sets the bucket back. -/
theorem overtaken_granted :
    ∃ s s', run (cpuStep tenAtOnce) unused overtaken = some s ∧
      cpuStep tenAtOnce s (.writeFields 0) = some s' ∧
      s.bucket = some { tokens := 8, updatedNs := 10, blockedUntilNs := 0 } ∧
      s'.bucket = some { tokens := 9, updatedNs := 5, blockedUntilNs := 0 } ∧
      ¬ EachStep (cpuStep tenAtOnce) GrantsNothing unused (overtaken ++ [.writeFields 0]) := by
  refine ⟨_, _, rfl, rfl, rfl, rfl, fun hgrants => ?_⟩
  have hlast := (EachStep.of_append hgrants (rfl : run (cpuStep tenAtOnce) unused overtaken = _) _
    rfl).1
  rcases hlast 5 rfl _ rfl (by decide) with ⟨bucket', hmem, htokens, -⟩
  cases hmem
  exact absurd htokens (by decide)

end Bpf
end XdpFirewall
