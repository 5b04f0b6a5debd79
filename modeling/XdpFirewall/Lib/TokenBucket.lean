import Mathlib.Algebra.Group.Nat.Defs
import Mathlib.Data.List.Basic
import Mathlib.Tactic.Ring

/-!
# TokenBucket — token buckets that are refilled lazily and in whole tokens

A bucket earns `rate` tokens in `scale` units of time, up to `burst` of them. It is refilled when
a packet comes, and only if a whole token has been earned since the last refill; the fraction that
is left over then is forgotten.

Tokens and the time since the last refill together make up the level of a bucket. Time raises it,
a refill never does, and a packet takes a whole token out of it. That bounds the packets in every
window of time. Which packets are let through is decided by the whole tokens that each of them
finds earned.
-/

namespace XdpFirewall
namespace Lib

structure Limit where
  scale : Nat
  rate : Nat
  burst : Nat
  scale_pos : 0 < scale
  burst_pos : 0 < burst

structure Bucket where
  tokens : Nat
  updated : Nat

namespace Limit

variable (limit : Limit)

/-- The whole tokens of some time. -/
def earned (elapsed : Nat) : Nat :=
  elapsed * limit.rate / limit.scale

def refill (bucket : Bucket) (now : Nat) : Bucket :=
  if 0 < limit.earned (now - bucket.updated) then
    { tokens := min (bucket.tokens + limit.earned (now - bucket.updated)) limit.burst
      updated := now }
  else
    bucket

/-- The bucket after the first packet. -/
def first (now : Nat) : Bucket where
  tokens := limit.burst - 1
  updated := now

/-- Tokens and time, in units that make up one token when there are `scale` of them. -/
def level (bucket : Bucket) (now : Nat) : Nat :=
  bucket.tokens * limit.scale + (now - bucket.updated) * limit.rate

end Limit

def Bucket.take (bucket : Bucket) : Bucket :=
  { bucket with tokens := bucket.tokens - 1 }

variable {limit : Limit} {bucket : Bucket} {now later : Nat}

/-! ## Levels -/

theorem earned_mul_le (elapsed : Nat) : limit.earned elapsed * limit.scale ≤ elapsed * limit.rate :=
  Nat.div_mul_le_self _ _

theorem lt_scale_of_earned (elapsed : Nat) (h : ¬ 0 < limit.earned elapsed) :
    elapsed * limit.rate < limit.scale := by
  have hzero : elapsed * limit.rate / limit.scale = 0 := Nat.eq_zero_of_not_pos h
  rcases Nat.div_eq_zero_iff.mp hzero with hscale | hlt
  · exact absurd limit.scale_pos (by omega)
  · exact hlt

/-- A refill forgets, and adds nothing. -/
theorem level_refill_le : limit.level (limit.refill bucket now) now ≤ limit.level bucket now := by
  unfold Limit.refill
  split
  · have hmin : min (bucket.tokens + limit.earned (now - bucket.updated)) limit.burst ≤
        bucket.tokens + limit.earned (now - bucket.updated) := Nat.min_le_left _ _
    calc limit.level
          { tokens := min (bucket.tokens + limit.earned (now - bucket.updated)) limit.burst
            updated := now } now
        = min (bucket.tokens + limit.earned (now - bucket.updated)) limit.burst * limit.scale := by
          simp [Limit.level]
      _ ≤ (bucket.tokens + limit.earned (now - bucket.updated)) * limit.scale :=
          Nat.mul_le_mul_right _ hmin
      _ = bucket.tokens * limit.scale + limit.earned (now - bucket.updated) * limit.scale :=
          Nat.add_mul _ _ _
      _ ≤ limit.level bucket now := Nat.add_le_add_left (earned_mul_le _) _
  · exact Nat.le_refl _

/-- After a refill a bucket is worth its burst at most. -/
theorem level_refill_le_burst (h : bucket.tokens < limit.burst) :
    limit.level (limit.refill bucket now) now ≤ limit.burst * limit.scale := by
  unfold Limit.refill
  split
  · simpa [Limit.level] using Nat.mul_le_mul_right limit.scale
      (Nat.min_le_right (bucket.tokens + limit.earned (now - bucket.updated)) limit.burst)
  · rename_i hnone
    have hlt := lt_scale_of_earned _ hnone
    calc limit.level bucket now
        ≤ bucket.tokens * limit.scale + limit.scale := Nat.add_le_add_left hlt.le _
      _ = (bucket.tokens + 1) * limit.scale := (Nat.succ_mul _ _).symm
      _ ≤ limit.burst * limit.scale := Nat.mul_le_mul_right _ h

theorem level_wait (hupdated : bucket.updated ≤ now) (hle : now ≤ later) :
    limit.level bucket later = limit.level bucket now + (later - now) * limit.rate := by
  have hsplit : later - bucket.updated = (now - bucket.updated) + (later - now) := by omega
  rw [Limit.level, Limit.level, hsplit, Nat.add_mul, Nat.add_assoc]

theorem level_take (h : 0 < bucket.tokens) :
    limit.level bucket.take now + limit.scale = limit.level bucket now := by
  obtain ⟨tokens, htokens⟩ := Nat.exists_eq_succ_of_ne_zero (Nat.ne_of_gt h)
  simp only [Limit.level, Bucket.take, htokens, Nat.succ_sub_one, Nat.succ_mul]
  omega

theorem refill_tokens (hle : bucket.tokens ≤ limit.burst) :
    (limit.refill bucket now).tokens =
      min (bucket.tokens + limit.earned (now - bucket.updated)) limit.burst := by
  unfold Limit.refill
  split
  · rfl
  · rename_i hnone
    have hzero : limit.earned (now - bucket.updated) = 0 := Nat.eq_zero_of_not_pos hnone
    rw [hzero, Nat.add_zero, Nat.min_eq_left hle]

theorem refill_updated :
    (limit.refill bucket now).updated =
      if 0 < limit.earned (now - bucket.updated) then now else bucket.updated := by
  unfold Limit.refill
  split <;> rfl

/-- A bucket that is empty after a refill earned nothing. -/
theorem refill_eq_of_empty (h : (limit.refill bucket now).tokens = 0) :
    limit.refill bucket now = bucket := by
  unfold Limit.refill at h ⊢
  split at h
  · rename_i hearned
    have hburst := limit.burst_pos
    simp only at h
    omega
  · rename_i hnone
    rw [if_neg hnone]

/-! ## Windows -/

/-- How many of these times lie in a window. -/
def between (start stop : Nat) (times : List Nat) : Nat :=
  times.countP fun time => start ≤ time ∧ time ≤ stop

/-- Every window has at most the burst and what was earned in it. -/
def WithinRate (limit : Limit) (times : List Nat) : Prop :=
  ∀ start stop, between start stop times ≤ limit.burst + limit.earned (stop - start)

/-- The packets let through so far are paid for by what has gone out of the bucket. -/
structure Accounted (limit : Limit) (times : List Nat) (bucket : Bucket) (now : Nat) : Prop where
  tokens_lt : bucket.tokens < limit.burst
  updated_le : bucket.updated ≤ now
  past : ∀ time ∈ times, time ≤ now
  budget : ∀ start, 0 < between start now times →
    between start now times * limit.scale + limit.level bucket now ≤
      limit.burst * limit.scale + (now - start) * limit.rate

theorem between_of_past {times : List Nat} (hpast : ∀ time ∈ times, time ≤ now) (hle : now ≤ later)
    (start : Nat) : between start later times = between start now times := by
  refine List.countP_congr fun time htime => ?_
  have hnow := hpast time htime
  simp only [decide_eq_true_eq]
  omega

theorem between_append (start stop : Nat) (times times' : List Nat) :
    between start stop (times ++ times') = between start stop times + between start stop times' :=
  List.countP_append

theorem le_of_between_pos {start stop : Nat} {times : List Nat}
    (h : 0 < between start stop times) : start ≤ stop := by
  obtain ⟨time, -, hin⟩ := List.countP_pos_iff.mp h
  have hin : start ≤ time ∧ time ≤ stop := by simpa using hin
  exact hin.1.trans hin.2

theorem Accounted.first (now : Nat) : Accounted limit [now] (limit.first now) now where
  tokens_lt := by
    have hburst := limit.burst_pos
    simp only [Limit.first]
    omega
  updated_le := Nat.le_refl _
  past := by simp
  budget := by
    intro start _
    have hcount : between start now [now] ≤ 1 := List.countP_le_length
    have hburst := limit.burst_pos
    have hlevel : limit.level (limit.first now) now = (limit.burst - 1) * limit.scale := by
      simp [Limit.level, Limit.first]
    calc between start now [now] * limit.scale + limit.level (limit.first now) now
        ≤ 1 * limit.scale + (limit.burst - 1) * limit.scale := by
          rw [hlevel]
          exact Nat.add_le_add_right (Nat.mul_le_mul_right _ hcount) _
      _ = (1 + (limit.burst - 1)) * limit.scale := (Nat.add_mul _ _ _).symm
      _ = limit.burst * limit.scale := by rw [Nat.add_sub_cancel' hburst]
      _ ≤ limit.burst * limit.scale + (now - start) * limit.rate := Nat.le_add_right _ _

theorem Accounted.wait {times : List Nat} (h : Accounted limit times bucket now)
    (hle : now ≤ later) : Accounted limit times bucket later where
  tokens_lt := h.tokens_lt
  updated_le := h.updated_le.trans hle
  past := fun time htime => (h.past time htime).trans hle
  budget := by
    intro start hpos
    rw [between_of_past h.past hle] at hpos ⊢
    have hstart := le_of_between_pos hpos
    have hsplit : later - start = (now - start) + (later - now) := by omega
    calc between start now times * limit.scale + limit.level bucket later
        = between start now times * limit.scale + limit.level bucket now +
            (later - now) * limit.rate := by
          rw [level_wait h.updated_le hle, Nat.add_assoc]
      _ ≤ limit.burst * limit.scale + (now - start) * limit.rate + (later - now) * limit.rate :=
          Nat.add_le_add_right (h.budget start hpos) _
      _ = limit.burst * limit.scale + (later - start) * limit.rate := by
          rw [hsplit, Nat.add_mul, Nat.add_assoc]

/-- A packet that finds a token takes it. -/
theorem Accounted.admit {times : List Nat} (h : Accounted limit times bucket now)
    (htokens : 0 < (limit.refill bucket now).tokens) :
    Accounted limit (times ++ [now]) (limit.refill bucket now).take now where
  tokens_lt := by
    have hle : (limit.refill bucket now).tokens ≤ limit.burst := by
      rw [refill_tokens h.tokens_lt.le]
      exact Nat.min_le_right _ _
    simp only [Bucket.take]
    omega
  updated_le := by
    simp only [Bucket.take, refill_updated]
    split
    · exact Nat.le_refl _
    · exact h.updated_le
  past := by
    intro time htime
    rcases List.mem_append.mp htime with htime | htime
    · exact h.past time htime
    · exact (List.mem_singleton.mp htime).le
  budget := by
    intro start hpos
    have htake : limit.level (limit.refill bucket now).take now + limit.scale =
        limit.level (limit.refill bucket now) now := level_take htokens
    have hone : between start now [now] ≤ 1 := List.countP_le_length
    have hscale : between start now [now] * limit.scale ≤ limit.scale := by
      simpa using Nat.mul_le_mul_right limit.scale hone
    rw [between_append, Nat.add_mul]
    rcases Nat.eq_zero_or_pos (between start now times) with hzero | hold
    · -- The first packet of the window: the bucket is worth its burst at most.
      have hburst : limit.level (limit.refill bucket now) now ≤ limit.burst * limit.scale :=
        level_refill_le_burst h.tokens_lt
      rw [hzero, Nat.zero_mul]
      omega
    · have hbudget := h.budget start hold
      have hrefill : limit.level (limit.refill bucket now) now ≤ limit.level bucket now :=
        level_refill_le
      omega

/-- The packets up to now are within the rate. -/
theorem Accounted.between_le {times : List Nat} (h : Accounted limit times bucket now)
    (start : Nat) : between start now times ≤ limit.burst + limit.earned (now - start) := by
  rcases Nat.eq_zero_or_pos (between start now times) with hzero | hpos
  · rw [hzero]
    exact Nat.zero_le _
  · have hbudget := h.budget start hpos
    have hle : between start now times * limit.scale ≤
        (now - start) * limit.rate + limit.burst * limit.scale := by omega
    have hdiv := (Nat.le_div_iff_mul_le limit.scale_pos).mpr hle
    rw [Nat.add_mul_div_right _ _ limit.scale_pos] at hdiv
    rw [Nat.add_comm]
    exact hdiv

theorem WithinRate.nil : WithinRate limit [] := fun _ _ => Nat.zero_le _

theorem WithinRate.append {times : List Nat} (h : WithinRate limit times)
    (haccounted : Accounted limit (times ++ [now]) bucket now) :
    WithinRate limit (times ++ [now]) := by
  intro start stop
  rcases Nat.lt_or_ge stop now with hlt | hge
  · have hnone : between start stop [now] = 0 := by
      simp [between, Nat.not_le.mpr hlt]
    rw [between_append, hnone, Nat.add_zero]
    exact h start stop
  · rw [between_of_past haccounted.past hge]
    refine (haccounted.between_le start).trans (Nat.add_le_add_left ?_ _)
    exact Nat.div_le_div_right (Nat.mul_le_mul_right _ (by omega))

/-! ## Which packets are let through -/

/-- Every packet at these times finds a token. -/
def AdmitsAll (limit : Limit) : Bucket → List Nat → Prop
  | _, [] => True
  | bucket, now :: times =>
      0 < (limit.refill bucket now).tokens ∧ AdmitsAll limit (limit.refill bucket now).take times

/-- The whole tokens that each packet finds earned. The time counts from the last packet that
found some. -/
def Limit.credits (limit : Limit) : Nat → List Nat → List Nat
  | _, [] => []
  | updated, now :: times =>
      let earned := limit.earned (now - updated)
      earned :: limit.credits (if 0 < earned then now else updated) times

/-- The same for a sequence of packets from the first one on, which finds a full bucket. -/
def Limit.packetCredits (limit : Limit) : List Nat → List Nat
  | [] => []
  | now :: times => 0 :: limit.credits now times

/-- In every stretch of packets there are at most as many as the burst and the whole tokens that
those after the first one found earned. -/
def WithinCredit (burst : Nat) (credits : List Nat) : Prop :=
  ∀ before credit window after, credits = before ++ credit :: (window ++ after) →
    window.length + 1 ≤ burst + window.sum

/-- Counting tokens, with at most `burst` of them at a time. -/
def Fits (burst : Nat) : Nat → List Nat → Prop
  | _, [] => True
  | tokens, credit :: credits =>
      0 < min (tokens + credit) burst ∧ Fits burst (min (tokens + credit) burst - 1) credits

theorem admitsAll_iff_fits {times : List Nat} (hle : bucket.tokens ≤ limit.burst) :
    AdmitsAll limit bucket times ↔
      Fits limit.burst bucket.tokens (limit.credits bucket.updated times) := by
  induction times generalizing bucket with
  | nil => exact Iff.rfl
  | cons now times ih =>
      have htokens : (limit.refill bucket now).tokens =
          min (bucket.tokens + limit.earned (now - bucket.updated)) limit.burst :=
        refill_tokens hle
      have hrest : (limit.refill bucket now).take.tokens ≤ limit.burst := by
        simp only [Bucket.take, htokens]
        omega
      rw [AdmitsAll, Limit.credits, Fits, ih hrest]
      simp only [Bucket.take, htokens, refill_updated]

theorem withinCredit_cons {burst credit : Nat} {credits : List Nat} :
    WithinCredit burst (credit :: credits) ↔
      (∀ window after, credits = window ++ after → window.length + 1 ≤ burst + window.sum) ∧
        WithinCredit burst credits := by
  constructor
  · intro h
    refine ⟨fun window after heq => ?_, fun before other window after heq => ?_⟩
    · exact h [] credit window after (by rw [heq]; rfl)
    · exact h (credit :: before) other window after (by rw [heq]; rfl)
  · rintro ⟨hhead, htail⟩ before other window after heq
    cases before with
    | nil =>
        obtain ⟨rfl, hrest⟩ := List.cons.inj heq
        exact hhead window after hrest
    | cons _ before =>
        obtain ⟨-, hrest⟩ := List.cons.inj heq
        exact htail before other window after hrest

/-- Tokens never run out exactly when no stretch of packets takes more than there can be. -/
theorem fits_iff {burst tokens : Nat} {credits : List Nat} (hburst : 0 < burst) :
    Fits burst tokens credits ↔
      (∀ window after, credits = window ++ after → window.length ≤ tokens + window.sum) ∧
        WithinCredit burst credits := by
  induction credits generalizing tokens with
  | nil =>
      refine iff_of_true trivial ⟨fun window after heq => ?_, fun before _ _ _ heq => ?_⟩
      · obtain ⟨rfl, -⟩ := List.append_eq_nil_iff.mp heq.symm
        exact Nat.zero_le _
      · cases before <;> cases heq
  | cons credit credits ih =>
      rw [Fits, ih, withinCredit_cons]
      constructor
      · rintro ⟨hpos, hstart, hwithin⟩
        refine ⟨fun window after heq => ?_, fun window after heq => ?_, hwithin⟩
        · cases window with
          | nil => exact Nat.zero_le _
          | cons _ window =>
              obtain ⟨rfl, hrest⟩ := List.cons.inj heq
              have hlen := hstart window after hrest
              simp only [List.length_cons, List.sum_cons]
              omega
        · have hlen := hstart window after heq
          omega
      · rintro ⟨hstart, hwindow, hwithin⟩
        have hone := hstart [credit] credits rfl
        simp only [List.length_singleton, List.sum_cons, List.sum_nil, Nat.add_zero] at hone
        refine ⟨by omega, fun window after heq => ?_, hwithin⟩
        have hlen := hstart (credit :: window) after (by rw [heq]; rfl)
        have hlen' := hwindow window after heq
        simp only [List.length_cons, List.sum_cons] at hlen
        omega

/-- After the first packet, all others are let through exactly when no stretch of them takes more
than the burst and the whole tokens earned in it. -/
theorem admitsAll_first_iff {times : List Nat} :
    AdmitsAll limit (limit.first now) times ↔
      WithinCredit limit.burst (limit.packetCredits (now :: times)) := by
  have hburst := limit.burst_pos
  have hle : (limit.first now).tokens ≤ limit.burst := by
    simp only [Limit.first]
    omega
  rw [admitsAll_iff_fits hle, fits_iff hburst, Limit.packetCredits, withinCredit_cons]
  refine and_congr_left fun _ => forall_congr' fun window => forall_congr' fun after =>
    imp_congr_right fun _ => ?_
  simp only [Limit.first]
  omega

end Lib
end XdpFirewall
