/-
# Kernel.Admission -- runs of `checkUdpRateLimit`

Whatever is asked of it, the bucket is a meter: what the times of the calls supply
does not depend on the answers.  A call supplies whole tokens for the whole
milliseconds since the last call that supplied any, and the fractions are lost.

* `answers_eq_granted` -- the answers are those of the meter;
* `admitted_within` -- the tokens stay within the bucket, and how many of the calls of
  a stretch of time are admitted;
* `all_admitted_iff` -- which calls are all admitted;
* `paced_admitted` -- a client that leaves seventeen milliseconds between its calls is
  always admitted.
-/
import GameServer.Kernel.Bucket
import GameServer.Theory.Meter

namespace GameServer.Kernel

set_option autoImplicit false

open Theory

/-! ## What times supply -/

/-- The tokens earned in a span of time: sixty a second, by whole milliseconds and in
whole tokens. -/
def earned (span : Int) : Int := (inMilliseconds span * 60).tdiv 1000

/-- What each call adds, the bucket having been filled last at `last`. -/
def supplies : Time → List Time → List Int
  | _, [] => []
  | last, t :: times =>
      if 0 < earned (t - last) then earned (t - last) :: supplies t times
      else 0 :: supplies last times

theorem supplies_nonneg (last : Time) (times : List Time) : ∀ a ∈ supplies last times, 0 ≤ a := by
  induction times generalizing last with
  | nil => exact fun _ member => nomatch member
  | cons t times ih =>
      intro a member
      simp only [supplies] at member
      split at member
      · rcases List.mem_cons.mp member with rfl | later
        · omega
        · exact ih t a later
      · rcases List.mem_cons.mp member with rfl | later
        · exact Int.le_refl 0
        · exact ih last a later

namespace Session

/-- The bucket after calls. -/
def askedAt (s : Session) (times : List Time) : Session :=
  times.foldl (fun s t => (s.checkUdpRateLimit t).1) s

/-- What calls at these times return. -/
def answersAt (s : Session) : List Time → List Bool
  | [] => []
  | t :: times => (s.checkUdpRateLimit t).2 :: (s.checkUdpRateLimit t).1.answersAt times

/-- The tokens are within the bucket. -/
def WithinBucket (s : Session) : Prop := 0 ≤ s.udpTokens ∧ s.udpTokens ≤ 120

instance (s : Session) : Decidable s.WithinBucket := inferInstanceAs (Decidable (_ ∧ _))

variable {s : Session}

/-- What one call adds to the bucket. -/
def supply (t : Time) (s : Session) : Int := if 0 < s.refill t then s.refill t else 0

/-- When the bucket was last filled, after a call. -/
def filledAt (t : Time) (s : Session) : Time := if 0 < s.refill t then t else s.lastUdpTokenRefill

theorem supplies_cons (s : Session) (t : Time) (times : List Time) :
    supplies s.lastUdpTokenRefill (t :: times) =
      s.supply t :: supplies (s.filledAt t) times := by
  have same : earned (t - s.lastUdpTokenRefill) = s.refill t := rfl
  simp only [supplies, supply, filledAt, same]
  split <;> rfl

/-- **One call** is a draw of the meter. -/
theorem checkUdpRateLimit_draw (most : s.udpTokens ≤ 120) (t : Time) :
    (s.checkUdpRateLimit t).1.udpTokens = (Meter.draw 120 s.udpTokens (s.supply t)).1 ∧
      (s.checkUdpRateLimit t).2 = (Meter.draw 120 s.udpTokens (s.supply t)).2 ∧
      (s.checkUdpRateLimit t).1.lastUdpTokenRefill = s.filledAt t := by
  have filled : (s.refilled t).udpTokens = Meter.filled 120 s.udpTokens (s.supply t) ∧
      (s.refilled t).lastUdpTokenRefill = s.filledAt t := by
    simp only [refilled, supply, filledAt, Meter.filled]
    split
    · exact ⟨rfl, rfl⟩
    · exact ⟨by omega, rfl⟩
  rw [checkUdpRateLimit_eq, Meter.draw, ← filled.1, ← filled.2]
  split
  · exact ⟨rfl, rfl, rfl⟩
  · exact ⟨rfl, rfl, rfl⟩

theorem supply_nonneg (t : Time) (s : Session) : 0 ≤ s.supply t := by
  simp only [supply]
  split <;> omega

theorem WithinBucket.call (within : s.WithinBucket) (t : Time) :
    (s.checkUdpRateLimit t).1.WithinBucket := by
  simp only [WithinBucket, (checkUdpRateLimit_draw within.2 t).1]
  exact Meter.draw_within within (supply_nonneg t s)

theorem draw_le_cap (most : s.udpTokens ≤ 120) (t : Time) :
    (s.checkUdpRateLimit t).1.udpTokens ≤ 120 := by
  have full : Meter.filled 120 s.udpTokens (s.supply t) ≤ 120 := Int.min_le_right _ _
  rw [(checkUdpRateLimit_draw most t).1, Meter.draw]
  split
  · dsimp only
    omega
  · exact full

/-- **The answers are the meter's.** -/
theorem answers_eq_granted (most : s.udpTokens ≤ 120) (times : List Time) :
    s.answersAt times =
      Meter.granted 120 s.udpTokens (supplies s.lastUdpTokenRefill times) := by
  induction times generalizing s with
  | nil => rfl
  | cons t times ih =>
      obtain ⟨tokens, answer, last⟩ := checkUdpRateLimit_draw most t
      rw [supplies_cons, Meter.granted, answersAt, ih (draw_le_cap most t), answer, tokens, last]

theorem withinBucket_askedAt (within : s.WithinBucket) (times : List Time) :
    (s.askedAt times).WithinBucket := by
  induction times generalizing s with
  | nil => exact within
  | cons t times ih => exact ih (within.call t)

end Session

/-! ## How much a stretch of time supplies -/

theorem earned_eq {span : Int} (forward : 0 ≤ span) : earned span = span / 1000000 * 60 / 1000 := by
  have ms : inMilliseconds span = span / 1000000 := Int.tdiv_eq_ediv_of_nonneg forward
  have whole : 0 ≤ span / 1000000 * 60 := by omega
  rw [earned, ms, Int.tdiv_eq_ediv_of_nonneg whole]

theorem earned_mono {x y : Int} (longer : x ≤ y) : earned x ≤ earned y := by
  have ms : inMilliseconds x ≤ inMilliseconds y := Int.tdiv_le_tdiv (by decide) longer
  exact Int.tdiv_le_tdiv (by decide) (Int.mul_le_mul_of_nonneg_right ms (by decide))

theorem earned_pos {span : Int} : 0 < earned span ↔ tokenTime ≤ span := by
  have since := @Session.refill_pos span {}
  have age : ({} : Session).sinceRefill span = span := Int.sub_zero span
  have refill : ({} : Session).refill span = earned span := by
    rw [Session.refill, earned]
    congr 3
  rwa [age, refill] at since

/-- Truncation only loses: two spans earn no more apart than as one. -/
theorem earned_add {x y : Int} (one : 0 ≤ x) (other : 0 ≤ y) :
    earned x + earned y ≤ earned (x + y) := by
  rw [earned_eq one, earned_eq other, earned_eq (by omega)]
  omega

/-- Calls up to `until` supply no more than the span since the bucket was filled. -/
theorem sum_supplies_le {last limit : Time} {times : List Time} (within : ∀ t ∈ times, t ≤ limit) :
    (supplies last times).sum ≤ max 0 (earned (limit - last)) := by
  induction times generalizing last with
  | nil => exact Int.le_max_left _ _
  | cons t times ih =>
      have later : ∀ u ∈ times, u ≤ limit := fun u member =>
        within u (List.mem_cons_of_mem t member)
      simp only [supplies]
      split
      · rename_i due
        have rest := @ih t later
        have forward : (0 : Int) ≤ limit - t := Int.sub_nonneg_of_le (within t List.mem_cons_self)
        have waited : (0 : Int) ≤ t - last := by
          have long := earned_pos.mp due
          have time : (0 : Int) ≤ tokenTime := by decide
          omega
        have together := earned_add waited forward
        have spans : (t - last : Int) + (limit - t) = limit - last := by
          dsimp only [Time] at *
          omega
        have some : 0 ≤ earned (limit - t) := by
          rw [earned_eq forward]
          omega
        rw [spans] at together
        rw [List.sum_cons]
        omega
      · rw [List.sum_cons, Int.zero_add]
        exact ih later

/-- All calls are within `ms` milliseconds of each other. -/
def Lasts (ms : Nat) (times : List Time) : Prop :=
  ∀ t ∈ times, ∀ t' ∈ times, (t' - t : Int) ≤ ms * 1000000

instance (ms : Nat) (times : List Time) : Decidable (Lasts ms times) :=
  inferInstanceAs (Decidable (∀ t ∈ times, ∀ t' ∈ times, (t' - t : Int) ≤ ms * 1000000))

/-- What can have been earned before a stretch and not added yet is less than a token
more. -/
theorem earned_stretch (ms : Nat) {before : Int} (early : before < tokenTime) :
    max 0 (earned (ms * 1000000 + before)) ≤ (60 * ms / 1000 + 1 : Nat) := by
  have short : before ≤ 16999999 := by
    have time : tokenTime = 17000000 := rfl
    omega
  have most := @earned_mono (ms * 1000000 + before) (ms * 1000000 + 16999999) (by omega)
  rw [earned_eq (by omega : (0 : Int) ≤ ms * 1000000 + 16999999)] at most
  omega

namespace Session

/-- In a stretch of `ms` milliseconds the bucket admits a full bucket, what the stretch
earns, and at most one more. -/
theorem stretch_admitted {s : Session} (within : s.WithinBucket) {ms : Nat} {times : List Time}
    (lasts : Lasts ms times) :
    (s.answersAt times).count true ≤ 120 + 60 * ms / 1000 + 1 := by
  rw [answers_eq_granted within.2]
  cases times with
  | nil => simp [supplies, Meter.granted]
  | cons t times =>
      have most := @Meter.granted_le_cap 120 s.udpTokens (supplies (s.filledAt t) times) within
        (s.supply t) (supply_nonneg t s) (supplies_nonneg _ _)
      have until_end : ∀ u ∈ times, u ≤ t + ms * 1000000 := by
        intro u member
        have close := lasts t List.mem_cons_self u (List.mem_cons_of_mem t member)
        dsimp only [Time] at *
        omega
      have total := @sum_supplies_le (s.filledAt t) _ times until_end
      have before : (t - s.filledAt t : Int) < tokenTime := by
        simp only [filledAt]
        split
        · show (t - t : Int) < tokenTime
          rw [Int.sub_self]
          decide
        · rename_i early
          rw [refill_pos] at early
          exact Int.not_le.mp early
      have spans : (t + ms * 1000000 - s.filledAt t : Int) =
          ms * 1000000 + (t - s.filledAt t) := by
        dsimp only [Time] at *
        omega
      have stretch := earned_stretch ms before
      rw [← spans] at stretch
      rw [supplies_cons]
      omega

/-- **The bucket never over-admits.**  Its tokens stay between none and 120, and of the
calls of any stretch, which lasts `ms` milliseconds rounded up to whole ones, it admits
at most 120, what the stretch earns, and one more. -/
theorem admitted_within (s : Session) (within : s.WithinBucket) (times : List Time) :
    (∀ front, front <+: times → (s.askedAt front).WithinBucket) ∧
      ∀ front mid back ms, times = front ++ mid ++ back → Lasts ms mid →
        ((s.askedAt front).answersAt mid).count true ≤ 120 + 60 * ms / 1000 + 1 := by
  constructor
  · intro front _
    exact withinBucket_askedAt within front
  · intro front mid back ms _ lasts
    exact stretch_admitted (withinBucket_askedAt within front) lasts

/-- A new object asked first just before it earns a token. -/
def lateBurst : List Time := List.replicate 120 16999999 ++ List.replicate 3 50000000

theorem admitted_within_late_burst :
    (∀ front, front <+: lateBurst → (({} : Session).askedAt front).WithinBucket) ∧
      ∀ front mid back ms, lateBurst = front ++ mid ++ back → Lasts ms mid →
        ((({} : Session).askedAt front).answersAt mid).count true ≤ 120 + 60 * ms / 1000 + 1 :=
  admitted_within {} (by decide) lateBurst

/-- Its calls last 33.000001 milliseconds, in which 1.98 tokens are earned, and 123 of
them are admitted: the clock the bucket reads has whole milliseconds. -/
theorem late_burst_over :
    ({} : Session).WithinBucket ∧ lateBurst.Pairwise (· ≤ ·) ∧
      (({} : Session).answersAt lateBurst).count true = 123 ∧
      ¬ 123 ≤ 120 + 60 * (50000000 - 16999999) / 1000000000 + 1 := by
  decide +kernel

/-! ## Calls that are all admitted -/

/-- **Every call is admitted exactly when the whole tokens cover the calls**: at no call
have there been more calls than tokens held at first and supplied since, nor more from
any call on than a full bucket and what is supplied after it. -/
theorem all_admitted_iff (s : Session) (most : s.udpTokens ≤ 120) (times : List Time) :
    (∀ b ∈ s.answersAt times, b = true) ↔
      Meter.Covered 120 s.udpTokens (supplies s.lastUdpTokenRefill times) := by
  rw [answers_eq_granted most]
  exact Meter.granted_all_iff

/-- A client that keeps to sixty calls a second, one ahead at most. -/
def Conforming (times : List Time) : Prop :=
  ∀ j, j < times.length → ∀ i, i < j →
    ((j - i : Nat) : Int) * 1000000000 ≤
      60 * (times.getD j 0 - times.getD i 0) + 1000000000

instance (times : List Time) : Decidable (Conforming times) :=
  inferInstanceAs (Decidable (∀ j, j < times.length → ∀ i, i < j → _))

/-- Sixty calls a second, by the millisecond. -/
def evenCalls : List Time := [0, 17, 33, 50, 67, 83].map (· * 1000000)

/-- A bucket of two that was filled at the first call. -/
def twoTokens : Session := { udpTokens := 2 }

theorem all_admitted_iff_even :
    (∀ b ∈ twoTokens.answersAt evenCalls, b = true) ↔
      Meter.Covered 120 twoTokens.udpTokens (supplies twoTokens.lastUdpTokenRefill evenCalls) :=
  all_admitted_iff twoTokens (by decide) evenCalls

/-- Sixteen milliseconds earn nothing, and the thirty-three that follow one token: the
sixth call is refused. -/
theorem even_calls_refused :
    2 ≤ twoTokens.udpTokens ∧ twoTokens.lastUdpTokenRefill ≤ evenCalls.getD 0 0 ∧
      evenCalls.Pairwise (· ≤ ·) ∧ Conforming evenCalls ∧
      ¬ ∀ b ∈ twoTokens.answersAt evenCalls, b = true := by
  decide +kernel

/-- A call a token's time after the one before finds a token. -/
theorem due_admitted {s : Session} (within : s.WithinBucket) {t : Time}
    (due : tokenTime ≤ s.sinceRefill t) :
    (s.checkUdpRateLimit t).2 = true ∧ (s.checkUdpRateLimit t).1.lastUdpTokenRefill = t := by
  obtain ⟨filled, -, more⟩ := refilled_due due
  have some : 0 < (s.refilled t).udpTokens := by
    have nonneg := within.1
    omega
  rw [checkUdpRateLimit_eq, if_pos some]
  exact ⟨rfl, filled⟩

theorem due_all_admitted {s : Session} (within : s.WithinBucket) {before : Time} {times : List Time}
    (asked : s.lastUdpTokenRefill ≤ before)
    (paced : (before :: times).IsChain fun t t' => tokenTime ≤ t' - t) :
    ∀ b ∈ s.answersAt times, b = true := by
  induction times generalizing s before with
  | nil => exact fun _ member => nomatch member
  | cons t times ih =>
      obtain ⟨wait, rest⟩ := List.isChain_cons_cons.mp paced
      have due : tokenTime ≤ s.sinceRefill t := by
        show tokenTime ≤ (t - s.lastUdpTokenRefill : Int)
        dsimp only [Time] at *
        omega
      obtain ⟨admitted, filled⟩ := due_admitted within due
      intro b member
      rcases List.mem_cons.mp member with rfl | later
      · exact admitted
      · exact ih (within.call t) (Int.le_of_eq filled) rest b later

/-- **A client that waits seventeen milliseconds after each call is never refused.** -/
theorem paced_admitted (s : Session) (within : s.WithinBucket) (some : 0 < s.udpTokens)
    {times : List Time} (asked : ∀ t ∈ times.head?, s.lastUdpTokenRefill ≤ t)
    (paced : times.IsChain fun t t' => tokenTime ≤ t' - t) :
    ∀ b ∈ s.answersAt times, b = true := by
  cases times with
  | nil => exact fun _ member => nomatch member
  | cons t times =>
      have before : s.lastUdpTokenRefill ≤ t := asked t rfl
      obtain ⟨-, answer, last⟩ := checkUdpRateLimit_draw within.2 t
      have nonneg := supply_nonneg t s
      have full : 0 < Meter.filled 120 s.udpTokens (s.supply t) := by
        simp only [Meter.filled]
        omega
      have admitted : (s.checkUdpRateLimit t).2 = true := by
        rw [answer, Meter.draw, if_pos full]
      have asked' : (s.checkUdpRateLimit t).1.lastUdpTokenRefill ≤ t := by
        rw [last, filledAt]
        split
        · exact Int.le_refl t
        · exact before
      intro b member
      rcases List.mem_cons.mp member with rfl | later
      · exact admitted
      · exact due_all_admitted (within.call t) asked' paced b later

end Session

end GameServer.Kernel
