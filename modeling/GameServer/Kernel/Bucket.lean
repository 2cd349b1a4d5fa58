/-
# Kernel.Bucket -- the token bucket of `checkUdpRateLimit`

A `Session` admits 60 datagrams a second and 120 in a burst.  What the time gone by
has earned is added before a datagram is judged, in whole milliseconds, and never
beyond 120.

* `refill_pos` -- nothing is earned in less than 17 milliseconds;
* `FullBucket.of_admitsAfter` -- two bursts and a datagram after them tell a bucket
  that is full as of a moment from every other one.
-/
import Mathlib.Algebra.Group.Int.Defs
import GameServer.Kernel.Session

namespace GameServer.Kernel

set_option autoImplicit false

/-! ## Refilling and drawing -/

/-- How long the bucket takes to earn a token: sixty a second, in whole
milliseconds. -/
def tokenTime : Int := 17000000

namespace Session

/-- The tokens `checkUdpRateLimit` adds for the time gone by. -/
def refill (now : Time) (s : Session) : Int :=
  (inMilliseconds (now - s.lastUdpTokenRefill) * 60).tdiv 1000

/-- The bucket `checkUdpRateLimit` takes a token from. -/
def refilled (now : Time) (s : Session) : Session :=
  if 0 < s.refill now then
    { s with udpTokens := min (s.udpTokens + s.refill now) 120, lastUdpTokenRefill := now }
  else s

theorem checkUdpRateLimit_eq (now : Time) (s : Session) :
    s.checkUdpRateLimit now =
      if 0 < (s.refilled now).udpTokens then
        ({ s.refilled now with udpTokens := (s.refilled now).udpTokens - 1 }, true)
      else (s.refilled now, false) := rfl

/-- The time since the bucket was last filled. -/
def sinceRefill (now : Time) (s : Session) : Int := now - s.lastUdpTokenRefill

theorem refill_pos {now : Time} {s : Session} : 0 < s.refill now ↔ tokenTime ≤ s.sinceRefill now := by
  show 0 < ((s.sinceRefill now).tdiv (10 ^ 6) * 60).tdiv 1000 ↔ 17000000 ≤ s.sinceRefill now
  constructor
  · intro due
    by_contra early
    have short : s.sinceRefill now ≤ 16999999 := by omega
    have ms := Int.tdiv_le_tdiv (c := 10 ^ 6) (by decide) short
    have sixteen : (16999999 : Int).tdiv (10 ^ 6) = 16 := by decide
    rw [sixteen] at ms
    have earned := Int.tdiv_le_tdiv (c := 1000) (by decide)
      (Int.mul_le_mul_of_nonneg_right ms (by decide : (0 : Int) ≤ 60))
    have zero : (16 * 60 : Int).tdiv 1000 = 0 := by decide
    omega
  · intro due
    have ms : 17 ≤ (s.sinceRefill now).tdiv (10 ^ 6) :=
      Int.le_tdiv_of_mul_le (by decide) (by omega)
    have one : 1 ≤ ((s.sinceRefill now).tdiv (10 ^ 6) * 60).tdiv 1000 :=
      Int.le_tdiv_of_mul_le (by decide) (by omega)
    omega

theorem refilled_early {now : Time} {s : Session} (early : s.sinceRefill now < tokenTime) :
    s.refilled now = s := by
  have nothing : ¬ 0 < s.refill now := by
    rw [refill_pos]
    omega
  rw [refilled, if_neg nothing]

theorem refilled_due {now : Time} {s : Session} (due : tokenTime ≤ s.sinceRefill now) :
    (s.refilled now).lastUdpTokenRefill = now ∧ (s.refilled now).udpTokens ≤ 120 ∧
      min (s.udpTokens + 1) 120 ≤ (s.refilled now).udpTokens := by
  have earned := refill_pos.mpr due
  rw [refilled, if_pos earned]
  refine ⟨rfl, ?_, ?_⟩
  · show min (s.udpTokens + s.refill now) 120 ≤ 120
    omega
  · show min (s.udpTokens + 1) 120 ≤ min (s.udpTokens + s.refill now) 120
    omega

/-- The bucket after `n` datagrams, with nothing earned between them. -/
def drawn (n : Nat) (s : Session) : Session :=
  { s with udpTokens := max (s.udpTokens - n) (min s.udpTokens 0) }

theorem drawn_drawn (n m : Nat) (s : Session) : (s.drawn n).drawn m = s.drawn (n + m) := by
  have tokens : max (max (s.udpTokens - n) (min s.udpTokens 0) - m)
      (min (max (s.udpTokens - n) (min s.udpTokens 0)) 0) =
        max (s.udpTokens - (n + m : Nat)) (min s.udpTokens 0) := by
    omega
  show ({ s with udpTokens := _ } : Session) = { s with udpTokens := _ }
  rw [← tokens]
  rfl

/-- What is earned is earned once. -/
theorem refilled_drawn_refilled (now : Time) (n : Nat) (s : Session) :
    ((s.refilled now).drawn n).refilled now = (s.refilled now).drawn n := by
  apply refilled_early
  by_cases due : tokenTime ≤ s.sinceRefill now
  · have filled := (refilled_due due).1
    have now_is : ((s.refilled now).drawn n).sinceRefill now = 0 := by
      show now - (s.refilled now).lastUdpTokenRefill = 0
      rw [filled]
      exact Int.sub_self now
    rw [now_is]
    decide
  · rw [refilled_early (by omega)]
    show s.sinceRefill now < tokenTime
    omega

end Session

/-! ## What a burst tells -/

namespace Session

/-- The bucket of an object made, or given a token, at `now` and not asked since. -/
def FullBucket (now : Time) (s : Session) : Prop :=
  s.udpTokens = 120 ∧ s.lastUdpTokenRefill = now

instance (now : Time) (s : Session) : Decidable (s.FullBucket now) :=
  inferInstanceAs (Decidable (_ ∧ _))

/-- After `n + 1` datagrams at `t`, one at `t'` is admitted. -/
def AdmitsAfter (t : Time) (n : Nat) (t' : Time) (s : Session) : Prop :=
  0 < (((s.refilled t).drawn (n + 1)).refilled t').udpTokens

theorem sinceRefill_add (now : Time) (d : Int) (s : Session) :
    s.sinceRefill (now + d) = s.sinceRefill now + d := by
  show (now + d - s.lastUdpTokenRefill : Int) = now - s.lastUdpTokenRefill + d
  dsimp only [Time]
  omega

theorem FullBucket.sinceRefill {now : Time} {s : Session} (full : s.FullBucket now) :
    s.sinceRefill now = 0 := by
  show (now - s.lastUdpTokenRefill : Int) = 0
  rw [full.2]
  exact Int.sub_self now

/-- A datagram that comes before anything is earned is admitted on what is left. -/
theorem admitsAfter_early {t t' : Time} (n : Nat) {s : Session}
    (first : s.sinceRefill t < tokenTime) (second : s.sinceRefill t' < tokenTime) :
    s.AdmitsAfter t n t' ↔ (n + 1 : Nat) < s.udpTokens := by
  have left : ((s.refilled t).drawn (n + 1)).refilled t' = s.drawn (n + 1) := by
    rw [refilled_early first]
    exact refilled_early second
  rw [AdmitsAfter, left]
  show 0 < max (s.udpTokens - (n + 1 : Nat)) (min s.udpTokens 0) ↔ _
  omega

/-- A full bucket emptied in one burst admits again once a token is earned. -/
theorem admitsAfter_earned {t t' : Time} {s : Session} (full : s.udpTokens = 120)
    (first : s.sinceRefill t < tokenTime) (second : tokenTime ≤ s.sinceRefill t') :
    s.AdmitsAfter t 119 t' := by
  rw [AdmitsAfter, refilled_early first]
  have earned := (refilled_due (s := s.drawn 120) second).2.2
  have empty : (s.drawn 120).udpTokens = 0 := by
    show max (s.udpTokens - (120 : Nat)) (min s.udpTokens 0) = 0
    rw [full]
    rfl
  rw [empty] at earned
  show 0 < ((s.drawn 120).refilled t').udpTokens
  omega

/-- A bucket filled by the burst itself has to wait from then on. -/
theorem not_admitsAfter_due {t t' : Time} {s : Session} (first : tokenTime ≤ s.sinceRefill t)
    (second : t' - t < tokenTime) : ¬ s.AdmitsAfter t 119 t' := by
  obtain ⟨filled, atMost, _⟩ := refilled_due first
  have waits : ((s.refilled t).drawn 120).refilled t' = (s.refilled t).drawn 120 := by
    apply refilled_early
    show t' - (s.refilled t).lastUdpTokenRefill < tokenTime
    rw [filled]
    exact second
  rw [AdmitsAfter, waits]
  show ¬ 0 < max ((s.refilled t).udpTokens - (120 : Nat)) (min (s.refilled t).udpTokens 0)
  omega

/-- **The bucket shows.**  A bucket that admits after every burst what a full one
admits is full, and as old. -/
theorem FullBucket.of_admitsAfter {now : Time} {s f : Session} (full : f.FullBucket now)
    (same : ∀ t n t', now ≤ t → t ≤ t' → (s.AdmitsAfter t n t' ↔ f.AdmitsAfter t n t')) :
    s.FullBucket now := by
  have later (d : Int) (forward : 0 ≤ d) : now ≤ now + d := by
    dsimp only [Time] at *
    omega
  have age (d : Int) : f.sinceRefill (now + d) = d := by
    rw [sinceRefill_add, full.sinceRefill, Int.zero_add]
  have fresh : f.sinceRefill now < tokenTime := by
    rw [full.sinceRefill]
    decide
  -- filled by the burst, the bucket would have to wait longer than the full one
  have early : s.sinceRefill now < tokenTime := by
    by_contra old
    have due : tokenTime ≤ s.sinceRefill (now + 1000000) := by
      rw [sinceRefill_add]
      omega
    have wait : (now + 17000000) - (now + 1000000) < tokenTime := by
      dsimp only [Time, tokenTime] at *
      omega
    have admits : f.AdmitsAfter (now + 1000000) 119 (now + 17000000) :=
      admitsAfter_earned full.1 (by rw [age]; decide) (by rw [age]; decide)
    refine not_admitsAfter_due due wait ((same _ _ _ (later _ (by decide)) ?_).mpr admits)
    dsimp only [Time]
    omega
  have tokens : s.udpTokens = 120 := by
    have many := same now 118 now (Int.le_refl now) (Int.le_refl now)
    have few := same now 119 now (Int.le_refl now) (Int.le_refl now)
    rw [admitsAfter_early _ early early, admitsAfter_early _ fresh fresh, full.1] at many few
    omega
  have aged : s.sinceRefill now = 0 := by
    rcases Int.lt_trichotomy (s.sinceRefill now) 0 with ahead | same_age | behind
    · -- filled later: the full bucket earns a token first
      have still : s.sinceRefill (now + 17000000) < tokenTime := by
        rw [sinceRefill_add, tokenTime]
        omega
      have admits : f.AdmitsAfter now 119 (now + 17000000) :=
        admitsAfter_earned full.1 fresh (by rw [age]; decide)
      have more := (admitsAfter_early 119 early still).mp
        ((same now 119 _ (Int.le_refl now) (later _ (by decide))).mpr admits)
      omega
    · exact same_age
    · -- filled earlier: it earns one before the full bucket does
      have wait : 0 ≤ tokenTime - s.sinceRefill now := by omega
      have still : f.sinceRefill (now + (tokenTime - s.sinceRefill now)) < tokenTime := by
        rw [age]
        omega
      have admits : s.AdmitsAfter now 119 (now + (tokenTime - s.sinceRefill now)) :=
        admitsAfter_earned tokens early (by rw [sinceRefill_add]; omega)
      have more := (admitsAfter_early 119 fresh still).mp
        ((same now 119 _ (Int.le_refl now) (later _ wait)).mp admits)
      rw [full.1] at more
      omega
  refine ⟨tokens, ?_⟩
  have zero : (now - s.lastUdpTokenRefill : Int) = 0 := aged
  dsimp only [Time] at *
  omega

end Session

end GameServer.Kernel
