/-
# Kernel.Limiter -- `sharded_udp_rate_limit` over a run of calls

Each calling thread counts in a shard of its own, and a shard forgets its count
only when a call of another second comes to it.  The decision adds up all shards,
so it still counts what other shards have kept of earlier seconds.

* `answer_eq` -- a call is judged on the calls of this second and the leftovers;
* `admits_exactly_iff` -- it is judged on this second alone exactly when the
  leftovers do not push a second within the limit over it;
* `leftovers_one_shard` -- one shard has no leftovers.
-/
import Mathlib.Algebra.BigOperators.Group.Finset.Basic
import Mathlib.Algebra.BigOperators.Group.Finset.Piecewise
import Mathlib.Data.List.Induction
import GameServer.Kernel.Udp

namespace GameServer.Kernel

set_option autoImplicit false

/-! ## Calls -/

/-- The clock second of a call. -/
def Reception.second (r : Reception) : Int := inSeconds r.now

/-- The shard of the calling thread. -/
def Reception.shard (n : Nat) (r : Reception) : Nat := r.thread % n

/-- The calls come in the order of the clock. -/
def InOrder (calls : List Reception) : Prop := calls.Pairwise fun a b => a.now ≤ b.now

instance (calls : List Reception) : Decidable (InOrder calls) :=
  inferInstanceAs (Decidable (calls.Pairwise _))

/-- The calls of one clock second. -/
def callsIn (sec : Int) (calls : List Reception) : Nat :=
  calls.countP fun c => c.second = sec

/-- No later second has come to the shard of the call. -/
def Kept (n : Nat) (calls : List Reception) (c : Reception) : Prop :=
  ∀ c' ∈ calls, c'.shard n = c.shard n → c'.second ≤ c.second

instance (n : Nat) (calls : List Reception) (c : Reception) : Decidable (Kept n calls c) :=
  inferInstanceAs (Decidable (∀ c' ∈ calls, _))

/-- The calls of other seconds that their shards have kept. -/
def leftovers (n : Nat) (sec : Int) (calls : List Reception) : Nat :=
  calls.countP fun c => c.second ≠ sec ∧ Kept n calls c

namespace UdpRateLimiter

/-- The constructor of `UdpRateLimiterShard`. -/
def fresh (shardCount : Nat) : UdpRateLimiter where
  counts := List.replicate shardCount 0
  windowSecs := List.replicate shardCount 0

/-- The limiter after complete calls, one after the other. -/
def afterCalls (n limitPerSec : Nat) (calls : List Reception) : UdpRateLimiter :=
  calls.foldl (fun l r => (l.shardedUdpRateLimit limitPerSec r).1) (fresh n)

/-- What a call after these calls returns. -/
def answer (n limitPerSec : Nat) (calls : List Reception) (r : Reception) : Bool :=
  ((afterCalls n limitPerSec calls).shardedUdpRateLimit limitPerSec r).2

/-! ## What a shard holds -/

/-- A shard's window is the last second a call came to it in, and its count the
calls of that second. -/
structure Holds (n : Nat) (calls : List Reception) (l : UdpRateLimiter) : Prop where
  counts : l.counts.length = n
  windows : l.windowSecs.length = n
  latest : ∀ c ∈ calls, c.second ≤ l.windowSecs.getD (c.shard n) 0
  reached : ∀ c ∈ calls, ∃ c' ∈ calls, c'.shard n = c.shard n ∧
    c'.second = l.windowSecs.getD (c.shard n) 0
  counted : ∀ i, i < n → l.counts.getD i 0 =
    calls.countP fun c => c.shard n = i ∧ c.second = l.windowSecs.getD i 0

theorem holds_fresh (n : Nat) : Holds n [] (fresh n) where
  counts := List.length_replicate
  windows := List.length_replicate
  latest := fun _ member => nomatch member
  reached := fun _ member => nomatch member
  counted i within := by simp [fresh, List.getD, within]

variable {n limitPerSec : Nat} {calls : List Reception} {l : UdpRateLimiter} {r : Reception}

theorem getD_set {α : Type} (xs : List α) (i j : Nat) (x d : α) (within : i < xs.length) :
    (xs.set i x).getD j d = if i = j then x else xs.getD j d := by
  by_cases same : i = j
  · subst same
    simp [List.getD, within]
  · simp [List.getD, same]

/-- The limiter a call leaves: its shard counts on in the window of this second, or
from one in a new window. -/
theorem call_eq (some_shard : 0 < n) (holds : Holds n calls l) :
    l.shardedUdpRateLimit limitPerSec r =
      let l' : UdpRateLimiter :=
        { counts := l.counts.set (r.shard n)
            (if r.second = l.windowSecs.getD (r.shard n) 0 then
              l.counts.getD (r.shard n) 0 + 1 else 1)
          windowSecs := l.windowSecs.set (r.shard n) r.second }
      (l', decide (l'.counts.sum ≤ limitPerSec)) := by
  have within : r.shard n < n := Nat.mod_lt _ some_shard
  have nonempty : l.counts.length ≠ 0 := by
    rw [holds.counts]
    omega
  have shard : r.thread % l.counts.length = r.shard n := by rw [holds.counts]; rfl
  have second : inSeconds r.now = r.second := rfl
  simp only [shardedUdpRateLimit, if_neg nonempty, shard, second]
  by_cases same : r.second = l.windowSecs.getD (r.shard n) 0
  · have kept : l.windowSecs.set (r.shard n) r.second = l.windowSecs := by
      have inside : r.shard n < l.windowSecs.length := by rw [holds.windows]; exact within
      rw [same, List.getD, List.getElem?_eq_getElem inside]
      exact List.set_getElem_self inside
    rw [if_neg (not_not.mpr same), if_pos same, kept]
  · have count : (l.counts.set (r.shard n) 0).getD (r.shard n) 0 = 0 := by
      rw [getD_set _ _ _ _ _ (by rw [holds.counts]; exact within), if_pos rfl]
    rw [if_pos same, if_neg same, count, List.set_set]

/-- The call's own shard has the second of the call, which is the latest; the other
shards are as they were. -/
theorem Holds.call (some_shard : 0 < n) (holds : Holds n calls l)
    (inOrder : InOrder (calls ++ [r])) :
    Holds n (calls ++ [r]) (l.shardedUdpRateLimit limitPerSec r).1 := by
  have within : r.shard n < n := Nat.mod_lt _ some_shard
  have window (i : Nat) : (l.shardedUdpRateLimit limitPerSec r).1.windowSecs.getD i 0 =
      if r.shard n = i then r.second else l.windowSecs.getD i 0 := by
    rw [call_eq some_shard holds]
    exact getD_set _ _ _ _ _ (by rw [holds.windows]; exact within)
  have count (i : Nat) : (l.shardedUdpRateLimit limitPerSec r).1.counts.getD i 0 =
      if r.shard n = i then
        if r.second = l.windowSecs.getD (r.shard n) 0 then l.counts.getD (r.shard n) 0 + 1 else 1
      else l.counts.getD i 0 := by
    rw [call_eq some_shard holds]
    exact getD_set _ _ _ _ _ (by rw [holds.counts]; exact within)
  have before : ∀ c ∈ calls, c.second ≤ r.second := by
    intro c member
    have earlier := (List.pairwise_append.mp inOrder).2.2 c member r (List.mem_singleton_self r)
    exact Int.tdiv_le_tdiv (by decide) earlier
  refine ⟨?_, ?_, ?_, ?_, ?_⟩
  · rw [call_eq some_shard holds]
    simp [holds.counts]
  · rw [call_eq some_shard holds]
    simp [holds.windows]
  · intro c member
    rw [window]
    rcases List.mem_append.mp member with old | new
    · split
      · exact before c old
      · exact holds.latest c old
    · rw [List.mem_singleton.mp new]
      simp
  · intro c member
    rw [window]
    split
    · rename_i same
      exact ⟨r, List.mem_append.mpr (.inr (List.mem_singleton_self r)), same, rfl⟩
    · rename_i other
      rcases List.mem_append.mp member with old | new
      · obtain ⟨c', member', shard, second⟩ := holds.reached c old
        exact ⟨c', List.mem_append.mpr (.inl member'), shard, second⟩
      · rw [List.mem_singleton.mp new] at other
        exact absurd rfl other
  · intro i shard
    rw [count, List.countP_append]
    simp only [window]
    by_cases own : r.shard n = i
    · subst own
      simp only [if_true, List.countP_singleton]
      by_cases same : r.second = l.windowSecs.getD (r.shard n) 0
      · rw [if_pos same, holds.counted _ shard, ← same]
        simp
      · have none_yet : calls.countP (fun c => c.shard n = r.shard n ∧ c.second = r.second) = 0 := by
          rw [List.countP_eq_zero]
          intro c member now
          obtain ⟨at_shard, at_second⟩ := of_decide_eq_true now
          obtain ⟨c', member', shard', second'⟩ := holds.reached c member
          have newest := holds.latest c member
          have newer := before c' member'
          rw [at_shard] at newest second'
          omega
        rw [if_neg same, none_yet]
        simp
    · simp only [if_neg own, List.countP_singleton]
      rw [holds.counted i shard]
      simp [own]

theorem holds_afterCalls (limitPerSec : Nat) (some_shard : 0 < n) (inOrder : InOrder calls) :
    Holds n calls (afterCalls n limitPerSec calls) := by
  induction calls using List.reverseRecOn with
  | nil => exact holds_fresh n
  | append_singleton calls r ih =>
      rw [afterCalls, List.foldl_append]
      exact (ih (List.pairwise_append.mp inOrder).1).call some_shard inOrder

/-! ## What a call is judged on -/

/-- Counting shard by shard counts every call once. -/
theorem sum_countP_shard (some_shard : 0 < n) (p : Reception → Prop) [DecidablePred p]
    (calls : List Reception) :
    (∑ i ∈ Finset.range n, calls.countP fun c => c.shard n = i ∧ p c) =
      calls.countP fun c => p c := by
  induction calls with
  | nil => simp
  | cons c calls ih =>
      have within : c.shard n < n := Nat.mod_lt _ some_shard
      simp only [List.countP_cons, Finset.sum_add_distrib, ih]
      by_cases holds : p c
      · simp [holds, within]
      · simp [holds]

theorem countP_split {α : Type} (q p : α → Prop) [DecidablePred q] [DecidablePred p]
    (xs : List α) :
    xs.countP (fun x => p x) = xs.countP (fun x => q x ∧ p x) + xs.countP fun x => ¬ q x ∧ p x := by
  induction xs with
  | nil => rfl
  | cons x xs ih =>
      simp only [List.countP_cons, ih]
      by_cases one : q x <;> by_cases other : p x <;> simp [one, other] <;> omega

theorem Holds.sum_counts (some_shard : 0 < n) (holds : Holds n calls l) :
    l.counts.sum = calls.countP fun c => c.second = l.windowSecs.getD (c.shard n) 0 := by
  have listed : l.counts = (List.range n).map fun i => l.counts.getD i 0 := by
    apply List.ext_getElem
    · rw [List.length_map, List.length_range, holds.counts]
    · intro i inside _
      simp [List.getD, inside]
  have counted : ∀ i ∈ Finset.range n, l.counts.getD i 0 =
      calls.countP fun c => c.shard n = i ∧ c.second = l.windowSecs.getD (c.shard n) 0 := by
    intro i shard
    rw [holds.counted i (Finset.mem_range.mp shard)]
    refine List.countP_congr fun c _ => ?_
    simp only [decide_eq_true_eq]
    constructor
    · rintro ⟨rfl, second⟩
      exact ⟨rfl, second⟩
    · rintro ⟨rfl, second⟩
      exact ⟨rfl, second⟩
  rw [← sum_countP_shard some_shard, ← Finset.sum_congr rfl counted]
  exact congrArg List.sum listed

/-- A call counts where its shard's window is its second, which is where it is kept. -/
theorem Holds.kept_iff (holds : Holds n calls l) {c : Reception} (member : c ∈ calls) :
    c.second = l.windowSecs.getD (c.shard n) 0 ↔ Kept n calls c := by
  constructor
  · intro window c' member' shard
    rw [window, ← shard]
    exact holds.latest c' member'
  · intro kept
    obtain ⟨c', member', shard, second⟩ := holds.reached c member
    have newest := kept c' member' shard
    rw [second] at newest
    exact Int.le_antisymm (holds.latest c member) newest

/-- What the shards add up to: this second's calls and the leftovers of others. -/
theorem Holds.sum_eq (some_shard : 0 < n) (holds : Holds n calls l) {sec : Int}
    (latest : ∀ c ∈ calls, c.second ≤ sec) :
    l.counts.sum = callsIn sec calls + leftovers n sec calls := by
  have kept : l.counts.sum = calls.countP fun c => Kept n calls c := by
    rw [holds.sum_counts some_shard]
    refine List.countP_congr fun c member => ?_
    simp only [decide_eq_true_eq]
    exact holds.kept_iff member
  have now : callsIn sec calls = calls.countP fun c => c.second = sec ∧ Kept n calls c := by
    refine List.countP_congr fun c member => ?_
    simp only [decide_eq_true_eq]
    constructor
    · intro second
      exact ⟨second, fun c' member' _ => second ▸ latest c' member'⟩
    · exact And.left
  rw [kept, now, leftovers]
  exact countP_split (fun c => c.second = sec) (fun c => Kept n calls c) calls

theorem afterCalls_append (calls : List Reception) (r : Reception) :
    afterCalls n limitPerSec (calls ++ [r]) =
      ((afterCalls n limitPerSec calls).shardedUdpRateLimit limitPerSec r).1 := by
  rw [afterCalls, List.foldl_append]
  rfl

/-- **What a call is judged on**: the calls of its second, itself included, and what
other shards have kept of earlier ones. -/
theorem answer_eq (some_shard : 0 < n) (inOrder : InOrder (calls ++ [r])) :
    answer n limitPerSec calls r = true ↔
      callsIn r.second (calls ++ [r]) + leftovers n r.second (calls ++ [r]) ≤ limitPerSec := by
  have before := holds_afterCalls limitPerSec some_shard
    (List.pairwise_append.mp inOrder).1
  have after := holds_afterCalls limitPerSec some_shard inOrder
  have latest : ∀ c ∈ calls ++ [r], c.second ≤ r.second := by
    intro c member
    rcases List.mem_append.mp member with old | new
    · have earlier := (List.pairwise_append.mp inOrder).2.2 c old r (List.mem_singleton_self r)
      exact Int.tdiv_le_tdiv (by decide) earlier
    · rw [List.mem_singleton.mp new]
  rw [← after.sum_eq some_shard latest, afterCalls_append, answer, call_eq some_shard before]
  simp

/-! ## The limit per second -/

/-- **The limit is kept exactly when the leftovers fit beside it**: a call is admitted
on the count of this second alone unless what other shards have kept of earlier
seconds takes a second within the limit over it. -/
theorem admits_exactly_iff (some_shard : 0 < n) (limitPerSec : Nat) (calls : List Reception)
    (r : Reception) (inOrder : InOrder (calls ++ [r])) :
    (answer n limitPerSec calls r = true ↔ callsIn r.second (calls ++ [r]) ≤ limitPerSec) ↔
      (callsIn r.second (calls ++ [r]) ≤ limitPerSec →
        callsIn r.second (calls ++ [r]) + leftovers n r.second (calls ++ [r]) ≤ limitPerSec) := by
  rw [answer_eq some_shard inOrder]
  constructor
  · intro exactly within
    exact exactly.mpr within
  · intro fits
    exact ⟨fun admitted => by omega, fits⟩

/-- A call of another thread's shard a second ago fills a limit of one. -/
theorem second_shard_refused :
    InOrder [⟨seconds 1, 0, ""⟩, ⟨seconds 2, 1, ""⟩] ∧
      ¬ (answer 2 1 [⟨seconds 1, 0, ""⟩] ⟨seconds 2, 1, ""⟩ = true ↔
        callsIn 2 [⟨seconds 1, 0, ""⟩, ⟨seconds 2, 1, ""⟩] ≤ 1) := by
  decide +kernel

theorem admits_exactly_iff_two_shards :
    (answer 2 1 [⟨seconds 1, 0, ""⟩] ⟨seconds 2, 1, ""⟩ = true ↔
        callsIn 2 [⟨seconds 1, 0, ""⟩, ⟨seconds 2, 1, ""⟩] ≤ 1) ↔
      (callsIn 2 [⟨seconds 1, 0, ""⟩, ⟨seconds 2, 1, ""⟩] ≤ 1 →
        callsIn 2 [⟨seconds 1, 0, ""⟩, ⟨seconds 2, 1, ""⟩] +
          leftovers 2 2 [⟨seconds 1, 0, ""⟩, ⟨seconds 2, 1, ""⟩] ≤ 1) :=
  admits_exactly_iff (by decide) 1 [⟨seconds 1, 0, ""⟩] ⟨seconds 2, 1, ""⟩ (by decide +kernel)

/-- Where every thread is of one shard, a call of a later second has cleared it. -/
theorem leftovers_one_shard {sec : Int} {calls : List Reception}
    (now : ∃ c ∈ calls, c.second = sec) (latest : ∀ c ∈ calls, c.second ≤ sec) :
    leftovers 1 sec calls = 0 := by
  rw [leftovers, List.countP_eq_zero]
  intro c member left
  obtain ⟨other, kept⟩ := of_decide_eq_true left
  obtain ⟨c', member', second⟩ := now
  have newer := kept c' member' (by simp only [Reception.shard, Nat.mod_one])
  have older := latest c member
  rw [second] at newer
  omega

end UdpRateLimiter

end GameServer.Kernel
