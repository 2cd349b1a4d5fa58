/-
# Theory.Incremental -- taking messages off a buffer that arrives in pieces

A receiver appends what arrives to a buffer and then pulls messages off its
front until a pull gives none.  `Attempt` is what one pull answers: a message and
the rest, the wish for more input (possibly after throwing some away), or the
refusal of the whole buffer.

`Lawful` says when the answers cannot depend on how much had arrived at the
time: a delivered message and a refusal stand whatever follows, and after a wait
the kept rest pulls exactly as the whole buffer would have.  The two facts a
receiver is verified with:

* `drain_append` -- draining after more input is draining, then draining the
  rest with that input behind it;
* `feed_eq_drain` -- feeding pieces one at a time is one drain of their
  concatenation, so `feed_of_flatten_eq`: two cuts of one stream agree.

`Accounts` is what stands while input and pulls come in any order.
-/
import Mathlib.Data.List.Basic

namespace GameServer.Theory.Incremental

set_option autoImplicit false

universe u v

/-- What one pull answers. -/
inductive Attempt (α : Type u) (μ : Type v) where
  | deliver (message : μ) (rest : List α)
  | wait (rest : List α)
  | refuse

variable {α : Type u} {μ : Type v}

/-- The answers of `pull` do not depend on what arrives later. -/
structure Lawful (pull : List α → Attempt α μ) : Prop where
  nil : pull [] = .wait []
  shrinks : ∀ {b m r}, pull b = .deliver m r → r.length < b.length
  deliver_append : ∀ {b m r} (c : List α),
    pull b = .deliver m r → pull (b ++ c) = .deliver m (r ++ c)
  wait_append : ∀ {b r} (c : List α), pull b = .wait r → pull (b ++ c) = pull (r ++ c)
  refuse_append : ∀ {b} (c : List α), pull b = .refuse → pull (b ++ c) = .refuse

/-- Pull until no message comes, at most `n` times: the messages, and the rest,
`none` when the buffer was refused. -/
def drainWithin (pull : List α → Attempt α μ) : Nat → List α → List μ × Option (List α)
  | 0, b => ([], some b)
  | n + 1, b =>
      match pull b with
      | .deliver m r => (m :: (drainWithin pull n r).1, (drainWithin pull n r).2)
      | .wait r => ([], some r)
      | .refuse => ([], none)

/-- Every message shortens the buffer, so one pull more than its length is
enough (`drainWithin_eq_drain`). -/
def drain (pull : List α → Attempt α μ) (b : List α) : List μ × Option (List α) :=
  drainWithin pull (b.length + 1) b

/-- Append a piece, drain, and go on with the next piece unless the buffer was
refused. -/
def feed (pull : List α → Attempt α μ) : List α → List (List α) → List μ × Option (List α)
  | b, [] => ([], some b)
  | b, c :: cs =>
      match drain pull (b ++ c) with
      | (ms, none) => (ms, none)
      | (ms, some r) => (ms ++ (feed pull r cs).1, (feed pull r cs).2)

section Lawful

variable {pull : List α → Attempt α μ} (lawful : Lawful pull)

include lawful

theorem drainWithin_eq_of_lt {n m : Nat} {b : List α} (hn : b.length < n) (hm : b.length < m) :
    drainWithin pull n b = drainWithin pull m b := by
  induction n generalizing m b with
  | zero => omega
  | succ n ih =>
      obtain ⟨m, rfl⟩ : ∃ k, m = k + 1 := ⟨m - 1, by omega⟩
      simp only [drainWithin]
      cases pulled : pull b with
      | deliver message r =>
          have shorter := lawful.shrinks pulled
          have := ih (m := m) (b := r) (by omega) (by omega)
          simp only [this]
      | wait r => rfl
      | refuse => rfl

theorem drainWithin_eq_drain {n : Nat} {b : List α} (hn : b.length < n) :
    drainWithin pull n b = drain pull b :=
  drainWithin_eq_of_lt lawful hn (Nat.lt_succ_self _)

theorem drain_deliver {b r : List α} {m : μ} (pulled : pull b = .deliver m r) :
    drain pull b = (m :: (drain pull r).1, (drain pull r).2) := by
  have shorter := lawful.shrinks pulled
  rw [drain, drainWithin]
  simp only [pulled, drainWithin_eq_drain lawful shorter]

omit lawful in
theorem drain_wait {b r : List α} (pulled : pull b = .wait r) : drain pull b = ([], some r) := by
  simp [drain, drainWithin, pulled]

omit lawful in
theorem drain_refuse {b : List α} (pulled : pull b = .refuse) : drain pull b = ([], none) := by
  simp [drain, drainWithin, pulled]

/-- Buffers that answer one pull alike drain alike. -/
theorem drain_congr {b b' : List α} (same : pull b = pull b') : drain pull b = drain pull b' := by
  cases pulled : pull b' with
  | deliver m r => rw [drain_deliver lawful (same.trans pulled), drain_deliver lawful pulled]
  | wait r => rw [drain_wait (same.trans pulled), drain_wait pulled]
  | refuse => rw [drain_refuse (same.trans pulled), drain_refuse pulled]

/-- What a wait keeps waits for more, unchanged. -/
theorem wait_settles {b r : List α} (pulled : pull b = .wait r) : pull r = .wait r := by
  have := lawful.wait_append [] pulled
  rw [List.append_nil, List.append_nil, pulled] at this
  exact this.symm

/-- The rest of a drain is settled: pulling on it changes nothing. -/
theorem drain_settled {b : List α} {ms : List μ} {r : List α}
    (drained : drain pull b = (ms, some r)) : pull r = .wait r := by
  induction hlen : b.length using Nat.strongRecOn generalizing b ms with
  | _ n ih =>
      cases pulled : pull b with
      | deliver m r' =>
          rw [drain_deliver lawful pulled] at drained
          have shorter := lawful.shrinks pulled
          obtain ⟨-, hr⟩ := Prod.mk.inj drained
          exact ih r'.length (by omega) (Prod.ext rfl hr) rfl
      | wait r' =>
          rw [drain_wait pulled] at drained
          obtain ⟨-, hr⟩ := Prod.mk.inj drained
          cases hr
          exact wait_settles lawful pulled
      | refuse =>
          rw [drain_refuse pulled] at drained
          cases (Prod.mk.inj drained).2

/-- **More input behind a drained buffer**: the messages already given stand, and
the drain goes on from the rest. -/
theorem drain_append (b c : List α) :
    drain pull (b ++ c) =
      match drain pull b with
      | (ms, none) => (ms, none)
      | (ms, some r) => (ms ++ (drain pull (r ++ c)).1, (drain pull (r ++ c)).2) := by
  induction hlen : b.length using Nat.strongRecOn generalizing b with
  | _ n ih =>
      cases pulled : pull b with
      | deliver m r =>
          have shorter := lawful.shrinks pulled
          rw [drain_deliver lawful pulled,
            drain_deliver lawful (lawful.deliver_append c pulled), ih r.length (by omega) r rfl]
          rcases drain pull r with ⟨ms, _ | r'⟩ <;> rfl
      | wait r =>
          rw [drain_wait pulled]
          exact drain_congr lawful (lawful.wait_append c pulled)
      | refuse => rw [drain_refuse pulled, drain_refuse (lawful.refuse_append c pulled)]

/-- **Feeding pieces is one drain of their concatenation.** -/
theorem feed_eq_drain {b : List α} (settled : pull b = .wait b) (cs : List (List α)) :
    feed pull b cs = drain pull (b ++ cs.flatten) := by
  induction cs generalizing b with
  | nil => simp [feed, drain_wait settled]
  | cons c cs ih =>
      rw [List.flatten_cons, ← List.append_assoc, drain_append lawful (b ++ c), feed]
      rcases drained : drain pull (b ++ c) with ⟨ms, _ | r⟩
      · rfl
      · simp only [ih (drain_settled lawful drained)]

/-- **The cut does not matter.** -/
theorem feed_of_flatten_eq {cs cs' : List (List α)} (same : cs.flatten = cs'.flatten) :
    feed pull [] cs = feed pull [] cs' := by
  rw [feed_eq_drain lawful lawful.nil, feed_eq_drain lawful lawful.nil, same]

omit lawful

/-! ## Input and pulls in any order -/

/-- What was taken of a stream and the buffer account for it: whatever comes next, a drain of the
stream gives what was taken and then what a drain of the buffer gives. -/
def Accounts (pull : List α → Attempt α μ) (stream : List α) (taken : List μ) (b : List α) : Prop :=
  ∀ c, drain pull (stream ++ c) = (taken ++ (drain pull (b ++ c)).1, (drain pull (b ++ c)).2)

variable {stream b : List α} {taken : List μ}

theorem Accounts.start (b : List α) : Accounts pull b [] b := fun _ => rfl

theorem Accounts.arrive (accounts : Accounts pull stream taken b) (piece : List α) :
    Accounts pull (stream ++ piece) taken (b ++ piece) := by
  intro c
  rw [List.append_assoc, List.append_assoc]
  exact accounts (piece ++ c)

include lawful

theorem Accounts.deliver (accounts : Accounts pull stream taken b) {m : μ} {r : List α}
    (pulled : pull b = .deliver m r) : Accounts pull stream (taken ++ [m]) r := by
  intro c
  rw [accounts c, drain_deliver lawful (lawful.deliver_append c pulled), List.append_assoc]
  rfl

theorem Accounts.wait (accounts : Accounts pull stream taken b) {r : List α}
    (pulled : pull b = .wait r) : Accounts pull stream taken r := by
  intro c
  rw [accounts c, drain_congr lawful (lawful.wait_append c pulled)]

omit lawful

/-- A refusal of the buffer is one of the stream, and nothing of it is left to take. -/
theorem Accounts.refuse (accounts : Accounts pull stream taken b) (pulled : pull b = .refuse) :
    drain pull stream = (taken, none) := by
  have whole := accounts []
  rwa [List.append_nil, List.append_nil, drain_refuse pulled, List.append_nil] at whole

/-- The buffer now: what was taken, and what is left to take. -/
theorem Accounts.now (accounts : Accounts pull stream taken b) :
    drain pull stream = (taken ++ (drain pull b).1, (drain pull b).2) := by
  have whole := accounts []
  rwa [List.append_nil, List.append_nil] at whole

end Lawful

end GameServer.Theory.Incremental
