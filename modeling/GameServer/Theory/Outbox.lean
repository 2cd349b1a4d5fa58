/-
# Theory.Outbox -- a bounded queue that writes its front

The front of the queue is what is being written; it stays there until its write is
over and goes then.  Posting to a full queue drops the front all the same, so what
goes when the write is over may be another item.

* `Sound.step` -- one write is out exactly while the queue holds something;
* `Sound.sublist` -- what was written is a subsequence of what was posted;
* `Sound.drained` -- and only drops lose anything.
-/
import Mathlib.Data.List.Basic

namespace GameServer.Theory.Outboxes

set_option autoImplicit false

universe u

/-- `posted`, `written` and `drops` are history variables. -/
structure Outbox (α : Type u) where
  queue : List α := []
  /-- The item being written. -/
  flying : Option α := none
  posted : List α := []
  written : List α := []
  drops : Nat := 0

inductive Op (α : Type u) where
  | post (item : α)
  | complete

namespace Outbox

variable {α : Type u} {o : Outbox α}

/-- The front of the queue, if any, is written next. -/
def writeFront (o : Outbox α) : Outbox α :=
  match o.queue with
  | [] => { o with flying := none }
  | item :: _ => { o with flying := some item, written := o.written ++ [item] }

/-- Post to a queue with room for `room` items. -/
def post (room : Nat) (o : Outbox α) (item : α) : Outbox α :=
  match o.queue with
  | [] => { o with queue := [item], posted := o.posted ++ [item] }.writeFront
  | front :: rest =>
      if room ≤ rest.length + 1 then
        { o with
          queue := rest ++ [item]
          posted := o.posted ++ [item]
          drops := o.drops + 1 }
      else { o with queue := front :: rest ++ [item], posted := o.posted ++ [item] }

/-- The write is over. -/
def complete (o : Outbox α) : Outbox α := { o with queue := o.queue.tail }.writeFront

def step (room : Nat) (o : Outbox α) : Op α → Outbox α
  | .post item => o.post room item
  | .complete => o.complete

/-- What the queue no longer holds went, written or dropped, in front of what it
holds. -/
structure Sound (o : Outbox α) : Prop where
  flying : o.flying.isSome ↔ o.queue ≠ []
  ordered : ∃ gone, o.posted = gone ++ o.queue ∧ o.written.Sublist (gone ++ o.queue.take 1)
  counted : o.posted.length + (o.queue.take 1).length =
    o.written.length + o.drops + o.queue.length

theorem sound_empty : Sound ({} : Outbox α) :=
  ⟨by simp, ⟨[], rfl, .slnil⟩, rfl⟩

/-- Writing the front of a queue that has lost its old one, or is new. -/
theorem sound_writeFront (gone : List α) (posted : o.posted = gone ++ o.queue)
    (written : o.written.Sublist gone)
    (counted : o.posted.length = o.written.length + o.drops + o.queue.length) :
    o.writeFront.Sound := by
  rcases queued : o.queue with _ | ⟨front, rest⟩
  · simp only [writeFront, queued]
    refine ⟨by simp, ⟨gone, by rwa [queued] at posted, by simpa using written⟩, ?_⟩
    simpa [queued] using counted
  · simp only [writeFront, queued]
    refine ⟨by simp, ⟨gone, by rwa [queued] at posted, ?_⟩, ?_⟩
    · simpa using written.append (List.Sublist.refl [front])
    · simp only [queued, List.take_succ_cons, List.take_zero, List.length_append,
        List.length_cons, List.length_nil] at counted ⊢
      omega

theorem Sound.post (sound : o.Sound) (room : Nat) (item : α) : (o.post room item).Sound := by
  obtain ⟨flying, ⟨gone, posted, written⟩, counted⟩ := sound
  rcases queued : o.queue with _ | ⟨front, rest⟩
  · simp only [Outbox.post, queued]
    simp only [queued, List.take_nil, List.append_nil, List.length_nil] at posted written counted
    refine sound_writeFront gone ?_ written ?_
    · simp only [posted]
    · simp only [List.length_append, List.length_singleton]
      omega
  · simp only [queued, List.take_succ_cons, List.take_zero, List.length_cons,
      List.length_nil] at posted written counted
    have out : o.flying.isSome := flying.mpr (by simp [queued])
    simp only [Outbox.post, queued]
    split
    · -- the front is gone, though its write is not over
      refine ⟨by simp [out], ⟨gone ++ [front], by simp [posted], ?_⟩, ?_⟩
      · exact written.trans (List.sublist_append_left _ _)
      · rcases rest with _ | ⟨next, rest⟩ <;> simp at counted ⊢ <;> omega
    · refine ⟨by simp [out], ⟨gone, by simp [posted], by simpa using written⟩, ?_⟩
      simp
      omega

theorem Sound.complete (sound : o.Sound) : o.complete.Sound := by
  obtain ⟨-, ⟨gone, posted, written⟩, counted⟩ := sound
  rcases queued : o.queue with _ | ⟨front, rest⟩
  · simp only [queued, List.take_nil, List.append_nil, List.length_nil] at posted written counted
    refine sound_writeFront gone ?_ written ?_
    · simpa [queued] using posted
    · simpa [queued] using counted
  · simp only [queued, List.take_succ_cons, List.take_zero, List.length_cons,
      List.length_nil] at posted written counted
    refine sound_writeFront (gone ++ [front]) ?_ written ?_
    · simp [posted, queued]
    · simp only [queued, List.tail_cons]
      omega

/-- **One post or completion.** -/
theorem Sound.step (sound : o.Sound) (room : Nat) (op : Op α) : (o.step room op).Sound := by
  cases op with
  | post item => exact sound.post room item
  | complete => exact sound.complete

/-- In order, and no item twice. -/
theorem Sound.sublist (sound : o.Sound) : o.written.Sublist o.posted := by
  obtain ⟨gone, posted, written⟩ := sound.ordered
  rw [posted]
  exact written.trans (List.Sublist.append_left (List.take_sublist 1 o.queue) gone)

/-- Once the queue is empty, what is missing was dropped. -/
theorem Sound.drained (sound : o.Sound) (empty : o.queue = []) :
    o.posted.length = o.written.length + o.drops := by
  have counted := sound.counted
  simpa [empty] using counted

end Outbox

end GameServer.Theory.Outboxes
