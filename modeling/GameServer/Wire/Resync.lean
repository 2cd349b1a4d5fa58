/-
# Wire.Resync -- the scan behind an empty frame

An empty frame is four zero bytes, which is no prefix in range, so the buffer scans for
the next one.  The scan begins inside the empty frame: its zeros and the leading bytes of
the next prefix together read as a length too, and a small one.

* `readLenAt_behind_empty` -- what the scan reads there: the next length, short of its
  last bytes;
* `resync_behind_empty`, `resync_astray` -- it meets the next frame if its length fits in
  one byte, and stops two bytes or one before it otherwise;
* `realigns_iff` -- so the payloads behind an empty frame come out just when the first of
  them has at most 255 bytes.
-/
import GameServer.Wire.Framing

namespace GameServer.Wire

set_option autoImplicit false

open Theory.Incremental
open MessageBufferManager

/-! ## What is asked of a stream -/

/-- The bytes behind a frame boundary: an empty frame, then the payloads' frames. -/
def emptyThen (sender : Sender) (payloads : List Bytes) : Bytes :=
  sender.frame [] ++ (payloads.map sender.frame).flatten

/-- The receive loop takes `messages` from the bytes and is left with nothing: a frame
boundary. -/
def AtBoundary (front : Bytes) (messages : List Bytes) : Prop :=
  receive {} [front] = ⟨messages, {}, false⟩

instance (front : Bytes) (messages : List Bytes) : Decidable (AtBoundary front messages) :=
  inferInstanceAs (Decidable (_ = _))

/-- A frame begins at the offset, counted from the empty frame. -/
def FrameStart (sender : Sender) (payloads : List Bytes) (offset : Nat) : Prop :=
  ∃ k, k < payloads.length ∧ offset = (emptyThen sender (payloads.take k)).length

/-- However the stream is cut, the payloads behind the empty frame come out; and
however much has arrived, the scan stops at frames only. -/
def Realigns (sender : Sender) (front : Bytes) (messages payloads : List Bytes) : Prop :=
  (∀ chunks : List Bytes, chunks.flatten = front ++ emptyThen sender payloads →
    (receive {} chunks).messages = messages ++ payloads) ∧
  ∀ arrived i, arrived <+: emptyThen sender payloads → resync arrived = some i →
    FrameStart sender payloads i

/-! ## Reading over the boundary -/

theorem emptyThen_cons (sender : Sender) (payload : Bytes) (payloads : List Bytes) :
    emptyThen sender (payload :: payloads) =
      [0, 0, 0, 0] ++ (lengthPrefix payload.length ++
        (payload ++ (payloads.map sender.frame).flatten)) := by
  have empty : sender.frame [] = [0, 0, 0, 0] := by
    rw [sender.frame_eq]
    rfl
  rw [emptyThen, empty, List.map_cons, List.flatten_cons, sender.frame_eq, List.append_assoc]

/-- `j` bytes before the frame, the zeros and the prefix read as its length short of
the last `j` bytes. -/
theorem readLenAt_behind_empty {size : Nat} (small : size < 2 ^ 32) (rest : Bytes) {j : Nat}
    (near : j < 4) :
    readLenAt ([0, 0, 0, 0] ++ (lengthPrefix size ++ rest)) (4 - j) = size / 256 ^ j := by
  have cases : j = 0 ∨ j = 1 ∨ j = 2 ∨ j = 3 := by omega
  rcases cases with rfl | rfl | rfl | rfl <;>
    simp [readLenAt, lengthPrefix, ntohl] <;> omega

theorem resync_behind_empty {size : Nat} (lower : 1 ≤ size) (upper : size ≤ 262144)
    (rest : Bytes) {j : Nat} (near : j < 3) (fits : size / 256 ^ (j + 1) = 0)
    (reads : size / 256 ^ j ≠ 0) :
    resync ([0, 0, 0, 0] ++ (lengthPrefix size ++ rest)) = some (4 - j) := by
  have read {j : Nat} (near : j < 4) :
      readLenAt ([0, 0, 0, 0] ++ (lengthPrefix size ++ rest)) (4 - j) = size / 256 ^ j :=
    readLenAt_behind_empty (by omega) rest near
  refine resync_eq_some.mpr ⟨?_, ⟨by omega, ?_⟩, fun i before within => ?_⟩
  · rw [read (by omega)]
    refine ⟨Nat.pos_of_ne_zero reads, Nat.le_trans (Nat.div_le_self _ _) ?_⟩
    simpa [maxPacketSize] using upper
  · simp only [scanLimit, maxResyncScan, List.length_append, lengthPrefix_length,
      List.length_cons, List.length_nil]
    omega
  · obtain ⟨k, rfl⟩ : ∃ k, i = 4 - (j + 1 + k) := ⟨3 - i - j, by omega⟩
    have zero : size / 256 ^ (j + 1 + k) = 0 := by
      rw [Nat.pow_add, ← Nat.div_div_eq_div_mul, fits, Nat.zero_div]
    rw [read (by omega), zero]
    exact fun inRange => absurd inRange.1 (Nat.lt_irrefl 0)

/-! ## Receiving -/

theorem receive_drain (chunks : List Bytes) :
    ((receive {} chunks).messages,
      if (receive {} chunks).stopped then none else some (receive {} chunks).manager.buffer) =
      drain attempt chunks.flatten := by
  rw [(receive_eq_feed {} chunks rfl).1, feed_eq_drain attempt_lawful attempt_lawful.nil]
  rfl

theorem AtBoundary.drain {front : Bytes} {messages : List Bytes}
    (boundary : AtBoundary front messages) : drain attempt front = (messages, some []) := by
  have received := receive_drain [front]
  rw [boundary, List.flatten_cons, List.flatten_nil, List.append_nil] at received
  exact received.symm

/-- Behind a boundary the stream is drained as if it began there. -/
theorem AtBoundary.messages {front : Bytes} {messages : List Bytes}
    (boundary : AtBoundary front messages) (rest : Bytes) {chunks : List Bytes}
    (cut : chunks.flatten = front ++ rest) :
    (receive {} chunks).messages = messages ++ (Theory.Incremental.drain attempt rest).1 := by
  have received := congrArg Prod.fst (receive_drain chunks)
  rw [cut, drain_append attempt_lawful, boundary.drain] at received
  exact received

/-! ## The two ways -/

section Stream

variable {sender : Sender} {payload : Bytes} {payloads : List Bytes}

theorem attempt_emptyThen {i : Nat}
    (found : resync (emptyThen sender (payload :: payloads)) = some i) :
    attempt (emptyThen sender (payload :: payloads)) =
      attempt ((emptyThen sender (payload :: payloads)).drop i) := by
  refine attempt_resync ?_ ?_ found
  · simp [emptyThen_cons]
  · have zero : readLenAt (emptyThen sender (payload :: payloads)) 0 = 0 := by
      rw [emptyThen_cons]
      rfl
    rw [zero]
    exact fun inRange => absurd inRange.1 (Nat.lt_irrefl 0)

theorem resync_short (lower : 1 ≤ payload.length) (short : payload.length < 256) :
    resync (emptyThen sender (payload :: payloads)) = some 4 := by
  rw [emptyThen_cons]
  refine resync_behind_empty lower (by omega) _ (j := 0) (by omega) ?_ ?_
  · exact Nat.div_eq_of_lt short
  · rw [Nat.pow_zero, Nat.div_one]
    omega

/-- A first payload of at most 255 bytes: everything comes out. -/
theorem drain_emptyThen (sizes : ∀ p ∈ payload :: payloads, Plausible p.length)
    (short : payload.length < 256) :
    drain attempt (emptyThen sender (payload :: payloads)) = (payload :: payloads, some []) := by
  have lower : 1 ≤ payload.length := (sizes payload List.mem_cons_self).1
  have frames : (emptyThen sender (payload :: payloads)).drop 4 =
      ((payload :: payloads).map sender.frame).flatten := by
    rw [emptyThen, sender.frame_eq]
    rfl
  have found : resync (emptyThen sender (payload :: payloads)) = some 4 := resync_short lower short
  rw [drain_congr attempt_lawful (attempt_emptyThen found), frames, drain_frames sender _ sizes]

/-- A longer one: the scan stops before the frame, at a length made of its leading
bytes. -/
theorem resync_astray (upper : payload.length ≤ 262144) (long : 256 ≤ payload.length) :
    ∃ i, i < 4 ∧ resync (emptyThen sender (payload :: payloads)) = some i ∧
      readLenAt (emptyThen sender (payload :: payloads)) i < payload.length := by
  have shorter (j : Nat) (later : j ≠ 0) : payload.length / 256 ^ j < payload.length :=
    Nat.div_lt_self (by omega) (Nat.one_lt_pow later (by omega))
  rw [emptyThen_cons]
  by_cases third : payload.length / 256 ^ 2 = 0
  · refine ⟨3, by omega, ?_, ?_⟩
    · exact resync_behind_empty (by omega) upper _ (j := 1) (by omega) third (by simp; omega)
    · rw [readLenAt_behind_empty (j := 1) (by omega) _ (by omega)]
      exact shorter 1 (by omega)
  · refine ⟨2, by omega, ?_, ?_⟩
    · exact resync_behind_empty (by omega) upper _ (j := 2) (by omega) (by omega) third
    · rw [readLenAt_behind_empty (j := 2) (by omega) _ (by omega)]
      exact shorter 2 (by omega)

/-- The first message is then none of the payloads' first. -/
theorem drain_astray (upper : payload.length ≤ 262144) (long : 256 ≤ payload.length) :
    (drain attempt (emptyThen sender (payload :: payloads))).1 ≠ payload :: payloads := by
  obtain ⟨i, near, found, short⟩ := @resync_astray sender payload payloads upper long
  obtain ⟨inRange, -, -⟩ := resync_eq_some.mp found
  have whole : 8 + payload.length ≤ (emptyThen sender (payload :: payloads)).length := by
    simp [emptyThen_cons]
    omega
  have astray := attempt_emptyThen found
  generalize emptyThen sender (payload :: payloads) = stream at *
  have front : Plausible (readLenAt (stream.drop i) 0) := by rwa [readLenAt_drop]
  have taken := attempt_front (b := stream.drop i) (by rw [List.length_drop]; omega) front
  rw [readLenAt_drop, if_pos (by rw [List.length_drop]; omega)] at taken
  rw [taken] at astray
  intro same
  rw [drain_deliver attempt_lawful astray] at same
  have lengths := congrArg List.length (List.cons.inj same).1
  simp only [List.length_take, List.length_drop] at lengths
  omega

end Stream

/-- **An empty frame is passed over** just when the payload behind it, if any, has at
most 255 bytes. -/
theorem realigns_iff (sender : Sender) {front : Bytes} {messages payloads : List Bytes}
    (boundary : AtBoundary front messages)
    (sizes : ∀ p ∈ payloads, 1 ≤ p.length ∧ p.length ≤ 262144) :
    Realigns sender front messages payloads ↔ ∀ p ∈ payloads.head?, p.length < 256 := by
  have inRange : ∀ p ∈ payloads, Plausible p.length := sizes
  cases payloads with
  | nil =>
      refine ⟨fun _ p first => by simp at first, fun _ => ⟨fun chunks cut => ?_, ?_⟩⟩
      · rw [boundary.messages _ cut]
        cases sender <;> rfl
      · intro arrived i within found
        -- four bytes leave the scan no offset
        have four : (emptyThen sender []).length = 4 := by cases sender <;> rfl
        have short : arrived.length ≤ 4 := four ▸ within.length_le
        obtain ⟨-, ⟨later, inside⟩, -⟩ := resync_eq_some.mp found
        have window := scanLimit_le_length arrived
        omega
  | cons payload payloads =>
      have size := sizes payload List.mem_cons_self
      simp only [List.head?_cons, Option.mem_some_iff, forall_eq']
      constructor
      · rintro ⟨comes, -⟩
        by_contra long
        have cut : [front ++ emptyThen sender (payload :: payloads)].flatten =
            front ++ emptyThen sender (payload :: payloads) := by simp
        have all := comes _ cut
        rw [boundary.messages _ cut, List.append_cancel_left_eq] at all
        exact drain_astray size.2 (by omega) all
      · intro short
        refine ⟨fun chunks cut => ?_, fun arrived i within found => ?_⟩
        · rw [boundary.messages _ cut, drain_emptyThen inRange short]
        · obtain ⟨later, rest⟩ := within
          have settled := resync_append found later
          rw [rest, resync_short size.1 short, Option.some.injEq] at settled
          refine ⟨0, Nat.succ_pos _, ?_⟩
          rw [← settled]
          cases sender <;> rfl

/-- A payload of one byte. -/
theorem realigns_a : Realigns .session [] [] [[97]] :=
  (realigns_iff .session (by decide) (by decide)).mpr (by decide)

/-- A payload of 256 bytes: the scan stops a byte early. -/
theorem empty_frame_astray : ¬ Realigns .session [] [] [List.replicate 256 97] := by
  have size : (List.replicate 256 (97 : UInt8)).length = 256 := List.length_replicate
  generalize List.replicate 256 (97 : UInt8) = payload at size ⊢
  rintro ⟨comes, -⟩
  have boundary : AtBoundary [] [] := by decide
  have cut : [emptyThen .session [payload]].flatten = [] ++ emptyThen .session [payload] := by simp
  have all := comes _ cut
  rw [boundary.messages _ cut, List.nil_append] at all
  exact drain_astray (by omega) (by omega) all

end GameServer.Wire
