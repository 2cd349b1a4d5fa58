/-
# Wire.Draining -- what one drain takes and what it leaves

A message takes its prefix and a byte with it at least, so a drain ends after a fifth
of the buffer's length.  What it leaves is short of a prefix, or waits for the rest of
a message, or has no prefix in range where the scan looks; or nothing, once the buffer
was given up.

* `attempt_deliver_length`, `attempt_wait_rest` -- what one call takes, and leaves;
* `drains_drain` -- the loop ends in the call that gives nothing;
* `drain_bounded` -- count, size and shape, for every drain of every buffer.
-/
import GameServer.Wire.MessageBuffer

namespace GameServer.Wire

set_option autoImplicit false

open Theory.Incremental

namespace MessageBufferManager

/-! ## What is asked of a drain -/

/-- `extract_message` called until it gives nothing: the messages, and the manager the
last call leaves. -/
inductive Drains : MessageBufferManager → List Bytes → MessageBufferManager → Prop where
  | done {m m' : MessageBufferManager} (ended : m.extractMessage = (none, m')) : Drains m [] m'
  | next {m m' m'' : MessageBufferManager} {msg : Bytes} {msgs : List Bytes}
      (taken : m.extractMessage = (some msg, m')) (rest : Drains m' msgs m'') :
      Drains m (msg :: msgs) m''

/-- A prefix in range, and less than its message behind it. -/
def Incomplete (b : Bytes) : Prop :=
  4 ≤ b.length ∧ Plausible (readLenAt b 0) ∧ b.length < 4 + readLenAt b 0

/-- No offset the scan looks at, nor the front, reads as a prefix in range. -/
def NoPrefix (b : Bytes) : Prop :=
  ∀ i, i ≤ 16384 → i + 4 ≤ b.length → ¬ Plausible (readLenAt b i)

/-- Why bytes may be kept. -/
def Unfinished (b : Bytes) : Prop := Incomplete b ∨ b.length < 4 ∨ NoPrefix b

/-- A drain of `m` that gives `msgs` and leaves `m'`, within its bounds. -/
structure Bounded (m : MessageBufferManager) (msgs : List Bytes) (m' : MessageBufferManager) :
    Prop where
  count : msgs.length ≤ m.buffer.length / 5
  size : m'.buffer.length ≤ 524288
  rest : m'.buffer ≠ [] → m'.lastClearByInvalidLength = false → Unfinished m'.buffer

/-! ## One call -/

theorem attempt_deliver_length {b msg r : Bytes} (pulled : attempt b = .deliver msg r) :
    r.length + 5 ≤ b.length := by
  have taken : ∀ {b : Bytes}, 4 ≤ b.length → Plausible (readLenAt b 0) →
      attempt b = .deliver msg r → r.length + 5 ≤ b.length := by
    intro b long front pulled
    rw [attempt_front long front] at pulled
    have inRange := front.1
    split at pulled <;> cases pulled
    rw [List.length_drop]
    omega
  rcases attempt_cases b with
    short | ⟨long, front⟩ | ⟨i, long, noise, found, -, rest, front⟩ | ⟨long, noise, missed⟩
  · simp [attempt_short short] at pulled
  · exact taken long front pulled
  · rw [attempt_resync long noise found] at pulled
    have fits := taken rest front pulled
    rw [List.length_drop] at fits
    omega
  · rw [attempt_lost long noise missed] at pulled
    split at pulled <;> cases pulled

theorem incomplete_length {b : Bytes} (incomplete : Incomplete b) : b.length ≤ 524288 := by
  obtain ⟨-, ⟨-, upper⟩, short⟩ := incomplete
  simp only [maxPacketSize] at upper
  omega

/-- The window of a scan that found nothing covers the offsets up to `MAX_RESYNC_SCAN`. -/
theorem noPrefix_of_resync_none {b : Bytes} (noise : ¬ Plausible (readLenAt b 0))
    (missed : resync b = none) : NoPrefix b := by
  intro i window inside
  by_cases front : i = 0
  · subst front
    exact noise
  · refine resync_eq_none.mp missed i (by omega) ?_
    simp only [scanLimit, maxResyncScan]
    omega

theorem attempt_wait_rest {b r : Bytes} (pulled : attempt b = .wait r) :
    r.length ≤ 524288 ∧ Unfinished r := by
  have waiting : ∀ {b : Bytes}, 4 ≤ b.length → Plausible (readLenAt b 0) →
      attempt b = .wait r → Incomplete r := by
    intro b long front pulled
    rw [attempt_front long front] at pulled
    split at pulled <;> cases pulled
    rename_i short
    exact ⟨long, front, by omega⟩
  rcases attempt_cases b with
    short | ⟨long, front⟩ | ⟨i, long, noise, found, -, rest, front⟩ | ⟨long, noise, missed⟩
  · rw [attempt_short short] at pulled
    cases pulled
    exact ⟨by omega, .inr (.inl short)⟩
  · have incomplete := waiting long front pulled
    exact ⟨incomplete_length incomplete, .inl incomplete⟩
  · rw [attempt_resync long noise found] at pulled
    have incomplete := waiting rest front pulled
    exact ⟨incomplete_length incomplete, .inl incomplete⟩
  · rw [attempt_lost long noise missed] at pulled
    split at pulled <;> cases pulled
    rename_i small
    simp only [absoluteMaxBuffer] at small
    exact ⟨by omega, .inr (.inr (noPrefix_of_resync_none noise missed))⟩

/-! ## The loop -/

theorem drainWithin_drains {n : Nat} {m : MessageBufferManager} (enough : m.buffer.length < n) :
    Drains m (drainWithin n m).1 (drainWithin n m).2 := by
  induction n generalizing m with
  | zero => omega
  | succ n ih =>
      rw [drainWithin]
      rcases extracted : m.extractMessage with ⟨_ | msg, m'⟩
      · exact .done extracted
      · have shorter := attempt_deliver_length (extractMessage_some extracted)
        exact .next extracted (ih (by omega))

/-- **The loop ends**, in the call that gives nothing. -/
theorem drains_drain (m : MessageBufferManager) : Drains m m.drain.1 m.drain.2 :=
  drainWithin_drains (Nat.lt_succ_self _)

theorem Drains.bounded {m m' : MessageBufferManager} {msgs : List Bytes}
    (drains : Drains m msgs m') : Bounded m msgs m' := by
  induction drains with
  | done ended =>
      rename_i m m'
      by_cases flag : m'.lastClearByInvalidLength = true
      · obtain ⟨cleared, -⟩ := extractMessage_cleared ended flag
        refine ⟨Nat.zero_le _, by simp [cleared], fun kept => absurd cleared kept⟩
      · have pulled := extractMessage_none ended
        rw [if_neg flag] at pulled
        obtain ⟨size, rest⟩ := attempt_wait_rest pulled
        exact ⟨Nat.zero_le _, size, fun _ _ => rest⟩
  | next taken rest ih =>
      have shorter := attempt_deliver_length (extractMessage_some taken)
      have fewer := ih.count
      refine ⟨?_, ih.size, ih.rest⟩
      rw [List.length_cons]
      omega

/-- **Draining ends and keeps little**, whatever the buffer holds: so after any stream
and any cut of it. -/
theorem drain_bounded (m : MessageBufferManager) :
    ∃ msgs m', m.Drains msgs m' ∧ m.drain = (msgs, m') ∧ Bounded m msgs m' :=
  ⟨m.drain.1, m.drain.2, drains_drain m, rfl, (drains_drain m).bounded⟩

/-- Two messages of one byte fill the count; a prefix alone is kept. -/
example : (drain { buffer := [0, 0, 0, 1, 97, 0, 0, 0, 1, 98, 0, 0] }).1 = [[97], [98]] := by decide

end MessageBufferManager

end GameServer.Wire
