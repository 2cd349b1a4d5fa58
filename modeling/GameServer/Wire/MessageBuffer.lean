/-
# Wire.MessageBuffer -- `MessageBufferManager`, the receive buffer of a TCP stream

`extractMessage` takes one length-prefixed message off the front of the bytes
received so far.  A prefix outside `1 .. MAX_PACKET_SIZE` starts a resync: the
first offset in a bounded window that reads as a prefix in range becomes the new
front.  Without one the buffer is kept for more input, and cleared with
`lastClearByInvalidLength` set once it has grown past `ABSOLUTE_MAX_BUFFER`.

`attempt` reads one call as a pull of `Theory.Incremental`, and `attempt_lawful`
is the point of the module: every choice the resync makes is decided by bytes
that have arrived and cannot be revised by later ones.  `receive_eq_feed` then
makes the receive loop of a connection the library's `feed`.
-/
import Mathlib.Algebra.Group.Int.Defs
import Mathlib.Algebra.Group.Nat.Defs
import Mathlib.Tactic.Set
import GameServer.Theory.Incremental

namespace GameServer.Wire

set_option autoImplicit false

open Theory.Incremental

abbrev Bytes := List UInt8

def maxPacketSize : Nat := 64 * 4096

def maxResyncScan : Nat := 16384

def absoluteMaxBuffer : Nat := 512 * 1024

structure MessageBufferManager where
  buffer : Bytes := []
  lastClearByInvalidLength : Bool := false
deriving DecidableEq, Repr

namespace MessageBufferManager

def append (m : MessageBufferManager) (data : Bytes) : MessageBufferManager :=
  { m with buffer := m.buffer ++ data }

def clear (m : MessageBufferManager) : MessageBufferManager := { m with buffer := [] }

/-- The number whose four big-endian bytes these are. -/
def ntohl : Bytes → Nat
  | [a, b, c, d] => a.toNat * 2 ^ 24 + b.toNat * 2 ^ 16 + c.toNat * 2 ^ 8 + d.toNat
  | _ => 0

/-- `read_len_at`. -/
def readLenAt (buffer : Bytes) (offset : Nat) : Nat := ntohl ((buffer.drop offset).take 4)

/-- A length a frame may announce. -/
def Plausible (len : Nat) : Prop := 0 < len ∧ len ≤ maxPacketSize

instance (len : Nat) : Decidable (Plausible len) := inferInstanceAs (Decidable (_ ∧ _))

def scanLimit (buffer : Bytes) : Nat := min buffer.length (maxResyncScan + 4)

/-- The resync loop, `i = 1, 2, ..` while `i + 4 ≤ scan_limit`: the first offset
that reads as a prefix in range. -/
def resync (buffer : Bytes) : Option Nat :=
  (List.range' 1 (scanLimit buffer - 4)).find? fun i => Plausible (readLenAt buffer i)

def extractMessage (m : MessageBufferManager) : Option Bytes × MessageBufferManager :=
  let m := { m with lastClearByInvalidLength := false }
  if m.buffer.length < 4 then (none, m)
  else
    let len0 := readLenAt m.buffer 0
    if Plausible len0 then
      if 4 + len0 ≤ m.buffer.length then
        (some ((m.buffer.drop 4).take len0), { m with buffer := m.buffer.drop (4 + len0) })
      else (none, m)
    else
      match resync m.buffer with
      | some i =>
          let cand := readLenAt m.buffer i
          if i + 4 + cand ≤ m.buffer.length then
            -- the noise in front goes, then the message at the new front is taken
            let buffer := m.buffer.drop i
            (some ((buffer.drop 4).take cand), { m with buffer := buffer.drop (4 + cand) })
          else (none, { m with buffer := m.buffer.drop i })
      | none =>
          if absoluteMaxBuffer < m.buffer.length then
            (none, { buffer := [], lastClearByInvalidLength := true })
          else (none, m)

/-- `while (auto opt = extract_message())`, at most `n` rounds: the messages in
order, and the manager the failed last call leaves. -/
def drainWithin : Nat → MessageBufferManager → List Bytes × MessageBufferManager
  | 0, m => ([], m)
  | n + 1, m =>
      match m.extractMessage with
      | (none, m') => ([], m')
      | (some msg, m') => (msg :: (drainWithin n m').1, (drainWithin n m').2)

/-- The loop itself: a message shortens the buffer, so it ends within the
buffer's length (`drain_eq_drain`). -/
def drain (m : MessageBufferManager) : List Bytes × MessageBufferManager :=
  drainWithin (m.buffer.length + 1) m

end MessageBufferManager

/-- What a receive loop has done with the pieces read so far. -/
structure Reception where
  messages : List Bytes
  manager : MessageBufferManager
  /-- The loop closed the connection on `was_last_clear_by_invalid_length()`. -/
  stopped : Bool
deriving DecidableEq, Repr

open MessageBufferManager in
/-- The receive loop over the pieces read, as `Session::do_read` and
`DBMiddlewareClient::do_read_some` run it: append, drain, stop on the flag. -/
def receive : MessageBufferManager → List Bytes → Reception
  | m, [] => ⟨[], m, false⟩
  | m, chunk :: chunks =>
      match (m.append chunk).drain with
      | (messages, m') =>
          if m'.lastClearByInvalidLength then ⟨messages, m', true⟩
          else { receive m' chunks with messages := messages ++ (receive m' chunks).messages }

namespace MessageBufferManager

/-! ## What arrived is not reread -/

theorem readLenAt_append {b : Bytes} {i : Nat} (fits : i + 4 ≤ b.length) (c : Bytes) :
    readLenAt (b ++ c) i = readLenAt b i := by
  have h1 : (b ++ c).drop i = b.drop i ++ c := List.drop_append_of_le_length (by omega)
  have h2 : (b.drop i ++ c).take 4 = (b.drop i).take 4 :=
    List.take_append_of_le_length (by simp; omega)
  rw [readLenAt, h1, h2, readLenAt]

theorem readLenAt_drop (b : Bytes) (i : Nat) : readLenAt (b.drop i) 0 = readLenAt b i := by
  simp [readLenAt]

/-- What a found offset is: in the window, a prefix in range, and the first such. -/
theorem resync_eq_some {b : Bytes} {i : Nat} :
    resync b = some i ↔
      Plausible (readLenAt b i) ∧ (1 ≤ i ∧ i + 4 ≤ scanLimit b) ∧
        ∀ j, 1 ≤ j → j < i → ¬ Plausible (readLenAt b j) := by
  rw [resync, List.find?_range'_eq_some]
  simp only [decide_eq_true_eq, List.mem_range'_1, Bool.not_eq_true', decide_eq_false_iff_not]
  constructor
  · rintro ⟨inRange, range, first⟩
    exact ⟨inRange, ⟨range.1, by omega⟩, fun j => first j⟩
  · rintro ⟨inRange, range, first⟩
    exact ⟨inRange, ⟨range.1, by omega⟩, fun j => first j⟩

theorem resync_eq_none {b : Bytes} :
    resync b = none ↔ ∀ i, 1 ≤ i → i + 4 ≤ scanLimit b → ¬ Plausible (readLenAt b i) := by
  rw [resync, List.find?_eq_none]
  simp only [List.mem_range'_1, decide_eq_true_eq]
  constructor
  · intro h i lower upper
    exact h i ⟨lower, by omega⟩
  · intro h i range
    exact h i range.1 (by omega)

theorem scanLimit_le_length (b : Bytes) : scanLimit b ≤ b.length := Nat.min_le_left _ _

theorem scanLimit_append (b c : Bytes) : scanLimit b ≤ scanLimit (b ++ c) := by
  simp only [scanLimit, List.length_append]; omega

/-- An offset the scan has settled on stays settled on. -/
theorem resync_append {b : Bytes} {i : Nat} (found : resync b = some i) (c : Bytes) :
    resync (b ++ c) = some i := by
  obtain ⟨inRange, ⟨lower, upper⟩, first⟩ := resync_eq_some.mp found
  have inside := scanLimit_le_length b
  have window := scanLimit_append b c
  refine resync_eq_some.mpr ⟨?_, ⟨lower, by omega⟩, fun j hj hji => ?_⟩
  · rwa [readLenAt_append (by omega)]
  · rw [readLenAt_append (by omega)]
    exact first j hj hji

/-- A full window without a prefix in range stays without one. -/
theorem resync_none_append {b : Bytes} (full : maxResyncScan + 4 ≤ b.length)
    (missed : resync b = none) (c : Bytes) : resync (b ++ c) = none := by
  rw [resync_eq_none] at missed ⊢
  have same : scanLimit (b ++ c) = scanLimit b := by
    simp only [scanLimit, List.length_append]; omega
  intro i lower upper
  rw [same] at upper
  have inside := scanLimit_le_length b
  rw [readLenAt_append (by omega)]
  exact missed i lower upper

/-! ## One call as a pull -/

/-- `extract_message` on a buffer, read as one pull. -/
def attempt (buffer : Bytes) : Attempt UInt8 Bytes :=
  match extractMessage { buffer } with
  | (some msg, m) => .deliver msg m.buffer
  | (none, m) => if m.lastClearByInvalidLength then .refuse else .wait m.buffer

theorem attempt_short {b : Bytes} (short : b.length < 4) : attempt b = .wait b := by
  simp [attempt, extractMessage, short]

theorem attempt_front {b : Bytes} (long : 4 ≤ b.length) (inRange : Plausible (readLenAt b 0)) :
    attempt b =
      if 4 + readLenAt b 0 ≤ b.length then
        .deliver ((b.drop 4).take (readLenAt b 0)) (b.drop (4 + readLenAt b 0))
      else .wait b := by
  by_cases whole : 4 + readLenAt b 0 ≤ b.length <;>
    simp [attempt, extractMessage, Nat.not_lt.mpr long, inRange, whole]

/-- A frame at the front is taken the same with more input behind it. -/
theorem attempt_front_append {b r : Bytes} {msg : Bytes} (long : 4 ≤ b.length)
    (inRange : Plausible (readLenAt b 0)) (c : Bytes) (pulled : attempt b = .deliver msg r) :
    attempt (b ++ c) = .deliver msg (r ++ c) := by
  rw [attempt_front long inRange] at pulled
  split at pulled <;> cases pulled
  rename_i whole
  have same := readLenAt_append (b := b) (i := 0) (by omega) c
  rw [attempt_front (by simp; omega) (by rwa [same]), same, if_pos (by simp; omega),
    List.drop_append_of_le_length (by omega), List.drop_append_of_le_length (by omega),
    List.take_append_of_le_length (by simp; omega)]

theorem attempt_resync {b : Bytes} {i : Nat} (long : 4 ≤ b.length)
    (noise : ¬ Plausible (readLenAt b 0)) (found : resync b = some i) :
    attempt b = attempt (b.drop i) := by
  obtain ⟨inRange, ⟨-, upper⟩, -⟩ := resync_eq_some.mp found
  have inside := scanLimit_le_length b
  have front : Plausible (readLenAt (b.drop i) 0) := by rwa [readLenAt_drop]
  rw [attempt_front (by simp; omega) front]
  simp only [attempt, extractMessage, Nat.not_lt.mpr long, if_false, noise, found,
    readLenAt_drop, List.length_drop]
  by_cases whole : i + 4 + readLenAt b i ≤ b.length
  · simp [whole, show 4 + readLenAt b i ≤ b.length - i by omega]
  · simp [whole, show ¬ 4 + readLenAt b i ≤ b.length - i by omega]

theorem attempt_lost {b : Bytes} (long : 4 ≤ b.length) (noise : ¬ Plausible (readLenAt b 0))
    (missed : resync b = none) :
    attempt b = if absoluteMaxBuffer < b.length then .refuse else .wait b := by
  by_cases huge : absoluteMaxBuffer < b.length <;>
    simp [attempt, extractMessage, Nat.not_lt.mpr long, noise, missed, huge]

/-- What an attempt finds: too little, a frame's prefix at the front, noise before a
prefix, or noise only. -/
theorem attempt_cases (b : Bytes) :
    b.length < 4 ∨
      (4 ≤ b.length ∧ Plausible (readLenAt b 0)) ∨
      (∃ i, 4 ≤ b.length ∧ ¬ Plausible (readLenAt b 0) ∧ resync b = some i ∧ i ≤ b.length ∧
        4 ≤ (b.drop i).length ∧ Plausible (readLenAt (b.drop i) 0)) ∨
      (4 ≤ b.length ∧ ¬ Plausible (readLenAt b 0) ∧ resync b = none) := by
  by_cases short : b.length < 4
  · exact .inl short
  have long : 4 ≤ b.length := by omega
  by_cases front : Plausible (readLenAt b 0)
  · exact .inr (.inl ⟨long, front⟩)
  cases found : resync b with
  | none => exact .inr (.inr (.inr ⟨long, front, rfl⟩))
  | some i =>
      obtain ⟨inRange, ⟨-, upper⟩, -⟩ := resync_eq_some.mp found
      have inside := scanLimit_le_length b
      refine .inr (.inr (.inl ⟨i, long, front, rfl, by omega, ?_, ?_⟩))
      · rw [List.length_drop]
        omega
      · rwa [readLenAt_drop]

/-- **No answer of the buffer depends on what arrives later.** -/
theorem attempt_lawful : Lawful attempt where
  nil := attempt_short (by simp)
  shrinks := by
    intro b m r pulled
    rcases attempt_cases b with
      short | ⟨long, front⟩ | ⟨i, long, noise, found, -, rest, front⟩ | ⟨long, noise, missed⟩
    · simp [attempt_short short] at pulled
    · rw [attempt_front long front] at pulled
      split at pulled <;> cases pulled
      simp; omega
    · rw [attempt_resync long noise found, attempt_front rest front] at pulled
      split at pulled <;> cases pulled
      simp; omega
    · rw [attempt_lost long noise missed] at pulled
      split at pulled <;> cases pulled
  deliver_append := by
    intro b m r c pulled
    rcases attempt_cases b with
      short | ⟨long, front⟩ | ⟨i, long, noise, found, inside, rest, front⟩ | ⟨long, noise, missed⟩
    · simp [attempt_short short] at pulled
    · exact attempt_front_append long front c pulled
    · rw [attempt_resync long noise found] at pulled
      rw [attempt_resync (by simp; omega) (by rwa [readLenAt_append (by omega)])
        (resync_append found c), List.drop_append_of_le_length inside]
      exact attempt_front_append rest front c pulled
    · rw [attempt_lost long noise missed] at pulled
      split at pulled <;> cases pulled
  wait_append := by
    intro b r c pulled
    rcases attempt_cases b with
      short | ⟨long, front⟩ | ⟨i, long, noise, found, inside, rest, front⟩ | ⟨long, noise, missed⟩
    · rw [attempt_short short] at pulled
      cases pulled
      rfl
    · rw [attempt_front long front] at pulled
      split at pulled <;> cases pulled
      rfl
    · -- the noise before `i` is gone from `r`; with more input it would go too
      rw [attempt_resync long noise found, attempt_front rest front] at pulled
      split at pulled <;> cases pulled
      rw [attempt_resync (by simp; omega) (by rwa [readLenAt_append (by omega)])
        (resync_append found c), List.drop_append_of_le_length inside]
    · rw [attempt_lost long noise missed] at pulled
      split at pulled <;> cases pulled
      rfl
  refuse_append := by
    intro b c pulled
    rcases attempt_cases b with
      short | ⟨long, front⟩ | ⟨i, long, noise, found, -, rest, front⟩ | ⟨long, noise, missed⟩
    · simp [attempt_short short] at pulled
    · rw [attempt_front long front] at pulled
      split at pulled <;> cases pulled
    · rw [attempt_resync long noise found, attempt_front rest front] at pulled
      split at pulled <;> cases pulled
    · rw [attempt_lost long noise missed] at pulled
      split at pulled
      · rename_i huge
        -- the buffer is past every window the scan looks at
        have full : maxResyncScan + 4 ≤ b.length := by
          simp only [maxResyncScan, absoluteMaxBuffer] at *; omega
        rw [attempt_lost (by simp; omega) (by rwa [readLenAt_append (by omega)])
          (resync_none_append full missed c), if_pos (by simp; omega)]
      · cases pulled

/-! ## The loops over the library's -/

/-- The answer of a whole drain, as the library gives it: no rest when the
buffer was cleared by an invalid length. -/
def outcome (r : List Bytes × MessageBufferManager) : List Bytes × Option Bytes :=
  (r.1, if r.2.lastClearByInvalidLength then none else some r.2.buffer)

theorem extractMessage_eq (m : MessageBufferManager) :
    extractMessage m = extractMessage { buffer := m.buffer } := rfl

/-- A call that delivers leaves the flag down. -/
theorem extractMessage_some {m m' : MessageBufferManager} {msg : Bytes}
    (extracted : m.extractMessage = (some msg, m')) :
    attempt m.buffer = .deliver msg m'.buffer := by
  rw [extractMessage_eq] at extracted
  simp [attempt, extracted]

theorem extractMessage_none {m m' : MessageBufferManager}
    (extracted : m.extractMessage = (none, m')) :
    attempt m.buffer = if m'.lastClearByInvalidLength then .refuse else .wait m'.buffer := by
  rw [extractMessage_eq] at extracted
  simp [attempt, extracted]

/-- The flag goes up as a long buffer is given up whole. -/
theorem extractMessage_cleared {m m' : MessageBufferManager}
    (extracted : m.extractMessage = (none, m')) (cleared : m'.lastClearByInvalidLength = true) :
    m'.buffer = [] ∧ absoluteMaxBuffer < m.buffer.length := by
  unfold extractMessage at extracted
  dsimp only at extracted
  split at extracted
  · cases extracted; cases cleared
  · split at extracted
    · split at extracted <;> cases extracted
      cases cleared
    · split at extracted
      · split at extracted <;> cases extracted
        cases cleared
      · split at extracted <;> cases extracted
        · rename_i huge
          exact ⟨rfl, huge⟩
        · cases cleared

theorem drainWithin_outcome (n : Nat) (m : MessageBufferManager) (enough : m.buffer.length < n) :
    outcome (drainWithin n m) = Theory.Incremental.drain attempt m.buffer := by
  induction n generalizing m with
  | zero => omega
  | succ n ih =>
      rw [drainWithin]
      rcases extracted : m.extractMessage with ⟨_ | msg, m'⟩
      · have answer := extractMessage_none extracted
        by_cases flag : m'.lastClearByInvalidLength
        · rw [if_pos flag] at answer
          simp [outcome, flag, drain_refuse answer]
        · rw [if_neg flag] at answer
          simp [outcome, flag, drain_wait answer]
      · have answer := extractMessage_some extracted
        have shorter := attempt_lawful.shrinks answer
        have rest := ih m' (by omega)
        rw [drain_deliver attempt_lawful answer, ← rest]
        rfl

/-- The flag a loop starts with does not show: every call lowers it first. -/
theorem drain_congr {m m' : MessageBufferManager} (same : m.buffer = m'.buffer) :
    m.drain = m'.drain := by
  have first : m.extractMessage = m'.extractMessage := by
    rw [extractMessage_eq, same, ← extractMessage_eq]
  rw [drain, drain, drainWithin, drainWithin, first, same]

theorem drain_outcome (m : MessageBufferManager) :
    outcome m.drain = Theory.Incremental.drain attempt m.buffer :=
  drainWithin_outcome _ m (Nat.lt_succ_self _)

/-- The messages a drain gives: the next one, then those of what it leaves. -/
theorem drain_some {m m' : MessageBufferManager} {msg : Bytes}
    (extracted : m.extractMessage = (some msg, m')) : m.drain.1 = msg :: m'.drain.1 := by
  have whole := congrArg Prod.fst (drain_outcome m)
  have rest := congrArg Prod.fst (drain_outcome m')
  rw [drain_deliver attempt_lawful (extractMessage_some extracted)] at whole
  exact whole.trans (congrArg _ rest.symm)

theorem drain_none {m m' : MessageBufferManager} (extracted : m.extractMessage = (none, m')) :
    m.drain.1 = [] := by
  simp only [drain, drainWithin, extracted]

end MessageBufferManager

open MessageBufferManager

/-- **The receive loop is the library's feed**: the same messages, and a rest
unless the loop stopped on the flag. -/
theorem receive_eq_feed (m : MessageBufferManager) (chunks : List Bytes)
    (unflagged : m.lastClearByInvalidLength = false) :
    ((receive m chunks).messages,
      if (receive m chunks).stopped then none else some (receive m chunks).manager.buffer) =
      feed attempt m.buffer chunks ∧
    ((receive m chunks).stopped = false →
      (receive m chunks).manager.lastClearByInvalidLength = false) := by
  induction chunks generalizing m with
  | nil => exact ⟨rfl, fun _ => unflagged⟩
  | cons chunk chunks ih =>
      have drained := drain_outcome (m.append chunk)
      rcases taken : (m.append chunk).drain with ⟨messages, m'⟩
      rw [taken] at drained
      change outcome (messages, m') = Theory.Incremental.drain attempt (m.buffer ++ chunk) at drained
      by_cases flag : m'.lastClearByInvalidLength
      · simp only [outcome, flag, if_true] at drained
        simp [receive, taken, flag, feed, ← drained]
      · simp only [outcome, if_neg flag] at drained
        obtain ⟨same, kept⟩ := ih m' (by simpa using flag)
        have fed : feed attempt m.buffer (chunk :: chunks) =
            (messages ++ (feed attempt m'.buffer chunks).1, (feed attempt m'.buffer chunks).2) := by
          rw [feed, ← drained]
        rw [fed, ← same, receive, taken]
        simp only [if_neg flag]
        exact ⟨trivial, kept⟩

/-- One piece more, on a loop that has not stopped. -/
theorem receive_concat (m : MessageBufferManager) (chunks : List Bytes) (chunk : Bytes)
    (running : (receive m chunks).stopped = false) :
    receive m (chunks ++ [chunk]) =
      { messages := (receive m chunks).messages ++
          ((receive m chunks).manager.append chunk).drain.1,
        manager := ((receive m chunks).manager.append chunk).drain.2,
        stopped := ((receive m chunks).manager.append chunk).drain.2.lastClearByInvalidLength } := by
  induction chunks generalizing m with
  | nil =>
      rcases taken : (m.append chunk).drain with ⟨messages, m'⟩
      cases flag : m'.lastClearByInvalidLength <;> simp [receive, taken, flag]
  | cons first chunks ih =>
      rcases taken : (m.append first).drain with ⟨messages, m'⟩
      cases flag : m'.lastClearByInvalidLength with
      | true => simp [receive, taken, flag] at running
      | false =>
          have rest := ih m' (by simpa [receive, taken, flag] using running)
          simp [receive, taken, flag, rest, List.append_assoc]

/-- **How a stream was cut does not show**: the same messages, the same verdict,
and, unless the loop stopped, the same bytes kept. -/
theorem receive_of_flatten_eq {chunks chunks' : List Bytes}
    (same : chunks.flatten = chunks'.flatten) :
    (receive {} chunks).messages = (receive {} chunks').messages ∧
    (receive {} chunks).stopped = (receive {} chunks').stopped ∧
    ((receive {} chunks).stopped = false →
      (receive {} chunks).manager = (receive {} chunks').manager) := by
  obtain ⟨left, leftFlag⟩ := receive_eq_feed {} chunks rfl
  obtain ⟨right, rightFlag⟩ := receive_eq_feed {} chunks' rfl
  have agree := left.trans ((feed_of_flatten_eq attempt_lawful same).trans right.symm)
  obtain ⟨messages, rest⟩ := Prod.mk.inj agree
  cases hs : (receive {} chunks).stopped <;> cases hs' : (receive {} chunks').stopped <;>
    simp only [hs, hs', if_true, Bool.false_eq_true, if_false, reduceCtorEq, Option.some.injEq] at rest
  · refine ⟨messages, rfl, fun _ => ?_⟩
    have flags := (leftFlag hs).trans (rightFlag hs').symm
    rcases hm : (receive {} chunks).manager with ⟨b, f⟩
    rcases hm' : (receive {} chunks').manager with ⟨b', f'⟩
    simp_all
  · exact ⟨messages, rfl, fun h => by cases h⟩

/-- Noise, then a frame, cut at two places. -/
theorem receive_of_flatten_eq_resync :
    (receive {} [[0, 0], [0, 0, 0, 0, 1, 97]]).messages =
        (receive {} [[0, 0, 0, 0, 0, 0], [1, 97]]).messages ∧
      (receive {} [[0, 0], [0, 0, 0, 0, 1, 97]]).stopped =
        (receive {} [[0, 0, 0, 0, 0, 0], [1, 97]]).stopped ∧
      ((receive {} [[0, 0], [0, 0, 0, 0, 1, 97]]).stopped = false →
        (receive {} [[0, 0], [0, 0, 0, 0, 1, 97]]).manager =
          (receive {} [[0, 0, 0, 0, 0, 0], [1, 97]]).manager) :=
  receive_of_flatten_eq (by decide)

end GameServer.Wire
