/-
# Kernel.Reuse -- what a reused `Session` keeps of its earlier uses

`SessionPool::acquire` resets and cleans the object it hands out.  Two lists of
fields are cleared by hand; the bucket of `checkUdpRateLimit`, the overflow count
of `enqueue_write` and the flag of `do_write_queue` are in neither.

* `handOut_like_new_iff` -- a reused object answers as one just made does exactly
  when its bucket is full as of that moment and it keeps no overflow count that is
  asked for;
* `used_not_fullBucket` -- no object is that was asked to admit a datagram before.
-/
import GameServer.Kernel.Trial

namespace GameServer.Kernel

set_option autoImplicit false

open Wire Theory.Runs Theory.Observation

/-! ## Bursts -/

namespace Trial

variable (config : Config)

theorem next_check (now : Time) (t : Trial) :
    t.next config (.checkUdpRateLimit now) =
      { t with session := (t.session.refilled now).drawn 1 } := by
  show ({ t with session := (t.session.checkUdpRateLimit now).1 } : Trial) = _
  rw [Session.checkUdpRateLimit_eq, Session.drawn]
  split
  · have one : max ((t.session.refilled now).udpTokens - (1 : Nat))
        (min (t.session.refilled now).udpTokens 0) = (t.session.refilled now).udpTokens - 1 := by
      omega
    rw [one]
  · have none_left : max ((t.session.refilled now).udpTokens - (1 : Nat))
        (min (t.session.refilled now).udpTokens 0) = (t.session.refilled now).udpTokens := by
      omega
    rw [none_left]

theorem answer_check (now : Time) (t : Trial) :
    t.answer config (.checkUdpRateLimit now) =
      .bool (decide (0 < (t.session.refilled now).udpTokens)) := by
  show Answer.bool (t.session.checkUdpRateLimit now).2 = _
  rw [Session.checkUdpRateLimit_eq]
  split <;> rename_i enough <;> simp [enough]

/-- A burst of datagrams at one time. -/
theorem after_burst (now : Time) (n : Nat) (t : Trial) :
    run (next config) t (List.replicate (n + 1) (.checkUdpRateLimit now)) =
      { t with session := (t.session.refilled now).drawn (n + 1) } := by
  induction n generalizing t with
  | zero => exact next_check config now t
  | succ n ih =>
      rw [List.replicate_succ]
      show run (next config) (next config t _) _ = _
      rw [ih, next_check]
      show ({ t with session := (((t.session.refilled now).drawn 1).refilled now).drawn (n + 1) } :
        Trial) = _
      rw [Session.refilled_drawn_refilled, Session.drawn_drawn, Nat.add_comm]

end Trial

/-- The clock of a burst at `t`, and of one more datagram after it. -/
theorem timely_burst {now t t' : Time} (first : now ≤ t) (later : t ≤ t') (n : Nat) :
    Timely now (List.replicate n (.checkUdpRateLimit t) ++ [.checkUdpRateLimit t']) := by
  have times : (List.replicate n (SessionOp.checkUdpRateLimit t) ++
      [SessionOp.checkUdpRateLimit t']).filterMap SessionOp.time = List.replicate n t ++ [t'] := by
    have at_t : SessionOp.time (.checkUdpRateLimit t) = some t := rfl
    rw [List.filterMap_append, List.filterMap_replicate_of_some at_t]
    rfl
  rw [Timely, times, List.pairwise_cons, List.pairwise_append]
  refine ⟨?_, by simp, by simp, ?_⟩
  · intro u member
    rcases List.mem_append.mp member with burst | last
    · rw [List.eq_of_mem_replicate burst]
      exact first
    · rw [List.mem_singleton.mp last]
      exact Int.le_trans first later
  · intro u burst v last
    rw [List.eq_of_mem_replicate burst, List.mem_singleton.mp last]
    exact later

/-! ## The overflow count -/

theorem Session.enqueueWrite_full {config : Config} (s : Session) (message : String)
    (full : config.maxWriteQueueSize ≤ s.writeQueue.length) :
    (s.enqueueWrite config message).1.writeQueueOverflowCount = s.writeQueueOverflowCount + 1 ∧
      (s.enqueueWrite config message).2 =
        decide (config.writeQueueOverflowLimit ≤ s.writeQueueOverflowCount + 1) := by
  rcases s.enqueueWrite_cases config message with
    ⟨-, limit, entered⟩ | ⟨-, below, entered⟩ | ⟨room, -⟩
  · simp [entered, limit]
  · simp [entered, below]
  · exact absurd full (Nat.not_le.mpr room)

/-- With no capacity every message meets a full queue. -/
theorem count_after_writes {config : Config} (none_fit : config.maxWriteQueueSize = 0) (n : Nat)
    (t : Trial) :
    (run (Trial.next config) t (List.replicate n (.enqueueWrite ""))).session.writeQueueOverflowCount =
      t.session.writeQueueOverflowCount + n := by
  induction n generalizing t with
  | zero => rfl
  | succ n ih =>
      have one : (t.next config (.enqueueWrite "")).session.writeQueueOverflowCount =
          t.session.writeQueueOverflowCount + 1 := by
        exact (t.session.enqueueWrite_full "" (by omega)).1
      show (run (Trial.next config) (t.next config (.enqueueWrite ""))
        _).session.writeQueueOverflowCount = _
      rw [ih, one]
      omega

theorem answer_write {config : Config} (none_fit : config.maxWriteQueueSize = 0) (t : Trial) :
    t.answer config (.enqueueWrite "") =
      .bool (decide (config.writeQueueOverflowLimit ≤ t.session.writeQueueOverflowCount + 1)) := by
  exact congrArg Answer.bool (t.session.enqueueWrite_full "" (by omega)).2

theorem timely_writes (now : Time) (n : Nat) :
    Timely now (List.replicate n (.enqueueWrite "") ++ [.enqueueWrite ""]) := by
  have untimed : SessionOp.time (.enqueueWrite "") = none := rfl
  rw [Timely, List.filterMap_append, List.filterMap_replicate_of_none untimed]
  simp [untimed]

/-! ## The object handed out -/

namespace Session

variable (now : Time) (sessionId : Int) (s : Session)

/-- What `acquire` leaves of the object it was given: the bucket. -/
theorem handOut_visible_eq :
    (s.handOut now sessionId).visible =
      { ((construct now).handOut now sessionId).visible with
        udpTokens := s.udpTokens
        lastUdpTokenRefill := s.lastUdpTokenRefill } := by
  simp only [handOut, setActive, if_true, tryActivate]
  split <;> split <;> rfl

theorem handOut_udpTokens : (s.handOut now sessionId).udpTokens = s.udpTokens := by
  show (s.handOut now sessionId).visible.udpTokens = _
  rw [handOut_visible_eq]

theorem handOut_lastUdpTokenRefill :
    (s.handOut now sessionId).lastUdpTokenRefill = s.lastUdpTokenRefill := by
  show (s.handOut now sessionId).visible.lastUdpTokenRefill = _
  rw [handOut_visible_eq]

theorem handOut_fullBucket : (s.handOut now sessionId).FullBucket now ↔ s.FullBucket now := by
  rw [FullBucket, handOut_udpTokens, handOut_lastUdpTokenRefill, FullBucket]

theorem handOut_rest :
    (s.handOut now sessionId).generation = s.generation + 2 ∧
      (s.handOut now sessionId).writeQueueOverflowCount = s.writeQueueOverflowCount ∧
      (s.handOut now sessionId).writeQueue = [] := by
  have ⟨generation, count, _⟩ := setActive_rest true (s.reset now sessionId)
  exact ⟨congrArg (· + 1) generation, count, rfl⟩

end Session

/-- The condition under which the overflow count an object keeps is never asked for. -/
def CountUnasked (config : Config) (s : Session) : Prop :=
  config.maxWriteQueueSize = 0 →
    s.writeQueueOverflowCount = 0 ∨ config.writeQueueOverflowLimit ≤ 1

/-- A full bucket makes a reused object one no operation tells from a new one. -/
theorem handOut_alike {config : Config} {s : Session} {now : Time} (full : s.FullBucket now)
    (unasked : CountUnasked config s) (sessionId : Int) :
    Alike config s.generation ⟨s.handOut now sessionId, []⟩
      ⟨(Session.construct now).handOut now sessionId, []⟩ := by
  have ⟨generation, count, _⟩ := s.handOut_rest now sessionId
  have ⟨generation', count', empty⟩ := (Session.construct now).handOut_rest now sessionId
  refine ⟨?_, ?_, rfl, ?_⟩
  · show (s.handOut now sessionId).visible = _
    rw [Session.handOut_visible_eq, full.1, full.2]
    rfl
  · show (s.handOut now sessionId).generation = _
    rw [generation, generation']
    exact Nat.add_comm _ _
  · show (s.handOut now sessionId).writeQueueOverflowCount = _ ∨ _ ∨ _ ∧ _
    rw [count, count']
    rcases Nat.eq_zero_or_pos config.maxWriteQueueSize with none_fit | room
    · rcases unasked none_fit with zero | small
      · exact .inl zero
      · exact .inr (.inl small)
    · exact .inr (.inr ⟨room, empty⟩)

/-- **A reused session is as good as a new one** exactly when its bucket is full and
was filled at that moment, and it keeps no overflow count that is asked for:
whatever the earlier uses of the object were, and for every later sequence of
operations. -/
theorem handOut_like_new_iff (config : Config) (s : Session) (now : Time) (sessionId : Int) :
    (∀ later, Timely now later →
      observations config (s.handOut now sessionId) later =
        observations config ((Session.construct now).handOut now sessionId) later) ↔
    s.FullBucket now ∧ CountUnasked config s := by
  constructor
  · intro same
    refine ⟨?_, ?_⟩
    · have new : ((Session.construct now).handOut now sessionId).FullBucket now :=
        (Session.handOut_fullBucket now sessionId _).mpr ⟨rfl, rfl⟩
      rw [← Session.handOut_fullBucket now sessionId]
      refine new.of_admitsAfter fun t n t' first later => ?_
      have last := answer_eq_of_answers_eq (same _ (timely_burst first later (n + 1)))
      rw [Trial.answer_check, Trial.answer_check] at last
      have both := decide_eq_decide.mp (Answer.bool.inj last)
      rwa [Trial.after_burst, Trial.after_burst] at both
    · intro none_fit
      by_contra asked
      have ⟨_, count, _⟩ := s.handOut_rest now sessionId
      have ⟨_, count', _⟩ := (Session.construct now).handOut_rest now sessionId
      have last := answer_eq_of_answers_eq
        (same _ (timely_writes now (config.writeQueueOverflowLimit - 2)))
      rw [answer_write none_fit, answer_write none_fit] at last
      have both := decide_eq_decide.mp (Answer.bool.inj last)
      rw [count_after_writes none_fit, count_after_writes none_fit] at both
      simp only [count, count'] at both
      have zero : (Session.construct now).writeQueueOverflowCount = 0 := rfl
      omega
  · rintro ⟨full, unasked⟩ later _
    exact answers_eq (fun _ _ op alike => (alike.step op).2) (fun _ _ op alike => (alike.step op).1)
      (handOut_alike full unasked sessionId) later

/-! ## Objects that were used -/

/-- The object after a history of uses. -/
def Session.used (config : Config) (built : Time) (history : List SessionOp) : Session :=
  (run (Trial.next config) ⟨construct built, []⟩ history).session

/-- A client sends 120 datagrams within a second of the connection, and leaves. -/
def drainedHistory : List SessionOp :=
  .acquire 0 6 :: List.replicate 120 (.checkUdpRateLimit (seconds 1)) ++
    [.tryClose, .shutDown, .cleanup, .markReleased, .setActive false]

/-- The next client, connected at once, is throttled on its first datagram; a new
object would have admitted 120. -/
theorem drained_not_like_new :
    ¬ ∀ later, Timely (seconds 1) later →
      observations {} ((Session.used {} 0 drainedHistory).handOut (seconds 1) 7) later =
        observations {} ((Session.construct (seconds 1)).handOut (seconds 1) 7) later := by
  intro same
  have first := same [.checkUdpRateLimit (seconds 1)] (by decide)
  revert first
  decide +kernel

namespace Session

/-- Only a datagram touches the bucket. -/
theorem perform_udpTokens (config : Config) (s : Session) (op : SessionOp) :
    (s.perform config op).1.udpTokens = s.udpTokens ∨ ∃ now, op = .checkUdpRateLimit now := by
  cases op with
  | checkUdpRateLimit now => exact .inr ⟨now, rfl⟩
  | postTask task =>
      refine .inl ?_
      simp only [perform, pushTask, runNextTask]
      split
      · rfl
      · split
        · rfl
        · split <;> rfl
  | runNextTask =>
      refine .inl ?_
      simp only [perform, runNextTask]
      split <;> rfl
  | tryActivate =>
      refine .inl ?_
      simp only [perform, tryActivate]
      split <;> rfl
  | setActive active =>
      refine .inl ?_
      simp only [perform, setActive, tryActivate]
      split <;> split <;> rfl
  | tryClose =>
      refine .inl ?_
      simp only [perform, tryClose]
      split <;> rfl
  | acquire now sessionId => exact .inl (handOut_udpTokens now sessionId s)
  | _ => exact .inl rfl

end Session

namespace Trial

variable (config : Config)

theorem startWrite_udpTokens (t : Trial) :
    t.startWrite.1.session.udpTokens = t.session.udpTokens := by
  by_cases closed : t.session.state = .closed
  · rw [startWrite_closed closed]
  · cases queue : t.session.writeQueue with
    | nil => rw [startWrite_nil closed queue]
    | cons message rest => rw [startWrite_cons closed queue]

theorem next_udpTokens (t : Trial) (op : SessionOp) :
    (t.next config op).session.udpTokens = t.session.udpTokens ∨
      ∃ now, op = .checkUdpRateLimit now := by
  cases op with
  | enqueueWrite message =>
      refine .inl ?_
      show (t.session.enqueueWrite config message).1.udpTokens = _
      obtain ⟨queue, count, entered⟩ := t.session.enqueueWrite_eq config message
      rw [entered]
  | doWriteQueue => exact .inl t.startWrite_udpTokens
  | writeDone nth failed =>
      refine .inl ?_
      show (t.writeDone nth failed).1.session.udpTokens = _
      cases started : t.captured[nth]? with
      | none => simp only [writeDone, started]
      | some generation =>
          rw [writeDone_eq started]
          split
          · rfl
          · split
            · rfl
            · exact t.popped.startWrite_udpTokens
  | _ => exact t.session.perform_udpTokens config _

/-- A bucket holds at most 120, and less after a datagram. -/
theorem next_check_lt {now : Time} {t : Trial} (atMost : t.session.udpTokens ≤ 120) :
    (t.next config (.checkUdpRateLimit now)).session.udpTokens < 120 := by
  rw [next_check]
  show max ((t.session.refilled now).udpTokens - (1 : Nat))
    (min (t.session.refilled now).udpTokens 0) < 120
  have held : (t.session.refilled now).udpTokens ≤ 120 := by
    by_cases due : tokenTime ≤ t.session.sinceRefill now
    · exact (Session.refilled_due due).2.1
    · rw [Session.refilled_early (by omega)]
      exact atMost
  omega

theorem next_lt {t : Trial} (op : SessionOp) (less : t.session.udpTokens < 120) :
    (t.next config op).session.udpTokens < 120 := by
  rcases t.next_udpTokens config op with same | ⟨now, rfl⟩
  · rwa [same]
  · exact next_check_lt config (by omega)

theorem next_le {t : Trial} (op : SessionOp) (atMost : t.session.udpTokens ≤ 120) :
    (t.next config op).session.udpTokens ≤ 120 := by
  rcases t.next_udpTokens config op with same | ⟨now, rfl⟩
  · rwa [same]
  · exact Int.le_of_lt (next_check_lt config atMost)

end Trial

/-- **A datagram is never forgotten.**  An object that was once asked to admit one
is no longer as good as a new object, however often it is handed out again. -/
theorem used_not_fullBucket (config : Config) (built : Time) (history : List SessionOp)
    {asked : Time} (member : .checkUdpRateLimit asked ∈ history) (now : Time) :
    ¬ (Session.used config built history).FullBucket now := by
  obtain ⟨front, back, rfl⟩ := List.append_of_mem member
  have before : (run (Trial.next config) ⟨Session.construct built, []⟩ front).session.udpTokens ≤
      120 :=
    @run_invariant _ _ _ _ (fun t : Trial => t.session.udpTokens ≤ 120)
      (fun t op atMost _ => t.next_le config op atMost) _ (Int.le_refl 120) front
      (along_true _ front)
  have asking : ((run (Trial.next config) ⟨Session.construct built, []⟩ front).next config
      (.checkUdpRateLimit asked)).session.udpTokens < 120 := Trial.next_check_lt config before
  have after := @run_invariant _ _ _ _ (fun t : Trial => t.session.udpTokens < 120)
    (fun t op less _ => t.next_lt config op less) _ asking back (along_true _ back)
  intro full
  have tokens := full.1
  rw [Session.used, run_append, run_cons] at tokens
  omega

end GameServer.Kernel
