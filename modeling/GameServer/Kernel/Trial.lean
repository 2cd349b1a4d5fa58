/-
# Kernel.Trial -- a `Session` under any operations, and its answers

An object is tried with the operations of its class, one after the other, and every
answer is noted.  The generation is not asked for; the completion of a write compares
it with the one the write captured.

`Alike.step` is the point of the module: objects that differ in fields no operation
answers from give the same answers, and go on to differ in those fields only.
-/
import GameServer.Kernel.Bucket
import GameServer.Theory.Observation

namespace GameServer.Kernel

set_option autoImplicit false

open Wire Theory.Runs Theory.Observation

/-! ## Operations -/

/-- The constructor, with the initialisers of the members. -/
def Session.construct (now : Time) : Session :=
  { lastAliveTime := now, lastUdpTokenRefill := now }

inductive SessionOp where
  | checkUdpRateLimit (now : Time)
  | isUdpTokenValid (now : Time)
  | setUdpToken (now : Time) (token : String)
  | clearUdpToken
  | setUdpTokenTtl (secs : Int)
  | setUdpEndpoint (e : Endpoint)
  | clearUdpEndpoint
  | updateUdpAliveTime (now : Time)
  | enqueueWrite (message : String)
  | doWriteQueue
  /-- The `nth` write started completes. -/
  | writeDone (nth : Nat) (failed : Bool)
  | append (data : Bytes)
  | extractMessage
  | tryAcquireRead
  | releaseRead
  /-- The body of `post_task`. -/
  | postTask (task : Task)
  | runNextTask
  /-- The wait of the login timer ends without an error. -/
  | loginTimeout
  | onNicknameRegistered
  | setNickname (nickname : String)
  | setZoneId (zoneId : Int)
  | updateAliveTime (now : Time)
  | tryActivate
  | setActive (active : Bool)
  | tryClose
  | shutDown
  | cleanup
  | markReleased
  /-- `SessionPool::acquire` hands the object out once more. -/
  | acquire (now : Time) (sessionId : Int)
  /-- The getters. -/
  | get
deriving DecidableEq, Repr

/-- When the operation reads the clock, if it does. -/
def SessionOp.time : SessionOp → Option Time
  | .checkUdpRateLimit now => some now
  | .isUdpTokenValid now => some now
  | .setUdpToken now _ => some now
  | .updateUdpAliveTime now => some now
  | .updateAliveTime now => some now
  | .acquire now _ => some now
  | _ => none

/-- The clock never goes back, from `now` on. -/
def Timely (now : Time) (ops : List SessionOp) : Prop :=
  (now :: ops.filterMap SessionOp.time).Pairwise (· ≤ ·)

instance (now : Time) (ops : List SessionOp) : Decidable (Timely now ops) :=
  inferInstanceAs (Decidable (List.Pairwise _ _))

/-- What the getters return. -/
structure Getters where
  sessionId : Int
  socketOpen : Bool
  nickname : String
  readPending : Bool
  nicknameRegistered : Bool
  lastAliveTime : Time
  state : SessionState
  life : LifeState
  closed : Bool
  udpEndpoint : Option Endpoint
  lastUdpAliveTime : Time
  udpToken : String
  zoneId : Int
deriving DecidableEq, Repr

inductive Answer where
  | nothing
  | bool (b : Bool)
  /-- A message given to `async_write`, if any. -/
  | written (message : Option String)
  /-- A completion of another generation. -/
  | stale
  /-- `extract_message`, and `was_last_clear_by_invalid_length` after it. -/
  | extracted (message : Option Bytes) (cleared : Bool)
  | task (task : Option Task)
  | getters (g : Getters)
deriving DecidableEq, Repr

namespace Session

variable (config : Config)

def getters (s : Session) : Getters where
  sessionId := s.sessionId
  socketOpen := s.socketOpen
  nickname := s.nickname
  readPending := s.readPending
  nicknameRegistered := s.nicknameRegistered
  lastAliveTime := s.lastAliveTime
  state := s.state
  life := s.life
  closed := s.isClosed
  udpEndpoint := s.udpEndpoint
  lastUdpAliveTime := s.lastUdpAliveTime
  udpToken := s.udpToken
  zoneId := s.zoneId

/-- The body of `post_task`: a full queue ends in `close_session`. -/
def pushTask (task : Task) (s : Session) : Session × Answer :=
  if config.maxTaskQueue ≤ s.taskQueue.length then (s, .bool true)
  else
    let queued := { s with taskQueue := s.taskQueue ++ [task], taskRunning := true }
    if s.taskRunning then (queued, .bool false)
    else (queued.runNextTask.1, .task queued.runNextTask.2)

/-- An operation other than those of the write queue. -/
def perform (s : Session) : SessionOp → Session × Answer
  | .checkUdpRateLimit now => ((s.checkUdpRateLimit now).1, .bool (s.checkUdpRateLimit now).2)
  | .isUdpTokenValid now => (s, .bool (s.isUdpTokenValid now))
  | .setUdpToken now token => (s.setUdpToken config now token, .nothing)
  | .clearUdpToken => (s.clearUdpToken, .nothing)
  | .setUdpTokenTtl secs => (s.setUdpTokenTtl secs, .nothing)
  | .setUdpEndpoint e => (s.setUdpEndpoint e, .nothing)
  | .clearUdpEndpoint => (s.clearUdpEndpoint, .nothing)
  | .updateUdpAliveTime now => (s.updateUdpAliveTime now, .nothing)
  | .append data => ({ s with msgBuf := s.msgBuf.append data }, .nothing)
  | .extractMessage =>
      ({ s with msgBuf := s.msgBuf.extractMessage.2 },
        .extracted s.msgBuf.extractMessage.1 s.msgBuf.extractMessage.2.lastClearByInvalidLength)
  | .tryAcquireRead => ({ s with readPending := true }, .bool !s.readPending)
  | .releaseRead => ({ s with readPending := false }, .nothing)
  | .postTask task => s.pushTask config task
  | .runNextTask => (s.runNextTask.1, .task s.runNextTask.2)
  | .loginTimeout => (s, .bool !s.nicknameRegistered)
  | .onNicknameRegistered => (s.onNicknameRegistered, .nothing)
  | .setNickname nickname => ({ s with nickname := nickname }, .nothing)
  | .setZoneId zoneId => ({ s with zoneId := zoneId }, .nothing)
  | .updateAliveTime now => ({ s with lastAliveTime := now }, .nothing)
  | .tryActivate => (s.tryActivate, .bool (decide (s.life = .idle)))
  | .setActive active => (s.setActive active, .nothing)
  | .tryClose => (s.tryClose.getD s, .bool s.tryClose.isSome)
  | .shutDown => (s.shutDown, .nothing)
  | .cleanup => (s.cleanup, .nothing)
  | .markReleased => (s.markReleased, .nothing)
  | .acquire now sessionId => (s.handOut now sessionId, .nothing)
  | .get => (s, .getters s.getters)
  | .enqueueWrite _ | .doWriteQueue | .writeDone _ _ => (s, .nothing)

end Session

/-- An object under trial, and the generations its started writes captured. -/
structure Trial where
  session : Session
  captured : List Nat := []
deriving DecidableEq, Repr

namespace Trial

variable (config : Config)

/-- `do_write_queue`. -/
def startWrite (t : Trial) : Trial × Answer :=
  match t.session.doWriteQueue with
  | (x, none) => ({ t with session := x }, .written none)
  | (x, some message) => (⟨x, t.captured ++ [x.generation]⟩, .written (some message))

/-- The handler of `async_write`. -/
def writeDone (t : Trial) (nth : Nat) (failed : Bool) : Trial × Answer :=
  match t.captured[nth]? with
  | none => (t, .nothing)
  | some generation =>
      if generation ≠ t.session.generation then (t, .stale)
      else if failed then (t, .bool true)
      else
        { t with session := { t.session with writeQueue := t.session.writeQueue.tail } }.startWrite

/-- One operation, and what it answers. -/
def perform (t : Trial) : SessionOp → Trial × Answer
  | .enqueueWrite message =>
      ({ t with session := (t.session.enqueueWrite config message).1 },
        .bool (t.session.enqueueWrite config message).2)
  | .doWriteQueue => t.startWrite
  | .writeDone nth failed => t.writeDone nth failed
  | op => ({ t with session := (t.session.perform config op).1 }, (t.session.perform config op).2)

def next (t : Trial) (op : SessionOp) : Trial := (t.perform config op).1

def answer (t : Trial) (op : SessionOp) : Answer := (t.perform config op).2

end Trial

/-- What the object answers to each of the operations. -/
abbrev observations (config : Config) (s : Session) (ops : List SessionOp) : List Answer :=
  answers (Trial.next config) (Trial.answer config) ⟨s, []⟩ ops

/-! ## Fields nothing reads -/

namespace Session

variable (config : Config)

/-- The object without the fields that no operation outside the write queue answers
from. -/
def visible (s : Session) : Session :=
  { s with
    strand := 0
    generation := 0
    writeInProgress := false
    writeQueueOverflowCount := 0
    msgBuf := { s.msgBuf with lastClearByInvalidLength := false } }

theorem refilled_visible (now : Time) (s : Session) :
    (s.refilled now).visible = s.visible.refilled now := by
  by_cases due : 0 < s.refill now
  · have due' : 0 < s.visible.refill now := due
    rw [refilled, refilled, if_pos due, if_pos due']
    rfl
  · have due' : ¬ 0 < s.visible.refill now := due
    rw [refilled, refilled, if_neg due, if_neg due']

theorem checkUdpRateLimit_visible (now : Time) (s : Session) :
    (s.checkUdpRateLimit now).1.visible = (s.visible.checkUdpRateLimit now).1.visible ∧
      (s.checkUdpRateLimit now).2 = (s.visible.checkUdpRateLimit now).2 := by
  rw [checkUdpRateLimit_eq, checkUdpRateLimit_eq, ← refilled_visible]
  by_cases enough : 0 < (s.refilled now).udpTokens
  · have enough' : 0 < (s.refilled now).visible.udpTokens := enough
    rw [if_pos enough, if_pos enough']
    exact ⟨rfl, rfl⟩
  · have enough' : ¬ 0 < (s.refilled now).visible.udpTokens := enough
    rw [if_neg enough, if_neg enough']
    exact ⟨rfl, rfl⟩

theorem runNextTask_visible (s : Session) :
    s.runNextTask.1.visible = s.visible.runNextTask.1.visible ∧
      s.runNextTask.2 = s.visible.runNextTask.2 := by
  have queue : s.visible.taskQueue = s.taskQueue := rfl
  rw [runNextTask, runNextTask, queue]
  cases s.taskQueue with
  | nil => exact ⟨rfl, rfl⟩
  | cons task rest => exact ⟨rfl, rfl⟩

theorem pushTask_visible (task : Task) (s : Session) :
    (s.pushTask config task).1.visible = (s.visible.pushTask config task).1.visible ∧
      (s.pushTask config task).2 = (s.visible.pushTask config task).2 := by
  have queue : s.visible.taskQueue = s.taskQueue := rfl
  have running : s.visible.taskRunning = s.taskRunning := rfl
  rw [pushTask, pushTask, queue, running]
  by_cases full : config.maxTaskQueue ≤ s.taskQueue.length
  · rw [if_pos full, if_pos full]
    exact ⟨rfl, rfl⟩
  · rw [if_neg full, if_neg full]
    cases s.taskRunning with
    | true => exact ⟨rfl, rfl⟩
    | false =>
        have ⟨same, next⟩ := runNextTask_visible
          { s with taskQueue := s.taskQueue ++ [task], taskRunning := true }
        exact ⟨same, congrArg Answer.task next⟩

theorem tryActivate_visible (s : Session) : s.tryActivate.visible = s.visible.tryActivate := by
  by_cases idle : s.life = .idle
  · have idle' : s.visible.life = .idle := idle
    rw [tryActivate, tryActivate, if_pos idle, if_pos idle']
    rfl
  · have idle' : ¬ s.visible.life = .idle := idle
    rw [tryActivate, tryActivate, if_neg idle, if_neg idle']

theorem setActive_visible (active : Bool) (s : Session) :
    (s.setActive active).visible = s.visible.setActive active := by
  cases active with
  | true => exact tryActivate_visible s
  | false =>
      by_cases inUse : s.life = .active
      · have inUse' : s.visible.life = .active := inUse
        simp only [setActive, if_pos inUse, if_pos inUse']
        rfl
      · have inUse' : ¬ s.visible.life = .active := inUse
        simp only [setActive, if_neg inUse, if_neg inUse']
        rfl

theorem tryClose_visible (s : Session) :
    (s.tryClose.getD s).visible = (s.visible.tryClose.getD s.visible).visible ∧
      s.tryClose.isSome = s.visible.tryClose.isSome := by
  by_cases closes : s.life = .active ∨ s.life = .idle
  · have closes' : s.visible.life = .active ∨ s.visible.life = .idle := closes
    rw [tryClose, tryClose, if_pos closes, if_pos closes']
    exact ⟨rfl, rfl⟩
  · have closes' : ¬ (s.visible.life = .active ∨ s.visible.life = .idle) := closes
    rw [tryClose, tryClose, if_neg closes, if_neg closes']
    exact ⟨rfl, rfl⟩

theorem handOut_visible (now : Time) (sessionId : Int) (s : Session) :
    (s.handOut now sessionId).visible = (s.visible.handOut now sessionId).visible := by
  have cleanup_visible (x y : Session) (same : x.visible = y.visible) :
      x.cleanup.visible = y.cleanup.visible :=
    calc x.cleanup.visible = x.visible.cleanup.visible := rfl
      _ = y.visible.cleanup.visible := by rw [same]
      _ = y.cleanup.visible := rfl
  refine cleanup_visible _ _ ?_
  rw [setActive_visible, setActive_visible]
  rfl

/-- No operation outside the write queue reads a field that `visible` leaves out. -/
theorem perform_visible (s : Session) (op : SessionOp) :
    (s.perform config op).1.visible = (s.visible.perform config op).1.visible ∧
      (s.perform config op).2 = (s.visible.perform config op).2 := by
  cases op with
  | checkUdpRateLimit now =>
      have ⟨same, admitted⟩ := checkUdpRateLimit_visible now s
      exact ⟨same, congrArg Answer.bool admitted⟩
  | postTask task => exact pushTask_visible config task s
  | runNextTask =>
      have ⟨same, task⟩ := runNextTask_visible s
      exact ⟨same, congrArg Answer.task task⟩
  | tryActivate =>
      show s.tryActivate.visible = s.visible.tryActivate.visible ∧ _
      rw [← tryActivate_visible]
      exact ⟨rfl, rfl⟩
  | setActive active =>
      show (s.setActive active).visible = (s.visible.setActive active).visible ∧ _
      rw [← setActive_visible]
      exact ⟨rfl, rfl⟩
  | tryClose =>
      have ⟨same, closing⟩ := tryClose_visible s
      exact ⟨same, congrArg Answer.bool closing⟩
  | acquire now sessionId => exact ⟨handOut_visible now sessionId s, rfl⟩
  | _ => exact ⟨rfl, rfl⟩

/-- How far an operation takes the generation. -/
def generations : SessionOp → Nat
  | .cleanup => 1
  | .acquire _ _ => 2
  | _ => 0

theorem setActive_rest (active : Bool) (s : Session) :
    (s.setActive active).generation = s.generation ∧
      (s.setActive active).writeQueueOverflowCount = s.writeQueueOverflowCount ∧
      (s.setActive active).writeQueue = s.writeQueue := by
  cases active with
  | true =>
      show s.tryActivate.generation = _ ∧ s.tryActivate.writeQueueOverflowCount = _ ∧
        s.tryActivate.writeQueue = _
      rw [tryActivate]
      split <;> exact ⟨rfl, rfl, rfl⟩
  | false =>
      by_cases inUse : s.life = .active
      · simp [setActive, inUse]
      · simp [setActive, inUse]

/-- What an operation outside the write queue does to the fields its answers do not
depend on. -/
theorem perform_rest (s : Session) (op : SessionOp) :
    (s.perform config op).1.generation = s.generation + generations op ∧
      (s.perform config op).1.writeQueueOverflowCount = s.writeQueueOverflowCount ∧
      ((s.perform config op).1.writeQueue = s.writeQueue ∨
        (s.perform config op).1.writeQueue = []) := by
  cases op with
  | checkUdpRateLimit now =>
      simp only [perform, checkUdpRateLimit, generations]
      split <;> split <;> exact ⟨rfl, rfl, .inl rfl⟩
  | postTask task =>
      simp only [perform, pushTask, runNextTask, generations]
      split
      · exact ⟨rfl, rfl, .inl rfl⟩
      · split
        · exact ⟨rfl, rfl, .inl rfl⟩
        · split <;> exact ⟨rfl, rfl, .inl rfl⟩
  | runNextTask =>
      simp only [perform, runNextTask, generations]
      split <;> exact ⟨rfl, rfl, .inl rfl⟩
  | tryActivate =>
      have ⟨generation, count, queue⟩ := setActive_rest true s
      exact ⟨generation, count, .inl queue⟩
  | setActive active =>
      have ⟨generation, count, queue⟩ := setActive_rest active s
      exact ⟨generation, count, .inl queue⟩
  | tryClose =>
      simp only [perform, tryClose, generations]
      split <;> exact ⟨rfl, rfl, .inl rfl⟩
  | cleanup => exact ⟨rfl, rfl, .inr rfl⟩
  | acquire now sessionId =>
      have ⟨generation, count, _⟩ := setActive_rest true (s.reset now sessionId)
      exact ⟨congrArg (· + 1) generation, count, .inr rfl⟩
  | _ => exact ⟨rfl, rfl, .inl rfl⟩

end Session

namespace Trial

variable {t : Trial}

theorem startWrite_closed (closed : t.session.state = .closed) :
    t.startWrite = (t, .written none) := by
  simp [startWrite, Session.doWriteQueue, closed]

theorem startWrite_nil (running : t.session.state ≠ .closed) (empty : t.session.writeQueue = []) :
    t.startWrite =
      ({ t with session := { t.session with writeInProgress := false } }, .written none) := by
  simp [startWrite, Session.doWriteQueue, running, empty]

theorem startWrite_cons (running : t.session.state ≠ .closed) {message : String}
    {rest : List String} (queue : t.session.writeQueue = message :: rest) :
    t.startWrite =
      ({ t with captured := t.captured ++ [t.session.generation] }, .written (some message)) := by
  simp [startWrite, Session.doWriteQueue, running, queue]

/-- The object with the message of a completed write off its queue. -/
def popped (t : Trial) : Trial :=
  { t with session := { t.session with writeQueue := t.session.writeQueue.tail } }

theorem writeDone_eq {nth generation : Nat} (started : t.captured[nth]? = some generation)
    (failed : Bool) :
    t.writeDone nth failed =
      if generation ≠ t.session.generation then (t, .stale)
      else if failed then (t, .bool true)
      else t.popped.startWrite := by
  simp [writeDone, started, popped]

end Trial

/-- Two objects no operation can tell apart: one is ahead in generations, and its
overflow count may be another as long as it is not asked for. -/
structure Alike (config : Config) (ahead : Nat) (a b : Trial) : Prop where
  visible : a.session.visible = b.session.visible
  generation : a.session.generation = b.session.generation + ahead
  captured : a.captured = b.captured.map (· + ahead)
  overflow :
    a.session.writeQueueOverflowCount = b.session.writeQueueOverflowCount ∨
      config.writeQueueOverflowLimit ≤ 1 ∨
      0 < config.maxWriteQueueSize ∧ b.session.writeQueue = []

namespace Alike

variable {config : Config} {ahead : Nat} {a b : Trial}

theorem writeQueue (alike : Alike config ahead a b) :
    a.session.writeQueue = b.session.writeQueue := by
  show a.session.visible.writeQueue = b.session.visible.writeQueue
  rw [alike.visible]

theorem state (alike : Alike config ahead a b) : a.session.state = b.session.state := by
  show a.session.visible.state = b.session.visible.state
  rw [alike.visible]

/-- The write queues and the counts of alike objects changed. -/
theorem withQueue (alike : Alike config ahead a b) (queue : List String) (n m : Nat)
    (overflow : n = m ∨ config.writeQueueOverflowLimit ≤ 1 ∨
      0 < config.maxWriteQueueSize ∧ queue = []) :
    Alike config ahead
      { a with session :=
        { a.session with writeQueue := queue, writeQueueOverflowCount := n } }
      { b with session :=
        { b.session with writeQueue := queue, writeQueueOverflowCount := m } } where
  visible := by
    show ({ a.session.visible with writeQueue := queue } : Session) =
      { b.session.visible with writeQueue := queue }
    rw [alike.visible]
  generation := alike.generation
  captured := alike.captured
  overflow := overflow

/-- An operation outside the write queue. -/
theorem perform (alike : Alike config ahead a b) (op : SessionOp) :
    Alike config ahead { a with session := (a.session.perform config op).1 }
        { b with session := (b.session.perform config op).1 } ∧
      (a.session.perform config op).2 = (b.session.perform config op).2 := by
  have ⟨visible, answer⟩ := a.session.perform_visible config op
  have ⟨visible', answer'⟩ := b.session.perform_visible config op
  have ⟨generation, count, queue⟩ := a.session.perform_rest config op
  have ⟨generation', count', queue'⟩ := b.session.perform_rest config op
  have ahead_of := alike.generation
  refine ⟨⟨?_, ?_, alike.captured, ?_⟩, ?_⟩
  · show (a.session.perform config op).1.visible = (b.session.perform config op).1.visible
    rw [visible, visible', alike.visible]
  · show (a.session.perform config op).1.generation =
      (b.session.perform config op).1.generation + ahead
    omega
  · show (a.session.perform config op).1.writeQueueOverflowCount =
      (b.session.perform config op).1.writeQueueOverflowCount ∨ _ ∨ _ ∧
        (b.session.perform config op).1.writeQueue = []
    rw [count, count']
    rcases alike.overflow with same | small | ⟨room, empty⟩
    · exact .inl same
    · exact .inr (.inl small)
    · refine .inr (.inr ⟨room, ?_⟩)
      rcases queue' with kept | cleared
      · rw [kept, empty]
      · exact cleared
  · rw [answer, answer', alike.visible]

/-- `enqueue_write`: the first message a queue with room takes clears the count. -/
theorem enqueueWrite (alike : Alike config ahead a b) (message : String) :
    Alike config ahead { a with session := (a.session.enqueueWrite config message).1 }
        { b with session := (b.session.enqueueWrite config message).1 } ∧
      (a.session.enqueueWrite config message).2 = (b.session.enqueueWrite config message).2 := by
  by_cases full : config.maxWriteQueueSize ≤ a.session.writeQueue.length
  · have full' : config.maxWriteQueueSize ≤ b.session.writeQueue.length := by
      rwa [← alike.writeQueue]
    have drop (n m : Nat) := alike.withQueue (b.session.writeQueue.tail) n m
    have replace (n m : Nat) := alike.withQueue (b.session.writeQueue.tail ++ [message]) n m
    rcases alike.overflow with same | small | ⟨room, empty⟩
    · rcases b.session.enqueueWrite_cases config message with
        ⟨-, limit, entered⟩ | ⟨-, below, entered⟩ | ⟨room, -⟩
      · rw [entered, Session.enqueueWrite_overflows message full (by rwa [same]), same,
          alike.writeQueue]
        exact ⟨drop _ _ (.inl rfl), rfl⟩
      · rw [entered, Session.enqueueWrite_drops message full (by rwa [same]), same,
          alike.writeQueue]
        exact ⟨replace _ _ (.inl rfl), rfl⟩
      · exact absurd full' (Nat.not_le.mpr room)
    · -- with a limit of at most one a full queue ends the session whatever the count
      rw [Session.enqueueWrite_overflows message full (by omega),
        Session.enqueueWrite_overflows message full' (by omega), alike.writeQueue]
      exact ⟨drop _ _ (.inr (.inl small)), rfl⟩
    · rw [empty] at full'
      simp at full'
      omega
  · have room := Nat.not_le.mp full
    have room' : b.session.writeQueue.length < config.maxWriteQueueSize := by
      rwa [← alike.writeQueue]
    rw [Session.enqueueWrite_appends message room, Session.enqueueWrite_appends message room',
      alike.writeQueue]
    exact ⟨alike.withQueue _ 0 0 (.inl rfl), rfl⟩

/-- `do_write_queue`. -/
theorem startWrite (alike : Alike config ahead a b) :
    Alike config ahead a.startWrite.1 b.startWrite.1 ∧ a.startWrite.2 = b.startWrite.2 := by
  have generation := alike.generation
  by_cases closed : b.session.state = .closed
  · rw [Trial.startWrite_closed closed, Trial.startWrite_closed (alike.state.trans closed)]
    exact ⟨alike, rfl⟩
  · have running : a.session.state ≠ .closed := by rwa [alike.state]
    cases queue : b.session.writeQueue with
    | nil =>
        rw [Trial.startWrite_nil closed queue,
          Trial.startWrite_nil running (alike.writeQueue.trans queue)]
        exact ⟨⟨alike.visible, generation, alike.captured, alike.overflow⟩, rfl⟩
    | cons message rest =>
        rw [Trial.startWrite_cons closed queue,
          Trial.startWrite_cons running (alike.writeQueue.trans queue)]
        refine ⟨⟨alike.visible, generation, ?_, alike.overflow⟩, rfl⟩
        simp [alike.captured, generation]

theorem popped (alike : Alike config ahead a b) : Alike config ahead a.popped b.popped := by
  have tails := alike.withQueue b.session.writeQueue.tail a.session.writeQueueOverflowCount
    b.session.writeQueueOverflowCount
  rw [Trial.popped, Trial.popped, alike.writeQueue]
  apply tails
  rcases alike.overflow with same | small | ⟨room, empty⟩
  · exact .inl same
  · exact .inr (.inl small)
  · exact .inr (.inr ⟨room, by rw [empty]; rfl⟩)

/-- The handler of `async_write`: the generations an object captured are as far
ahead as the object is. -/
theorem writeDone (alike : Alike config ahead a b) (nth : Nat) (failed : Bool) :
    Alike config ahead (a.writeDone nth failed).1 (b.writeDone nth failed).1 ∧
      (a.writeDone nth failed).2 = (b.writeDone nth failed).2 := by
  have generation := alike.generation
  have captured : a.captured[nth]? = (b.captured[nth]?).map (· + ahead) := by
    rw [alike.captured, List.getElem?_map]
  cases started : b.captured[nth]? with
  | none =>
      have never : a.captured[nth]? = none := by rw [captured, started]; rfl
      simp only [Trial.writeDone, started, never]
      exact ⟨alike, trivial⟩
  | some g =>
      have started' : a.captured[nth]? = some (g + ahead) := by rw [captured, started]; rfl
      rw [Trial.writeDone_eq started, Trial.writeDone_eq started']
      by_cases stale : g ≠ b.session.generation
      · rw [if_pos stale, if_pos (by omega)]
        exact ⟨alike, rfl⟩
      · rw [if_neg stale, if_neg (by omega)]
        cases failed with
        | true => exact ⟨alike, rfl⟩
        | false => exact alike.popped.startWrite

/-- **One operation.**  Objects no operation can tell apart give one answer to it,
and stay so. -/
theorem step (alike : Alike config ahead a b) (op : SessionOp) :
    Alike config ahead (a.next config op) (b.next config op) ∧
      a.answer config op = b.answer config op := by
  cases op with
  | enqueueWrite message =>
      have ⟨after, overflow⟩ := alike.enqueueWrite message
      exact ⟨after, congrArg Answer.bool overflow⟩
  | doWriteQueue => exact alike.startWrite
  | writeDone nth failed => exact alike.writeDone nth failed
  | _ => exact alike.perform _

end Alike

end GameServer.Kernel
