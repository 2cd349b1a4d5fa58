/-
# Kernel.Isolation -- what an earlier use of an object does to the next one

A read completion, a login timer, a message posted, the end of a `close_session`: each
may run when the object already serves another connection, and each works on the
object as it finds it.  Only the handler of `async_write` compares generations.

* `isolated_iff` -- in every run, leftovers spare the current connection if and
  only if each meets a state in which it has nothing to do;
* `leftovers_reach_next` -- each kind of leftover, reaching the next connection.
-/
import GameServer.Kernel.Slot

namespace GameServer.Kernel

set_option autoImplicit false

open Wire Theory.Runs

/-! ## What is asked of a leftover -/

/-- What a leftover of an earlier use must leave to the current connection: its
socket, its fields, its entry in the manager, and the messages it is sent. -/
structure Connection where
  isOpen : Bool
  nickname : String
  readPending : Bool
  received : Bytes
  tasks : List Task
  registered : Bool
  filed : Bool
  delivered : List Delivery
deriving DecidableEq, Repr

namespace Slot

def connection (slot : Slot) : Connection where
  isOpen := slot.session.socketOpen
  nickname := slot.session.nickname
  readPending := slot.session.readPending
  received := slot.session.msgBuf.buffer
  tasks := slot.session.taskQueue
  registered := slot.session.nicknameRegistered
  filed := slot.filed
  delivered := slot.delivered

/-- The event comes of an earlier use: a read completion (its loop and its
`run_next_task` included), a login timer, a message posted, the end of a close. -/
def Leftover (slot : Slot) : SlotEvent → Prop
  | .readDone op _ => op.use ≠ slot.session.strand
  | .handlerStep use _ => use ≠ slot.session.strand
  | .readRest use => use ≠ slot.session.strand
  | .loginTimer use _ => use ≠ slot.session.strand
  | .post ⟨caller, _, .write _⟩ => caller ≠ slot.session.strand
  | .closeTail t => t.use ≠ slot.session.strand
  | _ => False

/-- A `close_session` would not get past its guard, or finds the socket closed and the
manager without the object. -/
def CloseSpares (slot : Slot) : Prop :=
  slot.session.life ≠ .active ∧ slot.session.life ≠ .idle ∨
    slot.session.socketOpen = false ∧ slot.filed = false

/-- A leftover has nothing to do, by kind: a read aborted, or failed on an object
already closed, without a read flag to clear; a loop without a message, on a closed
object or one that reads already; no task to run; a timer cancelled or late; a
message dropped; nothing for `cleanup` to clear. -/
def Harmless (config : Config) (slot : Slot) : SlotEvent → Prop
  | .readDone _ (.data _) => False
  | .readDone _ .aborted => slot.session.readPending = false
  | .readDone _ _ => slot.session.readPending = false ∧ slot.CloseSpares
  | .handlerStep _ _ =>
      slot.session.msgBuf.extractMessage.1 = none ∧
        slot.session.msgBuf.extractMessage.2.buffer = slot.session.msgBuf.buffer ∧
        (slot.session.state = .closed ∨ slot.session.readPending = true)
  | .readRest _ => slot.session.taskQueue = []
  | .loginTimer _ cancelled =>
      cancelled = true ∨ slot.session.nicknameRegistered = true ∨ slot.CloseSpares
  | .post _ =>
      config.maxWriteQueueSize ≤ slot.session.writeQueue.length ∧
        config.writeQueueOverflowLimit ≤ slot.session.writeQueueOverflowCount + 1 ∧
        slot.CloseSpares
  | .closeTail _ =>
      slot.session.nickname = "" ∧ slot.session.readPending = false ∧
        slot.session.taskQueue = [] ∧ slot.session.nicknameRegistered = false
  | _ => True

/-- The leftover leaves the connection as it is. -/
def Isolated (config : Config) (slot : Slot) (e : SlotEvent) : Prop :=
  (slot.step config e).connection = slot.connection

instance (slot : Slot) : ∀ e, Decidable (slot.Leftover e)
  | .readDone _ _ => inferInstanceAs (Decidable (_ ≠ _))
  | .handlerStep _ _ => inferInstanceAs (Decidable (_ ≠ _))
  | .readRest _ => inferInstanceAs (Decidable (_ ≠ _))
  | .loginTimer _ _ => inferInstanceAs (Decidable (_ ≠ _))
  | .post ⟨_, _, .write _⟩ => inferInstanceAs (Decidable (_ ≠ _))
  | .post ⟨_, _, .task _⟩ => inferInstanceAs (Decidable False)
  | .closeTail _ => inferInstanceAs (Decidable (_ ≠ _))
  | .acquire _ _ => inferInstanceAs (Decidable False)
  | .start _ => inferInstanceAs (Decidable False)
  | .writeDone _ _ => inferInstanceAs (Decidable False)
  | .postWrite _ => inferInstanceAs (Decidable False)
  | .close => inferInstanceAs (Decidable False)
  | .login _ _ => inferInstanceAs (Decidable False)
  | .displaced => inferInstanceAs (Decidable False)
  | .removal => inferInstanceAs (Decidable False)

instance (config : Config) (slot : Slot) (e : SlotEvent) : Decidable (Isolated config slot e) :=
  inferInstanceAs (Decidable (_ = _))

variable {config : Config} {slot : Slot}

/-! ## The methods and the connection -/

theorem doWriteQueue_connection (slot : Slot) :
    slot.doWriteQueue.connection = slot.connection := by
  unfold doWriteQueue Session.doWriteQueue
  split <;> rename_i written
  · split at written
    · cases written; rfl
    · split at written <;> cases written; rfl
  · split at written
    · cases written
    · split at written <;> cases written; rfl

/-- What follows a close leaves the connection alone. -/
theorem resume_connection (slot : Slot) (caller : Nat) (after : After) :
    (slot.resume caller after).connection = slot.connection := by
  cases after with
  | writeQueue => exact doWriteQueue_connection _
  | _ => rfl

theorem removed_unfiled (unfiled : slot.filed = false) : slot.removed config = slot := by
  simp [removed, unfiled]

theorem removed_filed (slot : Slot) : (slot.removed config).filed = false := by
  unfold removed
  split
  · dsimp only
    split <;> split <;> rfl
  · simp_all

theorem removed_socketOpen (slot : Slot) :
    (slot.removed config).session.socketOpen = slot.session.socketOpen := by
  unfold removed
  split
  · dsimp only
    split <;> split <;> rfl
  · rfl

theorem removed_received (slot : Slot) :
    (slot.removed config).session.msgBuf = slot.session.msgBuf := by
  unfold removed
  split
  · dsimp only
    split <;> split <;> rfl
  · rfl

theorem removed_readPending (clear : slot.session.readPending = false) :
    (slot.removed config).session.readPending = false := by
  unfold removed
  split
  · dsimp only
    split <;> split <;> first | exact clear | rfl
  · exact clear

theorem tryClose_eq_some {x closing : Session} (tried : x.tryClose = some closing) :
    closing = { x with life := .closing } ∧ (x.life = .active ∨ x.life = .idle) := by
  unfold Session.tryClose at tried
  split at tried
  · rename_i closable
    cases tried
    exact ⟨rfl, closable⟩
  · cases tried

theorem tryClose_eq_none {x : Session} (tried : x.tryClose = none) :
    x.life ≠ .active ∧ x.life ≠ .idle := by
  unfold Session.tryClose at tried
  split at tried
  · cases tried
  · rename_i closable
    exact not_or.mp closable

/-- **What a close does to the connection**: nothing exactly where it spares it. -/
theorem close_connection_iff (slot : Slot) (caller : Nat) (after : After) :
    (slot.close config caller after).connection = slot.connection ↔ slot.CloseSpares := by
  unfold close CloseSpares
  cases tried : slot.session.tryClose with
  | none => simp [resume_connection, tryClose_eq_none tried]
  | some closing =>
      obtain ⟨rfl, closable⟩ := tryClose_eq_some tried
      constructor
      · intro same
        have isOpen := congrArg Connection.isOpen same
        have filed := congrArg Connection.filed same
        simp only [connection, removed_socketOpen, removed_filed] at isOpen filed
        exact .inr ⟨isOpen.symm, filed.symm⟩
      · rintro (⟨busy, unused⟩ | ⟨shut, unfiled⟩)
        · exact absurd closable (not_or.mpr ⟨busy, unused⟩)
        · dsimp only
          rw [removed_unfiled (by exact unfiled)]
          simp [connection, Session.shutDown, Session.finalizeClose, shut]

theorem close_readPending (caller : Nat) (after : After)
    (clear : slot.session.readPending = false) :
    (slot.close config caller after).session.readPending = false := by
  unfold close
  cases tried : slot.session.tryClose with
  | none => exact (congrArg Connection.readPending (resume_connection slot caller after)).trans clear
  | some closing =>
      obtain ⟨rfl, -⟩ := tryClose_eq_some tried
      exact removed_readPending (by exact clear)

/-! ### The receive buffer -/

theorem doWriteQueue_received (slot : Slot) :
    slot.doWriteQueue.session.msgBuf.buffer = slot.session.msgBuf.buffer :=
  congrArg Connection.received (doWriteQueue_connection slot)

theorem resume_received (slot : Slot) (caller : Nat) (after : After) :
    (slot.resume caller after).session.msgBuf.buffer = slot.session.msgBuf.buffer :=
  congrArg Connection.received (resume_connection slot caller after)

theorem close_received (slot : Slot) (caller : Nat) (after : After) :
    (slot.close config caller after).session.msgBuf.buffer = slot.session.msgBuf.buffer := by
  unfold close
  cases tried : slot.session.tryClose with
  | none => exact resume_received slot caller after
  | some closing =>
      obtain ⟨rfl, -⟩ := tryClose_eq_some tried
      exact congrArg MessageBufferManager.buffer (removed_received _)

/-- What the ends of a post keep: an overflow closes the object, otherwise the message is
queued, and an idle queue is started. -/
theorem writeNow_keeps (slot : Slot) (caller : Nat) (message : String) {P : Slot → Prop}
    (dropped : ∀ writeQueue writeQueueOverflowCount idle,
      P ({ slot with
          session := { slot.session with writeQueue, writeQueueOverflowCount } }.close config caller
        (if idle = true then .writeQueue else .nothing)))
    (queued : ∀ writeQueue writeQueueOverflowCount,
      P { slot with
        session := { slot.session with writeQueue, writeQueueOverflowCount }
        delivered := slot.delivered ++ [⟨caller, slot.session.strand, message⟩] })
    (started : ∀ slot', P slot' → P slot'.startWriting) :
    P (slot.writeNow config caller message) := by
  obtain ⟨queue, count, entered⟩ := slot.session.enqueueWrite_eq config message
  simp only [writeNow]
  rcases whole : slot.session.enqueueWrite config message with ⟨x, overflow⟩
  rw [whole] at entered
  cases entered
  dsimp only
  split
  · exact dropped queue count _
  · split
    · exact started _ (queued queue count)
    · exact queued queue count

theorem writeNow_received (slot : Slot) (caller : Nat) (message : String) :
    (slot.writeNow config caller message).session.msgBuf.buffer = slot.session.msgBuf.buffer := by
  refine @writeNow_keeps config slot caller message
    (fun slot' => slot'.session.msgBuf.buffer = slot.session.msgBuf.buffer) ?_ ?_ ?_
  · intro queue count idle
    rw [close_received]
  · intro queue count
    rfl
  · intro slot' same
    exact (doWriteQueue_received _).trans same

theorem postWrite_received (slot : Slot) (here : Option Nat) (message : String) :
    (slot.post config here (.write message)).session.msgBuf.buffer = slot.session.msgBuf.buffer := by
  unfold post
  dsimp only
  split
  · exact writeNow_received slot _ message
  · rfl

theorem told_received (use : Nat) (messages : List String) (slot : Slot) :
    (slot.told config use messages).session.msgBuf.buffer = slot.session.msgBuf.buffer := by
  induction messages generalizing slot with
  | nil => rfl
  | cons message messages ih => exact (ih _).trans (postWrite_received slot (some use) message)

/-- Whatever a message makes the dispatcher do, it does not touch the buffer. -/
theorem react_received (slot : Slot) (use : Nat) (reaction : Reaction) :
    (slot.react config use reaction).session.msgBuf.buffer = slot.session.msgBuf.buffer := by
  obtain ⟨login, alive, messages, closes, leaves⟩ := reaction
  have named : (slot.loggedIn login).session.msgBuf.buffer = slot.session.msgBuf.buffer := by
    cases login <;> rfl
  have seen : ((slot.loggedIn login).keptAlive alive).session.msgBuf.buffer =
      slot.session.msgBuf.buffer := by
    cases alive <;> exact named
  unfold react
  dsimp only
  split
  · rw [close_received]
    exact (told_received use messages _).trans seen
  · exact (told_received use messages _).trans seen

/-! ## Each leftover -/

theorem failedRead_iff (slot : Slot) (op : Read) :
    (({ slot with reads := slot.reads.erase op }.modify fun x =>
        { x with readPending := false }).close config op.use .nextTask).connection =
        slot.connection ↔ slot.session.readPending = false ∧ slot.CloseSpares := by
  constructor
  · intro same
    have clear : slot.session.readPending = false :=
      (congrArg Connection.readPending same).symm.trans (close_readPending _ _ rfl)
    have cleared : ({ slot with reads := slot.reads.erase op }.modify fun x =>
        { x with readPending := false }).connection = slot.connection := by
      simp [connection, modify, clear]
    have spares := (close_connection_iff _ op.use .nextTask).mp (same.trans cleared.symm)
    exact ⟨clear, spares⟩
  · rintro ⟨clear, spares⟩
    refine ((close_connection_iff _ op.use .nextTask).mpr (by exact spares)).trans ?_
    simp [connection, modify, clear]

theorem readDone_iff (slot : Slot) (op : Read) (result : ReadResult)
    (delivers : Delivers op result) :
    (slot.readDone config op result).connection = slot.connection ↔
      slot.Harmless config (.readDone op result) := by
  cases result with
  | data bytes =>
      refine ⟨fun same => ?_, False.elim⟩
      have received := congrArg Connection.received same
      simp only [readDone, connection, modify, MessageBufferManager.append] at received
      exact delivers.2 (List.append_right_eq_self.mp received)
  | aborted =>
      refine ⟨fun same => (congrArg Connection.readPending same).symm, fun clear => ?_⟩
      have clear : slot.session.readPending = false := clear
      simp [readDone, connection, modify, clear]
  | eof => exact failedRead_iff slot op
  | connectionReset => exact failedRead_iff slot op
  | error => exact failedRead_iff slot op

/-- A message taken is one the current connection sent. -/
theorem handlerStep_taken {use : Nat} {reaction : Reaction} {msg : Bytes}
    {m : MessageBufferManager} (extracted : slot.session.msgBuf.extractMessage = (some msg, m)) :
    (slot.handlerStep config use reaction).connection ≠ slot.connection := by
  intro same
  have received := congrArg Connection.received same
  have shorter := MessageBufferManager.attempt_lawful.shrinks
    (MessageBufferManager.extractMessage_some extracted)
  rcases handlerStep_cases config slot use reaction with ⟨msg', m', found, done⟩ | ⟨m', found, -⟩
  · obtain ⟨-, rfl⟩ := Prod.mk.inj (extracted.symm.trans found)
    simp only [done, connection, react_received, modify] at received
    rw [received] at shorter
    exact Nat.lt_irrefl _ shorter
  · rw [extracted] at found
    cases found

theorem handlerStep_iff (slot : Slot) (use : Nat) (reaction : Reaction)
    (leftover : use ≠ slot.session.strand) :
    (slot.handlerStep config use reaction).connection = slot.connection ↔
      slot.Harmless config (.handlerStep use reaction) := by
  rcases handlerStep_cases config slot use reaction with
    ⟨msg, m, extracted, -⟩ | ⟨m, extracted, turn⟩
  · refine ⟨fun same => absurd same (handlerStep_taken extracted), fun harmless => ?_⟩
    have nothing := harmless.1
    rw [extracted] at nothing
    cases nothing
  · simp only [Harmless, extracted, true_and]
    rcases turn with ⟨cleared, done⟩ | ⟨valid, done⟩
    · obtain ⟨emptied, long⟩ := MessageBufferManager.extractMessage_cleared extracted cleared
      have given : m.buffer ≠ slot.session.msgBuf.buffer := by
        intro same
        rw [← same, emptied] at long
        exact Nat.not_lt_zero _ long
      rw [done]
      refine ⟨fun same => absurd ?_ given, fun kept => absurd kept.1 given⟩
      have received := congrArg Connection.received same
      simpa only [connection, close_received, modify] using received
    · rw [done]
      rcases doRead_cases config ({ slot with handlers := slot.handlers.erase use }.modify fun x =>
        { x with msgBuf := m }) (some use) with ⟨waits, same⟩ | ⟨live, lowered, begins⟩
      · have waits : slot.session.state = .closed ∨ slot.session.readPending = true := waits
        rw [same]
        simp [modify, connection, waits]
      · have live : slot.session.state ≠ .closed := live
        have lowered : ¬ slot.session.readPending = true := lowered
        rw [begins]
        simp [modify, connection, post, leftover, live, lowered]

theorem runNextTask_iff (slot : Slot) :
    slot.runNextTask.connection = slot.connection ↔ slot.session.taskQueue = [] := by
  unfold runNextTask Session.runNextTask
  cases queued : slot.session.taskQueue with
  | nil => simp [connection, queued]
  | cons task rest =>
      cases task with
      | readSome => simp [connection, queued]

theorem loginTimerFired_iff (slot : Slot) (use : Nat) (leftover : use ≠ slot.session.strand) :
    (slot.loginTimerFired config use).connection = slot.connection ↔
      slot.session.nicknameRegistered = true ∨ slot.CloseSpares := by
  unfold loginTimerFired
  by_cases registered : slot.session.nicknameRegistered = true
  · simp [registered]
  · rw [if_neg registered]
    have posted : slot.post config (some use) (.write Server.loginTimedOut) =
        { slot with posts := slot.posts ++ [⟨use, slot.session.strand,
          .write Server.loginTimedOut⟩] } := by
      simp [post, leftover]
    rw [posted]
    simp only [registered, Bool.false_eq_true, false_or]
    exact close_connection_iff _ use .nothing

theorem enqueueWrite_overflow (config : Config) (message : String) (x : Session) :
    (x.enqueueWrite config message).2 = true ↔
      config.maxWriteQueueSize ≤ x.writeQueue.length ∧
        config.writeQueueOverflowLimit ≤ x.writeQueueOverflowCount + 1 := by
  rcases x.enqueueWrite_cases config message with
    ⟨full, limit, entered⟩ | ⟨full, below, entered⟩ | ⟨room, entered⟩
  · simp [entered, full, limit]
  · simp [entered, Nat.not_le.mpr below]
  · simp [entered, Nat.not_le.mpr room]

theorem writeNow_iff (slot : Slot) (caller : Nat) (message : String) :
    (slot.writeNow config caller message).connection = slot.connection ↔
      config.maxWriteQueueSize ≤ slot.session.writeQueue.length ∧
        config.writeQueueOverflowLimit ≤ slot.session.writeQueueOverflowCount + 1 ∧
        slot.CloseSpares := by
  have overflows := enqueueWrite_overflow config message slot.session
  obtain ⟨queue, count, queued⟩ := slot.session.enqueueWrite_eq config message
  unfold writeNow
  rcases entered : slot.session.enqueueWrite config message with ⟨x, overflow⟩
  rw [entered] at overflows queued
  cases queued
  dsimp only at overflows ⊢
  rw [← and_assoc, ← overflows]
  by_cases full : overflow = true
  · rw [if_pos full]
    simp only [full, true_and]
    exact close_connection_iff { slot with session := { slot.session with
      writeQueue := queue, writeQueueOverflowCount := count } } caller _
  · rw [if_neg full]
    refine ⟨fun same => ?_, fun spares => absurd spares.1 full⟩
    have delivered := congrArg Connection.delivered same
    split at delivered
    · rw [startWriting, doWriteQueue_connection] at delivered
      simp [connection, modify] at delivered
    · simp [connection] at delivered

theorem closeTail_iff (slot : Slot) (t : Tail) :
    (slot.closeTail t).connection = slot.connection ↔ slot.Harmless config (.closeTail t) := by
  unfold closeTail
  rw [resume_connection]
  constructor
  · intro same
    exact ⟨(congrArg Connection.nickname same).symm, (congrArg Connection.readPending same).symm,
      (congrArg Connection.tasks same).symm, (congrArg Connection.registered same).symm⟩
  · rintro ⟨unnamed, clear, idle, unregistered⟩
    simp [connection, modify, Session.cleanup, unnamed, clear, idle, unregistered]

/-- **A leftover spares the connection exactly where it has nothing to do.** -/
theorem isolated_iff_harmless {e : SlotEvent} (ready : slot.Ready e) (leftover : slot.Leftover e) :
    Isolated config slot e ↔ slot.Harmless config e := by
  unfold Isolated step
  rw [if_pos ready]
  cases e with
  | readDone op result => exact readDone_iff slot op result ready.2
  | handlerStep use reaction => exact handlerStep_iff slot use reaction leftover
  | readRest use => exact runNextTask_iff { slot with rests := slot.rests.erase use }
  | loginTimer use cancelled =>
      cases cancelled with
      | true => simp [perform, Harmless, connection]
      | false =>
          have fired := @loginTimerFired_iff config
            { slot with loginTimers := slot.loginTimers.erase use } use leftover
          simpa [perform, Harmless, connection, CloseSpares] using fired
  | post p =>
      obtain ⟨caller, strand, message | task⟩ := p
      · exact writeNow_iff { slot with posts := slot.posts.erase ⟨caller, strand, .write message⟩ }
          caller message
      · cases leftover
  | closeTail t => exact closeTail_iff slot t
  | _ => cases leftover

/-- **Isolation between uses**, along every run of an object: leftovers spare the
connection if and only if each meets a state in which it has nothing to do. -/
theorem isolated_iff (config : Config) (slot : Slot) (events : List SlotEvent) :
    Along (step config) (fun slot e => slot.Ready e → slot.Leftover e → Isolated config slot e)
        slot events ↔
      Along (step config) (fun slot e => slot.Ready e → slot.Leftover e → slot.Harmless config e)
        slot events := by
  constructor <;> refine along_mono fun slot e spared ready leftover => ?_
  · exact (isolated_iff_harmless ready leftover).mp (spared ready leftover)
  · exact (isolated_iff_harmless ready leftover).mpr (spared ready leftover)

/-! ## Runs -/

/-- A connection that starts to read and is posted a message. -/
def firstUse : List SlotEvent :=
  [.acquire 0 0, .start 1, .post ⟨1, 1, .task .readSome⟩, .postWrite "hello"]

/-- It is closed, and the object handed out again. -/
def secondUse : List SlotEvent := [.close, .closeTail ⟨1, 1, .nothing⟩, .acquire 0 1]

/-- **Leftovers of the first connection reach the second**: the message is written to
it, the timer closes it, the read delivers to it; and the end of the close, coming
after the next login, takes its nickname. -/
theorem leftovers_reach_next :
    ¬ Along (step {}) (fun slot e => slot.Ready e → slot.Leftover e → Isolated {} slot e) {}
        (firstUse ++ secondUse ++ [.post ⟨1, 1, .write "hello"⟩]) ∧
      ¬ Along (step {}) (fun slot e => slot.Ready e → slot.Leftover e → Isolated {} slot e) {}
        (firstUse ++ secondUse ++ [.loginTimer 1 false]) ∧
      ¬ Along (step {}) (fun slot e => slot.Ready e → slot.Leftover e → Isolated {} slot e) {}
        (firstUse ++ secondUse ++ [.readDone ⟨1, true⟩ (.data [0])]) ∧
      ¬ Along (step {}) (fun slot e => slot.Ready e → slot.Leftover e → Isolated {} slot e) {}
        (firstUse ++ [.close, .acquire 0 1, .login "kim" 1, .closeTail ⟨1, 1, .nothing⟩]) := by
  decide +kernel

end Slot

end GameServer.Kernel
