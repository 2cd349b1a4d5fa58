/-
# Kernel.Slot -- one `Session` object through its uses

The pool hands the same object out again and again, and what was started for one
connection may finish while the object serves another.  This module follows one
object and cuts its handlers wherever another thread can come between: the
`cleanup()` that ends a `close_session` comes apart from what precedes it, and the
`run_next_task()` that ends a read handler from the rest of it.

A use of the object is named by the strand `reset` gave it.  The methods are those
of `Kernel.Session`; the dispatcher's part in a handler, and what other sessions
and threads do to the object, is the run's choice.
-/
import GameServer.Kernel.System

namespace GameServer.Kernel

set_option autoImplicit false

open Wire

/-- An outstanding `async_read_some`; `live` says that the socket was open. -/
structure Read where
  use : Nat
  live : Bool
deriving DecidableEq, Repr

/-- An outstanding `async_write`, with the generation its callback captured. -/
structure Write where
  use : Nat
  generation : Nat
  message : String
deriving DecidableEq, Repr

/-- Work on the strand of a use, posted by the code of the use `caller`. -/
structure Posted where
  caller : Nat
  strand : Nat
  job : Job
deriving DecidableEq, Repr

/-- What the caller of `close_session` does next to the object. -/
inductive After where
  | nothing
  /-- `run_next_task`, at the end of a read handler. -/
  | nextTask
  /-- The next turn of a read handler's loop. -/
  | loop
  /-- The rest of the body of `post_write`. -/
  | writeQueue
deriving DecidableEq, Repr

/-- A `close_session` of the connection of `use`, past the release. -/
structure Tail where
  use : Nat
  caller : Nat
  after : After
deriving DecidableEq, Repr

/-- A message that entered the write queue. -/
structure Delivery where
  postedFor : Nat
  servedTo : Nat
  message : String
deriving DecidableEq, Repr

/-- What dispatching a message does to the session it came on: a login completed at
once, with the zone it ends in, then messages to it, then its close, after which the
loop may be left. -/
structure Reaction where
  login : Option (String × Int) := none
  alive : Option Time := none
  messages : List String := []
  closes : Bool := false
  leaves : Bool := false
deriving DecidableEq, Repr

/-- `delivered` is a history variable. -/
structure Slot where
  session : Session := {}
  /-- The index is in `reusable_indices_`. -/
  free : Bool := true
  /-- The manager has the object under its id. -/
  filed : Bool := false
  /-- Uses whose `start` is still to come. -/
  starts : List Nat := []
  reads : List Read := []
  /-- Read handlers inside their extraction loop. -/
  handlers : List Nat := []
  /-- Read handlers before their `run_next_task`. -/
  rests : List Nat := []
  loginTimers : List Nat := []
  writes : List Write := []
  posts : List Posted := []
  tails : List Tail := []
  delivered : List Delivery := []
deriving DecidableEq, Repr

inductive SlotEvent where
  | acquire (now : Time) (sessionId : Int)
  | start (use : Nat)
  | readDone (op : Read) (result : ReadResult)
  | handlerStep (use : Nat) (reaction : Reaction)
  | readRest (use : Nat)
  | loginTimer (use : Nat) (cancelled : Bool)
  | writeDone (op : Write) (failed : Bool)
  | post (p : Posted)
  | closeTail (t : Tail)
  /-- Another thread posts a message to the session. -/
  | postWrite (message : String)
  /-- Another thread closes the session. -/
  | close
  /-- A login completion reaches the session. -/
  | login (nickname : String) (zoneId : Int)
  /-- Another object of the same id takes the entry in the manager. -/
  | displaced
  /-- Another object of the same id is closed, which removes this one. -/
  | removal

namespace Slot

variable (config : Config)

def modify (slot : Slot) (f : Session → Session) : Slot := { slot with session := f slot.session }

/-! ## Closing -/

/-- `DataHandler::remove_session` of the object's id; the zones are `1 ..
max_zone_count`. -/
def removed (slot : Slot) : Slot :=
  if slot.filed then
    let slot := { slot with filed := false }.modify Session.clearUdpToken
    let slot :=
      if 1 ≤ slot.session.zoneId ∧ slot.session.zoneId ≤ config.maxZoneCount then
        slot.modify fun x => { x with zoneId := -1 }
      else slot
    if slot.free then slot else { slot.modify Session.takeBack with free := true }
  else slot

/-- `do_write_queue`. -/
def doWriteQueue (slot : Slot) : Slot :=
  match slot.session.doWriteQueue with
  | (x, none) => { slot with session := x }
  | (x, some message) =>
      { slot with session := x, writes := slot.writes ++ [⟨x.strand, x.generation, message⟩] }

def startWriting (slot : Slot) : Slot :=
  (slot.modify fun x => { x with writeInProgress := true }).doWriteQueue

/-- The code after a `close_session` of the use `caller`. -/
def resume (slot : Slot) (caller : Nat) : After → Slot
  | .nothing => slot
  | .nextTask => { slot with rests := slot.rests ++ [caller] }
  | .loop => { slot with handlers := slot.handlers ++ [caller] }
  | .writeQueue => slot.startWriting

/-- `close_session`, up to its `cleanup()`. -/
def close (slot : Slot) (caller : Nat) (after : After) : Slot :=
  match slot.session.tryClose with
  | none => slot.resume caller after
  | some closing =>
      let slot := { slot with session := closing.shutDown }.removed config
      { slot with tails := slot.tails ++ [⟨slot.session.strand, caller, after⟩] }

/-- The `cleanup()` that ends a `close_session`, and what its caller does next. -/
def closeTail (slot : Slot) (t : Tail) : Slot :=
  ({ slot with tails := slot.tails.erase t }.modify Session.cleanup).resume t.caller t.after

/-! ## Writing, reading -/

/-- The body of `post_write`. -/
def writeNow (slot : Slot) (caller : Nat) (message : String) : Slot :=
  let idle := slot.session.writeQueue.isEmpty
  let (x, overflow) := slot.session.enqueueWrite config message
  if overflow then
    { slot with session := x }.close config caller (if idle then .writeQueue else .nothing)
  else
    let slot := { slot with
      session := x
      delivered := slot.delivered ++ [⟨caller, x.strand, message⟩] }
    if idle then slot.startWriting else slot

/-- `run_next_task`. -/
def runNextTask (slot : Slot) : Slot :=
  match slot.session.runNextTask with
  | (x, none) => { slot with session := x }
  | (x, some .readSome) =>
      { slot with session := x, reads := slot.reads ++ [⟨x.strand, x.socketOpen⟩] }

/-- The body of `post_task`. -/
def pushTask (slot : Slot) (caller : Nat) (task : Task) : Slot :=
  if config.maxTaskQueue ≤ slot.session.taskQueue.length then slot.close config caller .nothing
  else
    let running := slot.session.taskRunning
    let slot := slot.modify fun x =>
      { x with taskQueue := x.taskQueue ++ [task], taskRunning := true }
    if running then slot else slot.runNextTask

def runJob (slot : Slot) (caller : Nat) : Job → Slot
  | .write message => slot.writeNow config caller message
  | .task task => slot.pushTask config caller task

/-- `post_write` and `post_task`: the body runs at once on the session's strand. -/
def post (slot : Slot) (here : Option Nat) (job : Job) : Slot :=
  let strand := slot.session.strand
  if here = some strand then slot.runJob config strand job
  else { slot with posts := slot.posts ++ [⟨here.getD strand, strand, job⟩] }

/-- `do_read`. -/
def doRead (slot : Slot) (here : Option Nat) : Slot :=
  if slot.session.state = .closed then slot
  else if slot.session.readPending then slot
  else (slot.modify fun x => { x with readPending := true }).post config here (.task .readSome)

theorem doRead_begins {slot : Slot} (here : Option Nat) (live : slot.session.state ≠ .closed)
    (lowered : ¬ slot.session.readPending = true) :
    slot.doRead config here =
      (slot.modify fun x => { x with readPending := true }).post config here
        (.task .readSome) := by
  rw [doRead, if_neg live, if_neg lowered]

/-- What `do_read` does, and when. -/
theorem doRead_cases (slot : Slot) (here : Option Nat) :
    ((slot.session.state = .closed ∨ slot.session.readPending = true) ∧
      slot.doRead config here = slot) ∨
    (slot.session.state ≠ .closed ∧ ¬ slot.session.readPending = true ∧
      slot.doRead config here =
        (slot.modify fun x => { x with readPending := true }).post config here
          (.task .readSome)) := by
  by_cases closed : slot.session.state = .closed
  · exact .inl ⟨.inl closed, by rw [doRead, if_pos closed]⟩
  · by_cases pending : slot.session.readPending = true
    · exact .inl ⟨.inr pending, by rw [doRead, if_pos pending, ite_self]⟩
    · exact .inr ⟨closed, pending, doRead_begins config here closed pending⟩

/-- `start`, with `start_login_timeout`. -/
def start (slot : Slot) : Slot :=
  let slot := slot.doRead config none
  if slot.session.state = .closed then slot
  else { slot with loginTimers := slot.loginTimers ++ [slot.session.strand] }

/-! ## Handlers -/

/-- What a login completion does to the object: `add_session`, `set_nickname`,
`on_nickname_registered`, and the zone it ends in. -/
def login (slot : Slot) (nickname : String) (zoneId : Int) : Slot :=
  { slot with filed := true }.modify fun x =>
    { { x with nickname := nickname }.onNicknameRegistered with zoneId := zoneId }

/-- The login a message completes, if any. -/
def loggedIn (slot : Slot) : Option (String × Int) → Slot
  | none => slot
  | some (nickname, zoneId) => slot.login nickname zoneId

/-- `keepalive_handler`, if the message is one. -/
def keptAlive (slot : Slot) : Option Time → Slot
  | none => slot
  | some now => slot.modify fun x => { x with lastAliveTime := now }

/-- Messages to the session from its own handler. -/
def told (slot : Slot) (use : Nat) (messages : List String) : Slot :=
  messages.foldl (fun slot message => slot.post config (some use) (.write message)) slot

/-- Dispatching a message of the read handler of `use`. -/
def react (slot : Slot) (use : Nat) (reaction : Reaction) : Slot :=
  let slot := ((slot.loggedIn reaction.login).keptAlive reaction.alive).told config use
    reaction.messages
  if reaction.closes then
    { slot with handlers := slot.handlers.erase use }.close config use
      (if reaction.leaves then .nothing else .loop)
  else slot

/-- The handler of `async_read_some`.  Its notices go to other sessions. -/
def readDone (slot : Slot) (op : Read) (result : ReadResult) : Slot :=
  let slot := { slot with reads := slot.reads.erase op }.modify fun x =>
    { x with readPending := false }
  match result with
  | .data bytes =>
      { slot.modify fun x => { x with msgBuf := x.msgBuf.append bytes } with
        handlers := slot.handlers ++ [op.use] }
  | .aborted => { slot with rests := slot.rests ++ [op.use] }
  | _ => slot.close config op.use .nextTask

/-- One turn of the extraction loop of a read handler, or its end. -/
def handlerStep (slot : Slot) (use : Nat) (reaction : Reaction) : Slot :=
  match slot.session.msgBuf.extractMessage with
  | (some _, m) => (slot.modify fun x => { x with msgBuf := m }).react config use reaction
  | (none, m) =>
      let slot := { slot with handlers := slot.handlers.erase use }.modify fun x =>
        { x with msgBuf := m }
      if m.lastClearByInvalidLength then slot.close config use .nothing
      else
        let slot := slot.doRead config (some use)
        { slot with rests := slot.rests ++ [use] }

/-- What a turn of the loop does, and when. -/
theorem handlerStep_cases (slot : Slot) (use : Nat) (reaction : Reaction) :
    (∃ msg m, slot.session.msgBuf.extractMessage = (some msg, m) ∧
      slot.handlerStep config use reaction =
        (slot.modify fun x => { x with msgBuf := m }).react config use reaction) ∨
    ∃ m, slot.session.msgBuf.extractMessage = (none, m) ∧
      ((m.lastClearByInvalidLength = true ∧
          slot.handlerStep config use reaction =
            ({ slot with handlers := slot.handlers.erase use }.modify fun x =>
              { x with msgBuf := m }).close config use .nothing) ∨
        (m.lastClearByInvalidLength = false ∧
          slot.handlerStep config use reaction =
            let read := ({ slot with handlers := slot.handlers.erase use }.modify fun x =>
              { x with msgBuf := m }).doRead config (some use)
            { read with rests := read.rests ++ [use] })) := by
  rcases extracted : slot.session.msgBuf.extractMessage with ⟨_ | msg, m⟩
  · refine .inr ⟨m, rfl, ?_⟩
    cases cleared : m.lastClearByInvalidLength with
    | true => exact .inl ⟨rfl, by simp only [handlerStep, extracted, cleared, if_true]⟩
    | false =>
        exact .inr ⟨rfl, by
          simp only [handlerStep, extracted, cleared, Bool.false_eq_true, if_false]⟩
  · exact .inl ⟨msg, m, rfl, by simp only [handlerStep, extracted]⟩

/-- The wait of `start_login_timeout`, ended without an error. -/
def loginTimerFired (slot : Slot) (use : Nat) : Slot :=
  if slot.session.nicknameRegistered then slot
  else (slot.post config (some use) (.write Server.loginTimedOut)).close config use .nothing

/-- The handler of `async_write`. -/
def writeDone (slot : Slot) (op : Write) (failed : Bool) : Slot :=
  let slot := { slot with writes := slot.writes.erase op }
  if op.generation ≠ slot.session.generation then slot
  else if failed then slot.close config op.use .nothing
  else (slot.modify fun x => { x with writeQueue := x.writeQueue.tail }).doWriteQueue

/-! ## Events -/

/-- The first work posted to its strand is next. -/
def NextPost (slot : Slot) (p : Posted) : Prop :=
  (slot.posts.filter fun q => q.strand = p.strand).head? = some p

instance (slot : Slot) (p : Posted) : Decidable (slot.NextPost p) :=
  inferInstanceAs (Decidable (_ = _))

/-- Bytes and an end of stream come only from a socket that was open; a read
returns at least one byte. -/
def Delivers (op : Read) : ReadResult → Prop
  | .data bytes => op.live = true ∧ bytes ≠ []
  | .eof => op.live = true
  | _ => True

instance (op : Read) : ∀ result, Decidable (Delivers op result)
  | .data _ => inferInstanceAs (Decidable (_ ∧ _))
  | .eof => inferInstanceAs (Decidable (_ = _))
  | .connectionReset => inferInstanceAs (Decidable True)
  | .aborted => inferInstanceAs (Decidable True)
  | .error => inferInstanceAs (Decidable True)

/-- The event can happen. -/
def Ready (slot : Slot) : SlotEvent → Prop
  | .acquire _ _ => slot.free = true
  | .start use => use ∈ slot.starts
  | .readDone op result => op ∈ slot.reads ∧ Delivers op result
  | .handlerStep use _ => use ∈ slot.handlers
  | .readRest use => use ∈ slot.rests
  | .loginTimer use _ => use ∈ slot.loginTimers
  | .writeDone op _ => op ∈ slot.writes
  | .post p => slot.NextPost p
  | .closeTail t => t ∈ slot.tails
  | _ => True

instance (slot : Slot) : ∀ e, Decidable (slot.Ready e)
  | .acquire _ _ => inferInstanceAs (Decidable (_ = _))
  | .start _ => inferInstanceAs (Decidable (_ ∈ _))
  | .readDone _ _ => inferInstanceAs (Decidable (_ ∧ _))
  | .handlerStep _ _ => inferInstanceAs (Decidable (_ ∈ _))
  | .readRest _ => inferInstanceAs (Decidable (_ ∈ _))
  | .loginTimer _ _ => inferInstanceAs (Decidable (_ ∈ _))
  | .writeDone _ _ => inferInstanceAs (Decidable (_ ∈ _))
  | .post p => inferInstanceAs (Decidable (slot.NextPost p))
  | .closeTail _ => inferInstanceAs (Decidable (_ ∈ _))
  | .postWrite _ => inferInstanceAs (Decidable True)
  | .close => inferInstanceAs (Decidable True)
  | .login _ _ => inferInstanceAs (Decidable True)
  | .displaced => inferInstanceAs (Decidable True)
  | .removal => inferInstanceAs (Decidable True)

def perform (slot : Slot) : SlotEvent → Slot
  | .acquire now sessionId =>
      { slot.modify (Session.handOut now sessionId) with
        free := false
        filed := true
        starts := slot.starts ++ [slot.session.strand + 1] }
  | .start use => { slot with starts := slot.starts.erase use }.start config
  | .readDone op result => slot.readDone config op result
  | .handlerStep use reaction => slot.handlerStep config use reaction
  | .readRest use => { slot with rests := slot.rests.erase use }.runNextTask
  | .loginTimer use cancelled =>
      let slot := { slot with loginTimers := slot.loginTimers.erase use }
      if cancelled then slot else slot.loginTimerFired config use
  | .writeDone op failed => slot.writeDone config op failed
  | .post p => { slot with posts := slot.posts.erase p }.runJob config p.caller p.job
  | .closeTail t => slot.closeTail t
  | .postWrite message => slot.post config none (.write message)
  | .close => slot.close config slot.session.strand .nothing
  | .login nickname zoneId => slot.login nickname zoneId
  | .displaced => { slot with filed := false }
  | .removal => slot.removed config

def step (slot : Slot) (e : SlotEvent) : Slot :=
  if slot.Ready e then slot.perform config e else slot

end Slot

end GameServer.Kernel
