/-
# Kernel.Session -- `Session`, the object that serves one connection at a time

A `Session` lives as long as the pool: it is reset for a connection, closed,
cleaned and reset for another.  The functions here are the methods that touch
nothing but the object; what `close_session` or `do_read` ask of the rest of the
server is in `Kernel.Server`.

The object's strand is named by how often `reset` has replaced it, which also
tells one acquisition of the object from another.  `registration` is a history
variable: the last `udp_register` handled since the last `cleanup`.
-/
import GameServer.Wire.MessageBuffer
import GameServer.Wire.Json

namespace GameServer.Kernel

set_option autoImplicit false

open Wire

/-- Nanoseconds of `steady_clock` since its epoch. -/
abbrev Time := Int

/-- A whole number of seconds, as a time span. -/
def seconds (n : Int) : Time := n * 10 ^ 9

/-- `duration_cast<seconds>`, which truncates. -/
def inSeconds (span : Time) : Int := span.tdiv (10 ^ 9)

/-- `duration_cast<milliseconds>`. -/
def inMilliseconds (span : Time) : Int := span.tdiv (10 ^ 6)

/-- The settings the kernel reads, with the defaults of the code. -/
structure Config where
  maxTaskQueue : Nat := 1000
  maxWriteQueueSize : Nat := 100
  writeQueueOverflowLimit : Nat := 10
  udpTokenTtlSeconds : Int := 300
  totalLimitPerSec : Nat := 1000
  maxUdpPacketSize : Nat := 1024
  zoneMaxSessionsCount : Nat := 500
  maxZoneCount : Int := 10
  sessionPoolSize : Nat := 1024
  maxSessionPoolSize : Nat := 10000
  shardCount : Nat := 4
  udpShardCount : Nat := 4
deriving DecidableEq, Repr

structure Endpoint where
  address : String
  port : UInt16
deriving DecidableEq, Repr

inductive SessionState where
  | handshaking
  | handshaked
  | loginWait
  | ready
  | closed
deriving DecidableEq, Repr

inductive LifeState where
  | idle
  | active
  | closing
  | closed
  | released
deriving DecidableEq, Repr

/-- What `post_task` is given: `do_read` starting its `async_read_some`. -/
inductive Task where
  | readSome
deriving DecidableEq, Repr

/-- A handled `udp_register`: where it came from, the token its ack carried back
there, and when. -/
structure Registration where
  endpoint : Endpoint
  token : String
  issued : Time
deriving DecidableEq, Repr

structure Session where
  sessionId : Int := -1
  /-- `socket_.is_open()`. -/
  socketOpen : Bool := false
  strand : Nat := 0
  nickname : String := ""
  readPending : Bool := false
  taskQueue : List Task := []
  taskRunning : Bool := false
  msgBuf : MessageBufferManager := {}
  writeQueue : List String := []
  writeInProgress : Bool := false
  writeQueueOverflowCount : Nat := 0
  nicknameRegistered : Bool := false
  lastAliveTime : Time := 0
  state : SessionState := .handshaking
  life : LifeState := .idle
  generation : Nat := 0
  udpEndpoint : Option Endpoint := none
  lastUdpAliveTime : Time := 0
  udpToken : String := ""
  udpTokenIssued : Time := 0
  udpTokenTtlSec : Int := 300
  registration : Option Registration := none
  udpTokens : Int := 120
  lastUdpTokenRefill : Time := 0
  zoneId : Int := 0
deriving DecidableEq, Repr

namespace Session

/-! ## Life cycle -/

/-- `try_activate`: `Idle -> Active`. -/
def tryActivate (s : Session) : Session :=
  if s.life = .idle then { s with life := .active } else s

/-- `try_close`: `Active -> Closing` or `Idle -> Closing`. -/
def tryClose (s : Session) : Option Session :=
  if s.life = .active ∨ s.life = .idle then some { s with life := .closing } else none

def finalizeClose (s : Session) : Session := { s with life := .closed }

def markReleased (s : Session) : Session := { s with life := .released }

def setActive (v : Bool) (s : Session) : Session :=
  if v then s.tryActivate
  else if s.life = .active then { s with life := .idle } else s

/-- Every assignment to `closed_` writes `false`, so `is_closed()` is never true. -/
def isClosed (_ : Session) : Bool := false

/-- `reset`: a new socket, a new strand, a new id, and the fields of a new use. -/
def reset (now : Time) (sessionId : Int) (s : Session) : Session :=
  { s with
    socketOpen := true
    strand := s.strand + 1
    sessionId := sessionId
    nickname := ""
    readPending := false
    taskRunning := false
    taskQueue := []
    writeQueue := []
    state := .handshaking
    udpEndpoint := none
    lastUdpAliveTime := 0
    zoneId := 0
    lastAliveTime := now
    nicknameRegistered := false
    msgBuf := s.msgBuf.clear
    generation := s.generation + 1
    udpToken := ""
    udpTokenIssued := 0
    udpTokenTtlSec := 300
    registration := none }

/-- `cleanup`.  The receive buffer, the session id, the state, the issue time of
the token and the overflow count stay. -/
def cleanup (s : Session) : Session :=
  { s with
    nickname := ""
    udpEndpoint := none
    lastUdpAliveTime := 0
    udpToken := ""
    registration := none
    zoneId := -1
    taskQueue := []
    writeQueue := []
    generation := s.generation + 1
    readPending := false
    taskRunning := false
    nicknameRegistered := false
    life := .idle }

/-- The first lines of `close_session`, after its `try_close` guard and up to
`finalize_close`: the state, and the socket shut and closed. -/
def shutDown (s : Session) : Session :=
  finalizeClose { s with state := .closed, socketOpen := false }

/-- What `SessionPool::acquire` does to the object it hands out. -/
def handOut (now : Time) (sessionId : Int) (s : Session) : Session :=
  ((s.reset now sessionId).setActive true).cleanup

/-- What `SessionPool::release` does to the object it takes back. -/
def takeBack (s : Session) : Session := (s.cleanup.markReleased).setActive false

/-- `on_nickname_registered`; the cancelled wait of the login timer completes with
an error, which the timer event covers. -/
def onNicknameRegistered (s : Session) : Session :=
  { s with nicknameRegistered := true, state := .ready }

/-! ## Queues -/

/-- `enqueue_write`, and whether it ends in `close_session`. -/
def enqueueWrite (config : Config) (msg : String) (s : Session) : Session × Bool :=
  if config.maxWriteQueueSize ≤ s.writeQueue.length then
    let s := { s with
      writeQueue := s.writeQueue.tail
      writeQueueOverflowCount := s.writeQueueOverflowCount + 1 }
    if config.writeQueueOverflowLimit ≤ s.writeQueueOverflowCount then (s, true)
    else ({ s with writeQueue := s.writeQueue ++ [msg] }, false)
  else ({ s with writeQueueOverflowCount := 0, writeQueue := s.writeQueue ++ [msg] }, false)

/-- At the limit a full queue drops its front, and the session is to be closed. -/
theorem enqueueWrite_overflows {config : Config} {s : Session} (msg : String)
    (full : config.maxWriteQueueSize ≤ s.writeQueue.length)
    (limit : config.writeQueueOverflowLimit ≤ s.writeQueueOverflowCount + 1) :
    s.enqueueWrite config msg =
      ({ s with
          writeQueue := s.writeQueue.tail
          writeQueueOverflowCount := s.writeQueueOverflowCount + 1 }, true) := by
  simp only [enqueueWrite, if_pos full, if_pos limit]

/-- Below the limit it drops its front for the message. -/
theorem enqueueWrite_drops {config : Config} {s : Session} (msg : String)
    (full : config.maxWriteQueueSize ≤ s.writeQueue.length)
    (below : s.writeQueueOverflowCount + 1 < config.writeQueueOverflowLimit) :
    s.enqueueWrite config msg =
      ({ s with
          writeQueue := s.writeQueue.tail ++ [msg]
          writeQueueOverflowCount := s.writeQueueOverflowCount + 1 }, false) := by
  simp only [enqueueWrite, if_pos full, if_neg (Nat.not_le.mpr below)]

/-- With room the message waits behind the others. -/
theorem enqueueWrite_appends {config : Config} {s : Session} (msg : String)
    (room : s.writeQueue.length < config.maxWriteQueueSize) :
    s.enqueueWrite config msg =
      ({ s with writeQueueOverflowCount := 0, writeQueue := s.writeQueue ++ [msg] }, false) := by
  simp only [enqueueWrite, if_neg (Nat.not_le.mpr room)]

/-- What `enqueue_write` does, and when. -/
theorem enqueueWrite_cases (config : Config) (msg : String) (s : Session) :
    (config.maxWriteQueueSize ≤ s.writeQueue.length ∧
      config.writeQueueOverflowLimit ≤ s.writeQueueOverflowCount + 1 ∧
      s.enqueueWrite config msg =
        ({ s with
            writeQueue := s.writeQueue.tail
            writeQueueOverflowCount := s.writeQueueOverflowCount + 1 }, true)) ∨
    (config.maxWriteQueueSize ≤ s.writeQueue.length ∧
      s.writeQueueOverflowCount + 1 < config.writeQueueOverflowLimit ∧
      s.enqueueWrite config msg =
        ({ s with
            writeQueue := s.writeQueue.tail ++ [msg]
            writeQueueOverflowCount := s.writeQueueOverflowCount + 1 }, false)) ∨
    (s.writeQueue.length < config.maxWriteQueueSize ∧
      s.enqueueWrite config msg =
        ({ s with writeQueueOverflowCount := 0, writeQueue := s.writeQueue ++ [msg] }, false)) := by
  by_cases full : config.maxWriteQueueSize ≤ s.writeQueue.length
  · by_cases limit : config.writeQueueOverflowLimit ≤ s.writeQueueOverflowCount + 1
    · exact .inl ⟨full, limit, enqueueWrite_overflows msg full limit⟩
    · have below := Nat.not_le.mp limit
      exact .inr (.inl ⟨full, below, enqueueWrite_drops msg full below⟩)
  · have room := Nat.not_le.mp full
    exact .inr (.inr ⟨room, enqueueWrite_appends msg room⟩)

/-- Entering the write queue changes nothing but the queue and its count. -/
theorem enqueueWrite_eq (config : Config) (msg : String) (s : Session) :
    ∃ writeQueue writeQueueOverflowCount, (s.enqueueWrite config msg).1 =
      { s with writeQueue, writeQueueOverflowCount } := by
  rcases s.enqueueWrite_cases config msg with ⟨-, -, done⟩ | ⟨-, -, done⟩ | ⟨-, done⟩ <;>
    rw [done] <;> exact ⟨_, _, rfl⟩

/-- `do_write_queue`, and the message it hands to `async_write`. -/
def doWriteQueue (s : Session) : Session × Option String :=
  if s.state = .closed then (s, none)
  else
    match s.writeQueue with
    | [] => ({ s with writeInProgress := false }, none)
    | msg :: _ => (s, some msg)

/-- `run_next_task`, and the task it runs. -/
def runNextTask (s : Session) : Session × Option Task :=
  match s.taskQueue with
  | [] => ({ s with taskRunning := false }, none)
  | task :: rest => ({ s with taskQueue := rest }, some task)

/-! ## UDP -/

def setUdpEndpoint (e : Endpoint) (s : Session) : Session := { s with udpEndpoint := some e }

def clearUdpEndpoint (s : Session) : Session := { s with udpEndpoint := none }

def updateUdpAliveTime (now : Time) (s : Session) : Session := { s with lastUdpAliveTime := now }

def setUdpTokenTtl (secs : Int) (s : Session) : Session := { s with udpTokenTtlSec := secs }

/-- `set_udp_token`, which takes the lifetime from the settings once more. -/
def setUdpToken (config : Config) (now : Time) (token : String) (s : Session) : Session :=
  { s with
    udpToken := token
    udpTokenIssued := now
    udpTokenTtlSec := config.udpTokenTtlSeconds }

def clearUdpToken (s : Session) : Session := { s with udpToken := "", udpTokenIssued := 0 }

/-- `is_udp_token_valid`. -/
def isUdpTokenValid (now : Time) (s : Session) : Bool :=
  if s.udpToken = "" ∨ s.udpTokenIssued = 0 then false
  else decide (inSeconds (now - s.udpTokenIssued) ≤ s.udpTokenTtlSec)

/-- `checkUdpRateLimit`, with the refill in exact arithmetic and unbounded integers.  The
source casts the refill to `int` and adds it to the tokens, which overflows after an idle
gap of some months; that is not modelled. -/
def checkUdpRateLimit (now : Time) (s : Session) : Session × Bool :=
  let refill := (inMilliseconds (now - s.lastUdpTokenRefill) * 60).tdiv 1000
  let s :=
    if 0 < refill then
      { s with udpTokens := min (s.udpTokens + refill) 120, lastUdpTokenRefill := now }
    else s
  if 0 < s.udpTokens then ({ s with udpTokens := s.udpTokens - 1 }, true) else (s, false)

end Session

end GameServer.Kernel
