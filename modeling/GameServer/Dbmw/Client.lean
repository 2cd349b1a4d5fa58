/-
# Dbmw.Client -- `DBMiddlewareClient`, the connection to the DB middleware

One socket object serves connection after connection.  Its handlers run one at a
time on a strand, so the completion of an operation is one step; a call from
another thread writes its atomics at once and leaves the rest to the strand as a
job.  A call made from a message callback is already on the strand and is done
whole.

The socket itself is not kept.  What closing or reopening it does to the
operations begun on it is how they end, and that is the run's choice: an
outstanding read or write carries the connection it was begun on, and may end
with or without an error at any later time.

`link`, `received`, `handed`, `sentSince` and `journal` are history: the number of
connections so far, the pieces read on the latest one, the messages handed on
since it was made, the heartbeats sent on it since its last acknowledgement, and
the moments the laws of this component speak about.
-/
import Mathlib.Algebra.Group.Int.Defs
import Mathlib.Algebra.Group.Nat.Defs
import Mathlib.Data.List.Sort
import GameServer.Wire.Framing
import GameServer.Wire.Json

namespace GameServer.Dbmw

set_option autoImplicit false

open Wire

/-! ## Messages -/

/-- `wire::MsgType`; proto3 keeps a number it has no name for. -/
inductive MsgType where
  | unknown
  | serverLoginAck
  | keepaliveAck
  | dbQueryResult
  | errorMsg
  | other (number : Int)
deriving DecidableEq, Repr

structure ServerLoginAck where
  result : String := ""
  nickname : String := ""
deriving DecidableEq, Repr

structure DbQueryResult where
  reqId : String := ""
  code : Int := 0
  api : String := ""
  dataJson : String := ""
deriving DecidableEq, Repr

structure ErrorReply where
  reqId : String := ""
  code : Int := 0
  msg : String := ""
deriving DecidableEq, Repr

inductive Payload where
  | notSet
  | serverLoginAck (ack : ServerLoginAck)
  | keepaliveAck
  | dbQueryResult (result : DbQueryResult)
  | error (error : ErrorReply)
deriving DecidableEq, Repr

/-- `wire::Envelope`. -/
structure Envelope where
  type : MsgType := .unknown
  payload : Payload := .notSet
deriving DecidableEq, Repr

namespace Envelope

/-- An accessor of another member than the one set gives that member's default. -/
def serverLoginAck (env : Envelope) : ServerLoginAck :=
  match env.payload with
  | .serverLoginAck ack => ack
  | _ => {}

def dbQueryResult (env : Envelope) : DbQueryResult :=
  match env.payload with
  | .dbQueryResult result => result
  | _ => {}

def error (env : Envelope) : ErrorReply :=
  match env.payload with
  | .error error => error
  | _ => {}

end Envelope

/-- What `on_message_pb_` or `on_message_` is given. -/
inductive Message where
  | proto (envelope : Envelope)
  | json (value : Json)

/-! ## Configuration -/

/-- The constructor's arguments, the configured game port, and the libraries that
read and write message bodies. -/
structure ClientConfig where
  port : Nat := 40001
  tcpPort : Int := 12345
  serverLoginNickname : String := "Server_1"
  secret : Bytes := []
  /-- `nlohmann::json::dump`. -/
  dump : Json → Bytes
  /-- `Envelope::ParseFromArray`. -/
  parseEnvelope : Bytes → Option Envelope
  /-- `nlohmann::json::parse`. -/
  parseJson : Bytes → Option Json
  /-- Whether the callbacks are set. -/
  onMessage : Bool := true
  onMessagePb : Bool := true

def heartbeatMissLimit : Int := 3

def reconnectSecMax : Int := 30

namespace ClientConfig

/-- The view without the secret in front. -/
def stripSecret (config : ClientConfig) (raw : Bytes) : Bytes :=
  if config.secret.isPrefixOf raw then raw.drop config.secret.length else raw

/-- What a frame's body is handed on as: an envelope behind the secret, else the
body itself as JSON. -/
def decode (config : ClientConfig) (raw : Bytes) : Option Message :=
  match config.parseEnvelope (config.stripSecret raw) with
  | some env => if config.onMessagePb then some (.proto env) else none
  | none =>
      match config.parseJson raw with
      | some j => if config.onMessage then some (.json j) else none
      | none => none

/-- The bytes of an ASCII text. -/
def ascii (text : String) : Bytes := text.toList.map fun letter => UInt8.ofNat letter.toNat

/-- A text with nothing to escape, in quotes. -/
def quoted (text : String) : Bytes := ascii "\"" ++ ascii text ++ ascii "\""

/-- `dump` of an object of such texts: the members in the order of their keys. -/
def dumpTexts : Json → Bytes
  | .obj fields =>
      let member (field : String × Json) : Bytes :=
        match field.2 with
        | .str text => quoted field.1 ++ ascii ":" ++ quoted text
        | _ => []
      let sorted := fields.insertionSort fun field other => field.1 ≤ other.1
      ascii "\x7b" ++ (ascii ",").intercalate (sorted.map member) ++ ascii "\x7d"
  | _ => []

/-- A client to run by hand: the libraries as they are on the few texts listed. -/
def small (texts : List Json) : ClientConfig where
  secret := ascii "s3cret"
  dump := dumpTexts
  parseEnvelope := fun _ => none
  parseJson := fun raw => texts.find? fun j => dumpTexts j = raw

example : dumpTexts (.obj [("type", .str "keepalive"), ("nickname", .str "Server_1")]) =
    ascii "\x7b\"nickname\":\"Server_1\",\"type\":\"keepalive\"\x7d" := by
  decide +kernel

end ClientConfig

/-! ## Timers -/

/-- A `steady_timer`: whether a wait is armed, and the cancelled waits whose
handler has not run yet. -/
structure Timer where
  armed : Bool := false
  cancelled : Nat := 0
deriving DecidableEq, Repr

/-- How a wait ends. -/
inductive WaitEnd where
  /-- The armed wait ran out. -/
  | expired
  /-- A cancelled wait, told so. -/
  | aborted
  /-- A cancelled wait that had run out before its cancel: no error. -/
  | late
deriving DecidableEq, Repr

namespace Timer

def cancel (t : Timer) : Timer := { armed := false, cancelled := t.cancelled + t.armed.toNat }

/-- `expires_after` and `async_wait`. -/
def arm (t : Timer) : Timer := { t.cancel with armed := true }

/-- The timer as the handler of a wait finds it, if a wait can end so. -/
def finish (t : Timer) : WaitEnd → Option Timer
  | .expired => if t.armed then some { t with armed := false } else none
  | .aborted | .late =>
      if 0 < t.cancelled then some { t with cancelled := t.cancelled - 1 } else none

end Timer

/-! ## The client -/

/-- What a call dispatches to the strand. -/
inductive StrandJob where
  /-- `start`'s `do_connect`. -/
  | connect
  /-- `stop`'s closing. -/
  | close
  /-- `send_framed`'s push. -/
  | push (frame : Bytes)
deriving DecidableEq, Repr

/-- The public calls.  `send_proto` and `send_secure_proto` are `sendFramed` of the
body they build. -/
inductive ClientCall where
  | markAuthed (value : Bool)
  | noteHeartbeatAck
  | stop
  | start
  | sendFramed (body : Bytes)
  /-- `throws`: something on the way to the strand throws. -/
  | sendJson (j : Json) (throws : Bool)
  | sendSecureJson (j : Json)

inductive ClientNote where
  /-- `do_connect` went ahead; what it met. -/
  | attempt (resolves connects : Nat) (connected : Bool)
  /-- The end of a read or write begun on connection `opened` closed the socket;
  what it met. -/
  | closedBy (opened link : Nat) (connected : Bool)
  /-- The heartbeat handler closed the connection, so many heartbeats after its
  start or last acknowledgement. -/
  | heartbeatLost (sent : Nat)
deriving DecidableEq, Repr

structure DBMiddlewareClient where
  connected : Bool := false
  stopping : Bool := false
  serverLoginSent : Bool := false
  authed : Bool := false
  missedHeartbeat : Int := 0
  msgBuf : MessageBufferManager := {}
  writeQueue : List Bytes := []
  writeInProgress : Bool := false
  reconnectSec : Int := 2
  reconnectTimer : Timer := {}
  heartbeatTimer : Timer := {}
  /-- The counter of `generate_request_id`. -/
  requestIds : Nat := 0
  /-- `async_resolve` and `async_connect` in flight. -/
  resolves : Nat := 0
  connects : Nat := 0
  /-- Outstanding `async_read_some` and `async_write`, each with its connection. -/
  reads : List Nat := []
  writes : List Nat := []
  jobs : List StrandJob := []
  link : Nat := 0
  received : List Bytes := []
  handed : List Message := []
  sentSince : Nat := 0
  journal : List ClientNote := []

namespace DBMiddlewareClient

variable (config : ClientConfig)

def closeSocket (c : DBMiddlewareClient) : DBMiddlewareClient := { c with connected := false }

def scheduleReconnect (c : DBMiddlewareClient) : DBMiddlewareClient :=
  let c := { c with connected := false }
  if c.stopping then c
  else { c with
    reconnectSec := min (c.reconnectSec * 2) reconnectSecMax
    reconnectTimer := c.reconnectTimer.arm }

/-- `close_socket` and `schedule_reconnect`, which stand together in every handler
that gives a connection up. -/
def giveUp (c : DBMiddlewareClient) : DBMiddlewareClient := c.closeSocket.scheduleReconnect

/-- The same at the end of a read or write begun on connection `opened`. -/
def giveUpFrom (c : DBMiddlewareClient) (opened : Nat) : DBMiddlewareClient :=
  { c with journal := c.journal ++ [ClientNote.closedBy opened c.link c.connected] }.giveUp

/-- `do_connect`, up to its `async_resolve`. -/
def doConnect (c : DBMiddlewareClient) : DBMiddlewareClient :=
  if c.stopping then c
  else if (config.port : Int) = config.tcpPort then c
  else { c with
    resolves := c.resolves + 1
    journal := c.journal ++ [ClientNote.attempt c.resolves c.connects c.connected] }

def doReadSome (c : DBMiddlewareClient) : DBMiddlewareClient :=
  if c.connected then { c with reads := c.reads ++ [c.link] } else c

def flushWriteQueue (c : DBMiddlewareClient) : DBMiddlewareClient :=
  match c.writeQueue with
  | [] => { c with writeInProgress := false }
  | _ :: _ => { c with writes := c.writes ++ [c.link] }

/-- The part of `send_framed` on the strand. -/
def push (c : DBMiddlewareClient) (frame : Bytes) : DBMiddlewareClient :=
  if c.connected then
    let idle := c.writeQueue.isEmpty
    let c := { c with writeQueue := c.writeQueue ++ [frame] }
    if idle && !c.writeInProgress then { c with writeInProgress := true }.flushWriteQueue else c
  else c

/-- `generate_request_id`. -/
def generateRequestId (c : DBMiddlewareClient) : String × DBMiddlewareClient :=
  let id := (c.requestIds + 1) % 2 ^ 64
  ("req_" ++ toString id, { c with requestIds := id })

/-- A message with its `request_id`, given or generated. -/
def withRequestId (c : DBMiddlewareClient) (j : Json) :
    Except JsonError Json × DBMiddlewareClient :=
  let (id, numbered) := c.generateRequestId
  match j with
  | .obj fields =>
      match Json.lookup fields "request_id" with
      | some (.str _) => (.ok j, c)
      | some _ => (.error .type, c)
      | none => (.ok (.obj (Json.assign fields "request_id" (.str id))), numbered)
  | .null => (.ok (.obj [("request_id", .str id)]), numbered)
  | _ => (.error .type, numbered)

/-- The part of a call that its own thread does, and what it dispatches. -/
def call (c : DBMiddlewareClient) : ClientCall → DBMiddlewareClient × Option StrandJob
  | .markAuthed value => ({ c with authed := value }, none)
  | .noteHeartbeatAck => ({ c with missedHeartbeat := 0, sentSince := 0 }, none)
  | .stop => ({ c with stopping := true }, some .close)
  | .start => ({ c with stopping := false }, some .connect)
  | .sendFramed body => (c, some (.push (Wire.sendFramed body)))
  | .sendJson j throws =>
      match c.withRequestId j with
      | (.error _, c) => (c.giveUp, none)
      | (.ok j, c) =>
          if throws then (c.giveUp, none) else (c, some (.push (Wire.sendFramed (config.dump j))))
  | .sendSecureJson j =>
      match c.withRequestId j with
      | (.error _, c) => (c, none)
      | (.ok j, c) => (c, some (.push (Wire.sendFramed (config.secret ++ config.dump j))))

def runJob (c : DBMiddlewareClient) : StrandJob → DBMiddlewareClient
  | .connect => c.doConnect config
  | .close =>
      let c := c.closeSocket
      { c with
        reconnectTimer := c.reconnectTimer.cancel
        heartbeatTimer := c.heartbeatTimer.cancel }
  | .push frame => c.push frame

/-- A call made on the strand. -/
def callInline (c : DBMiddlewareClient) (k : ClientCall) : DBMiddlewareClient :=
  match c.call config k with
  | (c, none) => c
  | (c, some job) => c.runJob config job

/-- A call made by another thread. -/
def callFrom (c : DBMiddlewareClient) (k : ClientCall) : DBMiddlewareClient :=
  match c.call config k with
  | (c, job) => { c with jobs := c.jobs ++ job.toList }

def serverSendLogin (c : DBMiddlewareClient) : DBMiddlewareClient :=
  if c.serverLoginSent then c
  else { c with serverLoginSent := true }.callInline config (.sendSecureJson (.obj
    [("type", .str "serverlogin"), ("nickname", .str config.serverLoginNickname)]))

def armHeartbeatTimer (c : DBMiddlewareClient) : DBMiddlewareClient :=
  { c with heartbeatTimer := c.heartbeatTimer.arm }

/-! ## Completions -/

def onResolve (c : DBMiddlewareClient) (failed : Bool) : DBMiddlewareClient :=
  if failed then c.scheduleReconnect else { c with connects := c.connects + 1 }

/-- The connection made, before its first write and read. -/
def established (c : DBMiddlewareClient) : DBMiddlewareClient :=
  { c with
    connected := true
    reconnectSec := 2
    serverLoginSent := false
    authed := false
    link := c.link + 1
    received := []
    handed := []
    sentSince := 0 }

def onConnect (c : DBMiddlewareClient) (failed : Bool) : DBMiddlewareClient :=
  if failed then c.scheduleReconnect
  else ((c.established.serverSendLogin config).doReadSome).armHeartbeatTimer

/-- The buffer's part of a read handler: the pieces and messages it adds. -/
def takeIn (c : DBMiddlewareClient) (opened : Nat) (data : Bytes) : DBMiddlewareClient :=
  let drained := (c.msgBuf.append data).drain
  { c with
    msgBuf := drained.2
    received := if opened = c.link then c.received ++ [data] else c.received
    handed := c.handed ++ drained.1.filterMap config.decode }

/-- The calls the message callbacks make on the client, in order. -/
def reactions (react : Message → List ClientCall) (c : DBMiddlewareClient) (data : Bytes) :
    List ClientCall :=
  ((c.msgBuf.append data).drain.1.filterMap config.decode).flatMap react

/-- The read handler: `none` for an error. -/
def onRead (c : DBMiddlewareClient) (opened : Nat) (react : Message → List ClientCall) :
    Option Bytes → DBMiddlewareClient
  | none => c.giveUpFrom opened
  | some data =>
      let calls := reactions config react c data
      let c := calls.foldl (callInline config) (c.takeIn config opened data)
      if c.msgBuf.lastClearByInvalidLength then c.giveUpFrom opened else c.doReadSome

def onWrite (c : DBMiddlewareClient) (opened : Nat) (failed : Bool) : DBMiddlewareClient :=
  if failed then c.giveUpFrom opened
  else { c with writeQueue := c.writeQueue.tail }.flushWriteQueue

/-- The wait of `schedule_reconnect`. -/
def onReconnectTimer (c : DBMiddlewareClient) (how : WaitEnd) : DBMiddlewareClient :=
  if how = .aborted then c else c.doConnect config

/-- A heartbeat sent and counted as missed until its acknowledgement. -/
def sendHeartbeat (c : DBMiddlewareClient) : DBMiddlewareClient :=
  let c := c.callInline config (.sendSecureJson (.obj
    [("type", .str "keepalive"), ("nickname", .str config.serverLoginNickname)]))
  { c with
    missedHeartbeat := Int.bmod (c.missedHeartbeat + 1) (2 ^ 32)
    sentSince := c.sentSince + 1 }

/-- The wait of `arm_heartbeat_timer`. -/
def onHeartbeatTimer (c : DBMiddlewareClient) (how : WaitEnd) : DBMiddlewareClient :=
  if how = .aborted ∨ c.stopping then c
  else if c.connected ∧ c.authed then
    let c := c.sendHeartbeat config
    if heartbeatMissLimit ≤ c.missedHeartbeat then
      { c with journal := c.journal ++ [ClientNote.heartbeatLost c.sentSince] }.giveUp
    else c.armHeartbeatTimer
  else c.armHeartbeatTimer

end DBMiddlewareClient

/-! ## What the calls keep -/

/-- The fields that decide what the client does next, of which no history or queue
is part. -/
structure Control where
  stopping : Bool
  serverLoginSent : Bool
  authed : Bool
  reconnectSec : Int
  reconnectTimer : Timer
  heartbeatTimer : Timer
  requestIds : Nat
  resolves : Nat
  connects : Nat
  jobs : List StrandJob

namespace DBMiddlewareClient

def control (c : DBMiddlewareClient) : Control :=
  ⟨c.stopping, c.serverLoginSent, c.authed, c.reconnectSec, c.reconnectTimer, c.heartbeatTimer,
    c.requestIds, c.resolves, c.connects, c.jobs⟩

def steer (c : DBMiddlewareClient) (k : Control) : DBMiddlewareClient :=
  { c with
    stopping := k.stopping
    serverLoginSent := k.serverLoginSent
    authed := k.authed
    reconnectSec := k.reconnectSec
    reconnectTimer := k.reconnectTimer
    heartbeatTimer := k.heartbeatTimer
    requestIds := k.requestIds
    resolves := k.resolves
    connects := k.connects
    jobs := k.jobs }

/-- A push changes the outbound side only. -/
theorem push_eq (c : DBMiddlewareClient) (frame : Bytes) :
    ∃ queue flag writes, c.push frame =
      { c with writeQueue := queue, writeInProgress := flag, writes := writes } := by
  unfold push
  split
  · dsimp only
    split
    · unfold flushWriteQueue
      split <;> exact ⟨_, _, _, rfl⟩
    · exact ⟨_, _, _, rfl⟩
  · exact ⟨_, _, _, rfl⟩

/-- Numbering a request changes the counter only. -/
theorem withRequestId_snd (c : DBMiddlewareClient) (j : Json) :
    ∃ ids, (c.withRequestId j).2 = { c with requestIds := ids } := by
  unfold withRequestId
  dsimp only
  repeat' split
  all_goals exact ⟨_, rfl⟩

/-- A login or heartbeat changes the counter and the outbound side only. -/
theorem sendSecureJson_eq (config : ClientConfig) (c : DBMiddlewareClient) (j : Json) :
    ∃ ids queue flag writes, c.callInline config (.sendSecureJson j) =
      { c with
        requestIds := ids
        writeQueue := queue
        writeInProgress := flag
        writes := writes } := by
  obtain ⟨ids, counted⟩ := withRequestId_snd c j
  rcases built : c.withRequestId j with ⟨_ | numbered, c'⟩ <;> rw [built] at counted
  · refine ⟨ids, c.writeQueue, c.writeInProgress, c.writes, ?_⟩
    simp only [callInline, call, built]
    exact counted
  · obtain ⟨queue, flag, writes, pushed⟩ := push_eq { c with requestIds := ids }
      (Wire.sendFramed (config.secret ++ config.dump numbered))
    refine ⟨ids, queue, flag, writes, ?_⟩
    simp only [callInline, call, built, runJob]
    rw [show c' = _ from counted]
    exact pushed

/-- A property that the small updates keep, of which every call is made. -/
structure Kept (P : DBMiddlewareClient → Prop) : Prop where
  steered : ∀ {c} (k : Control), P c → P (c.steer k)
  lost : ∀ {c : DBMiddlewareClient}, P c → P { c with connected := false }
  acked : ∀ {c : DBMiddlewareClient}, P c → P { c with missedHeartbeat := 0, sentSince := 0 }
  noted : ∀ {c : DBMiddlewareClient} (note : ClientNote), (∀ sent, note ≠ .heartbeatLost sent) →
    P c → P { c with journal := c.journal ++ [note] }
  pushed : ∀ {c : DBMiddlewareClient} (frame : Bytes), P c → P (c.push frame)

namespace Kept

variable {config : ClientConfig} {P : DBMiddlewareClient → Prop} (kept : Kept P)
  {c : DBMiddlewareClient}

include kept

theorem scheduleReconnect (holds : P c) : P c.scheduleReconnect := by
  have lost := kept.lost holds
  unfold DBMiddlewareClient.scheduleReconnect
  dsimp only
  split
  · exact lost
  · exact kept.steered { c.control with
      reconnectSec := min (c.reconnectSec * 2) reconnectSecMax
      reconnectTimer := c.reconnectTimer.arm } lost

theorem giveUp (holds : P c) : P c.giveUp := kept.scheduleReconnect (kept.lost holds)

theorem giveUpFrom (opened : Nat) (holds : P c) : P (c.giveUpFrom opened) :=
  kept.giveUp (kept.noted (.closedBy opened c.link c.connected) (by simp) holds)

theorem doConnect (holds : P c) : P (c.doConnect config) := by
  unfold DBMiddlewareClient.doConnect
  split
  · exact holds
  split
  · exact holds
  have counted := kept.steered { c.control with resolves := c.resolves + 1 } holds
  exact kept.noted (.attempt c.resolves c.connects c.connected) (by simp) counted

theorem withRequestId (j : Json) (holds : P c) : P (c.withRequestId j).2 := by
  obtain ⟨ids, numbered⟩ := withRequestId_snd c j
  rw [numbered]
  exact kept.steered { c.control with requestIds := ids } holds

theorem call (k : ClientCall) (holds : P c) : P (c.call config k).1 := by
  cases k with
  | markAuthed value => exact kept.steered { c.control with authed := value } holds
  | noteHeartbeatAck => exact kept.acked holds
  | stop => exact kept.steered { c.control with stopping := true } holds
  | start => exact kept.steered { c.control with stopping := false } holds
  | sendFramed body => exact holds
  | sendJson j throws =>
      have numbered := kept.withRequestId j holds
      simp only [DBMiddlewareClient.call]
      split
      · rename_i same
        rw [same] at numbered
        exact kept.giveUp numbered
      · rename_i same
        rw [same] at numbered
        split
        · exact kept.giveUp numbered
        · exact numbered
  | sendSecureJson j =>
      have numbered := kept.withRequestId j holds
      simp only [DBMiddlewareClient.call]
      split <;> rename_i same <;> rw [same] at numbered <;> exact numbered

theorem runJob (job : StrandJob) (holds : P c) : P (c.runJob config job) := by
  cases job with
  | connect => exact kept.doConnect holds
  | close =>
      exact kept.steered { c.control with
        reconnectTimer := c.reconnectTimer.cancel
        heartbeatTimer := c.heartbeatTimer.cancel } (kept.lost holds)
  | push frame => exact kept.pushed frame holds

theorem callInline (k : ClientCall) (holds : P c) : P (c.callInline config k) := by
  have own : P (c.call config k).1 := kept.call k holds
  unfold DBMiddlewareClient.callInline
  split <;> rename_i same <;> rw [same] at own
  · exact own
  · exact kept.runJob _ own

theorem callFrom (k : ClientCall) (holds : P c) : P (c.callFrom config k) := by
  have own : P (c.call config k).1 := kept.call k holds
  rw [DBMiddlewareClient.callFrom]
  exact kept.steered { (c.call config k).1.control with
    jobs := (c.call config k).1.jobs ++ (c.call config k).2.toList } own

/-- The calls of a whole batch of messages. -/
theorem calls (ks : List ClientCall) (holds : P c) :
    P (ks.foldl (DBMiddlewareClient.callInline config) c) := by
  induction ks generalizing c with
  | nil => exact holds
  | cons k ks ih => exact ih (kept.callInline k holds)

theorem serverSendLogin (holds : P c) : P (c.serverSendLogin config) := by
  unfold DBMiddlewareClient.serverSendLogin
  split
  · exact holds
  · exact kept.callInline _ (kept.steered { c.control with serverLoginSent := true } holds)

theorem armHeartbeatTimer (holds : P c) : P c.armHeartbeatTimer :=
  kept.steered { c.control with heartbeatTimer := c.heartbeatTimer.arm } holds

theorem onReconnectTimer (how : WaitEnd) (holds : P c) : P (c.onReconnectTimer config how) := by
  unfold DBMiddlewareClient.onReconnectTimer
  split
  · exact holds
  · exact kept.doConnect holds

end Kept

end DBMiddlewareClient

/-! ## Runs of the client -/

/-- A call from another thread, a job of the strand, or the end of an operation. -/
inductive ClientEvent where
  | call (k : ClientCall)
  | job (job : StrandJob)
  | resolved (failed : Bool)
  | connectDone (failed : Bool)
  | readDone (opened : Nat) (result : Option Bytes) (react : Message → List ClientCall)
  | writeDone (opened : Nat) (failed : Bool)
  | reconnectTimer (how : WaitEnd)
  | heartbeatTimer (how : WaitEnd)

open DBMiddlewareClient in
/-- An operation that is not outstanding does not end. -/
def clientStep (config : ClientConfig) (c : DBMiddlewareClient) : ClientEvent → DBMiddlewareClient
  | .call k => c.callFrom config k
  | .job job =>
      if job ∈ c.jobs then { c with jobs := c.jobs.erase job }.runJob config job else c
  | .resolved failed =>
      if 0 < c.resolves then { c with resolves := c.resolves - 1 }.onResolve failed else c
  | .connectDone failed =>
      if 0 < c.connects then { c with connects := c.connects - 1 }.onConnect config failed else c
  | .readDone opened result react =>
      if opened ∈ c.reads then
        { c with reads := c.reads.erase opened }.onRead config opened react result
      else c
  | .writeDone opened failed =>
      if opened ∈ c.writes then
        { c with writes := c.writes.erase opened }.onWrite opened failed
      else c
  | .reconnectTimer how =>
      match c.reconnectTimer.finish how with
      | none => c
      | some t => { c with reconnectTimer := t }.onReconnectTimer config how
  | .heartbeatTimer how =>
      match c.heartbeatTimer.finish how with
      | none => c
      | some t => { c with heartbeatTimer := t }.onHeartbeatTimer config how

/-- The steps that make no connection and end no read, write or heartbeat wait. -/
def ClientEvent.plain : ClientEvent → Bool
  | .call _ | .job _ | .resolved _ | .connectDone true | .reconnectTimer _ => true
  | _ => false

namespace DBMiddlewareClient.Kept

variable {config : ClientConfig} {P : DBMiddlewareClient → Prop} (kept : Kept P)
  {c : DBMiddlewareClient}

include kept

theorem plain_step {e : ClientEvent} (plain : e.plain = true) (holds : P c) :
    P (clientStep config c e) := by
  cases e with
  | call k => exact kept.callFrom k holds
  | job job =>
      rw [clientStep]
      split
      · exact kept.runJob job (kept.steered { c.control with jobs := c.jobs.erase job } holds)
      · exact holds
  | resolved failed =>
      have fewer := kept.steered { c.control with resolves := c.resolves - 1 } holds
      rw [clientStep]
      split
      · rw [onResolve]
        split
        · exact kept.scheduleReconnect fewer
        · exact kept.steered (c := c) { c.control with
            resolves := c.resolves - 1, connects := c.connects + 1 } holds
      · exact holds
  | connectDone failed =>
      cases failed with
      | false => cases plain
      | true =>
          rw [clientStep]
          split
          · exact kept.scheduleReconnect
              (kept.steered { c.control with connects := c.connects - 1 } holds)
          · exact holds
  | reconnectTimer how =>
      rw [clientStep]
      split
      · exact holds
      · rename_i t _
        exact kept.onReconnectTimer how
          (kept.steered { c.control with reconnectTimer := t } holds)
  | readDone opened result react => cases plain
  | writeDone opened failed => cases plain
  | heartbeatTimer how => cases plain

/-- A property that does not look at the heartbeats is kept by their handler. -/
theorem heartbeat_step (unheard : ∀ {c : DBMiddlewareClient} (missed : Int) (sent : Nat)
      (journal : List ClientNote), P c →
      P { c with missedHeartbeat := missed, sentSince := sent, journal := journal })
    (how : WaitEnd) (holds : P c) : P (clientStep config c (.heartbeatTimer how)) := by
  have sends : ∀ {c : DBMiddlewareClient}, P c → P (c.sendHeartbeat config) := by
    intro c holds
    exact unheard _ _ (c.callInline config _).journal (kept.callInline _ holds)
  rw [clientStep]
  split
  · exact holds
  rename_i t _
  have found : P { c with heartbeatTimer := t } :=
    kept.steered { c.control with heartbeatTimer := t } holds
  rw [onHeartbeatTimer]
  split
  · exact found
  split
  · dsimp only
    split
    · exact kept.giveUp (unheard _ _ _ (sends found))
    · exact kept.armHeartbeatTimer (sends found)
  · exact kept.armHeartbeatTimer found

/-- A property that does not look at the inbound side is kept by the read handler. -/
theorem read_step (unread : ∀ {c : DBMiddlewareClient} (msgBuf : MessageBufferManager)
      (received : List Bytes) (handed : List Message) (reads : List Nat), P c →
      P { c with msgBuf := msgBuf, received := received, handed := handed, reads := reads })
    (opened : Nat) (result : Option Bytes) (react : Message → List ClientCall) (holds : P c) :
    P (clientStep config c (.readDone opened result react)) := by
  rw [clientStep]
  split
  · have ended : P { c with reads := c.reads.erase opened } := unread _ _ _ _ holds
    generalize { c with reads := c.reads.erase opened } = c at ended
    cases result with
    | none => exact kept.giveUpFrom opened ended
    | some data =>
        have taken : P (c.takeIn config opened data) := unread _ _ _ _ ended
        have called : P ((reactions config react c data).foldl
            (DBMiddlewareClient.callInline config) (c.takeIn config opened data)) :=
          kept.calls _ taken
        rw [onRead]
        split
        · exact kept.giveUpFrom opened called
        · rw [doReadSome]
          split
          · exact unread _ _ _ _ called
          · exact called
  · exact holds

end DBMiddlewareClient.Kept

end GameServer.Dbmw
