/-
# Dbmw.Acks -- the middleware's messages, as JSON and as protobuf

`DBmwRouter::handle` takes a message in either form.  JSON goes through the request
table and the registered handlers; an envelope is switched on in place and, for
query results and errors, turned into JSON and handled as such.

* `deliver_agrees_iff` -- an acknowledgement, result or error leaves client and
  request table the same in both forms, except a server login acknowledgement,
  which agrees only where neither form has anything to change;
* `login_ok_disagrees` -- the acknowledgement `"OK"` authenticates as JSON only.
-/
import GameServer.Dbmw.Client
import GameServer.Dbmw.Router

namespace GameServer.Dbmw

set_option autoImplicit false

open Wire

universe u

variable {κ : Type u}

/-! ## The registered handlers -/

def serverLoginAckType : String := "server_login_ack"

def keepaliveAckType : String := "keepalive_ack"

/-- What `DBmwHandlerRegistry::attach` registers. -/
def registeredTypes : List String := [keepaliveAckType, serverLoginAckType]

/-- `OnServerLoginAck`; the nickname is only logged. -/
def onServerLoginAck (j : Json) : Except JsonError (List ClientCall) :=
  match j.valueStr "result" "", j.valueStr "nickname" "" with
  | .ok result, .ok _ =>
      if result = "OK" then .ok [.markAuthed true] else .ok [.markAuthed false, .stop, .start]
  | .error e, _ => .error e
  | _, .error e => .error e

/-- `OnServerKeepAliveAck`. -/
def onServerKeepAliveAck : List ClientCall := [.noteHeartbeatAck]

/-- What the handler of a type calls on the client; one that throws has called
nothing. -/
def handlerCalls (type : String) (j : Json) : List ClientCall :=
  if type = serverLoginAckType then
    match onServerLoginAck j with
    | .ok calls => calls
    | .error _ => []
  else if type = keepaliveAckType then onServerKeepAliveAck
  else []

def Effect.clientCalls : Effect κ → List ClientCall
  | .handler type j => handlerCalls type j
  | _ => []

/-! ## The two entry points -/

/-- The JSON an envelope's query result is turned into. -/
def DbQueryResult.toJson (r : DbQueryResult) : Json :=
  .obj [("type", .str "db_query_result"), ("api", .str r.api), ("code", .number r.code),
    ("req_id", .str r.reqId), ("data", .str r.dataJson)]

def ErrorReply.toJson (e : ErrorReply) : Json :=
  .obj [("type", .str "db_error"), ("code", .number e.code), ("req_id", .str e.reqId),
    ("msg", .str e.msg)]

namespace DBmwRouter

/-- `handle(const json&)`, with what it calls on the client. -/
def handleJson (j : Json) (r : DBmwRouter κ) :
    DBmwRouter κ × List (Effect κ) × List ClientCall :=
  let (r, effects) := r.handle j
  (r, effects, effects.flatMap Effect.clientCalls)

theorem handleJson_eq (j : Json) (r : DBmwRouter κ) :
    r.handleJson j = ((r.handle j).1, (r.handle j).2, (r.handle j).2.flatMap Effect.clientCalls) :=
  rfl

/-- `handle(const wire::Envelope&)`. -/
def handleEnvelope (env : Envelope) (r : DBmwRouter κ) :
    DBmwRouter κ × List (Effect κ) × List ClientCall :=
  match env.type with
  | .serverLoginAck =>
      (r, [], if env.serverLoginAck.result = "ok" then [.markAuthed true] else [])
  | .keepaliveAck => (r, [], [.noteHeartbeatAck])
  | .dbQueryResult => r.handleJson env.dbQueryResult.toJson
  | .errorMsg => r.handleJson env.error.toJson
  | .unknown | .other _ => (r, [], [])

def handleMessage (r : DBmwRouter κ) : Message →
    DBmwRouter κ × List (Effect κ) × List ClientCall
  | .proto env => r.handleEnvelope env
  | .json j => r.handleJson j

end DBmwRouter

/-- The client and the router it hands its messages to, once the handlers are
attached. -/
structure Middleware (κ : Type u) where
  client : DBMiddlewareClient
  router : DBmwRouter κ
  attached : router.handlers = registeredTypes

/-! ## No message changes the handlers -/

namespace DBmwRouter

theorem answer_handlers (reqId : String) (j : Json) (type : String) (r : DBmwRouter κ) :
    (r.answer reqId j type).1.handlers = r.handlers := by
  rw [answer_router, fulfillAndEraseLocked]
  split <;> rfl

theorem handle_handlers (j : Json) (r : DBmwRouter κ) : (r.handle j).1.handlers = r.handlers := by
  rcases r.handle_cases j with ⟨type, reqId, -, given⟩ | ⟨type, -, given⟩ | ⟨e, given⟩
  · rw [given]
    exact answer_handlers _ _ _ _
  · rw [given]
    rfl
  · rw [given]

theorem handleMessage_handlers (message : Message) (r : DBmwRouter κ) :
    (r.handleMessage message).1.handlers = r.handlers := by
  cases message with
  | json j => exact handle_handlers j r
  | proto env =>
      show (r.handleEnvelope env).1.handlers = r.handlers
      unfold handleEnvelope
      split
      · rfl
      · rfl
      · rw [handleJson_eq]
        exact handle_handlers _ r
      · rw [handleJson_eq]
        exact handle_handlers _ r
      · rfl
      · rfl

end DBmwRouter

/-- A message handed from the client to the router. -/
def Middleware.deliver (config : ClientConfig) (m : Middleware κ) (message : Message) :
    Middleware κ where
  client := (m.router.handleMessage message).2.2.foldl (DBMiddlewareClient.callInline config) m.client
  router := (m.router.handleMessage message).1
  attached := (DBmwRouter.handleMessage_handlers message m.router).trans m.attached

/-! ## One message in two forms -/

/-- What the middleware says, in either form.  The data of a result are JSON in the
one form and a text in the other. -/
inductive Ack where
  | serverLogin (result nickname : String)
  | keepalive
  | queryResult (reqId : String) (code : Int) (api dataJson : String) (data : Json)
  | error (reqId : String) (code : Int) (msg : String)

namespace Ack

def envelope : Ack → Envelope
  | .serverLogin result nickname => ⟨.serverLoginAck, .serverLoginAck ⟨result, nickname⟩⟩
  | .keepalive => ⟨.keepaliveAck, .keepaliveAck⟩
  | .queryResult reqId code api dataJson _ => ⟨.dbQueryResult, .dbQueryResult ⟨reqId, code, api, dataJson⟩⟩
  | .error reqId code msg => ⟨.errorMsg, .error ⟨reqId, code, msg⟩⟩

def json : Ack → Json
  | .serverLogin result nickname =>
      .obj [("type", .str "server_login_ack"), ("result", .str result), ("nickname", .str nickname)]
  | .keepalive => .obj [("type", .str "keepalive_ack")]
  | .queryResult reqId code api _ data =>
      .obj [("type", .str "db_query_result"), ("req_id", .str reqId), ("code", .number code),
        ("api", .str api), ("data", data)]
  | .error reqId code msg =>
      .obj [("type", .str "db_error"), ("req_id", .str reqId), ("code", .number code),
        ("msg", .str msg)]

end Ack

/-- What the two forms are compared in: authentication, the connection and what the
client does about it, the count of missed heartbeats, the request table. -/
structure Standing (κ : Type u) where
  authed : Bool
  connected : Bool
  stopping : Bool
  resolves : Nat
  connects : Nat
  reconnectTimer : Timer
  heartbeatTimer : Timer
  missedHeartbeat : Int
  pending : AList (fun _ : String => Pending κ)

def Middleware.standing (m : Middleware κ) : Standing κ :=
  ⟨m.client.authed, m.client.connected, m.client.stopping, m.client.resolves, m.client.connects,
    m.client.reconnectTimer, m.client.heartbeatTimer, m.client.missedHeartbeat, m.router.pending⟩

/-- A restart has nothing to undo and, on a misconfigured port, nothing to begin. -/
def DBMiddlewareClient.Inert (config : ClientConfig) (c : DBMiddlewareClient) : Prop :=
  (config.port : Int) = config.tcpPort ∧ c.authed = false ∧ c.connected = false ∧
    c.stopping = false ∧ c.reconnectTimer.armed = false ∧ c.heartbeatTimer.armed = false

/-- When the two forms of a message come to the same: any but a server login
acknowledgement, `"OK"` to an authenticated client, and a refusal (any result but
the two spellings of success) to an inert one. -/
def Ack.Agrees (config : ClientConfig) (c : DBMiddlewareClient) : Ack → Prop
  | .serverLogin result _ =>
      (result = "OK" ∧ c.authed = true) ∨
        (result ≠ "OK" ∧ result ≠ "ok" ∧ c.Inert config)
  | _ => True

/-! ## Results and errors -/

namespace DBmwRouter

/-- The table looks at a response's type and request id only. -/
theorem handle_router_congr {j j' : Json} (type : j.valueStr "type" "" = j'.valueStr "type" "")
    (reqId : j.valueStr "req_id" "" = j'.valueStr "req_id" "") (r : DBmwRouter κ) :
    (r.handle j).1 = (r.handle j').1 := by
  unfold handle
  rw [type, reqId]
  split
  · rfl
  split
  · split
    · rfl
    · split
      · rw [answer_router, answer_router, fulfillAndEraseLocked, fulfillAndEraseLocked]
        split <;> rfl
      · rfl
  · rfl

/-- A response of a type without a handler calls nothing on the client. -/
theorem handle_clientCalls {j : Json} {type : String} (typed : j.valueStr "type" "" = .ok type)
    (r : DBmwRouter κ) (unregistered : type ∉ r.handlers) :
    (r.handle j).2.flatMap Effect.clientCalls = [] := by
  have passed : (r.passOn type j).2 = [] := if_neg unregistered
  rcases r.handle_cases j with
    ⟨type, reqId, -, given⟩ | ⟨type, typed', given⟩ | ⟨e, given⟩
  · rw [given]
    unfold answer
    split
    · rfl
    · rename_i p found
      simp only [fulfillAndEraseLocked, found]
      split
      · split
        · cases p.onOk <;> rfl
        · cases p.onError <;> rfl
      · rfl
  · cases typed.symm.trans typed'
    rw [given, passed]
    rfl
  · rw [given]
    rfl

/-- A message of a type that answers no request goes to its handler. -/
theorem handle_passOn {j : Json} {type : String} (typed : j.valueStr "type" "" = .ok type)
    (unsolicited : ¬ (type = okType ∨ type ∈ errorTypes)) (r : DBmwRouter κ)
    (registered : type ∈ r.handlers) : r.handle j = (r, [.handler type j]) := by
  simp [handle, typed, unsolicited, passOn, registered]

end DBmwRouter

/-! ## The forms compared -/

namespace Middleware

variable {config : ClientConfig}

theorem deliver_standing_congr {m : Middleware κ} {message message' : Message}
    (router : (m.router.handleMessage message).1 = (m.router.handleMessage message').1)
    (calls : (m.router.handleMessage message).2.2 = (m.router.handleMessage message').2.2) :
    (m.deliver config message).standing = (m.deliver config message').standing := by
  simp only [standing, deliver, router, calls]

/-- Two responses alike in type and request id, of a type nobody registered. -/
theorem respond_standing (m : Middleware κ) {j j' : Json} {type : String}
    (typed : j.valueStr "type" "" = .ok type) (typed' : j'.valueStr "type" "" = .ok type)
    (reqId : j.valueStr "req_id" "" = j'.valueStr "req_id" "") (unregistered : type ∉ registeredTypes) :
    (m.router.handleJson j).1 = (m.router.handleJson j').1 ∧
      (m.router.handleJson j).2.2 = (m.router.handleJson j').2.2 := by
  rw [← m.attached] at unregistered
  refine ⟨DBmwRouter.handle_router_congr (typed.trans typed'.symm) reqId m.router, ?_⟩
  rw [DBmwRouter.handleJson_eq, DBmwRouter.handleJson_eq]
  exact (DBmwRouter.handle_clientCalls typed _ unregistered).trans
    (DBmwRouter.handle_clientCalls typed' _ unregistered).symm

/-- A server login acknowledgement as JSON reaches its handler. -/
theorem handle_serverLogin (m : Middleware κ) (result nickname : String) :
    m.router.handleMessage (.json (Ack.serverLogin result nickname).json) =
      (m.router, [.handler serverLoginAckType (Ack.serverLogin result nickname).json],
        if result = "OK" then [.markAuthed true] else [.markAuthed false, .stop, .start]) := by
  have registered : serverLoginAckType ∈ m.router.handlers := by
    rw [m.attached]
    decide
  have passed : m.router.handle (Ack.serverLogin result nickname).json =
      (m.router, [.handler serverLoginAckType (Ack.serverLogin result nickname).json]) :=
    DBmwRouter.handle_passOn rfl (by decide) m.router registered
  rw [DBmwRouter.handleMessage, DBmwRouter.handleJson_eq, passed]
  by_cases ok : result = "OK" <;>
    simp [Effect.clientCalls, handlerCalls, onServerLoginAck, Ack.json, Json.valueStr,
      Json.lookup, ok]

/-- A restart as it leaves the client. -/
theorem restart_standing (m : Middleware κ) (c : DBMiddlewareClient)
    (restarted : c = [ClientCall.markAuthed false, .stop, .start].foldl
      (DBMiddlewareClient.callInline config) m.client) :
    { m with client := c }.standing =
      { m.standing with
        authed := false
        connected := false
        stopping := false
        resolves := m.client.resolves + (if (config.port : Int) = config.tcpPort then 0 else 1)
        reconnectTimer := m.client.reconnectTimer.cancel
        heartbeatTimer := m.client.heartbeatTimer.cancel } := by
  subst restarted
  by_cases guarded : (config.port : Int) = config.tcpPort <;>
    simp [standing, DBMiddlewareClient.callInline, DBMiddlewareClient.call,
      DBMiddlewareClient.runJob, DBMiddlewareClient.closeSocket, DBMiddlewareClient.doConnect,
      guarded]

theorem cancel_eq_iff (t : Timer) : t.cancel = t ↔ t.armed = false := by
  obtain ⟨armed, cancelled⟩ := t
  cases armed <;> simp [Timer.cancel]

/-- A refusal changes nothing in an inert client only. -/
theorem restart_standing_iff (m : Middleware κ) (c : DBMiddlewareClient)
    (restarted : c = [ClientCall.markAuthed false, .stop, .start].foldl
      (DBMiddlewareClient.callInline config) m.client) :
    m.standing = { m with client := c }.standing ↔ m.client.Inert config := by
  rw [restart_standing m c restarted]
  constructor
  · intro same
    have fields := same
    simp only [standing, Standing.mk.injEq] at fields
    obtain ⟨authed, connected, stopping, resolves, -, reconnect, heartbeat, -, -⟩ := fields
    refine ⟨?_, authed, connected, stopping, (cancel_eq_iff _).mp reconnect.symm,
      (cancel_eq_iff _).mp heartbeat.symm⟩
    by_contra other
    rw [if_neg other] at resolves
    omega
  · rintro ⟨port, authed, connected, stopping, reconnect, heartbeat⟩
    simp only [standing, authed, connected, stopping, port, if_true, Nat.add_zero,
      (cancel_eq_iff _).mpr reconnect, (cancel_eq_iff _).mpr heartbeat]

/-- The two forms of a server login acknowledgement. -/
theorem serverLogin_agrees_iff (config : ClientConfig) (m : Middleware κ)
    (result nickname : String) :
    (m.deliver config (.proto (Ack.serverLogin result nickname).envelope)).standing =
        (m.deliver config (.json (Ack.serverLogin result nickname).json)).standing ↔
      (Ack.serverLogin result nickname).Agrees config m.client := by
  have handled := m.handle_serverLogin result nickname
  have proto : m.router.handleMessage (.proto (Ack.serverLogin result nickname).envelope) =
      (m.router, [], if result = "ok" then [.markAuthed true] else []) := rfl
  by_cases upper : result = "OK"
  · subst upper
    have left : (m.deliver config (.proto (Ack.serverLogin "OK" nickname).envelope)).standing =
        m.standing := by simp [standing, deliver, proto]
    have right : (m.deliver config (.json (Ack.serverLogin "OK" nickname).json)).standing =
        { m.standing with authed := true } := by
      simp [standing, deliver, handled, DBMiddlewareClient.callInline, DBMiddlewareClient.call]
    rw [left, right]
    simp [standing, Ack.Agrees]
  · have right : (m.deliver config (.json (Ack.serverLogin result nickname).json)).standing =
        { m with
          client := [ClientCall.markAuthed false, .stop, .start].foldl
            (DBMiddlewareClient.callInline config) m.client }.standing := by
      simp [standing, deliver, handled, upper]
    by_cases lower : result = "ok"
    · subst lower
      have left : (m.deliver config (.proto (Ack.serverLogin "ok" nickname).envelope)).standing =
          { m.standing with authed := true } := by
        simp [standing, deliver, proto, DBMiddlewareClient.callInline, DBMiddlewareClient.call]
      -- one form authenticates, the other takes the authentication back
      rw [left, right, restart_standing m _ rfl]
      simp [standing, Ack.Agrees]
    · have left : (m.deliver config (.proto (Ack.serverLogin result nickname).envelope)).standing =
          m.standing := by simp [standing, deliver, proto, lower]
      rw [left, right, restart_standing_iff m _ rfl]
      simp [Ack.Agrees, upper, lower]

/-- **Delivered as an envelope or as JSON, a message leaves client and request table
the same if and only if it is no server login acknowledgement with work to do.** -/
theorem deliver_agrees_iff (config : ClientConfig) (m : Middleware κ) (ack : Ack) :
    (m.deliver config (.proto ack.envelope)).standing =
        (m.deliver config (.json ack.json)).standing ↔
      ack.Agrees config m.client := by
  cases ack with
  | serverLogin result nickname => exact serverLogin_agrees_iff config m result nickname
  | keepalive =>
      have registered : keepaliveAckType ∈ m.router.handlers := by
        rw [m.attached]
        decide
      have passed : m.router.handle Ack.keepalive.json =
          (m.router, [.handler keepaliveAckType Ack.keepalive.json]) :=
        DBmwRouter.handle_passOn rfl (by decide) m.router registered
      have handled : m.router.handleMessage (.json Ack.keepalive.json) =
          (m.router, [.handler keepaliveAckType Ack.keepalive.json], [.noteHeartbeatAck]) := by
        rw [DBmwRouter.handleMessage, DBmwRouter.handleJson_eq, passed]
        rfl
      refine iff_of_true (deliver_standing_congr ?_ ?_) trivial <;> rw [handled] <;> rfl
  | queryResult reqId code api dataJson data =>
      obtain ⟨router, calls⟩ : _ ∧ _ := m.respond_standing
        (show (DbQueryResult.mk reqId code api dataJson).toJson.valueStr "type" "" = .ok _ from rfl)
        (show (Ack.queryResult reqId code api dataJson data).json.valueStr "type" "" = .ok _ from rfl)
        rfl (by decide)
      exact iff_of_true (deliver_standing_congr router calls) trivial
  | error reqId code msg =>
      obtain ⟨router, calls⟩ : _ ∧ _ := m.respond_standing
        (show (ErrorReply.mk reqId code msg).toJson.valueStr "type" "" = .ok _ from rfl)
        (show (Ack.error reqId code msg).json.valueStr "type" "" = .ok _ from rfl) rfl (by decide)
      exact iff_of_true (deliver_standing_congr router calls) trivial

/-- A middleware link just connected. -/
def justConnected : Middleware κ where
  client := { connected := true }
  router := { handlers := registeredTypes }
  attached := rfl

/-- **`"OK"` authenticates as JSON and does nothing as protobuf.** -/
theorem login_ok_disagrees :
    ¬ ∀ (config : ClientConfig) (m : Middleware Nat) (ack : Ack),
      (m.deliver config (.proto ack.envelope)).standing =
        (m.deliver config (.json ack.json)).standing := by
  intro always
  have authed := congrArg Standing.authed
    (always (.small []) justConnected (.serverLogin "OK" "Server_1"))
  revert authed
  decide +kernel

end Middleware

end GameServer.Dbmw
