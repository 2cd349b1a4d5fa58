/-
# Kernel.Login -- the TCP message handlers and `LoginFlow`

`dispatch` gives a client's message to the handler of its type.  A login evicts
the session the nickname index names, then asks the DB middleware; without a
router or a connection the flow completes at once, as if the answer were code 0.
`onUserInfoOk` is the completion: it files the session, takes the nickname from
whoever holds it and puts the session in the default zone.  Nothing in the flow
looks at the session's generation.
-/
import GameServer.Kernel.Server

namespace GameServer.Kernel

set_option autoImplicit false

open Wire Dbmw

/-- How an `async_read_some` completes. -/
inductive ReadResult where
  | data (bytes : Bytes)
  | eof
  | connectionReset
  | aborted
  | error
deriving DecidableEq, Repr

/-! ## Texts sent to clients -/

def duplicateLoginBan : String :=
  "\x7b\"type\":\"error\",\"msg\":\"Duplicate login ban\"\x7d"

def nicknameRequired : String :=
  "\x7b\"type\":\"error\",\"msg\":\"nickname required\"\x7d"

def notLoggedIn : String :=
  "\x7b\"type\":\"logout\",\"msg\":\"You are not logged in.\"\x7d\n"

def missingType : String :=
  "\x7b\"type\":\"error\",\"msg\":\"Missing message type field\"\x7d\n"

def invalidFieldType : String :=
  "\x7b\"type\":\"error\",\"msg\":\"Invalid JSON field type\"\x7d\n"

def unknownType : String :=
  "\x7b\"type\":\"error\",\"msg\":\"Unknown message type\"\x7d\n"

/-- `{"type": type, "msg": text}`. -/
def notice (type text : String) : Json := .obj [("type", .str type), ("msg", .str text)]

def chatMessage (type sender text : String) : Json :=
  .obj [("type", .str type), ("from", .str sender), ("msg", .str text)]

namespace Server

/-- `post_write(out.dump() + "\n")`. -/
def postLine (env : Env) (here : Here) (srv : Server) (s : Ref) (out : Json) : Server :=
  srv.postWrite env here s (env.dump out ++ "\n")

/-! ## LoginFlow -/

/-- `complete_success`. -/
def completeSuccess (env : Env) (here : Here) (srv : Server) (flow : LoginFlow) : Server :=
  srv.postLine env here flow.session
    (.obj [("type", .str "login_success"), ("nickname", .str flow.nickname)])

/-- `complete_fail`. -/
def completeFail (env : Env) (here : Here) (srv : Server) (flow : LoginFlow) (reason : String) :
    Server :=
  srv.postLine env here flow.session
    (.obj [("type", .str "login_result"), ("ok", .bool false), ("error", .str reason)])

/-- The part of `on_user_info_ok` that decides who the session is: filing it,
evicting the holder of the nickname, registering, naming and zoning it. -/
def enroll (env : Env) (here : Here) (srv : Server) (flow : LoginFlow) : Server :=
  let s := flow.session
  let generation := (srv.obj s).generation
  let srv := srv.addSession s
  let srv :=
    match srv.manager.findSessionByNickname flow.nickname with
    | some p => if p ≠ s then (srv.postWrite env here p duplicateLoginBan).closeSession p else srv
    | none => srv
  let registering := srv.serving s
  let srv := srv.registerNickname env here flow.nickname s
  let naming := srv.serving s
  let srv := srv.modify s fun x => { x with nickname := flow.nickname }
  let srv := srv.modify s Session.onNicknameRegistered
  let zoning := srv.serving s
  let srv := srv.assignSessionToZone env s 1
  srv.note (.enroll flow generation [registering, naming, zoning] (srv.obj s).zoneId)

/-- `on_user_info_ok`. -/
def onUserInfoOk (env : Env) (here : Here) (srv : Server) (flow : LoginFlow) (j : Json) : Server :=
  match j.valueInt "code" (-1) with
  -- the exception leaves the callback; nothing has been done yet
  | .error _ => srv
  | .ok code =>
      if code ≠ 0 then srv.completeFail env here flow "user_not_found"
      else
        let srv := srv.enroll env here flow
        let entered := env.dump (notice "notice" (flow.nickname ++ " has entered.")) ++ "\n"
        let srv := srv.broadcast env here entered (srv.obj flow.session).sessionId
        srv.completeSuccess env here flow

/-- The `on_error` callback: `on_user_info_fail` on the answer's `msg`, which the
conversion makes a string again. -/
def onUserInfoFail (env : Env) (here : Here) (srv : Server) (flow : LoginFlow) (j : Json) : Server :=
  match j.valueStr "msg" "timeout" with
  | .error _ => srv
  | .ok reason => srv.completeFail env here flow reason

/-- A callback the router invoked, run on no session's strand. -/
def runEffect (env : Env) (srv : Server) : Effect LoginFlow → Server
  | .call _ .onOk flow j => srv.onUserInfoOk env none flow j
  | .call _ .onError flow j => srv.onUserInfoFail env none flow j
  | .refused flow j => srv.onUserInfoFail env none flow j
  | _ => srv

/-- The effects of a step of the router. -/
def runEffects (env : Env) (srv : Server) (effects : List (Effect LoginFlow)) : Server :=
  effects.foldl (runEffect env) srv

/-- The answer a flow gives itself without the middleware. -/
def bypassAnswer (nickname : String) : Json :=
  .obj [("type", .str "db_query_result"), ("api", .str "request_user_info"), ("code", .number 0),
    ("data", .obj [("nickname", .str nickname)])]

/-- `request_user_info`.  The payload is an object, so building the request does
not throw. -/
def requestUserInfo (env : Env) (here : Here) (srv : Server) (flow : LoginFlow)
    (senderThrows : Bool) : Server :=
  match srv.dbRouter with
  | none => srv.onUserInfoOk env here flow (bypassAnswer flow.nickname)
  | some router =>
      if srv.dbConnected then
        let (router, effects) := router.sendRequestCb { pid := env.pid, senderThrows }
          "request_user_info" (.obj [("nickname", .str flow.nickname)]) true 2500 2
          (srv.obj flow.session).sessionId (some flow) (some flow)
        { srv with dbRouter := some router }.runEffects env effects
      else srv.onUserInfoOk env here flow (bypassAnswer flow.nickname)

/-! ## Handlers -/

/-- The part of `login_handler` that closes whoever holds the nickname. -/
def banDuplicate (env : Env) (here : Here) (srv : Server) (nickname : String) (s : Ref) : Server :=
  match srv.manager.findSessionByNickname nickname with
  | some p =>
      if p ≠ s then (srv.postWrite env here p (duplicateLoginBan ++ "\n")).close p else srv
  | none => srv

/-- `login_handler`, for a message the read of `origin` delivered. -/
def loginHandler (env : Env) (here : Here) (srv : Server) (origin : Origin) (msg : Json)
    (senderThrows : Bool) : Except JsonError Server :=
  let s := origin.session
  match msg.valueStr "nickname" "anonymity" with
  | .error e => .error e
  | .ok nickname =>
      .ok <|
        if nickname = "" then srv.postWrite env here s nicknameRequired
        else if nickname = "quit" then (srv.postWrite env here s notLoggedIn).close s
        else
          (srv.banDuplicate env here nickname s).requestUserInfo env here ⟨origin, nickname⟩
            senderThrows

/-- `logout_handler`. -/
def logoutHandler (env : Env) (here : Here) (srv : Server) (s : Ref) : Server :=
  let nickname := (srv.obj s).nickname
  if nickname = "" then (srv.postWrite env here s notLoggedIn).close s
  else
    let left := env.dump (notice "notice" (nickname ++ " has left.")) ++ "\n"
    (srv.broadcast env here left (srv.obj s).sessionId).close s

/-- `chat_handler`. -/
def chatHandler (env : Env) (here : Here) (srv : Server) (s : Ref) (msg : Json) :
    Except JsonError Server :=
  match msg.valueStr "msg" "" with
  | .error e => .error e
  | .ok text =>
      let out := env.dump (chatMessage "chat" (srv.obj s).nickname text) ++ "\n"
      let srv := srv.broadcast env here out (srv.obj s).sessionId
      .ok (srv.postLine env here s (notice "notice" (text ++ " 'Message sent completed.' ")))

/-- `chatzone_handler`. -/
def chatZoneHandler (env : Env) (here : Here) (srv : Server) (s : Ref) (msg : Json) :
    Except JsonError Server :=
  let zoneId := (srv.obj s).zoneId
  if zoneId ≤ 0 then .ok (srv.postLine env here s (notice "error" "not in any zone"))
  else
    match msg.valueStr "msg" "" with
    | .error e => .error e
    | .ok text =>
        if text = "" then .ok (srv.postLine env here s (notice "error" "empty message"))
        else
          let out := env.dump (chatMessage "chat_zone" (srv.obj s).nickname text) ++ "\n"
          let srv := srv.broadcastZoneTcp env here out zoneId (srv.obj s).sessionId
          .ok (srv.postLine env here s
            (notice "notice" (text ++ " 'Message tcp_zone_sent completed.' ")))

/-- `keepalive_handler`. -/
def keepaliveHandler (srv : Server) (now : Time) (s : Ref) : Server :=
  srv.modify s fun x => { x with lastAliveTime := now }

/-- The handlers of `handlers_`, by type. -/
def handleMessage (env : Env) (here : Here) (srv : Server) (now : Time) (origin : Origin)
    (type : String) (msg : Json) (senderThrows : Bool) : Option (Except JsonError Server) :=
  let s := origin.session
  if type = "login" then some (srv.loginHandler env here origin msg senderThrows)
  else if type = "logout" then some (.ok (srv.logoutHandler env here s))
  else if type = "chat" then some (srv.chatHandler env here s msg)
  else if type = "chat_zone" then some (srv.chatZoneHandler env here s msg)
  else if type = "keepalive" then some (.ok (srv.keepaliveHandler now s))
  else none

/-- `MessageDispatcher::dispatch`.  A handler that throws has changed nothing. -/
def dispatch (env : Env) (here : Here) (srv : Server) (now : Time) (origin : Origin) (msg : Json)
    (senderThrows : Bool) : Server :=
  let s := origin.session
  match msg.valueStr "type" "" with
  | .error _ => srv.close s
  | .ok type =>
      if type = "" then srv.postWrite env here s missingType
      else
        match srv.handleMessage env here now origin type msg senderThrows with
        | some (.ok srv) => srv
        | some (.error .type) => srv.postWrite env here s invalidFieldType
        | some (.error .iterator) => srv.close s
        | none => (srv.postWrite env here s unknownType).close s

/-! ## The read handler -/

/-- `broadcast` of a departure. -/
def announceLeft (env : Env) (here : Here) (srv : Server) (s : Ref) : Server :=
  srv.broadcast env here
    (env.dump (notice "notice" ((srv.obj s).nickname ++ " has left.")) ++ "\n")
    (srv.obj s).sessionId

/-- The handler of `async_read_some`.  With data it stays in its extraction loop:
each turn of the loop is a `handlerStep`.  The bytes of a completion are those its handler
finds in `data_`, which all uses of the object share: what `reset` and `cleanup` write
there is not modelled. -/
def readDone (env : Env) (srv : Server) (op : ReadOp) (result : ReadResult) : Server :=
  let s := op.origin.session
  let here : Here := some (s, op.origin.strand)
  let srv := { srv with reads := srv.reads.erase op }
  let srv := srv.modify s fun x => { x with readPending := false }
  match result with
  | .data bytes =>
      { srv.modify s fun x => { x with msgBuf := x.msgBuf.append bytes } with
        handlers := srv.handlers ++ [op.origin] }
  | .eof => ((srv.announceLeft env here s).close s).runNextTask s
  | .connectionReset =>
      let srv := if (srv.obj s).nickname = "" then srv else srv.announceLeft env here s
      (srv.close s).runNextTask s
  | .aborted => srv.runNextTask s
  | .error => (srv.close s).runNextTask s

/-- One turn of the extraction loop of a read handler, or its end: the close on a
number out of range or on an invalid length, which return before `run_next_task`, or
the next read. -/
def handlerStep (env : Env) (srv : Server) (now : Time) (origin : Origin) (senderThrows : Bool) :
    Server :=
  let s := origin.session
  let here : Here := some (s, origin.strand)
  match (srv.obj s).msgBuf.extractMessage with
  | (some msg, m) =>
      let srv := srv.modify s fun x => { x with msgBuf := m }
      match env.parse msg with
      | none =>
          -- only a `parse_error` lets the loop go on
          if env.outOfRange msg then { srv with handlers := srv.handlers.erase origin }.close s
          else srv.postLine env here s (notice "error" "Invalid JSON format")
      | some j => srv.dispatch env here now origin j senderThrows
  | (none, m) =>
      let srv := { srv.modify s fun x => { x with msgBuf := m } with
        handlers := srv.handlers.erase origin }
      if m.lastClearByInvalidLength then srv.close s
      else (srv.doRead env here s).runNextTask s

section Turns

variable {env : Env} {srv : Server} {origin : Origin} {msg : Bytes} {m : MessageBufferManager}

/-- A number out of range ends the loop and the session. -/
theorem handlerStep_outOfRange
    (extracted : (srv.obj origin.session).msgBuf.extractMessage = (some msg, m))
    (parsed : env.parse msg = none) (range : env.outOfRange msg = true) (now : Time)
    (senderThrows : Bool) :
    srv.handlerStep env now origin senderThrows =
      { srv.modify origin.session fun x => { x with msgBuf := m } with
        handlers := srv.handlers.erase origin }.close origin.session := by
  simp only [handlerStep, extracted, parsed, range, if_true]
  rfl

theorem handlerStep_invalid
    (extracted : (srv.obj origin.session).msgBuf.extractMessage = (some msg, m))
    (parsed : env.parse msg = none) (range : env.outOfRange msg = false) (now : Time)
    (senderThrows : Bool) :
    srv.handlerStep env now origin senderThrows =
      (srv.modify origin.session fun x => { x with msgBuf := m }).postLine env
        (some (origin.session, origin.strand)) origin.session
        (notice "error" "Invalid JSON format") := by
  simp only [handlerStep, extracted, parsed, range, Bool.false_eq_true, if_false]

theorem handlerStep_dispatches {j : Json}
    (extracted : (srv.obj origin.session).msgBuf.extractMessage = (some msg, m))
    (parsed : env.parse msg = some j) (now : Time) (senderThrows : Bool) :
    srv.handlerStep env now origin senderThrows =
      (srv.modify origin.session fun x => { x with msgBuf := m }).dispatch env
        (some (origin.session, origin.strand)) now origin j senderThrows := by
  simp only [handlerStep, extracted, parsed]

/-- An invalid length ends the loop and the session. -/
theorem handlerStep_closes
    (extracted : (srv.obj origin.session).msgBuf.extractMessage = (none, m))
    (cleared : m.lastClearByInvalidLength = true) (now : Time) (senderThrows : Bool) :
    srv.handlerStep env now origin senderThrows =
      { srv.modify origin.session fun x => { x with msgBuf := m } with
        handlers := srv.handlers.erase origin }.close origin.session := by
  simp only [handlerStep, extracted, cleared, if_true]

theorem handlerStep_reads
    (extracted : (srv.obj origin.session).msgBuf.extractMessage = (none, m))
    (valid : m.lastClearByInvalidLength = false) (now : Time) (senderThrows : Bool) :
    srv.handlerStep env now origin senderThrows =
      ({ srv.modify origin.session fun x => { x with msgBuf := m } with
        handlers := srv.handlers.erase origin }.doRead env
          (some (origin.session, origin.strand)) origin.session).runNextTask origin.session := by
  simp only [handlerStep, extracted, valid, Bool.false_eq_true, if_false]

/-- What a turn of the loop does, and when. -/
theorem handlerStep_cases (env : Env) (srv : Server) (now : Time) (origin : Origin)
    (senderThrows : Bool) :
    (∃ msg m, (srv.obj origin.session).msgBuf.extractMessage = (some msg, m) ∧
      ((env.parse msg = none ∧ env.outOfRange msg = true ∧
          srv.handlerStep env now origin senderThrows =
            { srv.modify origin.session fun x => { x with msgBuf := m } with
              handlers := srv.handlers.erase origin }.close origin.session) ∨
        (env.parse msg = none ∧ env.outOfRange msg = false ∧
          srv.handlerStep env now origin senderThrows =
            (srv.modify origin.session fun x => { x with msgBuf := m }).postLine env
              (some (origin.session, origin.strand)) origin.session
              (notice "error" "Invalid JSON format")) ∨
        ∃ j, env.parse msg = some j ∧
          srv.handlerStep env now origin senderThrows =
            (srv.modify origin.session fun x => { x with msgBuf := m }).dispatch env
              (some (origin.session, origin.strand)) now origin j senderThrows)) ∨
    ∃ m, (srv.obj origin.session).msgBuf.extractMessage = (none, m) ∧
      ((m.lastClearByInvalidLength = true ∧
          srv.handlerStep env now origin senderThrows =
            { srv.modify origin.session fun x => { x with msgBuf := m } with
              handlers := srv.handlers.erase origin }.close origin.session) ∨
        (m.lastClearByInvalidLength = false ∧
          srv.handlerStep env now origin senderThrows =
            ({ srv.modify origin.session fun x => { x with msgBuf := m } with
              handlers := srv.handlers.erase origin }.doRead env
                (some (origin.session, origin.strand)) origin.session).runNextTask
                  origin.session)) := by
  rcases extracted : (srv.obj origin.session).msgBuf.extractMessage with ⟨_ | msg, m⟩
  · refine .inr ⟨m, rfl, ?_⟩
    cases cleared : m.lastClearByInvalidLength with
    | true => exact .inl ⟨rfl, handlerStep_closes extracted cleared now senderThrows⟩
    | false => exact .inr ⟨rfl, handlerStep_reads extracted cleared now senderThrows⟩
  · refine .inl ⟨msg, m, rfl, ?_⟩
    cases parsed : env.parse msg with
    | some j =>
        exact .inr (.inr ⟨j, rfl, handlerStep_dispatches extracted parsed now senderThrows⟩)
    | none =>
        cases range : env.outOfRange msg with
        | true =>
            exact .inl ⟨rfl, rfl, handlerStep_outOfRange extracted parsed range now senderThrows⟩
        | false =>
            exact .inr (.inl
              ⟨rfl, rfl, handlerStep_invalid extracted parsed range now senderThrows⟩)

end Turns

def loginTimedOut : String :=
  "\x7b\"type\":\"notice\",\"msg\":\"Your connection has been terminated due to a login timeout.\"\x7d\n"

/-- The wait of `start_login_timeout`, ended without an error. -/
def loginTimerFired (env : Env) (srv : Server) (timer : LoginTimer) : Server :=
  let s := timer.session
  let srv := { srv with loginTimers := srv.loginTimers.erase timer }
  if (srv.obj s).nicknameRegistered then srv
  else (srv.postWrite env (some (s, timer.strand)) s loginTimedOut).close s

/-- The handler of `async_write`, the one that checks the generation. -/
def writeDone (srv : Server) (op : WriteOp) (failed : Bool) : Server :=
  let s := op.session
  let srv := { srv with writes := srv.writes.erase op }
  if op.generation ≠ (srv.obj s).generation then srv
  else if failed then srv.close s
  else (srv.modify s fun x => { x with writeQueue := x.writeQueue.tail }).doWriteQueue s

/-- Work posted to a strand, run. -/
def runPost (env : Env) (srv : Server) (post : Post) : Server :=
  let srv := { srv with posts := srv.posts.erase post }
  match post.job with
  | .write message => srv.writeNow env post.session message
  | .task task => srv.pushTask env post.session task

/-! ## Sweeps -/

/-- The sessions `do_keepalive_check` collects. -/
def keepaliveCheck (srv : Server) (now : Time) : Server :=
  { srv with
    sweep := srv.sweep ++ srv.manager.sessions.filter fun s =>
      (srv.obj s).nicknameRegistered ∧ seconds 60 < now - (srv.obj s).lastAliveTime }

/-- The sessions `cleanup_inactive_sessions` collects. -/
def cleanupInactiveSessions (srv : Server) (now : Time) : Server :=
  { srv with
    sweep := srv.sweep ++ srv.manager.sessions.filter fun s =>
      seconds 300 < now - (srv.obj s).lastAliveTime }

/-- The next `close_session` of a sweep. -/
def sweepClose (srv : Server) (s : Ref) : Server :=
  { srv with sweep := srv.sweep.erase s }.close s

end Server

end GameServer.Kernel
