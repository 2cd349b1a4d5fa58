/-
# Dbmw.Wiring -- the middleware client and the router, as `main` joins them

`main` hands the messages of `DBMiddlewareClient` to a `DBmwRouter` and gives the
router the client's `send_json` and `send_secure_json` to send with.  It calls
`start` once; `stop` is the signal handler's.  A rejected server login, alone, calls
both from a message callback.

* `client_refines`, `router_refines` -- a run of the two is a run of each, so what
  holds of the runs of either holds here;
* `answers_arrived` -- what a callback of an entered request is given came off the
  client's connection, and nobody is called twice for one request;
* `never_idle` -- from `start` on, and until the signal, the client reads and has its
  heartbeat timer armed, or is about to connect, where `dbmw_port` is not `tcp_port`;
* `heartbeat_authenticated` -- it counts as authenticated, and has sent heartbeats, only
  after a message handed on since its connection was made told it of a successful login
  (`authenticates_iff`).
-/
import GameServer.Dbmw.Acks
import GameServer.Dbmw.Callbacks
import GameServer.Theory.Runs

namespace GameServer.Dbmw

set_option autoImplicit false

open Wire Theory.Runs

universe u

variable {κ : Type u}

/-! ## What a message calls on the client -/

/-- The calls of the router on the client; an answer makes none. -/
def Message.clientCalls : Message → List ClientCall
  | .proto env =>
      match env.type with
      | .serverLoginAck => if env.serverLoginAck.result = "ok" then [.markAuthed true] else []
      | .keepaliveAck => [.noteHeartbeatAck]
      | .dbQueryResult | .errorMsg | .unknown | .other _ => []
  | .json j =>
      match j.valueStr "type" "" with
      | .ok type => handlerCalls type j
      | .error _ => []

/-- The response a message is handled as, if it is one. -/
def Message.response : Message → Option Json
  | .proto env =>
      match env.type with
      | .dbQueryResult => some env.dbQueryResult.toJson
      | .errorMsg => some env.error.toJson
      | .serverLoginAck | .keepaliveAck | .unknown | .other _ => none
  | .json j => some j

/-! ## The two joined -/

/-- What the server asks of the router; responses come from the client alone. -/
def RouterCall (κ : Type u) : Type u := { e : RouterEvent κ // ∀ j, e ≠ .response j }

inductive MiddlewareEvent (κ : Type u) where
  | start
  | stop
  | job (job : StrandJob)
  | resolved (failed : Bool)
  | connectDone (failed : Bool)
  | readDone (opened : Nat) (result : Option Bytes)
  | writeDone (opened : Nat) (failed : Bool)
  | reconnectTimer (how : WaitEnd)
  | heartbeatTimer (how : WaitEnd)
  /-- `throws`: something between `send_json` and the strand throws. -/
  | request (ctx : StrandRun) (call : RouterCall κ) (throws : Bool)

/-- Client and router, with everything the router has done. -/
structure Wired (κ : Type u) extends Middleware κ where
  effects : List (Effect κ) := []

/-- The sender functions of `set_senders`. -/
def Effect.sendCall (throws : Bool) : Effect κ → Option ClientCall
  | .send true request => some (.sendSecureJson request)
  | .send false request => some (.sendJson request throws)
  | _ => none

namespace DBmwRouter

theorem routerStep_handlers (ctx : StrandRun) (r : DBmwRouter κ) (e : RouterEvent κ) :
    (routerStep ctx r e).1.handlers = r.handlers := by
  have sent : ∀ (reqId : String) (r : DBmwRouter κ),
      (r.sendNowLocked ctx reqId).1.handlers = r.handlers := by
    intro reqId r
    obtain ⟨sent, resends, effects, given, -⟩ := r.sendNowLocked_eq ctx reqId
    rw [given]
  have entered : ∀ (reqId : String) (p : Pending κ) (r : DBmwRouter κ),
      (r.enter ctx reqId p).1.handlers = r.handlers := by
    intro reqId p r
    rw [enter, sent, emplace]
    split <;> rfl
  cases e with
  | sendRequest api payload secure timeoutMs maxRetries sessionId =>
      simp only [routerStep, sendRequest]
      split
      · rfl
      · exact entered _ _ _
  | sendRequestCb api payload secure timeoutMs maxRetries sessionId onOk onError =>
      simp only [routerStep, sendRequestCb]
      split
      · rfl
      · split
        · exact entered _ _ _
        · rfl
  | response j => exact handle_handlers j r
  | expire reqId =>
      simp only [routerStep, expire]
      split
      · rfl
      · split
        · exact sent _ _
        · rw [fulfillAndEraseLocked]
          split <;> rfl
  | resend reqId cancelled =>
      simp only [routerStep, resend]
      split
      · split
        · rfl
        · exact sent _ _
      · rfl
  | setSenders sendJsonFn sendSecureJsonFn => rfl

end DBmwRouter

namespace Wired

variable (config : ClientConfig)

/-- One message of the read handler's loop. -/
def deliver (w : Wired κ) (message : Message) : Wired κ :=
  { toMiddleware := w.toMiddleware.deliver config message
    effects := w.effects ++ (w.router.handleMessage message).2.1 }

/-- The messages a read hands on. -/
def messages (c : DBMiddlewareClient) (data : Bytes) : List Message :=
  (c.msgBuf.append data).drain.1.filterMap config.decode

/-- The read handler: the messages one by one, then the next read. -/
def onRead (w : Wired κ) (opened : Nat) (data : Bytes) : Wired κ :=
  let taken : Wired κ := { w with client := w.client.takeIn config opened data }
  let handled := (messages config w.client data).foldl (deliver config) taken
  { handled with
    client :=
      if handled.client.msgBuf.lastClearByInvalidLength then handled.client.giveUpFrom opened
      else handled.client.doReadSome }

/-- What the router does at once, and what it sends through the client. -/
def onRequest (w : Wired κ) (ctx : StrandRun) (e : RouterEvent κ) (throws : Bool) : Wired κ where
  client := ((routerStep ctx w.router e).2.filterMap (Effect.sendCall throws)).foldl
    (DBMiddlewareClient.callFrom config) w.client
  router := (routerStep ctx w.router e).1
  attached := (DBmwRouter.routerStep_handlers ctx w.router e).trans w.attached
  effects := w.effects ++ (routerStep ctx w.router e).2

/-- A step of the client that meets no message. -/
def clientAlone (w : Wired κ) (e : ClientEvent) : Wired κ :=
  { w with client := clientStep config w.client e }

def step (w : Wired κ) : MiddlewareEvent κ → Wired κ
  | .start => w.clientAlone config (.call .start)
  | .stop => w.clientAlone config (.call .stop)
  | .job job => w.clientAlone config (.job job)
  | .resolved failed => w.clientAlone config (.resolved failed)
  | .connectDone failed => w.clientAlone config (.connectDone failed)
  | .readDone opened none => w.clientAlone config (.readDone opened none Message.clientCalls)
  | .readDone opened (some data) =>
      if opened ∈ w.client.reads then
        onRead config { w with
          client := { w.client with reads := w.client.reads.erase opened } } opened data
      else w
  | .writeDone opened failed => w.clientAlone config (.writeDone opened failed)
  | .reconnectTimer how => w.clientAlone config (.reconnectTimer how)
  | .heartbeatTimer how => w.clientAlone config (.heartbeatTimer how)
  | .request ctx call throws => w.onRequest config ctx call.val throws

/-- The handlers are attached before anything is sent. -/
theorem fresh_attached (κ : Type u) :
    ({ handlers := registeredTypes } : DBmwRouter κ).handlers = registeredTypes := rfl

/-- `main`: a fresh client and a router with its handlers attached. -/
def main (κ : Type u) : Wired κ where
  client := {}
  router := { handlers := registeredTypes }
  attached := fresh_attached κ

end Wired

/-! ## A message to the router -/

namespace DBmwRouter

theorem handlerCalls_unregistered {type : String} (unregistered : type ∉ registeredTypes)
    (j : Json) : handlerCalls type j = [] := by
  simp only [registeredTypes, List.mem_cons, List.not_mem_nil, or_false, not_or] at unregistered
  rw [handlerCalls, if_neg unregistered.2, if_neg unregistered.1]

/-- The calls depend on the message alone. -/
theorem handle_attached (r : DBmwRouter κ) (attached : r.handlers = registeredTypes) (j : Json) :
    (r.handle j).2.flatMap Effect.clientCalls = (Message.json j).clientCalls := by
  rw [Message.clientCalls]
  cases typed : j.valueStr "type" "" with
  | error e =>
      simp only [handle, typed]
      rfl
  | ok type =>
      simp only
      by_cases registered : type ∈ registeredTypes
      · have unsolicited : ¬ (type = okType ∨ type ∈ errorTypes) := by
          simp only [registeredTypes, List.mem_cons, List.not_mem_nil, or_false] at registered
          rcases registered with rfl | rfl <;> decide
        rw [handle_passOn typed unsolicited r (attached ▸ registered)]
        exact List.append_nil _
      · rw [handle_clientCalls typed r (attached ▸ registered),
          handlerCalls_unregistered registered]

theorem handleMessage_calls (r : DBmwRouter κ) (attached : r.handlers = registeredTypes)
    (message : Message) : (r.handleMessage message).2.2 = message.clientCalls := by
  cases message with
  | json j => exact r.handle_attached attached j
  | proto env =>
      simp only [handleMessage, handleEnvelope, Message.clientCalls]
      cases env.type with
      | serverLoginAck | keepaliveAck | unknown | other => rfl
      | dbQueryResult => exact r.handle_attached attached env.dbQueryResult.toJson
      | errorMsg => exact r.handle_attached attached env.error.toJson

/-- To the router a message is its response, if it has one. -/
theorem handleMessage_history (r : DBmwRouter κ) (effects : List (Effect κ)) (message : Message) :
    (⟨(r.handleMessage message).1, effects ++ (r.handleMessage message).2.1⟩ : History κ) =
      run History.step ⟨r, effects⟩
        (message.response.toList.map fun j => (({} : StrandRun), .response j)) := by
  cases message with
  | json j => rfl
  | proto env =>
      simp only [handleMessage, handleEnvelope, Message.response]
      cases env.type with
      | serverLoginAck | keepaliveAck | unknown | other => simp [run]
      | dbQueryResult | errorMsg => rfl

end DBmwRouter

/-! ## A run of the two is a run of each -/

namespace Wired

/-- The steps of the client in a step of the two. -/
def clientOps (w : Wired κ) : MiddlewareEvent κ → List ClientEvent
  | .start => [.call .start]
  | .stop => [.call .stop]
  | .job job => [.job job]
  | .resolved failed => [.resolved failed]
  | .connectDone failed => [.connectDone failed]
  | .readDone opened result => [.readDone opened result Message.clientCalls]
  | .writeDone opened failed => [.writeDone opened failed]
  | .reconnectTimer how => [.reconnectTimer how]
  | .heartbeatTimer how => [.heartbeatTimer how]
  | .request ctx call throws =>
      ((routerStep ctx w.router call.val).2.filterMap (Effect.sendCall throws)).map .call

/-- The steps of the router: its calls, and the responses a read brings. -/
def routerOps (config : ClientConfig) (w : Wired κ) :
    MiddlewareEvent κ → List (StrandRun × RouterEvent κ)
  | .readDone opened (some data) =>
      if opened ∈ w.client.reads then
        ((messages config w.client data).filterMap Message.response).map fun j => ({}, .response j)
      else []
  | .request ctx call _ => [(ctx, call.val)]
  | .start | .stop | .job _ | .resolved _ | .connectDone _ | .readDone _ none | .writeDone _ _
  | .reconnectTimer _ | .heartbeatTimer _ => []

def history (w : Wired κ) : History κ := ⟨w.router, w.effects⟩

variable (config : ClientConfig)

/-- The client calls back as the messages say, one after another. -/
theorem deliver_client (w : Wired κ) (message : Message) :
    (w.deliver config message).client =
      message.clientCalls.foldl (DBMiddlewareClient.callInline config) w.client := by
  rw [← w.router.handleMessage_calls w.attached]
  rfl

theorem deliverAll_client (given : List Message) (w : Wired κ) :
    (given.foldl (deliver config) w).client =
      (given.flatMap Message.clientCalls).foldl (DBMiddlewareClient.callInline config) w.client := by
  induction given generalizing w with
  | nil => rfl
  | cons message given ih =>
      rw [List.foldl_cons, ih, deliver_client, List.flatMap_cons, List.foldl_append]

theorem deliverAll_history (given : List Message) (w : Wired κ) :
    (given.foldl (deliver config) w).history =
      run History.step w.history
        ((given.filterMap Message.response).map fun j => (({} : StrandRun), .response j)) := by
  induction given generalizing w with
  | nil => rfl
  | cons message given ih =>
      have one : (w.deliver config message).history =
          run History.step w.history
            (message.response.toList.map fun j => (({} : StrandRun), .response j)) :=
        w.router.handleMessage_history w.effects message
      rw [List.foldl_cons, ih, one, ← run_append, ← List.map_append]
      congr 2
      cases response : message.response <;> simp [response]

theorem onRead_client (w : Wired κ) (opened : Nat) (data : Bytes) :
    (w.onRead config opened data).client =
      w.client.onRead config opened Message.clientCalls (some data) := by
  rw [onRead, DBMiddlewareClient.onRead, DBMiddlewareClient.reactions]
  simp only [deliverAll_client]
  rfl

/-- **A run of the two is a run of the client**, its callbacks those of the router. -/
theorem client_refines :
    Refines (step config) (fun _ : Wired κ => True) (clientStep config) (fun _ _ => True) clientOps
      (fun w => w.client) where
  preserved := fun _ _ _ => trivial
  lawful := fun _ _ _ => along_true _ _
  simulated := by
    intro w e _
    cases e with
    | readDone opened result =>
        cases result with
        | none => rfl
        | some data =>
            simp only [step, clientOps, run_cons, run_nil, clientStep]
            split
            · exact onRead_client config _ opened data
            · rfl
    | request ctx call throws =>
        simp only [step, onRequest, clientOps, run, List.foldl_map]
        rfl
    | start | stop | job | resolved | connectDone | writeDone | reconnectTimer | heartbeatTimer =>
        rfl

/-- **A run of the two is a run of the router**, its responses those the client reads. -/
theorem router_refines :
    Refines (step config) (fun _ : Wired κ => True) History.step (fun _ _ => True)
      (routerOps config) history where
  preserved := fun _ _ _ => trivial
  lawful := fun _ _ _ => along_true _ _
  simulated := by
    intro w e _
    cases e with
    | readDone opened result =>
        cases result with
        | none => rfl
        | some data =>
            simp only [step, routerOps]
            split
            · exact deliverAll_history config _ _
            · rfl
    | request ctx call throws => rfl
    | start | stop | job | resolved | connectDone | writeDone | reconnectTimer | heartbeatTimer =>
        rfl

end Wired

/-! ## What the callbacks are given -/

/-- Each call of a callback is the only one of its request, and made for cause. -/
def Caused (h : History κ) : Prop :=
  ∀ serial which callback response, .call serial which callback response ∈ h.effects →
    callsOf serial h.effects = [.call serial which callback response] ∧
      ∃ reqId ticket, .entered reqId ticket ∈ h.effects ∧ ticket.serial = serial ∧
        ticket.callback which = some callback ∧ Warranted reqId which response

theorem call_mem_records {serial : Nat} {which : Callback} {callback : κ} {response : Json}
    {effects : List (Effect κ)} :
    .call serial which callback response ∈ records effects ↔
      .call serial which callback response ∈ effects := by
  simp [records, Effect.isRecord]

theorem Caused.step {h : History κ} (ledger : Ledger h) (caused : Caused h)
    (e : StrandRun × RouterEvent κ) : Caused (h.step e) := by
  intro serial which callback response member
  have change := routerStep_change h e
  generalize recorded : records (routerStep e.1 h.router e.2).2 = told at change
  have calls : callsOf serial (h.step e).effects =
      callsOf serial h.effects ++ callsOf serial told := by
    rw [← recorded, callsOf_records]
    exact callsOf_append ..
  have kept : ∀ {effect}, effect ∈ h.effects → effect ∈ (h.step e).effects :=
    fun member => List.mem_append_left _ member
  rcases List.mem_append.mp member with old | new
  · obtain ⟨only, reqId, ticket, entered, same, given, warranted⟩ := caused _ _ _ _ old
    refine ⟨?_, reqId, ticket, kept entered, same, given, warranted⟩
    rw [calls, only]
    cases change with
    | quiet => rfl
    | enter => rfl
    | leave reqId t called present numbers table told heard =>
        -- whoever was called has left the table
        have other : serial ≠ t.serial := by
          rintro rfl
          cases only.symm.trans (ledger.unheard present)
        rw [told.calls_other other, List.append_nil]
  · rw [← call_mem_records, recorded] at new
    cases change with
    | quiet => cases new
    | enter => simp at new
    | leave reqId t called present numbers table told heard =>
        rcases told with rfl | ⟨mode, which, callback, response, given, warranted, rfl⟩
        · cases new
        · cases List.mem_singleton.mp new
          refine ⟨?_, reqId, t, kept (ledger.known present), rfl, given, warranted⟩
          rw [calls, ledger.unheard present]
          simp [callsOf, Effect.isCallOf]

/-- The response is about the request, and of the callback's type. -/
def Answered (reqId : String) (which : Callback) (j : Json) : Prop :=
  ∃ type, Addressed j type reqId ∧ (which = .onOk ↔ type = DBmwRouter.okType)

/-- A response about some request is none that the table made up. -/
theorem Warranted.answered {reqId type reqId' : String} {which : Callback} {response : Json}
    (warranted : Warranted reqId which response) (addressed : Addressed response type reqId') :
    Answered reqId which response := by
  obtain ⟨typed, known, named, filled⟩ := addressed
  cases which with
  | onOk =>
      obtain ⟨ok, names⟩ := warranted
      cases named.symm.trans names
      exact ⟨_, ⟨ok, .inl rfl, named, filled⟩, by simp⟩
  | onError =>
      rcases warranted with ⟨errorType, member, failed, names⟩ | rfl
      · cases named.symm.trans names
        refine ⟨errorType, ⟨failed, .inr member, named, filled⟩, ?_⟩
        have apart : DBmwRouter.okType ∉ DBmwRouter.errorTypes := by decide
        exact iff_of_false (fun same => by cases same) fun same => apart (same ▸ member)
      · have made : (DBmwRouter.timeoutError reqId).valueStr "type" "" = .ok "error" := rfl
        cases typed.symm.trans made
        exact absurd known (by decide)

namespace DBmwRouter

/-- Callbacks are called with a response alone, and one that is about a request. -/
theorem routerStep_called {ctx : StrandRun} {r : DBmwRouter κ} {e : RouterEvent κ} {serial : Nat}
    {which : Callback} {callback : κ} {response : Json}
    (called : .call serial which callback response ∈ (routerStep ctx r e).2) :
    e = .response response ∧ ∃ type reqId, Addressed response type reqId := by
  have sent : ∀ (reqId : String) (r : DBmwRouter κ),
      .call serial which callback response ∉ (r.sendNowLocked ctx reqId).2 := by
    intro reqId r member
    obtain ⟨sent, resends, effects, given, sends⟩ := r.sendNowLocked_eq ctx reqId
    rw [given] at member
    obtain ⟨secure, request, other⟩ := sends _ member
    cases other
  have entered : ∀ (reqId : String) (p : Pending κ) (r : DBmwRouter κ),
      .call serial which callback response ∉ (r.enter ctx reqId p).2 := by
    intro reqId p r member
    simp only [enter, emplace] at member
    cases found : r.pending.lookup reqId with
    | none =>
        simp only [found, List.mem_append, List.mem_singleton, reduceCtorEq, false_or] at member
        exact sent _ _ member
    | some old =>
        simp only [found, List.nil_append] at member
        exact sent _ _ member
  have fulfilled : ∀ (reqId : String) (result : Json) (success : Bool) (r : DBmwRouter κ),
      .call serial which callback response ∉ (r.fulfillAndEraseLocked reqId result success).2 := by
    intro reqId result success r member
    rw [fulfillAndEraseLocked] at member
    split at member <;> simp at member
  cases e with
  | sendRequest api payload secure timeoutMs maxRetries sessionId =>
      simp only [routerStep, sendRequest] at called
      split at called
      · simp at called
      · exact absurd called (entered _ _ _)
  | sendRequestCb api payload secure timeoutMs maxRetries sessionId onOk onError =>
      simp only [routerStep, sendRequestCb] at called
      split at called
      · simp at called
      · split at called
        · exact absurd called (entered _ _ _)
        · cases onError <;> simp at called
  | expire reqId =>
      simp only [routerStep, expire] at called
      split at called
      · cases called
      · split at called
        · exact absurd called (sent _ _)
        · exact absurd called (fulfilled _ _ _ _)
  | resend reqId cancelled =>
      simp only [routerStep, resend] at called
      split at called
      · split at called
        · cases called
        · exact absurd called (sent _ _)
      · cases called
  | setSenders sendJsonFn sendSecureJsonFn => cases called
  | response j =>
      simp only [routerStep] at called
      rcases r.handle_cases j with
        ⟨type, reqId, addressed, given⟩ | ⟨type, -, given⟩ | ⟨e, given⟩ <;> rw [given] at called
      · rw [answer] at called
        split at called
        · cases called
        · dsimp only at called
          split at called
          · rcases List.mem_append.mp called with done | answered
            · exact absurd done (fulfilled _ _ _ _)
            · split at answered <;>
                · simp only [Option.mem_toList, Option.map_eq_some_iff] at answered
                  obtain ⟨callback, -, same⟩ := answered
                  cases same
                  exact ⟨rfl, type, reqId, addressed⟩
          · exact absurd called (fulfilled _ _ _ _)
      · rw [passOn] at called
        split at called <;> simp at called
      · simp at called

end DBmwRouter

/-- Along a run, with the responses of that run. -/
theorem run_called {events : List (StrandRun × RouterEvent κ)} {h : History κ} {serial : Nat}
    {which : Callback} {callback : κ} {response : Json}
    (called : .call serial which callback response ∈ (run History.step h events).effects) :
    .call serial which callback response ∈ h.effects ∨
      (∃ ctx, (ctx, .response response) ∈ events) ∧ ∃ type reqId, Addressed response type reqId := by
  refine (@run_origin _ _ History.step (fun h => .call serial which callback response ∈ h.effects)
    (fun _ e => e.2 = .response response ∧ ∃ type reqId, Addressed response type reqId)
    (fun h e member => ?_) h events called).imp_right ?_
  · exact (List.mem_append.mp member).imp_right DBmwRouter.routerStep_called
  · rintro ⟨front, ⟨ctx, e⟩, within, brought, addressed⟩
    cases (show e = .response response from brought)
    exact ⟨⟨ctx, within.subset (by simp)⟩, addressed⟩

namespace Wired

/-- **No answer from nowhere**: in every run of client and router, what a callback of an
entered request is given is a message that the client took from the bytes of a read it had
outstanding.  The message has the request's id and the type of that callback, and neither it
nor the other callback of the request is called again. -/
theorem answers_arrived (config : ClientConfig) (events : List (MiddlewareEvent κ)) {serial : Nat}
    {which : Callback} {callback : κ} {response : Json}
    (called : .call serial which callback response ∈
      (run (step config) (main κ) events).effects) :
    callsOf serial (run (step config) (main κ) events).effects =
        [.call serial which callback response] ∧
      (∃ reqId ticket, .entered reqId ticket ∈ (run (step config) (main κ) events).effects ∧
        ticket.serial = serial ∧ ticket.callback which = some callback ∧
        Answered reqId which response) ∧
      ∃ front opened data message, front ++ [.readDone opened (some data)] <+: events ∧
        opened ∈ (run (step config) (main κ) front).client.reads ∧
        message ∈ messages config (run (step config) (main κ) front).client data ∧
        message.response = some response := by
  obtain ⟨reached, -⟩ := (router_refines config).run_trace (s := main κ) trivial events
  have fresh : Ledger (main κ).history ∧ Caused (main κ).history :=
    ⟨Ledger.start { handlers := registeredTypes }, fun _ _ _ _ member => by cases member⟩
  have books : Ledger (run (step config) (main κ) events).history ∧
      Caused (run (step config) (main κ) events).history := by
    rw [reached]
    exact @run_invariant _ _ History.step (fun _ _ => True)
      (fun h : History κ => Ledger h ∧ Caused h)
      (fun h e both _ => ⟨both.1.step e, both.2.step both.1 e⟩) _ fresh _ (along_true _ _)
  obtain ⟨only, reqId, ticket, entered, numbered, given, warranted⟩ := books.2 _ _ _ _ called
  have recorded : .call serial which callback response ∈
      (run (step config) (main κ) events).history.effects := called
  rw [reached] at recorded
  obtain ⟨⟨ctx, member⟩, type, named, addressed⟩ :=
    (run_called recorded).resolve_left (fun member => by cases member)
  refine ⟨only, ⟨reqId, ticket, entered, numbered, given, warranted.answered addressed⟩, ?_⟩
  obtain ⟨front, e, within, brought⟩ := mem_trace member
  cases e with
  | readDone opened result =>
      cases result with
      | none => cases brought
      | some data =>
          rw [routerOps] at brought
          split at brought
          · rename_i outstanding
            obtain ⟨j, responses, same⟩ := List.mem_map.mp brought
            cases same
            obtain ⟨message, handed, answers⟩ := List.mem_filterMap.mp responses
            exact ⟨front, opened, data, message, within, outstanding, handed, answers⟩
          · cases brought
  | request ctx call throws =>
      have same := (Prod.mk.inj (List.mem_singleton.mp brought)).2
      exact absurd same.symm (call.property response)
  | start | stop | job | resolved | connectDone | writeDone | reconnectTimer | heartbeatTimer =>
      cases brought

/-- The result of the first request of session 7. -/
def userInfo : Json :=
  .obj [("type", .str "db_query_result"), ("req_id", .str "7_1"), ("code", .number 0)]

theorem setSenders_call (sendJsonFn sendSecureJsonFn : Bool) (j : Json) :
    (.setSenders sendJsonFn sendSecureJsonFn : RouterEvent Nat) ≠ .response j := by
  intro same
  cases same

theorem userInfo_call (j : Json) :
    (.sendRequestCb "request_user_info" .null true 2500 2 7 (some 0) (some 1) : RouterEvent Nat) ≠
      .response j := by
  intro same
  cases same

/-- A request, answered on the connection it was sent on. -/
def askedAndAnswered : List (MiddlewareEvent Nat) :=
  [.start, .job .connect, .resolved false, .connectDone false,
    .request {} ⟨.setSenders true true, setSenders_call true true⟩ false,
    .request {} ⟨.sendRequestCb "request_user_info" .null true 2500 2 7 (some 0) (some 1),
      userInfo_call⟩ false,
    .readDone 1 (some (Wire.sendFramed (ClientConfig.dumpTexts userInfo)))]

theorem answers_arrived_once :
    callsOf 0 (run (step (.small [userInfo])) (main Nat) askedAndAnswered).effects =
      [.call 0 .onOk 0 userInfo] := by
  have called : (run (step (.small [userInfo])) (main Nat) askedAndAnswered).effects.getLast? =
      some (.call 0 .onOk 0 userInfo) := rfl
  exact (answers_arrived (.small [userInfo]) askedAndAnswered (List.mem_of_getLast? called)).1

end Wired

/-! ## The calls the two make on the client -/

/-- What `main` and the router call, and what a read calls back. -/
def ClientEvent.Routine : ClientEvent → Prop
  | .call .start | .call .stop | .call (.sendJson _ _) | .call (.sendSecureJson _) => True
  | .call _ => False
  | .readDone _ _ react => react = Message.clientCalls
  | _ => True

theorem Message.clientCalls_cases (message : Message) :
    message.clientCalls = [] ∨ (message.clientCalls = [.markAuthed true]) ∨
      message.clientCalls = [.noteHeartbeatAck] ∨
      message.clientCalls = [.markAuthed false, .stop, .start] := by
  cases message with
  | proto env =>
      rw [clientCalls]
      split
      · split
        · exact .inr (.inl rfl)
        · exact .inl rfl
      · exact .inr (.inr (.inl rfl))
      all_goals exact .inl rfl
  | json j =>
      rw [clientCalls]
      split
      · rw [handlerCalls]
        split
        · split
          · rename_i calls acked
            rw [onServerLoginAck] at acked
            split at acked
            · split at acked <;> cases acked
              · exact .inr (.inl rfl)
              · exact .inr (.inr (.inr rfl))
            · cases acked
            · cases acked
          · exact .inl rfl
        · split
          · exact .inr (.inr (.inl rfl))
          · exact .inl rfl
      · exact .inl rfl

theorem Effect.sendCall_routine {throws : Bool} {effect : Effect κ} {k : ClientCall}
    (sent : effect.sendCall throws = some k) :
    ClientEvent.Routine (.call k) ∧ k ≠ .stop := by
  cases effect with
  | send secure request =>
      cases secure <;> cases sent <;> exact ⟨trivial, by simp⟩
  | _ => cases sent

theorem Wired.clientOps_routine (w : Wired κ) (e : MiddlewareEvent κ) :
    ∀ o ∈ w.clientOps e, o.Routine := by
  intro o member
  cases e with
  | request ctx call throws =>
      obtain ⟨k, sent, rfl⟩ := List.mem_map.mp member
      obtain ⟨effect, -, sends⟩ := List.mem_filterMap.mp sent
      exact (Effect.sendCall_routine sends).1
  | readDone opened result =>
      cases List.mem_singleton.mp member
      rfl
  | start | stop | job | resolved | connectDone | writeDone | reconnectTimer | heartbeatTimer =>
      cases List.mem_singleton.mp member
      trivial

/-- Only the signal handler stops the client from outside. -/
theorem Wired.clientOps_stop (w : Wired κ) (e : MiddlewareEvent κ) (running : e ≠ .stop) :
    ∀ o ∈ w.clientOps e, o ≠ .call .stop := by
  intro o member
  cases e with
  | stop => exact absurd rfl running
  | request ctx call throws =>
      obtain ⟨k, sent, rfl⟩ := List.mem_map.mp member
      obtain ⟨effect, -, sends⟩ := List.mem_filterMap.mp sent
      intro same
      cases same
      exact (Effect.sendCall_routine sends).2 rfl
  | start | readDone | job | resolved | connectDone | writeDone | reconnectTimer
  | heartbeatTimer =>
      cases List.mem_singleton.mp member
      simp

/-! ## The client never falls idle -/

namespace DBMiddlewareClient

/-- A connection attempt is under way, asked for, or waits for its timer. -/
def Underway (c : DBMiddlewareClient) : Prop :=
  0 < c.resolves ∨ 0 < c.connects ∨ StrandJob.connect ∈ c.jobs ∨ c.reconnectTimer.armed = true

/-- What holds inside a handler; `started` once `start` was called. -/
structure Handling (started : Prop) (c : DBMiddlewareClient) : Prop where
  going : c.stopping = false
  unclosed : StrandJob.close ∉ c.jobs
  beating : c.connected = true → c.heartbeatTimer.armed = true
  busy : started → c.connected = true ∨ c.Underway

/-- What holds between handlers: a connection is being read. -/
structure Watched (started : Prop) (c : DBMiddlewareClient) : Prop extends Handling started c where
  reading : c.connected = true → c.link ∈ c.reads

variable {config : ClientConfig} {started : Prop} {c : DBMiddlewareClient}

theorem Watched.weaken {started' : Prop} (watched : Watched started c)
    (entails : started' → started) : Watched started' c :=
  { watched with busy := fun begun => watched.busy (entails begun) }

theorem arm_armed (t : Timer) : t.arm.armed = true := rfl

theorem scheduleReconnect_watched (going : c.stopping = false) (unclosed : .close ∉ c.jobs) :
    Watched started c.scheduleReconnect := by
  have scheduled : c.scheduleReconnect = { c with
      connected := false
      reconnectSec := min (c.reconnectSec * 2) reconnectSecMax
      reconnectTimer := c.reconnectTimer.arm } := by
    simp [scheduleReconnect, going]
  rw [scheduled]
  exact
    { going := going
      unclosed := unclosed
      beating := fun connected => by cases connected
      busy := fun _ => .inr (.inr (.inr (.inr (arm_armed _))))
      reading := fun connected => by cases connected }

theorem giveUp_watched (going : c.stopping = false) (unclosed : .close ∉ c.jobs) :
    Watched started c.giveUp :=
  scheduleReconnect_watched (c := c.closeSocket) going unclosed

/-- An attempt begins, whatever the client was at. -/
theorem doConnect_handling (guarded : (config.port : Int) ≠ config.tcpPort)
    (going : c.stopping = false) (unclosed : .close ∉ c.jobs)
    (beating : c.connected = true → c.heartbeatTimer.armed = true) :
    Handling started (c.doConnect config) ∧ (c.doConnect config).link = c.link ∧
      (c.doConnect config).reads = c.reads ∧ (c.doConnect config).connected = c.connected := by
  have begun : c.doConnect config = { c with
      resolves := c.resolves + 1
      journal := c.journal ++ [ClientNote.attempt c.resolves c.connects c.connected] } := by
    simp [doConnect, going, guarded]
  rw [begun]
  exact ⟨⟨going, unclosed, beating, fun _ => .inr (.inl (Nat.succ_pos _))⟩, rfl, rfl, rfl⟩

theorem doConnect_watched (guarded : (config.port : Int) ≠ config.tcpPort)
    (going : c.stopping = false) (unclosed : .close ∉ c.jobs)
    (beating : c.connected = true → c.heartbeatTimer.armed = true)
    (reading : c.connected = true → c.link ∈ c.reads) :
    Watched started (c.doConnect config) := by
  obtain ⟨handling, link, reads, connected⟩ :=
    @doConnect_handling config started c guarded going unclosed beating
  refine { handling with reading := ?_ }
  rw [link, reads, connected]
  exact reading

/-- The calls of a message: a rejected login restarts the client, the others change
nothing that is watched. -/
theorem clientCalls_handling (guarded : (config.port : Int) ≠ config.tcpPort)
    (handling : Handling started c) (message : Message) :
    Handling started (message.clientCalls.foldl (callInline config) c) := by
  rcases message.clientCalls_cases with calls | calls | calls | calls <;> rw [calls]
  · exact handling
  · exact ⟨handling.going, handling.unclosed, handling.beating, handling.busy⟩
  · exact ⟨handling.going, handling.unclosed, handling.beating, handling.busy⟩
  · have restarted : [ClientCall.markAuthed false, .stop, .start].foldl (callInline config) c =
        { c with
          authed := false
          stopping := false
          connected := false
          reconnectTimer := c.reconnectTimer.cancel
          heartbeatTimer := c.heartbeatTimer.cancel }.doConnect config := rfl
    rw [restarted]
    refine (doConnect_handling guarded ?_ ?_ ?_).1
    · rfl
    · exact handling.unclosed
    · intro connected
      cases connected

theorem reactions_handling (guarded : (config.port : Int) ≠ config.tcpPort)
    (given : List Message) (handling : Handling started c) :
    Handling started ((given.flatMap Message.clientCalls).foldl (callInline config) c) := by
  induction given generalizing c with
  | nil => exact handling
  | cons message given ih =>
      rw [List.flatMap_cons, List.foldl_append]
      exact ih (clientCalls_handling guarded handling message)

theorem call_watched (config : ClientConfig) {k : ClientCall}
    (routine : ClientEvent.Routine (.call k)) (running : k ≠ .stop) (watched : Watched started c) :
    Watched (started ∨ k = .start) (c.callFrom config k) := by
  have still : ∀ {c' : DBMiddlewareClient}, Watched started c' → ∀ job ∉ [StrandJob.close],
      k ≠ .start → Watched (started ∨ k = .start) { c' with jobs := c'.jobs ++ [job] } := by
    intro c' watched job other unstarted
    exact
      { going := watched.going
        unclosed := by simpa using ⟨watched.unclosed, fun same => other (by simp [same])⟩
        beating := watched.beating
        busy := by
          rintro (started | start)
          · rcases watched.busy started with connected | resolves | connects | asked | armed
            · exact .inl connected
            · exact .inr (.inl resolves)
            · exact .inr (.inr (.inl connects))
            · exact .inr (.inr (.inr (.inl (List.mem_append_left _ asked))))
            · exact .inr (.inr (.inr (.inr armed)))
          · exact absurd start unstarted
        reading := watched.reading }
  have gone : ∀ {c' : DBMiddlewareClient}, c'.stopping = false → .close ∉ c'.jobs →
      Watched (started ∨ k = .start) { c'.giveUp with jobs := c'.giveUp.jobs ++ [] } := by
    intro c' going unclosed
    rw [List.append_nil]
    exact giveUp_watched going unclosed
  cases k with
  | start =>
      exact
        { going := rfl
          unclosed := by simpa [callFrom, call] using watched.unclosed
          beating := watched.beating
          busy := fun _ => .inr (.inr (.inr (.inl (by simp [callFrom, call]))))
          reading := watched.reading }
  | stop => exact absurd rfl running
  | sendJson j throws =>
      obtain ⟨ids, numbered⟩ := withRequestId_snd c j
      rcases built : c.withRequestId j with ⟨_ | request, c'⟩ <;> rw [built] at numbered
      · simp only [callFrom, call, built]
        rw [show c' = _ from numbered]
        exact gone watched.going watched.unclosed
      · cases throws with
        | true =>
            simp only [callFrom, call, built, if_true]
            rw [show c' = _ from numbered]
            exact gone watched.going watched.unclosed
        | false =>
            simp only [callFrom, call, built]
            rw [show c' = _ from numbered]
            have same : Watched started { c with requestIds := ids } :=
              { going := watched.going, unclosed := watched.unclosed, beating := watched.beating
                busy := watched.busy, reading := watched.reading }
            exact still same _ (by simp) (by simp)
  | sendSecureJson j =>
      obtain ⟨ids, numbered⟩ := withRequestId_snd c j
      have same : Watched started { c with requestIds := ids } :=
        { going := watched.going, unclosed := watched.unclosed, beating := watched.beating
          busy := watched.busy, reading := watched.reading }
      rcases built : c.withRequestId j with ⟨_ | request, c'⟩ <;> rw [built] at numbered
      · simp only [callFrom, call, built]
        rw [show c' = _ from numbered]
        exact
          { going := same.going, unclosed := by simpa using same.unclosed, beating := same.beating
            busy := by simpa [Underway] using same.busy, reading := same.reading }
      · simp only [callFrom, call, built]
        rw [show c' = _ from numbered]
        exact still same _ (by simp) (by simp)
  | markAuthed | noteHeartbeatAck | sendFramed => cases routine

theorem takeIn_handling (config : ClientConfig) (handling : Handling started c) (opened : Nat)
    (data : Bytes) :
    Handling started (c.takeIn config opened data) :=
  ⟨handling.going, handling.unclosed, handling.beating, handling.busy⟩

theorem doReadSome_watched (handling : Handling started c) : Watched started c.doReadSome := by
  rw [doReadSome]
  split
  · exact { going := handling.going, unclosed := handling.unclosed, beating := handling.beating
            busy := handling.busy, reading := fun _ => by simp }
  · rename_i lost
    exact { handling with reading := fun connected => absurd connected lost }

theorem readDone_watched (guarded : (config.port : Int) ≠ config.tcpPort)
    (watched : Watched started c) (opened : Nat) (result : Option Bytes) :
    Watched started (clientStep config c (.readDone opened result Message.clientCalls)) := by
  rw [clientStep]
  split
  · cases result with
    | none => exact giveUp_watched watched.going watched.unclosed
    | some data =>
        have ended : Handling started { c with reads := c.reads.erase opened } :=
          ⟨watched.going, watched.unclosed, watched.beating, watched.busy⟩
        have called := reactions_handling guarded
          ((({ c with reads := c.reads.erase opened } : DBMiddlewareClient).msgBuf.append data).drain.1.filterMap
            config.decode) (takeIn_handling config ended opened data)
        rw [onRead]
        split
        · exact giveUp_watched called.going called.unclosed
        · exact doReadSome_watched called
  · exact watched

theorem onConnect_watched (going : c.stopping = false) (unclosed : .close ∉ c.jobs) :
    Watched started (c.onConnect config false) := by
  have made : Handling started { c.established with heartbeatTimer := c.heartbeatTimer.arm } :=
    ⟨going, unclosed, fun _ => rfl, fun _ => .inl rfl⟩
  have login : ∃ sent ids queue flag writes, c.established.serverSendLogin config =
      { c.established with
        serverLoginSent := sent
        requestIds := ids
        writeQueue := queue
        writeInProgress := flag
        writes := writes } := by
    rw [serverSendLogin]
    split
    · exact ⟨_, _, _, _, _, rfl⟩
    · obtain ⟨ids, queue, flag, writes, sent⟩ :=
        sendSecureJson_eq config { c.established with serverLoginSent := true } (.obj
          [("type", .str "serverlogin"), ("nickname", .str config.serverLoginNickname)])
      exact ⟨_, _, _, _, _, sent⟩
  obtain ⟨sent, ids, queue, flag, writes, login⟩ := login
  have connected : c.onConnect config false =
      { c.established with
        serverLoginSent := sent
        requestIds := ids
        writeQueue := queue
        writeInProgress := flag
        writes := writes
        reads := c.reads ++ [c.link + 1]
        heartbeatTimer := c.heartbeatTimer.arm } := by
    simp only [onConnect, Bool.false_eq_true, if_false, login]
    rfl
  rw [connected]
  exact
    { going := made.going
      unclosed := made.unclosed
      beating := made.beating
      busy := made.busy
      reading := fun _ => by simp [established] }

theorem heartbeatTimer_watched (watched : Watched started c) (how : WaitEnd) :
    Watched started (clientStep config c (.heartbeatTimer how)) := by
  have armed : ∀ {c' : DBMiddlewareClient}, c'.stopping = false → .close ∉ c'.jobs →
      (c'.connected = true → c'.link ∈ c'.reads) →
      (started → c'.connected = true ∨ c'.Underway) → Watched started c'.armHeartbeatTimer := by
    intro c' going unclosed reading busy
    exact { going := going, unclosed := unclosed, beating := fun _ => rfl, busy := busy
            reading := reading }
  rw [clientStep]
  split
  · exact watched
  · rename_i t found
    rw [onHeartbeatTimer]
    split
    · rename_i ended
      -- an aborted wait was cancelled when the armed one took its place
      have aborted : how = .aborted := ended.resolve_right (by simp [watched.going])
      have kept : t.armed = c.heartbeatTimer.armed := by
        subst aborted
        simp only [Timer.finish] at found
        split at found <;> cases found
        rfl
      exact
        { going := watched.going
          unclosed := watched.unclosed
          beating := fun connected => kept.trans (watched.beating connected)
          busy := watched.busy
          reading := watched.reading }
    · split
      · obtain ⟨ids, queue, flag, writes, sent⟩ := sendSecureJson_eq config
          { c with heartbeatTimer := t } (.obj
            [("type", .str "keepalive"), ("nickname", .str config.serverLoginNickname)])
        rw [sendHeartbeat, sent]
        dsimp only
        split
        · exact giveUp_watched watched.going watched.unclosed
        · exact armed watched.going watched.unclosed watched.reading watched.busy
      · exact armed watched.going watched.unclosed watched.reading watched.busy

/-- **Every step but a stop keeps the client watched.** -/
theorem step_watched (guarded : (config.port : Int) ≠ config.tcpPort) {e : ClientEvent}
    (routine : e.Routine) (running : e ≠ .call .stop) (watched : Watched started c) :
    Watched (started ∨ e = .call .start) (clientStep config c e) := by
  have weaken : ∀ {c' : DBMiddlewareClient}, e ≠ .call .start → Watched started c' →
      Watched (started ∨ e = .call .start) c' :=
    fun other watched => watched.weaken fun some => some.resolve_right other
  cases e with
  | call k =>
      have called := call_watched config routine (fun same => running (by rw [same]))
        watched
      exact called.weaken (Or.imp_right fun same => by injection same)
  | job job =>
      refine weaken (by simp) ?_
      rw [clientStep]
      split
      · rename_i queued
        have left : .close ∉ c.jobs.erase job := fun member =>
          watched.unclosed (List.mem_of_mem_erase member)
        cases job with
        | connect =>
            exact doConnect_watched guarded watched.going left watched.beating watched.reading
        | close => exact absurd queued watched.unclosed
        | push frame =>
            have taken : Watched started { c with jobs := c.jobs.erase (.push frame) } :=
              { watched with
                unclosed := left
                busy := by
                  intro begun
                  rcases watched.busy begun with connected | resolves | connects | asked | armed
                  · exact .inl connected
                  · exact .inr (.inl resolves)
                  · exact .inr (.inr (.inl connects))
                  · exact .inr (.inr (.inr (.inl ((List.mem_erase_of_ne (by simp)).mpr asked))))
                  · exact .inr (.inr (.inr (.inr armed))) }
            obtain ⟨queue, flag, writes, pushed⟩ :=
              push_eq { c with jobs := c.jobs.erase (.push frame) } frame
            rw [runJob, pushed]
            exact { taken with }
      · exact watched
  | resolved failed =>
      refine weaken (by simp) ?_
      rw [clientStep]
      split
      · cases failed with
        | true => exact scheduleReconnect_watched watched.going watched.unclosed
        | false =>
            exact { watched with busy := fun _ => .inr (.inr (.inl (Nat.succ_pos _))) }
      · exact watched
  | connectDone failed =>
      refine weaken (by simp) ?_
      rw [clientStep]
      split
      · cases failed with
        | true => exact scheduleReconnect_watched watched.going watched.unclosed
        | false => exact onConnect_watched watched.going watched.unclosed
      · exact watched
  | readDone opened result react =>
      cases routine
      exact weaken (by simp) (readDone_watched guarded watched opened result)
  | writeDone opened failed =>
      refine weaken (by simp) ?_
      rw [clientStep]
      split
      · cases failed with
        | true => exact giveUp_watched watched.going watched.unclosed
        | false =>
            simp only [onWrite, flushWriteQueue, Bool.false_eq_true, if_false]
            split <;> exact { watched with }
      · exact watched
  | reconnectTimer how =>
      refine weaken (by simp) ?_
      rw [clientStep]
      split
      · exact watched
      · rename_i t found
        rw [onReconnectTimer]
        split
        · rename_i aborted
          have kept : t.armed = c.reconnectTimer.armed := by
            subst aborted
            simp only [Timer.finish] at found
            split at found <;> cases found
            rfl
          exact
            { watched with
              busy := by simpa only [Underway, kept] using watched.busy }
        · exact doConnect_watched guarded watched.going watched.unclosed watched.beating
            watched.reading
  | heartbeatTimer how => exact weaken (by simp) (heartbeatTimer_watched watched how)

end DBMiddlewareClient

namespace Wired

variable {config : ClientConfig}

theorem step_watched (guarded : (config.port : Int) ≠ config.tcpPort) {started : Prop}
    {w : Wired κ} {e : MiddlewareEvent κ} (running : e ≠ .stop)
    (watched : w.client.Watched started) :
    (w.step config e).client.Watched (started ∨ e = .start) := by
  have stepped := run_latched DBMiddlewareClient.Watched
    (fun o => o.Routine ∧ o ≠ .call .stop) (fun o => o = .call .start)
    (fun entails watched => watched.weaken entails)
    (fun allowed watched => DBMiddlewareClient.step_watched guarded allowed.1 allowed.2 watched)
    watched fun o member => ⟨w.clientOps_routine e o member, w.clientOps_stop e running o member⟩
  rw [(client_refines config).simulated w e trivial]
  refine stepped.weaken (Or.imp_right ?_)
  rintro rfl
  exact ⟨_, List.mem_singleton_self _, rfl⟩

/-- **From `start` on the client is never idle**, in any run without a signal: it is
connected, reading and watching its heartbeat, or it is on its way to a connection.  With
the server's own port to connect to, `do_connect` gives up and nothing is on its way. -/
theorem never_idle (config : ClientConfig) (guarded : (config.port : Int) ≠ config.tcpPort)
    (events : List (MiddlewareEvent κ)) (running : .stop ∉ events) (started : .start ∈ events) :
    let c := (run (step config) (main κ) events).client
    (c.connected = true ∧ c.link ∈ c.reads ∧ c.heartbeatTimer.armed = true) ∨
      (c.connected = false ∧ c.Underway) := by
  have fresh : (main κ).client.Watched False :=
    { going := rfl, unclosed := by simp [main], beating := fun connected => by cases connected
      busy := False.elim, reading := fun connected => by cases connected }
  have watched := run_latched (fun started (w : Wired κ) => w.client.Watched started)
    (fun e : MiddlewareEvent κ => e ≠ .stop) (fun e => e = .start)
    (fun entails watched => watched.weaken entails)
    (fun other watched => step_watched guarded other watched) fresh
    fun e member (same : e = .stop) => running (same ▸ member)
  intro c
  cases connected : c.connected with
  | true => exact .inl ⟨rfl, watched.reading connected, watched.beating connected⟩
  | false =>
      refine .inr ⟨rfl, (watched.busy (.inr ⟨_, started, rfl⟩)).resolve_left ?_⟩
      exact fun other => by cases connected.symm.trans other

/-- A run that logs in, is refused, and so begins anew. -/
def refusedAndBack : List (MiddlewareEvent Nat) :=
  [.start, .job .connect, .resolved false, .connectDone false,
    .readDone 1 (some (Wire.sendFramed (ClientConfig.dumpTexts
      (Ack.serverLogin "NG" "Server_1").json)))]

theorem never_idle_refused :
    let c := (run (step (.small [(Ack.serverLogin "NG" "Server_1").json])) (main Nat)
      refusedAndBack).client
    (c.connected = true ∧ c.link ∈ c.reads ∧ c.heartbeatTimer.armed = true) ∨
      (c.connected = false ∧ c.Underway) :=
  never_idle _ (by decide) _ (by simp [refusedAndBack]) (by simp [refusedAndBack])

end Wired

/-! ## Heartbeats follow a login -/

namespace DBMiddlewareClient

/-- A successful login is among the messages. -/
def Vouched (given : List Message) : Prop := ∃ message ∈ given, .markAuthed true ∈ message.clientCalls

/-- The client is authenticated on a connection, and has heartbeats out, only when a message
handed on since that connection was made told it so.  The message may have been completed
from bytes an earlier connection left in the buffer. -/
structure Authenticated (c : DBMiddlewareClient) : Prop where
  authed : c.connected = true → c.authed = true → Vouched c.handed
  beats : 0 < c.sentSince → Vouched c.handed

/-- A change that brings neither a connection nor authentication. -/
structure Fades (c c' : DBMiddlewareClient) : Prop where
  connected : c'.connected = true → c.connected = true
  authed : c'.authed = true → c.authed = true
  handed : c'.handed = c.handed
  sentSince : 0 < c'.sentSince → 0 < c.sentSince

theorem Authenticated.fade {c c' : DBMiddlewareClient} (authenticated : Authenticated c)
    (fades : Fades c c') : Authenticated c' := by
  refine ⟨fun connected authed => ?_, fun sent => ?_⟩
  · rw [fades.handed]
    exact authenticated.authed (fades.connected connected) (fades.authed authed)
  · rw [fades.handed]
    exact authenticated.beats (fades.sentSince sent)

theorem Fades.trans {c c' c'' : DBMiddlewareClient} (first : Fades c c') (second : Fades c' c'') :
    Fades c c'' :=
  ⟨first.connected ∘ second.connected, first.authed ∘ second.authed,
    second.handed.trans first.handed, first.sentSince ∘ second.sentSince⟩

/-- The same, the later change first. -/
theorem Fades.after {c c' c'' : DBMiddlewareClient} (second : Fades c' c'') (first : Fades c c') :
    Fades c c'' := first.trans second

variable {config : ClientConfig} (c : DBMiddlewareClient)

theorem scheduleReconnect_fades : Fades c c.scheduleReconnect := by
  rw [scheduleReconnect]
  dsimp only
  split <;> exact ⟨fun connected => (by cases connected), id, rfl, id⟩

theorem giveUp_fades : Fades c c.giveUp :=
  c.closeSocket.scheduleReconnect_fades.after ⟨fun connected => (by cases connected), id, rfl, id⟩

theorem giveUpFrom_fades (opened : Nat) : Fades c (c.giveUpFrom opened) :=
  { c with journal := c.journal ++ [ClientNote.closedBy opened c.link c.connected] }.giveUp_fades.after
    ⟨id, id, rfl, id⟩

theorem doConnect_fades (config : ClientConfig) : Fades c (c.doConnect config) := by
  rw [doConnect]
  split
  · exact ⟨id, id, rfl, id⟩
  · split <;> exact ⟨id, id, rfl, id⟩

theorem runJob_fades (job : StrandJob) : Fades c (c.runJob config job) := by
  cases job with
  | connect => exact c.doConnect_fades config
  | close => exact ⟨fun connected => (by cases connected), id, rfl, id⟩
  | push frame =>
      obtain ⟨queue, flag, writes, pushed⟩ := push_eq c frame
      rw [runJob, pushed]
      exact ⟨id, id, rfl, id⟩

theorem doReadSome_fades : Fades c c.doReadSome := by
  rw [doReadSome]
  split <;> exact ⟨id, id, rfl, id⟩

theorem sendSecureJson_fades (j : Json) : Fades c (c.callInline config (.sendSecureJson j)) := by
  obtain ⟨ids, queue, flag, writes, sent⟩ := sendSecureJson_eq config c j
  rw [sent]
  exact ⟨id, id, rfl, id⟩

/-- The calls of `main` and of the router. -/
theorem call_fades {k : ClientCall} (routine : ClientEvent.Routine (.call k)) :
    Fades c (c.callFrom config k) := by
  have queued : ∀ (c : DBMiddlewareClient) (jobs : List StrandJob), Fades c { c with jobs := jobs } :=
    fun c jobs => ⟨id, id, rfl, id⟩
  cases k with
  | start | stop => exact ⟨id, id, rfl, id⟩
  | sendJson j throws =>
      obtain ⟨ids, numbered⟩ := withRequestId_snd c j
      have counted : Fades c (c.withRequestId j).2 := by
        rw [numbered]
        exact ⟨id, id, rfl, id⟩
      rcases built : c.withRequestId j with ⟨_ | request, c'⟩ <;> rw [built] at counted
      · simp only [callFrom, call, built]
        exact (counted.trans c'.giveUp_fades).trans (queued _ _)
      · cases throws <;> simp only [callFrom, call, built, if_true, Bool.false_eq_true, if_false]
        · exact counted.trans (queued _ _)
        · exact (counted.trans c'.giveUp_fades).trans (queued _ _)
  | sendSecureJson j =>
      obtain ⟨ids, numbered⟩ := withRequestId_snd c j
      have counted : Fades c (c.withRequestId j).2 := by
        rw [numbered]
        exact ⟨id, id, rfl, id⟩
      rcases built : c.withRequestId j with ⟨_ | request, c'⟩ <;> rw [built] at counted <;>
        simp only [callFrom, call, built] <;> exact counted.trans (queued _ _)
  | markAuthed | noteHeartbeatAck | sendFramed => cases routine

variable {c}

/-- What a message calls keeps the authentication its own, if it is among those handed on. -/
theorem clientCalls_authenticated (config : ClientConfig) (authenticated : Authenticated c)
    (message : Message) (handed : message ∈ c.handed) :
    Authenticated (message.clientCalls.foldl (callInline config) c) ∧
      (message.clientCalls.foldl (callInline config) c).handed = c.handed := by
  rcases message.clientCalls_cases with calls | calls | calls | calls
  · rw [calls]
    exact ⟨authenticated, rfl⟩
  · have vouched : Vouched c.handed := ⟨message, handed, by simp [calls]⟩
    rw [calls]
    exact ⟨⟨fun _ _ => vouched, fun _ => vouched⟩, rfl⟩
  · rw [calls]
    exact ⟨⟨authenticated.authed, fun sent => absurd sent (Nat.lt_irrefl 0)⟩, rfl⟩
  · rw [calls]
    have begun := { c with
      authed := false
      stopping := false
      connected := false
      reconnectTimer := c.reconnectTimer.cancel
      heartbeatTimer := c.heartbeatTimer.cancel }.doConnect_fades config
    have closed : Fades c ([ClientCall.markAuthed false, .stop, .start].foldl
        (callInline config) c) :=
      begun.after ⟨fun connected => (by cases connected), fun authed => (by cases authed), rfl, id⟩
    exact ⟨authenticated.fade closed, closed.handed⟩

theorem reactions_authenticated (config : ClientConfig) (given : List Message)
    (authenticated : Authenticated c) (handed : ∀ message ∈ given, message ∈ c.handed) :
    Authenticated ((given.flatMap Message.clientCalls).foldl (callInline config) c) := by
  induction given generalizing c with
  | nil => exact authenticated
  | cons message given ih =>
      rw [List.flatMap_cons, List.foldl_append]
      obtain ⟨next, same⟩ := clientCalls_authenticated config authenticated message
        (handed message List.mem_cons_self)
      refine ih next fun other member => ?_
      rw [same]
      exact handed other (List.mem_cons_of_mem _ member)

theorem takeIn_authenticated (config : ClientConfig) (authenticated : Authenticated c)
    (opened : Nat) (data : Bytes) :
    Authenticated (c.takeIn config opened data) := by
  have longer : Vouched c.handed → Vouched (c.takeIn config opened data).handed := by
    rintro ⟨message, member, accepts⟩
    exact ⟨message, List.mem_append_left _ member, accepts⟩
  exact ⟨fun connected authed => longer (authenticated.authed connected authed),
    fun sent => longer (authenticated.beats sent)⟩

theorem onConnect_authenticated : Authenticated (c.onConnect config false) := by
  have fresh : Authenticated c.established :=
    ⟨fun _ authed => (by cases authed), fun sent => absurd sent (Nat.lt_irrefl 0)⟩
  have login : Fades c.established (c.established.serverSendLogin config) := by
    rw [serverSendLogin]
    split
    · exact ⟨id, id, rfl, id⟩
    · exact (sendSecureJson_fades { c.established with serverLoginSent := true } _).after
        ⟨id, id, rfl, id⟩
  have read := (c.established.serverSendLogin config).doReadSome_fades
  exact fresh.fade ((login.trans read).trans ⟨id, id, rfl, id⟩)

theorem heartbeatTimer_authenticated (authenticated : Authenticated c) (how : WaitEnd) :
    Authenticated (clientStep config c (.heartbeatTimer how)) := by
  rw [clientStep]
  split
  · exact authenticated
  · rename_i t _
    have found : Authenticated { c with heartbeatTimer := t } :=
      ⟨authenticated.authed, authenticated.beats⟩
    rw [onHeartbeatTimer]
    split
    · exact found
    · split
      · rename_i both
        have vouched : Vouched c.handed := authenticated.authed both.1 both.2
        obtain ⟨ids, queue, flag, writes, sent⟩ := sendSecureJson_eq config
          { c with heartbeatTimer := t } (.obj
            [("type", .str "keepalive"), ("nickname", .str config.serverLoginNickname)])
        rw [sendHeartbeat, sent]
        dsimp only
        split
        · refine Authenticated.fade ?_ (giveUp_fades _)
          exact ⟨fun _ _ => vouched, fun _ => vouched⟩
        · exact ⟨fun _ _ => vouched, fun _ => vouched⟩
      · exact found.fade ⟨id, id, rfl, id⟩

/-- **No step authenticates a connection but the messages of that connection.** -/
theorem step_authenticated {e : ClientEvent} (routine : e.Routine)
    (authenticated : Authenticated c) : Authenticated (clientStep config c e) := by
  cases e with
  | call k => exact authenticated.fade (c.call_fades routine)
  | job job =>
      rw [clientStep]
      split
      · exact authenticated.fade ((runJob_fades { c with jobs := c.jobs.erase job } job).after
          ⟨id, id, rfl, id⟩)
      · exact authenticated
  | resolved failed =>
      rw [clientStep]
      split
      · rw [onResolve]
        split
        · exact authenticated.fade ((scheduleReconnect_fades { c with resolves := c.resolves - 1 }).after
            ⟨id, id, rfl, id⟩)
        · exact authenticated.fade ⟨id, id, rfl, id⟩
      · exact authenticated
  | connectDone failed =>
      rw [clientStep]
      split
      · cases failed with
        | true =>
            exact authenticated.fade ((scheduleReconnect_fades { c with connects := c.connects - 1 }).after
              ⟨id, id, rfl, id⟩)
        | false => exact onConnect_authenticated
      · exact authenticated
  | readDone opened result react =>
      cases routine
      rw [clientStep]
      split
      · have ended : Authenticated { c with reads := c.reads.erase opened } :=
          ⟨authenticated.authed, authenticated.beats⟩
        generalize { c with reads := c.reads.erase opened } = c at ended
        cases result with
        | none => exact ended.fade (c.giveUpFrom_fades opened)
        | some data =>
            have called := reactions_authenticated config
              ((c.msgBuf.append data).drain.1.filterMap config.decode)
              (takeIn_authenticated config ended opened data)
              fun message member => List.mem_append_right _ member
            rw [onRead]
            split
            · exact called.fade (giveUpFrom_fades _ opened)
            · exact called.fade (doReadSome_fades _)
      · exact authenticated
  | writeDone opened failed =>
      rw [clientStep]
      split
      · rw [onWrite]
        split
        · exact authenticated.fade ((giveUpFrom_fades { c with writes := c.writes.erase opened } opened).after
            ⟨id, id, rfl, id⟩)
        · rw [flushWriteQueue]
          split <;> exact authenticated.fade ⟨id, id, rfl, id⟩
      · exact authenticated
  | reconnectTimer how =>
      rw [clientStep]
      split
      · exact authenticated
      · rename_i t _
        rw [onReconnectTimer]
        split
        · exact authenticated.fade ⟨id, id, rfl, id⟩
        · exact authenticated.fade ((doConnect_fades { c with reconnectTimer := t } config).after
            ⟨id, id, rfl, id⟩)
  | heartbeatTimer how => exact heartbeatTimer_authenticated authenticated how

end DBMiddlewareClient

/-- Which messages say that the login succeeded; the two forms spell it differently. -/
theorem Message.authenticates_iff (message : Message) :
    .markAuthed true ∈ message.clientCalls ↔
      (∃ env, message = .proto env ∧ env.type = .serverLoginAck ∧
          env.serverLoginAck.result = "ok") ∨
        ∃ j nickname, message = .json j ∧ j.valueStr "type" "" = .ok serverLoginAckType ∧
          j.valueStr "result" "" = .ok "OK" ∧ j.valueStr "nickname" "" = .ok nickname := by
  cases message with
  | proto env =>
      simp only [clientCalls, Message.proto.injEq, exists_eq_left', reduceCtorEq, false_and,
        exists_false, or_false]
      cases env.type <;> simp
  | json j =>
      simp only [clientCalls, Message.json.injEq, exists_and_left, exists_eq_left', reduceCtorEq,
        false_and, exists_false, false_or]
      cases typed : j.valueStr "type" "" with
      | error e => simp
      | ok type =>
          by_cases login : type = serverLoginAckType
          · subst login
            cases result : j.valueStr "result" "" with
            | error e => simp [handlerCalls, onServerLoginAck, result]
            | ok text =>
                cases nickname : j.valueStr "nickname" "" with
                | error e => simp [handlerCalls, onServerLoginAck, result, nickname]
                | ok name =>
                    by_cases ok : text = "OK" <;>
                      simp [handlerCalls, onServerLoginAck, result, nickname, ok]
          · have other : type = keepaliveAckType ∨ type ≠ keepaliveAckType := em _
            rcases other with rfl | other <;>
              simp [handlerCalls, *, onServerKeepAliveAck]

namespace Wired

/-- **A connection is authenticated, and has heartbeats sent on it, only after a message
handed on since it was made said that the login succeeded**, in every run of client and
router. -/
theorem heartbeat_authenticated (config : ClientConfig) (events : List (MiddlewareEvent κ)) :
    let c := (run (step config) (main κ) events).client
    ((c.connected = true ∧ c.authed = true) ∨ 0 < c.sentSince) →
      ∃ message ∈ c.handed, .markAuthed true ∈ message.clientCalls := by
  have fresh : (main κ).client.Authenticated :=
    ⟨fun connected => (by cases connected), fun sent => absurd sent (Nat.lt_irrefl 0)⟩
  have authenticated : (run (step config) (main κ) events).client.Authenticated := by
    refine @run_invariant _ _ (step config) (fun _ _ => True)
      (fun w : Wired κ => w.client.Authenticated) (fun w e authenticated _ => ?_) (main κ) fresh
      events (along_true _ events)
    rw [(client_refines config).simulated w e trivial]
    have routine : Along (clientStep config) (fun _ o => o.Routine) w.client (w.clientOps e) :=
      along_iff.mpr fun front o within =>
        w.clientOps_routine e o (within.subset (by simp))
    exact run_invariant (fun c o authenticated routine =>
      DBMiddlewareClient.step_authenticated routine authenticated) authenticated routine
  rintro c (⟨connected, authed⟩ | sent)
  · exact authenticated.authed connected authed
  · exact authenticated.beats sent

/-- A login that succeeds, and the first heartbeat. -/
def acceptedAndBeating : List (MiddlewareEvent Nat) :=
  [.start, .job .connect, .resolved false, .connectDone false,
    .readDone 1 (some (Wire.sendFramed (ClientConfig.dumpTexts
      (Ack.serverLogin "OK" "Server_1").json))), .heartbeatTimer .expired]

theorem heartbeat_authenticated_once :
    let c := (run (step (.small [(Ack.serverLogin "OK" "Server_1").json])) (main Nat)
      acceptedAndBeating).client
    0 < c.sentSince ∧ ∃ message ∈ c.handed, .markAuthed true ∈ message.clientCalls := by
  have beat : 0 < (run (step (.small [(Ack.serverLogin "OK" "Server_1").json])) (main Nat)
      acceptedAndBeating).client.sentSince := by decide +kernel
  exact ⟨beat, heartbeat_authenticated _ _ (.inr beat)⟩

end Wired

end GameServer.Dbmw
