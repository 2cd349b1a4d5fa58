/-
# Dbmw.Router -- `DBmwRouter`, the request table towards the DB middleware

A request gets an id, is entered in `pending`, handed to a sender and given a
timer.  It leaves the table through `handle`, when a response names its id, or
through `expire`, when the timer runs out with no retry left.  Everything after
the id runs on the router's strand, so one call is one step.

The callbacks are of an arbitrary type: a step returns the ones it invoked among
its effects, and the code that holds the router runs them.

Timers are not kept: every entry of the table has one armed, and a wait that had
ended before its `cancel()` still runs its body, so an expiration is an event
that may name any id at any time.
-/
import Mathlib.Data.List.AList
import GameServer.Wire.Json

namespace GameServer.Dbmw

set_option autoImplicit false

open Wire

universe u

/-- An entry of the request table.  `serial` numbers the calls that made entries;
the code has no such field. -/
structure Pending (κ : Type u) where
  serial : Nat
  requestJson : Json
  secure : Bool
  retries : Int := 0
  maxRetries : Int
  timeoutMs : Int
  sessionId : Int
  onOk : Option κ := none
  onError : Option κ := none
  useCallbacks : Bool := false

/-- The part of an entry that no retry changes. -/
structure Ticket (κ : Type u) where
  serial : Nat
  onOk : Option κ
  onError : Option κ
  useCallbacks : Bool

def Pending.ticket {κ : Type u} (p : Pending κ) : Ticket κ :=
  ⟨p.serial, p.onOk, p.onError, p.useCallbacks⟩

/-- The counters are 64 bits wide in the code; no run of interest wraps them, and the
model does not. -/
structure Metrics where
  sent : Nat := 0
  ok : Nat := 0
  timedOut : Nat := 0
  retried : Nat := 0
  failed : Nat := 0
deriving DecidableEq, Repr

structure DBmwRouter (κ : Type u) where
  pending : AList (fun _ : String => Pending κ) := ∅
  reqSeq : Nat := 0
  metrics : Metrics := {}
  /-- Whether `set_senders` gave a function of the kind. -/
  sendJsonFn : Bool := false
  sendSecureJsonFn : Bool := false
  /-- The types of `handlers_`. -/
  handlers : List String := []
  /-- The waits `schedule_retry` has started. -/
  resends : List String := []
  serials : Nat := 0

inductive Callback where
  | onOk
  | onError
deriving DecidableEq, Repr

/-- What a step does besides changing the table. -/
inductive Effect (κ : Type u) where
  /-- `pending_.emplace`. -/
  | entered (reqId : String) (ticket : Ticket κ)
  | send (secure : Bool) (request : Json)
  /-- `promise.set_value`. -/
  | fulfil (serial : Nat) (result : Json)
  | call (serial : Nat) (which : Callback) (callback : κ) (response : Json)
  /-- `on_error` of a request that is not entered. -/
  | refused (callback : κ) (response : Json)
  | handler (type : String) (message : Json)
  | threw (error : JsonError)

/-- What one run of the strand is given: the process id, and whether the sender
throws if it is called. -/
structure StrandRun where
  pid : Nat := 0
  senderThrows : Bool := false

namespace DBmwRouter

variable {κ : Type u}

def hasSender (r : DBmwRouter κ) (secure : Bool) : Bool :=
  if secure then r.sendSecureJsonFn else r.sendJsonFn

def setSenders (sendJsonFn sendSecureJsonFn : Bool) (r : DBmwRouter κ) : DBmwRouter κ :=
  { r with sendJsonFn, sendSecureJsonFn }

/-- `make_req_id`: the id, and the router with the sequence number taken. -/
def makeReqId (ctx : StrandRun) (sessionId : Int) (r : DBmwRouter κ) : String × DBmwRouter κ :=
  let seq := (r.reqSeq + 1) % 2 ^ 64
  (if 0 ≤ sessionId then toString sessionId ++ "_" ++ toString seq
    else "srv-" ++ toString ctx.pid ++ "-" ++ toString seq,
    { r with reqSeq := seq })

/-- The request with the payload's members over its own.  Walking a value that is
neither an object, nor null, nor an empty array throws at the first `key()`. -/
def buildRequest (api reqId : String) (payload : Json) : Except JsonError Json :=
  let req := [("type", Json.str "db_query"), ("api", .str api), ("req_id", .str reqId)]
  match payload with
  | .null | .arr [] => .ok (.obj req)
  | .obj fields => .ok (.obj (fields.foldl (fun req field => Json.assign req field.1 field.2) req))
  | _ => .error .iterator

/-- `schedule_retry`. -/
def scheduleRetry (reqId : String) (r : DBmwRouter κ) : DBmwRouter κ :=
  match r.pending.lookup reqId with
  | none => r
  | some _ => { r with resends := r.resends ++ [reqId] }

/-- `send_now_locked`.  The log line behind the send is in the same `try`: it reads
the request's `"api"`, which the payload may have replaced, and what it throws is
taken for a failed send. -/
def sendNowLocked (ctx : StrandRun) (reqId : String) (r : DBmwRouter κ) :
    DBmwRouter κ × List (Effect κ) :=
  match r.pending.lookup reqId with
  | none => (r, [])
  | some p =>
      if r.hasSender p.secure = true ∧ ctx.senderThrows = true then (r.scheduleRetry reqId, [])
      else
        let sent := if r.hasSender p.secure then [Effect.send p.secure p.requestJson] else []
        let r := { r with metrics.sent := r.metrics.sent + 1 }
        match p.requestJson.valueStr "api" "" with
        | .ok _ => (r, sent)
        | .error _ => (r.scheduleRetry reqId, sent)

theorem scheduleRetry_eq (reqId : String) (r : DBmwRouter κ) :
    ∃ resends, r.scheduleRetry reqId = { r with resends := resends } := by
  unfold scheduleRetry
  split
  · exact ⟨r.resends, rfl⟩
  · exact ⟨_, rfl⟩

/-- Sending counts, asks for another try, or sends, and does nothing else. -/
theorem sendNowLocked_eq (ctx : StrandRun) (reqId : String) (r : DBmwRouter κ) :
    ∃ sent resends effects, r.sendNowLocked ctx reqId =
        ({ r with metrics.sent := sent, resends := resends }, effects) ∧
      ∀ effect ∈ effects, ∃ secure request, effect = .send secure request := by
  have none_sent : ∀ effect ∈ ([] : List (Effect κ)), ∃ secure request, effect = .send secure request :=
    fun effect member => (List.not_mem_nil member).elim
  unfold sendNowLocked
  split
  · exact ⟨r.metrics.sent, r.resends, [], rfl, none_sent⟩
  rename_i p found
  split
  · obtain ⟨resends, scheduled⟩ := r.scheduleRetry_eq reqId
    exact ⟨r.metrics.sent, resends, [], by rw [scheduled], none_sent⟩
  have sends : ∀ effect : Effect κ,
      effect ∈ (if r.hasSender p.secure then [Effect.send p.secure p.requestJson] else []) →
        ∃ secure request, effect = .send secure request := by
    intro effect member
    split at member
    · exact ⟨_, _, List.mem_singleton.mp member⟩
    · exact none_sent effect member
  dsimp only
  split
  · exact ⟨_, r.resends, _, rfl, sends⟩
  · obtain ⟨resends, scheduled⟩ :=
      ({ r with metrics.sent := r.metrics.sent + 1 } : DBmwRouter κ).scheduleRetry_eq reqId
    exact ⟨_, resends, _, by rw [scheduled], sends⟩

/-- `pending_.emplace`: an id already in the table keeps its entry. -/
def emplace (reqId : String) (p : Pending κ) (r : DBmwRouter κ) : DBmwRouter κ × List (Effect κ) :=
  match r.pending.lookup reqId with
  | some _ => (r, [])
  | none =>
      ({ r with pending := r.pending.insert reqId p }, [.entered reqId p.ticket])

/-- `fulfill_and_erase_locked`. -/
def fulfillAndEraseLocked (reqId : String) (result : Json) (success : Bool) (r : DBmwRouter κ) :
    DBmwRouter κ × List (Effect κ) :=
  match r.pending.lookup reqId with
  | none => (r, [])
  | some p =>
      ({ r with
          pending := r.pending.erase reqId
          metrics.ok := r.metrics.ok + (if success then 1 else 0)
          metrics.failed := r.metrics.failed + (if success then 0 else 1) },
        [.fulfil p.serial result])

/-- The part of `send_request` and `send_request_cb` that makes an entry, sends it
and arms its timer. -/
def enter (ctx : StrandRun) (reqId : String) (p : Pending κ) (r : DBmwRouter κ) :
    DBmwRouter κ × List (Effect κ) :=
  let (r, entered) := emplace reqId { p with serial := r.serials } { r with serials := r.serials + 1 }
  let (r, sent) := r.sendNowLocked ctx reqId
  (r, entered ++ sent)

/-- `send_request`. -/
def sendRequest (ctx : StrandRun) (api : String) (payload : Json) (secure : Bool)
    (timeoutMs maxRetries sessionId : Int) (r : DBmwRouter κ) :
    DBmwRouter κ × List (Effect κ) :=
  let (reqId, r) := r.makeReqId ctx sessionId
  match buildRequest api reqId payload with
  | .error e => (r, [.threw e])
  | .ok req =>
      r.enter ctx reqId { serial := 0, requestJson := req, secure, maxRetries, timeoutMs, sessionId }

/-- `send_request_cb`. -/
def sendRequestCb (ctx : StrandRun) (api : String) (payload : Json) (secure : Bool)
    (timeoutMs maxRetries sessionId : Int) (onOk onError : Option κ) (r : DBmwRouter κ) :
    DBmwRouter κ × List (Effect κ) :=
  let (reqId, r) := r.makeReqId ctx sessionId
  match buildRequest api reqId payload with
  | .error e => (r, [.threw e])
  | .ok req =>
      if r.hasSender secure then
        r.enter ctx reqId
          { serial := 0, requestJson := req, secure, maxRetries, timeoutMs, sessionId, onOk, onError,
            useCallbacks := true }
      else
        let err := Json.obj [("type", .str "error"), ("code", .number (-1)),
          ("msg", .str "send function not set"), ("req_id", .str reqId)]
        (r, (onError.map fun callback => Effect.refused callback err).toList)

def okType : String := "db_query_result"

def errorTypes : List String := ["db_error", "dbmw_error", "db_error_msg"]

/-- The strand part of `handle`, for a response that names a request. -/
def answer (reqId : String) (j : Json) (type : String) (r : DBmwRouter κ) :
    DBmwRouter κ × List (Effect κ) :=
  match r.pending.lookup reqId with
  | none => (r, [])
  | some p =>
      let ok := type == okType
      let (r, fulfilled) := r.fulfillAndEraseLocked reqId j ok
      if p.useCallbacks then
        let called : List (Effect κ) :=
          if ok then (p.onOk.map fun callback => Effect.call p.serial .onOk callback j).toList
          else (p.onError.map fun callback => Effect.call p.serial .onError callback j).toList
        (r, fulfilled ++ called)
      else (r, fulfilled)

/-- The registered handler of a type, else a line in the log. -/
def passOn (type : String) (j : Json) (r : DBmwRouter κ) : DBmwRouter κ × List (Effect κ) :=
  (r, if type ∈ r.handlers then [.handler type j] else [])

/-- `handle`. -/
def handle (j : Json) (r : DBmwRouter κ) : DBmwRouter κ × List (Effect κ) :=
  match j.valueStr "type" "" with
  | .error e => (r, [.threw e])
  | .ok type =>
      if type = okType ∨ type ∈ errorTypes then
        match j.valueStr "req_id" "" with
        | .error e => (r, [.threw e])
        | .ok reqId => if reqId ≠ "" then r.answer reqId j type else r.passOn type j
      else r.passOn type j

/-- The response the table makes up for a request it gives up. -/
def timeoutError (reqId : String) : Json :=
  .obj [("type", .str "error"), ("code", .number (-110)), ("msg", .str "timeout"),
    ("req_id", .str reqId)]

/-- The wait of `arm_timeout_locked`, ended without an error. -/
def expire (ctx : StrandRun) (reqId : String) (r : DBmwRouter κ) : DBmwRouter κ × List (Effect κ) :=
  match r.pending.lookup reqId with
  | none => (r, [])
  | some p =>
      if p.retries < p.maxRetries then
        let r := { r with
          pending := r.pending.insert reqId { p with retries := p.retries + 1 }
          metrics.retried := r.metrics.retried + 1 }
        r.sendNowLocked ctx reqId
      else
        let r := { r with metrics.timedOut := r.metrics.timedOut + 1 }
        r.fulfillAndEraseLocked reqId (timeoutError reqId) false

/-- The wait of `schedule_retry`, ended with or without an error. -/
def resend (ctx : StrandRun) (reqId : String) (cancelled : Bool) (r : DBmwRouter κ) :
    DBmwRouter κ × List (Effect κ) :=
  if reqId ∈ r.resends then
    let r := { r with resends := r.resends.erase reqId }
    if cancelled then (r, []) else r.sendNowLocked ctx reqId
  else (r, [])

end DBmwRouter

/-! ## What a response comes to -/

/-- What a response is about: the request it names, and the type it has. -/
def Addressed (j : Json) (type reqId : String) : Prop :=
  j.valueStr "type" "" = .ok type ∧ (type = DBmwRouter.okType ∨ type ∈ DBmwRouter.errorTypes) ∧
    j.valueStr "req_id" "" = .ok reqId ∧ reqId ≠ ""

namespace DBmwRouter

variable {κ : Type u}

/-- What leaves the table is counted, and its promise set. -/
theorem fulfillAndEraseLocked_found {reqId : String} {r : DBmwRouter κ} {p : Pending κ}
    (found : r.pending.lookup reqId = some p) (result : Json) (success : Bool) :
    r.fulfillAndEraseLocked reqId result success =
      ({ r with
          pending := r.pending.erase reqId
          metrics.ok := r.metrics.ok + (if success then 1 else 0)
          metrics.failed := r.metrics.failed + (if success then 0 else 1) },
        [.fulfil p.serial result]) := by
  rw [fulfillAndEraseLocked, found]

/-- The callbacks of an answer change nothing. -/
theorem answer_router (reqId : String) (j : Json) (type : String) (r : DBmwRouter κ) :
    (r.answer reqId j type).1 = (r.fulfillAndEraseLocked reqId j (type == okType)).1 := by
  cases found : r.pending.lookup reqId with
  | none => simp only [answer, fulfillAndEraseLocked, found]
  | some p =>
      simp only [answer, found]
      split <;> rfl

/-- **What `handle` does with a response**: it answers the request the response is about, passes
the response on by its type, or throws. -/
theorem handle_cases (j : Json) (r : DBmwRouter κ) :
    (∃ type reqId, Addressed j type reqId ∧ r.handle j = r.answer reqId j type) ∨
      (∃ type, j.valueStr "type" "" = .ok type ∧ r.handle j = r.passOn type j) ∨
      ∃ e, r.handle j = (r, [.threw e]) := by
  unfold handle
  cases typed : j.valueStr "type" "" with
  | error e => exact .inr (.inr ⟨e, rfl⟩)
  | ok type =>
      simp only
      by_cases known : type = okType ∨ type ∈ errorTypes
      · rw [if_pos known]
        cases named : j.valueStr "req_id" "" with
        | error e => exact .inr (.inr ⟨e, rfl⟩)
        | ok reqId =>
            simp only
            by_cases filled : reqId ≠ ""
            · rw [if_pos filled]
              exact .inl ⟨type, reqId, ⟨typed, known, named, filled⟩, rfl⟩
            · rw [if_neg filled]
              exact .inr (.inl ⟨type, rfl, rfl⟩)
      · rw [if_neg known]
        exact .inr (.inl ⟨type, rfl, rfl⟩)

end DBmwRouter

/-! ## Runs of the table -/

inductive RouterEvent (κ : Type u) where
  | sendRequest (api : String) (payload : Json) (secure : Bool)
      (timeoutMs maxRetries sessionId : Int)
  | sendRequestCb (api : String) (payload : Json) (secure : Bool)
      (timeoutMs maxRetries sessionId : Int) (onOk onError : Option κ)
  | response (j : Json)
  | expire (reqId : String)
  | resend (reqId : String) (cancelled : Bool)
  | setSenders (sendJsonFn sendSecureJsonFn : Bool)

open DBmwRouter in
def routerStep {κ : Type u} (ctx : StrandRun) (r : DBmwRouter κ) :
    RouterEvent κ → DBmwRouter κ × List (Effect κ)
  | .sendRequest api payload secure timeoutMs maxRetries sessionId =>
      r.sendRequest ctx api payload secure timeoutMs maxRetries sessionId
  | .sendRequestCb api payload secure timeoutMs maxRetries sessionId onOk onError =>
      r.sendRequestCb ctx api payload secure timeoutMs maxRetries sessionId onOk onError
  | .response j => r.handle j
  | .expire reqId => r.expire ctx reqId
  | .resend reqId cancelled => r.resend ctx reqId cancelled
  | .setSenders sendJsonFn sendSecureJsonFn => (r.setSenders sendJsonFn sendSecureJsonFn, [])

/-- A router with everything it has done so far. -/
structure History (κ : Type u) where
  router : DBmwRouter κ
  effects : List (Effect κ) := []

def History.step {κ : Type u} (h : History κ) (e : StrandRun × RouterEvent κ) : History κ :=
  ⟨(routerStep e.1 h.router e.2).1, h.effects ++ (routerStep e.1 h.router e.2).2⟩

end GameServer.Dbmw
