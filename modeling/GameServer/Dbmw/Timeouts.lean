/-
# Dbmw.Timeouts -- `timeout_count_` and the requests nobody answered

`send_json` and `send_secure_json` start a timer of five seconds for the message they
send.  `request_timers_` keeps it under the message's id, and only its own handler takes
it out again: an answer stops nothing, so every request is counted five seconds after it
was sent.

* `send_waits`, `requestIds_heeded` -- each message sent waits, under the id the client
  drew for it;
* `step_tallied` -- no wait is ever cancelled, and each that runs out is counted;
* `counts_unanswered_iff` -- so the count is that of the unanswered requests just as long
  as no answered one runs out;
* `count_right_iff` -- and on no other runs is the bare count right;
* `answered_login_counted` -- a login, acknowledged and counted.
-/
import GameServer.Dbmw.Acks
import GameServer.Dbmw.Echo
import GameServer.Dbmw.Inbound

namespace GameServer.Dbmw

set_option autoImplicit false

open Wire Theory.Runs

/-! ## The timers of the requests -/

/-- A wait of `send_json` or `send_secure_json`, with the message it is for; `answered`
is history. -/
structure RequestWait where
  serial : Nat
  reqId : String
  request : Json
  timer : Timer := { armed := true }
  answered : Bool := false

/-- The client with its timers.  `requestTimers` has the number of the wait in place of
the timer; `ended` lists the waits that ran out. -/
structure TimedClient where
  client : DBMiddlewareClient := {}
  requestTimers : AList fun _ : String => Nat := ∅
  timeoutCount : Int := 0
  waits : List RequestWait := []
  timers : Nat := 0
  ended : List RequestWait := []

/-- What a step of the client does that a request timer may depend on. -/
inductive Activity where
  | received (message : Message)
  | called (k : ClientCall)

inductive TimedEvent where
  | client (e : ClientEvent)
  | requestTimer (serial : Nat) (how : WaitEnd)

namespace TimedClient

variable (config : ClientConfig) (answers : Message → Json → Bool)

/-- The messages a step hands on and the calls it makes, in order. -/
def activities (c : DBMiddlewareClient) : ClientEvent → List Activity
  | .call k => [.called k]
  | .connectDone false =>
      if 0 < c.connects then
        [.called (.sendSecureJson (.obj
          [("type", .str "serverlogin"), ("nickname", .str config.serverLoginNickname)]))]
      else []
  | .readDone opened (some data) react =>
      if opened ∈ c.reads then
        ((c.msgBuf.append data).drain.1.filterMap config.decode).flatMap fun message =>
          .received message :: (react message).map .called
      else []
  | .heartbeatTimer how =>
      match c.heartbeatTimer.finish how with
      | none => []
      | some _ =>
          if how = .aborted ∨ c.stopping then []
          else if c.connected ∧ c.authed then
            [.called (.sendSecureJson (.obj
              [("type", .str "keepalive"), ("nickname", .str config.serverLoginNickname)]))]
          else []
  | .job _ | .resolved _ | .connectDone true | .readDone _ none _ | .writeDone _ _
  | .reconnectTimer _ => []

/-- The timer of a message with its `request_id`; an older one under that id stays armed
and is only no longer in the map. -/
def startTimer (s : TimedClient) (request : Json) : TimedClient :=
  match request.valueStr "request_id" "" with
  | .ok reqId =>
      { s with
        requestTimers := s.requestTimers.insert reqId s.timers
        waits := s.waits ++ [{ serial := s.timers, reqId := reqId, request := request }]
        timers := s.timers + 1 }
  | .error _ => s

/-- The part of a send that numbers the message, and the timer behind it. -/
def send (s : TimedClient) (j : Json) (throws : Bool) : TimedClient :=
  match s.client.withRequestId j with
  | (.error _, c) => { s with client := c }
  | (.ok request, c) =>
      if throws then { s with client := c } else startTimer { s with client := c } request

def heed (s : TimedClient) : Activity → TimedClient
  | .received message =>
      { s with waits := s.waits.map fun w =>
          if answers message w.request then { w with answered := true } else w }
  | .called (.sendJson j throws) => s.send j throws
  | .called (.sendSecureJson j) => s.send j false
  | .called _ => s

/-- The handler of a request timer. -/
def onRequestTimer (s : TimedClient) (w : RequestWait) (how : WaitEnd) : TimedClient :=
  { s with
    timeoutCount :=
      if how = .aborted then s.timeoutCount else Int.bmod (s.timeoutCount + 1) (2 ^ 32)
    requestTimers := s.requestTimers.erase w.reqId
    waits := s.waits.filter fun other => other.serial ≠ w.serial
    ended := s.ended ++ [w] }

def step (s : TimedClient) : TimedEvent → TimedClient
  | .client e =>
      { (activities config s.client e).foldl (heed answers) s with
        client := clientStep config s.client e }
  | .requestTimer serial how =>
      match s.waits.find? fun w => w.serial = serial with
      | none => s
      | some w => if (w.timer.finish how).isSome then s.onRequestTimer w how else s

/-! ## What is asked of a run -/

/-- No answered request was counted, and the count is the number of the requests that
stayed unanswered. -/
structure CountsUnanswered (s : TimedClient) : Prop where
  unanswered : ∀ w ∈ s.ended, w.answered = false
  count : s.timeoutCount = (s.ended.filter fun w => !w.answered).length

/-- A request whose time runs out is unanswered, and the counter has room for it. -/
def RunsOutUnanswered (s : TimedClient) : TimedEvent → Prop
  | .requestTimer serial .expired =>
      ∀ w ∈ s.waits.find? fun w => w.serial = serial,
        w.answered = false ∧ s.ended.length + 1 < 2 ^ 31
  | _ => True

/-! ## The ids -/

variable {config answers}

@[simp] theorem scheduleReconnect_requestIds (c : DBMiddlewareClient) :
    c.scheduleReconnect.requestIds = c.requestIds := by
  simp only [DBMiddlewareClient.scheduleReconnect]
  split <;> rfl

@[simp] theorem giveUp_requestIds (c : DBMiddlewareClient) : c.giveUp.requestIds = c.requestIds :=
  scheduleReconnect_requestIds _

@[simp] theorem giveUpFrom_requestIds (c : DBMiddlewareClient) (opened : Nat) :
    (c.giveUpFrom opened).requestIds = c.requestIds :=
  giveUp_requestIds _

@[simp] theorem doConnect_requestIds (c : DBMiddlewareClient) :
    (c.doConnect config).requestIds = c.requestIds := by
  rw [DBMiddlewareClient.doConnect]
  split
  · rfl
  · split <;> rfl

@[simp] theorem doReadSome_requestIds (c : DBMiddlewareClient) :
    c.doReadSome.requestIds = c.requestIds := by
  rw [DBMiddlewareClient.doReadSome]
  split <;> rfl

@[simp] theorem flushWriteQueue_requestIds (c : DBMiddlewareClient) :
    c.flushWriteQueue.requestIds = c.requestIds := by
  rw [DBMiddlewareClient.flushWriteQueue]
  split <;> rfl

@[simp] theorem push_requestIds (c : DBMiddlewareClient) (frame : Bytes) :
    (c.push frame).requestIds = c.requestIds := by
  obtain ⟨queue, flag, writes, pushed⟩ := c.push_eq frame
  rw [pushed]

@[simp] theorem runJob_requestIds (c : DBMiddlewareClient) (job : StrandJob) :
    (c.runJob config job).requestIds = c.requestIds := by
  cases job with
  | connect => exact doConnect_requestIds c
  | close => rfl
  | push frame => exact push_requestIds c frame

theorem withRequestId_congr {c c' : DBMiddlewareClient} (same : c.requestIds = c'.requestIds)
    (j : Json) : (c.withRequestId j).1 = (c'.withRequestId j).1 ∧
      (c.withRequestId j).2.requestIds = (c'.withRequestId j).2.requestIds := by
  simp only [DBMiddlewareClient.withRequestId, DBMiddlewareClient.generateRequestId, same]
  split
  · split <;> simp [same]
  · simp
  · simp

theorem startTimer_client (s : TimedClient) (request : Json) :
    (s.startTimer request).client = s.client := by
  rw [startTimer]
  split <;> rfl

/-- A message that was numbered has its id under `request_id`. -/
theorem withRequestId_valueStr {c c' : DBMiddlewareClient} {j request : Json}
    (built : c.withRequestId j = (.ok request, c')) :
    ∃ reqId, request.valueStr "request_id" "" = .ok reqId := by
  simp only [DBMiddlewareClient.withRequestId] at built
  split at built
  · rename_i fields
    split at built <;> simp only [Prod.mk.injEq, Except.ok.injEq, reduceCtorEq, false_and] at built
    · rename_i reqId given
      exact ⟨reqId, by simp [← built.1, Json.valueStr, given]⟩
    · exact ⟨c.generateRequestId.1, by simp [← built.1, Json.valueStr, lookup_assign]⟩
  · simp only [Prod.mk.injEq, Except.ok.injEq] at built
    exact ⟨c.generateRequestId.1, by simp [← built.1, Json.valueStr, Json.lookup]⟩
  · simp at built

/-- **Each message sent waits**, under its id. -/
theorem send_waits {s : TimedClient} {c : DBMiddlewareClient} {j request : Json}
    (built : s.client.withRequestId j = (.ok request, c)) :
    ∃ reqId, request.valueStr "request_id" "" = .ok reqId ∧
      (s.send j false).waits =
        s.waits ++ [{ serial := s.timers, reqId := reqId, request := request }] ∧
      (s.send j false).requestTimers = s.requestTimers.insert reqId s.timers := by
  obtain ⟨reqId, read⟩ := withRequestId_valueStr built
  refine ⟨reqId, read, ?_, ?_⟩ <;> simp [send, built, startTimer, read]

theorem send_client (s : TimedClient) (j : Json) (throws : Bool) :
    (s.send j throws).client = (s.client.withRequestId j).2 := by
  rw [send]
  split <;> rename_i built
  · rw [built]
  · rw [built]
    split
    · rfl
    · exact startTimer_client _ _

/-- A call counts as many ids as its timers do. -/
theorem call_requestIds {s : TimedClient} {c : DBMiddlewareClient}
    (same : s.client.requestIds = c.requestIds) (k : ClientCall) :
    (heed answers s (.called k)).client.requestIds = (c.call config k).1.requestIds := by
  cases k with
  | markAuthed value => exact same
  | noteHeartbeatAck => exact same
  | stop => exact same
  | start => exact same
  | sendFramed body => exact same
  | sendJson j throws =>
      have numbered := (withRequestId_congr same j).2
      simp only [heed, send_client, DBMiddlewareClient.call, numbered]
      split <;> rename_i built <;> rw [built]
      · exact (giveUp_requestIds _).symm
      · split
        · exact (giveUp_requestIds _).symm
        · rfl
  | sendSecureJson j =>
      have numbered := (withRequestId_congr same j).2
      simp only [heed, send_client, DBMiddlewareClient.call, numbered]
      split <;> rename_i built <;> rw [built]

theorem callInline_requestIds (c : DBMiddlewareClient) (k : ClientCall) :
    (c.callInline config k).requestIds = (c.call config k).1.requestIds := by
  rw [DBMiddlewareClient.callInline]
  split <;> rename_i called <;> rw [called]
  exact runJob_requestIds _ _

/-- The same of a call on the strand. -/
theorem called_requestIds {s : TimedClient} {c : DBMiddlewareClient}
    (same : s.client.requestIds = c.requestIds) (k : ClientCall) :
    (heed answers s (.called k)).client.requestIds = (c.callInline config k).requestIds :=
  (call_requestIds same k).trans (callInline_requestIds c k).symm

/-- The calls of a batch of messages, on either side. -/
theorem received_requestIds (react : Message → List ClientCall) (messages : List Message)
    {s : TimedClient} {c : DBMiddlewareClient} (same : s.client.requestIds = c.requestIds) :
    ((messages.flatMap fun message => .received message :: (react message).map .called).foldl
        (heed answers) s).client.requestIds =
      ((messages.flatMap react).foldl (DBMiddlewareClient.callInline config) c).requestIds := by
  have batch : ∀ (calls : List ClientCall) {s : TimedClient} {c : DBMiddlewareClient},
      s.client.requestIds = c.requestIds →
        ((calls.map Activity.called).foldl (heed answers) s).client.requestIds =
          (calls.foldl (DBMiddlewareClient.callInline config) c).requestIds := by
    intro calls
    induction calls with
    | nil => exact id
    | cons k calls ih =>
        intro s c same
        exact ih (called_requestIds same k)
  induction messages generalizing s c with
  | nil => exact same
  | cons message messages ih =>
      simp only [List.flatMap_cons, List.cons_append, List.foldl_cons, List.foldl_append]
      exact ih (batch _ same)

/-- **The timers are numbered as the client numbers its messages.** -/
theorem requestIds_heeded (s : TimedClient) (e : ClientEvent) :
    ((activities config s.client e).foldl (heed answers) s).client.requestIds =
      (clientStep config s.client e).requestIds := by
  cases e with
  | call k => exact call_requestIds rfl k
  | job job =>
      rw [clientStep]
      split <;> simp [activities]
  | resolved failed =>
      rw [clientStep, DBMiddlewareClient.onResolve]
      split
      · split <;> simp [activities]
      · rfl
  | writeDone opened failed =>
      rw [clientStep, DBMiddlewareClient.onWrite]
      split
      · split <;> simp [activities]
      · rfl
  | reconnectTimer how =>
      rw [clientStep]
      split
      · rfl
      · rw [DBMiddlewareClient.onReconnectTimer]
        split <;> simp [activities]
  | connectDone failed =>
      cases failed with
      | true =>
          rw [clientStep, DBMiddlewareClient.onConnect]
          split <;> simp [activities]
      | false =>
          rw [activities, clientStep]
          split
          · have logged := @called_requestIds config answers s
              { { s.client with connects := s.client.connects - 1 }.established with
                serverLoginSent := true } rfl (.sendSecureJson (.obj
                [("type", .str "serverlogin"), ("nickname", .str config.serverLoginNickname)]))
            exact logged.trans (doReadSome_requestIds _).symm
          · rfl
  | heartbeatTimer how =>
      rw [activities, clientStep]
      cases s.client.heartbeatTimer.finish how with
      | none => rfl
      | some t =>
          simp only [DBMiddlewareClient.onHeartbeatTimer]
          split
          · rfl
          split
          · have sent := @called_requestIds config answers s { s.client with heartbeatTimer := t }
              rfl (.sendSecureJson (.obj
                [("type", .str "keepalive"), ("nickname", .str config.serverLoginNickname)]))
            refine sent.trans ?_
            split <;> simp [DBMiddlewareClient.sendHeartbeat, DBMiddlewareClient.armHeartbeatTimer]
          · rfl
  | readDone opened result react =>
      cases result with
      | none =>
          rw [clientStep, DBMiddlewareClient.onRead]
          split <;> simp [activities]
      | some data =>
          rw [activities, clientStep]
          split
          · have batch := @received_requestIds config answers react
              ((s.client.msgBuf.append data).drain.1.filterMap config.decode) s
              ({ s.client with reads := s.client.reads.erase opened }.takeIn config opened data) rfl
            refine batch.trans ?_
            rw [DBMiddlewareClient.onRead]
            split <;> simp [DBMiddlewareClient.reactions]
          · rfl

/-! ## The count -/

/-- The count is that of the waits that ran out, as an `int`, and the others are armed. -/
structure Tallied (s : TimedClient) : Prop where
  count : s.timeoutCount = Int.bmod s.ended.length (2 ^ 32)
  armed : ∀ w ∈ s.waits, w.timer = { armed := true }

/-- An armed wait ends in one way. -/
theorem finish_armed (how : WaitEnd) :
    (({ armed := true } : Timer).finish how).isSome ↔ how = .expired := by
  cases how <;> simp [Timer.finish]

theorem startTimer_tallied {s : TimedClient} (tallied : Tallied s) (request : Json) :
    Tallied (s.startTimer request) ∧ (s.startTimer request).ended = s.ended := by
  rw [startTimer]
  split
  · refine ⟨⟨tallied.count, fun w member => ?_⟩, rfl⟩
    rcases List.mem_append.mp member with earlier | new
    · exact tallied.armed w earlier
    · rw [List.mem_singleton.mp new]
  · exact ⟨tallied, rfl⟩

theorem send_tallied {s : TimedClient} (tallied : Tallied s) (j : Json) (throws : Bool) :
    Tallied (s.send j throws) ∧ (s.send j throws).ended = s.ended := by
  have numbered : ∀ c, Tallied { s with client := c } := fun c => ⟨tallied.count, tallied.armed⟩
  rw [send]
  split
  · exact ⟨numbered _, rfl⟩
  · split
    · exact ⟨numbered _, rfl⟩
    · exact startTimer_tallied (numbered _) _

/-- What goes on in the client ends no wait. -/
theorem heed_tallied {s : TimedClient} (tallied : Tallied s) (a : Activity) :
    Tallied (heed answers s a) ∧ (heed answers s a).ended = s.ended := by
  cases a with
  | received message =>
      refine ⟨⟨tallied.count, fun w member => ?_⟩, rfl⟩
      obtain ⟨earlier, waits, rfl⟩ := List.mem_map.mp member
      have armed := tallied.armed earlier waits
      split <;> exact armed
  | called k =>
      cases k with
      | sendJson j throws => exact send_tallied tallied j throws
      | sendSecureJson j => exact send_tallied tallied j false
      | markAuthed value => exact ⟨tallied, rfl⟩
      | noteHeartbeatAck => exact ⟨tallied, rfl⟩
      | stop => exact ⟨tallied, rfl⟩
      | start => exact ⟨tallied, rfl⟩
      | sendFramed body => exact ⟨tallied, rfl⟩

theorem client_tallied {s : TimedClient} (tallied : Tallied s) (e : ClientEvent) :
    Tallied (step config answers s (.client e)) ∧
      (step config answers s (.client e)).ended = s.ended := by
  have heeded : ∀ (activities : List Activity) {s : TimedClient}, Tallied s →
      Tallied (activities.foldl (heed answers) s) ∧
        (activities.foldl (heed answers) s).ended = s.ended := by
    intro activities
    induction activities with
    | nil => exact fun tallied => ⟨tallied, rfl⟩
    | cons a activities ih =>
        intro s tallied
        obtain ⟨next, same⟩ := @heed_tallied answers s tallied a
        obtain ⟨last, ended⟩ := ih next
        exact ⟨last, ended.trans same⟩
  obtain ⟨kept, ended⟩ := heeded (activities config s.client e) tallied
  exact ⟨⟨kept.count, kept.armed⟩, ended⟩

/-- The wait that runs out is counted, whatever was received. -/
theorem requestTimer_eq {s : TimedClient} (tallied : Tallied s) (serial : Nat) (how : WaitEnd) :
    step config answers s (.requestTimer serial how) =
      match s.waits.find? fun w => w.serial = serial with
      | none => s
      | some w => if how = .expired then s.onRequestTimer w .expired else s := by
  simp only [step]
  cases found : s.waits.find? fun w => w.serial = serial with
  | none => rfl
  | some w =>
      simp only [tallied.armed w (List.mem_of_find?_eq_some found), finish_armed]
      split
      · rename_i expired
        rw [expired]
      · rfl

theorem onRequestTimer_tallied {s : TimedClient} (tallied : Tallied s) (w : RequestWait) :
    Tallied (s.onRequestTimer w .expired) := by
  refine ⟨?_, fun other member => tallied.armed other (List.mem_filter.mp member).1⟩
  simp only [onRequestTimer, reduceCtorEq, if_false, List.length_append, List.length_singleton,
    tallied.count, Int.bmod_add_bmod]
  push_cast
  rfl

/-- **One step of the count.** -/
theorem step_tallied {s : TimedClient} (tallied : Tallied s) (e : TimedEvent) :
    Tallied (step config answers s e) := by
  cases e with
  | client e => exact (client_tallied tallied e).1
  | requestTimer serial how =>
      rw [requestTimer_eq tallied]
      split
      · exact tallied
      · split
        · exact onRequestTimer_tallied tallied _
        · exact tallied

theorem countsUnanswered_iff {s : TimedClient} (tallied : Tallied s) :
    CountsUnanswered s ↔ (∀ w ∈ s.ended, w.answered = false) ∧ s.ended.length < 2 ^ 31 := by
  have small : Int.bmod s.ended.length (2 ^ 32) = s.ended.length ↔ s.ended.length < 2 ^ 31 := by
    rw [Int.bmod_def]
    split <;> omega
  have all (unanswered : ∀ w ∈ s.ended, w.answered = false) :
      (s.ended.filter fun w => !w.answered) = s.ended :=
    List.filter_eq_self.mpr fun w member => by simp [unanswered w member]
  constructor
  · rintro ⟨unanswered, count⟩
    rw [all unanswered, tallied.count] at count
    exact ⟨unanswered, small.mp count⟩
  · rintro ⟨unanswered, short⟩
    exact ⟨unanswered, by rw [all unanswered, tallied.count, small.mpr short]⟩

/-- **The count stays right on exactly the steps in which no answered request runs out.** -/
theorem step_countsUnanswered_iff {s : TimedClient} (tallied : Tallied s)
    (counts : CountsUnanswered s) (e : TimedEvent) :
    CountsUnanswered (step config answers s e) ↔ RunsOutUnanswered s e := by
  have next := @step_tallied config answers s tallied e
  obtain ⟨unanswered, short⟩ := (countsUnanswered_iff tallied).mp counts
  cases e with
  | client e =>
      have ended := (@client_tallied config answers s tallied e).2
      refine iff_of_true ((countsUnanswered_iff next).mpr ?_) trivial
      rw [ended]
      exact ⟨unanswered, short⟩
  | requestTimer serial how =>
      rw [requestTimer_eq tallied] at next ⊢
      cases how with
      | aborted =>
          refine iff_of_true ?_ trivial
          split <;> simpa using counts
      | late =>
          refine iff_of_true ?_ trivial
          split <;> simpa using counts
      | expired =>
          rw [RunsOutUnanswered]
          cases found : s.waits.find? fun w => w.serial = serial with
          | none => simpa using counts
          | some w =>
              have tallied' := onRequestTimer_tallied tallied w
              have ended : (s.onRequestTimer w .expired).ended = s.ended ++ [w] := rfl
              simp only [if_true, Option.mem_some_iff, forall_eq', countsUnanswered_iff tallied',
                ended, List.mem_append, List.mem_singleton, List.length_append,
                List.length_singleton]
              constructor
              · rintro ⟨all, room⟩
                exact ⟨all w (.inr rfl), room⟩
              · rintro ⟨own, room⟩
                refine ⟨?_, room⟩
                rintro other (earlier | rfl)
                · exact unanswered other earlier
                · exact own

/-- **`timeout_count_` counts unanswered requests only**, throughout a run, if and only if
no request of the run runs out that was answered. -/
theorem counts_unanswered_iff (config : ClientConfig) (answers : Message → Json → Bool)
    (events : List TimedEvent) :
    (∀ front, front <+: events → CountsUnanswered (run (step config answers) {} front)) ↔
      Along (step config answers) RunsOutUnanswered {} events := by
  have start : Tallied {} := ⟨by simp, by simp⟩
  have none : CountsUnanswered {} := ⟨by simp, by simp⟩
  have preserved : ∀ s e, Tallied s → Tallied (step config answers s e) :=
    fun s e tallied => step_tallied tallied e
  have sharp : ∀ s e, Tallied s → CountsUnanswered s →
      (CountsUnanswered (step config answers s e) ↔ RunsOutUnanswered s e) :=
    fun s e tallied counts => step_countsUnanswered_iff tallied counts e
  exact throughout_iff preserved sharp start none events

/-- The count alone: it is the number of the requests that stayed unanswered. -/
def CountIsRight (s : TimedClient) : Prop :=
  s.timeoutCount = (s.ended.filter fun w => !w.answered).length

/-- A count that was right for good reason is right after a step for good reason only. -/
theorem step_countIsRight_iff {s : TimedClient} (tallied : Tallied s)
    (counts : CountsUnanswered s) (e : TimedEvent) :
    CountIsRight (step config answers s e) ↔ RunsOutUnanswered s e := by
  constructor
  · intro right
    cases e with
    | client e => trivial
    | requestTimer serial how =>
        cases how with
        | aborted => trivial
        | late => trivial
        | expired =>
            intro w found
            obtain ⟨unanswered, short⟩ := (countsUnanswered_iff tallied).mp counts
            have ranOut : step config answers s (.requestTimer serial .expired) =
                s.onRequestTimer w .expired := by
              rw [requestTimer_eq tallied, Option.mem_def.mp found]
              rfl
            have ended : (s.onRequestTimer w .expired).ended = s.ended ++ [w] := rfl
            have before : (s.ended.filter fun w => !w.answered) = s.ended :=
              List.filter_eq_self.mpr fun w member => by simp [unanswered w member]
            rw [ranOut, CountIsRight, (onRequestTimer_tallied tallied w).count, ended,
              List.filter_append, before, List.length_append, List.length_append,
              List.length_singleton, Int.bmod_def] at right
            -- an `int` that has wrapped is negative, and no length is
            cases answered : w.answered with
            | true =>
                simp only [answered, Bool.not_true, List.filter_cons, List.filter_nil] at right
                exfalso
                split at right <;> simp at right <;> omega
            | false =>
                simp only [answered, Bool.not_false, List.filter_cons, List.filter_nil, if_true,
                  List.length_singleton] at right
                refine ⟨rfl, ?_⟩
                split at right <;> omega
  · exact fun passes => ((step_countsUnanswered_iff tallied counts e).mpr passes).count

/-- **The count alone** is right throughout a run on exactly the same runs. -/
theorem count_right_iff (config : ClientConfig) (answers : Message → Json → Bool)
    (events : List TimedEvent) :
    (∀ front, front <+: events → CountIsRight (run (step config answers) {} front)) ↔
      Along (step config answers) RunsOutUnanswered {} events := by
  have start : Tallied {} ∧ CountsUnanswered {} := ⟨⟨by simp, by simp⟩, ⟨by simp, by simp⟩⟩
  have kept : ∀ s e, Tallied s ∧ CountsUnanswered s → RunsOutUnanswered s e →
      Tallied (step config answers s e) ∧ CountsUnanswered (step config answers s e) :=
    fun s e good passes =>
      ⟨step_tallied good.1 e, (step_countsUnanswered_iff good.1 good.2 e).mpr passes⟩
  have lost : ∀ s e, Tallied s ∧ CountsUnanswered s → ¬ RunsOutUnanswered s e →
      ¬ CountIsRight (step config answers s e) :=
    fun s e good fails right => fails ((step_countIsRight_iff good.1 good.2 e).mp right)
  exact throughout_iff_of_lost kept (fun _ good => good.2.count) lost start events

/-! ## An answered request -/

/-- What the middleware answers: a login and a heartbeat with their acknowledgement, a
query with a result or an error that has its `"req_id"`. -/
def answersTo (message : Message) (request : Json) : Bool :=
  let typed (type : String) : Bool := request.valueStr "type" "" = .ok type
  let identified (reqId : Except JsonError String) : Bool :=
    reqId ≠ .ok "" ∧ request.valueStr "req_id" "" = reqId
  match message with
  | .proto env =>
      match env.type with
      | .serverLoginAck => typed "serverlogin"
      | .keepaliveAck => typed "keepalive"
      | .dbQueryResult => identified (.ok env.dbQueryResult.reqId)
      | .errorMsg => identified (.ok env.error.reqId)
      | .unknown | .other _ => false
  | .json j =>
      if j.valueStr "type" "" = .ok serverLoginAckType then typed "serverlogin"
      else if j.valueStr "type" "" = .ok keepaliveAckType then typed "keepalive"
      else identified (j.valueStr "req_id" "")

/-- The login's acknowledgement. -/
def loginAck : Json := .obj [("type", .str serverLoginAckType), ("result", .str "OK")]

/-- A connection, its login acknowledged, and five seconds after the login. -/
def acknowledged : List TimedEvent :=
  DBMiddlewareClient.started.map .client ++
    [.client (.readDone 1 (some (sendFramed (ClientConfig.dumpTexts loginAck))) fun _ =>
      [.markAuthed true]), .requestTimer 0 .expired]

/-- **A login that was acknowledged is counted.** -/
theorem answered_login_counted :
    ¬ ∀ (config : ClientConfig) (events : List TimedEvent),
      CountsUnanswered (run (step config answersTo) {} events) := by
  intro always
  have counts := always (.small [loginAck]) acknowledged
  have counted : (run (step (.small [loginAck]) answersTo) {} acknowledged).timeoutCount = 1 := by
    decide +kernel
  have answered : ((run (step (.small [loginAck]) answersTo) {} acknowledged).ended.filter
      fun w => !w.answered).length = 0 := by
    decide +kernel
  have count := counts.count
  rw [counted, answered] at count
  cases count

end TimedClient

end GameServer.Dbmw
