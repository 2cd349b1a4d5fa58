/-
# Dbmw.Attempts -- one connection attempt, or one connection

`do_connect` begins a resolve whatever the client is doing, and a failed read or
write closes the socket and arms the reconnect wait whatever the socket has become
meanwhile.  A rejected server login restarts the client at once, so an aborted
write of the old connection ends while the new one is under way: its reconnect
wait then begins a second attempt on the same socket.

* `step_single` -- attempts, connection and armed reconnect wait never exceed one,
  as long as nothing is started or given up over an attempt under way;
* `one_connection` -- along such a run `do_connect` goes ahead from rest only, and
  no operation of an earlier connection closes a later one;
* `one_connection_refused` -- a rejected server login within it;
* `refused_login_connects_twice` -- and one whose login write is aborted late.
-/
import GameServer.Dbmw.Acks
import GameServer.Dbmw.Inbound

namespace GameServer.Dbmw

set_option autoImplicit false

open Wire Theory.Runs

namespace DBMiddlewareClient

/-! ## What is asked of a run -/

/-- Every `do_connect` that went ahead met no resolve, connect or connection. -/
def AttemptsAlone (c : DBMiddlewareClient) : Prop :=
  ∀ resolves connects connected, ClientNote.attempt resolves connects connected ∈ c.journal →
    resolves = 0 ∧ connects = 0 ∧ connected = false

/-- Every connection closed by a read or write was closed by one of its own. -/
def ClosedByOwn (c : DBMiddlewareClient) : Prop :=
  ∀ opened link, ClientNote.closedBy opened link true ∈ c.journal → opened = link

/-! ## The steps that are safe -/

/-- No attempt under way, no connection, no reconnect wait. -/
def Rested (c : DBMiddlewareClient) : Prop :=
  c.resolves = 0 ∧ c.connects = 0 ∧ c.connected = false ∧ c.reconnectTimer.armed = false

/-- No attempt under way, or no reconnecting. -/
def Settled (c : DBMiddlewareClient) : Prop :=
  c.stopping = true ∨ (c.resolves = 0 ∧ c.connects = 0)

variable (config : ClientConfig)

/-- `do_connect` would not go ahead, or goes ahead from rest. -/
def Startable (c : DBMiddlewareClient) : Prop :=
  c.stopping = true ∨ (config.port : Int) = config.tcpPort ∨ c.Rested

/-- Whether `send_json` ends in its catch blocks. -/
def sendJsonFails (c : DBMiddlewareClient) (j : Json) (throws : Bool) : Bool :=
  match (c.withRequestId j).1 with
  | .error _ => true
  | .ok _ => throws

/-- The part of a call on the caller's thread gives up no attempt. -/
def CalmCall (c : DBMiddlewareClient) : ClientCall → Prop
  | .sendJson j throws => c.sendJsonFails j throws = true → c.Settled
  | _ => True

def CalmJob (c : DBMiddlewareClient) : StrandJob → Prop
  | .connect => c.Startable config
  | _ => True

/-- A call on the strand. -/
def CalmInline (c : DBMiddlewareClient) (k : ClientCall) : Prop :=
  c.CalmCall k ∧ ∀ job, (c.call config k).2 = some job → (c.call config k).1.CalmJob config job

/-- A read's messages: each call they make is calm, and an invalid length behind
them gives up no attempt. -/
def CalmRead (c : DBMiddlewareClient) (opened : Nat) (react : Message → List ClientCall)
    (data : Bytes) : Prop :=
  Along (callInline config) (CalmInline config) (c.takeIn config opened data)
      (reactions config react c data) ∧
    ((c.takeIn config opened data).msgBuf.lastClearByInvalidLength = true →
      ((reactions config react c data).foldl (callInline config)
        (c.takeIn config opened data)).Settled)

/-- Nothing is started from a client that is not at rest; no failed operation ends
over an attempt under way; every operation of the earlier connections has ended
when one is made. -/
def Calm (c : DBMiddlewareClient) : ClientEvent → Prop
  | .call k => c.CalmCall k
  | .job job => job ∈ c.jobs → c.CalmJob config job
  | .connectDone false => 0 < c.connects → c.reads = [] ∧ c.writes = []
  | .readDone opened none _ => opened ∈ c.reads → c.Settled
  | .readDone opened (some data) react => opened ∈ c.reads →
      { c with reads := c.reads.erase opened }.CalmRead config opened react data
  | .writeDone opened true => opened ∈ c.writes → c.Settled
  | .reconnectTimer .late => 0 < c.reconnectTimer.cancelled → c.Startable config
  | _ => True

section Decidable

instance (c : DBMiddlewareClient) : Decidable c.Rested := inferInstanceAs (Decidable (_ ∧ _))

instance (c : DBMiddlewareClient) : Decidable c.Settled := inferInstanceAs (Decidable (_ ∨ _))

instance (c : DBMiddlewareClient) : Decidable (c.Startable config) :=
  inferInstanceAs (Decidable (_ ∨ _))

instance (c : DBMiddlewareClient) (k : ClientCall) : Decidable (c.CalmCall k) :=
  match k with
  | .sendJson j throws => inferInstanceAs (Decidable (c.sendJsonFails j throws = true → c.Settled))
  | .markAuthed _ | .noteHeartbeatAck | .stop | .start | .sendFramed _ | .sendSecureJson _ =>
      isTrue trivial

instance (c : DBMiddlewareClient) (job : StrandJob) : Decidable (c.CalmJob config job) :=
  match job with
  | .connect => inferInstanceAs (Decidable (c.Startable config))
  | .close | .push _ => isTrue trivial

instance (c : DBMiddlewareClient) (k : ClientCall) : Decidable (c.CalmInline config k) :=
  inferInstanceAs (Decidable (_ ∧ _))

instance (c : DBMiddlewareClient) (opened : Nat) (react : Message → List ClientCall)
    (data : Bytes) : Decidable (c.CalmRead config opened react data) :=
  inferInstanceAs (Decidable (_ ∧ _))

instance (c : DBMiddlewareClient) (e : ClientEvent) : Decidable (c.Calm config e) :=
  match e with
  | .call k => inferInstanceAs (Decidable (c.CalmCall k))
  | .job job => inferInstanceAs (Decidable (job ∈ c.jobs → c.CalmJob config job))
  | .connectDone false =>
      inferInstanceAs (Decidable (0 < c.connects → c.reads = [] ∧ c.writes = []))
  | .readDone opened none _ => inferInstanceAs (Decidable (opened ∈ c.reads → c.Settled))
  | .readDone opened (some data) react =>
      inferInstanceAs (Decidable (opened ∈ c.reads →
        { c with reads := c.reads.erase opened }.CalmRead config opened react data))
  | .writeDone opened true => inferInstanceAs (Decidable (opened ∈ c.writes → c.Settled))
  | .reconnectTimer .late =>
      inferInstanceAs (Decidable (0 < c.reconnectTimer.cancelled → c.Startable config))
  | .resolved _ | .connectDone true | .writeDone _ false | .reconnectTimer .expired
  | .reconnectTimer .aborted | .heartbeatTimer _ => isTrue trivial

end Decidable

/-! ## At most one -/

/-- Attempts, connection and armed reconnect wait are at most one, and what is
outstanding on a connection is its own. -/
structure Single (c : DBMiddlewareClient) : Prop where
  one : c.resolves + c.connects + c.connected.toNat + c.reconnectTimer.armed.toNat ≤ 1
  own : c.connected = true → ∀ opened, opened ∈ c.reads ∨ opened ∈ c.writes → opened = c.link
  attempts : AttemptsAlone c
  closes : ClosedByOwn c

variable {config}

namespace Single

variable {c : DBMiddlewareClient}

theorem settled (single : Single c) (up : c.connected = true) : c.Settled := by
  have one := single.one
  rw [up, Bool.toNat_true] at one
  exact .inr ⟨by omega, by omega⟩

theorem closeSocket (single : Single c) : Single c.closeSocket := by
  have one := single.one
  refine ⟨?_, fun up => absurd up Bool.false_ne_true, single.attempts, single.closes⟩
  simp only [DBMiddlewareClient.closeSocket, Bool.toNat_false]
  omega

theorem scheduleReconnect (single : Single c) (settled : c.Settled) :
    Single c.scheduleReconnect := by
  have down := single.closeSocket
  rw [DBMiddlewareClient.scheduleReconnect]
  dsimp only
  split
  · exact down
  · rename_i running
    obtain ⟨resolves, connects⟩ := settled.resolve_left running
    refine ⟨?_, fun up => absurd up Bool.false_ne_true, single.attempts, single.closes⟩
    simp [resolves, connects, Timer.arm]

theorem giveUp (single : Single c) (settled : c.Settled) : Single c.giveUp :=
  single.closeSocket.scheduleReconnect settled

/-- A failed operation of the connection that is up closes its own. -/
theorem giveUpFrom (single : Single c) (settled : c.Settled) {opened : Nat}
    (own : c.connected = true → opened = c.link) : Single (c.giveUpFrom opened) := by
  have noted : Single { c with journal := c.journal ++ [.closedBy opened c.link c.connected] } := by
    refine ⟨single.one, single.own, ?_, ?_⟩
    · intro resolves connects connected member
      rcases List.mem_append.mp member with earlier | new
      · exact single.attempts _ _ _ earlier
      · cases List.mem_singleton.mp new
    · intro opened' link member
      rcases List.mem_append.mp member with earlier | new
      · exact single.closes _ _ earlier
      · have same := List.mem_singleton.mp new
        simp only [ClientNote.closedBy.injEq] at same
        obtain ⟨rfl, rfl, up⟩ := same
        exact own up.symm
  exact noted.giveUp settled

theorem doConnect (single : Single c) (startable : c.Startable config) :
    Single (c.doConnect config) := by
  rw [DBMiddlewareClient.doConnect]
  split
  · exact single
  split
  · exact single
  rename_i running port
  obtain ⟨resolves, connects, connected, armed⟩ :=
    (startable.resolve_left running).resolve_left port
  refine ⟨?_, single.own, ?_, ?_⟩
  · simp [resolves, connects, connected, armed]
  · intro resolves' connects' connected' member
    rcases List.mem_append.mp member with earlier | new
    · exact single.attempts _ _ _ earlier
    · cases List.mem_singleton.mp new
      exact ⟨resolves, connects, connected⟩
  · intro opened link member
    rcases List.mem_append.mp member with earlier | new
    · exact single.closes _ _ earlier
    · cases List.mem_singleton.mp new

theorem cancel (single : Single c) : Single { c.closeSocket with
    reconnectTimer := c.reconnectTimer.cancel
    heartbeatTimer := c.heartbeatTimer.cancel } := by
  have one := single.one
  refine ⟨?_, fun up => absurd up Bool.false_ne_true, single.attempts, single.closes⟩
  simp only [DBMiddlewareClient.closeSocket, Timer.cancel, Bool.toNat_false]
  omega

theorem flushWriteQueue (single : Single c) : Single c.flushWriteQueue := by
  rw [DBMiddlewareClient.flushWriteQueue]
  split
  · exact ⟨single.one, single.own, single.attempts, single.closes⟩
  · refine ⟨single.one, ?_, single.attempts, single.closes⟩
    intro up opened member
    rcases member with reading | writing
    · exact single.own up opened (.inl reading)
    · rcases List.mem_append.mp writing with earlier | new
      · exact single.own up opened (.inr earlier)
      · exact List.mem_singleton.mp new

theorem push (single : Single c) (frame : Bytes) : Single (c.push frame) := by
  have queued : Single { c with writeQueue := c.writeQueue ++ [frame] } :=
    ⟨single.one, single.own, single.attempts, single.closes⟩
  rw [DBMiddlewareClient.push]
  split
  · dsimp only
    split
    · have raised : Single { c with
          writeQueue := c.writeQueue ++ [frame], writeInProgress := true } :=
        ⟨single.one, single.own, single.attempts, single.closes⟩
      exact raised.flushWriteQueue
    · exact queued
  · exact single

theorem doReadSome (single : Single c) : Single c.doReadSome := by
  rw [DBMiddlewareClient.doReadSome]
  split
  · refine ⟨single.one, ?_, single.attempts, single.closes⟩
    intro up opened member
    rcases member with reading | writing
    · rcases List.mem_append.mp reading with earlier | new
      · exact single.own up opened (.inl earlier)
      · exact List.mem_singleton.mp new
    · exact single.own up opened (.inr writing)
  · exact single

end Single

/-! ## Calls -/

theorem call_single {c : DBMiddlewareClient} (single : Single c) (k : ClientCall)
    (calm : c.CalmCall k) : Single (c.call config k).1 := by
  have numbered (j : Json) : Single (c.withRequestId j).2 := by
    obtain ⟨ids, same⟩ := withRequestId_snd c j
    rw [same]
    exact ⟨single.one, single.own, single.attempts, single.closes⟩
  cases k with
  | markAuthed value => exact ⟨single.one, single.own, single.attempts, single.closes⟩
  | noteHeartbeatAck => exact ⟨single.one, single.own, single.attempts, single.closes⟩
  | stop => exact ⟨single.one, single.own, single.attempts, single.closes⟩
  | start => exact ⟨single.one, single.own, single.attempts, single.closes⟩
  | sendFramed body => exact single
  | sendSecureJson j =>
      have := numbered j
      rw [call]
      split <;> rename_i same <;> rw [same] at this <;> exact this
  | sendJson j throws =>
      have settles : c.sendJsonFails j throws = true → (c.withRequestId j).2.Settled := by
        intro fails
        obtain ⟨ids, same⟩ := withRequestId_snd c j
        rw [same]
        exact calm fails
      have := numbered j
      rw [call]
      rw [sendJsonFails] at settles
      split
      · rename_i same
        rw [same] at this settles
        exact this.giveUp (settles rfl)
      · rename_i same
        rw [same] at this settles
        split
        · rename_i thrown
          exact this.giveUp (settles thrown)
        · exact this

theorem runJob_single {c : DBMiddlewareClient} (single : Single c) (job : StrandJob)
    (calm : c.CalmJob config job) : Single (c.runJob config job) := by
  cases job with
  | connect => exact single.doConnect calm
  | close => exact single.cancel
  | push frame => exact single.push frame

theorem callInline_single {c : DBMiddlewareClient} (single : Single c) (k : ClientCall)
    (calm : c.CalmInline config k) : Single (c.callInline config k) := by
  have own : Single (c.call config k).1 := call_single single k calm.1
  rw [callInline]
  split <;> rename_i same
  · rw [same] at own
    exact own
  · have job := calm.2
    rw [same] at own job
    exact runJob_single own _ (job _ rfl)

/-- A login or heartbeat needs no calm. -/
theorem sendSecureJson_calm (c : DBMiddlewareClient) (j : Json) :
    c.CalmInline config (.sendSecureJson j) := by
  refine ⟨trivial, ?_⟩
  intro job dispatched
  rw [call] at dispatched
  split at dispatched <;> cases dispatched
  trivial

/-! ## Completions -/

/-- No call makes a connection. -/
theorem kept_link (link : Nat) (up : Bool) :
    Kept fun c => c.link = link ∧ (c.connected = true → up = true) where
  steered := fun _ same => same
  lost := fun same => ⟨same.1, fun up => absurd up Bool.false_ne_true⟩
  acked := fun same => same
  noted := fun _ _ same => same
  pushed := by
    intro c frame same
    obtain ⟨queue, flag, writes, pushed⟩ := push_eq c frame
    rw [pushed]
    exact same

theorem onRead_single {c : DBMiddlewareClient} (single : Single c) {opened : Nat}
    (own : c.connected = true → opened = c.link) (react : Message → List ClientCall)
    (data : Bytes) (calm : c.CalmRead config opened react data) :
    Single (c.onRead config opened react (some data)) := by
  have taken : Single (c.takeIn config opened data) :=
    ⟨single.one, single.own, single.attempts, single.closes⟩
  have called : Single ((reactions config react c data).foldl (callInline config)
      (c.takeIn config opened data)) := by
    have preserved : ∀ c k, Single c → c.CalmInline config k → Single (c.callInline config k) :=
      fun c k single calm => callInline_single single k calm
    exact run_invariant preserved taken calm.1
  obtain ⟨link, still⟩ : ((reactions config react c data).foldl (callInline config)
      (c.takeIn config opened data)).link = c.link ∧ _ :=
    (kept_link c.link c.connected).calls _ ⟨rfl, id⟩
  rw [onRead]
  split
  · rename_i flagged
    have cleared : (c.takeIn config opened data).msgBuf.lastClearByInvalidLength = true := by
      have same : ((reactions config react c data).foldl (callInline config)
          (c.takeIn config opened data)).inbound = (c.takeIn config opened data).inbound :=
        (kept_inbound (c.takeIn config opened data).inbound).calls _ rfl
      exact (congrArg (fun s => s.msgBuf.lastClearByInvalidLength) same).symm.trans flagged
    exact called.giveUpFrom (calm.2 cleared) fun up => (own (still up)).trans link.symm
  · exact called.doReadSome

theorem onConnect_single {c : DBMiddlewareClient} (single : Single c) (connecting : 0 < c.connects)
    (drained : c.reads = [] ∧ c.writes = []) :
    Single ({ c with connects := c.connects - 1 }.onConnect config false) := by
  have one := single.one
  have made : Single { c with connects := c.connects - 1 }.established := by
    refine ⟨?_, ?_, single.attempts, single.closes⟩
    · simp only [established, Bool.toNat_true]
      omega
    · intro _ opened member
      simp [established, drained] at member
  have logged : Single ({ c with connects := c.connects - 1 }.established.serverSendLogin config) := by
    rw [serverSendLogin]
    split
    · exact made
    · refine callInline_single ?_ _ (sendSecureJson_calm _ _)
      exact ⟨made.one, made.own, made.attempts, made.closes⟩
  have reading := logged.doReadSome
  rw [onConnect]
  exact ⟨reading.one, reading.own, reading.attempts, reading.closes⟩

/-- A heartbeat leaves the connection as it is. -/
theorem sendHeartbeat_single {c : DBMiddlewareClient} (single : Single c) :
    Single (c.sendHeartbeat config) := by
  have called : Single (c.callInline config (.sendSecureJson (.obj
      [("type", .str "keepalive"), ("nickname", .str config.serverLoginNickname)]))) :=
    callInline_single single _ (sendSecureJson_calm c _)
  exact ⟨called.one, called.own, called.attempts, called.closes⟩

theorem sendHeartbeat_settled {c : DBMiddlewareClient} (settled : c.Settled) :
    (c.sendHeartbeat config).Settled := by
  obtain ⟨ids, queue, flag, writes, sent⟩ := sendSecureJson_eq config c (.obj
    [("type", .str "keepalive"), ("nickname", .str config.serverLoginNickname)])
  rw [sendHeartbeat, sent]
  exact settled

theorem heartbeatTimer_single {c : DBMiddlewareClient} (single : Single c) (how : WaitEnd) :
    Single (clientStep config c (.heartbeatTimer how)) := by
  rw [clientStep]
  split
  · exact single
  rename_i t _
  have found : Single { c with heartbeatTimer := t } :=
    ⟨single.one, single.own, single.attempts, single.closes⟩
  have rearmed {c : DBMiddlewareClient} (single : Single c) : Single c.armHeartbeatTimer :=
    ⟨single.one, single.own, single.attempts, single.closes⟩
  rw [onHeartbeatTimer]
  split
  · exact found
  split
  · rename_i up
    have sent : Single ({ c with heartbeatTimer := t }.sendHeartbeat config) :=
      sendHeartbeat_single found
    have settled : ({ c with heartbeatTimer := t }.sendHeartbeat config).Settled :=
      sendHeartbeat_settled (found.settled up.1)
    dsimp only
    split
    · refine Single.giveUp ⟨sent.one, sent.own, ?_, ?_⟩ settled
      · intro resolves connects connected member
        rcases List.mem_append.mp member with earlier | new
        · exact sent.attempts _ _ _ earlier
        · cases List.mem_singleton.mp new
      · intro opened link member
        rcases List.mem_append.mp member with earlier | new
        · exact sent.closes _ _ earlier
        · cases List.mem_singleton.mp new
    · exact rearmed sent
  · exact rearmed found

theorem reconnectTimer_single {c : DBMiddlewareClient} (single : Single c) (how : WaitEnd)
    (calm : c.Calm config (.reconnectTimer how)) :
    Single (clientStep config c (.reconnectTimer how)) := by
  have one := single.one
  rw [clientStep]
  cases how with
  | expired =>
      rw [Timer.finish]
      cases armed : c.reconnectTimer.armed with
      | false => exact single
      | true =>
          -- with the wait armed, nothing else was under way
          rw [armed, Bool.toNat_true] at one
          have down : c.connected = false := by
            cases up : c.connected with
            | false => rfl
            | true => rw [up, Bool.toNat_true] at one; omega
          rw [if_pos rfl]
          show Single (onReconnectTimer config _ _)
          rw [onReconnectTimer, if_neg (by decide)]
          refine Single.doConnect ⟨?_, single.own, single.attempts, single.closes⟩
            (.inr (.inr ⟨by show c.resolves = 0; omega, by show c.connects = 0; omega, down, rfl⟩))
          simp only [Bool.toNat_false]
          omega
  | aborted =>
      rw [Timer.finish]
      split
      · exact single
      · rename_i ended
        split at ended <;> cases ended
        exact ⟨one, single.own, single.attempts, single.closes⟩
  | late =>
      rw [Timer.finish]
      split
      · exact single
      · rename_i ended
        split at ended <;> cases ended
        rename_i some_cancelled
        rw [onReconnectTimer, if_neg (by decide)]
        exact Single.doConnect ⟨one, single.own, single.attempts, single.closes⟩
          (calm some_cancelled)

/-- **One step.** -/
theorem step_single {c : DBMiddlewareClient} (single : Single c) (e : ClientEvent)
    (calm : c.Calm config e) : Single (clientStep config c e) := by
  have one := single.one
  cases e with
  | call k =>
      have own : Single (c.call config k).1 := call_single single k calm
      exact ⟨own.one, own.own, own.attempts, own.closes⟩
  | job job =>
      rw [clientStep]
      split
      · rename_i posted
        have taken : Single { c with jobs := c.jobs.erase job } :=
          ⟨single.one, single.own, single.attempts, single.closes⟩
        refine runJob_single taken job ?_
        have job_calm := calm posted
        cases job <;> exact job_calm
      · exact single
  | resolved failed =>
      rw [clientStep]
      split
      · have ended : Single { c with resolves := c.resolves - 1 } := by
          refine ⟨?_, single.own, single.attempts, single.closes⟩
          show c.resolves - 1 + c.connects + c.connected.toNat +
            c.reconnectTimer.armed.toNat ≤ 1
          omega
        rw [onResolve]
        split
        · exact ended.scheduleReconnect (.inr ⟨by show c.resolves - 1 = 0; omega,
            by show c.connects = 0; omega⟩)
        · refine ⟨?_, single.own, single.attempts, single.closes⟩
          show c.resolves - 1 + (c.connects + 1) + c.connected.toNat +
            c.reconnectTimer.armed.toNat ≤ 1
          omega
      · exact single
  | connectDone failed =>
      rw [clientStep]
      split
      · rename_i connecting
        cases failed with
        | false => exact onConnect_single single connecting (calm connecting)
        | true =>
            have ended : Single { c with connects := c.connects - 1 } := by
              refine ⟨?_, single.own, single.attempts, single.closes⟩
              show c.resolves + (c.connects - 1) + c.connected.toNat +
                c.reconnectTimer.armed.toNat ≤ 1
              omega
            exact ended.scheduleReconnect (.inr ⟨by show c.resolves = 0; omega,
              by show c.connects - 1 = 0; omega⟩)
      · exact single
  | readDone opened result react =>
      rw [clientStep]
      split
      · rename_i reading
        have ended : Single { c with reads := c.reads.erase opened } := by
          refine ⟨single.one, ?_, single.attempts, single.closes⟩
          intro up other member
          exact single.own up other (member.imp_left List.mem_of_mem_erase)
        have own : c.connected = true → opened = c.link :=
          fun up => single.own up opened (.inl reading)
        cases result with
        | none => exact ended.giveUpFrom (calm reading) own
        | some data => exact onRead_single ended own react data (calm reading)
      · exact single
  | writeDone opened failed =>
      rw [clientStep]
      split
      · rename_i writing
        have ended : Single { c with writes := c.writes.erase opened } := by
          refine ⟨single.one, ?_, single.attempts, single.closes⟩
          intro up other member
          exact single.own up other (member.imp_right List.mem_of_mem_erase)
        cases failed with
        | true =>
            exact ended.giveUpFrom (calm writing) fun up => single.own up opened (.inr writing)
        | false =>
            have popped : Single { c with
                writes := c.writes.erase opened, writeQueue := c.writeQueue.tail } :=
              ⟨ended.one, ended.own, ended.attempts, ended.closes⟩
            exact popped.flushWriteQueue
      · exact single
  | reconnectTimer how => exact reconnectTimer_single single how calm
  | heartbeatTimer how => exact heartbeatTimer_single single how

/-- **At most one connection or attempt**, in every run that starts from rest only
and in which nothing gives up an attempt under way. -/
theorem one_connection (config : ClientConfig) {events : List ClientEvent}
    (calm : Along (clientStep config) (Calm config) {} events) :
    AttemptsAlone (run (clientStep config) {} events) ∧
      ClosedByOwn (run (clientStep config) {} events) := by
  have start : Single {} :=
    ⟨by decide, fun up => absurd up Bool.false_ne_true,
      fun _ _ _ member => (List.not_mem_nil member).elim,
      fun _ _ member => (List.not_mem_nil member).elim⟩
  have preserved : ∀ c e, Single c → Calm config c e → Single (clientStep config c e) :=
    fun c e single calm => step_single single e calm
  have reached := run_invariant preserved start calm
  exact ⟨reached.attempts, reached.closes⟩

/-! ## A rejected server login -/

def refusal : Json := .obj [("result", .str "NG"), ("type", .str "server_login_ack")]

/-- The messages' way through the router, back to the client. -/
def routed (message : Message) : List ClientCall :=
  (({ handlers := registeredTypes } : DBmwRouter Nat).handleMessage message).2.2

/-- The first connection's login is rejected, which restarts the client. -/
def refused : List ClientEvent :=
  started ++ [.readDone 1 (some (sendFramed (ClientConfig.dumpTexts refusal))) routed]

/-- The login's write had ended well by then. -/
theorem one_connection_refused :
    AttemptsAlone (run (clientStep (.small [refusal])) {}
        (started ++ [.writeDone 1 false] ++
          [.readDone 1 (some (sendFramed (ClientConfig.dumpTexts refusal))) routed] ++
          connecting [])) ∧
      ClosedByOwn (run (clientStep (.small [refusal])) {}
        (started ++ [.writeDone 1 false] ++
          [.readDone 1 (some (sendFramed (ClientConfig.dumpTexts refusal))) routed] ++
          connecting [])) :=
  one_connection _ (by decide +kernel)

/-- **A rejected server login ends in two connections.**  The login's write is
aborted; ending before the resolve, it arms a reconnect wait that begins an attempt
over the connection made meanwhile; ending later, it closes that connection. -/
theorem refused_login_connects_twice :
    (¬ ∀ (config : ClientConfig) (events : List ClientEvent),
      AttemptsAlone (run (clientStep config) {} events)) ∧
      ¬ ∀ (config : ClientConfig) (events : List ClientEvent),
        ClosedByOwn (run (clientStep config) {} events) := by
  constructor
  · intro always
    have second : ClientNote.attempt 0 0 true ∈ (run (clientStep (.small [refusal])) {}
        (refused ++ [.writeDone 1 true] ++ connecting [] ++
          [.reconnectTimer .expired])).journal := by
      decide +kernel
    exact absurd (always _ _ _ _ _ second).2.2 (by decide)
  · intro always
    have closed : ClientNote.closedBy 1 2 true ∈ (run (clientStep (.small [refusal])) {}
        (refused ++ connecting [] ++ [.writeDone 1 true])).journal := by
      decide +kernel
    exact absurd (always _ _ _ _ closed) (by decide)

end DBMiddlewareClient

end GameServer.Dbmw
