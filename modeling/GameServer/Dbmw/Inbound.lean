/-
# Dbmw.Inbound -- whose bytes a middleware connection hands on

`msg_buf_mgr_` belongs to the client, not to the connection, and nothing clears it
when a connection is lost or made: a frame that was cut off is completed with the
first bytes of the next connection.

* `handed_own_frames` -- what is handed on after a reconnect are the messages of
  the frames in that connection's own bytes, in every run in which each connection
  is made with an empty buffer and no read of an earlier one delivers late;
* `handed_own_frames_second` -- such a run, across a reconnect;
* `cut_frame_swallows` -- a connection lost inside a frame garbles the next one.
-/
import GameServer.Dbmw.Client
import GameServer.Theory.Runs

namespace GameServer.Dbmw

set_option autoImplicit false

open Wire Theory.Runs

namespace DBMiddlewareClient

/-! ## What is asked of a run -/

/-- The messages of the frames in these pieces, read by a buffer of their own. -/
def framesOf (config : ClientConfig) (chunks : List Bytes) : List Message :=
  (receive {} chunks).messages.filterMap config.decode

/-- What was handed on since the connection was made is what it carried. -/
def OwnFrames (config : ClientConfig) (c : DBMiddlewareClient) : Prop :=
  c.handed = framesOf config c.received

/-- A connection is made with an empty buffer; a read that delivers is of the
latest connection. -/
def FreshStream (c : DBMiddlewareClient) : ClientEvent → Prop
  | .connectDone false => 0 < c.connects → c.msgBuf.buffer = []
  | .readDone opened (some _) _ => opened ∈ c.reads → opened = c.link
  | _ => True

instance (c : DBMiddlewareClient) (e : ClientEvent) : Decidable (c.FreshStream e) :=
  match e with
  | .connectDone false => inferInstanceAs (Decidable (0 < c.connects → c.msgBuf.buffer = []))
  | .readDone opened (some _) _ => inferInstanceAs (Decidable (opened ∈ c.reads → opened = c.link))
  | .call _ | .job _ | .resolved _ | .connectDone true | .readDone _ none _ | .writeDone _ _
  | .reconnectTimer _ | .heartbeatTimer _ => isTrue trivial

/-! ## The inbound side of the client -/

structure Inbound where
  link : Nat
  msgBuf : MessageBufferManager
  received : List Bytes
  handed : List Message
  reads : List Nat

def inbound (c : DBMiddlewareClient) : Inbound :=
  ⟨c.link, c.msgBuf, c.received, c.handed, c.reads⟩

theorem push_inbound (c : DBMiddlewareClient) (frame : Bytes) :
    (c.push frame).inbound = c.inbound := by
  obtain ⟨queue, flag, writes, pushed⟩ := push_eq c frame
  rw [pushed]
  rfl

/-- No call touches the inbound side. -/
theorem kept_inbound (s : Inbound) : Kept fun c => c.inbound = s where
  steered := fun _ same => same
  lost := fun same => same
  acked := fun same => same
  noted := fun _ _ same => same
  pushed := fun {c} frame same => (push_inbound c frame).trans same

theorem doReadSome_inbound (c : DBMiddlewareClient) :
    c.doReadSome.inbound =
      { c.inbound with reads := if c.connected then c.reads ++ [c.link] else c.reads } := by
  rw [doReadSome]
  split <;> simp [inbound, *]

theorem onWrite_inbound (c : DBMiddlewareClient) (opened : Nat) (failed : Bool) :
    (c.onWrite opened failed).inbound = c.inbound := by
  rw [onWrite]
  split
  · exact (kept_inbound c.inbound).giveUpFrom opened rfl
  · rw [flushWriteQueue]
    split <;> rfl

/-! ## One connection's stream -/

/-- The buffer holds what is left of the connection's own bytes, and nobody is
reading. -/
structure Paused (config : ClientConfig) (s : Inbound) : Prop where
  own : s.handed = framesOf config s.received
  rest : (receive {} s.received).stopped = false →
    (receive {} s.received).manager.buffer = s.msgBuf.buffer
  idle : s.link ∉ s.reads
  past : ∀ opened ∈ s.reads, opened ≤ s.link

/-- The same with at most one read outstanding on the connection, and none once an
invalid length has ended it. -/
structure Streaming (config : ClientConfig) (s : Inbound) : Prop where
  own : s.handed = framesOf config s.received
  rest : (receive {} s.received).stopped = false →
    (receive {} s.received).manager.buffer = s.msgBuf.buffer
  single : s.reads.count s.link ≤ 1
  finished : (receive {} s.received).stopped = true → s.link ∉ s.reads
  past : ∀ opened ∈ s.reads, opened ≤ s.link

variable {config : ClientConfig}

theorem Paused.streaming {s : Inbound} (paused : Paused config s) : Streaming config s where
  own := paused.own
  rest := paused.rest
  single := by
    have none_read := List.count_eq_zero.mpr paused.idle
    omega
  finished := fun _ => paused.idle
  past := paused.past

/-- The next read, unless the stream is over. -/
theorem Paused.doReadSome {c : DBMiddlewareClient} (paused : Paused config c.inbound)
    (running : (receive {} c.received).stopped = false) :
    Streaming config c.doReadSome.inbound := by
  rw [doReadSome_inbound]
  split
  · refine ⟨paused.own, paused.rest, ?_, ?_, ?_⟩
    · have none_read : c.reads.count c.link = 0 := List.count_eq_zero.mpr paused.idle
      show (c.reads ++ [c.link]).count c.link ≤ 1
      rw [List.count_append, none_read]
      simp
    · intro stopped
      exact absurd (running.symm.trans stopped) Bool.false_ne_true
    · intro opened member
      rcases List.mem_append.mp member with earlier | new
      · exact paused.past opened earlier
      · exact Nat.le_of_eq (List.mem_singleton.mp new)
  · exact paused.streaming

/-- A read that has ended. -/
theorem Streaming.erased {s : Inbound} (streaming : Streaming config s) (opened : Nat) :
    Streaming config { s with reads := s.reads.erase opened } where
  own := streaming.own
  rest := streaming.rest
  single := Nat.le_trans (List.erase_sublist.count_le _) streaming.single
  finished := fun stopped member => streaming.finished stopped (List.mem_of_mem_erase member)
  past := fun other member => streaming.past other (List.mem_of_mem_erase member)

/-- The piece a connection's own read delivers. -/
theorem Streaming.takeIn {c : DBMiddlewareClient} (streaming : Streaming config c.inbound)
    (reading : c.link ∈ c.reads) (data : Bytes) :
    Paused config ({ c with reads := c.reads.erase c.link }.takeIn config c.link data).inbound ∧
      (receive {} (c.received ++ [data])).stopped =
        (c.msgBuf.append data).drain.2.lastClearByInvalidLength := by
  have running : (receive {} c.received).stopped = false := by
    cases stopped : (receive {} c.received).stopped with
    | false => rfl
    | true => exact absurd reading (streaming.finished stopped)
  have same : ((receive {} c.received).manager.append data).drain = (c.msgBuf.append data).drain :=
    MessageBufferManager.drain_congr (congrArg (· ++ data) (streaming.rest running))
  have taken := receive_concat {} c.received data running
  rw [same] at taken
  have own : c.handed = framesOf config c.received := streaming.own
  have single : c.reads.count c.link ≤ 1 := streaming.single
  refine ⟨⟨?_, ?_, ?_, ?_⟩, by rw [taken]⟩
  · simp [inbound, DBMiddlewareClient.takeIn, framesOf, taken, own]
  · intro _
    simp [inbound, DBMiddlewareClient.takeIn, taken]
  · have once := List.count_pos_iff.mpr reading
    have gone : (c.reads.erase c.link).count c.link = 0 := by
      rw [List.count_erase_self]
      omega
    exact List.count_eq_zero.mp gone
  · intro opened member
    exact streaming.past opened (List.mem_of_mem_erase member)

theorem onRead_data_streaming {c : DBMiddlewareClient} (streaming : Streaming config c.inbound)
    (reading : c.link ∈ c.reads) (react : Message → List ClientCall) (data : Bytes) :
    Streaming config
      ({ c with reads := c.reads.erase c.link }.onRead config c.link react (some data)).inbound := by
  obtain ⟨paused, flagged⟩ := streaming.takeIn reading data
  set taken := { c with reads := c.reads.erase c.link }.takeIn config c.link data with taken_eq
  have stopped : (receive {} taken.inbound.received).stopped =
      taken.inbound.msgBuf.lastClearByInvalidLength := by
    simpa [taken_eq, inbound, DBMiddlewareClient.takeIn] using flagged
  rw [onRead, ← taken_eq]
  set called := (reactions config react _ data).foldl (callInline config) taken with called_eq
  have kept : called.inbound = taken.inbound := (kept_inbound taken.inbound).calls _ rfl
  rw [← kept] at paused stopped
  split
  · rw [show (called.giveUpFrom c.link).inbound = called.inbound from
      (kept_inbound called.inbound).giveUpFrom c.link rfl]
    exact paused.streaming
  · rename_i unflagged
    exact paused.doReadSome (stopped.trans (Bool.eq_false_iff.mpr unflagged))

/-- A connection made with an empty buffer. -/
theorem onConnect_streaming {c : DBMiddlewareClient} (streaming : Streaming config c.inbound)
    (empty : c.msgBuf.buffer = []) : Streaming config (c.onConnect config false).inbound := by
  have made : Paused config c.established.inbound := by
    refine ⟨rfl, fun _ => empty.symm, ?_, ?_⟩
    · intro member
      have := streaming.past _ member
      simp only [inbound, established] at this
      omega
    · intro opened member
      exact Nat.le_succ_of_le (streaming.past opened member)
  have logged : (c.established.serverSendLogin config).inbound = c.established.inbound :=
    (kept_inbound c.established.inbound).serverSendLogin rfl
  rw [← logged] at made
  have fresh : (c.established.serverSendLogin config).received = [] :=
    congrArg Inbound.received logged
  have reading := made.doReadSome (by rw [fresh]; rfl)
  rw [onConnect]
  exact reading

/-- **One step of a stream.** -/
theorem step_streaming {c : DBMiddlewareClient} (streaming : Streaming config c.inbound)
    (e : ClientEvent) (fresh : FreshStream c e) :
    Streaming config (clientStep config c e).inbound := by
  have kept := kept_inbound c.inbound
  have plain : e.plain = true → Streaming config (clientStep config c e).inbound := by
    intro plain
    rw [kept.plain_step plain rfl]
    exact streaming
  cases e with
  | call k => exact plain rfl
  | job job => exact plain rfl
  | resolved failed => exact plain rfl
  | reconnectTimer how => exact plain rfl
  | heartbeatTimer how =>
      rw [kept.heartbeat_step (fun _ _ _ same => same) how rfl]
      exact streaming
  | connectDone failed =>
      cases failed with
      | true => exact plain rfl
      | false =>
          rw [clientStep]
          split
          · rename_i connecting
            exact onConnect_streaming (c := { c with connects := c.connects - 1 }) streaming
              (fresh connecting)
          · exact streaming
  | writeDone opened failed =>
      rw [clientStep]
      split
      · rw [onWrite_inbound]
        exact streaming
      · exact streaming
  | readDone opened result react =>
      rw [clientStep]
      split
      · rename_i reading
        cases result with
        | none =>
            have given := (kept_inbound { c with reads := c.reads.erase opened }.inbound).giveUpFrom
              opened rfl
            rw [onRead, given]
            exact streaming.erased opened
        | some data =>
            obtain rfl := fresh reading
            exact onRead_data_streaming streaming reading react data
      · exact streaming

/-- **A connection hands on its own frames**, in every run in which each connection
finds the buffer empty. -/
theorem handed_own_frames (config : ClientConfig) {events : List ClientEvent}
    (fresh : Along (clientStep config) FreshStream {} events) :
    OwnFrames config (run (clientStep config) {} events) := by
  have start : Streaming config ({} : DBMiddlewareClient).inbound :=
    ⟨rfl, fun _ => rfl, by simp [inbound], fun _ member => (List.not_mem_nil member).elim,
      fun _ member => (List.not_mem_nil member).elim⟩
  have preserved : ∀ c e, Streaming config c.inbound → FreshStream c e →
      Streaming config (clientStep config c e).inbound :=
    fun c e streaming fresh => step_streaming streaming e fresh
  exact (run_invariant preserved start fresh).own

/-- The events of a connection made from rest, by `start` or a reconnect wait. -/
def connecting (first : List ClientEvent) : List ClientEvent :=
  first ++ [.resolved false, .connectDone false]

def started : List ClientEvent := connecting [.call .start, .job .connect]

def reconnected : List ClientEvent := connecting [.reconnectTimer .expired]

/-- The frame of an empty object. -/
def emptyObject : Bytes := sendFramed (ClientConfig.dumpTexts (.obj []))

/-- Two connections, the first lost between two frames. -/
theorem handed_own_frames_second :
    OwnFrames (.small [.obj []]) (run (clientStep (.small [.obj []])) {} (started ++
      [.readDone 1 (some emptyObject) fun _ => [], .readDone 1 none fun _ => []] ++
      reconnected ++ [.readDone 2 (some emptyObject) fun _ => []])) :=
  handed_own_frames _ (by decide +kernel)

/-- **A frame that was cut off is completed with the next connection's bytes**: six
bytes of a longer frame, then a connection on which one whole frame arrives and
nothing is handed on. -/
theorem cut_frame_swallows :
    ¬ ∀ (config : ClientConfig) (events : List ClientEvent),
      OwnFrames config (run (clientStep config) {} events) := by
  intro always
  have own := congrArg List.length (always (.small [.obj []]) (started ++
    [.readDone 1 (some [0, 0, 0, 5, 1, 2]) fun _ => [], .readDone 1 none fun _ => []] ++
    reconnected ++ [.readDone 2 (some emptyObject) fun _ => []]))
  revert own
  decide +kernel

end DBMiddlewareClient

end GameServer.Dbmw
