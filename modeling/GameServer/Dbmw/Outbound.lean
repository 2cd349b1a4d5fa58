/-
# Dbmw.Outbound -- the write queue towards the DB middleware

One frame of the queue is being written at a time: a write that ends well takes
its frame off and begins the next one.  A write that fails leaves the frame in the
queue and `write_in_progress_` up, and so does a connection lost before its writes
end.  From then on `send_framed` only adds to the queue, on every later connection.

* `step_orderly` -- what holds of queue, flag and writes in every run;
* `flows_iff` -- on every connection of a run a waiting frame is being written, if
  and only if each connection is made with an empty queue;
* `stalled_queue` -- the login of a second connection that is never written.
-/
import GameServer.Dbmw.Inbound

namespace GameServer.Dbmw

set_option autoImplicit false

open Wire Theory.Runs

namespace DBMiddlewareClient

/-! ## What is asked of a run -/

/-- While the client is connected a waiting frame has one write on this connection;
without a waiting frame there is no write. -/
def Flows (c : DBMiddlewareClient) : Prop :=
  (c.connected = true → c.writeQueue ≠ [] → c.writes.count c.link = 1) ∧
    (c.writeQueue = [] → c.writes = [])

/-- A connection is made with an empty write queue. -/
def EmptyQueue (c : DBMiddlewareClient) : ClientEvent → Prop
  | .connectDone false => 0 < c.connects → c.writeQueue = []
  | _ => True

/-! ## The outbound side of the client -/

structure Outbound where
  connected : Bool
  link : Nat
  writeQueue : List Bytes
  writeInProgress : Bool
  writes : List Nat

def outbound (c : DBMiddlewareClient) : Outbound :=
  ⟨c.connected, c.link, c.writeQueue, c.writeInProgress, c.writes⟩

/-- At most one write is outstanding, for the frame in front; the flag is up as long
as the queue is not empty, written or not. -/
structure Orderly (s : Outbound) : Prop where
  one : s.writes.length ≤ 1
  fronted : s.writes ≠ [] → s.writeQueue ≠ []
  flag : s.writeInProgress = true ↔ s.writeQueue ≠ []
  past : ∀ opened ∈ s.writes, opened ≤ s.link

theorem Orderly.writes_nil {s : Outbound} (orderly : Orderly s) (empty : s.writeQueue = []) :
    s.writes = [] := by
  cases writes : s.writes with
  | nil => rfl
  | cons opened others => exact absurd empty (orderly.fronted (by simp [writes]))

/-- A frame pushed onto an empty queue is written at once. -/
theorem push_idle {c : DBMiddlewareClient} (orderly : Orderly c.outbound)
    (up : c.connected = true) (empty : c.writeQueue = []) (frame : Bytes) :
    (c.push frame).outbound = ⟨true, c.link, [frame], true, [c.link]⟩ := by
  have lowered : c.writeInProgress = false := by
    cases flag : c.writeInProgress with
    | false => rfl
    | true => exact absurd empty (orderly.flag.mp flag)
  have unwritten : c.writes = [] := orderly.writes_nil empty
  simp [push, up, empty, lowered, unwritten, flushWriteQueue, outbound]

/-- Behind another frame it waits. -/
theorem push_waiting {c : DBMiddlewareClient} (up : c.connected = true)
    (waiting : c.writeQueue ≠ []) (frame : Bytes) :
    (c.push frame).outbound = { c.outbound with writeQueue := c.writeQueue ++ [frame] } := by
  simp [push, up, waiting, outbound]

theorem push_dropped {c : DBMiddlewareClient} (down : c.connected = false) (frame : Bytes) :
    c.push frame = c := by
  simp [push, down]

theorem push_orderly {c : DBMiddlewareClient} (orderly : Orderly c.outbound) (frame : Bytes) :
    Orderly (c.push frame).outbound := by
  cases up : c.connected with
  | false =>
      rw [push_dropped up]
      exact orderly
  | true =>
      by_cases empty : c.writeQueue = []
      · rw [push_idle orderly up empty]
        exact ⟨by simp, by simp, by simp, by simp⟩
      · rw [push_waiting up empty]
        refine ⟨orderly.one, by simp, ?_, orderly.past⟩
        simpa [empty] using orderly.flag.mpr empty

theorem push_flows {c : DBMiddlewareClient} (orderly : Orderly c.outbound) (flows : Flows c)
    (frame : Bytes) : Flows (c.push frame) := by
  cases up : c.connected with
  | false =>
      rw [push_dropped up]
      exact flows
  | true =>
      by_cases empty : c.writeQueue = []
      · have pushed := push_idle orderly up empty frame
        simp only [outbound, Outbound.mk.injEq] at pushed
        obtain ⟨-, link, queue, -, writes⟩ := pushed
        simp [Flows, link, queue, writes]
      · have pushed := push_waiting up empty frame
        simp only [outbound, Outbound.mk.injEq] at pushed
        obtain ⟨-, link, queue, -, writes⟩ := pushed
        have written := flows.1 up empty
        simp [Flows, link, queue, writes, written]

theorem kept_orderly : Kept fun c => Orderly c.outbound where
  steered := fun _ orderly => orderly
  lost := fun orderly => ⟨orderly.one, orderly.fronted, orderly.flag, orderly.past⟩
  acked := fun orderly => orderly
  noted := fun _ _ orderly => orderly
  pushed := fun frame orderly => push_orderly orderly frame

/-- Order, and the flow of the queue on a connection that is up. -/
def Flowing (c : DBMiddlewareClient) : Prop := Orderly c.outbound ∧ Flows c

theorem kept_flowing : Kept Flowing where
  steered := fun _ flowing => flowing
  lost := fun flowing => ⟨kept_orderly.lost flowing.1, fun up => absurd up Bool.false_ne_true,
    flowing.2.2⟩
  acked := fun flowing => flowing
  noted := fun _ _ flowing => flowing
  pushed := fun frame flowing => ⟨push_orderly flowing.1 frame, push_flows flowing.1 flowing.2 frame⟩

/-! ## The end of a write -/

/-- The outstanding write is the only one. -/
theorem Orderly.writes_eq {s : Outbound} (orderly : Orderly s) {opened : Nat}
    (member : opened ∈ s.writes) : s.writes = [opened] := by
  have one := orderly.one
  obtain ⟨front, back, split⟩ := List.append_of_mem member
  rw [split, List.length_append, List.length_cons] at one
  have bare : front = [] ∧ back = [] :=
    ⟨List.length_eq_zero_iff.mp (by omega), List.length_eq_zero_iff.mp (by omega)⟩
  rw [split, bare.1, bare.2, List.nil_append]

theorem flushWriteQueue_flowing {c : DBMiddlewareClient} (unwritten : c.writes = [])
    (lowered : c.writeQueue ≠ [] → c.writeInProgress = true) : Flowing c.flushWriteQueue := by
  cases queue : c.writeQueue with
  | nil =>
      have flushed : c.flushWriteQueue = { c with writeInProgress := false } := by
        simp [flushWriteQueue, queue]
      rw [flushed]
      refine ⟨⟨?_, ?_, ?_, ?_⟩, ?_⟩ <;> simp [outbound, Flows, queue, unwritten]
  | cons frame frames =>
      have flushed : c.flushWriteQueue = { c with writes := [c.link] } := by
        simp [flushWriteQueue, queue, unwritten]
      have raised := lowered (by simp [queue])
      rw [flushed]
      refine ⟨⟨?_, ?_, ?_, ?_⟩, ?_⟩ <;> simp [outbound, Flows, queue, raised]

theorem onWrite_flowing {c : DBMiddlewareClient} (orderly : Orderly c.outbound) {opened : Nat}
    (writing : opened ∈ c.writes) (failed : Bool) :
    Flowing ({ c with writes := c.writes.erase opened }.onWrite opened failed) := by
  have one : c.writes = [opened] := orderly.writes_eq writing
  have raised : c.writeInProgress = true :=
    orderly.flag.mpr (orderly.fronted (List.ne_nil_of_mem writing))
  have waiting : c.writeQueue ≠ [] := orderly.flag.mp raised
  rw [onWrite, one, List.erase_cons_head]
  split
  · -- the frame stays in front, with nobody writing it
    have stuck : Flowing { c with writes := [], connected := false } := by
      refine ⟨⟨by simp [outbound], by simp [outbound], orderly.flag, by simp [outbound]⟩, ?_, ?_⟩
      · exact fun up => absurd up Bool.false_ne_true
      · exact fun _ => rfl
    exact kept_flowing.scheduleReconnect (kept_flowing.noted _ (by simp) stuck)
  · exact flushWriteQueue_flowing rfl fun _ => raised

/-! ## A new connection -/

theorem established_orderly {c : DBMiddlewareClient} (orderly : Orderly c.outbound) :
    Orderly c.established.outbound :=
  ⟨orderly.one, orderly.fronted, orderly.flag,
    fun opened member => Nat.le_succ_of_le (orderly.past opened member)⟩

theorem doReadSome_outbound (c : DBMiddlewareClient) : c.doReadSome.outbound = c.outbound := by
  rw [doReadSome]
  split <;> rfl

theorem flows_congr {c c' : DBMiddlewareClient} (same : c.outbound = c'.outbound) :
    Flows c ↔ Flows c' := by
  simp only [outbound, Outbound.mk.injEq] at same
  obtain ⟨up, link, queue, -, writes⟩ := same
  rw [Flows, Flows, up, link, queue, writes]

variable {config : ClientConfig}

/-- The login is the first frame of a connection. -/
theorem serverSendLogin_established (c : DBMiddlewareClient) :
    ∃ numbered frame, numbered.outbound = c.established.outbound ∧
      c.established.serverSendLogin config = push numbered frame :=
  ⟨{ c.established with serverLoginSent := true, requestIds := (c.requestIds + 1) % 2 ^ 64 },
    Wire.sendFramed (config.secret ++ config.dump (.obj [("type", .str "serverlogin"),
      ("nickname", .str config.serverLoginNickname),
      ("request_id", .str c.generateRequestId.1)])), rfl, rfl⟩

theorem onConnect_outbound (c : DBMiddlewareClient) :
    (c.onConnect config false).outbound = (c.established.serverSendLogin config).outbound :=
  doReadSome_outbound _

theorem onConnect_orderly {c : DBMiddlewareClient} (orderly : Orderly c.outbound) :
    Orderly (c.onConnect config false).outbound := by
  rw [onConnect_outbound]
  exact kept_orderly.serverSendLogin (established_orderly orderly)

/-- **A connection's queue flows exactly if it starts empty.** -/
theorem onConnect_flows_iff {c : DBMiddlewareClient} (orderly : Orderly c.outbound) :
    Flows (c.onConnect config false) ↔ c.writeQueue = [] := by
  obtain ⟨numbered, frame, same, pushed⟩ := @serverSendLogin_established config c
  have made : Orderly numbered.outbound := same ▸ established_orderly orderly
  rw [flows_congr (onConnect_outbound c), pushed]
  have fields := same
  simp only [outbound, established, Outbound.mk.injEq] at fields
  obtain ⟨up, link, queue, -, writes⟩ := fields
  constructor
  · intro flows
    by_contra waiting
    -- the frames in front are not being written on the new connection
    have behind := push_waiting up (queue ▸ waiting) frame
    simp only [outbound, Outbound.mk.injEq] at behind
    obtain ⟨up', link', queue', -, writes'⟩ := behind
    have written := flows.1 (up'.trans up) (by simp [queue'])
    rw [writes', link', writes, link] at written
    have member := List.count_pos_iff.mp (by omega : 0 < c.writes.count (c.link + 1))
    have := orderly.past _ member
    simp only [outbound] at this
    omega
  · intro empty
    refine push_flows made ⟨fun _ waiting => absurd (queue.trans empty) waiting, fun _ => ?_⟩ frame
    exact writes.trans (orderly.writes_nil empty)

/-! ## Runs -/

/-- **Order is kept by every step.** -/
theorem step_orderly {c : DBMiddlewareClient} (orderly : Orderly c.outbound) (e : ClientEvent) :
    Orderly (clientStep config c e).outbound := by
  cases e with
  | call k => exact kept_orderly.plain_step rfl orderly
  | job job => exact kept_orderly.plain_step rfl orderly
  | resolved failed => exact kept_orderly.plain_step rfl orderly
  | reconnectTimer how => exact kept_orderly.plain_step rfl orderly
  | heartbeatTimer how => exact kept_orderly.heartbeat_step (fun _ _ _ same => same) how orderly
  | connectDone failed =>
      cases failed with
      | true => exact kept_orderly.plain_step rfl orderly
      | false =>
          rw [clientStep]
          split
          · exact onConnect_orderly (c := { c with connects := c.connects - 1 }) orderly
          · exact orderly
  | writeDone opened failed =>
      rw [clientStep]
      split
      · rename_i writing
        exact (onWrite_flowing orderly writing failed).1
      · exact orderly
  | readDone opened result react =>
      exact kept_orderly.read_step (fun _ _ _ _ same => same) opened result react orderly

/-- **Flow is kept by exactly the steps that make no connection on a waiting queue.** -/
theorem step_flows_iff {c : DBMiddlewareClient} (e : ClientEvent) (orderly : Orderly c.outbound)
    (flows : Flows c) : Flows (clientStep config c e) ↔ EmptyQueue c e := by
  have flowing : Flowing c := ⟨orderly, flows⟩
  cases e with
  | call k => exact iff_of_true (kept_flowing.plain_step rfl flowing).2 trivial
  | job job => exact iff_of_true (kept_flowing.plain_step rfl flowing).2 trivial
  | resolved failed => exact iff_of_true (kept_flowing.plain_step rfl flowing).2 trivial
  | reconnectTimer how => exact iff_of_true (kept_flowing.plain_step rfl flowing).2 trivial
  | heartbeatTimer how =>
      exact iff_of_true
        (kept_flowing.heartbeat_step (fun _ _ _ same => same) how flowing).2 trivial
  | readDone opened result react =>
      exact iff_of_true
        (kept_flowing.read_step (fun _ _ _ _ same => same) opened result react flowing).2 trivial
  | writeDone opened failed =>
      refine iff_of_true ?_ trivial
      rw [clientStep]
      split
      · rename_i writing
        exact (onWrite_flowing orderly writing failed).2
      · exact flows
  | connectDone failed =>
      cases failed with
      | true => exact iff_of_true (kept_flowing.plain_step rfl flowing).2 trivial
      | false =>
          rw [clientStep, EmptyQueue]
          split
          · rename_i connecting
            have made := @onConnect_flows_iff config { c with connects := c.connects - 1 } orderly
            simpa [connecting] using made
          · rename_i idle
            exact iff_of_true flows fun connecting => absurd connecting idle

/-- **The write queue flows throughout a run if and only if every connection of the
run is made with an empty queue.** -/
theorem flows_iff (config : ClientConfig) (events : List ClientEvent) :
    (∀ front, front <+: events → Flows (run (clientStep config) {} front)) ↔
      Along (clientStep config) EmptyQueue {} events := by
  have start : Orderly ({} : DBMiddlewareClient).outbound :=
    ⟨by simp [outbound], by simp [outbound], by simp [outbound], by simp [outbound]⟩
  have preserved : ∀ c e, Orderly c.outbound → Orderly (clientStep config c e).outbound :=
    fun c e orderly => step_orderly orderly e
  exact throughout_iff preserved (fun c e orderly flows => step_flows_iff e orderly flows) start
    ⟨fun up => absurd up Bool.false_ne_true, fun _ => rfl⟩ events

/-- **A login that is never written**: the write of the first connection's login
fails, and the second connection has two frames waiting and no write. -/
theorem stalled_queue :
    ¬ ∀ (config : ClientConfig) (events : List ClientEvent),
      Flows (run (clientStep config) {} events) := by
  intro always
  have flows := (always (.small []) (started ++ [.writeDone 1 true, .readDone 1 none fun _ => []] ++
    reconnected)).1
  revert flows
  decide +kernel

end DBMiddlewareClient

end GameServer.Dbmw
