/-
# Dbmw.Heartbeat -- when the middleware link is given up for silence

The count of unanswered heartbeats goes back to zero on an acknowledgement only.
A connection made after a loss starts with the count of the one that was lost, and
its first heartbeat may already be one too many.

* `lost_on_own_misses` -- the heartbeat handler closes a connection only after
  `heartbeat_miss_limit_` heartbeats on that connection with no acknowledgement
  since, in every run in which no connection is made with a positive count;
* `lost_on_own_misses_once` -- a connection made after a loss with nothing missed, closed
  after its own three heartbeats;
* `inherited_misses` -- one made after such a close, closed after its first.
-/
import GameServer.Dbmw.Inbound

namespace GameServer.Dbmw

set_option autoImplicit false

open Wire Theory.Runs

namespace DBMiddlewareClient

/-! ## What is asked of a run -/

/-- Every close for silence came after enough heartbeats on the connection closed. -/
def LostOnOwnMisses (c : DBMiddlewareClient) : Prop :=
  ∀ sent, ClientNote.heartbeatLost sent ∈ c.journal → heartbeatMissLimit ≤ (sent : Int)

/-- A connection is made with nothing missed. -/
def NothingMissed (c : DBMiddlewareClient) : ClientEvent → Prop
  | .connectDone false => 0 < c.connects → c.missedHeartbeat ≤ 0
  | _ => True

instance (c : DBMiddlewareClient) (e : ClientEvent) : Decidable (c.NothingMissed e) :=
  match e with
  | .connectDone false => inferInstanceAs (Decidable (0 < c.connects → c.missedHeartbeat ≤ 0))
  | .call _ | .job _ | .resolved _ | .connectDone true | .readDone _ _ _ | .writeDone _ _
  | .reconnectTimer _ | .heartbeatTimer _ => isTrue trivial

/-! ## The count and the heartbeats it counts -/

/-- The count is that of an `int`, and no more than the heartbeats sent on the
connection since its start or last acknowledgement. -/
structure Counted (c : DBMiddlewareClient) : Prop where
  int : -2 ^ 31 ≤ c.missedHeartbeat
  own : c.missedHeartbeat ≤ c.sentSince
  lost : LostOnOwnMisses c

theorem kept_counted : Kept Counted where
  steered := fun _ counted => ⟨counted.int, counted.own, counted.lost⟩
  lost := fun counted => ⟨counted.int, counted.own, counted.lost⟩
  acked := fun counted => ⟨by simp, by simp, counted.lost⟩
  noted := by
    intro c note other counted
    refine ⟨counted.int, counted.own, ?_⟩
    intro sent member
    rcases List.mem_append.mp member with earlier | new
    · exact counted.lost sent earlier
    · exact absurd (List.mem_singleton.mp new).symm (other sent)
  pushed := by
    intro c frame counted
    obtain ⟨queue, flag, writes, pushed⟩ := push_eq c frame
    rw [pushed]
    exact ⟨counted.int, counted.own, counted.lost⟩

/-- One heartbeat more raises both by one, unless the `int` wraps. -/
theorem bmod_succ_le {missed : Int} (int : -2 ^ 31 ≤ missed) :
    Int.bmod (missed + 1) (2 ^ 32) ≤ missed + 1 ∧ -2 ^ 31 ≤ Int.bmod (missed + 1) (2 ^ 32) := by
  rw [Int.bmod_def]
  split <;> omega

variable {config : ClientConfig}

theorem sendHeartbeat_counted {c : DBMiddlewareClient} (counted : Counted c) :
    Counted (c.sendHeartbeat config) := by
  have called : Counted (c.callInline config (.sendSecureJson (.obj
      [("type", .str "keepalive"), ("nickname", .str config.serverLoginNickname)]))) :=
    kept_counted.callInline _ counted
  obtain ⟨le, int⟩ := bmod_succ_le called.int
  have own := called.own
  refine ⟨int, Int.le_trans le ?_, called.lost⟩
  simp only [sendHeartbeat]
  push_cast
  omega

/-- The close for silence is noted with enough heartbeats. -/
theorem noteLost_counted {c : DBMiddlewareClient} (counted : Counted c)
    (many : heartbeatMissLimit ≤ c.missedHeartbeat) :
    Counted { c with journal := c.journal ++ [.heartbeatLost c.sentSince] } := by
  refine ⟨counted.int, counted.own, ?_⟩
  intro sent member
  rcases List.mem_append.mp member with earlier | new
  · exact counted.lost sent earlier
  · cases List.mem_singleton.mp new
    exact Int.le_trans many counted.own

theorem heartbeatTimer_counted {c : DBMiddlewareClient} (counted : Counted c) (how : WaitEnd) :
    Counted (clientStep config c (.heartbeatTimer how)) := by
  rw [clientStep]
  split
  · exact counted
  rename_i t _
  have found : Counted { c with heartbeatTimer := t } :=
    kept_counted.steered { c.control with heartbeatTimer := t } counted
  rw [onHeartbeatTimer]
  split
  · exact found
  split
  · have sent : Counted ({ c with heartbeatTimer := t }.sendHeartbeat config) :=
      sendHeartbeat_counted found
    dsimp only
    split
    · rename_i many
      exact kept_counted.giveUp (noteLost_counted sent many)
    · exact kept_counted.armHeartbeatTimer sent
  · exact kept_counted.armHeartbeatTimer found

theorem onConnect_counted {c : DBMiddlewareClient} (counted : Counted c)
    (nothing : c.missedHeartbeat ≤ 0) : Counted (c.onConnect config false) := by
  have made : Counted c.established := ⟨counted.int, nothing, counted.lost⟩
  have logged : Counted (c.established.serverSendLogin config) := kept_counted.serverSendLogin made
  rw [onConnect]
  refine kept_counted.armHeartbeatTimer ?_
  rw [doReadSome]
  split
  · exact ⟨logged.int, logged.own, logged.lost⟩
  · exact logged

/-- **One step of the count.** -/
theorem step_counted {c : DBMiddlewareClient} (counted : Counted c) (e : ClientEvent)
    (nothing : NothingMissed c e) : Counted (clientStep config c e) := by
  cases e with
  | call k => exact kept_counted.plain_step rfl counted
  | job job => exact kept_counted.plain_step rfl counted
  | resolved failed => exact kept_counted.plain_step rfl counted
  | reconnectTimer how => exact kept_counted.plain_step rfl counted
  | heartbeatTimer how => exact heartbeatTimer_counted counted how
  | readDone opened result react =>
      exact kept_counted.read_step (fun _ _ _ _ counted => ⟨counted.int, counted.own, counted.lost⟩)
        opened result react counted
  | writeDone opened failed =>
      rw [clientStep]
      split
      · have ended : Counted { c with writes := c.writes.erase opened } :=
          ⟨counted.int, counted.own, counted.lost⟩
        rw [onWrite]
        split
        · exact kept_counted.giveUpFrom opened ended
        · rw [flushWriteQueue]
          split <;> exact ⟨counted.int, counted.own, counted.lost⟩
      · exact counted
  | connectDone failed =>
      cases failed with
      | true => exact kept_counted.plain_step rfl counted
      | false =>
          rw [clientStep]
          split
          · rename_i connecting
            exact onConnect_counted ⟨counted.int, counted.own, counted.lost⟩ (nothing connecting)
          · exact counted

/-- **Silence is judged by the connection's own heartbeats**, in every run in which
no connection starts with missed ones. -/
theorem lost_on_own_misses (config : ClientConfig) {events : List ClientEvent}
    (nothing : Along (clientStep config) NothingMissed {} events) :
    LostOnOwnMisses (run (clientStep config) {} events) := by
  have start : Counted {} :=
    ⟨by simp, by simp, fun _ member => (List.not_mem_nil member).elim⟩
  have preserved : ∀ c e, Counted c → NothingMissed c e → Counted (clientStep config c e) :=
    fun c e counted nothing => step_counted counted e nothing
  exact (run_invariant preserved start nothing).lost

/-- A login acknowledged, and heartbeats that nobody answers. -/
def silence (heartbeats : Nat) : List ClientEvent :=
  .call (.markAuthed true) :: List.replicate heartbeats (.heartbeatTimer .expired)

/-- A connection that is lost before its first heartbeat, and the next one, silent. -/
def lostThenSilent : List ClientEvent :=
  started ++ [.readDone 1 none fun _ => []] ++ reconnected ++ silence 3

theorem lost_on_own_misses_once :
    ClientNote.heartbeatLost 3 ∈ (run (clientStep (.small [])) {} lostThenSilent).journal ∧
      LostOnOwnMisses (run (clientStep (.small [])) {} lostThenSilent) :=
  ⟨by decide +kernel, lost_on_own_misses _ (by decide +kernel)⟩

/-- **A reconnected link closed after one heartbeat**: the count still stands at
three from the connection before. -/
theorem inherited_misses :
    ¬ ∀ (config : ClientConfig) (events : List ClientEvent),
      LostOnOwnMisses (run (clientStep config) {} events) := by
  intro always
  have closed : ClientNote.heartbeatLost 1 ∈ (run (clientStep (.small [])) {}
      (started ++ silence 3 ++ [.readDone 1 none fun _ => []] ++ reconnected ++
        silence 1)).journal := by
    decide +kernel
  have enough := always _ _ 1 closed
  revert enough
  decide

end DBMiddlewareClient

end GameServer.Dbmw
