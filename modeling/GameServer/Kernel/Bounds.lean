/-
# Kernel.Bounds -- what the settings bound

A write queue drops its front once it is full, a zone refuses whom it has no slot for,
and the pool makes no more objects than it may.  So much holds whatever is called in
which order, late completions and closes of closed sessions included.

* `after_bounded` -- everything is within its bound in every run;
* `resources_bounded` -- so with room for a message at all, no write queue, no zone and no
  open connection is beyond its setting.

Without room, at `max_write_queue_size` 0, `enqueue_write` pops a queue that may be empty,
which C++ leaves undefined; the bound of a queue is 1 then.
-/
import GameServer.Kernel.Outgoing

namespace GameServer.Kernel

set_option autoImplicit false

open Wire Dbmw Theory.Runs

/-- Everything that is bounded is within its bound, and what the pool has free is its own. -/
structure Bounded (config : Config) (srv : Server) : Prop where
  queues : ∀ s, (srv.obj s).writeQueue.length ≤ max 1 config.maxWriteQueueSize
  zones : ∀ zoneId zone, srv.zones zoneId = some zone →
    zone.entries.length ≤ config.zoneMaxSessionsCount
  opened : ∀ s, (srv.obj s).socketOpen = true → s < srv.pool.size
  free : ∀ s ∈ srv.pool.reusableIndices, s < srv.pool.size
  size : srv.pool.size ≤ max config.sessionPoolSize config.maxSessionPoolSize
  maxSize : srv.pool.maxSize = config.maxSessionPoolSize

namespace Server

variable {env : Env} {srv : Server}

/-- A method that neither fills a queue nor opens a socket. -/
structure Modest (config : Config) (x y : Session) : Prop where
  queue : x.writeQueue.length ≤ max 1 config.maxWriteQueueSize →
    y.writeQueue.length ≤ max 1 config.maxWriteQueueSize
  opened : y.socketOpen = true → x.socketOpen = true

theorem bounded_modify (bounded : Bounded env.config srv) (s : Ref) {f : Session → Session}
    (modest : Modest env.config (srv.obj s) (f (srv.obj s))) :
    Bounded env.config (srv.modify s f) := by
  have each := modify_each (fun (_ : Ref) => Modest env.config) (fun _ _ => ⟨id, id⟩) modest
  exact { bounded with
    queues := fun x => (each x).queue (bounded.queues x)
    opened := fun x opened => bounded.opened x ((each x).opened opened) }

/-- A zone listing no more sessions than it may is put in. -/
theorem bounded_zone (bounded : Bounded env.config srv) (zoneId : Int) {zone : Zone}
    (room : zone.entries.length ≤ env.config.zoneMaxSessionsCount) :
    Bounded env.config { srv with zones := Function.update srv.zones zoneId (some zone) } := by
  refine { bounded with zones := fun zoneId' zone' found => ?_ }
  change Function.update srv.zones zoneId (some zone) zoneId' = some zone' at found
  by_cases here : zoneId' = zoneId
  · subst here
    rw [Function.update_self] at found
    cases found
    exact room
  · rw [Function.update_of_ne here] at found
    exact bounded.zones zoneId' zone' found

/-! ## Closing -/

theorem bounded_leaveZone (bounded : Bounded env.config srv) (s : Ref) :
    Bounded env.config (srv.leaveZone s) := by
  rcases srv.leaveZone_cases s with ⟨-, same⟩ | ⟨zone, -, found, left⟩
  · rw [same]
    exact bounded
  · have fewer : (zone.erase (srv.obj s).sessionId).entries.length ≤ zone.entries.length :=
      (List.kerase_sublist _ _).length_le
    have erased := bounded_zone bounded (srv.obj s).zoneId
      (Nat.le_trans fewer (bounded.zones _ zone found))
    rw [left]
    exact bounded_modify erased s ⟨id, id⟩

theorem bounded_release (bounded : Bounded env.config srv) (s : Ref) :
    Bounded env.config (srv.release s) := by
  rw [release]
  split
  · rename_i returns
    have taken := bounded_modify bounded s (f := Session.takeBack) ⟨fun _ => Nat.zero_le _, id⟩
    refine { taken with free := fun x member => ?_ }
    rcases List.mem_append.mp member with before | new
    · exact bounded.free x before
    · rw [List.mem_singleton.mp new]
      exact returns.1
  · exact bounded

theorem bounded_removeSession (bounded : Bounded env.config srv) (sessionId : Int) :
    Bounded env.config (srv.removeSession sessionId) := by
  have unmapped : ∀ (srv : Server) (s : Ref), Bounded env.config srv →
      Bounded env.config (srv.unmapEndpoint s) := by
    intro srv s bounded
    obtain ⟨table, unmapped⟩ := srv.unmapEndpoint_eq s
    rw [unmapped]
    exact { bounded with }
  rw [removeSession]
  split
  · exact bounded
  · rename_i s found
    have erased : Bounded env.config { srv with manager := srv.manager.eraseSession sessionId } :=
      { bounded with }
    have cleared := bounded_modify (unmapped _ s erased) s (f := Session.clearUdpToken) ⟨id, id⟩
    exact bounded_release (bounded_leaveZone cleared s) s

theorem bounded_closeSession (bounded : Bounded env.config srv) (s : Ref) :
    Bounded env.config (srv.closeSession s) := by
  rw [closeSession_eq]
  split
  · have shut := bounded_modify bounded s (f := Session.shutDown) ⟨id, fun opened => by cases opened⟩
    exact bounded_modify (bounded_removeSession shut _) s ⟨fun _ => Nat.zero_le _, id⟩
  · exact bounded

theorem bounded_close (bounded : Bounded env.config srv) (s : Ref) :
    Bounded env.config (srv.close s) := by
  have noted : Bounded env.config (srv.note (.close s)) :=
    ⟨bounded.queues, bounded.zones, bounded.opened, bounded.free, bounded.size, bounded.maxSize⟩
  exact bounded_closeSession noted s

/-! ## Writing -/

theorem enqueueWrite_modest (config : Config) (message : String) (x : Session) :
    Modest config x (x.enqueueWrite config message).1 := by
  refine ⟨fun within => ?_, fun opened => ?_⟩
  · rcases x.enqueueWrite_cases config message with
      ⟨full, -, entered⟩ | ⟨full, -, entered⟩ | ⟨room, entered⟩
    · simp only [entered, List.length_tail]
      omega
    · simp only [entered, List.length_append, List.length_tail, List.length_singleton]
      omega
    · simp only [entered, List.length_append, List.length_singleton]
      omega
  · obtain ⟨queue, count, entered⟩ := x.enqueueWrite_eq config message
    rw [entered] at opened
    exact opened

theorem bounded_doWriteQueue (bounded : Bounded env.config srv) (s : Ref) :
    Bounded env.config (srv.doWriteQueue s) := by
  rw [doWriteQueue_eq]
  split
  · exact bounded
  · split
    · exact bounded_modify bounded s ⟨id, id⟩
    · exact { bounded with }

theorem bounded_writeNow (bounded : Bounded env.config srv) (s : Ref) (message : String) :
    Bounded env.config (srv.writeNow env s message) := by
  have queued := bounded_modify bounded s
    (f := fun _ => ((srv.obj s).enqueueWrite env.config message).1)
    (enqueueWrite_modest env.config message _)
  refine writeNow_keeps message queued (fun _ => bounded_close queued s) fun srv' bounded => ?_
  exact bounded_doWriteQueue (bounded_modify bounded s ⟨id, id⟩) s

theorem bounded_writeDone (bounded : Bounded env.config srv) (op : WriteOp) (failed : Bool) :
    Bounded env.config (srv.writeDone op failed) := by
  have taken : Bounded env.config { srv with writes := srv.writes.erase op } := { bounded with }
  have popped := bounded_modify taken op.session
    (f := fun x => { x with writeQueue := x.writeQueue.tail })
    ⟨fun within => Nat.le_trans (by simp) within, id⟩
  simp only [writeDone]
  split
  · exact taken
  · split
    · exact bounded_close taken op.session
    · exact bounded_doWriteQueue popped op.session

/-! ## Accepting and zoning -/

theorem bounded_acquire (bounded : Bounded env.config srv) {s : Ref} (next : srv.nextFree = some s)
    (now : Time) (sessionId : Int) : Bounded env.config (srv.acquire now sessionId s) := by
  have within : s < max env.config.sessionPoolSize env.config.maxSessionPoolSize := by
    rw [nextFree] at next
    split at next
    · rename_i free
      cases next
      have own := bounded.free s (by rw [free]; exact List.mem_cons_self)
      exact Nat.lt_of_lt_of_le own bounded.size
    · split at next
      · cases next
      · rename_i room
        cases next
        rw [bounded.maxSize] at room
        exact Nat.lt_of_lt_of_le (Nat.lt_of_not_le room) (Nat.le_max_right _ _)
  have queues : ∀ x, ((srv.acquire now sessionId s).obj x).writeQueue.length ≤
      max 1 env.config.maxWriteQueueSize := by
    intro x
    by_cases here : x = s
    · subst here
      rw [acquire, modify_obj_self]
      exact Nat.zero_le _
    · rw [acquire, modify_obj_other _ _ here]
      exact bounded.queues x
  exact {
    queues := queues
    zones := bounded.zones
    opened := fun x opened => by
      by_cases here : x = s
      · subst here
        exact Nat.lt_of_lt_of_le (Nat.lt_succ_self x) (Nat.le_max_right _ _)
      · have opened' : (srv.obj x).socketOpen = true := by
          rwa [acquire, modify_obj_other _ _ here] at opened
        exact Nat.lt_of_lt_of_le (bounded.opened x opened') (Nat.le_max_left _ _)
    free := fun x member =>
      Nat.lt_of_lt_of_le (bounded.free x (List.mem_of_mem_tail member)) (Nat.le_max_left _ _)
    size := Nat.max_le.mpr ⟨bounded.size, within⟩
    maxSize := bounded.maxSize }

theorem bounded_assignSessionToZone (bounded : Bounded env.config srv) (s : Ref) (zoneId : Int) :
    Bounded env.config (srv.assignSessionToZone env s zoneId) := by
  rcases assignSessionToZone_cases env srv s zoneId with ⟨-, same⟩ | ⟨zone, -, room, absent, enters⟩
  · rw [same]
    exact bounded
  · have entered : (zone.insert (srv.obj s).sessionId s).entries.length ≤
        env.config.zoneMaxSessionsCount := by
      rw [AList.entries_insert_of_notMem absent]
      exact room
    rw [enters]
    exact bounded_modify (bounded_zone bounded zoneId entered) s ⟨id, id⟩

/-! ## Runs -/

/-- **Every call keeps the bounds.** -/
theorem bounded_call {acquires buffers : Bool} (srv : Server) (c : Call)
    (bounded : Bounded env.config srv) (_ : Calls acquires buffers srv c) :
    Bounded env.config (srv.call env c) := by
  cases c with
  | acquire now sessionId =>
      rw [call]
      split
      · exact bounded
      · rename_i s next
        exact bounded_acquire bounded next now sessionId
  | closeSession s => exact bounded_closeSession bounded s
  | write s message => exact bounded_writeNow bounded s message
  | writeDone op failed =>
      rw [call]
      split
      · exact bounded_writeDone bounded op failed
      · exact bounded
  | assignSessionToZone s zoneId => exact bounded_assignSessionToZone bounded s zoneId
  | leaveZone s => exact bounded_leaveZone bounded s
  | elsewhere other =>
      exact ⟨bounded.queues, bounded.zones, bounded.opened, bounded.free, bounded.size,
        bounded.maxSize⟩

theorem after_bounded (env : Env) (router : Option (DBmwRouter LoginFlow)) (events : List Event) :
    Bounded env.config (after env router events) := by
  have fresh : Bounded env.config (initial env router) := {
    queues := fun _ => Nat.zero_le _
    zones := fun zoneId zone found => by
      simp only [initial] at found
      split at found
      · cases found
        exact Nat.zero_le _
      · cases found
    opened := fun _ opened => by cases opened
    free := fun _ member => List.mem_range.mp member
    size := Nat.le_max_left _ _
    maxSize := rfl }
  exact (after_reach env router events).invariant bounded_call fresh

/-- **Queues, zones and connections stay within their bounds**, in every state of a run. -/
theorem resources_bounded (env : Env) (room : 1 ≤ env.config.maxWriteQueueSize)
    (router : Option (DBmwRouter LoginFlow)) (events : List Event) :
    (∀ s, ((after env router events).obj s).writeQueue.length ≤ env.config.maxWriteQueueSize) ∧
    (∀ zoneId zone, (after env router events).zones zoneId = some zone →
      zone.entries.length ≤ env.config.zoneMaxSessionsCount) ∧
    ∀ s, ((after env router events).obj s).socketOpen = true →
      s < max env.config.sessionPoolSize env.config.maxSessionPoolSize := by
  have bounded := after_bounded env router events
  refine ⟨fun s => ?_, bounded.zones, fun s opened => ?_⟩
  · have queue := bounded.queues s
    rwa [Nat.max_eq_right room] at queue
  · exact Nat.lt_of_lt_of_le (bounded.opened s opened) bounded.size

/-- One message waits at most, and a client that is told of two logins. -/
def tightEnv : Env :=
  { trialEnv 1 with config := { (trialEnv 1).config with maxWriteQueueSize := 1 } }

def twoLogins : List Event :=
  [.accept 0 [0], .post ⟨0, 1, .task .readSome⟩,
    .readDone ⟨⟨0, 1, 2⟩, true⟩ (.data (kimFrame ++ kimFrame)), .handlerStep 0 ⟨0, 1, 2⟩ false,
    .handlerStep 0 ⟨0, 1, 2⟩ false]

theorem resources_bounded_full :
    ((after tightEnv none twoLogins).obj 0).writeQueueOverflowCount = 1 ∧
      ∀ s, ((after tightEnv none twoLogins).obj s).writeQueue.length ≤ 1 :=
  ⟨by decide +kernel, (resources_bounded tightEnv (by decide) none twoLogins).1⟩

end Server

end GameServer.Kernel
