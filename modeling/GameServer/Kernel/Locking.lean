/-
# Kernel.Locking -- the mutexes of a call into the session manager

The functions behind the public operations of `SessionManager`, written once more with
the mutexes in them: a call ends with the server it leaves and with what it has locked, in
scopes as its `lock_guard`s are.  `close_session` and `DataHandler::remove_session` are
followed to their end.

* `closeSession_server`, `addSession_server`, `registerNickname_server` -- they do what the
  functions of the server do;
* `removeSession_ranked` -- a removal takes shard, endpoint, zone and pool one after the
  other, each alone;
* `operation_ranked` -- every operation but `unregister_nickname` takes the nickname mutex
  first, if at all;
* `relocks_iff`, `deadlockFree_iff` -- no operation but that one waits for a mutex it
  holds, and without it nesting has no cycle.
-/
import GameServer.Kernel.Closing
import GameServer.Theory.Locks

namespace GameServer.Kernel

set_option autoImplicit false

open Wire Dbmw Theory Theory.Locks

inductive Mutex where
  /-- `nickname_mutex_` of `SessionManager`. -/
  | nickname
  /-- One of `session_mutexes_`. -/
  | shard (index : Nat)
  /-- `udp_endpoint_mutex_`. -/
  | endpoint
  /-- `mutex_` of `ZoneManager`. -/
  | zoneManager
  /-- `session_mutex_` of a zone. -/
  | zone (zoneId : Int)
  /-- `mutex_` of `SessionPool`. -/
  | pool
deriving DecidableEq, Repr

/-- How a call ends: the server, and what was locked on the way. -/
structure Locked where
  server : Server
  chain : Chain Mutex

namespace Locked

/-- Nothing is locked. -/
def quiet (srv : Server) : Locked := ⟨srv, .nil⟩

/-- A `lock_guard` around a call. -/
def guarded (m : Mutex) (inside : Locked) : Locked := ⟨inside.server, .guard m inside.chain .nil⟩

/-- One call after the other. -/
def andThen (first : Locked) (next : Server → Locked) : Locked :=
  ⟨(next first.server).server, first.chain.append (next first.server).chain⟩

@[simp] theorem quiet_server (srv : Server) : (quiet srv).server = srv := rfl

@[simp] theorem guarded_server (m : Mutex) (inside : Locked) :
    (guarded m inside).server = inside.server := rfl

@[simp] theorem andThen_server (first : Locked) (next : Server → Locked) :
    (first.andThen next).server = (next first.server).server := rfl

end Locked

namespace Locking

open Locked

/-! ## `close_session`, to its end -/

/-- Step 2 of `DataHandler::remove_session`. -/
def unmapEndpoint (srv : Server) (s : Ref) : Locked :=
  if (srv.obj s).udpEndpoint.isSome then guarded .endpoint (quiet (srv.unmapEndpoint s))
  else quiet srv

/-- `ZoneManager::remove_session`: `get_zone`, `Zone::remove_session`, and the zone id. -/
def leaveZone (srv : Server) (s : Ref) : Locked :=
  if -1 < (srv.obj s).zoneId then
    (guarded .zoneManager (quiet srv)).andThen fun srv =>
      match srv.zones (srv.obj s).zoneId with
      | none => quiet srv
      | some zone =>
          (guarded (.zone (srv.obj s).zoneId) (quiet
            { srv with
              zones := Function.update srv.zones (srv.obj s).zoneId
                (some (zone.erase (srv.obj s).sessionId)) })).andThen fun srv =>
            quiet (srv.modify s fun x => { x with zoneId := -1 })
  else quiet srv

/-- `SessionPool::release`. -/
def release (srv : Server) (s : Ref) : Locked := guarded .pool (quiet (srv.release s))

/-- `SessionManager::remove_session`. -/
def eraseSession (srv : Server) (sessionId : Int) : Locked :=
  guarded (.shard (srv.manager.getShard sessionId)) (quiet
    (if (srv.manager.findSession sessionId).isSome then
      { srv with manager := srv.manager.eraseSession sessionId }
    else srv))

/-- `DataHandler::remove_session`. -/
def removeSession (srv : Server) (sessionId : Int) : Locked :=
  let session := srv.manager.findSession sessionId
  (eraseSession srv sessionId).andThen fun srv =>
    match session with
    | none => quiet srv
    | some s =>
        (unmapEndpoint srv s).andThen fun srv =>
          (leaveZone (srv.modify s Session.clearUdpToken) s).andThen fun srv => release srv s

/-- `Session::close_session`. -/
def closeSession (srv : Server) (s : Ref) : Locked :=
  match (srv.obj s).tryClose with
  | none => quiet srv
  | some closing =>
      let srv := srv.modify s fun _ => closing.shutDown
      (removeSession srv (srv.obj s).sessionId).andThen fun srv =>
        quiet (srv.modify s Session.cleanup)

def close (srv : Server) (s : Ref) : Locked := closeSession (srv.note (.close s)) s

/-- The body of `post_write`: `enqueue_write` may close, and `do_write_queue` locks
nothing. -/
def writeNow (env : Env) (srv : Server) (s : Ref) (message : String) : Locked :=
  let idle := (srv.obj s).writeQueue.isEmpty
  let (x, overflow) := (srv.obj s).enqueueWrite env.config message
  let srv := srv.modify s fun _ => x
  (if overflow then close srv s else quiet srv).andThen fun srv =>
    quiet (if idle then
      (srv.modify s fun x => { x with writeInProgress := true }).doWriteQueue s else srv)

/-- `post_write`, which on the session's own strand runs at once. -/
def postWrite (env : Env) (here : Here) (srv : Server) (s : Ref) (message : String) : Locked :=
  if srv.onStrand here s then writeNow env srv s message
  else quiet (srv.postWrite env here s message)

/-- One `close_session` after the other. -/
def closeAll : List Ref → Server → Locked
  | [], srv => quiet srv
  | s :: rest, srv => (closeSession srv s).andThen (closeAll rest)

/-! ## The public operations -/

/-- `add_session`: the replaced session is closed with the shard released. -/
def addSession (srv : Server) (s : Ref) : Locked :=
  let sessionId := (srv.obj s).sessionId
  let previous := srv.manager.findSession sessionId
  let replaced := previous.filter fun p =>
    decide ((srv.obj p).generation ≠ (srv.obj s).generation)
  (guarded (.shard (srv.manager.getShard sessionId)) (quiet
    { srv with manager := srv.manager.insertSession sessionId s })).andThen fun srv =>
    match replaced with
    | some p => if (srv.obj p).isClosed then quiet srv else closeSession srv p
    | none => quiet srv

/-- `find_session`. -/
def findSession (srv : Server) (sessionId : Int) : Locked :=
  guarded (.shard (srv.manager.getShard sessionId)) (quiet srv)

/-- `find_session_by_nickname`. -/
def findSessionByNickname (srv : Server) (_ : String) : Locked := guarded .nickname (quiet srv)

/-- A loop over the shards that locks one at a time. -/
def eachShard (srv : Server) : Locked :=
  ⟨srv, (List.range srv.manager.shardCount).foldr (fun shard => .guard (.shard shard) .nil) .nil⟩

/-- `for_each_session`: the walk copies, and calls when all is released. -/
def forEachSession (srv : Server) : Locked :=
  (eachShard srv).andThen fun srv =>
    ⟨srv, srv.manager.sessions.foldr (fun _ => .call) .nil⟩

/-- `register_nickname`: the holder of the name is told and closed under the lock. -/
def registerNickname (env : Env) (here : Here) (srv : Server) (nickname : String) (s : Ref) :
    Locked :=
  guarded .nickname <|
    (match srv.manager.findSessionByNickname nickname with
      | some p =>
          if p ≠ s then
            (postWrite env here srv p Server.loggedInElsewhere).andThen fun srv =>
              closeSession srv p
          else quiet srv
      | none => quiet srv).andThen fun srv =>
        quiet { srv with
          manager := { srv.manager with
            nicknameIndex := srv.manager.nicknameIndex.insert nickname s } }

/-- `cleanup_expired_nicknames`.  The pool keeps every object, so no entry has expired. -/
def cleanupExpiredNicknames (srv : Server) : Locked := guarded .nickname (quiet srv)

/-- `unregister_nickname`, which ends in a sweep of the index. -/
def unregisterNickname (srv : Server) (nickname : String) (s : Ref) : Locked :=
  guarded .nickname <|
    (quiet
      (if srv.manager.findSessionByNickname nickname = some s then
        { srv with
          manager := { srv.manager with nicknameIndex := srv.manager.nicknameIndex.erase nickname } }
      else srv)).andThen cleanupExpiredNicknames

/-- `cleanup_inactive_sessions`: collected shard by shard, closed when all is released. -/
def cleanupInactiveSessions (srv : Server) (now : Time) (maxIdleTime : Time) : Locked :=
  let toClose := srv.manager.sessions.filter fun s => maxIdleTime < now - (srv.obj s).lastAliveTime
  (eachShard srv).andThen (closeAll toClose)

end Locking

/-- A call of a public operation of `SessionManager`. -/
inductive Operation where
  | addSession (s : Ref)
  | removeSession (sessionId : Int)
  | findSession (sessionId : Int)
  | findSessionByNickname (nickname : String)
  | forEachSession
  | sessionCount
  | registerNickname (nickname : String) (s : Ref)
  | unregisterNickname (nickname : String) (s : Ref)
  | getTotalSessionCount
  | cleanupExpiredNicknames
  | cleanupInactiveSessions (now : Time) (maxIdleTime : Time)
deriving DecidableEq, Repr

namespace Operation

/-- The operation, run on some strand or none. -/
def run (env : Env) (here : Here) (srv : Server) : Operation → Locked
  | addSession s => Locking.addSession srv s
  | removeSession sessionId => Locking.eraseSession srv sessionId
  | findSession sessionId => Locking.findSession srv sessionId
  | findSessionByNickname nickname => Locking.findSessionByNickname srv nickname
  | forEachSession => Locking.forEachSession srv
  | sessionCount => Locking.eachShard srv
  | registerNickname nickname s => Locking.registerNickname env here srv nickname s
  | unregisterNickname nickname s => Locking.unregisterNickname srv nickname s
  | getTotalSessionCount => Locking.eachShard srv
  | cleanupExpiredNicknames => Locking.cleanupExpiredNicknames srv
  | cleanupInactiveSessions now maxIdleTime => Locking.cleanupInactiveSessions srv now maxIdleTime

/-- It is `unregister_nickname`. -/
def Unregisters : Operation → Prop
  | unregisterNickname _ _ => True
  | _ => False

end Operation

/-! ## They do what the server's functions do -/

namespace Locking

open Locked

theorem unmapEndpoint_server (srv : Server) (s : Ref) :
    (unmapEndpoint srv s).server = srv.unmapEndpoint s := by
  rw [unmapEndpoint]
  split
  · rfl
  · rename_i unbound
    rw [Option.not_isSome_iff_eq_none] at unbound
    rw [Server.unmapEndpoint, unbound]
    rfl

theorem leaveZone_server (srv : Server) (s : Ref) :
    (leaveZone srv s).server = srv.leaveZone s := by
  simp only [leaveZone, Server.leaveZone]
  split
  · simp only [andThen_server, guarded_server, quiet_server]
    cases srv.zones (srv.obj s).zoneId <;> rfl
  · rfl

theorem removeSession_server (srv : Server) (sessionId : Int) :
    (removeSession srv sessionId).server = srv.removeSession sessionId := by
  rw [Server.removeSession]
  cases filed : srv.manager.findSession sessionId with
  | none => simp [removeSession, eraseSession, filed]
  | some s =>
      simp [removeSession, eraseSession, filed, release, unmapEndpoint_server, leaveZone_server]

/-- **The close is the server's.** -/
theorem closeSession_server (srv : Server) (s : Ref) :
    (closeSession srv s).server = srv.closeSession s := by
  rw [closeSession, Server.closeSession]
  cases (srv.obj s).tryClose with
  | none => rfl
  | some closing =>
      simp only [andThen_server, quiet_server, removeSession_server]

theorem writeNow_server (env : Env) (srv : Server) (s : Ref) (message : String) :
    (writeNow env srv s message).server = srv.writeNow env s message := by
  simp only [writeNow, Server.writeNow, andThen_server, quiet_server]
  by_cases overflow : ((srv.obj s).enqueueWrite env.config message).2 = true
  · simp only [if_pos overflow, close, closeSession_server]
    rfl
  · simp only [if_neg overflow, quiet_server]

theorem postWrite_server (env : Env) (here : Here) (srv : Server) (s : Ref) (message : String) :
    (postWrite env here srv s message).server = srv.postWrite env here s message := by
  rw [postWrite]
  split
  · rename_i at_once
    rw [writeNow_server, Server.postWrite, if_pos at_once]
  · rfl

theorem addSession_server (srv : Server) (s : Ref) :
    (addSession srv s).server = srv.addSession s := by
  simp only [addSession, Server.addSession, andThen_server, guarded_server, quiet_server]
  cases (srv.manager.findSession (srv.obj s).sessionId).filter fun p =>
      decide ((srv.obj p).generation ≠ (srv.obj s).generation) with
  | none => rfl
  | some p => exact closeSession_server _ p

theorem registerNickname_server (env : Env) (here : Here) (srv : Server) (nickname : String)
    (s : Ref) :
    (registerNickname env here srv nickname s).server = srv.registerNickname env here nickname s := by
  simp only [registerNickname, Server.registerNickname, guarded_server, andThen_server, quiet_server]
  cases srv.manager.findSessionByNickname nickname with
  | none => rfl
  | some p =>
      by_cases other : p ≠ s
      · simp only [if_pos other, andThen_server, closeSession_server, postWrite_server]
      · simp only [if_neg other, quiet_server]

/-- The closes of a sweep. -/
theorem closeAll_server (sessions : List Ref) (srv : Server) :
    (closeAll sessions srv).server = sessions.foldl Server.closeSession srv := by
  induction sessions generalizing srv with
  | nil => rfl
  | cons s rest ih =>
      show (closeAll rest (closeSession srv s).server).server = _
      rw [ih, closeSession_server]
      rfl

end Locking

/-! ## In what order -/

/-- The nickname mutex comes first; the others are not nested. -/
def Mutex.rank : Mutex → Nat
  | .nickname => 0
  | _ => 1

namespace Locking

open Locked

theorem andThen_ranked {n : Nat} {first : Locked} {next : Server → Locked}
    (front : first.chain.Ranked Mutex.rank n)
    (back : ∀ srv, (next srv).chain.Ranked Mutex.rank n) :
    (first.andThen next).chain.Ranked Mutex.rank n :=
  Chain.ranked_append front (back _)

/-- A lock around nothing that locks. -/
theorem guarded_ranked {n : Nat} {m : Mutex} (high : n ≤ m.rank) (srv : Server) :
    (guarded m (quiet srv)).chain.Ranked Mutex.rank n := ⟨high, trivial, trivial⟩

theorem unmapEndpoint_ranked (srv : Server) (s : Ref) :
    (unmapEndpoint srv s).chain.Ranked Mutex.rank 1 := by
  rw [unmapEndpoint]
  split
  · exact guarded_ranked (le_refl 1) _
  · exact trivial

theorem leaveZone_ranked (srv : Server) (s : Ref) :
    (leaveZone srv s).chain.Ranked Mutex.rank 1 := by
  rw [leaveZone]
  split
  · apply andThen_ranked
    · exact guarded_ranked (le_refl 1) srv
    · intro srv
      cases srv.zones (srv.obj s).zoneId with
      | none => exact trivial
      | some zone =>
          apply andThen_ranked
          · exact guarded_ranked (le_refl 1) _
          · exact fun _ => trivial
  · exact trivial

/-- **A removal** locks shard, endpoint, zone and pool, each alone. -/
theorem removeSession_ranked (srv : Server) (sessionId : Int) :
    (removeSession srv sessionId).chain.Ranked Mutex.rank 1 := by
  rw [removeSession]
  apply andThen_ranked
  · exact guarded_ranked (le_refl 1) _
  · intro erased
    cases srv.manager.findSession sessionId with
    | none => exact trivial
    | some s =>
        apply andThen_ranked (unmapEndpoint_ranked erased s)
        intro srv
        apply andThen_ranked (leaveZone_ranked _ s)
        intro srv
        exact guarded_ranked (le_refl 1) _

theorem closeSession_ranked (srv : Server) (s : Ref) :
    (closeSession srv s).chain.Ranked Mutex.rank 1 := by
  rw [closeSession]
  cases (srv.obj s).tryClose with
  | none => exact trivial
  | some closing => exact andThen_ranked (removeSession_ranked _ _) fun _ => trivial

theorem postWrite_ranked (env : Env) (here : Here) (srv : Server) (s : Ref) (message : String) :
    (postWrite env here srv s message).chain.Ranked Mutex.rank 1 := by
  rw [postWrite]
  split
  · refine andThen_ranked ?_ fun _ => trivial
    split
    · exact closeSession_ranked _ s
    · exact trivial
  · exact trivial

theorem closeAll_ranked (sessions : List Ref) (srv : Server) :
    (closeAll sessions srv).chain.Ranked Mutex.rank 1 := by
  induction sessions generalizing srv with
  | nil => exact trivial
  | cons s rest ih => exact andThen_ranked (closeSession_ranked srv s) ih

theorem eachShard_ranked (srv : Server) : (eachShard srv).chain.Ranked Mutex.rank 1 := by
  show Chain.Ranked Mutex.rank 1 ((List.range srv.manager.shardCount).foldr _ _)
  induction List.range srv.manager.shardCount with
  | nil => exact trivial
  | cons shard rest ih => exact ⟨le_refl 1, trivial, ih⟩

theorem addSession_ranked (srv : Server) (s : Ref) :
    (addSession srv s).chain.Ranked Mutex.rank 1 := by
  rw [addSession]
  apply andThen_ranked
  · exact guarded_ranked (le_refl 1) _
  · intro filed
    cases (srv.manager.findSession (srv.obj s).sessionId).filter fun p =>
        decide ((srv.obj p).generation ≠ (srv.obj s).generation) with
    | none => exact trivial
    | some p => exact closeSession_ranked filed p

theorem forEachSession_ranked (srv : Server) : (forEachSession srv).chain.Ranked Mutex.rank 1 := by
  apply andThen_ranked (eachShard_ranked srv)
  intro srv
  show Chain.Ranked Mutex.rank 1 (srv.manager.sessions.foldr _ _)
  induction srv.manager.sessions with
  | nil => exact trivial
  | cons s rest ih => exact ih

theorem registerNickname_ranked (env : Env) (here : Here) (srv : Server) (nickname : String)
    (s : Ref) : (registerNickname env here srv nickname s).chain.Ranked Mutex.rank 0 := by
  refine ⟨le_refl 0, ?_, trivial⟩
  refine andThen_ranked ?_ fun _ => trivial
  cases srv.manager.findSessionByNickname nickname with
  | none => exact trivial
  | some p =>
      show Chain.Ranked Mutex.rank 1 (Locked.chain (if p ≠ s then _ else _))
      split
      · exact andThen_ranked (postWrite_ranked env here srv p _) fun srv => closeSession_ranked srv p
      · exact trivial

/-- The callbacks of a walk run with nothing locked. -/
theorem forEachSession_calls (srv : Server) :
    ∀ held ∈ (forEachSession srv).chain.calls [], held = [] := by
  have shards : (eachShard srv).chain.calls [] = [] := by
    show Chain.calls [] ((List.range srv.manager.shardCount).foldr _ _) = []
    induction List.range srv.manager.shardCount with
    | nil => rfl
    | cons shard rest ih => exact ih
  rw [forEachSession, andThen, Chain.calls_append, shards, List.nil_append]
  show ∀ held ∈ Chain.calls [] (srv.manager.sessions.foldr _ _), held = []
  induction srv.manager.sessions with
  | nil =>
      intro held member
      cases member
  | cons s rest ih =>
      intro held member
      rcases List.mem_cons.mp member with here | later
      · exact here
      · exact ih held later

end Locking

/-! ## No deadlock with itself -/

namespace Operation

def chain (env : Env) (here : Here) (srv : Server) (op : Operation) : Chain Mutex :=
  (op.run env here srv).chain

/-- Every other operation locks upwards. -/
theorem operation_ranked (env : Env) (here : Here) (srv : Server) {op : Operation}
    (kept : ¬ op.Unregisters) : (op.chain env here srv).Ranked Mutex.rank 0 := by
  cases op with
  | addSession s => exact (Locking.addSession_ranked srv s).mono (Nat.zero_le 1)
  | removeSession sessionId => exact Locking.guarded_ranked (Nat.zero_le _) _
  | findSession sessionId => exact Locking.guarded_ranked (Nat.zero_le _) _
  | findSessionByNickname nickname => exact Locking.guarded_ranked (Nat.zero_le _) _
  | forEachSession => exact (Locking.forEachSession_ranked srv).mono (Nat.zero_le 1)
  | sessionCount => exact (Locking.eachShard_ranked srv).mono (Nat.zero_le 1)
  | registerNickname nickname s => exact Locking.registerNickname_ranked env here srv nickname s
  | unregisterNickname nickname s => exact absurd trivial kept
  | getTotalSessionCount => exact (Locking.eachShard_ranked srv).mono (Nat.zero_le 1)
  | cleanupExpiredNicknames => exact Locking.guarded_ranked (Nat.zero_le _) _
  | cleanupInactiveSessions now maxIdleTime =>
      exact (Locking.andThen_ranked (Locking.eachShard_ranked srv)
        (Locking.closeAll_ranked _)).mono (Nat.zero_le 1)

/-- `unregister_nickname` sweeps the index with the index locked. -/
theorem unregisters_relocks (env : Env) (here : Here) (srv : Server) {op : Operation}
    (unregisters : op.Unregisters) : (op.chain env here srv).Nests .nickname .nickname := by
  cases op with
  | unregisterNickname nickname s =>
      exact ⟨[.nickname], List.Mem.tail _ (List.Mem.head _), List.Mem.head _⟩
  | _ => cases unregisters

/-- A mutex is nested in another by some of the operations, in some state. -/
def Nesting (ops : Set Operation) (m m' : Mutex) : Prop :=
  ∃ op ∈ ops, ∃ env here srv, (op.chain env here srv).Nests m m'

/-- No call waits for a mutex it holds, and there is an order all calls lock in. -/
structure DeadlockFree (ops : Set Operation) : Prop where
  alone : ∀ op ∈ ops, ∀ env here srv, ¬ (op.chain env here srv).Relocks
  ordered : Acyclic (Nesting ops)

/-- A name is given up on an empty server. -/
theorem unregister_deadlocks : ¬ DeadlockFree Set.univ := by
  intro free
  let env : Env := { parse := fun _ => none, dump := fun _ => "" }
  exact free.alone (.unregisterNickname "kim" 0) trivial env none (Server.initial env none)
    ⟨.nickname, unregisters_relocks env none _ trivial⟩

/-- A chain waits for a mutex it holds if the operation is `unregister_nickname`. -/
theorem relocks_iff (env : Env) (here : Here) (srv : Server) (op : Operation) :
    (op.chain env here srv).Relocks ↔ op.Unregisters := by
  constructor
  · rintro ⟨m, nests⟩
    by_contra kept
    exact Nat.lt_irrefl _ ((operation_ranked env here srv kept).nests nests)
  · intro unregisters
    exact ⟨.nickname, unregisters_relocks env here srv unregisters⟩

/-- **The operations are free of deadlocks, without `unregister_nickname`.**  In every state
that one waits for the mutex it holds, and no other operation does; and any operations
that leave it out nest the mutexes in no cycle. -/
theorem deadlockFree_iff (env : Env) (here : Here) (srv : Server) (op : Operation)
    (ops : Set Operation) :
    (¬ (op.chain env here srv).Relocks ↔ ¬ op.Unregisters) ∧
      (DeadlockFree ops ↔ ∀ op ∈ ops, ¬ op.Unregisters) := by
  refine ⟨not_congr (relocks_iff env here srv op), ?_, ?_⟩
  · intro free op member unregisters
    exact free.alone op member env here srv ((relocks_iff env here srv op).mpr unregisters)
  · intro kept
    constructor
    · intro op member env here srv relocks
      exact kept op member ((relocks_iff env here srv op).mp relocks)
    · apply @acyclic_of_rank _ _ Mutex.rank
      rintro m m' ⟨op, member, env, here, srv, nests⟩
      exact (operation_ranked env here srv (kept op member)).nests nests

end Operation

end GameServer.Kernel
