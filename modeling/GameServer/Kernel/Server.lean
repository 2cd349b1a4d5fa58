/-
# Kernel.Server -- the sessions, their manager, the pool, the zones, and closing

The state every handler works on.  Sessions are named by their index in the pool,
which keeps every object alive, so a `weak_ptr<Session>` never expires.  What
has been started and has not completed (reads, timers, writes, work posted to a
strand) is listed; which of it completes next is the run's choice.

Work given to `dispatch` on a session's strand runs at once when the caller is on
that strand (`Here`), and is posted otherwise.

`journal` is a history variable: what the current event did to the identity of
sessions, in order.
-/
import Mathlib.Data.List.AList
import Mathlib.Data.List.Range
import GameServer.Kernel.Session
import GameServer.Dbmw.Router

namespace GameServer.Kernel

set_option autoImplicit false

open Wire Dbmw

/-- Index of a session in `pool_`. -/
abbrev Ref := Nat

/-- The code's parameters that stand outside the repository: the settings, and the
JSON library. -/
structure Env where
  config : Config := {}
  parse : Bytes → Option Json
  /-- Of a text `parse` refuses: `json::parse` throws `out_of_range`, as it does for a
  number too large, and not a `parse_error`. -/
  outOfRange : Bytes → Bool := fun _ => false
  dump : Json → String
  pid : Nat := 0

/-- The use of an object in which a read was started; the code keeps the object
only. -/
structure Origin where
  session : Ref
  strand : Nat
  generation : Nat
deriving DecidableEq, Repr

/-- `LoginFlow`, with the use whose read delivered the login. -/
structure LoginFlow where
  origin : Origin
  nickname : String
deriving DecidableEq, Repr

/-- `sess_`. -/
def LoginFlow.session (flow : LoginFlow) : Ref := flow.origin.session

/-- An outstanding `async_read_some`; `live` says that the socket was open. -/
structure ReadOp where
  origin : Origin
  live : Bool
deriving DecidableEq, Repr

/-- A wait of a login timer. -/
structure LoginTimer where
  session : Ref
  strand : Nat
deriving DecidableEq, Repr

/-- An outstanding `async_write`, with the generation its callback captured. -/
structure WriteOp where
  session : Ref
  strand : Nat
  generation : Nat
  message : String
deriving DecidableEq, Repr

inductive Job where
  /-- The body of `post_write`. -/
  | write (message : String)
  /-- The body of `post_task`. -/
  | task (task : Task)
deriving DecidableEq, Repr

/-- Work posted to a strand of a session. -/
structure Post where
  session : Ref
  strand : Nat
  job : Job
deriving DecidableEq, Repr

/-- The session strand the code runs on, if any. -/
abbrev Here := Option (Ref × Nat)

/-- What an event does to the identity of sessions. -/
inductive Note where
  /-- An accepted connection is given the next object under this id. -/
  | accept (sessionId : Int)
  /-- `close_session` is called. -/
  | close (session : Ref)
  /-- `on_user_info_ok` with code 0: the generation it met, the acquisition the
  object served (`none` when closed) as it was registered, named and zoned, and
  the zone it was left in. -/
  | enroll (flow : LoginFlow) (generation : Nat) (serving : List (Option Nat)) (zoneId : Int)
  /-- `udp_register` is handled, its ack being sent. -/
  | registerUdp (session : Ref) (registration : Registration)
  | clearUdpToken (session : Ref)
deriving DecidableEq, Repr

def Note.isRegistration : Note → Bool
  | .registerUdp _ _ => true
  | _ => false

structure SessionPool where
  size : Nat
  maxSize : Nat
  reusableIndices : List Ref
  availableIndexSet : List Ref := []
deriving DecidableEq, Repr

/-- The shard of an id, which goes through `size_t`. -/
def shardOf (shardCount : Nat) (sessionId : Int) : Nat := (sessionId % 2 ^ 64).toNat % shardCount

/-- The buckets and the nickname index.  An id is in no bucket but its shard's. -/
structure SessionManager where
  shardCount : Nat
  sessionBuckets : Nat → AList (fun _ : Int => Ref) := fun _ => ∅
  nicknameIndex : AList (fun _ : String => Ref) := ∅
  sharded : ∀ shard sessionId, sessionId ∈ sessionBuckets shard →
    shard = shardOf shardCount sessionId := by
      intro shard sessionId member
      exact absurd member (AList.notMem_empty sessionId)

abbrev Zone := AList (fun _ : Int => Ref)

structure BadUdpInfo where
  failCount : Int
  firstFailTime : Time
deriving DecidableEq, Repr

/-- `UdpRateLimiterShard`. -/
structure UdpRateLimiter where
  counts : List Nat
  windowSecs : List Int
deriving DecidableEq, Repr

structure Server where
  obj : Ref → Session
  pool : SessionPool
  manager : SessionManager
  zones : Int → Option Zone
  udpEndpointToSession : AList (fun _ : Endpoint => Ref) := ∅
  udpGlobalLimiter : UdpRateLimiter
  badUdpMap : AList (fun _ : Endpoint => BadUdpInfo) := ∅
  sessionCounter : Int := 0
  dbRouter : Option (DBmwRouter LoginFlow)
  dbConnected : Bool := false
  reads : List ReadOp := []
  /-- Read handlers inside their extraction loop. -/
  handlers : List Origin := []
  loginTimers : List LoginTimer := []
  writes : List WriteOp := []
  posts : List Post := []
  /-- Sessions collected by a sweep and not closed yet. -/
  sweep : List Ref := []
  /-- `udp_broadcast` bodies posted to `udp_send_strand_`. -/
  udpBroadcasts : List (String × String) := []
  journal : List Note := []

/-! ## The manager -/

namespace SessionManager

/-- `get_shard`. -/
def getShard (m : SessionManager) (sessionId : Int) : Nat := shardOf m.shardCount sessionId

/-- `find_session`. -/
def findSession (m : SessionManager) (sessionId : Int) : Option Ref :=
  (m.sessionBuckets (m.getShard sessionId)).lookup sessionId

/-- `bucket[session_id] = session`. -/
def insertSession (m : SessionManager) (sessionId : Int) (s : Ref) : SessionManager :=
  { m with
    sessionBuckets := Function.update m.sessionBuckets (m.getShard sessionId)
      ((m.sessionBuckets (m.getShard sessionId)).insert sessionId s)
    sharded := by
      intro shard id member
      by_cases here : shard = m.getShard sessionId
      · subst here
        rw [Function.update_self, AList.mem_insert] at member
        rcases member with rfl | before
        · rfl
        · exact m.sharded _ id before
      · rw [Function.update_of_ne here] at member
        exact m.sharded shard id member }

/-- `remove_session`, without the session it returns. -/
def eraseSession (m : SessionManager) (sessionId : Int) : SessionManager :=
  { m with
    sessionBuckets := Function.update m.sessionBuckets (m.getShard sessionId)
      ((m.sessionBuckets (m.getShard sessionId)).erase sessionId)
    sharded := by
      intro shard id member
      by_cases here : shard = m.getShard sessionId
      · subst here
        rw [Function.update_self, AList.mem_erase] at member
        exact m.sharded _ id member.2
      · rw [Function.update_of_ne here] at member
        exact m.sharded shard id member }

/-- The snapshot `for_each_session` walks. -/
def sessions (m : SessionManager) : List Ref :=
  (List.range m.shardCount).flatMap fun shard => (m.sessionBuckets shard).entries.map (·.2)

/-- An entry of any bucket is the one `find_session` reads. -/
theorem findSession_of_bucket {m : SessionManager} {shard : Nat} {sessionId : Int} {s : Ref}
    (found : (m.sessionBuckets shard).lookup sessionId = some s) :
    m.findSession sessionId = some s := by
  have member : sessionId ∈ m.sessionBuckets shard :=
    AList.lookup_isSome.mp (by rw [found]; rfl)
  rw [findSession, getShard, ← m.sharded shard sessionId member, found]

/-- `find_session_by_nickname`. -/
def findSessionByNickname (m : SessionManager) (nickname : String) : Option Ref :=
  m.nicknameIndex.lookup nickname

@[simp] theorem getShard_insertSession (m : SessionManager) (k id : Int) (s : Ref) :
    (m.insertSession k s).getShard id = m.getShard id := rfl

@[simp] theorem getShard_eraseSession (m : SessionManager) (k id : Int) :
    (m.eraseSession k).getShard id = m.getShard id := rfl

theorem findSession_insertSession (m : SessionManager) (k id : Int) (s : Ref) :
    (m.insertSession k s).findSession id = if id = k then some s else m.findSession id := by
  unfold findSession
  rw [getShard_insertSession]
  by_cases same : id = k
  · subst same
    simp [insertSession]
  · rw [if_neg same]
    by_cases shard : m.getShard id = m.getShard k
    · simp [insertSession, shard, AList.lookup_insert_ne same]
    · simp [insertSession, Function.update_of_ne shard]

theorem findSession_eraseSession (m : SessionManager) (k id : Int) :
    (m.eraseSession k).findSession id = if id = k then none else m.findSession id := by
  unfold findSession
  rw [getShard_eraseSession]
  by_cases same : id = k
  · subst same
    simp [eraseSession]
  · rw [if_neg same]
    by_cases shard : m.getShard id = m.getShard k
    · simp [eraseSession, shard, AList.lookup_erase_ne same]
    · simp [eraseSession, Function.update_of_ne shard]

end SessionManager

namespace Server

def modify (srv : Server) (s : Ref) (f : Session → Session) : Server :=
  { srv with obj := Function.update srv.obj s (f (srv.obj s)) }

def note (srv : Server) (n : Note) : Server := { srv with journal := srv.journal ++ [n] }

/-- An open session and the acquisition it serves. -/
def serving (srv : Server) (s : Ref) : Option Nat :=
  if (srv.obj s).socketOpen then some (srv.obj s).strand else none

/-! ## Release, removal, close -/

/-- `SessionPool::release`: an index already in the available set is left alone. -/
def release (srv : Server) (s : Ref) : Server :=
  if s < srv.pool.size ∧ s ∉ srv.pool.availableIndexSet then
    { srv.modify s Session.takeBack with
      pool := { srv.pool with
        reusableIndices := srv.pool.reusableIndices ++ [s]
        availableIndexSet := s :: srv.pool.availableIndexSet } }
  else srv

/-- The endpoint map without the session's binding, if it is the session's. -/
def unmapEndpoint (srv : Server) (s : Ref) : Server :=
  match (srv.obj s).udpEndpoint with
  | none => srv
  | some e =>
      if srv.udpEndpointToSession.lookup e = some s then
        { srv with udpEndpointToSession := srv.udpEndpointToSession.erase e }
      else srv

/-- The binding goes if it is the session's. -/
theorem unmapEndpoint_cases (srv : Server) (s : Ref) :
    ((∀ e, (srv.obj s).udpEndpoint = some e → srv.udpEndpointToSession.lookup e ≠ some s) ∧
      srv.unmapEndpoint s = srv) ∨
    ∃ e, (srv.obj s).udpEndpoint = some e ∧ srv.udpEndpointToSession.lookup e = some s ∧
      srv.unmapEndpoint s =
        { srv with udpEndpointToSession := srv.udpEndpointToSession.erase e } := by
  cases bound : (srv.obj s).udpEndpoint with
  | none =>
      left
      exact ⟨fun e same => (by cases same), by simp only [unmapEndpoint, bound]⟩
  | some e =>
      by_cases own : srv.udpEndpointToSession.lookup e = some s
      · right
        exact ⟨e, rfl, own, by simp only [unmapEndpoint, bound, if_pos own]⟩
      · left
        refine ⟨?_, by simp only [unmapEndpoint, bound, if_neg own]⟩
        intro e' same
        cases same
        exact own

/-- Nothing but the table is touched. -/
theorem unmapEndpoint_eq (srv : Server) (s : Ref) :
    ∃ udpEndpointToSession, srv.unmapEndpoint s = { srv with udpEndpointToSession } := by
  rcases srv.unmapEndpoint_cases s with ⟨-, same⟩ | ⟨e, -, -, erased⟩
  · exact ⟨srv.udpEndpointToSession, same⟩
  · exact ⟨_, erased⟩

/-- `ZoneManager::remove_session`, called for a zone id above `-1`. -/
def leaveZone (srv : Server) (s : Ref) : Server :=
  if -1 < (srv.obj s).zoneId then
    match srv.zones (srv.obj s).zoneId with
    | none => srv
    | some zone =>
        { srv with
          zones := Function.update srv.zones (srv.obj s).zoneId
            (some (zone.erase (srv.obj s).sessionId)) }.modify s fun x => { x with zoneId := -1 }
  else srv

/-- A session in a zone that exists is taken off it. -/
theorem leaveZone_cases (srv : Server) (s : Ref) :
    ((-1 < (srv.obj s).zoneId → srv.zones (srv.obj s).zoneId = none) ∧ srv.leaveZone s = srv) ∨
    ∃ zone, -1 < (srv.obj s).zoneId ∧ srv.zones (srv.obj s).zoneId = some zone ∧
      srv.leaveZone s =
        { srv with
          zones := Function.update srv.zones (srv.obj s).zoneId
            (some (zone.erase (srv.obj s).sessionId)) }.modify s
          fun x => { x with zoneId := -1 } := by
  by_cases inZone : -1 < (srv.obj s).zoneId
  · cases found : srv.zones (srv.obj s).zoneId with
    | none =>
        left
        exact ⟨fun _ => rfl, by simp only [leaveZone, if_pos inZone, found]⟩
    | some zone =>
        right
        exact ⟨zone, inZone, rfl, by simp only [leaveZone, if_pos inZone, found]⟩
  · left
    exact ⟨fun placed => absurd placed inZone, by simp only [leaveZone, if_neg inZone]⟩

/-- `DataHandler::remove_session`. -/
def removeSession (srv : Server) (sessionId : Int) : Server :=
  match srv.manager.findSession sessionId with
  | none => srv
  | some s =>
      let srv := { srv with manager := srv.manager.eraseSession sessionId }
      let srv := srv.unmapEndpoint s
      let srv := srv.modify s Session.clearUdpToken
      let srv := srv.leaveZone s
      srv.release s

/-- `Session::close_session`. -/
def closeSession (srv : Server) (s : Ref) : Server :=
  match (srv.obj s).tryClose with
  | none => srv
  | some closing =>
      let srv := srv.modify s fun _ => closing.shutDown
      let srv := srv.removeSession (srv.obj s).sessionId
      srv.modify s Session.cleanup

/-- A `close_session` of a handler, noted. -/
def close (srv : Server) (s : Ref) : Server := (srv.note (.close s)).closeSession s

/-! ## Writing -/

/-- Whether `dispatch` on the session's strand runs at once. -/
def onStrand (srv : Server) (here : Here) (s : Ref) : Bool :=
  here == some (s, (srv.obj s).strand)

/-- `do_write_queue`. -/
def doWriteQueue (srv : Server) (s : Ref) : Server :=
  match (srv.obj s).doWriteQueue with
  | (x, none) => srv.modify s fun _ => x
  | (x, some message) =>
      { srv.modify s fun _ => x with
        writes := srv.writes ++ [⟨s, x.strand, x.generation, message⟩] }

/-- The body of `post_write`. -/
def writeNow (env : Env) (srv : Server) (s : Ref) (message : String) : Server :=
  let idle := (srv.obj s).writeQueue.isEmpty
  let (x, overflow) := (srv.obj s).enqueueWrite env.config message
  let srv := srv.modify s fun _ => x
  let srv := if overflow then srv.close s else srv
  if idle then (srv.modify s fun x => { x with writeInProgress := true }).doWriteQueue s else srv

/-- `post_write`.  Off the strand the body is always posted: `dispatch` may also run it at
once, when the strand is idle. -/
def postWrite (env : Env) (here : Here) (srv : Server) (s : Ref) (message : String) : Server :=
  if srv.onStrand here s then srv.writeNow env s message
  else { srv with posts := srv.posts ++ [⟨s, (srv.obj s).strand, .write message⟩] }

/-- The targets of `broadcast`: registered, named, and not the sender's id. -/
def broadcastTargets (srv : Server) (senderSessionId : Int) : List Ref :=
  srv.manager.sessions.filter fun s =>
    (srv.obj s).sessionId ≠ senderSessionId ∧ (srv.obj s).nickname ≠ ""

/-- `DataHandler::broadcast`. -/
def broadcast (env : Env) (here : Here) (srv : Server) (message : String)
    (senderSessionId : Int) : Server :=
  (srv.broadcastTargets senderSessionId).foldl (fun srv s => srv.postWrite env here s message) srv

/-- `DataHandler::broadcast_zone_tcp`. -/
def broadcastZoneTcp (env : Env) (here : Here) (srv : Server) (message : String) (zoneId : Int)
    (senderSessionId : Int) : Server :=
  ((srv.broadcastTargets senderSessionId).filter fun s => (srv.obj s).zoneId = zoneId).foldl
    (fun srv s => srv.postWrite env here s message) srv

/-! ## Reading -/

/-- A task of the queue, run: `async_read_some`. -/
def runTask (srv : Server) (s : Ref) : Task → Server
  | .readSome =>
      let x := srv.obj s
      { srv with reads := srv.reads ++ [⟨⟨s, x.strand, x.generation⟩, x.socketOpen⟩] }

/-- `run_next_task`. -/
def runNextTask (srv : Server) (s : Ref) : Server :=
  match (srv.obj s).runNextTask with
  | (x, none) => srv.modify s fun _ => x
  | (x, some task) => (srv.modify s fun _ => x).runTask s task

/-- The body of `post_task`. -/
def pushTask (env : Env) (srv : Server) (s : Ref) (task : Task) : Server :=
  if env.config.maxTaskQueue ≤ (srv.obj s).taskQueue.length then srv.close s
  else
    let running := (srv.obj s).taskRunning
    let srv := srv.modify s fun x => { x with taskQueue := x.taskQueue ++ [task], taskRunning := true }
    if running then srv else srv.runNextTask s

/-- `post_task`, off the strand always posted, as in `postWrite`. -/
def postTask (env : Env) (here : Here) (srv : Server) (s : Ref) (task : Task) : Server :=
  if srv.onStrand here s then srv.pushTask env s task
  else { srv with posts := srv.posts ++ [⟨s, (srv.obj s).strand, .task task⟩] }

/-- `do_read`. -/
def doRead (env : Env) (here : Here) (srv : Server) (s : Ref) : Server :=
  if (srv.obj s).state = .closed then srv
  else if (srv.obj s).readPending then srv
  else (srv.modify s fun x => { x with readPending := true }).postTask env here s .readSome

/-- A closed session, or one with a read pending, is not read. -/
theorem doRead_waits {env : Env} {srv : Server} {s : Ref} (here : Here)
    (waits : (srv.obj s).state = .closed ∨ (srv.obj s).readPending = true) :
    srv.doRead env here s = srv := by
  rcases waits with closed | pending
  · rw [doRead, if_pos closed]
  · rw [doRead, if_pos pending, ite_self]

theorem doRead_begins {env : Env} {srv : Server} {s : Ref} (here : Here)
    (live : (srv.obj s).state ≠ .closed) (lowered : ¬ (srv.obj s).readPending = true) :
    srv.doRead env here s =
      (srv.modify s fun x => { x with readPending := true }).postTask env here s .readSome := by
  rw [doRead, if_neg live, if_neg lowered]

/-- What `do_read` does, and when. -/
theorem doRead_cases (env : Env) (here : Here) (srv : Server) (s : Ref) :
    (((srv.obj s).state = .closed ∨ (srv.obj s).readPending = true) ∧
      srv.doRead env here s = srv) ∨
    ((srv.obj s).state ≠ .closed ∧ ¬ (srv.obj s).readPending = true ∧
      srv.doRead env here s =
        (srv.modify s fun x => { x with readPending := true }).postTask env here s .readSome) := by
  by_cases closed : (srv.obj s).state = .closed
  · exact .inl ⟨.inl closed, doRead_waits here (.inl closed)⟩
  · by_cases pending : (srv.obj s).readPending = true
    · exact .inl ⟨.inr pending, doRead_waits here (.inr pending)⟩
    · exact .inr ⟨closed, pending, doRead_begins here closed pending⟩

/-- `start_login_timeout`. -/
def startLoginTimeout (srv : Server) (s : Ref) : Server :=
  if (srv.obj s).state = .closed then srv
  else { srv with loginTimers := srv.loginTimers ++ [⟨s, (srv.obj s).strand⟩] }

/-- `Session::start`. -/
def start (env : Env) (here : Here) (srv : Server) (s : Ref) : Server :=
  (srv.doRead env here s).startLoginTimeout s

/-! ## Registration -/

/-- `SessionManager::add_session`: the entry is replaced first, and the session it
held closed after, if it is of another generation. -/
def addSession (srv : Server) (s : Ref) : Server :=
  let sessionId := (srv.obj s).sessionId
  let previous := srv.manager.findSession sessionId
  let replaced := previous.filter fun p =>
    decide ((srv.obj p).generation ≠ (srv.obj s).generation)
  let srv := { srv with manager := srv.manager.insertSession sessionId s }
  match replaced with
  | some p => if (srv.obj p).isClosed then srv else srv.closeSession p
  | none => srv

def loggedInElsewhere : String :=
  "\x7b\"type\":\"error\",\"msg\":\"다른 곳에서 로그인되어 기존 연결이 종료됩니다.\"\x7d\n"

/-- `SessionManager::register_nickname`. -/
def registerNickname (env : Env) (here : Here) (srv : Server) (nickname : String) (s : Ref) :
    Server :=
  let srv :=
    match srv.manager.findSessionByNickname nickname with
    | some p => if p ≠ s then (srv.postWrite env here p loggedInElsewhere).closeSession p else srv
    | none => srv
  { srv with
    manager := { srv.manager with nicknameIndex := srv.manager.nicknameIndex.insert nickname s } }

/-- `DataHandler::assign_session_to_zone` with `Zone::add_session`. -/
def assignSessionToZone (env : Env) (srv : Server) (s : Ref) (zoneId : Int) : Server :=
  match srv.zones zoneId with
  | none => srv
  | some zone =>
      let sessionId := (srv.obj s).sessionId
      if env.config.zoneMaxSessionsCount ≤ zone.entries.length ∨ sessionId ∈ zone then srv
      else
        { srv with zones := Function.update srv.zones zoneId (some (zone.insert sessionId s)) }.modify
          s fun x => { x with zoneId := zoneId }

/-- No zone, a full one or one that lists the id already is not entered. -/
theorem assignSessionToZone_refuses {env : Env} {srv : Server} {s : Ref} {zoneId : Int}
    (refuses : ∀ zone, srv.zones zoneId = some zone →
      env.config.zoneMaxSessionsCount ≤ zone.entries.length ∨ (srv.obj s).sessionId ∈ zone) :
    srv.assignSessionToZone env s zoneId = srv := by
  cases found : srv.zones zoneId with
  | none => simp only [assignSessionToZone, found]
  | some zone => simp only [assignSessionToZone, found, if_pos (refuses zone found)]

theorem assignSessionToZone_enters {env : Env} {srv : Server} {s : Ref} {zoneId : Int} {zone : Zone}
    (found : srv.zones zoneId = some zone)
    (room : zone.entries.length < env.config.zoneMaxSessionsCount)
    (absent : (srv.obj s).sessionId ∉ zone) :
    srv.assignSessionToZone env s zoneId =
      { srv with
        zones := Function.update srv.zones zoneId
          (some (zone.insert (srv.obj s).sessionId s)) }.modify
        s fun x => { x with zoneId := zoneId } := by
  have takes : ¬ (env.config.zoneMaxSessionsCount ≤ zone.entries.length ∨
      (srv.obj s).sessionId ∈ zone) := not_or.mpr ⟨Nat.not_le.mpr room, absent⟩
  simp only [assignSessionToZone, found, if_neg takes]

/-- What `assign_session_to_zone` does, and when. -/
theorem assignSessionToZone_cases (env : Env) (srv : Server) (s : Ref) (zoneId : Int) :
    ((∀ zone, srv.zones zoneId = some zone →
        env.config.zoneMaxSessionsCount ≤ zone.entries.length ∨ (srv.obj s).sessionId ∈ zone) ∧
      srv.assignSessionToZone env s zoneId = srv) ∨
    ∃ zone, srv.zones zoneId = some zone ∧
      zone.entries.length < env.config.zoneMaxSessionsCount ∧ (srv.obj s).sessionId ∉ zone ∧
      srv.assignSessionToZone env s zoneId =
        { srv with
          zones := Function.update srv.zones zoneId
            (some (zone.insert (srv.obj s).sessionId s)) }.modify
          s fun x => { x with zoneId := zoneId } := by
  by_cases refuses : ∀ zone, srv.zones zoneId = some zone →
      env.config.zoneMaxSessionsCount ≤ zone.entries.length ∨ (srv.obj s).sessionId ∈ zone
  · exact .inl ⟨refuses, assignSessionToZone_refuses refuses⟩
  · push Not at refuses
    obtain ⟨zone, found, room, absent⟩ := refuses
    exact .inr ⟨zone, found, room, absent, assignSessionToZone_enters found room absent⟩

/-! ## Accepting -/

/-- The object `SessionPool::acquire` would hand out, `none` when the pool is full. -/
def nextFree (srv : Server) : Option Ref :=
  match srv.pool.reusableIndices with
  | s :: _ => some s
  | [] => if srv.pool.maxSize ≤ srv.pool.size then none else some srv.pool.size

/-- `SessionPool::acquire`, for the object `nextFree` names. -/
def acquire (srv : Server) (now : Time) (sessionId : Int) (s : Ref) : Server :=
  { srv.modify s (Session.handOut now sessionId) with
    pool := { srv.pool with
      size := max srv.pool.size (s + 1)
      reusableIndices := srv.pool.reusableIndices.tail
      availableIndexSet := srv.pool.availableIndexSet.erase s } }

/-- The sessions `cleanup_unauth_sessions` counts. -/
def unauthSessions (srv : Server) : List Ref :=
  srv.manager.sessions.filter fun s =>
    (srv.obj s).state = .handshaking ∨ (srv.obj s).state = .loginWait

/-- A result `sort` may give: the unauthenticated sessions, oldest first. -/
def SortedUnauth (srv : Server) (order : List Ref) : Prop :=
  order.Perm srv.unauthSessions ∧
    order.Pairwise fun a b => (srv.obj a).lastAliveTime ≤ (srv.obj b).lastAliveTime

instance (srv : Server) (order : List Ref) : Decidable (srv.SortedUnauth order) :=
  inferInstanceAs (Decidable (_ ∧ _))

/-- `cleanup_unauth_sessions`, on the order its sort gave. -/
def cleanupUnauthSessions (srv : Server) (maxUnauth : Nat) (order : List Ref) : Server :=
  (order.take (order.length - maxUnauth)).foldl close srv

/-- The handler of `start_accept` for an accepted connection.  The event is not
ready when `order` is not what its sort could give. -/
def accept (env : Env) (srv : Server) (now : Time) (order : List Ref) : Server :=
  let sessionId := srv.sessionCounter
  let srv' := { srv with sessionCounter := Int.bmod (srv.sessionCounter + 1) (2 ^ 32) }
  match srv'.nextFree with
  | none => srv'
  | some s =>
      let srv' := (srv'.note (.accept sessionId)).acquire now sessionId s
      let srv' := srv'.addSession s
      if srv'.SortedUnauth order then (srv'.cleanupUnauthSessions 100 order).start env none s
      else srv

end Server

end GameServer.Kernel
