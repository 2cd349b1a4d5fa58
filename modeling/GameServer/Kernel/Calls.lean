/-
# Kernel.Calls -- what the server does to the life of its sessions

Out of all handlers, few functions touch what this is about: whether an object is in
use, what it is writing, and which zones list it.  They are the calls; everything
else leaves that part of the server alone (`elsewhere`).  A run of calls interleaves
them in any order, more freely than the handlers do.

* `react_reach` -- every event of the server is a run of calls;
* `after_reach` -- and so is every run of the server;
* `dispatch_reach` -- handling a message hands out no object and leaves all receive
  buffers alone.
-/
import GameServer.Kernel.Simulation

namespace GameServer.Kernel

set_option autoImplicit false

open Wire Dbmw Theory.Runs

/-! ## Calls -/

/-- The life of an object, its state aside. -/
structure Tenure where
  sessionId : Int
  socketOpen : Bool
  strand : Nat
  writeQueue : List String
  writeQueueOverflowCount : Nat
  life : LifeState
  generation : Nat
  zoneId : Int

namespace Session

def tenure (s : Session) : Tenure where
  sessionId := s.sessionId
  socketOpen := s.socketOpen
  strand := s.strand
  writeQueue := s.writeQueue
  writeQueueOverflowCount := s.writeQueueOverflowCount
  life := s.life
  generation := s.generation
  zoneId := s.zoneId

/-- `other`, with the life of `s`. -/
def keeping (s other : Session) : Session :=
  { other with
    sessionId := s.sessionId
    socketOpen := s.socketOpen
    strand := s.strand
    writeQueue := s.writeQueue
    writeQueueOverflowCount := s.writeQueueOverflowCount
    state := if other.state = .closed then s.state else other.state
    life := s.life
    generation := s.generation
    zoneId := s.zoneId }

end Session

/-- The session whose receive buffer the event adds to or takes from. -/
def Event.reads : Event → Option Ref
  | .readDone op (.data _) => some op.origin.session
  | .handlerStep _ origin _ => some origin.session
  | _ => none

inductive Call where
  /-- `SessionPool::acquire`. -/
  | acquire (now : Time) (sessionId : Int)
  | closeSession (session : Ref)
  /-- The body of `post_write`. -/
  | write (session : Ref) (message : String)
  /-- The handler of `async_write`. -/
  | writeDone (op : WriteOp) (failed : Bool)
  | assignSessionToZone (session : Ref) (zoneId : Int)
  /-- `ZoneManager::remove_session`. -/
  | leaveZone (session : Ref)
  /-- Anything else, after which all but the life of the sessions is as in `other`. -/
  | elsewhere (other : Server)

namespace Server

/-- `other`, with the life of the sessions, the pool, the zones and the writes of
`srv`. -/
def elsewhere (srv other : Server) : Server :=
  { other with
    obj := fun s => (srv.obj s).keeping (other.obj s)
    pool := srv.pool
    zones := srv.zones
    writes := srv.writes }

def call (env : Env) (srv : Server) : Call → Server
  | .acquire now sessionId =>
      match srv.nextFree with
      | none => srv
      | some s => srv.acquire now sessionId s
  | .closeSession s => srv.closeSession s
  | .write s message => srv.writeNow env s message
  | .writeDone op failed => if op ∈ srv.writes then srv.writeDone op failed else srv
  | .assignSessionToZone s zoneId => srv.assignSessionToZone env s zoneId
  | .leaveZone s => srv.leaveZone s
  | .elsewhere other => srv.elsewhere other

/-- The calls of a run: any, or none that hands out an object, or none that changes a
receive buffer. -/
def Calls (acquires buffers : Bool) (srv : Server) : Call → Prop
  | .acquire _ _ => acquires = true
  | .elsewhere other => buffers = true ∨ ∀ s, (other.obj s).msgBuf = (srv.obj s).msgBuf
  | _ => True

/-- Some run of calls leads from one server to the other. -/
abbrev Reaches (env : Env) (acquires buffers : Bool) : Server → Server → Prop :=
  Reach (call env) (Calls acquires buffers)

/-! ## Elsewhere -/

/-- What is not the life of the object may have changed, and its state to any but
closed. -/
structure Kept (x y : Session) : Prop where
  tenure : y.tenure = x.tenure
  state : y.state = x.state ∨ y.state ≠ .closed

theorem Kept.refl (x : Session) : Kept x x := ⟨rfl, .inl rfl⟩

theorem Kept.keeping {x y : Session} (kept : Kept x y) : x.keeping y = y := by
  obtain ⟨tenure, state⟩ := kept
  simp only [Session.tenure, Tenure.mk.injEq] at tenure
  obtain ⟨sessionId, socketOpen, strand, queue, count, life, generation, zoneId⟩ := tenure
  have same : (if y.state = .closed then x.state else y.state) = y.state := by
    rcases state with same | live
    · rw [same, ite_self]
    · rw [if_neg live]
  rw [Session.keeping, same, ← sessionId, ← socketOpen, ← strand, ← queue, ← count, ← life,
    ← generation, ← zoneId]

/-- The life of the sessions, the pool, the zones and the writes are as they were. -/
structure Untouched (srv srv' : Server) : Prop where
  obj : ∀ s, Kept (srv.obj s) (srv'.obj s)
  pool : srv'.pool = srv.pool
  zones : srv'.zones = srv.zones
  writes : srv'.writes = srv.writes

theorem Untouched.elsewhere {srv srv' : Server} (untouched : Untouched srv srv') :
    srv.elsewhere srv' = srv' := by
  have objs : (fun s => (srv.obj s).keeping (srv'.obj s)) = srv'.obj :=
    funext fun s => (untouched.obj s).keeping
  rw [Server.elsewhere, objs, ← untouched.pool, ← untouched.zones, ← untouched.writes]

variable {env : Env} {acquires buffers : Bool}

/-- The receive buffers may change too. -/
theorem reach_untouched {srv srv' : Server} (untouched : Untouched srv srv') :
    Reaches env acquires true srv srv' := by
  have one : Reaches env acquires true srv (srv.call env (.elsewhere srv')) :=
    .one (Call.elsewhere srv') (.inl rfl)
  rwa [call, untouched.elsewhere] at one

theorem reach_quiet {srv srv' : Server} (untouched : Untouched srv srv')
    (same : ∀ s, (srv'.obj s).msgBuf = (srv.obj s).msgBuf) :
    Reaches env acquires buffers srv srv' := by
  have one : Reaches env acquires buffers srv (srv.call env (.elsewhere srv')) :=
    .one (Call.elsewhere srv') (.inr same)
  rwa [call, untouched.elsewhere] at one

/-- The objects are as they were, and so is what is listed of them. -/
theorem reach_same {srv srv' : Server} (obj : srv'.obj = srv.obj) (pool : srv'.pool = srv.pool)
    (zones : srv'.zones = srv.zones) (writes : srv'.writes = srv.writes) :
    Reaches env acquires buffers srv srv' := by
  refine reach_quiet ⟨fun s => ?_, pool, zones, writes⟩ fun s => ?_
  · rw [obj]
    exact .refl _
  · rw [obj]

theorem modify_untouched (srv : Server) (s : Ref) (f : Session → Session)
    (keeps : Kept (srv.obj s) (f (srv.obj s))) : Untouched srv (srv.modify s f) :=
  ⟨modify_each (fun _ => Kept) (fun _ => .refl) keeps, rfl, rfl, rfl⟩

theorem reach_modify (srv : Server) (s : Ref) (f : Session → Session)
    (keeps : Kept (srv.obj s) (f (srv.obj s)))
    (buffer : (f (srv.obj s)).msgBuf = (srv.obj s).msgBuf) :
    Reaches env acquires buffers srv (srv.modify s f) := by
  refine reach_quiet (modify_untouched srv s f keeps) ?_
  exact modify_each (fun _ x y => y.msgBuf = x.msgBuf) (fun _ _ => rfl) buffer

/-! ## Writing, reading -/

theorem closeSession_reach (srv : Server) (s : Ref) :
    Reaches env acquires buffers srv (srv.closeSession s) :=
  .one (Call.closeSession s) trivial

theorem close_reach (srv : Server) (s : Ref) : Reaches env acquires buffers srv (srv.close s) := by
  have noted : Reaches env acquires buffers srv (srv.note (.close s)) := reach_same rfl rfl rfl rfl
  exact noted.trans (closeSession_reach _ s)

theorem postWrite_reach (here : Here) (srv : Server) (s : Ref) (message : String) :
    Reaches env acquires buffers srv (srv.postWrite env here s message) := by
  simp only [postWrite]
  split
  · exact .one (Call.write s message) trivial
  · exact reach_same rfl rfl rfl rfl

theorem broadcast_reach (here : Here) (srv : Server) (message : String) (senderId : Int) :
    Reaches env acquires buffers srv (srv.broadcast env here message senderId) :=
  .foldl (fun srv s => postWrite_reach here srv s message) _ srv

theorem broadcastZoneTcp_reach (here : Here) (srv : Server) (message : String)
    (zoneId senderId : Int) :
    Reaches env acquires buffers srv (srv.broadcastZoneTcp env here message zoneId senderId) :=
  .foldl (fun srv s => postWrite_reach here srv s message) _ srv

theorem postLine_reach (here : Here) (srv : Server) (s : Ref) (out : Json) :
    Reaches env acquires buffers srv (srv.postLine env here s out) := postWrite_reach here srv s _

theorem runTask_reach (srv : Server) (s : Ref) (task : Task) :
    Reaches env acquires buffers srv (srv.runTask s task) := by
  cases task with
  | readSome => exact reach_same rfl rfl rfl rfl

theorem runNextTask_reach (srv : Server) (s : Ref) :
    Reaches env acquires buffers srv (srv.runNextTask s) := by
  simp only [runNextTask, Session.runNextTask]
  cases (srv.obj s).taskQueue with
  | nil => exact reach_modify srv s _ ⟨rfl, .inl rfl⟩ rfl
  | cons task rest =>
      refine .trans ?_ (runTask_reach _ s task)
      exact reach_modify srv s _ ⟨rfl, .inl rfl⟩ rfl

theorem pushTask_reach (srv : Server) (s : Ref) (task : Task) :
    Reaches env acquires buffers srv (srv.pushTask env s task) := by
  simp only [pushTask]
  split
  · exact close_reach srv s
  · have pushed : Reaches env acquires buffers srv (srv.modify s fun x =>
        { x with taskQueue := x.taskQueue ++ [task], taskRunning := true }) :=
      reach_modify srv s _ ⟨rfl, .inl rfl⟩ rfl
    split
    · exact pushed
    · exact pushed.trans (runNextTask_reach _ s)

theorem postTask_reach (here : Here) (srv : Server) (s : Ref) (task : Task) :
    Reaches env acquires buffers srv (srv.postTask env here s task) := by
  simp only [postTask]
  split
  · exact pushTask_reach srv s task
  · exact reach_same rfl rfl rfl rfl

theorem doRead_reach (here : Here) (srv : Server) (s : Ref) :
    Reaches env acquires buffers srv (srv.doRead env here s) := by
  rcases doRead_cases env here srv s with ⟨-, same⟩ | ⟨-, -, begins⟩
  · rw [same]
    exact .refl srv
  · have pending : Reaches env acquires buffers srv
        (srv.modify s fun x => { x with readPending := true }) :=
      reach_modify srv s _ ⟨rfl, .inl rfl⟩ rfl
    rw [begins]
    exact pending.trans (postTask_reach here _ s _)

theorem startLoginTimeout_reach (srv : Server) (s : Ref) :
    Reaches env acquires buffers srv (srv.startLoginTimeout s) := by
  simp only [startLoginTimeout]
  split
  · exact .refl srv
  · exact reach_same rfl rfl rfl rfl

theorem start_reach (here : Here) (srv : Server) (s : Ref) :
    Reaches env acquires buffers srv (srv.start env here s) :=
  (doRead_reach here srv s).trans (startLoginTimeout_reach _ s)

/-! ## Registration -/

theorem addSession_reach (srv : Server) (s : Ref) :
    Reaches env acquires buffers srv (srv.addSession s) := by
  have filed : Reaches env acquires buffers srv
      { srv with manager := srv.manager.insertSession (srv.obj s).sessionId s } :=
    reach_same rfl rfl rfl rfl
  simp only [addSession]
  split
  · split
    · exact filed
    · exact filed.trans (closeSession_reach _ _)
  · exact filed

theorem evict_reach (here : Here) (srv : Server) (nickname message : String) (s : Ref) :
    Reaches env acquires buffers srv (srv.evict env here nickname message s) := by
  simp only [evict]
  split
  · split
    · exact (postWrite_reach here srv _ _).trans (closeSession_reach _ _)
    · exact .refl srv
  · exact .refl srv

theorem registerNickname_reach (here : Here) (srv : Server) (nickname : String) (s : Ref) :
    Reaches env acquires buffers srv (srv.registerNickname env here nickname s) :=
  (evict_reach here srv nickname loggedInElsewhere s).trans (reach_same rfl rfl rfl rfl)

/-! ## Handlers -/

theorem assignSessionToZone_reach (srv : Server) (s : Ref) (zoneId : Int) :
    Reaches env acquires buffers srv (srv.assignSessionToZone env s zoneId) :=
  .one (Call.assignSessionToZone s zoneId) trivial

theorem seat_reach (here : Here) (srv : Server) (flow : LoginFlow) :
    Reaches env acquires buffers srv (srv.seat env here flow) := by
  have named (srv : Server) : Reaches env acquires buffers srv
      (srv.modify flow.session fun x => { x with nickname := flow.nickname }) :=
    reach_modify srv _ _ ⟨rfl, .inl rfl⟩ rfl
  have ready (srv : Server) : Reaches env acquires buffers srv
      (srv.modify flow.session Session.onNicknameRegistered) :=
    reach_modify srv _ _ ⟨rfl, .inr nofun⟩ rfl
  refine (registerNickname_reach here srv flow.nickname flow.session).trans ?_
  exact (named _).trans ((ready _).trans (assignSessionToZone_reach _ _ _))

theorem enroll_reach (here : Here) (srv : Server) (flow : LoginFlow) :
    Reaches env acquires buffers srv (srv.enroll env here flow) := by
  rw [enroll_eq]
  refine (addSession_reach srv flow.session).trans ?_
  refine (evict_reach here _ flow.nickname duplicateLoginBan flow.session).trans ?_
  exact (seat_reach here _ flow).trans (reach_same rfl rfl rfl rfl)

theorem onUserInfoOk_reach (here : Here) (srv : Server) (flow : LoginFlow) (j : Json) :
    Reaches env acquires buffers srv (srv.onUserInfoOk env here flow j) := by
  simp only [onUserInfoOk]
  split
  · exact .refl srv
  · split
    · exact postLine_reach here srv _ _
    · refine (enroll_reach here srv flow).trans ?_
      exact (broadcast_reach here _ _ _).trans (postLine_reach here _ _ _)

theorem onUserInfoFail_reach (here : Here) (srv : Server) (flow : LoginFlow) (j : Json) :
    Reaches env acquires buffers srv (srv.onUserInfoFail env here flow j) := by
  simp only [onUserInfoFail]
  split
  · exact .refl srv
  · exact postLine_reach here srv _ _

theorem runEffects_reach (srv : Server) (effects : List (Effect LoginFlow)) :
    Reaches env acquires buffers srv (srv.runEffects env effects) := by
  refine .foldl (fun srv effect => ?_) effects srv
  simp only [runEffect]
  split
  · exact onUserInfoOk_reach none srv _ _
  · exact onUserInfoFail_reach none srv _ _
  · exact onUserInfoFail_reach none srv _ _
  · exact .refl srv

theorem requestUserInfo_reach (here : Here) (srv : Server) (flow : LoginFlow)
    (senderThrows : Bool) :
    Reaches env acquires buffers srv (srv.requestUserInfo env here flow senderThrows) := by
  simp only [requestUserInfo]
  split
  · exact onUserInfoOk_reach here srv flow _
  · split
    · refine .trans ?_ (runEffects_reach _ _)
      exact reach_same rfl rfl rfl rfl
    · exact onUserInfoOk_reach here srv flow _

theorem banDuplicate_reach (here : Here) (srv : Server) (nickname : String) (s : Ref) :
    Reaches env acquires buffers srv (srv.banDuplicate env here nickname s) := by
  simp only [banDuplicate]
  split
  · split
    · exact (postWrite_reach here srv _ _).trans (close_reach _ _)
    · exact .refl srv
  · exact .refl srv

theorem loginHandler_reach (here : Here) {srv srv' : Server} (origin : Origin) (msg : Json)
    (senderThrows : Bool) (handled : srv.loginHandler env here origin msg senderThrows = .ok srv') :
    Reaches env acquires buffers srv srv' := by
  simp only [loginHandler] at handled
  split at handled
  · cases handled
  · cases handled
    split
    · exact postWrite_reach here srv _ _
    · split
      · exact (postWrite_reach here srv _ _).trans (close_reach _ _)
      · exact (banDuplicate_reach here srv _ _).trans (requestUserInfo_reach here _ _ _)

theorem logoutHandler_reach (here : Here) (srv : Server) (s : Ref) :
    Reaches env acquires buffers srv (srv.logoutHandler env here s) := by
  simp only [logoutHandler]
  split
  · exact (postWrite_reach here srv _ _).trans (close_reach _ _)
  · exact (broadcast_reach here srv _ _).trans (close_reach _ _)

theorem chatHandler_reach (here : Here) {srv srv' : Server} (s : Ref) (msg : Json)
    (handled : srv.chatHandler env here s msg = .ok srv') :
    Reaches env acquires buffers srv srv' := by
  simp only [chatHandler] at handled
  split at handled
  · cases handled
  · cases handled
    exact (broadcast_reach here srv _ _).trans (postLine_reach here _ _ _)

theorem chatZoneHandler_reach (here : Here) {srv srv' : Server} (s : Ref) (msg : Json)
    (handled : srv.chatZoneHandler env here s msg = .ok srv') :
    Reaches env acquires buffers srv srv' := by
  simp only [chatZoneHandler] at handled
  split at handled
  · cases handled
    exact postLine_reach here srv _ _
  · split at handled
    · cases handled
    · split at handled
      · cases handled
        exact postLine_reach here srv _ _
      · cases handled
        exact (broadcastZoneTcp_reach here srv _ _ _).trans (postLine_reach here _ _ _)

theorem handleMessage_reach (here : Here) {srv srv' : Server} (now : Time) (origin : Origin)
    (type : String) (msg : Json) (senderThrows : Bool)
    (handled : srv.handleMessage env here now origin type msg senderThrows = some (.ok srv')) :
    Reaches env acquires buffers srv srv' := by
  simp only [handleMessage] at handled
  split at handled
  · exact loginHandler_reach here origin msg senderThrows (Option.some.inj handled)
  · split at handled
    · cases handled
      exact logoutHandler_reach here srv _
    · split at handled
      · exact chatHandler_reach here _ msg (Option.some.inj handled)
      · split at handled
        · exact chatZoneHandler_reach here _ msg (Option.some.inj handled)
        · split at handled
          · cases handled
            exact reach_modify srv _ _ ⟨rfl, .inl rfl⟩ rfl
          · cases handled

/-- **Handling a message** is a run of gentle calls. -/
theorem dispatch_reach (here : Here) (srv : Server) (now : Time) (origin : Origin) (msg : Json)
    (senderThrows : Bool) :
    Reaches env acquires buffers srv (srv.dispatch env here now origin msg senderThrows) := by
  simp only [dispatch]
  split
  · exact close_reach srv _
  · split
    · exact postWrite_reach here srv _ _
    · split
      · rename_i handled
        exact handleMessage_reach here now origin _ msg senderThrows handled
      · exact postWrite_reach here srv _ _
      · exact close_reach srv _
      · exact (postWrite_reach here srv _ _).trans (close_reach _ _)

/-! ## The read handler, timers and sweeps -/

theorem announceLeft_reach (here : Here) (srv : Server) (s : Ref) :
    Reaches env acquires buffers srv (srv.announceLeft env here s) := broadcast_reach here srv _ _

/-- A change of the receive buffer. -/
theorem reach_buffer (srv : Server) (s : Ref) (f : MessageBufferManager → MessageBufferManager) :
    Reaches env acquires true srv (srv.modify s fun x => { x with msgBuf := f x.msgBuf }) :=
  reach_untouched (modify_untouched srv s _ ⟨rfl, .inl rfl⟩)

theorem readDone_reach (srv : Server) (op : ReadOp) (result : ReadResult)
    (received : ∀ bytes, result = .data bytes → buffers = true) :
    Reaches env acquires buffers srv (srv.readDone env op result) := by
  have taken : Reaches env acquires buffers srv { srv with reads := srv.reads.erase op } :=
    reach_same rfl rfl rfl rfl
  have landed (srv : Server) : Reaches env acquires buffers srv
      (srv.modify op.origin.session fun x => { x with readPending := false }) :=
    reach_modify srv _ _ ⟨rfl, .inl rfl⟩ rfl
  have gone (srv : Server) : Reaches env acquires buffers srv
      (((srv.announceLeft env (some (op.origin.session, op.origin.strand))
        op.origin.session).close op.origin.session).runNextTask op.origin.session) :=
    (announceLeft_reach _ srv _).trans ((close_reach _ _).trans (runNextTask_reach _ _))
  simp only [readDone]
  refine taken.trans ((landed _).trans ?_)
  cases result with
  | data bytes =>
      obtain rfl := received bytes rfl
      exact .trans (reach_buffer _ _ fun m => m.append bytes) (reach_same rfl rfl rfl rfl)
  | eof => exact gone _
  | connectionReset =>
      dsimp only
      split
      · exact (close_reach _ _).trans (runNextTask_reach _ _)
      · exact gone _
  | aborted => exact runNextTask_reach _ _
  | error => exact (close_reach _ _).trans (runNextTask_reach _ _)

/-- A turn of the loop, once the buffer is what the extraction leaves. -/
theorem handlerStep_extracted {srv : Server} {origin : Origin} {front : Option Bytes}
    {m : MessageBufferManager}
    (extracted : (srv.obj origin.session).msgBuf.extractMessage = (front, m)) (now : Time)
    (senderThrows : Bool) :
    Reaches env acquires buffers (srv.modify origin.session fun x => { x with msgBuf := m })
      (srv.handlerStep env now origin senderThrows) := by
  have left (srv : Server) : Reaches env acquires buffers srv
      { srv with handlers := srv.handlers.erase origin } := reach_same rfl rfl rfl rfl
  rcases handlerStep_cases env srv now origin senderThrows with
    ⟨msg, m', found, turn⟩ | ⟨m', found, turn⟩
  · obtain ⟨rfl, rfl⟩ := Prod.mk.inj (extracted.symm.trans found)
    rcases turn with ⟨-, -, done⟩ | ⟨-, -, done⟩ | ⟨j, -, done⟩
    · rw [done]
      exact (left _).trans (close_reach _ _)
    · rw [done]
      exact postLine_reach _ _ _ _
    · rw [done]
      exact dispatch_reach _ _ now origin j senderThrows
  · obtain ⟨rfl, rfl⟩ := Prod.mk.inj (extracted.symm.trans found)
    refine (left _).trans ?_
    rcases turn with ⟨-, done⟩ | ⟨-, done⟩
    · rw [done]
      exact close_reach _ _
    · rw [done]
      exact (doRead_reach _ _ _).trans (runNextTask_reach _ _)

theorem handlerStep_reach (srv : Server) (now : Time) (origin : Origin) (senderThrows : Bool) :
    Reaches env acquires true srv (srv.handlerStep env now origin senderThrows) :=
  .trans (reach_buffer srv origin.session fun _ => _) (handlerStep_extracted rfl now senderThrows)

theorem loginTimerFired_reach (srv : Server) (timer : LoginTimer) :
    Reaches env acquires buffers srv (srv.loginTimerFired env timer) := by
  have taken : Reaches env acquires buffers srv
      { srv with loginTimers := srv.loginTimers.erase timer } :=
    reach_same rfl rfl rfl rfl
  simp only [loginTimerFired]
  split
  · exact taken
  · exact taken.trans ((postWrite_reach _ _ _ _).trans (close_reach _ _))

theorem runPost_reach (srv : Server) (post : Post) :
    Reaches env acquires buffers srv (srv.runPost env post) := by
  have taken : Reaches env acquires buffers srv { srv with posts := srv.posts.erase post } :=
    reach_same rfl rfl rfl rfl
  simp only [runPost]
  split
  · exact taken.trans (.one (Call.write _ _) trivial)
  · exact taken.trans (pushTask_reach _ _ _)

/-! ## Accepting -/

theorem acquire_reach {srv : Server} {s : Ref} (next : srv.nextFree = some s) (now : Time)
    (sessionId : Int) : Reaches env true buffers srv (srv.acquire now sessionId s) := by
  have one : Reaches env true buffers srv (srv.call env (.acquire now sessionId)) :=
    .one (Call.acquire now sessionId) rfl
  simpa only [call, next] using one

/-- The object of an accepted connection, filed. -/
def accepted (srv : Server) (now : Time) (s : Ref) : Server :=
  ((({ srv with sessionCounter := Int.bmod (srv.sessionCounter + 1) (2 ^ 32) } : Server).note
    (.accept srv.sessionCounter)).acquire now srv.sessionCounter s).addSession s

/-- The accepted connection is given an object. -/
def Admits (srv : Server) (now : Time) (order : List Ref) : Prop :=
  ∃ s ∈ srv.nextFree, (srv.accepted now s).SortedUnauth order

theorem accept_admitted {srv : Server} {now : Time} {order : List Ref} {s : Ref}
    (next : srv.nextFree = some s) (sorted : (srv.accepted now s).SortedUnauth order) :
    srv.accept env now order =
      ((srv.accepted now s).cleanupUnauthSessions 100 order).start env none s := by
  have next : ({ srv with sessionCounter := Int.bmod (srv.sessionCounter + 1) (2 ^ 32) } :
      Server).nextFree = some s := next
  simp only [accept, next]
  exact if_pos sorted

theorem accepted_reach {srv : Server} {s : Ref} (next : srv.nextFree = some s) (now : Time) :
    Reaches env true buffers srv (srv.accepted now s) := by
  let counted : Server := { srv with sessionCounter := Int.bmod (srv.sessionCounter + 1) (2 ^ 32) }
  have counting : Reaches env true buffers srv counted := reach_same rfl rfl rfl rfl
  have noting : Reaches env true buffers counted (counted.note (.accept srv.sessionCounter)) :=
    reach_same rfl rfl rfl rfl
  have taking := @acquire_reach env buffers (counted.note (.accept srv.sessionCounter)) s next now
    srv.sessionCounter
  exact counting.trans (noting.trans (taking.trans (addSession_reach _ s)))

theorem accept_reach (srv : Server) (now : Time) (order : List Ref)
    (admits : srv.Admits now order → acquires = true) :
    Reaches env acquires buffers srv (srv.accept env now order) := by
  have sweeping (srv : Server) : Reaches env acquires buffers srv
      (srv.cleanupUnauthSessions 100 order) := .foldl (fun srv s => close_reach srv s) _ srv
  simp only [accept]
  split
  · exact reach_same rfl rfl rfl rfl
  · rename_i s next
    split
    · rename_i sorted
      obtain rfl := admits ⟨s, next, sorted⟩
      have accepting := @accepted_reach env buffers srv s next now
      exact accepting.trans ((sweeping _).trans (start_reach none _ s))
    · exact .refl srv

/-! ## Datagrams -/

theorem checkUdpRateLimit_reach (srv : Server) (now : Time) (s : Ref) :
    Reaches env acquires buffers srv (srv.checkUdpRateLimit now s).1 := by
  have kept (x : Session) : Kept x (x.checkUdpRateLimit now).1 ∧
      (x.checkUdpRateLimit now).1.msgBuf = x.msgBuf := by
    simp only [Session.checkUdpRateLimit]
    split <;> split <;> exact ⟨⟨rfl, .inl rfl⟩, rfl⟩
  exact reach_modify srv s (fun _ => ((srv.obj s).checkUdpRateLimit now).1) (kept _).1 (kept _).2

theorem rebind_reach (srv : Server) (s : Ref) (sender : Endpoint) :
    Reaches env acquires buffers srv (srv.rebind s sender) := by
  have unmapped : Reaches env acquires buffers srv (srv.unmapEndpoint s) := by
    obtain ⟨table, same⟩ := srv.unmapEndpoint_eq s
    rw [same]
    exact reach_same rfl rfl rfl rfl
  have mapped (srv : Server) : Reaches env acquires buffers srv
      { srv with udpEndpointToSession := srv.udpEndpointToSession.insert sender s } :=
    reach_same rfl rfl rfl rfl
  simp only [rebind]
  split
  · exact .refl srv
  · exact unmapped.trans ((mapped _).trans (reach_modify _ s _ ⟨rfl, .inl rfl⟩ rfl))

theorem udpRegisterHandler_reach (srv : Server) (r : Reception) (s : Ref) (msg : Json)
    (sender : Endpoint) :
    Reaches env acquires buffers srv (srv.udpRegisterHandler env r s msg sender).1 := by
  have field (f : Session → Session) (keeps : ∀ x, Kept x (f x))
      (buffer : ∀ x, (f x).msgBuf = x.msgBuf) (srv : Server) :
      Reaches env acquires buffers srv (srv.modify s f) :=
    reach_modify srv s f (keeps _) (buffer _)
  have noted (srv : Server) (n : Note) : Reaches env acquires buffers srv (srv.note n) :=
    reach_same rfl rfl rfl rfl
  have endpoint := field (Session.setUdpEndpoint sender) (fun _ => ⟨rfl, .inl rfl⟩) fun _ => rfl
  have alive := field (Session.updateUdpAliveTime r.now) (fun _ => ⟨rfl, .inl rfl⟩) fun _ => rfl
  have ttl := field (Session.setUdpTokenTtl env.config.udpTokenTtlSeconds)
    (fun _ => ⟨rfl, .inl rfl⟩) fun _ => rfl
  have token := field (Session.setUdpToken env.config r.now r.token) (fun _ => ⟨rfl, .inl rfl⟩)
    fun _ => rfl
  simp only [udpRegisterHandler]
  refine (endpoint _).trans ((alive _).trans ((ttl _).trans ((token _).trans ?_)))
  split
  · exact .refl _
  · refine .trans ?_ (noted _ _)
    exact field (fun x => { x with registration := some ⟨sender, r.token, r.now⟩ })
      (fun _ => ⟨rfl, .inl rfl⟩) (fun _ => rfl) _

theorem dispatchUdpParsed_reach (srv : Server) (r : Reception) (s : Ref) (type : String)
    (msg : Json)
    (sender : Endpoint) :
    Reaches env acquires buffers srv (srv.dispatchUdpParsed env r s type msg sender).1 := by
  by_cases register : type = "udp_register"
  · subst register
    rw [dispatchUdpParsed_register]
    exact udpRegisterHandler_reach srv r s msg sender
  · rw [dispatchUdpParsed_server register]
    exact reach_same rfl rfl rfl rfl

theorem receiveFor_reach (srv : Server) (r : Reception) (s : Ref) (type token : String) (msg : Json)
    (sender : Endpoint) :
    Reaches env acquires buffers srv (srv.receiveFor env r s type token msg sender).1 := by
  have field (srv : Server) (f : Session → Session) (keeps : ∀ x, Kept x (f x))
      (buffer : ∀ x, (f x).msgBuf = x.msgBuf) : Reaches env acquires buffers srv (srv.modify s f) :=
    reach_modify srv s f (keeps _) (buffer _)
  simp only [receiveFor]
  split
  · dsimp only
    split
    · refine .trans (field srv Session.clearUdpToken (fun _ => ⟨rfl, .inl rfl⟩) fun _ => rfl) ?_
      exact reach_same rfl rfl rfl rfl
    · exact .refl srv
  · have asked : Reaches env acquires buffers srv (srv.checkUdpRateLimit r.now s).1 :=
      checkUdpRateLimit_reach srv r.now s
    rcases checked : srv.checkUdpRateLimit r.now s with ⟨srv', admitted⟩
    rw [checked] at asked
    dsimp only at asked ⊢
    split
    · refine asked.trans (.trans ?_ (.trans (field _ (Session.updateUdpAliveTime r.now)
        (fun _ => ⟨rfl, .inl rfl⟩) fun _ => rfl) (dispatchUdpParsed_reach _ r s type msg sender)))
      split
      · exact rebind_reach _ s sender
      · exact .refl _
    · exact asked

theorem onUdpReceive_reach (srv : Server) (r : Reception) (msg : Bytes) (sender : Endpoint) :
    Reaches env acquires buffers srv (srv.onUdpReceive env r msg sender).1 := by
  have counted : Reaches env acquires buffers srv (srv.counted env r) := reach_same rfl rfl rfl rfl
  rcases onUdpReceive_cases env srv r msg sender with
    ⟨j, s, nickname, type, token, -, -, given⟩ | ⟨sent, -, -, given⟩
  · rw [given]
    exact counted.trans (receiveFor_reach _ r _ _ _ _ sender)
  · rw [given]
    exact counted

theorem udpReceive_reach (srv : Server) (r : Reception) (msg : Bytes) (sender : Endpoint) :
    Reaches env acquires buffers srv (srv.udpReceive env r msg sender).1 := by
  have asked : Reaches env acquires buffers srv (srv.askedFor r.now sender).1 :=
    askedFor_keeps _ (.refl srv) (checkUdpRateLimit_reach srv r.now)
  rcases udpReceive_cases env srv r msg sender with
    ⟨-, given⟩ | ⟨-, given⟩ | ⟨-, given⟩ | ⟨-, -, -, given⟩
  · rw [given]
    exact .refl srv
  · rw [given]
    exact reach_same rfl rfl rfl rfl
  · rw [given]
    exact asked
  · rw [given]
    exact asked.trans (onUdpReceive_reach _ r msg sender)

/-- No session is ever closed, so the walk finds nothing to clear. -/
theorem expireStaleUdpEndpoints_reach (srv : Server) :
    Reaches env acquires buffers srv srv.expireStaleUdpEndpoints :=
  .foldl (fun srv _ => .refl srv) _ srv

theorem runUdpBroadcast_reach (srv : Server) (post : String × String) :
    Reaches env acquires buffers srv (srv.runUdpBroadcast env post).1 := by
  simp only [runUdpBroadcast]
  split
  · exact reach_same rfl rfl rfl rfl
  · exact reach_same rfl rfl rfl rfl
  · exact reach_same rfl rfl rfl rfl

/-! ## Events and runs -/

/-- The event gives a connection an object. -/
def Hands (srv : Server) : Event → Prop
  | .accept now order => ({ srv with journal := [] } : Server).Admits now order
  | _ => False

/-- **Every event is a run of calls.** -/
theorem react_reach (srv : Server) (e : Event)
    (hands : ∀ now order, e = .accept now order → srv.Admits now order → acquires = true)
    (reads : ∀ s, e.reads = some s → buffers = true) :
    Reaches env acquires buffers srv (srv.react env e) := by
  have routed (router : DBmwRouter LoginFlow) (effects : List (Effect LoginFlow)) :
      Reaches env acquires buffers srv
        ({ srv with dbRouter := some router }.runEffects env effects) := by
    have stored : Reaches env acquires buffers srv { srv with dbRouter := some router } :=
      reach_same rfl rfl rfl rfl
    exact stored.trans (runEffects_reach _ effects)
  cases e with
  | accept now order => exact accept_reach srv now order (hands now order rfl)
  | readDone op result =>
      simp only [react]
      split
      · refine readDone_reach srv op result ?_
        rintro bytes rfl
        exact reads op.origin.session rfl
      · exact .refl srv
  | handlerStep now origin senderThrows =>
      simp only [react]
      split
      · obtain rfl := reads origin.session rfl
        exact handlerStep_reach srv now origin senderThrows
      · exact .refl srv
  | loginTimer timer cancelled =>
      simp only [react]
      split
      · split
        · exact reach_same rfl rfl rfl rfl
        · exact loginTimerFired_reach srv timer
      · exact .refl srv
  | writeDone op failed => exact .one (Call.writeDone op failed) trivial
  | post post =>
      simp only [react]
      split
      · exact runPost_reach srv post
      · exact .refl srv
  | keepaliveCheck now => exact reach_same rfl rfl rfl rfl
  | cleanupInactive now => exact reach_same rfl rfl rfl rfl
  | sweepClose s =>
      simp only [react]
      split
      · have taken : Reaches env acquires buffers srv { srv with sweep := srv.sweep.erase s } :=
          reach_same rfl rfl rfl rfl
        exact taken.trans (close_reach _ s)
      · exact .refl srv
  | expireStaleUdp => exact expireStaleUdpEndpoints_reach srv
  | dbConnected connected => exact reach_same rfl rfl rfl rfl
  | dbMessage message =>
      simp only [react]
      split
      · exact .refl srv
      · exact routed _ _
  | dbExpire reqId senderThrows =>
      simp only [react]
      split
      · exact .refl srv
      · exact routed _ _
  | dbResend reqId cancelled senderThrows =>
      simp only [react]
      split
      · exact .refl srv
      · exact routed _ _
  | datagram reception msg sender => exact udpReceive_reach srv reception msg sender
  | udpBroadcast post =>
      simp only [react]
      split
      · exact runUdpBroadcast_reach srv post
      · exact .refl srv

theorem step_reach (srv : Server) (e : Event) (hands : srv.Hands e → acquires = true) :
    Reaches env acquires true srv (srv.step env e) := by
  have fresh : Reaches env acquires true srv { srv with journal := [] } :=
    reach_same rfl rfl rfl rfl
  refine fresh.trans (react_reach _ e ?_ fun _ _ => rfl)
  rintro now order rfl admits
  exact hands admits

/-- **Every run of the server is a run of calls.** -/
theorem after_reach (env : Env) (router : Option (DBmwRouter LoginFlow)) (events : List Event) :
    Reaches env true true (initial env router) (after env router events) :=
  .foldl (fun srv e => step_reach srv e fun _ => rfl) events _

end Server

end GameServer.Kernel
