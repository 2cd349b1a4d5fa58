/-
# Kernel.Veil -- the server without the UDP state that is not one session's binding

What datagrams change decides only what datagrams do: the endpoint table, the limiters,
the posted broadcasts, and in each session its binding, its budget and its last
sign of life.  `veil s` hides all of it except the binding of `s`.

* `react_veil` -- an event that is no datagram does to the veiled server what it
  does to the server, so it never looks under the veil;
* `step_view` -- and such a step is a step of the view, which leaves the history
  out as well.
-/
import GameServer.Kernel.Simulation

namespace GameServer.Kernel

set_option autoImplicit false

open Wire Dbmw Theory.Runs

/-! ## One object -/

namespace Session

/-- The object with its budget, its last sign of life and its history hidden, and
its binding as well unless it is to be `shown`. -/
def veil : Bool → Session → Session
  | true, x =>
      { x with
        lastUdpAliveTime := 0
        udpTokens := 120
        lastUdpTokenRefill := 0
        registration := none }
  | false, x =>
      { x with
        lastUdpAliveTime := 0
        udpTokens := 120
        lastUdpTokenRefill := 0
        registration := none
        udpEndpoint := none
        udpToken := ""
        udpTokenIssued := 0
        udpTokenTtlSec := 300 }

variable (shown : Bool) (x : Session)

@[simp] theorem veil_sessionId : (x.veil shown).sessionId = x.sessionId := by cases shown <;> rfl

@[simp] theorem veil_socketOpen : (x.veil shown).socketOpen = x.socketOpen := by cases shown <;> rfl

@[simp] theorem veil_strand : (x.veil shown).strand = x.strand := by cases shown <;> rfl

@[simp] theorem veil_nickname : (x.veil shown).nickname = x.nickname := by cases shown <;> rfl

@[simp] theorem veil_readPending : (x.veil shown).readPending = x.readPending := by
  cases shown <;> rfl

@[simp] theorem veil_taskQueue : (x.veil shown).taskQueue = x.taskQueue := by cases shown <;> rfl

@[simp] theorem veil_taskRunning : (x.veil shown).taskRunning = x.taskRunning := by
  cases shown <;> rfl

@[simp] theorem veil_msgBuf : (x.veil shown).msgBuf = x.msgBuf := by cases shown <;> rfl

@[simp] theorem veil_writeQueue : (x.veil shown).writeQueue = x.writeQueue := by
  cases shown <;> rfl

@[simp] theorem veil_nicknameRegistered :
    (x.veil shown).nicknameRegistered = x.nicknameRegistered := by cases shown <;> rfl

@[simp] theorem veil_lastAliveTime : (x.veil shown).lastAliveTime = x.lastAliveTime := by
  cases shown <;> rfl

@[simp] theorem veil_state : (x.veil shown).state = x.state := by cases shown <;> rfl

@[simp] theorem veil_life : (x.veil shown).life = x.life := by cases shown <;> rfl

@[simp] theorem veil_generation : (x.veil shown).generation = x.generation := by
  cases shown <;> rfl

@[simp] theorem veil_zoneId : (x.veil shown).zoneId = x.zoneId := by cases shown <;> rfl

/-- A method that does not look under the veil. -/
def Outward (f : Session → Session) : Prop := ∀ shown x, (f x).veil shown = f (x.veil shown)

theorem cleanup_outward : Outward cleanup := fun shown _ => by cases shown <;> rfl

theorem clearUdpToken_outward : Outward clearUdpToken := fun shown _ => by cases shown <;> rfl

theorem shutDown_outward : Outward shutDown := fun shown _ => by cases shown <;> rfl

theorem onNicknameRegistered_outward : Outward onNicknameRegistered :=
  fun shown _ => by cases shown <;> rfl

theorem setActive_outward (v : Bool) : Outward (setActive v) := by
  intro shown x
  simp only [setActive, tryActivate, veil_life]
  split
  · split
    · cases shown <;> rfl
    · rfl
  · split
    · cases shown <;> rfl
    · rfl

theorem reset_outward (now : Time) (sessionId : Int) : Outward (reset now sessionId) :=
  fun shown _ => by cases shown <;> rfl

theorem handOut_outward (now : Time) (sessionId : Int) : Outward (handOut now sessionId) := by
  intro shown x
  rw [handOut, handOut, cleanup_outward, setActive_outward, reset_outward]

theorem takeBack_outward : Outward takeBack := by
  intro shown x
  have marked : ∀ y : Session, y.markReleased.veil shown = (y.veil shown).markReleased := by
    intro y
    cases shown <;> rfl
  rw [takeBack, takeBack, setActive_outward, marked, cleanup_outward]

theorem tryClose_veil :
    (x.veil shown).tryClose = x.tryClose.map fun closing => closing.veil shown := by
  simp only [tryClose, veil_life]
  split
  · cases shown <;> rfl
  · rfl

theorem enqueueWrite_veil (config : Config) (msg : String) :
    (x.veil shown).enqueueWrite config msg =
      ((x.enqueueWrite config msg).1.veil shown, (x.enqueueWrite config msg).2) := by
  have queue : (x.veil shown).writeQueue = x.writeQueue := veil_writeQueue shown x
  have count : (x.veil shown).writeQueueOverflowCount = x.writeQueueOverflowCount := by
    cases shown <;> rfl
  rcases x.enqueueWrite_cases config msg with
    ⟨full, limit, entered⟩ | ⟨full, below, entered⟩ | ⟨room, entered⟩
  · rw [entered, enqueueWrite_overflows msg (by rwa [queue]) (by rwa [count])]
    cases shown <;> rfl
  · rw [entered, enqueueWrite_drops msg (by rwa [queue]) (by rwa [count])]
    cases shown <;> rfl
  · rw [entered, enqueueWrite_appends msg (by rwa [queue])]
    cases shown <;> rfl

theorem doWriteQueue_veil :
    (x.veil shown).doWriteQueue = (x.doWriteQueue.1.veil shown, x.doWriteQueue.2) := by
  simp only [doWriteQueue, veil_state, veil_writeQueue]
  split
  · rfl
  · cases x.writeQueue with
    | nil => cases shown <;> rfl
    | cons msg rest => rfl

theorem runNextTask_veil :
    (x.veil shown).runNextTask = (x.runNextTask.1.veil shown, x.runNextTask.2) := by
  simp only [runNextTask, veil_taskQueue]
  cases x.taskQueue with
  | nil => cases shown <;> rfl
  | cons task rest => cases shown <;> rfl

end Session

namespace Server

/-! ## The server -/

/-- The server with all UDP state hidden but the binding of `s`. -/
def veil (s : Ref) (srv : Server) : Server :=
  { srv with
    obj := fun x => (srv.obj x).veil (decide (x = s))
    udpEndpointToSession := ∅
    udpGlobalLimiter := { counts := [], windowSecs := [] }
    badUdpMap := ∅
    udpBroadcasts := [] }

variable {env : Env} {s : Ref}

@[simp] theorem veil_obj (srv : Server) (x : Ref) :
    (srv.veil s).obj x = (srv.obj x).veil (decide (x = s)) := rfl

@[simp] theorem veil_manager (srv : Server) : (srv.veil s).manager = srv.manager := rfl

@[simp] theorem veil_pool (srv : Server) : (srv.veil s).pool = srv.pool := rfl

@[simp] theorem veil_zones (srv : Server) : (srv.veil s).zones = srv.zones := rfl

/-- Writing an object, then hiding. -/
theorem modify_veil_of {srv : Server} {x : Ref} {f g : Session → Session}
    (same : (f (srv.obj x)).veil (decide (x = s)) = g ((srv.obj x).veil (decide (x = s)))) :
    (srv.modify x f).veil s = (srv.veil s).modify x g := by
  have objects : (fun y => (Function.update srv.obj x (f (srv.obj x)) y).veil (decide (y = s))) =
      Function.update (fun y => (srv.obj y).veil (decide (y = s))) x
        (g ((srv.obj x).veil (decide (x = s)))) := by
    funext y
    by_cases here : y = x
    · subst here
      rw [Function.update_self, Function.update_self, same]
    · rw [Function.update_of_ne here, Function.update_of_ne here]
  simp only [veil, modify]
  rw [objects]

theorem modify_veil {f : Session → Session} (outward : Session.Outward f) (srv : Server) (x : Ref) :
    (srv.modify x f).veil s = (srv.veil s).modify x f := modify_veil_of (outward _ _)

theorem set_veil (srv : Server) (x : Ref) (y : Session) :
    (srv.modify x fun _ => y).veil s =
      (srv.veil s).modify x fun _ => y.veil (decide (x = s)) := modify_veil_of rfl

theorem note_veil (srv : Server) (n : Note) : (srv.note n).veil s = (srv.veil s).note n := rfl

@[simp] theorem serving_veil (srv : Server) (x : Ref) : (srv.veil s).serving x = srv.serving x := by
  simp [serving]

/-! ## Closing -/

theorem release_veil (srv : Server) (x : Ref) :
    (srv.release x).veil s = (srv.veil s).release x := by
  unfold release
  rw [veil_pool]
  by_cases free : x < srv.pool.size ∧ x ∉ srv.pool.availableIndexSet
  · rw [if_pos free, if_pos free, ← modify_veil Session.takeBack_outward]
    rfl
  · rw [if_neg free, if_neg free]

/-- The table is under the veil. -/
theorem unmapEndpoint_veil (srv : Server) (x : Ref) : (srv.unmapEndpoint x).veil s = srv.veil s := by
  obtain ⟨table, unmapped⟩ := srv.unmapEndpoint_eq x
  rw [unmapped]
  rfl

theorem veil_unmapEndpoint (srv : Server) (x : Ref) : (srv.veil s).unmapEndpoint x = srv.veil s := by
  unfold unmapEndpoint
  split
  · rfl
  · rw [if_neg]
    simp [veil]

theorem leaveZone_veil (srv : Server) (x : Ref) :
    (srv.leaveZone x).veil s = (srv.veil s).leaveZone x := by
  unfold leaveZone
  simp only [veil_obj, Session.veil_zoneId, Session.veil_sessionId, veil_zones]
  by_cases inZone : -1 < (srv.obj x).zoneId
  · rw [if_pos inZone, if_pos inZone]
    cases srv.zones (srv.obj x).zoneId with
    | none => rfl
    | some zone => exact modify_veil (fun shown _ => by cases shown <;> rfl) _ _
  · rw [if_neg inZone, if_neg inZone]

theorem removeSession_veil (srv : Server) (sessionId : Int) :
    (srv.removeSession sessionId).veil s = (srv.veil s).removeSession sessionId := by
  unfold removeSession
  rw [veil_manager]
  cases srv.manager.findSession sessionId with
  | none => rfl
  | some x =>
      have erased : ({ srv.veil s with manager := srv.manager.eraseSession sessionId } : Server) =
          ({ srv with manager := srv.manager.eraseSession sessionId } : Server).veil s := rfl
      simp only
      rw [release_veil, leaveZone_veil, modify_veil Session.clearUdpToken_outward,
        unmapEndpoint_veil, erased, veil_unmapEndpoint]

theorem closeSession_veil (srv : Server) (x : Ref) :
    (srv.closeSession x).veil s = (srv.veil s).closeSession x := by
  unfold closeSession
  rw [veil_obj, Session.tryClose_veil]
  cases (srv.obj x).tryClose with
  | none => rfl
  | some closing =>
      have numbered : (((srv.veil s).modify x fun _ =>
          (closing.veil (decide (x = s))).shutDown).obj x).sessionId =
            ((srv.modify x fun _ => closing.shutDown).obj x).sessionId := by
        simp [modify, Session.shutDown, Session.finalizeClose]
      simp only [Option.map_some]
      rw [modify_veil Session.cleanup_outward, removeSession_veil, set_veil,
        Session.shutDown_outward, numbered]

theorem close_veil (srv : Server) (x : Ref) : (srv.close x).veil s = (srv.veil s).close x := by
  rw [close, close, closeSession_veil, note_veil]

/-! ## Writing and reading -/

theorem doWriteQueue_veil (srv : Server) (x : Ref) :
    (srv.doWriteQueue x).veil s = (srv.veil s).doWriteQueue x := by
  unfold doWriteQueue
  rw [veil_obj, Session.doWriteQueue_veil]
  cases written : (srv.obj x).doWriteQueue with
  | mk y message =>
      cases message with
      | none => exact set_veil srv x y
      | some message =>
          simp only [Session.veil_strand, Session.veil_generation]
          rw [← set_veil]
          rfl

theorem writeNow_veil (srv : Server) (x : Ref) (message : String) :
    (srv.writeNow env x message).veil s = (srv.veil s).writeNow env x message := by
  have marked : Session.Outward fun y => { y with writeInProgress := true } :=
    fun shown _ => by cases shown <;> rfl
  unfold writeNow
  rw [veil_obj, Session.enqueueWrite_veil, Session.veil_writeQueue]
  cases (srv.obj x).enqueueWrite env.config message with
  | mk y overflow =>
      simp only
      rw [← set_veil]
      cases overflow with
      | false =>
          by_cases idle : (srv.obj x).writeQueue.isEmpty = true
          · simp only [idle, Bool.false_eq_true, if_true, if_false]
            rw [doWriteQueue_veil, modify_veil marked]
          · simp only [idle, Bool.false_eq_true, if_false]
      | true =>
          by_cases idle : (srv.obj x).writeQueue.isEmpty = true
          · simp only [idle, if_true]
            rw [doWriteQueue_veil, modify_veil marked, close_veil]
          · simp only [idle, if_true, Bool.false_eq_true, if_false]
            rw [close_veil]

theorem onStrand_veil (srv : Server) (here : Here) (x : Ref) :
    (srv.veil s).onStrand here x = srv.onStrand here x := by
  simp [onStrand]

theorem postWrite_veil (srv : Server) (here : Here) (x : Ref) (message : String) :
    (srv.postWrite env here x message).veil s = (srv.veil s).postWrite env here x message := by
  unfold postWrite
  rw [onStrand_veil]
  cases srv.onStrand here x with
  | false =>
      simp only [veil_obj, Session.veil_strand]
      rfl
  | true => exact writeNow_veil srv x message

theorem postLine_veil (srv : Server) (here : Here) (x : Ref) (out : Json) :
    (srv.postLine env here x out).veil s = (srv.veil s).postLine env here x out :=
  postWrite_veil srv here x _

theorem broadcastTargets_veil (srv : Server) (senderSessionId : Int) :
    (srv.veil s).broadcastTargets senderSessionId = srv.broadcastTargets senderSessionId := by
  simp [broadcastTargets]

/-- What is done to one session after another. -/
theorem foldl_veil {α : Type} {f : Server → α → Server}
    (each : ∀ srv a, (f srv a).veil s = f (srv.veil s) a) (srv : Server) (items : List α) :
    (items.foldl f srv).veil s = items.foldl f (srv.veil s) :=
  (List.foldl_hom (veil s) fun srv a => (each srv a).symm).symm

theorem broadcast_veil (srv : Server) (here : Here) (message : String) (senderSessionId : Int) :
    (srv.broadcast env here message senderSessionId).veil s =
      (srv.veil s).broadcast env here message senderSessionId := by
  unfold broadcast
  rw [broadcastTargets_veil]
  exact foldl_veil (fun srv x => postWrite_veil srv here x message) _ _

theorem broadcastZoneTcp_veil (srv : Server) (here : Here) (message : String) (zoneId : Int)
    (senderSessionId : Int) :
    (srv.broadcastZoneTcp env here message zoneId senderSessionId).veil s =
      (srv.veil s).broadcastZoneTcp env here message zoneId senderSessionId := by
  unfold broadcastZoneTcp
  simp only [broadcastTargets_veil, veil_obj, Session.veil_zoneId]
  exact foldl_veil (fun srv x => postWrite_veil srv here x message) _ _

theorem runTask_veil (srv : Server) (x : Ref) (task : Task) :
    (srv.runTask x task).veil s = (srv.veil s).runTask x task := by
  cases task with
  | readSome =>
      simp only [runTask, veil_obj, Session.veil_strand, Session.veil_generation,
        Session.veil_socketOpen]
      rfl

theorem runNextTask_veil (srv : Server) (x : Ref) :
    (srv.runNextTask x).veil s = (srv.veil s).runNextTask x := by
  unfold runNextTask
  rw [veil_obj, Session.runNextTask_veil]
  cases (srv.obj x).runNextTask with
  | mk y task =>
      cases task with
      | none => exact set_veil srv x y
      | some task =>
          simp only
          rw [runTask_veil, set_veil]

theorem pushTask_veil (srv : Server) (x : Ref) (task : Task) :
    (srv.pushTask env x task).veil s = (srv.veil s).pushTask env x task := by
  have queued : Session.Outward fun y =>
      { y with taskQueue := y.taskQueue ++ [task], taskRunning := true } :=
    fun shown _ => by cases shown <;> rfl
  unfold pushTask
  simp only [veil_obj, Session.veil_taskQueue, Session.veil_taskRunning]
  split
  · exact close_veil srv x
  · cases (srv.obj x).taskRunning with
    | true => exact modify_veil queued srv x
    | false =>
        simp only [Bool.false_eq_true, if_false]
        rw [runNextTask_veil, modify_veil queued]

theorem postTask_veil (srv : Server) (here : Here) (x : Ref) (task : Task) :
    (srv.postTask env here x task).veil s = (srv.veil s).postTask env here x task := by
  unfold postTask
  rw [onStrand_veil]
  cases srv.onStrand here x with
  | false =>
      simp only [veil_obj, Session.veil_strand]
      rfl
  | true => exact pushTask_veil srv x task

theorem doRead_veil (srv : Server) (here : Here) (x : Ref) :
    (srv.doRead env here x).veil s = (srv.veil s).doRead env here x := by
  have state : ((srv.veil s).obj x).state = (srv.obj x).state := by
    rw [veil_obj, Session.veil_state]
  have readPending : ((srv.veil s).obj x).readPending = (srv.obj x).readPending := by
    rw [veil_obj, Session.veil_readPending]
  rcases doRead_cases env here srv x with ⟨waits, same⟩ | ⟨live, lowered, begins⟩
  · rw [same, doRead_waits here (by rwa [state, readPending])]
  · rw [begins, doRead_begins here (by rwa [state]) (by rwa [readPending]), postTask_veil,
      modify_veil fun shown _ => by cases shown <;> rfl]

theorem startLoginTimeout_veil (srv : Server) (x : Ref) :
    (srv.startLoginTimeout x).veil s = (srv.veil s).startLoginTimeout x := by
  unfold startLoginTimeout
  simp only [veil_obj, Session.veil_state, Session.veil_strand]
  split <;> rfl

theorem start_veil (srv : Server) (here : Here) (x : Ref) :
    (srv.start env here x).veil s = (srv.veil s).start env here x := by
  rw [start, start, startLoginTimeout_veil, doRead_veil]

/-! ## Registration and accepting -/

theorem addSession_veil (srv : Server) (x : Ref) :
    (srv.addSession x).veil s = (srv.veil s).addSession x := by
  unfold addSession
  simp only [veil_obj, Session.veil_sessionId, Session.veil_generation, veil_manager,
    Session.isClosed, Bool.false_eq_true, if_false]
  split
  · exact closeSession_veil _ _
  · rfl

theorem evict_veil (srv : Server) (here : Here) (nickname message : String) (x : Ref) :
    (srv.evict env here nickname message x).veil s =
      (srv.veil s).evict env here nickname message x := by
  unfold evict
  rw [veil_manager]
  cases srv.manager.findSessionByNickname nickname with
  | none => rfl
  | some p =>
      simp only
      split
      · rw [closeSession_veil, postWrite_veil]
      · rfl

theorem registerNickname_veil (srv : Server) (here : Here) (nickname : String) (x : Ref) :
    (srv.registerNickname env here nickname x).veil s =
      (srv.veil s).registerNickname env here nickname x :=
  congrArg (fun srv : Server =>
    { srv with
      manager := { srv.manager with nicknameIndex := srv.manager.nicknameIndex.insert nickname x } })
    (evict_veil srv here nickname loggedInElsewhere x)

theorem assignSessionToZone_veil (srv : Server) (x : Ref) (zoneId : Int) :
    (srv.assignSessionToZone env x zoneId).veil s =
      (srv.veil s).assignSessionToZone env x zoneId := by
  have sessionId : ((srv.veil s).obj x).sessionId = (srv.obj x).sessionId := by
    rw [veil_obj, Session.veil_sessionId]
  rcases assignSessionToZone_cases env srv x zoneId with
    ⟨refuses, same⟩ | ⟨zone, found, room, absent, enters⟩
  · rw [same, assignSessionToZone_refuses (by rwa [veil_zones, sessionId])]
  · rw [enters, assignSessionToZone_enters (by rwa [veil_zones]) room (by rwa [sessionId]),
      sessionId]
    exact modify_veil (fun shown _ => by cases shown <;> rfl) _ _

theorem acquire_veil (srv : Server) (now : Time) (sessionId : Int) (x : Ref) :
    (srv.acquire now sessionId x).veil s = (srv.veil s).acquire now sessionId x := by
  unfold acquire
  rw [← modify_veil (Session.handOut_outward now sessionId)]
  rfl

theorem unauthSessions_veil (srv : Server) : (srv.veil s).unauthSessions = srv.unauthSessions := by
  simp [unauthSessions]

theorem sortedUnauth_veil (srv : Server) (order : List Ref) :
    (srv.veil s).SortedUnauth order ↔ srv.SortedUnauth order := by
  simp [SortedUnauth, unauthSessions_veil]

theorem cleanupUnauthSessions_veil (srv : Server) (maxUnauth : Nat) (order : List Ref) :
    (srv.cleanupUnauthSessions maxUnauth order).veil s =
      (srv.veil s).cleanupUnauthSessions maxUnauth order :=
  foldl_veil close_veil _ _

theorem nextFree_veil (srv : Server) : (srv.veil s).nextFree = srv.nextFree := rfl

theorem accept_veil (srv : Server) (now : Time) (order : List Ref) :
    (srv.accept env now order).veil s = (srv.veil s).accept env now order := by
  have counted : ({ srv.veil s with
      sessionCounter := Int.bmod ((srv.veil s).sessionCounter + 1) (2 ^ 32) } : Server) =
        ({ srv with sessionCounter := Int.bmod (srv.sessionCounter + 1) (2 ^ 32) } : Server).veil s :=
    rfl
  have sessionId : (srv.veil s).sessionCounter = srv.sessionCounter := rfl
  unfold accept
  dsimp only
  rw [counted, nextFree_veil, sessionId]
  generalize ({ srv with
    sessionCounter := Int.bmod (srv.sessionCounter + 1) (2 ^ 32) } : Server) = srv'
  cases srv'.nextFree with
  | none => rfl
  | some x =>
      simp only [← note_veil, ← acquire_veil, ← addSession_veil, sortedUnauth_veil]
      split
      · rw [start_veil, cleanupUnauthSessions_veil]
      · rfl

/-! ## LoginFlow -/

theorem completeSuccess_veil (srv : Server) (here : Here) (flow : LoginFlow) :
    (srv.completeSuccess env here flow).veil s = (srv.veil s).completeSuccess env here flow :=
  postLine_veil srv here _ _

theorem completeFail_veil (srv : Server) (here : Here) (flow : LoginFlow) (reason : String) :
    (srv.completeFail env here flow reason).veil s =
      (srv.veil s).completeFail env here flow reason :=
  postLine_veil srv here _ _

/-- Naming an object, as `on_user_info_ok` does. -/
theorem named_outward (nickname : String) :
    Session.Outward fun x => { x with nickname := nickname } :=
  fun shown _ => by cases shown <;> rfl

theorem seat_veil (srv : Server) (here : Here) (flow : LoginFlow) :
    (srv.seat env here flow).veil s = (srv.veil s).seat env here flow := by
  unfold seat
  rw [assignSessionToZone_veil, modify_veil Session.onNicknameRegistered_outward,
    modify_veil (named_outward flow.nickname), registerNickname_veil]

theorem servings_veil (srv : Server) (here : Here) (flow : LoginFlow) :
    (srv.veil s).servings env here flow = srv.servings env here flow := by
  simp only [servings, ← registerNickname_veil, ← modify_veil (named_outward flow.nickname),
    ← modify_veil Session.onNicknameRegistered_outward, serving_veil]

theorem enroll_veil (srv : Server) (here : Here) (flow : LoginFlow) :
    (srv.enroll env here flow).veil s = (srv.veil s).enroll env here flow := by
  simp only [enroll_eq, note_veil, ← addSession_veil, ← evict_veil, ← seat_veil, servings_veil,
    veil_obj, Session.veil_generation, Session.veil_zoneId]

theorem onUserInfoOk_veil (srv : Server) (here : Here) (flow : LoginFlow) (j : Json) :
    (srv.onUserInfoOk env here flow j).veil s = (srv.veil s).onUserInfoOk env here flow j := by
  unfold onUserInfoOk
  cases j.valueInt "code" (-1) with
  | error problem => rfl
  | ok code =>
      simp only
      split
      · exact completeFail_veil srv here flow _
      · rw [completeSuccess_veil, broadcast_veil, enroll_veil, ← enroll_veil, veil_obj,
          Session.veil_sessionId]

theorem onUserInfoFail_veil (srv : Server) (here : Here) (flow : LoginFlow) (j : Json) :
    (srv.onUserInfoFail env here flow j).veil s = (srv.veil s).onUserInfoFail env here flow j := by
  unfold onUserInfoFail
  cases j.valueStr "msg" "timeout" with
  | error problem => rfl
  | ok reason => exact completeFail_veil srv here flow reason

theorem runEffect_veil (srv : Server) (effect : Effect LoginFlow) :
    (srv.runEffect env effect).veil s = (srv.veil s).runEffect env effect := by
  unfold runEffect
  split
  · exact onUserInfoOk_veil srv none _ _
  · exact onUserInfoFail_veil srv none _ _
  · exact onUserInfoFail_veil srv none _ _
  · rfl

theorem runEffects_veil (srv : Server) (effects : List (Effect LoginFlow)) :
    (srv.runEffects env effects).veil s = (srv.veil s).runEffects env effects :=
  foldl_veil runEffect_veil srv effects

theorem requestUserInfo_veil (srv : Server) (here : Here) (flow : LoginFlow)
    (senderThrows : Bool) :
    (srv.requestUserInfo env here flow senderThrows).veil s =
      (srv.veil s).requestUserInfo env here flow senderThrows := by
  have router : (srv.veil s).dbRouter = srv.dbRouter := rfl
  have connected : (srv.veil s).dbConnected = srv.dbConnected := rfl
  unfold requestUserInfo
  rw [router, connected, veil_obj, Session.veil_sessionId]
  cases srv.dbRouter with
  | none => exact onUserInfoOk_veil srv here flow _
  | some router =>
      simp only
      split
      · exact runEffects_veil _ _
      · exact onUserInfoOk_veil srv here flow _

/-! ## Handlers -/

theorem banDuplicate_veil (srv : Server) (here : Here) (nickname : String) (x : Ref) :
    (srv.banDuplicate env here nickname x).veil s =
      (srv.veil s).banDuplicate env here nickname x := by
  unfold banDuplicate
  rw [veil_manager]
  cases srv.manager.findSessionByNickname nickname with
  | none => rfl
  | some p =>
      simp only
      split
      · rw [close_veil, postWrite_veil]
      · rfl

theorem loginHandler_veil (srv : Server) (here : Here) (origin : Origin) (msg : Json)
    (senderThrows : Bool) :
    (srv.veil s).loginHandler env here origin msg senderThrows =
      (srv.loginHandler env here origin msg senderThrows).map (veil s) := by
  unfold loginHandler
  cases msg.valueStr "nickname" "anonymity" with
  | error problem => rfl
  | ok nickname =>
      show Except.ok _ = Except.ok (veil s _)
      split
      · rw [postWrite_veil]
      · split
        · rw [close_veil, postWrite_veil]
        · rw [requestUserInfo_veil, banDuplicate_veil]

theorem logoutHandler_veil (srv : Server) (here : Here) (x : Ref) :
    (srv.logoutHandler env here x).veil s = (srv.veil s).logoutHandler env here x := by
  unfold logoutHandler
  simp only [veil_obj, Session.veil_nickname, Session.veil_sessionId]
  split
  · rw [close_veil, postWrite_veil]
  · rw [close_veil, broadcast_veil]

theorem chatHandler_veil (srv : Server) (here : Here) (x : Ref) (msg : Json) :
    (srv.veil s).chatHandler env here x msg = (srv.chatHandler env here x msg).map (veil s) := by
  unfold chatHandler
  cases msg.valueStr "msg" "" with
  | error problem => rfl
  | ok text =>
      simp only [veil_obj, Session.veil_nickname, Session.veil_sessionId]
      rw [← broadcast_veil, ← postLine_veil]
      rfl

theorem chatZoneHandler_veil (srv : Server) (here : Here) (x : Ref) (msg : Json) :
    (srv.veil s).chatZoneHandler env here x msg =
      (srv.chatZoneHandler env here x msg).map (veil s) := by
  unfold chatZoneHandler
  simp only [veil_obj, Session.veil_nickname, Session.veil_sessionId, Session.veil_zoneId]
  split
  · rw [← postLine_veil]
    rfl
  · cases msg.valueStr "msg" "" with
    | error problem => rfl
    | ok text =>
        simp only
        split
        · rw [← postLine_veil]
          rfl
        · rw [← broadcastZoneTcp_veil, ← postLine_veil]
          rfl

theorem keepaliveHandler_veil (srv : Server) (now : Time) (x : Ref) :
    (srv.keepaliveHandler now x).veil s = (srv.veil s).keepaliveHandler now x :=
  modify_veil (fun shown _ => by cases shown <;> rfl) srv x

theorem handleMessage_veil (srv : Server) (here : Here) (now : Time) (origin : Origin)
    (type : String) (msg : Json) (senderThrows : Bool) :
    (srv.veil s).handleMessage env here now origin type msg senderThrows =
      (srv.handleMessage env here now origin type msg senderThrows).map
        fun out => out.map (veil s) := by
  unfold handleMessage
  simp only [loginHandler_veil, chatHandler_veil, chatZoneHandler_veil, ← logoutHandler_veil,
    ← keepaliveHandler_veil]
  split
  · rfl
  · split
    · rfl
    · split
      · rfl
      · split
        · rfl
        · split <;> rfl

theorem dispatch_veil (srv : Server) (here : Here) (now : Time) (origin : Origin) (msg : Json)
    (senderThrows : Bool) :
    (srv.dispatch env here now origin msg senderThrows).veil s =
      (srv.veil s).dispatch env here now origin msg senderThrows := by
  unfold dispatch
  cases msg.valueStr "type" "" with
  | error problem => exact close_veil srv _
  | ok type =>
      simp only [handleMessage_veil]
      split
      · exact postWrite_veil srv here _ _
      · cases srv.handleMessage env here now origin type msg senderThrows with
        | none =>
            simp only [Option.map_none]
            rw [close_veil, postWrite_veil]
        | some out =>
            cases out with
            | ok srv' => rfl
            | error problem =>
                cases problem with
                | type => exact postWrite_veil srv here _ _
                | iterator => exact close_veil srv _

/-! ## The completions -/

theorem announceLeft_veil (srv : Server) (here : Here) (x : Ref) :
    (srv.announceLeft env here x).veil s = (srv.veil s).announceLeft env here x := by
  unfold announceLeft
  rw [broadcast_veil, veil_obj, Session.veil_nickname, Session.veil_sessionId]

theorem readDone_veil (srv : Server) (op : ReadOp) (result : ReadResult) :
    (srv.readDone env op result).veil s = (srv.veil s).readDone env op result := by
  have ended : ∀ srv : Server, ({ srv with reads := srv.reads.erase op } : Server).veil s =
      { srv.veil s with reads := (srv.veil s).reads.erase op } := fun _ => rfl
  have idle : Session.Outward fun x => { x with readPending := false } :=
    fun shown _ => by cases shown <;> rfl
  unfold readDone
  rw [← ended]
  simp only [← modify_veil idle]
  cases result with
  | data bytes =>
      have filled : Session.Outward fun x => { x with msgBuf := x.msgBuf.append bytes } :=
        fun shown _ => by cases shown <;> rfl
      simp only
      rw [← modify_veil filled]
      rfl
  | eof =>
      simp only
      rw [runNextTask_veil, close_veil, announceLeft_veil]
  | connectionReset =>
      simp only [veil_obj, Session.veil_nickname]
      split
      · rw [runNextTask_veil, close_veil]
      · rw [runNextTask_veil, close_veil, announceLeft_veil]
  | aborted => exact runNextTask_veil _ _
  | error =>
      simp only
      rw [runNextTask_veil, close_veil]

theorem handlerStep_veil (srv : Server) (now : Time) (origin : Origin) (senderThrows : Bool) :
    (srv.handlerStep env now origin senderThrows).veil s =
      (srv.veil s).handlerStep env now origin senderThrows := by
  have buffered : ∀ m, Session.Outward fun x => { x with msgBuf := m } :=
    fun _ shown _ => by cases shown <;> rfl
  have ended (m : MessageBufferManager) :
      ({ (srv.veil s).modify origin.session fun x => { x with msgBuf := m } with
        handlers := (srv.veil s).handlers.erase origin } : Server) =
      ({ srv.modify origin.session fun x => { x with msgBuf := m } with
        handlers := srv.handlers.erase origin } : Server).veil s := by
    rw [← modify_veil (buffered m)]
    rfl
  have buffer : ((srv.veil s).obj origin.session).msgBuf = (srv.obj origin.session).msgBuf := by
    rw [veil_obj, Session.veil_msgBuf]
  rcases handlerStep_cases env srv now origin senderThrows with
    ⟨msg, m, extracted, turn⟩ | ⟨m, extracted, turn⟩ <;> rw [← buffer] at extracted
  · rcases turn with ⟨parsed, range, done⟩ | ⟨parsed, range, done⟩ | ⟨j, parsed, done⟩
    · rw [done, handlerStep_outOfRange extracted parsed range, ended, close_veil]
    · rw [done, handlerStep_invalid extracted parsed range, ← modify_veil (buffered m),
        postLine_veil]
    · rw [done, handlerStep_dispatches extracted parsed, ← modify_veil (buffered m),
        dispatch_veil]
  · rcases turn with ⟨cleared, done⟩ | ⟨valid, done⟩
    · rw [done, handlerStep_closes extracted cleared, ended, close_veil]
    · rw [done, handlerStep_reads extracted valid, ended, runNextTask_veil, doRead_veil]

theorem loginTimerFired_veil (srv : Server) (timer : LoginTimer) :
    (srv.loginTimerFired env timer).veil s = (srv.veil s).loginTimerFired env timer := by
  have ended : ({ srv.veil s with loginTimers := (srv.veil s).loginTimers.erase timer } : Server) =
      ({ srv with loginTimers := srv.loginTimers.erase timer } : Server).veil s := rfl
  unfold loginTimerFired
  rw [ended]
  simp only [veil_obj, Session.veil_nicknameRegistered]
  split
  · rfl
  · rw [close_veil, postWrite_veil]

theorem writeDone_veil (srv : Server) (op : WriteOp) (failed : Bool) :
    (srv.writeDone op failed).veil s = (srv.veil s).writeDone op failed := by
  have ended : ({ srv.veil s with writes := (srv.veil s).writes.erase op } : Server) =
      ({ srv with writes := srv.writes.erase op } : Server).veil s := rfl
  unfold writeDone
  rw [ended]
  simp only [veil_obj, Session.veil_generation]
  split
  · rfl
  · split
    · exact close_veil _ _
    · rw [doWriteQueue_veil, modify_veil fun shown _ => by cases shown <;> rfl]

theorem runPost_veil (srv : Server) (post : Post) :
    (srv.runPost env post).veil s = (srv.veil s).runPost env post := by
  have taken : ({ srv.veil s with posts := (srv.veil s).posts.erase post } : Server) =
      ({ srv with posts := srv.posts.erase post } : Server).veil s := rfl
  unfold runPost
  rw [taken]
  cases post.job with
  | write message => exact writeNow_veil _ _ _
  | task task => exact pushTask_veil _ _ _

/-! ## Sweeps -/

theorem keepaliveCheck_veil (srv : Server) (now : Time) :
    (srv.keepaliveCheck now).veil s = (srv.veil s).keepaliveCheck now := by
  unfold keepaliveCheck
  simp only [veil_obj, Session.veil_nicknameRegistered, Session.veil_lastAliveTime]
  rfl

theorem cleanupInactiveSessions_veil (srv : Server) (now : Time) :
    (srv.cleanupInactiveSessions now).veil s = (srv.veil s).cleanupInactiveSessions now := by
  unfold cleanupInactiveSessions
  simp only [veil_obj, Session.veil_lastAliveTime]
  rfl

theorem sweepClose_veil (srv : Server) (x : Ref) :
    (srv.sweepClose x).veil s = (srv.veil s).sweepClose x := close_veil _ x

/-! ## Events -/

/-- No session is ever `is_closed()`, so the walk changes nothing. -/
theorem expireStaleUdpEndpoints_eq (srv : Server) : srv.expireStaleUdpEndpoints = srv := by
  unfold expireStaleUdpEndpoints
  induction srv.manager.sessions with
  | nil => rfl
  | cons x rest ih =>
      simp only [List.foldl_cons, expireStaleUdpEndpoint, Session.isClosed, Bool.false_eq_true,
        if_false]
      exact ih

theorem runUdpBroadcast_veil (srv : Server) (post : String × String) :
    (srv.runUdpBroadcast env post).1.veil s = srv.veil s := by
  unfold runUdpBroadcast
  dsimp only
  split <;> rfl

/-- A message or a timer of the middleware link. -/
theorem dbEvent_veil (srv : Server)
    (act : DBmwRouter LoginFlow → DBmwRouter LoginFlow × List (Effect LoginFlow)) :
    (match srv.dbRouter with
      | none => srv
      | some router =>
          { srv with dbRouter := some (act router).1 }.runEffects env (act router).2).veil s =
      match (srv.veil s).dbRouter with
      | none => srv.veil s
      | some router =>
          { srv.veil s with dbRouter := some (act router).1 }.runEffects env (act router).2 := by
  have router : (srv.veil s).dbRouter = srv.dbRouter := rfl
  rw [router]
  cases srv.dbRouter with
  | none => rfl
  | some router => exact runEffects_veil _ _

/-- **Only datagrams look under the veil.** -/
theorem react_veil (srv : Server) {e : Event} (other : e.isDatagram = false) :
    (srv.react env e).veil s = (srv.veil s).react env e := by
  unfold react
  cases e with
  | accept now order => exact accept_veil srv now order
  | readDone op result =>
      have reads : (srv.veil s).reads = srv.reads := rfl
      simp only [reads]
      split
      · exact readDone_veil srv op result
      · rfl
  | handlerStep now origin senderThrows =>
      have handlers : (srv.veil s).handlers = srv.handlers := rfl
      simp only [handlers]
      split
      · exact handlerStep_veil srv now origin senderThrows
      · rfl
  | loginTimer timer cancelled =>
      have timers : (srv.veil s).loginTimers = srv.loginTimers := rfl
      simp only [timers]
      split
      · split
        · rfl
        · exact loginTimerFired_veil srv timer
      · rfl
  | writeDone op failed =>
      have writes : (srv.veil s).writes = srv.writes := rfl
      simp only [writes]
      split
      · exact writeDone_veil srv op failed
      · rfl
  | post post =>
      have next : (srv.veil s).NextPost post ↔ srv.NextPost post := Iff.rfl
      simp only [next]
      split
      · exact runPost_veil srv post
      · rfl
  | keepaliveCheck now => exact keepaliveCheck_veil srv now
  | cleanupInactive now => exact cleanupInactiveSessions_veil srv now
  | sweepClose x =>
      have sweep : (srv.veil s).sweep = srv.sweep := rfl
      simp only [sweep]
      split
      · exact sweepClose_veil srv x
      · rfl
  | expireStaleUdp =>
      simp only [expireStaleUdpEndpoints_eq]
  | dbConnected connected => rfl
  | dbMessage message => exact dbEvent_veil srv (·.handle message)
  | dbExpire reqId senderThrows => exact dbEvent_veil srv (·.expire _ reqId)
  | dbResend reqId cancelled senderThrows => exact dbEvent_veil srv (·.resend _ reqId cancelled)
  | datagram reception msg sender => cases other
  | udpBroadcast post =>
      have posted : (srv.veil s).udpBroadcasts = [] := rfl
      simp only [posted, List.not_mem_nil, if_false]
      split
      · exact runUdpBroadcast_veil srv post
      · rfl

/-! ## The view -/

/-- What the binding of `s` depends on: the veiled server, without the page of its
journal. -/
def view (s : Ref) (srv : Server) : Server := { srv.veil s with journal := [] }

theorem view_obj (srv : Server) (x : Ref) :
    (srv.view s).obj x = (srv.obj x).veil (decide (x = s)) := rfl

/-- **A step that is no datagram is a step of the view.** -/
theorem step_view {e : Event} (other : e.isDatagram = false) (srv : Server) :
    (srv.step env e).view s = { (srv.view s).react env e with journal := [] } := by
  have stepped : (srv.step env e).veil s = (srv.view s).react env e := react_veil _ other
  rw [view, stepped]

end Server

end GameServer.Kernel
