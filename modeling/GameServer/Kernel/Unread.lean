/-
# Kernel.Unread -- what handling a message leaves of the reads

Few functions start a read, end one, or queue the task that starts the next: they are
called by the read handler, by posted tasks and at a session's start.  Whatever else a
handler does, it closes sessions at most, and a close resets the flags of a read without
ending it.  The record of bad datagrams and the list of a sweep are left alone as well.

* `closeSession_unread` -- a close, and `removeSession_unread` what it may do to another
  session;
* `dispatch_unread` -- handling a message, which may set the sign of life of the session
  that sent it;
* `onUdpReceive_unread` -- handling a datagram;
* `react_unread`, `react_enduring` -- which events leave the reads alone, and which the
  rest.
-/
import GameServer.Kernel.Closing

namespace GameServer.Kernel

set_option autoImplicit false

open Wire Dbmw Theory.Runs

namespace Session

/-- The flags and the queue of a read. -/
structure Reading where
  readPending : Bool
  taskQueue : List Task
  taskRunning : Bool

def reading (x : Session) : Reading := ⟨x.readPending, x.taskQueue, x.taskRunning⟩

/-- What a read, a close and a check look at. -/
def vitals (x : Session) : Nat × Bool × Time × Reading × SessionState :=
  (x.strand, x.socketOpen, x.lastAliveTime, x.reading, x.state)

/-- No read was begun or ended: the flags stand, or were reset, and the object is closed
at most.  `heard` are the signs of life it may have been given. -/
structure Unread (heard : Time → Prop) (x y : Session) : Prop where
  strand : y.strand = x.strand
  stays : y.socketOpen = true → x.socketOpen = true
  alive : y.lastAliveTime = x.lastAliveTime ∨ heard y.lastAliveTime
  reading : y.reading = x.reading ∨ y.reading = ⟨false, [], false⟩
  shut : y.state = .closed → x.state = .closed ∨ y.socketOpen = false

variable {heard : Time → Prop} {x y z : Session}

/-- Nothing of an object that a read or a close looks at has changed. -/
theorem unread_of_vitals (same : y.vitals = x.vitals) : Unread heard x y := by
  simp only [vitals, Prod.mk.injEq] at same
  obtain ⟨strand, socketOpen, alive, reading, state⟩ := same
  refine ⟨strand, ?_, .inl alive, .inl reading, ?_⟩
  · rw [socketOpen]
    exact id
  · rw [state]
    exact .inl

theorem Unread.refl (x : Session) : Unread heard x x := unread_of_vitals rfl

theorem Unread.trans (first : Unread heard x y) (then_ : Unread heard y z) :
    Unread heard x z where
  strand := then_.strand.trans first.strand
  stays := fun isOpen => first.stays (then_.stays isOpen)
  alive := by
    rcases then_.alive with same | told
    · rw [same]
      exact first.alive
    · exact .inr told
  reading := by
    rcases then_.reading with same | reset
    · rw [same]
      exact first.reading
    · exact .inr reset
  shut := by
    intro closed
    rcases then_.shut closed with before | shut
    · rcases first.shut before with earlier | down
      · exact .inl earlier
      · refine .inr ?_
        by_contra isOpen
        rw [then_.stays (by simpa using isOpen)] at down
        cases down
    · exact .inr shut

/-- The same of an object whose reads may have gone on. -/
structure Enduring (heard : Time → Prop) (x y : Session) : Prop where
  strand : y.strand = x.strand
  stays : y.socketOpen = true → x.socketOpen = true
  alive : y.lastAliveTime = x.lastAliveTime ∨ heard y.lastAliveTime

theorem Enduring.refl (x : Session) : Enduring heard x x := ⟨rfl, id, .inl rfl⟩

theorem Enduring.trans (first : Enduring heard x y) (then_ : Enduring heard y z) :
    Enduring heard x z := by
  refine ⟨then_.strand.trans first.strand, fun isOpen => first.stays (then_.stays isOpen), ?_⟩
  rcases then_.alive with same | told
  · rw [same]
    exact first.alive
  · exact .inr told

theorem Unread.enduring (unread : Unread heard x y) : Enduring heard x y :=
  ⟨unread.strand, unread.stays, unread.alive⟩

theorem cleanup_unread (x : Session) : Unread heard x x.cleanup :=
  ⟨rfl, id, .inl rfl, .inr rfl, .inl⟩

theorem shutDown_unread (x : Session) : Unread heard x x.shutDown :=
  ⟨rfl, nofun, .inl rfl, .inl rfl, fun _ => .inr rfl⟩

theorem takeBack_unread (x : Session) : Unread heard x x.takeBack :=
  ⟨rfl, id, .inl rfl, .inr rfl, .inl⟩

theorem Removed.unread (removed : x.Removed y) : Unread heard x y := by
  rcases removed with ⟨zoneId, rfl | rfl | rfl⟩
  · exact .refl _
  · exact unread_of_vitals rfl
  · exact Unread.trans (y := { x.clearUdpToken with zoneId := zoneId })
      (unread_of_vitals rfl) (takeBack_unread _)

end Session

namespace Server

/-- The tasks posted to strands. -/
def taskPosts (srv : Server) : List Post := srv.posts.filter fun p => p.job = .task .readSome

/-- No session was read. -/
structure Unread (heard : Ref → Time → Prop) (srv srv' : Server) : Prop where
  obj : ∀ s, Session.Unread (heard s) (srv.obj s) (srv'.obj s)
  reads : srv'.reads = srv.reads
  handlers : srv'.handlers = srv.handlers
  tasks : srv'.taskPosts = srv.taskPosts
  sweep : srv'.sweep = srv.sweep
  badUdpMap : srv'.badUdpMap = srv.badUdpMap

variable {env : Env} {heard : Ref → Time → Prop}

theorem Unread.refl (srv : Server) : Unread heard srv srv :=
  ⟨fun _ => .refl _, rfl, rfl, rfl, rfl, rfl⟩

theorem Unread.trans {a b c : Server} (first : Unread heard a b) (then_ : Unread heard b c) :
    Unread heard a c where
  obj := fun s => (first.obj s).trans (then_.obj s)
  reads := then_.reads.trans first.reads
  handlers := then_.handlers.trans first.handlers
  tasks := then_.tasks.trans first.tasks
  sweep := then_.sweep.trans first.sweep
  badUdpMap := then_.badUdpMap.trans first.badUdpMap

theorem Unread.foldl {α : Type} {f : Server → α → Server}
    (each : ∀ srv a, Unread heard srv (f srv a)) (items : List α) (srv : Server) :
    Unread heard srv (items.foldl f srv) := by
  induction items generalizing srv with
  | nil => exact .refl srv
  | cons a items ih => exact (each srv a).trans (ih (f srv a))

/-- The objects and what is listed of them are as they were. -/
theorem unread_same {srv srv' : Server} (obj : srv'.obj = srv.obj) (reads : srv'.reads = srv.reads)
    (handlers : srv'.handlers = srv.handlers) (posts : srv'.posts = srv.posts)
    (sweep : srv'.sweep = srv.sweep) (badUdpMap : srv'.badUdpMap = srv.badUdpMap) :
    Unread heard srv srv' :=
  ⟨fun s => obj ▸ .refl _, reads, handlers, by rw [taskPosts, posts, taskPosts], sweep, badUdpMap⟩

theorem modify_unread (srv : Server) (s : Ref) (f : Session → Session)
    (keeps : Session.Unread (heard s) (srv.obj s) (f (srv.obj s))) :
    Unread heard srv (srv.modify s f) :=
  ⟨modify_each (fun x => Session.Unread (heard x)) (fun _ => .refl) keeps, rfl, rfl, rfl, rfl, rfl⟩

/-- A change of the rest of an object. -/
theorem field_unread (srv : Server) (s : Ref) {f : Session → Session}
    (same : ∀ x, (f x).vitals = x.vitals) : Unread heard srv (srv.modify s f) :=
  modify_unread srv s f (Session.unread_of_vitals (same _))

theorem note_unread (srv : Server) (n : Note) : Unread heard srv (srv.note n) :=
  unread_same rfl rfl rfl rfl rfl rfl

/-! ## Closing -/

theorem unmapEndpoint_unread (srv : Server) (s : Ref) :
    Unread heard srv (srv.unmapEndpoint s) := by
  obtain ⟨table, unmapped⟩ := srv.unmapEndpoint_eq s
  rw [unmapped]
  exact unread_same rfl rfl rfl rfl rfl rfl

theorem leaveZone_unread (srv : Server) (s : Ref) : Unread heard srv (srv.leaveZone s) := by
  rcases srv.leaveZone_cases s with ⟨-, same⟩ | ⟨zone, -, -, left⟩
  · rw [same]
    exact .refl srv
  · have listed : Unread heard srv { srv with
        zones := Function.update srv.zones (srv.obj s).zoneId
          (some (zone.erase (srv.obj s).sessionId)) } :=
      unread_same rfl rfl rfl rfl rfl rfl
    rw [left]
    exact listed.trans (field_unread _ s fun _ => rfl)

theorem release_unread (srv : Server) (s : Ref) : Unread heard srv (srv.release s) := by
  rw [release_eq]
  split
  · refine (modify_unread srv s Session.takeBack (Session.takeBack_unread _)).trans ?_
    exact unread_same rfl rfl rfl rfl rfl rfl
  · exact .refl srv

theorem removeSession_unread (srv : Server) (sessionId : Int) :
    Unread heard srv (srv.removeSession sessionId) := by
  simp only [removeSession]
  split
  · exact .refl srv
  · rename_i s _
    have erased : Unread heard srv { srv with manager := srv.manager.eraseSession sessionId } :=
      unread_same rfl rfl rfl rfl rfl rfl
    have cleared (srv : Server) : Unread heard srv (srv.modify s Session.clearUdpToken) :=
      field_unread _ s fun _ => rfl
    refine erased.trans ((unmapEndpoint_unread _ s).trans ((cleared _).trans ?_))
    exact (leaveZone_unread _ s).trans (release_unread _ s)

/-- **A close** ends no read and resets the flags. -/
theorem closeSession_unread (srv : Server) (s : Ref) : Unread heard srv (srv.closeSession s) := by
  rw [closeSession_eq]
  split
  · have shut : Unread heard srv (srv.shut s) :=
      modify_unread srv s _ (Session.shutDown_unread _)
    exact shut.trans ((removeSession_unread _ _).trans
      (modify_unread _ s _ (Session.cleanup_unread _)))
  · exact .refl srv

theorem close_unread (srv : Server) (s : Ref) : Unread heard srv (srv.close s) :=
  (note_unread srv _).trans (closeSession_unread _ s)

/-! ## Writing -/

theorem enqueueWrite_unread {heard : Time → Prop} (config : Config) (message : String)
    (x : Session) : Session.Unread heard x (x.enqueueWrite config message).1 := by
  obtain ⟨queue, count, entered⟩ := x.enqueueWrite_eq config message
  rw [entered]
  exact Session.unread_of_vitals rfl

theorem doWriteQueue_unread (srv : Server) (s : Ref) : Unread heard srv (srv.doWriteQueue s) := by
  have kept : Session.Unread (heard s) (srv.obj s) (srv.obj s).doWriteQueue.1 := by
    simp only [Session.doWriteQueue]
    split
    · exact .refl _
    · split
      · exact Session.unread_of_vitals rfl
      · exact .refl _
  have written : Unread heard srv (srv.modify s fun _ => (srv.obj s).doWriteQueue.1) :=
    modify_unread srv s (fun _ => (srv.obj s).doWriteQueue.1) kept
  simp only [doWriteQueue]
  split <;> rename_i done <;> rw [done] at written
  · exact written
  · exact written.trans (unread_same rfl rfl rfl rfl rfl rfl)

theorem writeNow_unread (srv : Server) (s : Ref) (message : String) :
    Unread heard srv (srv.writeNow env s message) := by
  have queued : Unread heard srv
      (srv.modify s fun _ => ((srv.obj s).enqueueWrite env.config message).1) :=
    modify_unread srv s (fun _ => ((srv.obj s).enqueueWrite env.config message).1)
      (enqueueWrite_unread _ _ _)
  refine writeNow_keeps message queued (fun _ => queued.trans (close_unread _ s)) ?_
  intro srv' so_far
  refine so_far.trans (.trans ?_ (doWriteQueue_unread _ s))
  exact field_unread _ s fun _ => rfl

theorem writeDone_unread (srv : Server) (op : WriteOp) (failed : Bool) :
    Unread heard srv (srv.writeDone op failed) := by
  have landed : Unread heard srv { srv with writes := srv.writes.erase op } :=
    unread_same rfl rfl rfl rfl rfl rfl
  refine writeDone_keeps landed (fun _ _ => landed.trans (close_unread _ _)) ?_
  refine landed.trans (.trans ?_ (doWriteQueue_unread _ _))
  exact field_unread _ _ fun _ => rfl

theorem postWrite_unread (here : Here) (srv : Server) (s : Ref) (message : String) :
    Unread heard srv (srv.postWrite env here s message) := by
  simp only [postWrite]
  split
  · exact writeNow_unread srv s message
  · refine ⟨fun _ => .refl _, rfl, rfl, ?_, rfl, rfl⟩
    simp [taskPosts, List.filter_append]

theorem broadcast_unread (here : Here) (srv : Server) (message : String) (senderId : Int) :
    Unread heard srv (srv.broadcast env here message senderId) :=
  .foldl (fun srv s => postWrite_unread here srv s message) _ srv

theorem broadcastZoneTcp_unread (here : Here) (srv : Server) (message : String)
    (zoneId senderId : Int) :
    Unread heard srv (srv.broadcastZoneTcp env here message zoneId senderId) :=
  .foldl (fun srv s => postWrite_unread here srv s message) _ srv

theorem postLine_unread (here : Here) (srv : Server) (s : Ref) (out : Json) :
    Unread heard srv (srv.postLine env here s out) := postWrite_unread here srv s _

/-! ## Registration -/

theorem addSession_unread (srv : Server) (s : Ref) : Unread heard srv (srv.addSession s) := by
  have filed : Unread heard srv
      { srv with manager := srv.manager.insertSession (srv.obj s).sessionId s } :=
    unread_same rfl rfl rfl rfl rfl rfl
  simp only [addSession]
  split
  · split
    · exact filed
    · exact filed.trans (closeSession_unread _ _)
  · exact filed

theorem evict_unread (here : Here) (srv : Server) (nickname message : String) (s : Ref) :
    Unread heard srv (srv.evict env here nickname message s) := by
  simp only [evict]
  split
  · split
    · exact (postWrite_unread here srv _ _).trans (closeSession_unread _ _)
    · exact .refl srv
  · exact .refl srv

theorem registerNickname_unread (here : Here) (srv : Server) (nickname : String) (s : Ref) :
    Unread heard srv (srv.registerNickname env here nickname s) :=
  (evict_unread here srv nickname loggedInElsewhere s).trans
    (unread_same rfl rfl rfl rfl rfl rfl)

theorem assignSessionToZone_unread (srv : Server) (s : Ref) (zoneId : Int) :
    Unread heard srv (srv.assignSessionToZone env s zoneId) := by
  rcases assignSessionToZone_cases env srv s zoneId with ⟨-, same⟩ | ⟨zone, -, -, -, enters⟩
  · rw [same]
    exact .refl srv
  · have listed : Unread heard srv { srv with
        zones := Function.update srv.zones zoneId
          (some (zone.insert (srv.obj s).sessionId s)) } :=
      unread_same rfl rfl rfl rfl rfl rfl
    rw [enters]
    exact listed.trans (field_unread _ s fun _ => rfl)

theorem seat_unread (here : Here) (srv : Server) (flow : LoginFlow) :
    Unread heard srv (srv.seat env here flow) := by
  have named (srv : Server) : Unread heard srv
      (srv.modify flow.session fun x => { x with nickname := flow.nickname }) :=
    field_unread _ _ fun _ => rfl
  have ready (srv : Server) : Unread heard srv
      (srv.modify flow.session Session.onNicknameRegistered) :=
    modify_unread srv _ _ ⟨rfl, id, .inl rfl, .inl rfl, nofun⟩
  have registered := @registerNickname_unread env heard here srv flow.nickname flow.session
  exact registered.trans ((named _).trans ((ready _).trans (assignSessionToZone_unread _ _ _)))

theorem enroll_unread (here : Here) (srv : Server) (flow : LoginFlow) :
    Unread heard srv (srv.enroll env here flow) := by
  rw [enroll_eq]
  have filed := @addSession_unread heard srv flow.session
  have evicted := @evict_unread env heard here (srv.addSession flow.session) flow.nickname
    duplicateLoginBan flow.session
  exact filed.trans (evicted.trans ((seat_unread here _ flow).trans (note_unread _ _)))

theorem onUserInfoOk_unread (here : Here) (srv : Server) (flow : LoginFlow) (j : Json) :
    Unread heard srv (srv.onUserInfoOk env here flow j) := by
  simp only [onUserInfoOk]
  split
  · exact .refl srv
  · split
    · exact postLine_unread here srv _ _
    · have enrolled := @enroll_unread env heard here srv flow
      exact enrolled.trans ((broadcast_unread here _ _ _).trans (postLine_unread here _ _ _))

theorem onUserInfoFail_unread (here : Here) (srv : Server) (flow : LoginFlow) (j : Json) :
    Unread heard srv (srv.onUserInfoFail env here flow j) := by
  simp only [onUserInfoFail]
  split
  · exact .refl srv
  · exact postLine_unread here srv _ _

theorem runEffects_unread (srv : Server) (effects : List (Effect LoginFlow)) :
    Unread heard srv (srv.runEffects env effects) := by
  refine .foldl (fun srv effect => ?_) effects srv
  simp only [runEffect]
  split
  · exact onUserInfoOk_unread none srv _ _
  · exact onUserInfoFail_unread none srv _ _
  · exact onUserInfoFail_unread none srv _ _
  · exact .refl srv

/-- What a step of the router starts. -/
theorem routed_unread (srv : Server) (router : DBmwRouter LoginFlow)
    (effects : List (Effect LoginFlow)) :
    Unread heard srv ({ srv with dbRouter := some router }.runEffects env effects) := by
  refine .trans ?_ (runEffects_unread _ effects)
  exact unread_same rfl rfl rfl rfl rfl rfl

theorem requestUserInfo_unread (here : Here) (srv : Server) (flow : LoginFlow)
    (senderThrows : Bool) :
    Unread heard srv (srv.requestUserInfo env here flow senderThrows) := by
  simp only [requestUserInfo]
  split
  · exact onUserInfoOk_unread here srv flow _
  · split
    · exact routed_unread srv _ _
    · exact onUserInfoOk_unread here srv flow _

/-! ## Handling a message -/

theorem banDuplicate_unread (here : Here) (srv : Server) (nickname : String) (s : Ref) :
    Unread heard srv (srv.banDuplicate env here nickname s) := by
  simp only [banDuplicate]
  split
  · split
    · exact (postWrite_unread here srv _ _).trans (close_unread _ _)
    · exact .refl srv
  · exact .refl srv

theorem loginHandler_unread (here : Here) {srv srv' : Server} (origin : Origin) (msg : Json)
    (senderThrows : Bool) (handled : srv.loginHandler env here origin msg senderThrows = .ok srv') :
    Unread heard srv srv' := by
  simp only [loginHandler] at handled
  split at handled
  · cases handled
  · cases handled
    split
    · exact postWrite_unread here srv _ _
    · split
      · exact (postWrite_unread here srv _ _).trans (close_unread _ _)
      · exact (banDuplicate_unread here srv _ _).trans (requestUserInfo_unread here _ _ _)

theorem logoutHandler_unread (here : Here) (srv : Server) (s : Ref) :
    Unread heard srv (srv.logoutHandler env here s) := by
  simp only [logoutHandler]
  split
  · exact (postWrite_unread here srv _ _).trans (close_unread _ _)
  · exact (broadcast_unread here srv _ _).trans (close_unread _ _)

theorem chatHandler_unread (here : Here) {srv srv' : Server} (s : Ref) (msg : Json)
    (handled : srv.chatHandler env here s msg = .ok srv') : Unread heard srv srv' := by
  simp only [chatHandler] at handled
  split at handled
  · cases handled
  · cases handled
    exact (broadcast_unread here srv _ _).trans (postLine_unread here _ _ _)

theorem chatZoneHandler_unread (here : Here) {srv srv' : Server} (s : Ref) (msg : Json)
    (handled : srv.chatZoneHandler env here s msg = .ok srv') : Unread heard srv srv' := by
  simp only [chatZoneHandler] at handled
  split at handled
  · cases handled
    exact postLine_unread here srv _ _
  · split at handled
    · cases handled
    · split at handled
      · cases handled
        exact postLine_unread here srv _ _
      · cases handled
        exact (broadcastZoneTcp_unread here srv _ _ _).trans (postLine_unread here _ _ _)

/-- A `keepalive` gives its session a sign of life. -/
theorem keepaliveHandler_unread (srv : Server) {now : Time} {s : Ref} (told : heard s now) :
    Unread heard srv (srv.keepaliveHandler now s) :=
  modify_unread srv s _ ⟨rfl, id, .inr told, .inl rfl, .inl⟩

theorem handleMessage_unread (here : Here) {srv srv' : Server} {now : Time} {origin : Origin}
    {type : String} (told : type = "keepalive" → heard origin.session now) (msg : Json)
    (senderThrows : Bool)
    (handled : srv.handleMessage env here now origin type msg senderThrows = some (.ok srv')) :
    Unread heard srv srv' := by
  simp only [handleMessage] at handled
  split at handled
  · exact loginHandler_unread here origin msg senderThrows (Option.some.inj handled)
  · split at handled
    · cases handled
      exact logoutHandler_unread here srv _
    · split at handled
      · exact chatHandler_unread here _ msg (Option.some.inj handled)
      · split at handled
        · exact chatZoneHandler_unread here _ msg (Option.some.inj handled)
        · split at handled
          · rename_i keepalive
            cases handled
            exact keepaliveHandler_unread srv (told keepalive)
          · cases handled

/-- **Handling a message** reads nothing. -/
theorem dispatch_unread (here : Here) (srv : Server) {now : Time} {origin : Origin} {msg : Json}
    (told : msg.valueStr "type" "" = .ok "keepalive" → heard origin.session now)
    (senderThrows : Bool) :
    Unread heard srv (srv.dispatch env here now origin msg senderThrows) := by
  simp only [dispatch]
  split
  · exact close_unread srv _
  · rename_i type typed
    split
    · exact postWrite_unread here srv _ _
    · split
      · rename_i handled
        refine handleMessage_unread here ?_ msg senderThrows handled
        rintro rfl
        exact told typed
      · exact postWrite_unread here srv _ _
      · exact close_unread srv _
      · exact (postWrite_unread here srv _ _).trans (close_unread _ _)

theorem announceLeft_unread (here : Here) (srv : Server) (s : Ref) :
    Unread heard srv (srv.announceLeft env here s) := broadcast_unread here srv _ _

theorem loginTimerFired_unread (srv : Server) (timer : LoginTimer) :
    Unread heard srv (srv.loginTimerFired env timer) := by
  have taken : Unread heard srv { srv with loginTimers := srv.loginTimers.erase timer } :=
    unread_same rfl rfl rfl rfl rfl rfl
  simp only [loginTimerFired]
  split
  · exact taken
  · exact taken.trans ((postWrite_unread _ _ _ _).trans (close_unread _ _))

/-! ## Datagrams -/

theorem checkUdpRateLimit_unread (srv : Server) (now : Time) (s : Ref) :
    Unread heard srv (srv.checkUdpRateLimit now s).1 := by
  have kept : Session.Unread (heard s) (srv.obj s) ((srv.obj s).checkUdpRateLimit now).1 := by
    simp only [Session.checkUdpRateLimit]
    split <;> split <;> exact Session.unread_of_vitals rfl
  exact modify_unread srv s (fun _ => ((srv.obj s).checkUdpRateLimit now).1) kept

theorem rebind_unread (srv : Server) (s : Ref) (sender : Endpoint) :
    Unread heard srv (srv.rebind s sender) := by
  have mapped (srv : Server) : Unread heard srv
      { srv with udpEndpointToSession := srv.udpEndpointToSession.insert sender s } :=
    unread_same rfl rfl rfl rfl rfl rfl
  simp only [rebind]
  split
  · exact .refl srv
  · refine (unmapEndpoint_unread srv s).trans ((mapped _).trans ?_)
    exact field_unread _ s fun _ => rfl

theorem udpRegisterHandler_unread (srv : Server) (r : Reception) (s : Ref) (msg : Json)
    (sender : Endpoint) : Unread heard srv (srv.udpRegisterHandler env r s msg sender).1 := by
  have endpoint (srv : Server) : Unread heard srv (srv.modify s (Session.setUdpEndpoint sender)) :=
    field_unread _ s fun _ => rfl
  have alive (srv : Server) : Unread heard srv (srv.modify s (Session.updateUdpAliveTime r.now)) :=
    field_unread _ s fun _ => rfl
  have ttl (srv : Server) : Unread heard srv
      (srv.modify s (Session.setUdpTokenTtl env.config.udpTokenTtlSeconds)) :=
    field_unread _ s fun _ => rfl
  have token (srv : Server) : Unread heard srv
      (srv.modify s (Session.setUdpToken env.config r.now r.token)) :=
    field_unread _ s fun _ => rfl
  simp only [udpRegisterHandler]
  refine (endpoint _).trans ((alive _).trans ((ttl _).trans ((token _).trans ?_)))
  split
  · exact .refl _
  · refine .trans ?_ (note_unread _ _)
    exact field_unread _ s fun _ => rfl

theorem dispatchUdpParsed_unread (srv : Server) (r : Reception) (s : Ref) (type : String)
    (msg : Json) (sender : Endpoint) :
    Unread heard srv (srv.dispatchUdpParsed env r s type msg sender).1 := by
  by_cases register : type = "udp_register"
  · subst register
    rw [dispatchUdpParsed_register]
    exact udpRegisterHandler_unread srv r s msg sender
  · rw [dispatchUdpParsed_server register]
    exact unread_same rfl rfl rfl rfl rfl rfl

theorem receiveFor_unread (srv : Server) (r : Reception) (s : Ref) (type token : String)
    (msg : Json) (sender : Endpoint) :
    Unread heard srv (srv.receiveFor env r s type token msg sender).1 := by
  have alive (srv : Server) : Unread heard srv (srv.modify s (Session.updateUdpAliveTime r.now)) :=
    field_unread _ s fun _ => rfl
  simp only [receiveFor]
  split
  · dsimp only
    split
    · refine .trans ?_ (note_unread _ _)
      exact field_unread _ s fun _ => rfl
    · exact .refl srv
  · have asked : Unread heard srv (srv.checkUdpRateLimit r.now s).1 :=
      checkUdpRateLimit_unread srv r.now s
    rcases checked : srv.checkUdpRateLimit r.now s with ⟨srv', admitted⟩
    rw [checked] at asked
    dsimp only at asked ⊢
    split
    · refine asked.trans (.trans ?_ ((alive _).trans
        (dispatchUdpParsed_unread _ r s type msg sender)))
      split
      · exact rebind_unread _ s sender
      · exact .refl _
    · exact asked

/-- **Handling a datagram** reads nothing. -/
theorem onUdpReceive_unread (srv : Server) (r : Reception) (msg : Bytes) (sender : Endpoint) :
    Unread heard srv (srv.onUdpReceive env r msg sender).1 := by
  have counted : Unread heard srv (srv.counted env r) := unread_same rfl rfl rfl rfl rfl rfl
  rcases onUdpReceive_cases env srv r msg sender with
    ⟨j, s, nickname, type, token, -, -, given⟩ | ⟨sent, -, -, given⟩
  · rw [given]
    exact counted.trans (receiveFor_unread _ r _ _ _ _ sender)
  · rw [given]
    exact counted

theorem runUdpBroadcast_unread (srv : Server) (post : String × String) :
    Unread heard srv (srv.runUdpBroadcast env post).1 := by
  simp only [runUdpBroadcast]
  split <;> exact unread_same rfl rfl rfl rfl rfl rfl

/-- No session is ever closed, so the walk finds nothing to clear. -/
theorem expireStaleUdpEndpoints_unread (srv : Server) :
    Unread heard srv srv.expireStaleUdpEndpoints :=
  .foldl (fun srv _ => .refl srv) _ srv

/-! ## Reading -/

/-- The sessions last, the sweep and the record of bad datagrams stand. -/
structure Enduring (heard : Ref → Time → Prop) (srv srv' : Server) : Prop where
  obj : ∀ s, Session.Enduring (heard s) (srv.obj s) (srv'.obj s)
  sweep : srv'.sweep = srv.sweep
  badUdpMap : srv'.badUdpMap = srv.badUdpMap

theorem Enduring.refl (srv : Server) : Enduring heard srv srv := ⟨fun _ => .refl _, rfl, rfl⟩

theorem Enduring.trans {a b c : Server} (first : Enduring heard a b) (then_ : Enduring heard b c) :
    Enduring heard a c :=
  ⟨fun s => (first.obj s).trans (then_.obj s), then_.sweep.trans first.sweep,
    then_.badUdpMap.trans first.badUdpMap⟩

theorem Unread.enduring {srv srv' : Server} (unread : Unread heard srv srv') :
    Enduring heard srv srv' :=
  ⟨fun s => (unread.obj s).enduring, unread.sweep, unread.badUdpMap⟩

theorem lasting_same {srv srv' : Server} (obj : srv'.obj = srv.obj)
    (sweep : srv'.sweep = srv.sweep) (badUdpMap : srv'.badUdpMap = srv.badUdpMap) :
    Enduring heard srv srv' :=
  ⟨fun _ => obj ▸ .refl _, sweep, badUdpMap⟩

theorem modify_enduring (srv : Server) (s : Ref) {f : Session → Session}
    (keeps : Session.Enduring (heard s) (srv.obj s) (f (srv.obj s))) :
    Enduring heard srv (srv.modify s f) :=
  ⟨modify_each (fun x => Session.Enduring (heard x)) (fun _ => .refl) keeps, rfl, rfl⟩

theorem runTask_enduring (srv : Server) (s : Ref) (task : Task) :
    Enduring heard srv (srv.runTask s task) := by
  cases task with
  | readSome => exact lasting_same rfl rfl rfl

theorem runNextTask_enduring (srv : Server) (s : Ref) : Enduring heard srv (srv.runNextTask s) := by
  simp only [runNextTask, Session.runNextTask]
  cases (srv.obj s).taskQueue with
  | nil => exact modify_enduring srv s ⟨rfl, id, .inl rfl⟩
  | cons task rest =>
      refine .trans ?_ (runTask_enduring _ s task)
      exact modify_enduring srv s ⟨rfl, id, .inl rfl⟩

theorem pushTask_enduring (srv : Server) (s : Ref) (task : Task) :
    Enduring heard srv (srv.pushTask env s task) := by
  simp only [pushTask]
  split
  · exact (close_unread srv s).enduring
  · have pushed : Enduring heard srv (srv.modify s fun x =>
        { x with taskQueue := x.taskQueue ++ [task], taskRunning := true }) :=
      modify_enduring srv s ⟨rfl, id, .inl rfl⟩
    split
    · exact pushed
    · exact pushed.trans (runNextTask_enduring _ s)

theorem doRead_enduring (here : Here) (srv : Server) (s : Ref) :
    Enduring heard srv (srv.doRead env here s) := by
  rcases doRead_cases env here srv s with ⟨-, same⟩ | ⟨-, -, begins⟩
  · rw [same]
    exact .refl srv
  · have pending : Enduring heard srv (srv.modify s fun x => { x with readPending := true }) :=
      modify_enduring srv s ⟨rfl, id, .inl rfl⟩
    rw [begins]
    refine pending.trans ?_
    simp only [postTask]
    split
    · exact pushTask_enduring _ s _
    · exact lasting_same rfl rfl rfl

theorem startLoginTimeout_unread (srv : Server) (s : Ref) :
    Unread heard srv (srv.startLoginTimeout s) := by
  simp only [startLoginTimeout]
  split
  · exact .refl srv
  · exact unread_same rfl rfl rfl rfl rfl rfl

theorem start_enduring (here : Here) (srv : Server) (s : Ref) :
    Enduring heard srv (srv.start env here s) :=
  (doRead_enduring here srv s).trans (startLoginTimeout_unread _ s).enduring

theorem readDone_enduring (srv : Server) (op : ReadOp) (result : ReadResult) :
    Enduring heard srv (srv.readDone env op result) := by
  have lowered : Enduring heard srv
      (({ srv with reads := srv.reads.erase op } : Server).modify op.origin.session fun x =>
        { x with readPending := false }) := by
    have taken : Enduring heard srv { srv with reads := srv.reads.erase op } :=
      lasting_same rfl rfl rfl
    exact taken.trans (modify_enduring _ op.origin.session ⟨rfl, id, .inl rfl⟩)
  have closed (srv : Server) : Enduring heard srv
      ((srv.close op.origin.session).runNextTask op.origin.session) :=
    (close_unread srv _).enduring.trans (runNextTask_enduring _ _)
  simp only [readDone]
  split
  · rename_i bytes
    have filled (srv : Server) : Enduring heard srv (srv.modify op.origin.session fun x =>
        { x with msgBuf := x.msgBuf.append bytes }) :=
      modify_enduring _ _ ⟨rfl, id, .inl rfl⟩
    exact lowered.trans ((filled _).trans (lasting_same rfl rfl rfl))
  · exact lowered.trans ((announceLeft_unread _ _ _).enduring.trans (closed _))
  · refine lowered.trans (.trans ?_ (closed _))
    split
    · exact .refl _
    · exact (announceLeft_unread _ _ _).enduring
  · exact lowered.trans (runNextTask_enduring _ _)
  · exact lowered.trans (closed _)

/-- The message a turn of the extraction loop hands on is a `keepalive`. -/
def Keepalive (env : Env) (srv : Server) (s : Ref) : Prop :=
  ∃ msg ∈ (srv.obj s).msgBuf.extractMessage.1, ∃ j ∈ env.parse msg,
    j.valueStr "type" "" = .ok "keepalive"

theorem handlerStep_enduring (srv : Server) {now : Time} {origin : Origin}
    (told : srv.Keepalive env origin.session → heard origin.session now) (senderThrows : Bool) :
    Enduring heard srv (srv.handlerStep env now origin senderThrows) := by
  have taken (srv : Server) (m : MessageBufferManager) : Enduring heard srv
      (srv.modify origin.session fun x => { x with msgBuf := m }) :=
    modify_enduring _ _ ⟨rfl, id, .inl rfl⟩
  have ended (srv : Server) : Enduring heard srv
      { srv with handlers := srv.handlers.erase origin } := lasting_same rfl rfl rfl
  rcases handlerStep_cases env srv now origin senderThrows with
    ⟨msg, m, extracted, turn⟩ | ⟨m, -, turn⟩
  · refine (taken srv m).trans ?_
    rcases turn with ⟨-, -, done⟩ | ⟨-, -, done⟩ | ⟨j, parsed, done⟩
    · rw [done]
      exact (ended _).trans (close_unread _ _).enduring
    · rw [done]
      exact (postLine_unread _ _ _ _).enduring
    · rw [done]
      refine (dispatch_unread _ _ ?_ senderThrows).enduring
      intro typed
      exact told ⟨msg, by rw [extracted]; rfl, j, parsed, typed⟩
  · refine (taken srv m).trans ((ended _).trans ?_)
    rcases turn with ⟨-, done⟩ | ⟨-, done⟩
    · rw [done]
      exact (close_unread _ _).enduring
    · rw [done]
      exact (doRead_enduring _ _ _).trans (runNextTask_enduring _ _)

theorem runPost_enduring (srv : Server) (post : Post) :
    Enduring heard srv (srv.runPost env post) := by
  have taken : Enduring heard srv { srv with posts := srv.posts.erase post } :=
    lasting_same rfl rfl rfl
  simp only [runPost]
  split
  · exact taken.trans (writeNow_unread _ _ _).enduring
  · exact taken.trans (pushTask_enduring _ _ _)

end Server

/-! ## Events -/

/-- The events that begin and end no read, hand out no object, are no datagram and no
part of a sweep. -/
def Event.quiet : Event → Bool
  | .loginTimer _ _ | .writeDone _ _ | .expireStaleUdp | .dbConnected _ | .dbMessage _
  | .dbExpire _ _ | .dbResend _ _ _ | .udpBroadcast _ => true
  | _ => false

/-- The same with the reads. -/
def Event.lasts : Event → Bool
  | .readDone _ _ | .handlerStep _ _ _ | .post _ => true
  | e => e.quiet

namespace Server

variable {env : Env} {heard : Ref → Time → Prop}

/-- **An event that is no read leaves the reads alone.** -/
theorem react_unread (srv : Server) {e : Event} (quiet : e.quiet = true) :
    Unread heard srv (srv.react env e) := by
  cases e with
  | loginTimer timer cancelled =>
      simp only [react]
      split
      · split
        · exact unread_same rfl rfl rfl rfl rfl rfl
        · exact loginTimerFired_unread srv timer
      · exact .refl srv
  | writeDone op failed =>
      simp only [react]
      split
      · exact writeDone_unread srv op failed
      · exact .refl srv
  | expireStaleUdp => exact expireStaleUdpEndpoints_unread srv
  | dbConnected connected => exact unread_same rfl rfl rfl rfl rfl rfl
  | dbMessage message =>
      simp only [react]
      split
      · exact .refl srv
      · exact routed_unread srv _ _
  | dbExpire reqId senderThrows =>
      simp only [react]
      split
      · exact .refl srv
      · exact routed_unread srv _ _
  | dbResend reqId cancelled senderThrows =>
      simp only [react]
      split
      · exact .refl srv
      · exact routed_unread srv _ _
  | udpBroadcast post =>
      simp only [react]
      split
      · exact runUdpBroadcast_unread srv post
      · exact .refl srv
  | _ => cases quiet

/-- **The sessions last over such an event and over a read**, which may bring a sign of
life. -/
theorem react_enduring (srv : Server) {e : Event} (lasts : e.lasts = true)
    (told : ∀ now origin senderThrows, e = .handlerStep now origin senderThrows →
      srv.Keepalive env origin.session → heard origin.session now) :
    Enduring heard srv (srv.react env e) := by
  cases e with
  | readDone op result =>
      simp only [react]
      split
      · exact readDone_enduring srv op result
      · exact .refl srv
  | handlerStep now origin senderThrows =>
      simp only [react]
      split
      · exact handlerStep_enduring srv (told now origin senderThrows rfl) senderThrows
      · exact .refl srv
  | post post =>
      simp only [react]
      split
      · exact runPost_enduring srv post
      · exact .refl srv
  | _ => exact Unread.enduring (react_unread srv lasts)

/-- The objects last over a datagram; the record of bad ones may change. -/
theorem udpReceive_obj (srv : Server) (r : Reception) (msg : Bytes) (sender : Endpoint) :
    Unread heard { srv with badUdpMap := (srv.udpReceive env r msg sender).1.badUdpMap }
      (srv.udpReceive env r msg sender).1 := by
  have any (srv' : Server) (unread : Unread heard srv srv') :
      Unread heard { srv with badUdpMap := srv'.badUdpMap } srv' :=
    ⟨unread.obj, unread.reads, unread.handlers, unread.tasks, unread.sweep, rfl⟩
  have asked : Unread heard srv (srv.askedFor r.now sender).1 :=
    askedFor_keeps _ (.refl srv) (checkUdpRateLimit_unread srv r.now)
  rcases udpReceive_cases env srv r msg sender with
    ⟨-, given⟩ | ⟨-, given⟩ | ⟨-, given⟩ | ⟨-, -, -, given⟩
  · rw [given]
    exact any _ (.refl srv)
  · rw [given]
    exact unread_same rfl rfl rfl rfl rfl rfl
  · rw [given]
    exact any _ asked
  · rw [given]
    exact any _ (asked.trans (onUdpReceive_unread _ r msg sender))

end Server

end GameServer.Kernel
