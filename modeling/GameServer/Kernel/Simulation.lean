/-
# Kernel.Simulation -- every event is a list of registry operations

The handlers, each traced: what it does to identity is what its notes say, a
completion gets only flows whose read fits, and a read that starts fits.  An
invariant of `Registry.exec` is then one of the server.

* `react_traced`, `step_traced` -- one event;
* `after_refines` -- a run of the server is a run of the registry on the notes of
  its events, and its completions are lawful;
* `step_refines_directory` -- and of the directory, endpoint map included;
* `after_sane` -- what is in flight fits.
-/
import GameServer.Kernel.Refinement

namespace GameServer.Kernel

set_option autoImplicit false

open Wire Dbmw Theory.Runs

namespace Server

variable {env : Env} {udp : Bool}

/-! ## LoginFlow -/

/-- What a completion leaves, after the eviction: `srv` is the server its
`register_nickname` meets. -/
def seat (env : Env) (here : Here) (srv : Server) (flow : LoginFlow) : Server :=
  ((((srv.registerNickname env here flow.nickname flow.session).modify flow.session fun x =>
    { x with nickname := flow.nickname }).modify flow.session
      Session.onNicknameRegistered).assignSessionToZone env flow.session 1)

/-- Whom the object serves as `seat` registers, names and zones it. -/
def servings (env : Env) (here : Here) (srv : Server) (flow : LoginFlow) : List (Option Nat) :=
  let s := flow.session
  let registered := srv.registerNickname env here flow.nickname s
  let named := registered.modify s fun x => { x with nickname := flow.nickname }
  [srv.serving s, registered.serving s, (named.modify s Session.onNicknameRegistered).serving s]

theorem seat_registry (env : Env) {here : Here} {flow : LoginFlow} (aside : Aside here flow.session)
    (srv : Server) :
    (srv.seat env here flow).registry env =
        (((srv.registry env).evict flow.nickname flow.session).setIndex flow.nickname
          flow.session).modify flow.session (fun h =>
            { h with
              nickname := flow.nickname
              zoneId := ((srv.seat env here flow).obj flow.session).zoneId }) ∧
      (srv.seat env here flow).flight = srv.flight := by
  obtain ⟨registered, flight⟩ := registerNickname_registry env aside srv flow.nickname
  obtain ⟨zoned, zoneFlight⟩ := assignSessionToZone_registry env
    (((srv.registerNickname env here flow.nickname flow.session).modify flow.session fun x =>
      { x with nickname := flow.nickname }).modify flow.session Session.onNicknameRegistered)
    flow.session 1
  refine ⟨?_, zoneFlight.trans flight⟩
  refine zoned.trans ?_
  rw [modify_registry_quiet (f := Session.onNicknameRegistered) rfl,
    modify_registry (g := fun h => { h with nickname := flow.nickname }) rfl, registered]
  simp [Registry.modify, seat]

/-- The seat, with the endpoint map. -/
theorem seat_directory (env : Env) {here : Here} {flow : LoginFlow}
    (aside : Aside here flow.session) (srv : Server) :
    (srv.seat env here flow).directory env =
      ((srv.directory env).evict flow.nickname flow.session).seat flow.session flow.nickname
        ((srv.seat env here flow).obj flow.session).zoneId := by
  refine directory_eq ?_ ?_
  · rw [(seat_registry env aside srv).1]
    simp only [Directory.seat, Directory.evict_registry]
    rfl
  · exact (assignSessionToZone_table env _ flow.session 1).trans
      (registerNickname_table env aside srv flow.nickname)

theorem serving_registry (env : Env) (srv : Server) (s : Ref) :
    srv.serving s = ((srv.registry env).holder s).serving := rfl

/-- A completion: the eviction, the seat, and the note of it. -/
theorem enroll_eq (here : Here) (srv : Server) (flow : LoginFlow) :
    srv.enroll env here flow =
      let evicting := (srv.addSession flow.session).evict env here flow.nickname duplicateLoginBan
        flow.session
      (evicting.seat env here flow).note (.enroll flow (srv.obj flow.session).generation
        (evicting.servings env here flow) ((evicting.seat env here flow).obj flow.session).zoneId) :=
  rfl

theorem enroll_traced {here : Here} {flow : LoginFlow} (aside : Aside here flow.session)
    {srv : Server} (fits : Sane env srv → FlowFits (srv.registry env) flow) :
    Traced env udp srv (srv.enroll env here flow) := by
  obtain ⟨evicting, named⟩ : ∃ srv', srv' = (srv.addSession flow.session).evict env here
      flow.nickname duplicateLoginBan flow.session := ⟨_, rfl⟩
  obtain ⟨evicted, flight⟩ := evict_registry env aside (srv.addSession flow.session)
    flow.nickname duplicateLoginBan
  rw [← named] at evicted flight
  rw [addSession_registry] at evicted
  rw [addSession_flight] at flight
  have evictedWith := (evict_directory env aside (srv.addSession flow.session) flow.nickname
    duplicateLoginBan).1
  rw [← named] at evictedWith
  obtain ⟨-, seatFlight⟩ := seat_registry env aside evicting
  have served : evicting.serving flow.session = srv.serving flow.session := by
    rw [serving_registry env, evicted, Registry.serving_evict, Registry.serving_file]
    rfl
  have registered : (evicting.registerNickname env here flow.nickname flow.session).serving
      flow.session = srv.serving flow.session := by
    rw [← served, serving_registry env,
      (registerNickname_registry env aside evicting flow.nickname).1]
    exact Registry.serving_evict _ _ _
  rw [enroll_eq, ← named]
  refine .noted (.enroll flow (srv.obj flow.session).generation (evicting.servings env here flow)
    ((evicting.seat env here flow).obj flow.session).zoneId) ?_ (fun sane => ?_)
    (fun absurd => nomatch absurd) ?_
  · refine (seat_directory env aside evicting).trans ?_
    rw [evictedWith, addSession_directory]
    rfl
  · refine ⟨(fits sane).1, (fits sane).2, rfl, ?_⟩
    intro serving member
    change serving = srv.serving flow.session
    simp only [servings, List.mem_cons, List.not_mem_nil, or_false] at member
    rcases member with rfl | rfl | rfl
    · exact served
    · exact registered
    · rw [← registered]
      simp [Server.serving, Session.onNicknameRegistered]
  · have journal : (evicting.seat env here flow).flight = srv.flight := seatFlight.trans flight
    simp only [Server.flight, Prod.mk.injEq] at journal ⊢
    obtain ⟨reads, handlers, router, journal⟩ := journal
    exact ⟨reads, handlers, router, by rw [note, note, journal]⟩

theorem onUserInfoOk_traced {here : Here} {flow : LoginFlow} (aside : Aside here flow.session)
    (j : Json) {srv : Server} (fits : Sane env srv → FlowFits (srv.registry env) flow) :
    Traced env udp srv (srv.onUserInfoOk env here flow j) := by
  unfold onUserInfoOk
  split
  · exact .refl srv
  · split
    · exact postLine_traced here srv _ _
    · exact (enroll_traced aside fits).trans
        ((broadcast_traced here _ _ _).trans (postLine_traced here _ _ _))

theorem onUserInfoFail_traced (here : Here) (srv : Server) (flow : LoginFlow) (j : Json) :
    Traced env udp srv (srv.onUserInfoFail env here flow j) := by
  unfold onUserInfoFail
  split
  · exact .refl srv
  · exact postLine_traced here srv _ _

theorem runEffect_traced (srv : Server) (effect : Effect LoginFlow)
    (fits : Sane env srv → ∀ flow, effect.callee = some flow →
      FlowFits (srv.registry env) flow) : Traced env udp srv (srv.runEffect env effect) := by
  cases effect with
  | call serial which flow j =>
      cases which with
      | onOk => exact onUserInfoOk_traced (.inl rfl) j fun sane => fits sane flow rfl
      | onError => exact onUserInfoFail_traced none srv flow j
  | refused flow j => exact onUserInfoFail_traced none srv flow j
  | _ => exact .refl srv

theorem runEffects_traced (effects : List (Effect LoginFlow)) (srv : Server)
    (fits : Sane env srv → ∀ effect ∈ effects, ∀ flow, effect.callee = some flow →
      FlowFits (srv.registry env) flow) : Traced env udp srv (srv.runEffects env effects) := by
  induction effects generalizing srv with
  | nil => exact .refl srv
  | cons effect effects ih =>
      intro sane
      have first : Traced env udp srv _ :=
        runEffect_traced srv effect fun sane => fits sane effect List.mem_cons_self
      obtain ⟨older, -⟩ := first.older sane
      exact first.trans (ih _ fun _ effect' member flow called =>
        (fits sane effect' (List.mem_cons_of_mem _ member) flow called).later older) sane

/-- A step of the router: its entries keep callbacks that fit, and so do its calls. -/
theorem routerStep_traced {srv : Server} {out : DBmwRouter LoginFlow × List (Effect LoginFlow)}
    (within : Sane env srv → Within (FlowFits (srv.registry env)) out) :
    Traced env udp srv ({ srv with dbRouter := some out.1 }.runEffects env out.2) := by
  have replaced : Traced env udp srv { srv with dbRouter := some out.1 } := by
    intro sane
    refine ⟨[], by simp, rfl, trivial, by simp, sane.opened, sane.reads, sane.handlers, ?_⟩
    intro router found flow carries
    cases found
    exact (within sane).1 flow carries
  intro sane
  obtain ⟨older, -⟩ := replaced.older sane
  exact replaced.trans (runEffects_traced _ _ fun _ effect member flow called =>
    ((within sane).2 effect member flow called).later older) sane

theorem requestUserInfo_traced {here : Here} (flow : LoginFlow) (aside : Aside here flow.session)
    (senderThrows : Bool) {srv : Server}
    (fits : Sane env srv → FlowFits (srv.registry env) flow) :
    Traced env udp srv (srv.requestUserInfo env here flow senderThrows) := by
  unfold requestUserInfo
  cases found : srv.dbRouter with
  | none => exact onUserInfoOk_traced aside _ fits
  | some router =>
      dsimp only
      split
      · refine routerStep_traced fun sane => ?_
        refine DBmwRouter.sendRequestCb_within _ _ _ _ _ _ _ (sane.flows router found) ?_
        rintro callback (given | given) <;> cases given <;> exact fits sane
      · exact onUserInfoOk_traced aside _ fits

/-! ## Handlers -/

theorem banDuplicate_traced (here : Here) (srv : Server) (nickname : String) (s : Ref) :
    Traced env udp srv (srv.banDuplicate env here nickname s) := by
  unfold banDuplicate
  split
  · split
    · exact (postWrite_traced here srv _ _).trans (close_traced _ _)
    · exact .refl srv
  · exact .refl srv

theorem loginHandler_traced {here : Here} {origin : Origin} (aside : Aside here origin.session)
    (msg : Json) (senderThrows : Bool) {srv srv' : Server}
    (fits : Sane env srv → (srv.registry env).Fits origin)
    (handled : srv.loginHandler env here origin msg senderThrows = .ok srv') :
    Traced env udp srv srv' := by
  unfold loginHandler at handled
  dsimp only at handled
  split at handled
  · cases handled
  · rename_i nickname _
    injection handled with handled
    subst handled
    split
    · exact postWrite_traced here srv _ _
    · rename_i named
      split
      · exact (postWrite_traced here srv _ _).trans (close_traced _ _)
      · have evicted : Traced env udp srv _ := banDuplicate_traced here srv nickname origin.session
        intro sane
        obtain ⟨older, -⟩ := evicted.older sane
        exact evicted.trans (requestUserInfo_traced ⟨origin, nickname⟩ aside senderThrows
          fun _ => ⟨(fits sane).later older, named⟩) sane

theorem logoutHandler_traced (here : Here) (srv : Server) (s : Ref) :
    Traced env udp srv (srv.logoutHandler env here s) := by
  unfold logoutHandler
  dsimp only
  split
  · exact (postWrite_traced here srv _ _).trans (close_traced _ _)
  · exact (broadcast_traced here srv _ _).trans (close_traced _ _)

theorem chatHandler_traced (here : Here) {srv srv' : Server} (s : Ref) (msg : Json)
    (handled : srv.chatHandler env here s msg = .ok srv') : Traced env udp srv srv' := by
  unfold chatHandler at handled
  split at handled
  · cases handled
  · cases handled
    exact (broadcast_traced here srv _ _).trans (postLine_traced here _ _ _)

theorem chatZoneHandler_traced (here : Here) {srv srv' : Server} (s : Ref) (msg : Json)
    (handled : srv.chatZoneHandler env here s msg = .ok srv') : Traced env udp srv srv' := by
  unfold chatZoneHandler at handled
  dsimp only at handled
  split at handled
  · cases handled
    exact postLine_traced here srv _ _
  · split at handled
    · cases handled
    · split at handled
      · cases handled
        exact postLine_traced here srv _ _
      · cases handled
        exact (broadcastZoneTcp_traced here srv _ _ _).trans (postLine_traced here _ _ _)

theorem handleMessage_traced {here : Here} {origin : Origin} (aside : Aside here origin.session)
    (now : Time) (type : String) (msg : Json) (senderThrows : Bool) {srv srv' : Server}
    (fits : Sane env srv → (srv.registry env).Fits origin)
    (handled : srv.handleMessage env here now origin type msg senderThrows = some (.ok srv')) :
    Traced env udp srv srv' := by
  unfold handleMessage at handled
  dsimp only at handled
  split at handled
  · exact loginHandler_traced aside msg senderThrows fits (Option.some.inj handled)
  split at handled
  · cases handled
    exact logoutHandler_traced here srv _
  split at handled
  · exact chatHandler_traced here _ msg (Option.some.inj handled)
  split at handled
  · exact chatZoneHandler_traced here _ msg (Option.some.inj handled)
  split at handled
  · cases handled
    exact modify_traced rfl
  · cases handled

theorem dispatch_traced {here : Here} {origin : Origin} (aside : Aside here origin.session)
    (now : Time) (msg : Json) (senderThrows : Bool) {srv : Server}
    (fits : Sane env srv → (srv.registry env).Fits origin) :
    Traced env udp srv (srv.dispatch env here now origin msg senderThrows) := by
  unfold dispatch
  dsimp only
  split
  · exact close_traced srv _
  · split
    · exact postWrite_traced here srv _ _
    · split
      · rename_i handled
        exact handleMessage_traced aside now _ msg senderThrows fits handled
      · exact postWrite_traced here srv _ _
      · exact close_traced srv _
      · exact (postWrite_traced here srv _ _).trans (close_traced _ _)

/-! ## The read handler -/

theorem readDone_traced {srv : Server} {op : ReadOp} (member : op ∈ srv.reads) {result : ReadResult}
    (delivers : Delivers op result) : Traced env udp srv (srv.readDone env op result) := by
  have landed : Traced env udp srv
      ({ srv with reads := srv.reads.erase op }.modify op.origin.session fun x =>
        { x with readPending := false }) :=
    .landed (modify_directory_quiet rfl) (List.erase_subset ..) (List.Subset.refl _) rfl rfl
  unfold readDone
  cases result with
  | data bytes =>
      -- the read was live, so the loop it starts runs for a use that fits
      intro sane
      have fits := sane.reads op member delivers.1
      have appended : Traced env udp _ _ := landed.trans (modify_traced
        (s := op.origin.session) (f := fun x => { x with msgBuf := x.msgBuf.append bytes }) rfl)
      refine appended.trans (fun sane' => ⟨[], by simp, rfl, trivial, by simp, sane'.opened,
        sane'.reads, ?_, sane'.flows⟩) sane
      obtain ⟨older, -⟩ := appended.older sane
      intro origin running
      rcases List.mem_append.mp running with before | started
      · exact sane'.handlers origin before
      · rw [List.mem_singleton.mp started]
        exact fits.later older
  | eof =>
      exact landed.trans ((broadcast_traced _ _ _ _).trans
        ((close_traced _ _).trans (runNextTask_traced _ _)))
  | connectionReset =>
      refine landed.trans (Traced.trans ?_ ((close_traced _ _).trans (runNextTask_traced _ _)))
      split
      · exact .refl _
      · exact broadcast_traced _ _ _ _
  | aborted => exact landed.trans (runNextTask_traced _ _)
  | error => exact landed.trans ((close_traced _ _).trans (runNextTask_traced _ _))

theorem handlerStep_traced {srv : Server} {origin : Origin} (member : origin ∈ srv.handlers)
    (now : Time) (senderThrows : Bool) :
    Traced env udp srv (srv.handlerStep env now origin senderThrows) := by
  have aside : Aside (some (origin.session, origin.strand)) origin.session := .inr ⟨_, rfl⟩
  have ended (m : MessageBufferManager) : Traced env udp srv
      { srv.modify origin.session fun x => { x with msgBuf := m } with
        handlers := srv.handlers.erase origin } :=
    .landed (modify_directory_quiet (f := fun x => { x with msgBuf := m }) rfl)
      (List.Subset.refl _) (List.erase_subset ..) rfl rfl
  have taken (m : MessageBufferManager) : Traced env udp srv
      (srv.modify origin.session fun x => { x with msgBuf := m }) := modify_traced rfl
  rcases handlerStep_cases env srv now origin senderThrows with ⟨msg, m, -, turn⟩ | ⟨m, -, turn⟩
  · rcases turn with ⟨-, -, done⟩ | ⟨-, -, done⟩ | ⟨j, -, done⟩
    · rw [done]
      exact (ended m).trans (close_traced _ _)
    · rw [done]
      exact (taken m).trans (postLine_traced _ _ _ _)
    · intro sane
      obtain ⟨older, -⟩ := (taken m).older sane
      rw [done]
      exact (taken m).trans (dispatch_traced aside now j senderThrows fun _ =>
        (sane.handlers origin member).later older) sane
  · rcases turn with ⟨-, done⟩ | ⟨-, done⟩
    · rw [done]
      exact (ended m).trans (close_traced _ _)
    · rw [done]
      exact (ended m).trans ((doRead_traced _ _ _).trans (runNextTask_traced _ _))

theorem loginTimerFired_traced (srv : Server) (timer : LoginTimer) :
    Traced env udp srv (srv.loginTimerFired env timer) := by
  have landed : Traced env udp srv { srv with loginTimers := srv.loginTimers.erase timer } :=
    .quiet rfl rfl
  unfold loginTimerFired
  dsimp only
  split
  · exact landed
  · exact landed.trans ((postWrite_traced _ _ _ _).trans (close_traced _ _))

theorem writeDone_traced (srv : Server) (op : WriteOp) (failed : Bool) :
    Traced env udp srv (srv.writeDone op failed) := by
  have landed : Traced env udp srv { srv with writes := srv.writes.erase op } := .quiet rfl rfl
  unfold writeDone
  dsimp only
  split
  · exact landed
  · split
    · exact landed.trans (close_traced _ _)
    · exact landed.trans ((modify_traced (f := fun x => { x with writeQueue := x.writeQueue.tail })
        rfl).trans (doWriteQueue_traced _ _))

theorem runPost_traced (srv : Server) (post : Post) : Traced env udp srv (srv.runPost env post) := by
  have landed : Traced env udp srv { srv with posts := srv.posts.erase post } := .quiet rfl rfl
  unfold runPost
  dsimp only
  split
  · exact landed.trans (writeNow_traced _ _ _)
  · exact landed.trans (pushTask_traced _ _ _)

/-! ## Accepting -/

theorem handOut_holder (now : Time) (sessionId : Int) (x : Session) :
    (x.handOut now sessionId).holder = x.holder.handOut sessionId := by
  unfold Session.handOut Session.setActive Session.tryActivate
  simp only [if_true]
  split <;> rfl

theorem acquire_registry (srv : Server) (now : Time) (sessionId : Int) (s : Ref) :
    (srv.acquire now sessionId s).registry env = (srv.registry env).acquire sessionId s := by
  have handed : (srv.modify s (Session.handOut now sessionId)).registry env =
      (srv.registry env).modify s (Holder.handOut sessionId) :=
    modify_registry (handOut_holder now sessionId (srv.obj s))
  unfold acquire Registry.acquire
  rw [← handed]
  rfl

theorem acquire_directory (srv : Server) (now : Time) (sessionId : Int) (s : Ref) :
    (srv.acquire now sessionId s).directory env =
      { srv.directory env with registry := (srv.registry env).acquire sessionId s } :=
  directory_eq (acquire_registry srv now sessionId s) rfl

theorem accept_traced (srv : Server) (now : Time) (order : List Ref) :
    Traced env udp srv (srv.accept env now order) := by
  have counted : Traced env udp srv
      { srv with sessionCounter := Int.bmod (srv.sessionCounter + 1) (2 ^ 32) } := .quiet rfl rfl
  unfold accept
  dsimp only
  split
  · exact counted
  · rename_i s free
    split
    · refine counted.trans (Traced.trans ?_ ((Traced.foldl close_traced _ _).trans
        (start_traced _ _ _)))
      refine .noted (.accept srv.sessionCounter) ?_ (fun _ => trivial) (fun absurd => nomatch absurd)
        ?_
      · rw [addSession_directory, acquire_directory]
        show _ = Directory.accept _ _
        unfold Directory.accept
        have next : (Directory.registry (Server.directory env { srv with
            sessionCounter := Int.bmod (srv.sessionCounter + 1) (2 ^ 32) })).nextFree = some s := free
        rw [next]
        rfl
      · rw [addSession_flight]
        rfl
    · exact .refl srv

/-! ## Datagrams -/

theorem checkUdpRateLimit_holder (x : Session) (now : Time) :
    (x.checkUdpRateLimit now).1.holder = x.holder := by
  unfold Session.checkUdpRateLimit
  dsimp only
  split <;> split <;> rfl

theorem checkUdpRateLimit_traced (srv : Server) (now : Time) (s : Ref) :
    Traced env udp srv (srv.checkUdpRateLimit now s).1 :=
  modify_traced (f := fun _ => ((srv.obj s).checkUdpRateLimit now).1)
    (checkUdpRateLimit_holder (srv.obj s) now)

/-- A member that reads as a string does so under every default. -/
theorem valueStr_default {j : Json} {key default value : String}
    (read : j.valueStr key default = .ok value) (default' : String) :
    ∃ value', j.valueStr key default' = .ok value' := by
  unfold Json.valueStr at read ⊢
  split at read
  · split at read
    · exact ⟨default', by simp [*]⟩
    · exact ⟨_, by simp [*]; rfl⟩
    · cases read
  · cases read

theorem rebind_registry (srv : Server) (s : Ref) (sender : Endpoint) :
    (srv.rebind s sender).registry env = (srv.registry env).modify s (Holder.bind sender) := by
  unfold rebind
  split
  · rename_i bound
    have same : Holder.bind sender ((srv.registry env).holder s) = (srv.registry env).holder s := by
      simp [Holder.bind, registry, Session.holder, bound]
    rw [Registry.modify, same, Function.update_eq_self]
  · refine (modify_registry (g := Holder.bind sender) rfl).trans ?_
    rw [← unmapEndpoint_registry srv s]
    rfl

theorem rebind_flight (srv : Server) (s : Ref) (sender : Endpoint) :
    (srv.rebind s sender).flight = srv.flight := by
  unfold rebind
  split
  · rfl
  · exact (unmapEndpoint_confined srv s).flight

/-- What a `udp_register` does to the endpoint map. -/
theorem rebind_table (env : Env) (srv : Server) (s : Ref) (sender : Endpoint) :
    (srv.rebind s sender).getSessionByEndpoint = ((srv.directory env).rebind s sender).bound := by
  have held : ((srv.directory env).registry.holder s).udp.endpoint = (srv.obj s).udpEndpoint := rfl
  unfold rebind Directory.rebind
  rw [held]
  by_cases same : (srv.obj s).udpEndpoint = some sender
  · rw [if_pos same, if_pos same]
    rfl
  · rw [if_neg same, if_neg same, ← unmapEndpoint_directory]
    funext e
    by_cases here : e = sender
    · subst here
      simp [getSessionByEndpoint, modify]
    · simp [getSessionByEndpoint, modify, directory, here, AList.lookup_insert_ne here]

/-- `udp_register` from the receive path: the endpoint, the token and its ack are one
operation. -/
theorem udpRegister_traced (srv : Server) (r : Reception) (s : Ref) {msg : Json}
    (sender : Endpoint) {name : String} (named : msg.valueStr "nickname" "" = .ok name) :
    Traced env true srv
      (((srv.rebind s sender).modify s (Session.updateUdpAliveTime r.now)).udpRegisterHandler env r s
        msg sender).1 := by
  obtain ⟨nickname, read⟩ := valueStr_default named "anonymity"
  have flight := rebind_flight srv s sender
  unfold udpRegisterHandler
  simp only [read]
  refine .noted (.registerUdp s ⟨sender, r.token, r.now⟩) (directory_eq ?_ (rebind_table env srv s
    sender)) (fun _ => trivial) (fun _ => rfl) ?_
  · show _ = ((srv.directory env).registerUdp s ⟨sender, r.token, r.now⟩).registry
    rw [Directory.registerUdp_registry, note_registry, modify_registry (g := fun h => { h with udp := { h.udp with
        registration := some ⟨sender, r.token, r.now⟩ } }) rfl,
      modify_registry (g := fun h => { h with udp := { h.udp with
        token := r.token, issued := r.now, lifetime := env.config.udpTokenTtlSeconds } }) rfl,
      modify_registry (g := fun h => { h with udp := { h.udp with
        lifetime := env.config.udpTokenTtlSeconds } }) rfl,
      modify_registry_quiet (f := Session.updateUdpAliveTime r.now) rfl,
      modify_registry (g := Holder.bind sender) rfl,
      modify_registry_quiet (f := Session.updateUdpAliveTime r.now) rfl, rebind_registry]
    simp only [Registry.modify_modify]
    rfl
  · simp only [Server.flight, Prod.mk.injEq] at flight ⊢
    obtain ⟨reads, handlers, router, journal⟩ := flight
    exact ⟨reads, handlers, router, congrArg (· ++ [_]) journal⟩

/-- The other handlers leave identity alone. -/
theorem dispatchUdpParsed_traced (srv : Server) (r : Reception) (s : Ref) {type : String}
    (msg : Json) (sender : Endpoint) (command : type ≠ "udp_register") :
    Traced env udp srv (srv.dispatchUdpParsed env r s type msg sender).1 := by
  rw [dispatchUdpParsed_server command]
  exact .quiet rfl rfl

theorem receiveFor_traced (srv : Server) (r : Reception) (s : Ref) (type token : String)
    {msg : Json} (sender : Endpoint) {name : String} (named : msg.valueStr "nickname" "" = .ok name) :
    Traced env true srv (srv.receiveFor env r s type token msg sender).1 := by
  unfold receiveFor
  dsimp only
  split
  · split
    · exact .noted (.clearUdpToken s) (modify_directory rfl) (fun _ => trivial)
        (fun absurd => nomatch absurd) rfl
    · exact .refl srv
  · have limited : Traced env true srv _ := checkUdpRateLimit_traced srv r.now s
    split
    · by_cases register : type = "udp_register"
      · subst register
        exact limited.trans (udpRegister_traced _ r s sender named)
      · rw [if_neg register]
        exact limited.trans ((modify_traced (f := Session.updateUdpAliveTime r.now) rfl).trans
          (dispatchUdpParsed_traced _ r s msg sender register))
    · exact limited

theorem onUdpReceive_traced (srv : Server) (r : Reception) (msg : Bytes) (sender : Endpoint) :
    Traced env true srv (srv.onUdpReceive env r msg sender).1 := by
  have limited : Traced env true srv (srv.counted env r) := .quiet rfl rfl
  rcases onUdpReceive_cases env srv r msg sender with
    ⟨j, s, nickname, type, token, addressed, -, given⟩ | ⟨sent, -, -, given⟩
  · rw [given]
    exact limited.trans (receiveFor_traced _ r _ _ _ sender addressed.named)
  · rw [given]
    exact limited

theorem udpReceive_traced (srv : Server) (r : Reception) (msg : Bytes) (sender : Endpoint) :
    Traced env true srv (srv.udpReceive env r msg sender).1 := by
  have asked : Traced env true srv (srv.askedFor r.now sender).1 :=
    askedFor_keeps _ (.refl srv) (checkUdpRateLimit_traced srv r.now)
  rcases udpReceive_cases env srv r msg sender with
    ⟨-, given⟩ | ⟨-, given⟩ | ⟨-, given⟩ | ⟨-, -, -, given⟩
  · rw [given]
    exact .refl srv
  · rw [given]
    exact .quiet rfl rfl
  · rw [given]
    exact asked
  · rw [given]
    exact asked.trans (onUdpReceive_traced _ r msg sender)

theorem runUdpBroadcast_traced (srv : Server) (post : String × String) :
    Traced env udp srv (srv.runUdpBroadcast env post).1 := by
  have landed : Traced env udp srv { srv with udpBroadcasts := srv.udpBroadcasts.erase post } :=
    .quiet rfl rfl
  unfold runUdpBroadcast
  dsimp only
  split <;> exact landed

theorem expireStaleUdpEndpoints_traced (srv : Server) :
    Traced env udp srv srv.expireStaleUdpEndpoints :=
  .foldl (fun srv _ => .refl srv) _ srv

/-! ## Events -/

/-- A message or a timer of the middleware link. -/
theorem dbEvent_traced (srv : Server)
    (act : DBmwRouter LoginFlow → DBmwRouter LoginFlow × List (Effect LoginFlow))
    (within : ∀ (P : LoginFlow → Prop) router, (∀ flow, Carries router flow → P flow) →
      Within P (act router)) :
    Traced env udp srv (match srv.dbRouter with
      | none => srv
      | some router => { srv with dbRouter := some (act router).1 }.runEffects env (act router).2) := by
  cases found : srv.dbRouter with
  | none => exact .refl srv
  | some router => exact routerStep_traced fun sane => within _ router (sane.flows router found)

/-- **Every event is traced**, and only a datagram registers. -/
theorem react_traced (srv : Server) (e : Event) (kind : e.isDatagram = true → udp = true) :
    Traced env udp srv (srv.react env e) := by
  unfold react
  cases e with
  | accept now order => exact accept_traced srv now order
  | readDone op result =>
      dsimp only
      split
      · rename_i ready
        exact readDone_traced ready.1 ready.2
      · exact .refl srv
  | handlerStep now origin senderThrows =>
      dsimp only
      split
      · rename_i running
        exact handlerStep_traced running now senderThrows
      · exact .refl srv
  | loginTimer timer cancelled =>
      dsimp only
      split
      · split
        · exact .quiet rfl rfl
        · exact loginTimerFired_traced srv timer
      · exact .refl srv
  | writeDone op failed =>
      dsimp only
      split
      · exact writeDone_traced srv op failed
      · exact .refl srv
  | post post =>
      dsimp only
      split
      · exact runPost_traced srv post
      · exact .refl srv
  | keepaliveCheck now => exact .quiet rfl rfl
  | cleanupInactive now => exact .quiet rfl rfl
  | sweepClose s =>
      dsimp only
      split
      · have taken : Traced env udp srv { srv with sweep := srv.sweep.erase s } := .quiet rfl rfl
        exact taken.trans (close_traced _ s)
      · exact .refl srv
  | expireStaleUdp => exact expireStaleUdpEndpoints_traced srv
  | dbConnected connected => exact .quiet rfl rfl
  | dbMessage message =>
      exact dbEvent_traced srv (·.handle message) fun _ _ => DBmwRouter.handle_within message
  | dbExpire reqId senderThrows =>
      exact dbEvent_traced srv (·.expire _ reqId) fun _ _ => DBmwRouter.expire_within _ reqId
  | dbResend reqId cancelled senderThrows =>
      exact dbEvent_traced srv (·.resend _ reqId cancelled) fun _ _ =>
        DBmwRouter.resend_within _ reqId cancelled
  | datagram reception msg sender =>
      cases kind rfl
      exact udpReceive_traced srv reception msg sender
  | udpBroadcast post =>
      dsimp only
      split
      · exact runUdpBroadcast_traced srv post
      · exact .refl srv

/-! ## Runs -/

/-- What an event does to the registry. -/
def notes (env : Env) (srv : Server) (e : Event) : List Note := (srv.step env e).journal

theorem step_traced (srv : Server) (e : Event) (sane : Sane env srv)
    (kind : e.isDatagram = true → udp = true) :
    (srv.step env e).registry env = run Registry.exec (srv.registry env) (notes env srv e) ∧
      Along Registry.exec Registry.Lawful (srv.registry env) (notes env srv e) ∧
      (∀ note ∈ notes env srv e, note.isRegistration = true → udp = true) ∧
      Sane env (srv.step env e) := by
  have blank : Sane env { srv with journal := [] } := ⟨sane.1, sane.2, sane.3, sane.4⟩
  obtain ⟨added, same, traced⟩ := react_traced { srv with journal := [] } e kind blank
  have all : notes env srv e = added := same
  obtain ⟨dir, rest⟩ := traced
  rw [all]
  exact ⟨registry_run dir, rest⟩

/-- The endpoint map goes with the registry. -/
theorem step_directory (srv : Server) (e : Event) (sane : Sane env srv) :
    (srv.step env e).directory env =
      run Directory.exec (srv.directory env) (notes env srv e) := by
  have blank : Sane env { srv with journal := [] } := ⟨sane.1, sane.2, sane.3, sane.4⟩
  obtain ⟨added, same, dir, -⟩ := react_traced { srv with journal := [] } e (fun _ => rfl) blank
  have all : notes env srv e = added := same
  rw [all]
  exact dir

theorem step_refines (env : Env) :
    Refines (step env) (Sane env) Registry.exec Registry.Lawful (notes env) (registry env) where
  preserved srv e sane := (step_traced srv e sane fun _ => rfl).2.2.2
  simulated srv e sane := (step_traced srv e sane fun _ => rfl).1
  lawful srv e sane := (step_traced srv e sane fun _ => rfl).2.1

/-- The refinement, with the endpoint map. -/
theorem step_refines_directory (env : Env) :
    Refines (step env) (Sane env) Directory.exec (fun d note => d.registry.Lawful note) (notes env)
      (directory env) where
  preserved := (step_refines env).preserved
  simulated := step_directory
  lawful srv e sane := Directory.along_registry.mpr ((step_refines env).lawful srv e sane)

theorem initial_sane (env : Env) (router : Option (DBmwRouter LoginFlow)) :
    Sane env (initial env router) := by
  refine ⟨?_, by simp [initial], by simp [initial], ?_⟩
  · intro s isOpen
    simp [registry, initial, Session.holder] at isOpen
  · rintro router' found flow ⟨reqId, p, entry, -⟩
    cases router with
    | none => cases found
    | some router =>
        cases found
        simp at entry

/-- **A run of the server is a run of the registry** on the notes of its events,
and its completions are lawful. -/
theorem after_refines (env : Env) (router : Option (DBmwRouter LoginFlow)) (events : List Event) :
    (after env router events).registry env =
        run Registry.exec ((initial env router).registry env)
          (trace (step env) (notes env) (initial env router) events) ∧
      Along Registry.exec Registry.Lawful ((initial env router).registry env)
        (trace (step env) (notes env) (initial env router) events) :=
  (step_refines env).run_trace (initial_sane env router) events

theorem after_sane (env : Env) (router : Option (DBmwRouter LoginFlow)) (events : List Event) :
    Sane env (after env router events) :=
  (step_refines env).inv_run (initial_sane env router) events

end Server

end GameServer.Kernel
