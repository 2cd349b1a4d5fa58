/-
# Kernel.Phrases -- what the server tells its clients

A text to a client waits in a post or in a write queue, or an `async_write` has it.  All
of them are the server's own phrases, but for two: `chat` and `chat_zone` pass on what a
client said.  What a message of a client holds otherwise, a nickname included, goes into
members of a phrase, and `dump` escapes it.

* `in_flight_said` -- every text of a run is a phrase, or a chat message that its sender's
  session was handling;
* `texts_wellFormed` -- every text is an object of a type of the protocol;
* `chat_authentic` -- whatever is read as a chat message names the session that sent it.
-/
import GameServer.Kernel.Library
import GameServer.Kernel.Forgery
import GameServer.Kernel.Outgoing

namespace GameServer.Kernel

set_option autoImplicit false

open Wire Dbmw Nlohmann Theory Theory.Runs

/-! ## Phrases -/

/-- The texts that are written out in the source. -/
def fixedTexts : List String :=
  [duplicateLoginBan, duplicateLoginBan ++ "\n", nicknameRequired, notLoggedIn, missingType,
    invalidFieldType, unknownType, Server.loggedInElsewhere, Server.loginTimedOut]

/-- The messages built for a client, but for those of a chat. -/
inductive Reply : Json → Prop where
  | success (nickname : String) :
      Reply (.obj [("type", .str "login_success"), ("nickname", .str nickname)])
  | failure (reason : String) :
      Reply (.obj [("type", .str "login_result"), ("ok", .bool false), ("error", .str reason)])
  | notice (text : String) : Reply (notice "notice" text)
  | error (text : String) : Reply (notice "error" text)

inductive Phrase (env : Env) : String → Prop where
  | fixed {text : String} (written : text ∈ fixedTexts) : Phrase env text
  | line {out : Json} (reply : Reply out) : Phrase env (env.dump out ++ "\n")

/-- The types of phrases. -/
def phraseTypes : List String := ["error", "notice", "logout", "login_success", "login_result"]

def chatTypes : List String := ["chat", "chat_zone"]

namespace Server

variable {env : Env} {said : String → Prop} {srv srv' srv'' : Server}

/-! ## On the way to a client -/

/-- A text that was given to `post_write` and has not been sent. -/
def InFlight (srv : Server) (text : String) : Prop :=
  (∃ s, text ∈ (srv.obj s).writeQueue) ∨ (∃ op ∈ srv.writes, op.message = text) ∨
    ∃ post ∈ srv.posts, post.job = .write text

/-- The texts on their way afterwards were so before, or are among those said; no datagram is
posted to be relayed. -/
structure Adds (said : String → Prop) (srv srv' : Server) : Prop where
  texts : ∀ text, srv'.InFlight text → srv.InFlight text ∨ said text
  relays : srv'.udpBroadcasts ⊆ srv.udpBroadcasts

theorem Adds.refl (srv : Server) : Adds said srv srv := ⟨fun _ => .inl, List.Subset.refl _⟩

theorem Adds.trans (first : Adds said srv srv') (second : Adds said srv' srv'') :
    Adds said srv srv'' := by
  refine ⟨fun text flies => ?_, List.Subset.trans second.relays first.relays⟩
  rcases second.texts text flies with before | new
  · exact first.texts text before
  · exact .inr new

theorem Adds.foldl {α : Type} {f : Server → α → Server} (each : ∀ srv a, Adds said srv (f srv a))
    (items : List α) (srv : Server) : Adds said srv (items.foldl f srv) := by
  induction items generalizing srv with
  | nil => exact .refl srv
  | cons a items ih => exact (each srv a).trans (ih (f srv a))

/-- No queue has grown, and nothing was posted or written. -/
theorem adds_still (queues : ∀ s, (srv'.obj s).writeQueue ⊆ (srv.obj s).writeQueue)
    (writes : srv'.writes ⊆ srv.writes) (posts : srv'.posts ⊆ srv.posts)
    (relays : srv'.udpBroadcasts ⊆ srv.udpBroadcasts) : Adds said srv srv' := by
  refine ⟨?_, relays⟩
  rintro text (⟨s, queued⟩ | ⟨op, written, same⟩ | ⟨post, posted, same⟩)
  · exact .inl (.inl ⟨s, queues s queued⟩)
  · exact .inl (.inr (.inl ⟨op, writes written, same⟩))
  · exact .inl (.inr (.inr ⟨post, posts posted, same⟩))

/-- The objects are as they were, and so are writes and posts. -/
theorem adds_same (obj : srv'.obj = srv.obj) (writes : srv'.writes = srv.writes)
    (posts : srv'.posts = srv.posts) (relays : srv'.udpBroadcasts = srv.udpBroadcasts) :
    Adds said srv srv' := by
  refine adds_still (fun s => ?_) ?_ ?_ ?_
  · rw [obj]
    exact List.Subset.refl _
  · rw [writes]
    exact List.Subset.refl _
  · rw [posts]
    exact List.Subset.refl _
  · rw [relays]
    exact List.Subset.refl _

theorem adds_modify (srv : Server) (s : Ref) {f : Session → Session}
    (queue : ∀ text ∈ (f (srv.obj s)).writeQueue, text ∈ (srv.obj s).writeQueue ∨ said text) :
    Adds said srv (srv.modify s f) := by
  refine ⟨?_, List.Subset.refl _⟩
  rintro text (⟨x, queued⟩ | sent)
  · have changed := modify_each (fun (_ : Ref) (y z : Session) => ∀ text ∈ z.writeQueue,
      text ∈ y.writeQueue ∨ said text) (fun _ _ _ => Or.inl) queue x
    exact (changed text queued).imp_left fun old => .inl ⟨x, old⟩
  · exact .inl (.inr sent)

/-- A change that is none to the queue. -/
theorem adds_field (srv : Server) (s : Ref) (f : Session → Session)
    (queue : (f (srv.obj s)).writeQueue = (srv.obj s).writeQueue) :
    Adds said srv (srv.modify s f) :=
  adds_modify srv s fun _ member => .inl (queue ▸ member)

/-! ## Closing and writing -/

theorem closeSession_adds (srv : Server) (s : Ref) : Adds said srv (srv.closeSession s) := by
  have queues := closeSession_each (fun x y => y.writeQueue ⊆ x.writeQueue)
    (fun {x y} removed => by
      rcases removed with ⟨zoneId, rfl | rfl | rfl⟩
      · exact List.Subset.refl _
      · exact List.Subset.refl _
      · exact List.nil_subset _)
    (fun {x y} _ => List.nil_subset _) srv s
  obtain ⟨obj, pool, manager, zones, endpoints, closed⟩ := closeSession_confined srv s
  rw [closed] at queues ⊢
  exact adds_still queues (List.Subset.refl _) (List.Subset.refl _) (List.Subset.refl _)

theorem close_adds (srv : Server) (s : Ref) : Adds said srv (srv.close s) :=
  (adds_same rfl rfl rfl rfl : Adds said srv (srv.note (.close s))).trans (closeSession_adds _ s)

/-- What `async_write` is given was in the queue. -/
theorem doWriteQueue_adds (srv : Server) (s : Ref) : Adds said srv (srv.doWriteQueue s) := by
  rw [doWriteQueue_eq]
  split
  · exact .refl srv
  · split
    · exact adds_field srv s _ rfl
    · rename_i message rest front
      refine ⟨?_, List.Subset.refl _⟩
      rintro text (queued | ⟨op, written, same⟩ | posted)
      · exact .inl (.inl queued)
      · rcases List.mem_append.mp written with old | new
        · exact .inl (.inr (.inl ⟨op, old, same⟩))
        · cases List.mem_singleton.mp new
          exact .inl (.inl ⟨s, by rw [front, ← same]; exact List.mem_cons_self⟩)
      · exact .inl (.inr (.inr posted))

theorem enqueueWrite_queue (config : Config) (message : String) (x : Session) :
    ∀ text ∈ (x.enqueueWrite config message).1.writeQueue, text ∈ x.writeQueue ∨ text = message := by
  intro text member
  rcases x.enqueueWrite_cases config message with
    ⟨-, -, entered⟩ | ⟨-, -, entered⟩ | ⟨-, entered⟩ <;> rw [entered] at member
  · exact .inl (List.mem_of_mem_tail member)
  · exact (List.mem_append.mp member).imp List.mem_of_mem_tail List.mem_singleton.mp
  · exact (List.mem_append.mp member).imp id List.mem_singleton.mp

theorem writeNow_adds {message : String} (saying : said message) (srv : Server) (s : Ref) :
    Adds said srv (srv.writeNow env s message) := by
  have queued : Adds said srv
      (srv.modify s fun _ => ((srv.obj s).enqueueWrite env.config message).1) := by
    refine adds_modify srv s fun text member => ?_
    rcases enqueueWrite_queue env.config message _ text member with old | rfl
    · exact .inl old
    · exact .inr saying
  refine writeNow_keeps message queued (fun _ => queued.trans (close_adds _ s)) ?_
  intro srv' so_far
  refine so_far.trans (.trans ?_ (doWriteQueue_adds _ s))
  exact adds_field _ s _ rfl

theorem postWrite_adds {message : String} (saying : said message) (here : Here) (srv : Server)
    (s : Ref) : Adds said srv (srv.postWrite env here s message) := by
  simp only [postWrite]
  split
  · exact writeNow_adds saying srv s
  · refine ⟨?_, List.Subset.refl _⟩
    rintro text (queued | written | ⟨post, posted, same⟩)
    · exact .inl (.inl queued)
    · exact .inl (.inr (.inl written))
    · rcases List.mem_append.mp posted with old | new
      · exact .inl (.inr (.inr ⟨post, old, same⟩))
      · cases List.mem_singleton.mp new
        cases same
        exact .inr saying

theorem broadcast_adds {message : String} (saying : said message) (here : Here) (srv : Server)
    (senderId : Int) : Adds said srv (srv.broadcast env here message senderId) :=
  .foldl (fun srv s => postWrite_adds saying here srv s) _ srv

theorem broadcastZoneTcp_adds {message : String} (saying : said message) (here : Here)
    (srv : Server) (zoneId senderId : Int) :
    Adds said srv (srv.broadcastZoneTcp env here message zoneId senderId) :=
  .foldl (fun srv s => postWrite_adds saying here srv s) _ srv

/-! ## Reading and registering -/

/-- A task is no text. -/
theorem adds_task (srv : Server) (s : Ref) (strand : Nat) (task : Task) :
    Adds said srv { srv with posts := srv.posts ++ [⟨s, strand, .task task⟩] } := by
  refine ⟨?_, List.Subset.refl _⟩
  rintro text (queued | written | ⟨post, posted, same⟩)
  · exact .inl (.inl queued)
  · exact .inl (.inr (.inl written))
  · rcases List.mem_append.mp posted with old | new
    · exact .inl (.inr (.inr ⟨post, old, same⟩))
    · cases List.mem_singleton.mp new
      cases same

theorem runNextTask_adds (srv : Server) (s : Ref) : Adds said srv (srv.runNextTask s) := by
  simp only [runNextTask, Session.runNextTask]
  cases (srv.obj s).taskQueue with
  | nil => exact adds_field srv s _ rfl
  | cons task rest =>
      have run (srv : Server) : Adds said srv (srv.runTask s task) := by
        cases task with
        | readSome => exact adds_same rfl rfl rfl rfl
      refine .trans ?_ (run _)
      exact adds_field srv s _ rfl

theorem pushTask_adds (srv : Server) (s : Ref) (task : Task) :
    Adds said srv (srv.pushTask env s task) := by
  simp only [pushTask]
  split
  · exact close_adds srv s
  · split
    · exact adds_field srv s _ rfl
    · refine .trans ?_ (runNextTask_adds _ s)
      exact adds_field srv s _ rfl

theorem doRead_adds (here : Here) (srv : Server) (s : Ref) :
    Adds said srv (srv.doRead env here s) := by
  rcases doRead_cases env here srv s with ⟨-, same⟩ | ⟨-, -, begins⟩
  · rw [same]
    exact .refl srv
  · have posted (srv : Server) : Adds said srv (srv.postTask env here s .readSome) := by
      simp only [postTask]
      split
      · exact pushTask_adds _ s _
      · exact adds_task _ s _ _
    rw [begins]
    refine .trans ?_ (posted _)
    exact adds_field srv s _ rfl

theorem start_adds (here : Here) (srv : Server) (s : Ref) :
    Adds said srv (srv.start env here s) := by
  have timed (srv : Server) : Adds said srv (srv.startLoginTimeout s) := by
    rw [startLoginTimeout]
    split
    · exact .refl _
    · exact adds_same rfl rfl rfl rfl
  exact (doRead_adds here srv s).trans (timed _)

theorem addSession_adds (srv : Server) (s : Ref) : Adds said srv (srv.addSession s) := by
  have filed : Adds said srv
      { srv with manager := srv.manager.insertSession (srv.obj s).sessionId s } :=
    adds_same rfl rfl rfl rfl
  simp only [addSession]
  split
  · split
    · exact filed
    · exact filed.trans (closeSession_adds _ _)
  · exact filed

theorem evict_adds {message : String} (saying : said message) (here : Here) (srv : Server)
    (nickname : String) (s : Ref) : Adds said srv (srv.evict env here nickname message s) := by
  simp only [evict]
  split
  · split
    · exact (postWrite_adds saying here srv _).trans (closeSession_adds _ _)
    · exact .refl srv
  · exact .refl srv

theorem assignSessionToZone_adds (srv : Server) (s : Ref) (zoneId : Int) :
    Adds said srv (srv.assignSessionToZone env s zoneId) := by
  rcases assignSessionToZone_cases env srv s zoneId with ⟨-, same⟩ | ⟨zone, -, -, -, enters⟩
  · rw [same]
    exact .refl srv
  · have zoned (zones : Int → Option Zone) : Adds said srv { srv with zones } :=
      adds_same rfl rfl rfl rfl
    have seated (srv : Server) : Adds said srv
        (srv.modify s fun x => { x with zoneId := zoneId }) := adds_field srv s _ rfl
    rw [enters]
    exact (zoned _).trans (seated _)

/-! ## Handlers -/

section Handlers

variable (phrases : ∀ text, Phrase env text → said text)
include phrases

theorem fixed_adds {message : String} (written : message ∈ fixedTexts) (here : Here) (srv : Server)
    (s : Ref) : Adds said srv (srv.postWrite env here s message) :=
  postWrite_adds (phrases _ (.fixed written)) here srv s

theorem reply_adds {out : Json} (reply : Reply out) (here : Here) (srv : Server) (s : Ref) :
    Adds said srv (srv.postLine env here s out) :=
  postWrite_adds (phrases _ (.line reply)) here srv s

theorem notice_adds (text : String) (here : Here) (srv : Server) (senderId : Int) :
    Adds said srv (srv.broadcast env here (env.dump (notice "notice" text) ++ "\n") senderId) :=
  broadcast_adds (phrases _ (.line (.notice text))) here srv senderId

theorem registerNickname_adds (here : Here) (srv : Server) (nickname : String) (s : Ref) :
    Adds said srv (srv.registerNickname env here nickname s) := by
  have elsewhere : said loggedInElsewhere := phrases _ (.fixed (by simp [fixedTexts]))
  exact (evict_adds elsewhere here srv nickname s).trans (adds_same rfl rfl rfl rfl)

theorem seat_adds (here : Here) (srv : Server) (flow : LoginFlow) :
    Adds said srv (srv.seat env here flow) := by
  have named (srv : Server) : Adds said srv
      (srv.modify flow.session fun x => { x with nickname := flow.nickname }) :=
    adds_field srv _ _ rfl
  have ready (srv : Server) : Adds said srv
      (srv.modify flow.session Session.onNicknameRegistered) := adds_field srv _ _ rfl
  refine (registerNickname_adds phrases here srv flow.nickname flow.session).trans ?_
  exact (named _).trans ((ready _).trans (assignSessionToZone_adds _ _ _))

theorem enroll_adds (here : Here) (srv : Server) (flow : LoginFlow) :
    Adds said srv (srv.enroll env here flow) := by
  have banned : said duplicateLoginBan := phrases _ (.fixed (by simp [fixedTexts]))
  have evicted (srv : Server) : Adds said srv
      (srv.evict env here flow.nickname duplicateLoginBan flow.session) :=
    evict_adds banned here srv flow.nickname flow.session
  rw [enroll_eq]
  refine (addSession_adds srv flow.session).trans ((evicted _).trans ?_)
  exact (seat_adds phrases here _ flow).trans (adds_same rfl rfl rfl rfl)

theorem onUserInfoOk_adds (here : Here) (srv : Server) (flow : LoginFlow) (j : Json) :
    Adds said srv (srv.onUserInfoOk env here flow j) := by
  simp only [onUserInfoOk]
  split
  · exact .refl srv
  · split
    · exact reply_adds phrases (.failure _) here srv _
    · refine (enroll_adds phrases here srv flow).trans ?_
      exact (notice_adds phrases _ here _ _).trans (reply_adds phrases (.success _) here _ _)

theorem onUserInfoFail_adds (here : Here) (srv : Server) (flow : LoginFlow) (j : Json) :
    Adds said srv (srv.onUserInfoFail env here flow j) := by
  simp only [onUserInfoFail]
  split
  · exact .refl srv
  · exact reply_adds phrases (.failure _) here srv _

theorem runEffects_adds (srv : Server) (effects : List (Effect LoginFlow)) :
    Adds said srv (srv.runEffects env effects) := by
  refine .foldl (fun srv effect => ?_) effects srv
  simp only [runEffect]
  split
  · exact onUserInfoOk_adds phrases none srv _ _
  · exact onUserInfoFail_adds phrases none srv _ _
  · exact onUserInfoFail_adds phrases none srv _ _
  · exact .refl srv

/-- The router is another one, and its effects are run. -/
theorem routed_adds (srv : Server) (router : DBmwRouter LoginFlow)
    (effects : List (Effect LoginFlow)) :
    Adds said srv ({ srv with dbRouter := some router }.runEffects env effects) := by
  have stored : Adds said srv { srv with dbRouter := some router } := adds_same rfl rfl rfl rfl
  exact stored.trans (runEffects_adds phrases _ effects)

theorem loginHandler_adds (here : Here) {srv srv' : Server} (origin : Origin) (msg : Json)
    (senderThrows : Bool) (handled : srv.loginHandler env here origin msg senderThrows = .ok srv') :
    Adds said srv srv' := by
  have banning (srv : Server) (nickname : String) (s : Ref) :
      Adds said srv (srv.banDuplicate env here nickname s) := by
    simp only [banDuplicate]
    split
    · split
      · exact (fixed_adds phrases (by simp [fixedTexts]) here srv _).trans (close_adds _ _)
      · exact .refl srv
    · exact .refl srv
  have asking (srv : Server) (flow : LoginFlow) :
      Adds said srv (srv.requestUserInfo env here flow senderThrows) := by
    simp only [requestUserInfo]
    split
    · exact onUserInfoOk_adds phrases here srv flow _
    · split
      · exact routed_adds phrases srv _ _
      · exact onUserInfoOk_adds phrases here srv flow _
  simp only [loginHandler] at handled
  split at handled
  · cases handled
  · cases handled
    split
    · exact fixed_adds phrases (by simp [fixedTexts]) here srv _
    · split
      · exact (fixed_adds phrases (by simp [fixedTexts]) here srv _).trans (close_adds _ _)
      · exact (banning srv _ _).trans (asking _ _)

theorem logoutHandler_adds (here : Here) (srv : Server) (s : Ref) :
    Adds said srv (srv.logoutHandler env here s) := by
  simp only [logoutHandler]
  split
  · exact (fixed_adds phrases (by simp [fixedTexts]) here srv s).trans (close_adds _ s)
  · exact (notice_adds phrases _ here srv _).trans (close_adds _ s)

theorem chatHandler_adds (here : Here) {srv srv' : Server} (s : Ref) (msg : Json)
    (chat : ∀ words, msg.valueStr "msg" "" = .ok words →
      said (env.dump (chatMessage "chat" (srv.obj s).nickname words) ++ "\n"))
    (handled : srv.chatHandler env here s msg = .ok srv') : Adds said srv srv' := by
  simp only [chatHandler] at handled
  split at handled
  · cases handled
  · rename_i words given
    cases handled
    exact (broadcast_adds (chat words given) here srv _).trans
      (reply_adds phrases (.notice _) here _ s)

theorem chatZoneHandler_adds (here : Here) {srv srv' : Server} (s : Ref) (msg : Json)
    (chat : ∀ words, msg.valueStr "msg" "" = .ok words →
      said (env.dump (chatMessage "chat_zone" (srv.obj s).nickname words) ++ "\n"))
    (handled : srv.chatZoneHandler env here s msg = .ok srv') : Adds said srv srv' := by
  simp only [chatZoneHandler] at handled
  split at handled
  · cases handled
    exact reply_adds phrases (.error _) here srv s
  · split at handled
    · cases handled
    · rename_i words given
      split at handled
      · cases handled
        exact reply_adds phrases (.error _) here srv s
      · cases handled
        exact (broadcastZoneTcp_adds (chat words given) here srv _ _).trans
          (reply_adds phrases (.notice _) here _ s)

/-- **A message handled** brings phrases, and what it says itself if it is a chat message. -/
theorem dispatch_adds (here : Here) (srv : Server) (now : Time) (origin : Origin) (msg : Json)
    (senderThrows : Bool)
    (chat : ∀ type ∈ chatTypes, ∀ words, msg.valueStr "type" "" = .ok type →
      msg.valueStr "msg" "" = .ok words →
        said (env.dump (chatMessage type (srv.obj origin.session).nickname words) ++ "\n")) :
    Adds said srv (srv.dispatch env here now origin msg senderThrows) := by
  simp only [dispatch]
  split
  · exact close_adds srv _
  · rename_i type typed
    split
    · exact fixed_adds phrases (by simp [fixedTexts]) here srv _
    · split
      · rename_i handled
        simp only [handleMessage] at handled
        split at handled
        · exact loginHandler_adds phrases here origin msg senderThrows (Option.some.inj handled)
        · split at handled
          · cases handled
            exact logoutHandler_adds phrases here srv _
          · split at handled
            · rename_i chats
              subst chats
              exact chatHandler_adds phrases here _ msg
                (fun words => chat _ (by simp [chatTypes]) words typed) (Option.some.inj handled)
            · split at handled
              · rename_i chats
                subst chats
                exact chatZoneHandler_adds phrases here _ msg
                  (fun words => chat _ (by simp [chatTypes]) words typed) (Option.some.inj handled)
              · split at handled
                · cases handled
                  exact adds_field srv _ _ rfl
                · cases handled
      · exact fixed_adds phrases (by simp [fixedTexts]) here srv _
      · exact close_adds srv _
      · exact (fixed_adds phrases (by simp [fixedTexts]) here srv _).trans (close_adds _ _)

/-! ## Events -/

theorem announceLeft_adds (here : Here) (srv : Server) (s : Ref) :
    Adds said srv (srv.announceLeft env here s) := notice_adds phrases _ here srv _

theorem readDone_adds (srv : Server) (op : ReadOp) (result : ReadResult) :
    Adds said srv (srv.readDone env op result) := by
  have taken : Adds said srv { srv with reads := srv.reads.erase op } := adds_same rfl rfl rfl rfl
  have landed (srv : Server) : Adds said srv
      (srv.modify op.origin.session fun x => { x with readPending := false }) :=
    adds_field srv _ _ rfl
  have gone (srv : Server) : Adds said srv
      (((srv.announceLeft env (some (op.origin.session, op.origin.strand))
        op.origin.session).close op.origin.session).runNextTask op.origin.session) :=
    (announceLeft_adds phrases _ srv _).trans ((close_adds _ _).trans (runNextTask_adds _ _))
  simp only [readDone]
  refine taken.trans ((landed _).trans ?_)
  cases result with
  | data bytes =>
      have appended (srv : Server) : Adds said srv
          (srv.modify op.origin.session fun x => { x with msgBuf := x.msgBuf.append bytes }) :=
        adds_field srv _ _ rfl
      exact (appended _).trans (adds_same rfl rfl rfl rfl)
  | eof => exact gone _
  | connectionReset =>
      dsimp only
      split
      · exact (close_adds _ _).trans (runNextTask_adds _ _)
      · exact gone _
  | aborted => exact runNextTask_adds _ _
  | error => exact (close_adds _ _).trans (runNextTask_adds _ _)

/-- A turn of the loop brings phrases, and what the message it takes out says. -/
theorem handlerStep_adds (srv : Server) (now : Time) (origin : Origin) (senderThrows : Bool)
    (chat : ∀ msg m j, (srv.obj origin.session).msgBuf.extractMessage = (some msg, m) →
      env.parse msg = some j → ∀ type ∈ chatTypes, ∀ words, j.valueStr "type" "" = .ok type →
        j.valueStr "msg" "" = .ok words →
          said (env.dump (chatMessage type (srv.obj origin.session).nickname words) ++ "\n")) :
    Adds said srv (srv.handlerStep env now origin senderThrows) := by
  have left (srv : Server) : Adds said srv
      { srv with handlers := srv.handlers.erase origin } := adds_same rfl rfl rfl rfl
  have buffered (m : MessageBufferManager) : Adds said srv
      (srv.modify origin.session fun x => { x with msgBuf := m }) := adds_field srv _ _ rfl
  rcases handlerStep_cases env srv now origin senderThrows with
    ⟨msg, m, extracted, turn⟩ | ⟨m, -, turn⟩
  · refine (buffered m).trans ?_
    rcases turn with ⟨-, -, done⟩ | ⟨-, -, done⟩ | ⟨j, parsed, done⟩
    · rw [done]
      exact (left _).trans (close_adds _ _)
    · rw [done]
      exact reply_adds phrases (.error _) _ _ _
    · rw [done]
      refine dispatch_adds phrases _ _ now origin j senderThrows fun type chats words => ?_
      rw [modify_obj_self]
      exact chat msg m j extracted parsed type chats words
  · refine (buffered m).trans ((left _).trans ?_)
    rcases turn with ⟨-, done⟩ | ⟨-, done⟩
    · rw [done]
      exact close_adds _ _
    · rw [done]
      exact (doRead_adds _ _ _).trans (runNextTask_adds _ _)

theorem loginTimerFired_adds (srv : Server) (timer : LoginTimer) :
    Adds said srv (srv.loginTimerFired env timer) := by
  have taken : Adds said srv { srv with loginTimers := srv.loginTimers.erase timer } :=
    adds_same rfl rfl rfl rfl
  simp only [loginTimerFired]
  split
  · exact taken
  · exact taken.trans
      ((fixed_adds phrases (by simp [fixedTexts]) _ _ _).trans (close_adds _ _))

end Handlers

theorem writeDone_adds (srv : Server) (op : WriteOp) (failed : Bool) :
    Adds said srv (srv.writeDone op failed) := by
  have taken : Adds said srv { srv with writes := srv.writes.erase op } :=
    adds_still (fun _ => List.Subset.refl _) List.erase_subset (List.Subset.refl _)
      (List.Subset.refl _)
  have popped (srv : Server) : Adds said srv
      (srv.modify op.session fun x => { x with writeQueue := x.writeQueue.tail }) :=
    adds_modify srv _ fun _ member => .inl (List.mem_of_mem_tail member)
  simp only [writeDone]
  split
  · exact taken
  · split
    · exact taken.trans (close_adds _ _)
    · exact taken.trans ((popped _).trans (doWriteQueue_adds _ _))

/-- The text of a post was on its way already. -/
theorem runPost_adds {post : Post} (posted : post ∈ srv.posts) :
    Adds said srv (srv.runPost env post) := by
  have taken : ∀ {told : String → Prop}, Adds told srv { srv with posts := srv.posts.erase post } :=
    adds_still (fun _ => List.Subset.refl _) (List.Subset.refl _) List.erase_subset
      (List.Subset.refl _)
  rcases same : post.job with message | task
  · have moved : Adds (· = message) srv
        ({ srv with posts := srv.posts.erase post }.writeNow env post.session message) :=
      taken.trans (@writeNow_adds env (· = message) message rfl _ _)
    simp only [runPost, same]
    refine ⟨fun text flies => ?_, moved.relays⟩
    rcases moved.texts text flies with old | rfl
    · exact .inl old
    · exact .inl (.inr (.inr ⟨post, posted, same⟩))
  · simp only [runPost, same]
    exact taken.trans (pushTask_adds _ _ _)

theorem acquire_adds (srv : Server) (now : Time) (sessionId : Int) (s : Ref) :
    Adds said srv (srv.acquire now sessionId s) := by
  have handed : Adds said srv (srv.modify s (Session.handOut now sessionId)) :=
    adds_modify srv s fun text member => by cases member
  exact handed.trans (adds_same rfl rfl rfl rfl)

theorem accept_adds (srv : Server) (now : Time) (order : List Ref) :
    Adds said srv (srv.accept env now order) := by
  have accepted (s : Ref) : Adds said srv (srv.accepted now s) := by
    have noted : Adds said srv
        (({ srv with sessionCounter := Int.bmod (srv.sessionCounter + 1) (2 ^ 32) } : Server).note
          (.accept srv.sessionCounter)) := adds_same rfl rfl rfl rfl
    exact noted.trans ((acquire_adds _ now _ s).trans (addSession_adds _ s))
  have closed (srv : Server) : Adds said srv (srv.cleanupUnauthSessions 100 order) :=
    .foldl (fun srv s => close_adds srv s) _ srv
  simp only [accept]
  split
  · exact adds_same rfl rfl rfl rfl
  · split
    · exact (accepted _).trans ((closed _).trans (start_adds none _ _))
    · exact .refl srv

/-! ## Datagrams say nothing there -/

theorem view_inFlight (s : Ref) (srv : Server) (text : String) :
    (srv.view s).InFlight text ↔ srv.InFlight text := by
  simp only [InFlight, view_obj, Session.veil_writeQueue]
  rfl

theorem taken_adds (r : Reception) (sender : Endpoint) (s : Ref) (type token : String)
    (admitted : Bool) (srv : Server) :
    Adds said srv (taken env r sender s type token admitted srv) := by
  rw [taken]
  split
  · split
    · exact adds_field srv _ _ rfl
    · exact .refl srv
  · split
    · exact adds_field srv _ _ rfl
    · exact .refl srv

theorem udpReceive_texts {r : Reception} {msg : Bytes} {sender : Endpoint} {text : String}
    (flies : (srv.udpReceive env r msg sender).1.InFlight text) : srv.InFlight text := by
  have hearing (s : Ref) (budget : Bool × Bool) (packet : Option (Ref × String × String))
      (srv : Server) : Adds (fun _ => False) srv (heard env r sender s budget packet srv) := by
    unfold heard
    split
    · exact .refl srv
    · split
      · exact taken_adds r sender s _ _ _ srv
      · exact .refl srv
  rw [← view_inFlight 0, udpReceive_view] at flies
  exact (view_inFlight 0 srv text).mp (((hearing _ _ _ _).texts text flies).resolve_right id)

/-! ## Runs -/

/-- The event hands a chat message of the client of a session to its handler. -/
def Utters (env : Env) (srv : Server) (e : Event) (type sender words : String) : Prop :=
  type ∈ chatTypes ∧ ∃ now origin senderThrows msg m j,
    e = .handlerStep now origin senderThrows ∧ origin ∈ srv.handlers ∧
      (srv.obj origin.session).msgBuf.extractMessage = (some msg, m) ∧ env.parse msg = some j ∧
        j.valueStr "type" "" = .ok type ∧ j.valueStr "msg" "" = .ok words ∧
          (srv.obj origin.session).nickname = sender

/-- What an event may say. -/
def Said (env : Env) (srv : Server) (e : Event) (text : String) : Prop :=
  Phrase env text ∨ ∃ type sender words, srv.Utters env e type sender words ∧
    text = env.dump (chatMessage type sender words) ++ "\n"

/-- **Every event** but a datagram brings phrases, and what it utters. -/
theorem react_adds (srv : Server) {e : Event} (other : e.isDatagram = false) :
    Adds (Said env srv e) srv (srv.react env e) := by
  have phrases : ∀ text, Phrase env text → Said env srv e text := fun _ => .inl
  cases e with
  | accept now order => exact accept_adds srv now order
  | readDone op result =>
      simp only [react]
      split
      · exact readDone_adds phrases srv op result
      · exact .refl srv
  | handlerStep now origin senderThrows =>
      simp only [react]
      split
      · rename_i running
        refine handlerStep_adds phrases srv now origin senderThrows ?_
        intro msg m j extracted parsed type chats words typed given
        exact .inr ⟨type, _, words, ⟨chats, now, origin, senderThrows, msg, m, j, rfl, running,
          extracted, parsed, typed, given, rfl⟩, rfl⟩
      · exact .refl srv
  | loginTimer timer cancelled =>
      simp only [react]
      split
      · split
        · exact adds_same rfl rfl rfl rfl
        · exact loginTimerFired_adds phrases srv timer
      · exact .refl srv
  | writeDone op failed =>
      simp only [react]
      split
      · exact writeDone_adds srv op failed
      · exact .refl srv
  | post post =>
      simp only [react]
      split
      · rename_i next
        exact runPost_adds (List.mem_of_mem_filter (List.mem_of_mem_head? next))
      · exact .refl srv
  | keepaliveCheck now => exact adds_same rfl rfl rfl rfl
  | cleanupInactive now => exact adds_same rfl rfl rfl rfl
  | sweepClose s =>
      simp only [react]
      split
      · have taken : Adds (Said env srv (.sweepClose s)) srv
            { srv with sweep := srv.sweep.erase s } := adds_same rfl rfl rfl rfl
        exact taken.trans (close_adds _ s)
      · exact .refl srv
  | expireStaleUdp =>
      simp only [react, expireStaleUdpEndpoints_eq]
      exact .refl srv
  | dbConnected connected => exact adds_same rfl rfl rfl rfl
  | dbMessage message =>
      simp only [react]
      split
      · exact .refl srv
      · exact routed_adds phrases srv _ _
  | dbExpire reqId senderThrows =>
      simp only [react]
      split
      · exact .refl srv
      · exact routed_adds phrases srv _ _
  | dbResend reqId cancelled senderThrows =>
      simp only [react]
      split
      · exact .refl srv
      · exact routed_adds phrases srv _ _
  | datagram reception msg sender => cases other
  | udpBroadcast post =>
      have taken : Adds (Said env srv (.udpBroadcast post)) srv
          { srv with udpBroadcasts := srv.udpBroadcasts.erase post } :=
        adds_still (fun _ => List.Subset.refl _) (List.Subset.refl _) (List.Subset.refl _)
          List.erase_subset
      simp only [react]
      split
      · simp only [runUdpBroadcast]
        split <;> exact taken
      · exact .refl srv

theorem react_said {e : Event} {text : String} (flies : (srv.react env e).InFlight text) :
    srv.InFlight text ∨ Said env srv e text := by
  cases datagram : e.isDatagram with
  | false => exact (react_adds srv datagram).texts text flies
  | true =>
      cases e with
      | datagram reception msg sender => exact .inl (udpReceive_texts flies)
      | _ => cases datagram

/-- **Every text of a run** is a phrase, or passes on what a client's chat message said when it
was handled. -/
theorem in_flight_said (router : Option (DBmwRouter LoginFlow)) {events : List Event}
    {text : String} (flies : (after env router events).InFlight text) :
    Phrase env text ∨ ∃ front e, front ++ [e] <+: events ∧ ∃ type sender words,
      (after env router front).Utters env e type sender words ∧
        text = env.dump (chatMessage type sender words) ++ "\n" := by
  have fresh : ¬ (initial env router).InFlight text := by
    rintro (⟨s, queued⟩ | ⟨op, written, -⟩ | ⟨post, posted, -⟩)
    · cases queued
    · cases written
    · cases posted
  have once : ∀ (srv : Server) e, (srv.step env e).InFlight text →
      srv.InFlight text ∨ Said env srv e text :=
    fun srv e flies => @react_said env { srv with journal := [] } e text flies
  have origin := @run_origin _ _ _ (fun srv : Server => srv.InFlight text)
    (fun srv e => Said env srv e text) once _ _ flies
  rcases origin with begun | ⟨front, e, within, phrase | uttered⟩
  · exact absurd begun fresh
  · exact .inl phrase
  · exact .inr ⟨front, e, within, uttered⟩

end Server

/-! ## What clients read -/

section Read

variable {F : Type} {floats : Decimals F}

/-- A message of two members, as the source writes it out. -/
def written (type msg : String) : Text :=
  .object [(Utf8.encode "type", .string (Utf8.encode type)),
    (Utf8.encode "msg", .string (Utf8.encode msg))]

theorem fixed_written {text : String} (fixed : text ∈ fixedTexts) :
    ∃ type ∈ phraseTypes, ∃ msg, lex (utf8 text) = (written type msg).tokens ++ [.endOfInput] := by
  simp only [fixedTexts, List.mem_cons, List.not_mem_nil, or_false] at fixed
  rcases fixed with rfl | rfl | rfl | rfl | rfl | rfl | rfl | rfl | rfl
  · exact ⟨"error", by decide, "Duplicate login ban", by decide +kernel⟩
  · exact ⟨"error", by decide, "Duplicate login ban", by decide +kernel⟩
  · exact ⟨"error", by decide, "nickname required", by decide +kernel⟩
  · exact ⟨"logout", by decide, "You are not logged in.", by decide +kernel⟩
  · exact ⟨"error", by decide, "Missing message type field", by decide +kernel⟩
  · exact ⟨"error", by decide, "Invalid JSON field type", by decide +kernel⟩
  · exact ⟨"error", by decide, "Unknown message type", by decide +kernel⟩
  · exact ⟨"error", by decide, "다른 곳에서 로그인되어 기존 연결이 종료됩니다.", by decide +kernel⟩
  · exact ⟨"notice", by decide,
      "Your connection has been terminated due to a login timeout.", by decide +kernel⟩

/-- A message of that form is read as an object of its type. -/
theorem parse_written_out {input : Bytes} {type msg : String}
    (toks : lex input = (written type msg).tokens ++ [.endOfInput]) :
    ∃ j, Library.parse floats input = some j ∧ j.valueStr "type" "" = .ok type := by
  have utf8 : ∀ member ∈ SortedMap.collect
      [(Utf8.encode "type", (.string (Utf8.encode type) : Value F)),
        (Utf8.encode "msg", .string (Utf8.encode msg))], Utf8.Valid member.1 ∧ True := by
    refine SortedMap.forall_collect (Q := fun _ => True) ?_
    simp only [List.forall_mem_cons]
    exact ⟨⟨Utf8.encode_valid _, trivial⟩, ⟨Utf8.encode_valid _, trivial⟩, List.forall_mem_nil _⟩
  refine ⟨_, Library.parse_ok (parse_text toks rfl), ?_⟩
  rw [Value.toJson, Library.valueStr_obj,
    Library.lookup_membersJson fun member inside => (utf8 member inside).1,
    SortedMap.lookup_collect]
  have found : ([(Utf8.encode "type", (.string (Utf8.encode type) : Value F)),
      (Utf8.encode "msg", .string (Utf8.encode msg))].reverse.find? fun entry =>
        entry.1 = Utf8.encode "type") = some (Utf8.encode "type", .string (Utf8.encode type)) := rfl
  rw [found]
  simp only [Option.map_some, Value.toJson, Utf8.decode_encode, Option.getD_some]
  rfl

theorem phrase_read (exact : floats.toFloats.Exact) {config : Config} {pid : Nat} {text : String}
    (phrase : Phrase (libraryEnv floats config pid) text) :
    ∃ j, Library.parse floats (utf8 text) = some j ∧
      ∃ type ∈ phraseTypes, j.valueStr "type" "" = .ok type := by
  cases phrase with
  | fixed fixed =>
      obtain ⟨type, known, msg, toks⟩ := fixed_written fixed
      obtain ⟨j, parsed, typed⟩ := @parse_written_out F floats _ _ _ toks
      exact ⟨j, parsed, type, known, typed⟩
  | line reply =>
      refine ⟨_, Library.parse_line exact _, ?_⟩
      simp only [Library.valueStr_carried]
      cases reply with
      | success nickname => exact ⟨"login_success", by decide, rfl⟩
      | failure reason => exact ⟨"login_result", by decide, rfl⟩
      | notice text => exact ⟨"notice", by decide, rfl⟩
      | error text => exact ⟨"error", by decide, rfl⟩

variable (config : Config) (pid : Nat) (router : Option (DBmwRouter LoginFlow))

/-- **Whatever clients and middleware send, the server answers in its protocol**: each text on
its way to a client, in any state of a run, is an object of one of the protocol's types. -/
theorem texts_wellFormed (exact : floats.toFloats.Exact) {events : List Event} {text : String}
    (flies : (after (libraryEnv floats config pid) router events).InFlight text) :
    ∃ j, Library.parse floats (utf8 text) = some j ∧
      ∃ type ∈ phraseTypes ++ chatTypes, j.valueStr "type" "" = .ok type := by
  rcases Server.in_flight_said router flies with
    phrase | ⟨front, e, within, type, sender, words, ⟨chats, -⟩, rfl⟩
  · obtain ⟨j, parsed, type, known, typed⟩ := phrase_read exact phrase
    exact ⟨j, parsed, type, List.mem_append_left _ known, typed⟩
  · refine ⟨_, Library.parse_line exact _, type, List.mem_append_right _ chats, ?_⟩
    rw [Library.valueStr_carried]
    rfl

/-- **Nobody speaks under another's name**: a text on its way to a client that is read as a chat
message came of a message that the session of that nickname was handling, and has its words.
No nickname and no words, however chosen, make a phrase read as one. -/
theorem chat_authentic (exact : floats.toFloats.Exact) {events : List Event} {text : String}
    (flies : (after (libraryEnv floats config pid) router events).InFlight text) {j : Json}
    (parsed : Library.parse floats (utf8 text) = some j) {type : String}
    (typed : j.valueStr "type" "" = .ok type) (chats : type ∈ chatTypes) :
    ∃ front e sender words, front ++ [e] <+: events ∧
      (after (libraryEnv floats config pid) router front).Utters (libraryEnv floats config pid) e
        type sender words ∧
      j.valueStr "from" "" = .ok sender ∧ j.valueStr "msg" "" = .ok words := by
  rcases Server.in_flight_said router flies with
    phrase | ⟨front, e, within, type', sender, words, uttered, rfl⟩
  · obtain ⟨j', parsed', type', known, typed'⟩ := phrase_read exact phrase
    cases parsed.symm.trans parsed'
    cases typed.symm.trans typed'
    have apart : ∀ type ∈ phraseTypes, type ∉ chatTypes := by decide
    exact absurd chats (apart type known)
  · cases parsed.symm.trans (Library.parse_line exact _)
    simp only [Library.valueStr_carried] at typed ⊢
    cases typed
    exact ⟨front, e, sender, words, within, uttered, rfl, rfl⟩

end Read

/-! ## Two clients, and a message made to look like another's -/

def twoObjects : Config := { sessionPoolSize := 2, maxSessionPoolSize := 2 }

/-- A connection sends these texts, and each is handled. -/
def sends (o : Origin) (texts : List String) : List Event :=
  [.post ⟨o.session, o.strand, .task .readSome⟩,
      .readDone ⟨o, true⟩ (.data (texts.map fun text => Sender.session.frame (utf8 text)).flatten)] ++
    texts.map fun _ => .handlerStep 0 o false

/-- kim logs in, and so does lee, who closes the string of his message himself. -/
def disguised : List Event :=
  [.accept 0 [0], .accept 0 [0, 1]] ++
    sends ⟨0, 1, 2⟩ ["\x7b\"type\":\"login\",\"nickname\":\"kim\"\x7d"] ++
    sends ⟨1, 1, 2⟩ ["\x7b\"type\":\"login\",\"nickname\":\"lee\"\x7d",
      "\x7b\"type\":\"chat\",\"msg\":\"\\\",\\\"from\\\":\\\"kim\"\x7d"]

def disguisedChat : Json := chatMessage "chat" "lee" "\",\"from\":\"kim"

theorem disguised_flies :
    (after (libraryEnv Library.half twoObjects 0) none disguised).InFlight
      (Library.dump Library.half disguisedChat ++ "\n") := by
  refine .inr (.inr ⟨⟨0, 1, .write (Library.dump Library.half disguisedChat ++ "\n")⟩, ?_, rfl⟩)
  decide +kernel

theorem texts_wellFormed_disguised :
    ∃ j, Library.parse Library.half (utf8 (Library.dump Library.half disguisedChat ++ "\n")) = some j ∧
      ∃ type ∈ phraseTypes ++ chatTypes, j.valueStr "type" "" = .ok type :=
  texts_wellFormed twoObjects 0 none half_exact disguised_flies

theorem chat_authentic_disguised :
    ∃ front e sender words, front ++ [e] <+: disguised ∧
      (after (libraryEnv Library.half twoObjects 0) none front).Utters
        (libraryEnv Library.half twoObjects 0) e "chat" sender words ∧
      (Library.carried Library.half disguisedChat).valueStr "from" "" = .ok sender ∧
      (Library.carried Library.half disguisedChat).valueStr "msg" "" = .ok words :=
  chat_authentic twoObjects 0 none half_exact disguised_flies
    (Library.parse_line half_exact disguisedChat)
    ((Library.valueStr_carried disguisedChat "type" "").trans rfl) (by decide)

end GameServer.Kernel
