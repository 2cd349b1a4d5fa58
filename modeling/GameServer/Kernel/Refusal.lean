/-
# Kernel.Refusal -- what a refused login does to others

`login_handler` closes whoever holds the nickname and only then asks the middleware.
A refusal, or silence, comes after that and changes nobody.

* `refused_login_spares_iff` -- a login that ends in failure leaves every other
  session as it stood if and only if closing the holder of the nickname would;
* `refused_login_evicts` -- kim is logged in, somebody asks to be kim, and whatever
  the answer is, kim is out.
-/
import GameServer.Kernel.Completion

namespace GameServer.Kernel

set_option autoImplicit false

open Wire Dbmw Theory.Runs

/-! ## How a session stands -/

/-- Whether a session is open, what it is called, whether the nickname index gives it
for that name, whether the manager has it, and its zone. -/
structure Standing where
  isOpen : Bool
  nickname : String
  named : Bool
  filed : Bool
  zoneId : Int
deriving DecidableEq, Repr

namespace Registry

def standing (r : Registry) (s : Ref) : Standing where
  isOpen := (r.holder s).isOpen
  nickname := (r.holder s).nickname
  named := decide (r.index (r.holder s).nickname = some s)
  filed := decide (r.entry (r.holder s).sessionId = some s)
  zoneId := (r.holder s).zoneId

/-- A removal gives the object back to the pool. -/
def Frees (r : Registry) (x : Ref) : Prop := x < r.size ∧ x ∉ r.available

instance (r : Registry) (x : Ref) : Decidable (r.Frees x) := inferInstanceAs (Decidable (_ ∧ _))

/-- A removal takes the object out of a zone. -/
def Zoned (r : Registry) (x : Ref) : Prop :=
  -1 < (r.holder x).zoneId ∧ r.zoneExists (r.holder x).zoneId = true

instance (r : Registry) (x : Ref) : Decidable (r.Zoned x) := inferInstanceAs (Decidable (_ ∧ _))

/-- Closing `p` changes how `x` stands: `p` is open, named, in a zone or in the manager;
or the manager has `x` under the id of `p`, and `x` leaves it, leaves its zone, or goes
back to the pool with a name or a zone. -/
def Disturbs (r : Registry) (p x : Ref) : Prop :=
  (r.holder p).Closable ∧
    (x = p ∧ ((r.holder p).isOpen = true ∨ (r.holder p).nickname ≠ "" ∨ (r.holder p).zoneId ≠ -1 ∨
        r.entry (r.holder p).sessionId = some p) ∨
      x ≠ p ∧ r.entry (r.holder p).sessionId = some x ∧
        ((r.holder x).sessionId = (r.holder p).sessionId ∨ r.Zoned x ∨
          r.Frees x ∧ ((r.holder x).nickname ≠ "" ∨ (r.holder x).zoneId ≠ -1)))

instance (r : Registry) (p x : Ref) : Decidable (r.Disturbs p x) := by
  unfold Disturbs
  infer_instance

/-! ### Removals, exactly -/

theorem release_self (r : Registry) (s : Ref) :
    (r.release s).holder s =
      if s < r.size ∧ s ∉ r.available then { (r.holder s).clean with life := .released }
      else r.holder s := by
  unfold release
  split
  · exact modify_self r s fun h => { h.clean with life := .released }
  · rfl

theorem leaveZone_zoneId (r : Registry) (s : Ref) :
    ((r.leaveZone s).holder s).zoneId =
      if -1 < (r.holder s).zoneId ∧ r.zoneExists (r.holder s).zoneId = true then -1
      else (r.holder s).zoneId := by
  unfold leaveZone
  split
  · rw [modify_self]
  · rfl

theorem remove_nickname {r : Registry} {sessionId : Int} {x : Ref}
    (found : r.entry sessionId = some x) :
    ((r.remove sessionId).holder x).nickname =
      if r.Frees x then "" else (r.holder x).nickname := by
  obtain ⟨zoneId, removed⟩ := remove_of_entry found
  rw [removed, release_self]
  change (if r.Frees x then _ else _ : Holder).nickname = _
  rw [apply_ite Holder.nickname, modify_self]
  rfl

theorem remove_zoneId {r : Registry} {sessionId : Int} {x : Ref}
    (found : r.entry sessionId = some x) :
    ((r.remove sessionId).holder x).zoneId =
      if r.Frees x ∨ r.Zoned x then -1 else (r.holder x).zoneId := by
  unfold remove
  simp only [found]
  obtain ⟨zoneId, left⟩ := leaveZone_eq_modify ((r.setEntry sessionId none).modify x Holder.clearToken) x
  have zone := leaveZone_zoneId ((r.setEntry sessionId none).modify x Holder.clearToken) x
  have size : (((r.setEntry sessionId none).modify x Holder.clearToken).leaveZone x).size = r.size := by
    rw [left]; rfl
  have available : (((r.setEntry sessionId none).modify x Holder.clearToken).leaveZone x).available =
      r.available := by
    rw [left]; rfl
  rw [release_self, apply_ite Holder.zoneId, zone, size, available, modify_self]
  by_cases freed : r.Frees x
  · have freed' : x < r.size ∧ x ∉ r.available := freed
    simp only [freed, freed', true_or, if_true]
    rfl
  · have kept : ¬ (x < r.size ∧ x ∉ r.available) := freed
    simp only [freed, kept, false_or, if_false]
    rfl

/-- The one closed. -/
theorem close_standing_self {r : Registry} {p : Ref} (closable : (r.holder p).Closable) :
    (r.close p).standing p = r.standing p ↔ ¬ r.Disturbs p p := by
  obtain ⟨shut, unnamed, -, unzoned⟩ := close_self closable
  have filed : (r.close p).entry ((r.close p).holder p).sessionId ≠ some p := by
    rw [close_sessionId, close_entry closable, if_pos rfl]
    simp
  constructor
  · rintro same ⟨-, ⟨-, inUse⟩ | ⟨other, -⟩⟩
    · rcases inUse with isOpen | named | zoned | kept
      · exact absurd (congrArg Standing.isOpen same) (by simp [standing, shut, isOpen])
      · exact named ((congrArg Standing.nickname same).symm.trans unnamed)
      · exact zoned ((congrArg Standing.zoneId same).symm.trans unzoned)
      · exact absurd (congrArg Standing.filed same) (by simp [standing, filed, kept])
    · exact other rfl
  · intro spared
    have idle : ¬ ((r.holder p).isOpen = true ∨ (r.holder p).nickname ≠ "" ∨
        (r.holder p).zoneId ≠ -1 ∨ r.entry (r.holder p).sessionId = some p) :=
      fun inUse => spared ⟨closable, .inl ⟨rfl, inUse⟩⟩
    simp only [not_or, Decidable.not_not, Bool.not_eq_true] at idle
    obtain ⟨isShut, anonymous, zoneless, unfiled⟩ := idle
    simp [standing, shut, unnamed, unzoned, filed, isShut, anonymous, zoneless, unfiled]

/-- What a close does to the object the manager has under the closed one's id. -/
theorem close_filed {r : Registry} {p x : Ref} (closable : (r.holder p).Closable) (other : x ≠ p)
    (found : r.entry (r.holder p).sessionId = some x) :
    ((r.close p).holder x).nickname = (if r.Frees x then "" else (r.holder x).nickname) ∧
      ((r.close p).holder x).zoneId =
        (if r.Frees x ∨ r.Zoned x then -1 else (r.holder x).zoneId) ∧
      ((r.close p).holder x).isOpen = (r.holder x).isOpen ∧
      ((r.close p).entry (r.holder x).sessionId = some x ↔
        r.entry (r.holder x).sessionId = some x ∧
          (r.holder x).sessionId ≠ (r.holder p).sessionId) := by
  have removed : (r.close p).holder x =
      ((r.modify p Holder.shut).remove (r.holder p).sessionId).holder x := by
    unfold close
    rw [if_pos closable, modify_other _ _ _ other]
  have stays : (r.modify p Holder.shut).holder x = r.holder x := modify_other _ _ _ other
  have zoned : (r.modify p Holder.shut).Zoned x ↔ r.Zoned x := by
    unfold Zoned
    rw [stays]
    rfl
  have freed : (r.modify p Holder.shut).Frees x ↔ r.Frees x := Iff.rfl
  refine ⟨?_, ?_, ?_, ?_⟩
  · rw [removed, remove_nickname (by exact found), stays]
    rfl
  · rw [removed, remove_zoneId (by exact found), stays]
    simp only [zoned, freed]
  · rw [removed, remove_keeps (g := Holder.isOpen) (fun _ _ => rfl) fun _ => rfl, stays]
  · rw [close_entry closable]
    split <;> simp_all

/-- The one the manager has under the closed one's id. -/
theorem close_standing_filed {r : Registry} {p x : Ref} (closable : (r.holder p).Closable)
    (other : x ≠ p) (found : r.entry (r.holder p).sessionId = some x) :
    (r.close p).standing x = r.standing x ↔ ¬ r.Disturbs p x := by
  obtain ⟨nickname, zoneId, isOpen, entry⟩ := close_filed closable other found
  constructor
  · rintro same ⟨-, ⟨here, -⟩ | ⟨-, -, shared | leaves | ⟨freed, inUse⟩⟩⟩
    · exact other here
    · have filed := congrArg Standing.filed same
      simp only [standing, close_sessionId, decide_eq_decide, entry] at filed
      exact (filed.mpr (by rw [shared]; exact found)).2 shared
    · have kept := congrArg Standing.zoneId same
      rw [standing, standing, zoneId, if_pos (.inr leaves)] at kept
      change -1 = (r.holder x).zoneId at kept
      have above := leaves.1
      omega
    · rcases inUse with named | inZone
      · have kept := congrArg Standing.nickname same
        rw [standing, standing, nickname, if_pos freed] at kept
        exact named kept.symm
      · have kept := congrArg Standing.zoneId same
        rw [standing, standing, zoneId, if_pos (.inl freed)] at kept
        exact inZone kept.symm
  · intro spared
    have quiet : ¬ ((r.holder x).sessionId = (r.holder p).sessionId ∨ r.Zoned x ∨
        r.Frees x ∧ ((r.holder x).nickname ≠ "" ∨ (r.holder x).zoneId ≠ -1)) :=
      fun touched => spared ⟨closable, .inr ⟨other, found, touched⟩⟩
    simp only [not_or, not_and_or, Decidable.not_not] at quiet
    obtain ⟨apart, unzoned, unfreed⟩ := quiet
    have sameName : ((r.close p).holder x).nickname = (r.holder x).nickname := by
      rw [nickname]
      split
      · rename_i frees
        exact (unfreed.resolve_left (not_not_intro frees)).1.symm
      · rfl
    have sameZone : ((r.close p).holder x).zoneId = (r.holder x).zoneId := by
      rw [zoneId]
      split
      · rename_i moved
        have frees := moved.resolve_right unzoned
        exact (unfreed.resolve_left (not_not_intro frees)).2.symm
      · rfl
    simp [standing, isOpen, sameName, sameZone, close_sessionId, entry, apart]

/-- Another one. -/
theorem close_standing_other {r : Registry} {p x : Ref} (closable : (r.holder p).Closable)
    (other : x ≠ p) : (r.close p).standing x = r.standing x ↔ ¬ r.Disturbs p x := by
  by_cases found : r.entry (r.holder p).sessionId = some x
  · exact close_standing_filed closable other found
  · have same := Registry.close_other other found
    have entry : (r.close p).entry (r.holder x).sessionId = some x ↔
        r.entry (r.holder x).sessionId = some x := by
      rw [close_entry closable]
      split
      · rename_i here
        rw [here]
        simp [found]
      · rfl
    refine ⟨fun _ disturbs => ?_, fun _ => ?_⟩
    · rcases disturbs.2 with ⟨here, -⟩ | ⟨-, filed, -⟩
      · exact other here
      · exact found filed
    · simp [standing, same, entry]

/-- **What a close changes of how anybody stands.** -/
theorem close_standing_iff (r : Registry) (p x : Ref) :
    (r.close p).standing x = r.standing x ↔ ¬ r.Disturbs p x := by
  by_cases closable : (r.holder p).Closable
  · by_cases here : x = p
    · subst here
      exact close_standing_self closable
    · exact close_standing_other closable here
  · have same : r.close p = r := by
      unfold close
      rw [if_neg closable]
    rw [same]
    exact ⟨fun _ disturbs => closable disturbs.1, fun _ => rfl⟩

end Registry

/-! ## The flow of a login -/

/-- The response is no success: an error, or a code that is not 0. -/
def Refuses (j : Json) : Prop :=
  j.valueStr "type" "" = .ok DBmwRouter.okType → j.valueInt "code" (-1) ≠ .ok 0

instance (j : Json) : Decidable (Refuses j) := inferInstanceAs (Decidable (_ → _))

/-- The callback does not complete a login with success. -/
def Unanswered : Effect LoginFlow → Prop
  | .call _ .onOk _ j => j.valueInt "code" (-1) ≠ .ok 0
  | _ => True

theorem unanswered_of_silent {effect : Effect LoginFlow} (silent : effect.isCall = false) :
    Unanswered effect := by
  cases effect <;> trivial

namespace Server

variable {env : Env}

/-- The nickname whose login the next turn of the read handler's loop starts. -/
def loginAsked (env : Env) (srv : Server) (origin : Origin) : Option String :=
  match (srv.obj origin.session).msgBuf.extractMessage.1.bind env.parse with
  | none => none
  | some j =>
      match j.valueStr "type" "", j.valueStr "nickname" "anonymity" with
      | .ok type, .ok nickname =>
          if type = "login" ∧ nickname ≠ "" ∧ nickname ≠ "quit" then some nickname else none
      | _, _ => none

/-- The next turn of the loop asks the middleware for this nickname. -/
structure AsksFor (env : Env) (srv : Server) (origin : Origin) (nickname : String) : Prop where
  running : origin ∈ srv.handlers
  asked : srv.loginAsked env origin = some nickname
  router : srv.dbRouter.isSome = true
  connected : srv.dbConnected = true

/-- A login that ends in failure leaves every other session as it stood: neither the
request, nor the refusal, nor a timer of the request moves one. -/
structure RefusalSpares (env : Env) (srv : Server) (origin : Origin) : Prop where
  request : ∀ now senderThrows x, x ≠ origin.session →
    ((srv.step env (.handlerStep now origin senderThrows)).registry env).standing x =
      (srv.registry env).standing x
  refusal : ∀ (later : Server) (j : Json), Refuses j → ∀ x,
    ((later.step env (.dbMessage j)).registry env).standing x = (later.registry env).standing x
  expiry : ∀ (later : Server) reqId senderThrows x,
    ((later.step env (.dbExpire reqId senderThrows)).registry env).standing x =
      (later.registry env).standing x
  resending : ∀ (later : Server) reqId cancelled senderThrows x,
    ((later.step env (.dbResend reqId cancelled senderThrows)).registry env).standing x =
      (later.registry env).standing x

/-! ### Failing -/

theorem completeFail_registry (srv : Server) (flow : LoginFlow) (reason : String) :
    (srv.completeFail env none flow reason).registry env = srv.registry env := rfl

theorem runEffect_registry {effect : Effect LoginFlow} (unanswered : Unanswered effect)
    (srv : Server) : (srv.runEffect env effect).registry env = srv.registry env := by
  have failing : ∀ flow j,
      (srv.onUserInfoFail env none flow j).registry env = srv.registry env := by
    intro flow j
    unfold onUserInfoFail
    split
    · rfl
    · exact completeFail_registry srv flow _
  cases effect with
  | call serial which flow j =>
      cases which with
      | onOk =>
          change (srv.onUserInfoOk env none flow j).registry env = _
          unfold onUserInfoOk
          split
          · rfl
          · rename_i code given
            rw [if_pos fun zero => unanswered (by rw [given, zero])]
            exact completeFail_registry srv flow _
      | onError => exact failing flow j
  | refused flow j => exact failing flow j
  | _ => rfl

/-- What is run on no strand of a session only posts to one. -/
theorem runEffects_registry {effects : List (Effect LoginFlow)}
    (unanswered : ∀ effect ∈ effects, Unanswered effect) (srv : Server) :
    (srv.runEffects env effects).registry env = srv.registry env := by
  induction effects generalizing srv with
  | nil => rfl
  | cons effect effects ih =>
      have rest : ∀ effect ∈ effects, Unanswered effect := fun e member =>
        unanswered e (List.mem_cons_of_mem _ member)
      exact (ih rest _).trans (runEffect_registry (unanswered effect List.mem_cons_self) srv)

/-- A step of the router that answers nobody with success. -/
theorem dbEvent_registry (srv : Server)
    (act : DBmwRouter LoginFlow → DBmwRouter LoginFlow × List (Effect LoginFlow))
    (unanswered : ∀ router, ∀ effect ∈ (act router).2, Unanswered effect) :
    (match srv.dbRouter with
      | none => srv
      | some router =>
          { srv with dbRouter := some (act router).1 }.runEffects env (act router).2).registry env =
      srv.registry env := by
  cases srv.dbRouter with
  | none => rfl
  | some router => exact runEffects_registry (unanswered router) _

theorem refusal_registry (srv : Server) {j : Json} (refuses : Refuses j) :
    (srv.step env (.dbMessage j)).registry env = srv.registry env := by
  refine dbEvent_registry { srv with journal := [] } (·.handle j) fun router effect member => ?_
  cases effect with
  | call serial which flow response =>
      cases which with
      | onOk =>
          obtain ⟨rfl, typed⟩ := DBmwRouter.handle_calls j router member
          exact refuses typed
      | onError => trivial
  | _ => trivial

theorem expiry_registry (srv : Server) (reqId : String) (senderThrows : Bool) :
    (srv.step env (.dbExpire reqId senderThrows)).registry env = srv.registry env :=
  dbEvent_registry { srv with journal := [] } (·.expire _ reqId) fun router effect member =>
    unanswered_of_silent (DBmwRouter.expire_silent _ reqId router effect member)

theorem resending_registry (srv : Server) (reqId : String) (cancelled senderThrows : Bool) :
    (srv.step env (.dbResend reqId cancelled senderThrows)).registry env = srv.registry env := by
  refine dbEvent_registry { srv with journal := [] } (·.resend _ reqId cancelled)
    fun router effect member => unanswered_of_silent ?_
  unfold DBmwRouter.resend at member
  split at member
  · dsimp only at member
    split at member
    · cases member
    · exact DBmwRouter.sendNowLocked_silent _ reqId _ effect member
  · cases member

/-! ### Asking -/

/-- The eviction before the request: the abstract one, and nothing but it. -/
theorem banDuplicate_registry (env : Env) {here : Here} {s : Ref} (aside : Aside here s)
    (srv : Server) (nickname : String) :
    (srv.banDuplicate env here nickname s).registry env = (srv.registry env).evict nickname s ∧
      (srv.banDuplicate env here nickname s).dbRouter = srv.dbRouter ∧
      (srv.banDuplicate env here nickname s).dbConnected = srv.dbConnected := by
  unfold banDuplicate Registry.evict
  have index : (srv.registry env).index nickname = srv.manager.findSessionByNickname nickname := rfl
  rw [index]
  cases srv.manager.findSessionByNickname nickname with
  | none => simp
  | some p =>
      by_cases other : p ≠ s
      · simp only [if_pos other]
        rw [postWrite_elsewhere env aside other]
        refine ⟨closeSession_registry _ p, ?_⟩
        obtain ⟨obj, pool, manager, zones, endpoints, closed⟩ := closeSession_confined
          (note { srv with posts := srv.posts ++ [⟨p, (srv.obj p).strand, .write
            (duplicateLoginBan ++ "\n")⟩] } (.close p)) p
        rw [close, closed]
        exact ⟨rfl, rfl⟩
      · simp [if_neg other]

/-- A request that goes to the middleware moves nobody. -/
theorem requestUserInfo_registry {here : Here} {flow : LoginFlow} {senderThrows : Bool}
    {srv : Server} (router : srv.dbRouter.isSome = true) (connected : srv.dbConnected = true) :
    (srv.requestUserInfo env here flow senderThrows).registry env = srv.registry env := by
  obtain ⟨router, found⟩ := Option.isSome_iff_exists.mp router
  unfold requestUserInfo
  rw [found]
  simp only [if_pos connected]
  exact runEffects_registry (fun effect member => unanswered_of_silent
    (DBmwRouter.sendRequestCb_silent _ _ _ _ _ _ _ _ _ _ effect member)) _

theorem loginAsked_eq {srv : Server} {origin : Origin} {nickname : String}
    (asked : srv.loginAsked env origin = some nickname) :
    ∃ text m j, (srv.obj origin.session).msgBuf.extractMessage = (some text, m) ∧
      env.parse text = some j ∧ j.valueStr "type" "" = .ok "login" ∧
      j.valueStr "nickname" "anonymity" = .ok nickname ∧ nickname ≠ "" ∧ nickname ≠ "quit" := by
  unfold loginAsked at asked
  rcases extracted : (srv.obj origin.session).msgBuf.extractMessage with ⟨_ | text, m⟩
  · simp [extracted] at asked
  · rw [extracted] at asked
    simp only [Option.bind_some] at asked
    split at asked
    · cases asked
    · rename_i j parsed
      split at asked
      · rename_i type name typed named
        split at asked
        · rename_i login
          obtain ⟨rfl, given, goes⟩ := login
          cases asked
          exact ⟨text, m, j, rfl, parsed, typed, named, given, goes⟩
        · cases asked
      · cases asked

/-- **What the request does to identity**: it evicts the holder of the nickname. -/
theorem request_registry {srv : Server} {origin : Origin} {nickname : String}
    (asks : AsksFor env srv origin nickname) (now : Time) (senderThrows : Bool) :
    (srv.step env (.handlerStep now origin senderThrows)).registry env =
      (srv.registry env).evict nickname origin.session := by
  obtain ⟨text, m, j, extracted, parsed, typed, named, given, goes⟩ := loginAsked_eq asks.asked
  have taken : (modify { srv with journal := [] } origin.session fun x =>
      { x with msgBuf := m }).registry env = srv.registry env := modify_registry_quiet rfl
  obtain ⟨banned, router, connected⟩ := banDuplicate_registry env
    (.inr ⟨origin.strand, rfl⟩ : Aside (some (origin.session, origin.strand)) origin.session)
    (modify { srv with journal := [] } origin.session fun x => { x with msgBuf := m }) nickname
  have handled : srv.step env (.handlerStep now origin senderThrows) =
      ((modify { srv with journal := [] } origin.session fun x =>
        { x with msgBuf := m }).banDuplicate env (some (origin.session, origin.strand)) nickname
          origin.session).requestUserInfo env (some (origin.session, origin.strand))
            ⟨origin, nickname⟩ senderThrows := by
    have turn := @handlerStep_dispatches env { srv with journal := [] } origin text m j extracted
      parsed now senderThrows
    simp [step, react, asks.running, turn, dispatch, typed, handleMessage, loginHandler, named,
      given, goes]
  rw [handled, requestUserInfo_registry (by rw [router]; exact asks.router)
    (by rw [connected]; exact asks.connected), banned, taken]

/-- **A refused login spares everybody else** if and only if closing the holder of
the nickname disturbs nobody else, when the login comes. -/
theorem refused_login_spares_iff (env : Env) (srv : Server) (origin : Origin) (nickname : String)
    (asks : AsksFor env srv origin nickname) :
    RefusalSpares env srv origin ↔
      ∀ p, srv.manager.findSessionByNickname nickname = some p → p ≠ origin.session →
        ∀ x, x ≠ origin.session → ¬ (srv.registry env).Disturbs p x := by
  constructor
  · intro spares p holds other x away
    have same := spares.request 0 false x away
    rw [request_registry asks, Registry.evict_of_index holds other] at same
    exact ((srv.registry env).close_standing_iff p x).mp same
  · intro harmless
    refine ⟨fun now senderThrows x away => ?_, fun later j refuses x => ?_,
      fun later reqId senderThrows x => ?_, fun later reqId cancelled senderThrows x => ?_⟩
    · rw [request_registry asks]
      rcases Registry.evict_cases (srv.registry env) nickname origin.session with
        same | ⟨p, holds, other, closed⟩
      · rw [same]
      · rw [closed]
        exact ((srv.registry env).close_standing_iff p x).mpr (harmless p holds other x away)
    · rw [refusal_registry later refuses]
    · rw [expiry_registry]
    · rw [resending_registry]

/-! ## Runs -/

def kimUnknown (reqId : String) : Json :=
  .obj [("type", .str "db_query_result"), ("api", .str "request_user_info"),
    ("req_id", .str reqId), ("code", .number 1)]

/-- Kim is logged in on object 0; then the middleware connects, and object 1 is about
to handle a login as kim. -/
def kimRival : Server :=
  after (trialEnv 2) (some trialRouter) <|
    [.accept 0 [0], .accept 0 [0, 1]] ++ signIn ⟨0, 1, 2⟩ ++
      [.dbConnected true, .post ⟨1, 1, .task .readSome⟩, .readDone ⟨⟨1, 1, 2⟩, true⟩ (.data kimFrame)]

/-- **The rival is refused, and kim is out**: shut by the request, and still so after
the middleware has said that the rival is not kim. -/
theorem refused_login_evicts :
    AsksFor (trialEnv 2) kimRival ⟨1, 1, 2⟩ "kim" ∧
      Refuses (kimUnknown "1_1") ∧
      ((kimRival.registry (trialEnv 2)).standing 0).isOpen = true ∧
      ((run (step (trialEnv 2)) kimRival
        [.handlerStep 0 ⟨1, 1, 2⟩ false, .dbMessage (kimUnknown "1_1")]).registry
          (trialEnv 2)).standing 0 = ⟨false, "", false, false, -1⟩ ∧
      ¬ RefusalSpares (trialEnv 2) kimRival ⟨1, 1, 2⟩ := by
  refine ⟨⟨by decide +kernel, by decide +kernel, by decide +kernel, by decide +kernel⟩,
    by decide +kernel, by decide +kernel, by decide +kernel, fun spares => ?_⟩
  exact absurd (spares.request 0 false 0 (by decide)) (by decide +kernel)

/-- Kim alone, about to handle the first login. -/
def kimFirst : Server :=
  after (trialEnv 2) (some trialRouter)
    [.dbConnected true, .accept 0 [0], .accept 0 [0, 1], .post ⟨0, 1, .task .readSome⟩,
      .readDone ⟨⟨0, 1, 2⟩, true⟩ (.data kimFrame)]

/-- Nobody holds the nickname, and nobody is touched. -/
theorem refused_login_spares_first : RefusalSpares (trialEnv 2) kimFirst ⟨0, 1, 2⟩ := by
  have nobody : kimFirst.manager.findSessionByNickname "kim" = none := by decide +kernel
  refine (refused_login_spares_iff (trialEnv 2) kimFirst ⟨0, 1, 2⟩ "kim"
    ⟨by decide +kernel, by decide +kernel, by decide +kernel, by decide +kernel⟩).mpr ?_
  intro p holds
  rw [nobody] at holds
  cases holds

end Server

end GameServer.Kernel
