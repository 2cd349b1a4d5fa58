/-
# Kernel.Relays -- what the server sends over UDP, and to whom

A datagram is answered at most, to where it came from; only a command that passed the
checks of `on_udp_receive` is relayed, to endpoints that sessions are bound to.

* `strangers_unamplified` -- an endpoint that has registered nothing is sent no more
  datagrams than came from it, and none on account of others;
* `relay_authentic` -- whatever is read as a broadcast names the session that sent it.
-/
import GameServer.Kernel.Exceptions
import GameServer.Kernel.Phrases

namespace GameServer.Kernel

set_option autoImplicit false

open Wire Dbmw Nlohmann Theory Theory.Runs

/-! ## Answers and relays -/

/-- The types of what is sent back. -/
def answerTypes : List String := ["udp_error", "error", "udp_register_ack", "udp_reply"]

/-- The types of what is passed on. -/
def relayTypes : List String := ["broadcast_udp", "broadcast_udp_zone"]

/-- A message as others get it. -/
def relayed (type nickname msg : String) : Json :=
  .obj [("type", .str type), ("nickname", .str nickname), ("msg", .str msg)]

/-- The datagram goes there. -/
def UdpEffect.isTo (e : Endpoint) : UdpEffect → Bool
  | .send target _ => target = e
  | _ => false

/-- A `udp_register` that came from there is let through. -/
def UdpEffect.registers (e : Endpoint) : UdpEffect → Bool
  | .dispatch _ type _ sender => type = "udp_register" ∧ sender = e
  | _ => false

/-- The datagram came from there. -/
def Event.isFrom (e : Endpoint) : Event → Bool
  | .datagram _ _ sender => sender = e
  | _ => false

inductive UdpAnswer (env : Env) : String → Prop where
  | unknownType : UdpAnswer env unknownUdpType
  | dumped {out : Json} {type : String} (known : type ∈ answerTypes)
      (typed : out.valueStr "type" "" = .ok type) : UdpAnswer env (env.dump out)

/-! ## Bound endpoints -/

namespace Registry

/-- An object is bound to the endpoint it was, or to this operation's. -/
theorem endpoint_exec (r : Registry) (note : Note) {s : Ref} {e : Endpoint}
    (bound : ((r.exec note).holder s).udp.endpoint = some e) :
    (r.holder s).udp.endpoint = some e ∨
      ∃ registration, registration.endpoint = e ∧ note = .registerUdp s registration := by
  have traced : Stable fun h => h.udp.endpoint = some e → (r.holder s).udp.endpoint = some e ∨
      ∃ registration, registration.endpoint = e ∧ note = .registerUdp s registration :=
    { handOut := fun _ _ _ bound => nomatch bound
      shut := fun _ kept => kept
      cleared := fun _ _ kept => kept
      cleaned := fun _ _ _ bound => nomatch bound
      seated := fun _ _ _ kept => kept }
  exact traced.exec note
    (fun registration same h _ bound => .inr ⟨registration, Option.some.inj bound, same⟩) .inl bound

theorem endpoint_run (r : Registry) (notes : List Note) {s : Ref} {e : Endpoint}
    (bound : ((run exec r notes).holder s).udp.endpoint = some e) :
    (r.holder s).udp.endpoint = some e ∨
      ∃ registration, registration.endpoint = e ∧ .registerUdp s registration ∈ notes := by
  rcases @run_origin _ _ _ (fun r : Registry => (r.holder s).udp.endpoint = some e) _
    (fun r note => endpoint_exec r note) r notes bound with old | ⟨front, note, within, caused⟩
  · exact .inl old
  · obtain ⟨registration, same, rfl⟩ := caused
    exact .inr ⟨registration, same, within.mem (by simp)⟩

end Registry

namespace Server

/-- At most one answer, to where the datagram came from. -/
def Answers (env : Env) (sender : Endpoint) (effects : List UdpEffect) : Prop :=
  effects = [] ∨ ∃ payload, UdpAnswer env payload ∧ effects = [.send sender payload]

/-- Words that are sent in the name of `s` to endpoints that sessions are bound to. -/
def ZoneRelay (env : Env) (srv : Server) (s : Ref) (words : String) (effects : List UdpEffect) :
    Prop :=
  ∀ effect ∈ effects, ∃ x e, (srv.obj x).udpEndpoint = some e ∧
    effect = .send e (env.dump (relayed "broadcast_udp_zone" (srv.obj s).nickname words))

variable {env : Env} {srv srv' : Server} {sender : Endpoint}

theorem answers_dumped {out : Json} {type : String} (known : type ∈ answerTypes)
    (typed : out.valueStr "type" "" = .ok type) :
    Answers env sender [.send sender (env.dump out)] :=
  .inr ⟨_, .dumped known typed, rfl⟩

/-- **What a handler sends.** -/
theorem dispatchUdpParsed_effects (srv : Server) (r : Reception) (s : Ref) (type : String)
    (msg : Json) (sender : Endpoint) :
    Answers env sender (srv.dispatchUdpParsed env r s type msg sender).2 ∨
      type = "broadcast_udp_zone" ∧ ∃ words, msg.valueStr "msg" "" = .ok words ∧
        ZoneRelay env srv s words (srv.dispatchUdpParsed env r s type msg sender).2 := by
  rw [dispatchUdpParsed]
  split
  · left
    rw [udpHandler]
    split
    · exact @answers_dumped env sender _ "udp_reply" (by decide) rfl
    · exact .inl rfl
  split
  · left
    rw [udpBroadcastHandler]
    split <;> exact .inl rfl
  split
  · left
    simp only [udpRegisterHandler]
    split
    · exact .inl rfl
    · exact @answers_dumped env sender _ "udp_register_ack" (by decide) rfl
  split
  · rename_i zoned
    rw [udpBroadcastZoneHandler]
    split
    · rename_i zone words listed given
      refine .inr ⟨zoned, words, given, fun effect member => ?_⟩
      obtain ⟨entry, -, sent⟩ := List.mem_filterMap.mp member
      split at sent
      · cases sent
      · obtain ⟨e, bound, rfl⟩ := Option.map_eq_some_iff.mp sent
        exact ⟨entry.2, e, bound, rfl⟩
    · exact .inl (.inl rfl)
  · exact .inl (.inr ⟨_, .unknownType, rfl⟩)

/-! ## A datagram handled -/

/-- The two servers know the same of who is who. -/
structure Akin (srv srv' : Server) : Prop where
  obj : ∀ x, (srv'.obj x).holder = (srv.obj x).holder
  manager : srv'.manager = srv.manager
  journal : srv'.journal = srv.journal

theorem ZoneRelay.akin (akin : Akin srv srv') {s : Ref} {words : String}
    {effects : List UdpEffect} (relay : ZoneRelay env srv' s words effects) :
    ZoneRelay env srv s words effects := by
  intro effect member
  obtain ⟨x, e, bound, sent⟩ := relay effect member
  have endpoint : (srv'.obj x).udpEndpoint = (srv.obj x).udpEndpoint :=
    congrArg (·.udp.endpoint) (akin.obj x)
  have nickname : (srv'.obj s).nickname = (srv.obj s).nickname :=
    congrArg (·.nickname) (akin.obj s)
  exact ⟨x, e, endpoint ▸ bound, nickname ▸ sent⟩

/-- What was noted is no registration. -/
def Unregistered (srv srv' : Server) : Prop :=
  ∀ s registration, .registerUdp s registration ∈ srv'.journal →
    .registerUdp s registration ∈ srv.journal

/-- A datagram is answered at most, or a handler is given it for the session it names, and
answers at most or relays it. -/
inductive Handled (env : Env) (srv : Server) (msg : Bytes) (sender : Endpoint)
    (out : Server × List UdpEffect) : Prop where
  | answered (answers : Answers env sender out.2) (unregistered : Unregistered srv out.1)
  | dispatched {j : Json} {s : Ref} {nickname type token : String}
      (addressed : Addresses env srv msg j s nickname type token) {rest : List UdpEffect}
      (effects : out.2 = .dispatch s type token sender :: rest)
      (handled : Answers env sender rest ∨ type = "broadcast_udp_zone" ∧ ∃ words,
        j.valueStr "msg" "" = .ok words ∧ ZoneRelay env srv s words rest)
      (unregistered : type ≠ "udp_register" → Unregistered srv out.1)

theorem addresses_akin (akin : Akin srv srv') {msg : Bytes} {j : Json} {s : Ref}
    {nickname type token : String} (addressed : Addresses env srv' msg j s nickname type token) :
    Addresses env srv msg j s nickname type token :=
  ⟨addressed.parsed, addressed.named, addressed.typed, addressed.carried, addressed.nonempty,
    akin.manager ▸ addressed.found⟩

theorem Handled.akin (akin : Akin srv srv') {msg : Bytes} {out : Server × List UdpEffect}
    (handled : Handled env srv' msg sender out) : Handled env srv msg sender out := by
  have noted (unregistered : Unregistered srv' out.1) : Unregistered srv out.1 :=
    fun s registration member => akin.journal ▸ unregistered s registration member
  cases handled with
  | answered answers unregistered => exact .answered answers (noted unregistered)
  | dispatched addressed effects handled unregistered =>
      refine .dispatched (addresses_akin akin addressed) effects ?_ fun command =>
        noted (unregistered command)
      exact handled.imp_right fun ⟨zoned, words, given, relay⟩ =>
        ⟨zoned, words, given, relay.akin akin⟩

theorem modify_akin (srv : Server) (s : Ref) {f : Session → Session}
    (same : (f (srv.obj s)).holder = (srv.obj s).holder) : Akin srv (srv.modify s f) :=
  ⟨modify_each (fun _ x y => y.holder = x.holder) (fun _ _ => rfl) same, rfl, rfl⟩

theorem checkUdpRateLimit_akin (srv : Server) (now : Time) (s : Ref) :
    Akin srv (srv.checkUdpRateLimit now s).1 :=
  @modify_akin srv s (fun _ => ((srv.obj s).checkUdpRateLimit now).1)
    (checkUdpRateLimit_holder _ now)

theorem rejectionReply_type (token : String) (problem : Rejection) :
    (rejectionReply token problem).valueStr "type" "" = .ok "udp_error" := by
  cases problem with
  | token =>
      rw [rejectionReply]
      split <;> rfl
  | expired => rfl
  | endpoint => rfl

theorem receiveFor_handled {r : Reception} {msg : Bytes} {j : Json} {s : Ref}
    {nickname type token : String} (addressed : Addresses env srv msg j s nickname type token) :
    Handled env srv msg sender (srv.receiveFor env r s type token j sender) := by
  unfold receiveFor
  dsimp only
  split
  · rename_i problem _
    refine .answered (answers_dumped (by decide) (rejectionReply_type token problem)) ?_
    split
    · intro x registration member
      rcases List.mem_append.mp member with before | now
      · exact before
      · cases List.mem_singleton.mp now
    · exact fun _ _ member => member
  · split
    · by_cases register : type = "udp_register"
      · refine .dispatched addressed rfl ?_ fun command => absurd register command
        refine (dispatchUdpParsed_effects _ r s type j sender).imp_right fun ⟨zoned, _⟩ => ?_
        exact absurd (register.symm.trans zoned) (by decide)
      · rw [if_neg register]
        have asked := checkUdpRateLimit_akin srv r.now s
        have alive := @modify_akin (srv.checkUdpRateLimit r.now s).1 s
          (Session.updateUdpAliveTime r.now) rfl
        refine .dispatched addressed rfl ?_ fun _ x registration member => ?_
        · refine (dispatchUdpParsed_effects _ r s type j sender).imp_right fun zoned => ?_
          obtain ⟨zoned, words, given, relay⟩ := zoned
          exact ⟨zoned, words, given, (relay.akin alive).akin asked⟩
        · rw [dispatchUdpParsed_server register] at member
          exact asked.journal ▸ member
    · refine .answered (@answers_dumped env sender _ "udp_error" (by decide) rfl) ?_
      exact fun _ _ member => (checkUdpRateLimit_akin srv r.now s).journal ▸ member

theorem onUdpReceive_handled (srv : Server) (r : Reception) (msg : Bytes) (sender : Endpoint) :
    Handled env srv msg sender (srv.onUdpReceive env r msg sender) := by
  have counted : Akin srv (srv.counted env r) := ⟨fun _ => rfl, rfl, rfl⟩
  have unanswered : Handled env srv msg sender (srv.counted env r, []) :=
    .answered (.inl rfl) fun _ _ member => member
  simp only [onUdpReceive]
  split
  · split
    · exact .answered (@answers_dumped env sender _ "error" (by decide) rfl) fun _ _ member => member
    · rename_i j parsed
      split
      · rename_i nickname type token named typed carried
        split
        · exact unanswered
        · rename_i nonempty
          split
          · exact unanswered
          · rename_i s found
            have addressed : Addresses env (srv.counted env r) msg j s nickname type token :=
              ⟨parsed, named, typed, carried, nonempty, found⟩
            exact (receiveFor_handled addressed).akin counted
      · exact unanswered
  · exact unanswered

theorem askedFor_akin (srv : Server) (now : Time) (sender : Endpoint) :
    Akin srv (srv.askedFor now sender).1 :=
  askedFor_keeps (Akin srv) ⟨fun _ => rfl, rfl, rfl⟩ fun s => checkUdpRateLimit_akin srv now s

/-- **Every datagram** ends in one of these ways. -/
theorem udpReceive_handled (srv : Server) (r : Reception) (msg : Bytes) (sender : Endpoint) :
    Handled env srv msg sender (srv.udpReceive env r msg sender) := by
  have asked := askedFor_akin srv r.now sender
  have refused (error : String) (srv' : Server) (akin : Akin srv srv') :
      Handled env srv msg sender (srv', [.send sender (env.dump (udpManagerError error))]) :=
    .answered (@answers_dumped env sender _ "udp_error" (by decide) rfl)
      fun _ _ member => akin.journal ▸ member
  rcases udpReceive_cases env srv r msg sender with
    ⟨-, given⟩ | ⟨-, given⟩ | ⟨-, given⟩ | ⟨-, -, -, given⟩
  · rw [given]
    exact .answered (.inl rfl) fun _ _ member => member
  · rw [given]
    exact refused _ _ ⟨fun _ => rfl, rfl, rfl⟩
  · rw [given]
    exact refused _ _ asked
  · rw [given]
    exact (onUdpReceive_handled _ r msg sender).akin asked

/-- The handler is given what the datagram came with. -/
theorem Handled.addresses {msg : Bytes} {out : Server × List UdpEffect}
    (handled : Handled env srv msg sender out) {s : Ref} {type token : String} {origin : Endpoint}
    (dispatched : .dispatch s type token origin ∈ out.2) :
    ∃ j nickname, Addresses env srv msg j s nickname type token := by
  have sends (effects : List UdpEffect) (answers : Answers env sender effects) :
      .dispatch s type token origin ∉ effects := by
    rcases answers with rfl | ⟨payload, -, rfl⟩
    · exact List.not_mem_nil
    · exact fun member => nomatch List.mem_singleton.mp member
  cases handled with
  | answered answers _ => exact absurd dispatched (sends _ answers)
  | dispatched addressed effects handled _ =>
      rw [effects] at dispatched
      rcases List.mem_cons.mp dispatched with given | later
      · cases given
        exact ⟨_, _, addressed⟩
      · rcases handled with answers | ⟨-, words, -, relay⟩
        · exact absurd later (sends _ answers)
        · obtain ⟨x, e, -, sent⟩ := relay _ later
          cases sent

/-! ## Endpoints that have registered nothing -/

/-- No session is bound to it. -/
def Unbound (e : Endpoint) (srv : Server) : Prop := ∀ s, (srv.obj s).udpEndpoint ≠ some e

/-- What is relayed does not go where no session is bound. -/
theorem ZoneRelay.elsewhere {e : Endpoint} (unbound : srv.Unbound e) {s : Ref} {words : String}
    {effects : List UdpEffect} (relay : ZoneRelay env srv s words effects) :
    effects.countP (UdpEffect.isTo e) = 0 := by
  refine List.countP_eq_zero.mpr fun effect member => ?_
  obtain ⟨x, target, bound, rfl⟩ := relay effect member
  simp only [UdpEffect.isTo, decide_eq_true_eq]
  rintro rfl
  exact unbound x bound

theorem Answers.count_le {effects : List UdpEffect} (answers : Answers env sender effects)
    (e : Endpoint) : effects.countP (UdpEffect.isTo e) ≤ if sender = e then 1 else 0 := by
  rcases answers with rfl | ⟨payload, -, rfl⟩
  · exact Nat.zero_le _
  · simp [UdpEffect.isTo, List.countP_cons]

/-- One datagram, one answer at most. -/
theorem Handled.count_le {e : Endpoint} (unbound : srv.Unbound e) {msg : Bytes}
    {out : Server × List UdpEffect} (handled : Handled env srv msg sender out) :
    out.2.countP (UdpEffect.isTo e) ≤ if sender = e then 1 else 0 := by
  cases handled with
  | answered answers _ => exact answers.count_le e
  | dispatched addressed effects handled _ =>
      rw [effects, List.countP_cons_of_neg (by simp [UdpEffect.isTo])]
      rcases handled with answers | ⟨-, words, -, relay⟩
      · exact answers.count_le e
      · rw [relay.elsewhere unbound]
        exact Nat.zero_le _

theorem runUdpBroadcast_sends {post : String × String} {target : Endpoint} {payload : String}
    (sent : .send target payload ∈ (srv.runUdpBroadcast env post).2) :
    (∃ s, (srv.obj s).udpEndpoint = some target) ∧
      ∃ out, udpBroadcastPayload env post.1 = some out ∧ payload = env.dump out := by
  simp only [runUdpBroadcast] at sent
  split at sent
  · cases sent
  · cases List.mem_singleton.mp sent
  · rename_i out read _
    obtain ⟨e, listed, same⟩ := List.mem_map.mp sent
    cases same
    obtain ⟨s, -, bound⟩ := List.mem_filterMap.mp listed
    split at bound
    · cases bound
    · exact ⟨⟨s, bound⟩, out, read, rfl⟩

/-- **An event** sends an endpoint to which no session is bound one datagram, if it is one from
there. -/
theorem outputs_count_le {e : Endpoint} (unbound : srv.Unbound e) (event : Event) :
    (outputs env srv event).countP (UdpEffect.isTo e) ≤ if event.isFrom e then 1 else 0 := by
  cases event with
  | datagram r msg sender =>
      have fresh : Unbound e { srv with journal := [] } := unbound
      have one := (@udpReceive_handled env { srv with journal := [] } r msg sender).count_le fresh
      simp only [Event.isFrom, decide_eq_true_eq]
      exact one
  | udpBroadcast post =>
      simp only [outputs]
      split
      · have none : ∀ effect ∈ (({ srv with journal := [] } : Server).runUdpBroadcast env post).2,
            ¬ effect.isTo e = true := by
          intro effect member
          cases effect with
          | send target payload =>
              obtain ⟨⟨s, bound⟩, -⟩ := runUdpBroadcast_sends member
              simp only [UdpEffect.isTo, decide_eq_true_eq]
              rintro rfl
              exact unbound s bound
          | dispatch | threw => exact Bool.false_ne_true
        rw [List.countP_eq_zero.mpr none]
        exact Nat.zero_le _
      · exact Nat.zero_le _
  | _ => exact Nat.zero_le _

/-- An endpoint gets bound by a `udp_register` of its own. -/
theorem step_unbound {e : Endpoint} {event : Event} (within : Sane env srv ∧ srv.Unbound e)
    (spared : ∀ effect ∈ outputs env srv event, effect.registers e = false) :
    Sane env (srv.step env event) ∧ (srv.step env event).Unbound e := by
  obtain ⟨sane, unbound⟩ := within
  obtain ⟨reached, -, kind, kept⟩ := step_traced srv event sane id
  refine ⟨kept, fun s bound => ?_⟩
  have now : (((srv.step env event).registry env).holder s).udp.endpoint = some e := bound
  rw [reached] at now
  rcases Registry.endpoint_run _ _ now with old | ⟨registration, rfl, noted⟩
  · exact unbound s old
  · cases event with
    | datagram r msg sender =>
        rcases udpReceive_acknowledged _ msg s registration noted with absent | ⟨same, -⟩
        · cases absent
        · have origin : registration.endpoint = sender := congrArg (·.endpoint) same
          cases udpReceive_handled { srv with journal := [] } r msg sender with
          | answered _ unregistered => cases unregistered s registration noted
          | @dispatched j x nickname type token addressed rest effects _ unregistered =>
              by_cases register : type = "udp_register"
              · have through : UdpEffect.dispatch x type token sender ∈
                    outputs env srv (.datagram r msg sender) := by
                  rw [outputs, effects]
                  exact List.mem_cons_self
                have spoilt := spared _ through
                simp [UdpEffect.registers, register, origin] at spoilt
              · cases unregistered register s registration noted
    | _ => cases kind _ noted rfl

/-- What a run sends and dispatches over UDP. -/
def transmissions (env : Env) (router : Option (DBmwRouter LoginFlow)) (events : List Event) :
    List UdpEffect := trace (step env) (outputs env) (initial env router) events

/-- Only a `udp_register` from there binds a session to an endpoint. -/
theorem after_unbound {router : Option (DBmwRouter LoginFlow)} {events : List Event} {e : Endpoint}
    (stranger : ∀ effect ∈ transmissions env router events, effect.registers e = false) :
    Sane env (after env router events) ∧ (after env router events).Unbound e :=
  trace_invariant (fun _ _ => step_unbound) ⟨initial_sane env router, fun _ => nofun⟩ stranger

/-- **Nobody is sent more than he asked for**: as long as no `udp_register` from an endpoint is let
through, a run sends it no more datagrams than came from it, and none while it handles another's
datagram or a posted broadcast. -/
theorem strangers_unamplified (env : Env) (router : Option (DBmwRouter LoginFlow))
    (events : List Event) (e : Endpoint)
    (stranger : ∀ effect ∈ transmissions env router events, effect.registers e = false) :
    (transmissions env router events).countP (UdpEffect.isTo e) ≤ events.countP (Event.isFrom e) ∧
      ∀ front event, front ++ [event] <+: events → event.isFrom e = false →
        ∀ effect ∈ outputs env (after env router front) event, effect.isTo e = false := by
  constructor
  · exact trace_count_le (fun _ _ => step_unbound)
      (fun _ event within => outputs_count_le within.2 event)
      ⟨initial_sane env router, fun _ => nofun⟩ stranger
  · rintro front event ⟨rest, rfl⟩ other effect member
    have before : ∀ effect ∈ transmissions env router front, effect.registers e = false := by
      intro effect earlier
      refine stranger effect ?_
      rw [transmissions, List.append_assoc, trace_append]
      exact List.mem_append_left _ earlier
    have count := @outputs_count_le env _ e (after_unbound before).2 event
    rw [other, if_neg Bool.false_ne_true] at count
    exact Bool.eq_false_iff.mpr (List.countP_eq_zero.mp (Nat.le_zero.mp count) effect member)

/-! ## Who is relayed -/

/-- The event is a datagram that passes the checks as a command of a session to relay these words
under this nickname: the one the datagram found the session under, or the session's own. -/
def Relays (env : Env) (srv : Server) (e : Event) (type nickname words : String) : Prop :=
  ∃ r msg sender s token j, e = .datagram r msg sender ∧
    .dispatch s type token sender ∈ outputs env srv e ∧ srv.Admissible r.now s token sender ∧
    env.parse msg = some j ∧ j.valueStr "msg" "" = .ok words ∧
    (type = "broadcast_udp" ∧ j.valueStr "nickname" "" = .ok nickname ∧
        srv.manager.findSessionByNickname nickname = some s ∨
      type = "broadcast_udp_zone" ∧ (srv.obj s).nickname = nickname)

/-- A datagram posts what it asks to relay. -/
def Posts (env : Env) (srv : Server) (e : Event) (text : String) : Prop :=
  ∃ j, text = env.dump j ∧ j.valueStr "type" "" = .ok "broadcast_udp" ∧
    ∃ nickname, j.valueStr "nickname" "" = .ok nickname ∧
      ∀ words, j.valueStr "msg" "" = .ok words → srv.Relays env e "broadcast_udp" nickname words

/-- **What is posted to be relayed** was posted before, or this datagram asks for it. -/
theorem step_posts {e : Event} {post : String × String}
    (posted : post ∈ (srv.step env e).udpBroadcasts) :
    post ∈ srv.udpBroadcasts ∨ Posts env srv e post.1 := by
  cases datagram : e.isDatagram with
  | false => exact .inl ((@react_adds env { srv with journal := [] } e datagram).relays posted)
  | true =>
      cases e with
      | datagram r msg sender =>
          rcases Throwing.udpReceive_leaves env { srv with journal := [] } r msg sender with
            ⟨s, token, nickname, j, dispatched, parsed, typed, named, left⟩ | ⟨-, left⟩
          · have grown : post ∈ srv.udpBroadcasts ++ [(env.dump j, nickname)] := left ▸ posted
            rcases List.mem_append.mp grown with old | new
            · exact .inl old
            · cases List.mem_singleton.mp new
              refine .inr ⟨j, rfl, typed, nickname, named, fun words given => ?_⟩
              obtain ⟨j', nickname', addressed⟩ :=
                (udpReceive_handled { srv with journal := [] } r msg sender).addresses dispatched
              cases parsed.symm.trans addressed.parsed
              cases named.symm.trans addressed.named
              exact ⟨r, msg, sender, s, token, j, rfl, dispatched,
                (udpReceive_command dispatched (by decide)).2, parsed, given,
                .inl ⟨rfl, named, addressed.found⟩⟩
          · have same : post ∈ srv.udpBroadcasts := left ▸ posted
            exact .inl same
      | _ => cases datagram

/-- **What is sent** is an answer, or it relays what this datagram asks for, or what is posted. -/
theorem outputs_sends {e : Event} {target : Endpoint} {payload : String}
    (sent : .send target payload ∈ outputs env srv e) :
    UdpAnswer env payload ∨
      (∃ nickname words, payload = env.dump (relayed "broadcast_udp_zone" nickname words) ∧
        srv.Relays env e "broadcast_udp_zone" nickname words) ∨
      ∃ post ∈ srv.udpBroadcasts, ∃ out,
        udpBroadcastPayload env post.1 = some out ∧ payload = env.dump out := by
  have answered {sender : Endpoint} {effects : List UdpEffect}
      (answers : Answers env sender effects) (inside : .send target payload ∈ effects) :
      UdpAnswer env payload := by
    rcases answers with rfl | ⟨payload', answer, rfl⟩
    · cases inside
    · cases List.mem_singleton.mp inside
      exact answer
  cases e with
  | datagram r msg sender =>
      cases udpReceive_handled { srv with journal := [] } r msg sender with
      | answered answers _ => exact .inl (answered answers sent)
      | @dispatched j s nickname type token addressed rest effects handled _ =>
          have through : UdpEffect.dispatch s type token sender ∈
              outputs env srv (.datagram r msg sender) := by
            rw [outputs, effects]
            exact List.mem_cons_self
          rw [outputs, effects] at sent
          rcases List.mem_cons.mp sent with given | later
          · cases given
          · rcases handled with answers | ⟨rfl, words, given, relay⟩
            · exact .inl (answered answers later)
            · obtain ⟨x, e, -, same⟩ := relay _ later
              cases same
              exact .inr (.inl ⟨_, words, rfl, r, msg, sender, s, token, j, rfl, through,
                (udpReceive_command through (by decide)).2, addressed.parsed, given,
                .inr ⟨rfl, rfl⟩⟩)
  | udpBroadcast post =>
      simp only [outputs] at sent
      split at sent
      · rename_i posted
        obtain ⟨-, out, read, same⟩ := runUdpBroadcast_sends sent
        exact .inr (.inr ⟨post, posted, out, read, same⟩)
      · cases sent
  | _ => cases sent

end Server

/-! ## What others read -/

section Read

variable {F : Type} {floats : Decimals F} {config : Config} {pid : Nat}

/-- An answer is read as one. -/
theorem answer_read (exact : floats.toFloats.Exact) {payload : String}
    (answer : UdpAnswer (libraryEnv floats config pid) payload) :
    ∃ j, Library.parse floats (utf8 payload) = some j ∧
      ∃ type ∈ answerTypes, j.valueStr "type" "" = .ok type := by
  cases answer with
  | unknownType =>
      have toks : lex (utf8 unknownUdpType) =
          (written "error" "Unknown UDP type").tokens ++ [.endOfInput] := by decide +kernel
      obtain ⟨j, parsed, typed⟩ := @parse_written_out F floats _ _ _ toks
      exact ⟨j, parsed, "error", by decide, typed⟩
  | @dumped out type known typed =>
      exact ⟨_, Library.parse_carried exact out, type, known,
        (Library.valueStr_carried out "type" "").trans typed⟩

/-- What is relayed has its three texts. -/
theorem relayed_read {j : Json} {type nickname words : String}
    (same : j = Library.carried floats (relayed type nickname words)) :
    j.valueStr "type" "" = .ok type ∧ j.valueStr "nickname" "" = .ok nickname ∧
      j.valueStr "msg" "" = .ok words := by
  subst same
  simp only [Library.valueStr_carried]
  exact ⟨rfl, rfl, rfl⟩

/-- The posted body finds what the datagram said, and relays it. -/
theorem posts_payload (exact : floats.toFloats.Exact) {srv : Server} {e : Event} {text : String}
    {out : Json} (posts : srv.Posts (libraryEnv floats config pid) e text)
    (read : Server.udpBroadcastPayload (libraryEnv floats config pid) text = some out) :
    ∃ nickname words, out = relayed "broadcast_udp" nickname words ∧
      srv.Relays (libraryEnv floats config pid) e "broadcast_udp" nickname words := by
  obtain ⟨j, rfl, typed, nickname, named, relays⟩ := posts
  have parsed : (libraryEnv floats config pid).parse
      ((libraryEnv floats config pid).dump j).toUTF8.toList = some (Library.carried floats j) :=
    Library.parse_carried exact j
  simp only [Server.udpBroadcastPayload, parsed, Library.valueStr_carried, typed, named] at read
  cases given : j.valueStr "msg" "" with
  | error problem =>
      rw [given] at read
      cases read
  | ok words =>
      rw [given] at read
      exact ⟨nickname, words, (Option.some.inj read).symm, relays words given⟩

variable (config pid) (router : Option (DBmwRouter LoginFlow))

/-- **Nobody is relayed under another's name**: a datagram of the server that is read as a broadcast
came of one that passed the checks of a session, carries its words, and the nickname the session
has or was found under.  No nickname and no words, however chosen, make an answer read as one. -/
theorem relay_authentic (exact : floats.toFloats.Exact) {events : List Event} {last : Event}
    {target : Endpoint} {payload : String}
    (sent : .send target payload ∈ Server.outputs (libraryEnv floats config pid)
      (after (libraryEnv floats config pid) router events) last)
    {j : Json} (parsed : Library.parse floats (utf8 payload) = some j) {type : String}
    (typed : j.valueStr "type" "" = .ok type) (broadcast : type ∈ relayTypes) :
    ∃ front e nickname words, front ++ [e] <+: events ++ [last] ∧
      (after (libraryEnv floats config pid) router front).Relays (libraryEnv floats config pid) e
        type nickname words ∧
      j.valueStr "nickname" "" = .ok nickname ∧ j.valueStr "msg" "" = .ok words := by
  rcases Server.outputs_sends sent with
    answer | ⟨nickname, words, rfl, relays⟩ | ⟨post, posted, out, read, rfl⟩
  · obtain ⟨j', parsed', type', known, typed'⟩ := answer_read exact answer
    cases parsed.symm.trans parsed'
    cases typed.symm.trans typed'
    have apart : ∀ type ∈ answerTypes, type ∉ relayTypes := by decide
    exact absurd broadcast (apart type known)
  · have same := Option.some.inj (parsed.symm.trans (Library.parse_carried exact _))
    obtain ⟨typed', named, given⟩ := relayed_read same
    cases typed.symm.trans typed'
    exact ⟨events, last, nickname, words, List.prefix_rfl, relays, named, given⟩
  · have origin := @run_origin _ _ _ (fun srv : Server => post ∈ srv.udpBroadcasts)
      (fun srv e => Server.Posts (libraryEnv floats config pid) srv e post.1)
      (fun _ _ => Server.step_posts) _ _ posted
    rcases origin with begun | ⟨front, e, within, posts⟩
    · cases begun
    · obtain ⟨nickname, words, rfl, relays⟩ := posts_payload exact posts read
      have same := Option.some.inj (parsed.symm.trans (Library.parse_carried exact _))
      obtain ⟨typed', named, given⟩ := relayed_read same
      cases typed.symm.trans typed'
      exact ⟨front, e, nickname, words, within.trans (List.prefix_append _ _), relays, named, given⟩

end Read

/-! ## Two clients and a stranger -/

def leeEndpoint : Endpoint := ⟨"10.0.0.8", 4000⟩

def strangerEndpoint : Endpoint := ⟨"10.0.0.9", 4000⟩

/-- What lee wants to be read as kim's. -/
def disguisedWords : String := "\",\"nickname\":\"kim"

/-- kim and lee register, a stranger tries lee's name, and lee sends a broadcast. -/
def relaying : List Event :=
  disguised ++
    [.datagram ⟨seconds 5, 0, "2f"⟩ (utf8 "\x7b\"type\":\"udp_register\",\"nickname\":\"kim\"\x7d")
        Server.kimEndpoint,
      .datagram ⟨seconds 5, 0, "3a"⟩ (utf8 "\x7b\"type\":\"udp_register\",\"nickname\":\"lee\"\x7d")
        leeEndpoint,
      .datagram ⟨seconds 6, 0, ""⟩ (utf8 "\x7b\"type\":\"udp\"") strangerEndpoint,
      .datagram ⟨seconds 6, 0, ""⟩
        (utf8 "\x7b\"type\":\"broadcast_udp\",\"nickname\":\"lee\",\"token\":\"00\"\x7d")
        strangerEndpoint,
      .datagram ⟨seconds 7, 0, ""⟩
        (utf8 ("\x7b\"type\":\"broadcast_udp\",\"nickname\":\"lee\",\"token\":\"3a\"," ++
          "\"msg\":\"\\\",\\\"nickname\\\":\\\"kim\"\x7d"))
        leeEndpoint]

/-- What lee's datagram leaves posted, run. -/
def leeRelay : Event :=
  .udpBroadcast (Library.dump Library.half (.obj [("msg", .str disguisedWords),
    ("nickname", .str "lee"), ("token", .str "3a"), ("type", .str "broadcast_udp")]), "lee")

theorem leeRelay_sends :
    .send Server.kimEndpoint
        (Library.dump Library.half (relayed "broadcast_udp" "lee" disguisedWords)) ∈
      Server.outputs (libraryEnv Library.half twoObjects 0)
        (after (libraryEnv Library.half twoObjects 0) none relaying) leeRelay := by decide +kernel

theorem strangers_unamplified_relaying :
    (Server.transmissions (libraryEnv Library.half twoObjects 0) none
        (relaying ++ [leeRelay])).countP (UdpEffect.isTo strangerEndpoint) ≤
      (relaying ++ [leeRelay]).countP (Event.isFrom strangerEndpoint) ∧
    ∀ front event, front ++ [event] <+: relaying ++ [leeRelay] →
      event.isFrom strangerEndpoint = false →
        ∀ effect ∈ Server.outputs (libraryEnv Library.half twoObjects 0)
            (after (libraryEnv Library.half twoObjects 0) none front) event,
          effect.isTo strangerEndpoint = false :=
  Server.strangers_unamplified (libraryEnv Library.half twoObjects 0) none (relaying ++ [leeRelay])
    strangerEndpoint (by decide +kernel)

theorem relay_authentic_disguised :
    ∃ front e nickname words, front ++ [e] <+: relaying ++ [leeRelay] ∧
      (after (libraryEnv Library.half twoObjects 0) none front).Relays
        (libraryEnv Library.half twoObjects 0) e "broadcast_udp" nickname words ∧
      (Library.carried Library.half (relayed "broadcast_udp" "lee" disguisedWords)).valueStr
        "nickname" "" = .ok nickname ∧
      (Library.carried Library.half (relayed "broadcast_udp" "lee" disguisedWords)).valueStr
        "msg" "" = .ok words :=
  relay_authentic twoObjects 0 none half_exact leeRelay_sends
    (Library.parse_carried half_exact (relayed "broadcast_udp" "lee" disguisedWords))
    (relayed_read rfl).1 (by decide)

end GameServer.Kernel
