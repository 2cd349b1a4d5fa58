/-
# Kernel.Provenance -- where a UDP command's token and endpoint come from

The token, its time of issue, its lifetime and the endpoint of a session are fields
of their own.  What ties them together is `Binding.Vouched`: a token that is set is
the one of the last `udp_register` handled since the last `cleanup`, and the endpoint
is the one it came from.

* `Vouched.exec` -- every operation keeps it, of every object;
* `registration_acknowledged` -- a recorded registration was acknowledged, with its
  token, to its endpoint;
* `command_provenance` -- a datagram other than `udp_register` reaches a handler only
  with the token of that ack, from that endpoint, within the configured lifetime.
-/
import GameServer.Kernel.Completion
import Mathlib.Data.List.Induction

namespace GameServer.Kernel

set_option autoImplicit false

open Wire Dbmw Theory.Runs

namespace Registry

/-! ## What holds of every object -/

/-- A property of single objects that no method but `udp_register` can break. -/
structure Stable (P : Holder → Prop) : Prop where
  handOut : ∀ sessionId (h : Holder), P h → P (h.handOut sessionId)
  shut : ∀ h : Holder, P h → P h.shut
  cleared : ∀ (h : Holder) (zoneId : Int), P h → P { h.clearToken with zoneId }
  cleaned : ∀ (h : Holder) (life : LifeState), P h → P { h.clean with life }
  seated : ∀ (h : Holder) (nickname : String) (zoneId : Int), P h → P { h with nickname, zoneId }

theorem Stable.close {P : Holder → Prop} (stable : Stable P) {r : Registry} {x : Ref} (s : Ref)
    (kept : P (r.holder x)) : P ((r.close s).holder x) :=
  close_preserves r s stable.shut stable.cleared stable.cleaned kept

theorem Stable.file {P : Holder → Prop} (stable : Stable P) {r : Registry} {x : Ref} (s : Ref)
    (kept : P (r.holder x)) : P ((r.file s).holder x) := by
  unfold Registry.file
  dsimp only
  split
  · exact stable.close _ kept
  · exact kept

theorem Stable.evict {P : Holder → Prop} (stable : Stable P) {r : Registry} {x : Ref}
    (nickname : String) (s : Ref) (kept : P (r.holder x)) :
    P ((r.evict nickname s).holder x) := by
  unfold Registry.evict
  split
  · split
    · exact stable.close _ kept
    · exact kept
  · exact kept

/-- **One operation, object by object**: only its own registration is left to check. -/
theorem Stable.exec {P : Holder → Prop} (stable : Stable P) {r : Registry} {x : Ref} (note : Note)
    (register : ∀ registration, note = .registerUdp x registration →
      ∀ h, P h → P (h.register registration r.lifetime))
    (kept : P (r.holder x)) : P ((r.exec note).holder x) := by
  cases note with
  | accept sessionId =>
      change P ((r.accept sessionId).holder x)
      unfold Registry.accept
      split
      · exact kept
      · exact stable.file _ (modify_preserves r _ (stable.handOut sessionId) kept)
  | close s => exact stable.close s kept
  | enroll flow generation serving zoneId =>
      refine modify_preserves _ _ (fun h => stable.seated h flow.nickname zoneId) ?_
      exact stable.evict _ _ (stable.evict _ _ (stable.file _ kept))
  | registerUdp s registration =>
      change P ((r.modify s (Holder.register registration r.lifetime)).holder x)
      by_cases here : x = s
      · subst here
        rw [modify_self]
        exact register registration rfl _ kept
      · rwa [modify_other _ _ _ here]
  | clearUdpToken s => exact modify_preserves r s (fun h => stable.cleared h h.zoneId) kept

end Registry

/-! ## Tokens are vouched for -/

/-- A token that is set is the last registration's, and so is the endpoint. -/
def Binding.Vouched (lifetime : Int) (b : Binding) : Prop :=
  b.token ≠ "" → ∃ endpoint, b.registration = some ⟨endpoint, b.token, b.issued⟩ ∧
    b.endpoint = some endpoint ∧ b.lifetime = lifetime

/-- Without a token there is nothing to vouch for. -/
theorem Binding.vouched_of_empty {lifetime : Int} {b : Binding} (empty : b.token = "") :
    b.Vouched lifetime := fun filled => absurd empty filled

namespace Registry

/-- Every token of the registry, under the configured lifetime. -/
structure Vouched (lifetime : Int) (r : Registry) : Prop where
  configured : r.lifetime = lifetime
  tokens : ∀ s, (r.holder s).udp.Vouched lifetime

theorem vouched_stable (lifetime : Int) : Stable fun h => h.udp.Vouched lifetime where
  handOut _ _ _ := Binding.vouched_of_empty rfl
  shut _ vouched := vouched
  cleared _ _ _ := Binding.vouched_of_empty rfl
  cleaned _ _ _ := Binding.vouched_of_empty rfl
  seated _ _ _ vouched := vouched

theorem file_lifetime (r : Registry) (s : Ref) : (r.file s).lifetime = r.lifetime := by
  unfold file
  dsimp only
  split
  · exact close_lifetime _ _
  · rfl

theorem evict_lifetime (r : Registry) (nickname : String) (s : Ref) :
    (r.evict nickname s).lifetime = r.lifetime := by
  unfold evict
  split
  · split
    · exact close_lifetime _ _
    · rfl
  · rfl

theorem exec_lifetime (r : Registry) (note : Note) : (r.exec note).lifetime = r.lifetime := by
  cases note with
  | accept sessionId =>
      change (r.accept sessionId).lifetime = r.lifetime
      unfold accept
      split
      · rfl
      · exact file_lifetime _ _
  | close s => exact close_lifetime r s
  | enroll flow generation serving zoneId =>
      exact (evict_lifetime _ _ _).trans ((evict_lifetime _ _ _).trans (file_lifetime r _))
  | registerUdp s registration => rfl
  | clearUdpToken s => rfl

theorem Vouched.exec {lifetime : Int} {r : Registry} (vouched : r.Vouched lifetime) (note : Note) :
    (r.exec note).Vouched lifetime where
  configured := (exec_lifetime r note).trans vouched.configured
  tokens s := (vouched_stable lifetime).exec note
    (fun registration _ _ _ _ => ⟨registration.endpoint, rfl, rfl, vouched.configured⟩)
    (vouched.tokens s)

/-- An object's registration is the one it had, or this operation's. -/
theorem registration_exec (r : Registry) (note : Note) {s : Ref} {registration : Registration}
    (recorded : ((r.exec note).holder s).udp.registration = some registration) :
    (r.holder s).udp.registration = some registration ∨ note = .registerUdp s registration := by
  have traced : Stable fun h => h.udp.registration = some registration →
      (r.holder s).udp.registration = some registration ∨ note = .registerUdp s registration :=
    { handOut := fun _ _ _ recorded => nomatch recorded
      shut := fun _ kept => kept
      cleared := fun _ _ kept => kept
      cleaned := fun _ _ _ recorded => nomatch recorded
      seated := fun _ _ _ kept => kept }
  refine traced.exec note (fun other same h _ recorded => .inr ?_) .inl recorded
  rw [same, Option.some.inj recorded]

theorem registration_run (r : Registry) (notes : List Note) {s : Ref} {registration : Registration}
    (recorded : ((run exec r notes).holder s).udp.registration = some registration) :
    (r.holder s).udp.registration = some registration ∨ .registerUdp s registration ∈ notes := by
  induction notes generalizing r with
  | nil => exact .inl recorded
  | cons note notes ih =>
      rcases ih (r.exec note) recorded with before | later
      · rcases registration_exec r note before with old | new
        · exact .inl old
        · exact .inr (new ▸ List.mem_cons_self)
      · exact .inr (List.mem_cons_of_mem _ later)

end Registry

namespace Server

theorem after_vouched (env : Env) (router : Option (DBmwRouter LoginFlow)) (events : List Event) :
    ((after env router events).registry env).Vouched env.config.udpTokenTtlSeconds := by
  obtain ⟨reached, lawful⟩ := after_refines env router events
  rw [reached]
  exact run_invariant (fun r note vouched _ => vouched.exec note)
    ⟨rfl, fun _ => Binding.vouched_of_empty rfl⟩ lawful

/-! ## Registrations are acknowledged -/

/-- What handling a datagram notes as a registration it also acknowledges. -/
def Acknowledged (env : Env) (r : Reception) (sender : Endpoint) (journal : List Note)
    (out : Server × List UdpEffect) : Prop :=
  ∀ s registration, .registerUdp s registration ∈ out.1.journal →
    .registerUdp s registration ∈ journal ∨
      registration = ⟨sender, r.token, r.now⟩ ∧
        ∃ nickname, .send sender (env.dump (udpRegisterAck r.token nickname)) ∈ out.2

variable {env : Env} {r : Reception} {sender : Endpoint}

theorem acknowledged_of_journal {journal : List Note} {out : Server × List UdpEffect}
    (same : out.1.journal = journal) : Acknowledged env r sender journal out :=
  fun _ _ member => .inl (same ▸ member)

theorem udpRegisterHandler_acknowledged (srv : Server) (s : Ref) (msg : Json) :
    Acknowledged env r sender srv.journal (srv.udpRegisterHandler env r s msg sender) := by
  unfold udpRegisterHandler
  dsimp only
  split
  · exact acknowledged_of_journal rfl
  · rename_i nickname _
    intro x registration member
    rcases List.mem_append.mp member with before | now
    · exact .inl before
    · cases List.mem_singleton.mp now
      exact .inr ⟨rfl, nickname, List.mem_singleton_self _⟩

theorem dispatchUdpParsed_acknowledged (srv : Server) (s : Ref) (type : String) (msg : Json) :
    Acknowledged env r sender srv.journal (srv.dispatchUdpParsed env r s type msg sender) := by
  by_cases register : type = "udp_register"
  · subst register
    rw [dispatchUdpParsed_register]
    exact udpRegisterHandler_acknowledged srv s msg
  · refine acknowledged_of_journal ?_
    rw [dispatchUdpParsed_server register]

/-- `receiveFor` gives the handler what the datagram came with, on the same journal. -/
theorem receiveFor_acknowledged (srv : Server) (s : Ref) (type token : String) (msg : Json) :
    Acknowledged env r sender srv.journal (srv.receiveFor env r s type token msg sender) := by
  unfold receiveFor
  dsimp only
  split
  · split
    · intro x registration member
      rcases List.mem_append.mp member with before | now
      · exact .inl before
      · cases List.mem_singleton.mp now
    · exact acknowledged_of_journal rfl
  · split
    · intro x registration member
      have bound : ∀ srv' : Server, srv'.journal = srv.journal →
          Note.registerUdp x registration ∈ (srv'.dispatchUdpParsed env r s type msg sender).1.journal →
          Note.registerUdp x registration ∈ srv.journal ∨
            registration = ⟨sender, r.token, r.now⟩ ∧ ∃ nickname,
              .send sender (env.dump (udpRegisterAck r.token nickname)) ∈
                (srv'.dispatchUdpParsed env r s type msg sender).2 :=
        fun srv' same member => same ▸ dispatchUdpParsed_acknowledged srv' s type msg x registration member
      refine (bound _ ?_ member).imp_right fun ⟨same, nickname, sent⟩ =>
        ⟨same, nickname, List.mem_cons_of_mem _ sent⟩
      have rebound := congrArg (fun flight => flight.2.2.2)
        (rebind_flight (srv.checkUdpRateLimit r.now s).1 s sender)
      split
      · exact rebound
      · rfl
    · exact acknowledged_of_journal rfl

theorem onUdpReceive_acknowledged (srv : Server) (msg : Bytes) :
    Acknowledged env r sender srv.journal (srv.onUdpReceive env r msg sender) := by
  rcases onUdpReceive_cases env srv r msg sender with
    ⟨j, s, nickname, type, token, -, -, given⟩ | ⟨sent, -, unheard, given⟩
  · rw [given]
    exact receiveFor_acknowledged _ _ _ _ _
  · rw [given]
    exact acknowledged_of_journal rfl

theorem udpReceive_acknowledged (srv : Server) (msg : Bytes) :
    Acknowledged env r sender srv.journal (srv.udpReceive env r msg sender) := by
  have asked : (srv.askedFor r.now sender).1.journal = srv.journal :=
    askedFor_keeps (fun srv' => srv'.journal = srv.journal) rfl fun _ => rfl
  rcases udpReceive_cases env srv r msg sender with
    ⟨-, given⟩ | ⟨-, given⟩ | ⟨-, given⟩ | ⟨-, -, -, given⟩
  · rw [given]
    exact acknowledged_of_journal rfl
  · rw [given]
    exact acknowledged_of_journal rfl
  · rw [given]
    exact acknowledged_of_journal asked
  · rw [given, ← asked]
    exact onUdpReceive_acknowledged _ msg

/-- A registration in force stems from a datagram of its endpoint, whose handling sent
its token back there. -/
theorem registration_acknowledged (env : Env) (router : Option (DBmwRouter LoginFlow))
    (events : List Event) {s : Ref} {registration : Registration}
    (recorded : ((after env router events).obj s).registration = some registration) :
    ∃ before earlier msg later nickname,
      events = before ++ .datagram earlier msg registration.endpoint :: later ∧
      earlier.now = registration.issued ∧
      .send registration.endpoint (env.dump (udpRegisterAck registration.token nickname)) ∈
        outputs env (after env router before) (.datagram earlier msg registration.endpoint) := by
  induction events using List.reverseRecOn with
  | nil => cases recorded
  | append_singleton events e ih =>
      have sane := after_sane env router events
      have last : after env router (events ++ [e]) = (after env router events).step env e := by
        rw [after, run_append, run_cons, run_nil]
      rw [last] at recorded
      obtain ⟨reached, -, kind, -⟩ := step_traced _ e sane id
      have now : (((after env router events).step env e).registry env |>.holder s).udp.registration =
          some registration := recorded
      rw [reached] at now
      rcases Registry.registration_run _ _ now with old | new
      · obtain ⟨before, earlier, msg, later, nickname, split, issued, sent⟩ := ih old
        exact ⟨before, earlier, msg, later ++ [e], nickname, by rw [split]; simp, issued, sent⟩
      · cases e with
        | datagram reception msg sender =>
            rcases udpReceive_acknowledged _ msg s registration new with absent | ⟨rfl, nickname, sent⟩
            · cases absent
            · exact ⟨events, reception, msg, [], nickname, rfl, rfl, sent⟩
        | _ => cases kind _ new rfl

/-! ## Commands -/

/-- Handlers send, and dispatch nothing further. -/
theorem dispatchUdpParsed_sends (srv : Server) (s : Ref) (type : String) (msg : Json) :
    ∀ effect ∈ (srv.dispatchUdpParsed env r s type msg sender).2,
      ∃ target payload, effect = .send target payload := by
  intro effect member
  unfold dispatchUdpParsed at member
  split at member
  · unfold udpHandler at member
    split at member
    · exact ⟨_, _, List.mem_singleton.mp member⟩
    · cases member
  split at member
  · unfold udpBroadcastHandler at member
    split at member <;> cases member
  split at member
  · unfold udpRegisterHandler at member
    dsimp only at member
    split at member
    · cases member
    · exact ⟨_, _, List.mem_singleton.mp member⟩
  split at member
  · unfold udpBroadcastZoneHandler at member
    split at member
    · obtain ⟨entry, -, sent⟩ := List.mem_filterMap.mp member
      split at sent
      · cases sent
      · obtain ⟨target, -, rfl⟩ := Option.map_eq_some_iff.mp sent
        exact ⟨_, _, rfl⟩
    · cases member
  · exact ⟨_, _, List.mem_singleton.mp member⟩

/-- A datagram of another type than `udp_register` that the checks let through. -/
def Admissible (srv : Server) (now : Time) (s : Ref) (token : String) (sender : Endpoint) : Prop :=
  token ≠ "" ∧ (srv.obj s).udpToken = token ∧ (srv.obj s).isUdpTokenValid now = true ∧
    (srv.obj s).udpEndpoint = some sender

theorem admissible_of_rejection {srv : Server} {now : Time} {s : Ref} {token : String}
    (passed : srv.rejection now s token sender = none) : srv.Admissible now s token sender := by
  unfold rejection at passed
  split at passed
  · cases passed
  · rename_i carried
    split at passed
    · cases passed
    · rename_i valid
      split at passed
      · cases passed
      · rename_i bound
        exact ⟨fun empty => carried (.inl empty), Decidable.not_not.mp fun other => carried (.inr other),
          by simpa using valid, Decidable.not_not.mp bound⟩

theorem receiveFor_command {srv : Server} {s x : Ref} {type type' token token' : String} {msg : Json}
    {origin : Endpoint}
    (dispatched : .dispatch x type' token' origin ∈ (srv.receiveFor env r s type token msg sender).2)
    (command : type' ≠ "udp_register") :
    origin = sender ∧ srv.Admissible r.now x token' sender := by
  unfold receiveFor at dispatched
  dsimp only at dispatched
  split at dispatched
  · cases List.mem_singleton.mp dispatched
  · rename_i passed
    split at dispatched
    · rcases List.mem_cons.mp dispatched with given | sent
      · cases given
        rw [if_neg command] at passed
        exact ⟨rfl, admissible_of_rejection passed⟩
      · obtain ⟨target, payload, absurd⟩ := dispatchUdpParsed_sends _ s type msg _ sent
        cases absurd
    · cases List.mem_singleton.mp dispatched

theorem onUdpReceive_command {srv : Server} {msg : Bytes} {x : Ref} {type token : String}
    {origin : Endpoint}
    (dispatched : .dispatch x type token origin ∈ (srv.onUdpReceive env r msg sender).2)
    (command : type ≠ "udp_register") :
    origin = sender ∧ srv.Admissible r.now x token sender := by
  rcases onUdpReceive_cases env srv r msg sender with
    ⟨j, s, nickname, type', token', -, -, given⟩ | ⟨sent, -, unheard, given⟩
  · rw [given] at dispatched
    obtain ⟨same, passed⟩ := receiveFor_command dispatched command
    exact ⟨same, passed⟩
  · rw [given] at dispatched
    exact absurd dispatched (unheard x type token origin)

/-- The checks look at the UDP fields only. -/
theorem Admissible.congr {srv srv' : Server} {now : Time} {x : Ref} {token : String}
    {sender : Endpoint} (passed : srv'.Admissible now x token sender)
    (same : (srv'.obj x).holder = (srv.obj x).holder) : srv.Admissible now x token sender := by
  obtain ⟨filled, carried, valid, bound⟩ := passed
  have tokens : (srv'.obj x).udpToken = (srv.obj x).udpToken := congrArg (·.udp.token) same
  have issues : (srv'.obj x).udpTokenIssued = (srv.obj x).udpTokenIssued :=
    congrArg (·.udp.issued) same
  have lifetimes : (srv'.obj x).udpTokenTtlSec = (srv.obj x).udpTokenTtlSec :=
    congrArg (·.udp.lifetime) same
  have endpoints : (srv'.obj x).udpEndpoint = (srv.obj x).udpEndpoint :=
    congrArg (·.udp.endpoint) same
  refine ⟨filled, tokens ▸ carried, ?_, endpoints ▸ bound⟩
  rw [← valid]
  simp only [Session.isUdpTokenValid, tokens, issues, lifetimes]

theorem checkUdpRateLimit_objHolder (srv : Server) (now : Time) (s x : Ref) :
    ((srv.checkUdpRateLimit now s).1.obj x).holder = (srv.obj x).holder := by
  change ((srv.modify s fun _ => ((srv.obj s).checkUdpRateLimit now).1).obj x).holder = _
  by_cases here : x = s
  · subst here
    rw [modify_obj_self, checkUdpRateLimit_holder]
  · rw [modify_obj_other _ _ here]

theorem udpReceive_command {srv : Server} {msg : Bytes} {x : Ref} {type token : String}
    {origin : Endpoint}
    (dispatched : .dispatch x type token origin ∈ (srv.udpReceive env r msg sender).2)
    (command : type ≠ "udp_register") :
    origin = sender ∧ srv.Admissible r.now x token sender := by
  rcases udpReceive_cases env srv r msg sender with
    ⟨-, given⟩ | ⟨-, given⟩ | ⟨-, given⟩ | ⟨-, -, -, given⟩ <;> rw [given] at dispatched
  · cases dispatched
  · cases List.mem_singleton.mp dispatched
  · cases List.mem_singleton.mp dispatched
  · obtain ⟨same, passed⟩ := onUdpReceive_command dispatched command
    have asked : ((srv.askedFor r.now sender).1.obj x).holder = (srv.obj x).holder :=
      askedFor_keeps (fun srv' => (srv'.obj x).holder = (srv.obj x).holder) rfl fun s =>
        checkUdpRateLimit_objHolder srv r.now s x
    exact ⟨same, passed.congr asked⟩

/-- **A command comes from whom the last registration acknowledged**: in any run, a
datagram of another type than `udp_register` reaches the handler of a session only from
the endpoint of the registration in force, with the token of the ack that was sent
there, within the configured lifetime. -/
theorem command_provenance (env : Env) (router : Option (DBmwRouter LoginFlow))
    (events : List Event) (reception : Reception) (msg : Bytes) (sender : Endpoint)
    (s : Ref) (type token : String) (origin : Endpoint)
    (dispatched : .dispatch s type token origin ∈
      outputs env (after env router events) (.datagram reception msg sender))
    (command : type ≠ "udp_register") :
    origin = sender ∧ ∃ issued,
      ((after env router events).obj s).registration = some ⟨origin, token, issued⟩ ∧
      inSeconds (reception.now - issued) ≤ env.config.udpTokenTtlSeconds ∧
      ∃ before earlier msg' later nickname,
        events = before ++ .datagram earlier msg' origin :: later ∧ earlier.now = issued ∧
        .send origin (env.dump (udpRegisterAck token nickname)) ∈
          outputs env (after env router before) (.datagram earlier msg' origin) := by
  obtain ⟨rfl, filled, carried, valid, bound⟩ := udpReceive_command dispatched command
  obtain ⟨endpoint, recorded, held, lifetime⟩ :=
    (after_vouched env router events).tokens s fun empty => filled (carried.symm.trans empty)
  have origin : endpoint = origin := Option.some.inj (held.symm.trans bound)
  subst origin
  have registered : ((after env router events).obj s).registration =
      some ⟨endpoint, token, ((after env router events).obj s).udpTokenIssued⟩ := by
    rw [← carried]
    exact recorded
  refine ⟨rfl, _, registered, ?_, registration_acknowledged env router events registered⟩
  unfold Session.isUdpTokenValid at valid
  split at valid
  · cases valid
  · have inTime := of_decide_eq_true valid
    rwa [show ((after env router events).obj s).udpTokenTtlSec = env.config.udpTokenTtlSeconds from
      lifetime] at inTime

def registerText : String := "\x7b\"type\":\"udp_register\",\"nickname\":\"kim\"\x7d"

def echoText : String :=
  "\x7b\"type\":\"udp\",\"nickname\":\"kim\",\"token\":\"2f\",\"msg\":\"hi\"\x7d"

def udpTrialEnv : Env :=
  { trialEnv 1 with
    parse := readsAs [(kimText, kimLogin),
      (registerText, .obj [("type", .str "udp_register"), ("nickname", .str "kim")]),
      (echoText, .obj [("type", .str "udp"), ("nickname", .str "kim"), ("token", .str "2f"),
        ("msg", .str "hi")])] }

def kimEndpoint : Endpoint := ⟨"10.0.0.7", 4000⟩

/-- kim logs in and registers for UDP. -/
def registered : List Event :=
  [.accept 0 [0]] ++ signIn ⟨0, 1, 2⟩ ++
    [.datagram ⟨seconds 5, 0, "2f"⟩ (utf8 registerText) kimEndpoint]

/-- Her echo two minutes later is dispatched. -/
theorem command_provenance_echo :
    kimEndpoint = kimEndpoint ∧ ∃ issued,
      ((after udpTrialEnv none registered).obj 0).registration = some ⟨kimEndpoint, "2f", issued⟩ ∧
      inSeconds (seconds 125 - issued) ≤ udpTrialEnv.config.udpTokenTtlSeconds ∧
      ∃ before earlier msg' later nickname,
        registered = before ++ .datagram earlier msg' kimEndpoint :: later ∧ earlier.now = issued ∧
        .send kimEndpoint (udpTrialEnv.dump (udpRegisterAck "2f" nickname)) ∈
          outputs udpTrialEnv (after udpTrialEnv none before)
            (.datagram earlier msg' kimEndpoint) :=
  command_provenance udpTrialEnv none registered ⟨seconds 125, 0, ""⟩ (utf8 echoText) kimEndpoint 0
    "udp" "2f" kimEndpoint (by decide +kernel) (by decide)

end Server

end GameServer.Kernel
