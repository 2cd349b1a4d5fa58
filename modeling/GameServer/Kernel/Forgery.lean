/-
# Kernel.Forgery -- datagrams from elsewhere, without the token

A datagram is forged, for a session bound to an endpoint with a token, when it
comes from another endpoint and does not carry the token.  A `udp_register` is asked for
neither: it is how a client moves to another endpoint.  Two runs are compared:
one with forged datagrams, of every type and for any session, among its events,
and the same one without them.  The limiters are set aside: a datagram that stays
and names the session meets the same verdicts of theirs in both.

* `udpReceive_view` -- what a reception does to the view of a session: nothing,
  unless the datagram names the session; then `heard`;
* `dispatched_iff` -- within the budgets the dispatcher is given just the datagrams
  that `Takes`;
* `forged_spares` -- the session's endpoint, its token and the datagrams accepted
  as it are the same in both runs, when no forged datagram is a `udp_register`
  that names it;
* `register_binds`, `forged_register_takes_over` -- such a one takes all three.
-/
import GameServer.Kernel.Veil
import GameServer.Kernel.Provenance
import GameServer.Theory.Observation

namespace GameServer.Kernel

set_option autoImplicit false

open Wire Dbmw Theory.Runs Theory.Observation

namespace Session

/-- A UDP method: it touches nothing that is shown of other sessions. -/
def Inward (f : Session → Session) : Prop := ∀ x, (f x).veil false = x.veil false

/-- The binding a handled `udp_register` leaves. -/
def bind (config : Config) (r : Reception) (sender : Endpoint) (x : Session) : Session :=
  let x := (x.setUdpEndpoint sender).setUdpTokenTtl config.udpTokenTtlSeconds
  x.setUdpToken config r.now r.token

end Session

namespace Server

variable {env : Env} {s : Ref}

/-! ## What a datagram says -/

/-- The token a datagram carries. -/
def carried (env : Env) (msg : Bytes) : Option String :=
  match env.parse msg with
  | none => none
  | some j => (j.valueStr "token" "").toOption

/-- The session a datagram names, with its type and its token. -/
def named (env : Env) (srv : Server) (msg : Bytes) : Option (Ref × String × String) :=
  if msg.length = 0 ∨ env.config.maxUdpPacketSize < msg.length then none
  else
    match env.parse msg with
    | none => none
    | some j =>
        match j.valueStr "nickname" "", j.valueStr "type" "", j.valueStr "token" "" with
        | .ok nickname, .ok type, .ok token =>
            if nickname = "" then none
            else (srv.manager.findSessionByNickname nickname).map fun x => (x, type, token)
        | _, _, _ => none

/-- The verdicts of the limiters on a datagram that names `s`: the bucket of the
endpoint's session together with the global limiter, then the bucket of `s`. -/
def budgets (env : Env) (srv : Server) (r : Reception) (sender : Endpoint) (s : Ref) : Bool × Bool :=
  let (srv, endpoint) :=
    match srv.getSessionByEndpoint sender with
    | none => (srv, true)
    | some x => srv.checkUdpRateLimit r.now x
  let (_, total) := srv.udpGlobalLimiter.shardedUdpRateLimit env.config.totalLimitPerSec r
  (endpoint && total, (srv.checkUdpRateLimit r.now s).2)

/-- The history has no say in them. -/
theorem budgets_journal (srv : Server) (journal : List Note) (r : Reception) (sender : Endpoint) :
    budgets env { srv with journal } r sender s = budgets env srv r sender s := by
  have bound : ({ srv with journal } : Server).getSessionByEndpoint sender =
      srv.getSessionByEndpoint sender := rfl
  rw [budgets, budgets, bound]
  cases srv.getSessionByEndpoint sender with
  | none => rfl
  | some x => rfl

/-- Whether the checks take a datagram for the session, the limiters aside. -/
def Takes (env : Env) (srv : Server) (now : Time) (msg : Bytes) (sender : Endpoint) (s : Ref)
    (type token : String) : Prop :=
  srv.named env msg = some (s, type, token) ∧
    (type = "udp_register" ∨ srv.rejection now s token sender = none)

/-! ## What a reception does to the view -/

/-- A UDP method on an object, in view of `s`. -/
theorem modify_view {f : Session → Session} (inward : Session.Inward f) {g : Session → Session}
    (same : ∀ x, (f x).veil true = g (x.veil true)) (srv : Server) (x : Ref) :
    (srv.modify x f).view s = if x = s then (srv.view s).modify s g else srv.view s := by
  by_cases here : x = s
  · subst here
    rw [if_pos rfl]
    have veiled : (srv.modify x f).veil x = (srv.veil x).modify x g :=
      modify_veil_of (by simp [same])
    rw [view, veiled]
    rfl
  · rw [if_neg here]
    have unseen : (srv.modify x f).veil s = (srv.veil s).modify x id :=
      modify_veil_of (by simp [here, inward _])
    rw [view, unseen]
    simp [modify, view]

/-- A method that changes only what is hidden of every session. -/
theorem modify_view_hidden {f : Session → Session}
    (hidden : ∀ shown x, (f x).veil shown = x.veil shown) (srv : Server) (x : Ref) :
    (srv.modify x f).view s = srv.view s := by
  rw [modify_view (g := id) (hidden false) (hidden true)]
  simp [modify]

theorem checkUdpRateLimit_veil (shown : Bool) (now : Time) (x : Session) :
    (x.checkUdpRateLimit now).1.veil shown = x.veil shown := by
  unfold Session.checkUdpRateLimit
  dsimp only
  split <;> split <;> cases shown <;> rfl

theorem checkUdpRateLimit_view (srv : Server) (now : Time) (x : Ref) :
    (srv.checkUdpRateLimit now x).1.view s = srv.view s := by
  have spent : srv.modify x (fun _ => ((srv.obj x).checkUdpRateLimit now).1) =
      srv.modify x fun y => (y.checkUdpRateLimit now).1 := rfl
  unfold checkUdpRateLimit
  dsimp only
  rw [spent]
  exact modify_view_hidden (fun shown y => checkUdpRateLimit_veil shown now y) srv x

theorem setUdpEndpoint_inward (e : Endpoint) : Session.Inward (Session.setUdpEndpoint e) :=
  fun _ => rfl

theorem bind_inward (config : Config) (r : Reception) (sender : Endpoint) :
    Session.Inward (Session.bind config r sender) := fun _ => rfl

theorem unmapEndpoint_view (srv : Server) (x : Ref) : (srv.unmapEndpoint x).view s = srv.view s := by
  rw [view, unmapEndpoint_veil]
  rfl

theorem rebind_view (srv : Server) (x : Ref) (sender : Endpoint) :
    (srv.rebind x sender).view s =
      if x = s then (srv.view s).modify s (Session.setUdpEndpoint sender) else srv.view s := by
  unfold rebind
  split
  · rename_i already
    by_cases here : x = s
    · subst here
      have kept : Session.setUdpEndpoint sender ((srv.view x).obj x) = (srv.view x).obj x := by
        simp [view_obj, Session.veil, Session.setUdpEndpoint, already]
      rw [if_pos rfl, modify, kept, Function.update_eq_self]
    · rw [if_neg here]
  · have tabled : ∀ udpEndpointToSession,
        ({ srv.unmapEndpoint x with udpEndpointToSession } : Server).view s = srv.view s :=
      fun _ => unmapEndpoint_view srv x
    rw [modify_view (g := Session.setUdpEndpoint sender) (setUdpEndpoint_inward sender)
      fun _ => rfl, tabled]

/-- The four writes of `Udpregister_handler`, in one. -/
theorem registering_eq (config : Config) (srv : Server) (r : Reception) (x : Ref)
    (sender : Endpoint) :
    (((srv.modify x (Session.setUdpEndpoint sender)).modify x
      (Session.updateUdpAliveTime r.now)).modify x
        (Session.setUdpTokenTtl config.udpTokenTtlSeconds)).modify x
          (Session.setUdpToken config r.now r.token) =
      (srv.modify x (Session.updateUdpAliveTime r.now)).modify x (Session.bind config r sender) := by
  rw [modify_modify, modify_modify, modify_modify, modify_modify]
  rfl

theorem updateUdpAliveTime_view (srv : Server) (now : Time) (x : Ref) :
    (srv.modify x (Session.updateUdpAliveTime now)).view s = srv.view s :=
  modify_view_hidden (fun shown _ => by cases shown <;> rfl) srv x

theorem udpRegisterHandler_view (srv : Server) (r : Reception) (x : Ref) (msg : Json)
    (sender : Endpoint) :
    (srv.udpRegisterHandler env r x msg sender).1.view s =
      if x = s then (srv.view s).modify s (Session.bind env.config r sender) else srv.view s := by
  have bound := @modify_view s (Session.bind env.config r sender) (bind_inward _ _ _)
    (Session.bind env.config r sender) (fun _ => rfl)
    (srv.modify x (Session.updateUdpAliveTime r.now)) x
  rw [updateUdpAliveTime_view] at bound
  unfold udpRegisterHandler
  dsimp only
  rw [registering_eq]
  cases msg.valueStr "nickname" "anonymity" with
  | error problem => exact bound
  | ok nickname =>
      have recorded := @modify_view_hidden s
        (fun y => { y with registration := some ⟨sender, r.token, r.now⟩ })
        (fun shown _ => by cases shown <;> rfl)
        ((srv.modify x (Session.updateUdpAliveTime r.now)).modify x
          (Session.bind env.config r sender)) x
      exact recorded.trans bound

theorem dispatchUdpParsed_view (srv : Server) (r : Reception) (x : Ref) (type : String) (msg : Json)
    (sender : Endpoint) :
    (srv.dispatchUdpParsed env r x type msg sender).1.view s =
      if type = "udp_register" ∧ x = s then
        (srv.view s).modify s (Session.bind env.config r sender)
      else srv.view s := by
  by_cases register : type = "udp_register"
  · subst register
    rw [dispatchUdpParsed_register]
    simp only [true_and]
    exact udpRegisterHandler_view srv r x msg sender
  · rw [if_neg fun both => register both.1, dispatchUdpParsed_server register]
    rfl

/-- Step 5 looks at nothing that is hidden. -/
theorem rejection_view (srv : Server) (now : Time) (token : String) (sender : Endpoint) :
    (srv.view s).rejection now s token sender = srv.rejection now s token sender := by
  simp only [rejection, view_obj, decide_true]
  rfl

/-- What a reception that reaches step 5 does to the view of the session it names. -/
def taken (env : Env) (r : Reception) (sender : Endpoint) (s : Ref) (type token : String)
    (admitted : Bool) (seen : Server) : Server :=
  if type = "udp_register" then
    if admitted then seen.modify s (Session.bind env.config r sender) else seen
  else if seen.rejection r.now s token sender = some .expired then
    seen.modify s Session.clearUdpToken
  else seen

/-- A `udp_register` that is handled binds whom it names. -/
theorem register_view (srv : Server) (r : Reception) (x : Ref) (token : String) (msg : Json)
    (sender : Endpoint) :
    (srv.receiveFor env r x "udp_register" token msg sender).1.view s =
      if x = s ∧ (srv.checkUdpRateLimit r.now x).2 = true then
        (srv.view s).modify s (Session.bind env.config r sender)
      else srv.view s := by
  have spent := @checkUdpRateLimit_view s srv r.now x
  simp only [receiveFor, if_true]
  cases admitted : (srv.checkUdpRateLimit r.now x).2 with
  | false =>
      simp only [Bool.false_eq_true, and_false, if_false]
      exact spent
  | true =>
      simp only [if_true, and_true]
      rw [dispatchUdpParsed_view, updateUdpAliveTime_view, rebind_view, spent]
      by_cases here : x = s
      · simp only [here, and_self, if_true, modify_modify]
        rfl
      · simp [here]

/-- Any other datagram changes the view only where its token is found expired. -/
theorem command_view (srv : Server) (r : Reception) (x : Ref) {type : String}
    (command : type ≠ "udp_register") (token : String) (msg : Json) (sender : Endpoint) :
    (srv.receiveFor env r x type token msg sender).1.view s =
      if x = s ∧ srv.rejection r.now x token sender = some .expired then
        (srv.view s).modify s Session.clearUdpToken
      else srv.view s := by
  have cleared := @modify_view s Session.clearUdpToken (fun _ => rfl) Session.clearUdpToken
    (fun _ => rfl) srv x
  simp only [receiveFor, command, if_false]
  cases srv.rejection r.now x token sender with
  | some problem =>
      simp only [Option.some.injEq]
      by_cases expired : problem = .expired
      · simp only [expired, if_true, and_true]
        exact cleared
      · simp only [expired, and_false, if_false]
  | none =>
      simp only [reduceCtorEq, and_false, if_false]
      split
      · rw [dispatchUdpParsed_view, if_neg fun both => command both.1, updateUdpAliveTime_view,
          checkUdpRateLimit_view]
      · exact checkUdpRateLimit_view srv r.now x

theorem receiveFor_view (srv : Server) (r : Reception) (x : Ref) (type token : String) (msg : Json)
    (sender : Endpoint) :
    (srv.receiveFor env r x type token msg sender).1.view s =
      if x = s then
        taken env r sender s type token (srv.checkUdpRateLimit r.now s).2 (srv.view s)
      else srv.view s := by
  by_cases here : x = s
  · subst here
    rw [if_pos rfl, taken]
    by_cases register : type = "udp_register"
    · subst register
      rw [register_view, if_pos rfl]
      simp only [true_and]
    · rw [command_view _ _ _ register, if_neg register, rejection_view]
      simp only [true_and]
  · rw [if_neg here]
    by_cases register : type = "udp_register"
    · subst register
      rw [register_view, if_neg fun both => here both.1]
    · rw [command_view _ _ _ register, if_neg fun both => here both.1]

/-- What a reception does to the view of `s`, given what the datagram names and the
limiters' verdicts. -/
def heard (env : Env) (r : Reception) (sender : Endpoint) (s : Ref) (budget : Bool × Bool)
    (packet : Option (Ref × String × String)) (seen : Server) : Server :=
  match packet with
  | none => seen
  | some (x, type, token) =>
      if x = s ∧ budget.1 = true then taken env r sender s type token budget.2 seen else seen

/-- A datagram of a size that is read names the session it is addressed to. -/
theorem named_iff {srv : Server} {msg : Bytes} {x : Ref} {type token : String} :
    srv.named env msg = some (x, type, token) ↔
      ¬ (msg.length = 0 ∨ env.config.maxUdpPacketSize < msg.length) ∧
        ∃ j nickname, Addresses env srv msg j x nickname type token := by
  constructor
  · intro names
    unfold named at names
    split at names
    · cases names
    · rename_i sized
      split at names
      · cases names
      · rename_i j parsed
        split at names
        · rename_i nickname type' token' called typed read
          split at names
          · cases names
          · rename_i nonempty
            obtain ⟨y, found, same⟩ := Option.map_eq_some_iff.mp names
            cases same
            exact ⟨sized, j, nickname, parsed, called, typed, read, nonempty, found⟩
        · cases names
  · rintro ⟨sized, j, nickname, addressed⟩
    unfold named
    rw [if_neg sized, addressed.parsed]
    simp only [addressed.named, addressed.typed, addressed.carried, if_neg addressed.nonempty,
      addressed.found, Option.map_some]

/-- Past the limiters, a reception is for whom the datagram names. -/
theorem onUdpReceive_named (env : Env) (srv : Server) (r : Reception) {msg : Bytes}
    (sender : Endpoint) (sized : ¬ (msg.length = 0 ∨ env.config.maxUdpPacketSize < msg.length)) :
    let total := srv.udpGlobalLimiter.shardedUdpRateLimit env.config.totalLimitPerSec r
    (∃ x type token j, total.2 = true ∧ srv.named env msg = some (x, type, token) ∧
      srv.onUdpReceive env r msg sender =
        (srv.counted env r).receiveFor env r x type token j sender) ∨
    ((total.2 = true → srv.named env msg = none) ∧
      ∃ effects, srv.onUdpReceive env r msg sender = (srv.counted env r, effects) ∧
        ∀ x type token e, .dispatch x type token e ∉ effects) := by
  rcases onUdpReceive_cases env srv r msg sender with
    ⟨j, x, nickname, type, token, addressed, admitted, given⟩ | ⟨sent, nobody, unheard, given⟩
  · exact .inl ⟨x, type, token, j, admitted, named_iff.mpr ⟨sized, j, nickname, addressed⟩, given⟩
  · refine .inr ⟨fun admitted => ?_, sent, given, unheard⟩
    cases names : srv.named env msg with
    | none => rfl
    | some packet =>
        obtain ⟨-, j, nickname, addressed⟩ := named_iff.mp names
        exact absurd addressed (nobody admitted j packet.1 nickname packet.2.1 packet.2.2)

theorem named_view {srv srv' : Server} (seen : srv'.view s = srv.view s) (msg : Bytes) :
    srv'.named env msg = srv.named env msg := by
  have managers : srv'.manager = srv.manager := by
    have whole := congrArg Server.manager seen
    exact whole
  rw [named, named, managers]

/-- What becomes of a reception: past the limiters it is for whom the datagram names,
and otherwise it changes nothing in view. -/
def Received (env : Env) (srv : Server) (r : Reception) (msg : Bytes) (sender : Endpoint) (s : Ref)
    (out : Server × List UdpEffect) : Prop :=
  (∃ (srv' : Server) (x : Ref) (type token : String) (j : Json),
    srv'.view s = srv.view s ∧ srv.named env msg = some (x, type, token) ∧
      srv.budgets env r sender s = (true, (srv'.checkUdpRateLimit r.now s).2) ∧
      out = srv'.receiveFor env r x type token j sender) ∨
  (((srv.budgets env r sender s).1 = true → srv.named env msg = none) ∧
    out.1.view s = srv.view s ∧ ∀ x type token e, .dispatch x type token e ∉ out.2)

/-- The part of the reception after its endpoint's bucket. -/
theorem onUdpReceive_received {srv srv' : Server} {r : Reception} {msg : Bytes} {sender : Endpoint}
    (sized : ¬ (msg.length = 0 ∨ env.config.maxUdpPacketSize < msg.length))
    (seen : srv'.view s = srv.view s)
    (budget : srv.budgets env r sender s =
      ((srv'.udpGlobalLimiter.shardedUdpRateLimit env.config.totalLimitPerSec r).2,
        (srv'.checkUdpRateLimit r.now s).2)) :
    Received env srv r msg sender s (srv'.onUdpReceive env r msg sender) := by
  rcases onUdpReceive_named env srv' r sender sized with
    ⟨x, type, token, j, passed, names, given⟩ | ⟨nobody, effects, given, sends⟩
  · refine .inl ⟨srv'.counted env r, x, type, token, j, seen, ?_, ?_, given⟩
    · rw [← named_view seen, names]
    · rw [budget, passed]
      rfl
  · refine .inr ⟨?_, ?_, ?_⟩
    · rw [budget, ← named_view seen]
      exact nobody
    · rw [given]
      exact seen
    · rw [given]
      exact sends

theorem budgets_askedFor (env : Env) (srv : Server) (r : Reception) (sender : Endpoint) (s : Ref) :
    srv.budgets env r sender s =
      ((srv.askedFor r.now sender).2 && ((srv.askedFor r.now sender).1.udpGlobalLimiter
        |>.shardedUdpRateLimit env.config.totalLimitPerSec r).2,
        ((srv.askedFor r.now sender).1.checkUdpRateLimit r.now s).2) := rfl

theorem udpReceive_received (env : Env) (srv : Server) (r : Reception) (msg : Bytes)
    (sender : Endpoint) (s : Ref) :
    Received env srv r msg sender s (srv.udpReceive env r msg sender) := by
  have spent : (srv.askedFor r.now sender).1.view s = srv.view s :=
    askedFor_keeps (fun srv' => srv'.view s = srv.view s) rfl fun x => checkUdpRateLimit_view srv r.now x
  rcases udpReceive_cases env srv r msg sender with
    ⟨sized, given⟩ | ⟨parsed, given⟩ | ⟨exceeded, given⟩ | ⟨sized, -, granted, given⟩
  · rw [given]
    exact .inr ⟨fun _ => by rw [named, if_pos sized], rfl, by simp⟩
  · rw [given]
    refine .inr ⟨fun _ => ?_, rfl, by simp⟩
    rw [named, parsed]
    exact ite_self none
  · rw [given]
    refine .inr ⟨fun within => ?_, spent, by simp⟩
    rw [budgets_askedFor, exceeded] at within
    cases within
  · rw [given]
    refine onUdpReceive_received sized spent ?_
    rw [budgets_askedFor, granted]
    simp only [Bool.true_and]

/-- **What a reception does to the view of `s`.** -/
theorem udpReceive_view (srv : Server) (r : Reception) (msg : Bytes) (sender : Endpoint) :
    (srv.udpReceive env r msg sender).1.view s =
      heard env r sender s (srv.budgets env r sender s) (srv.named env msg) (srv.view s) := by
  rcases udpReceive_received env srv r msg sender s with
    ⟨srv', x, type, token, j, seen, names, budget, given⟩ | ⟨nobody, seen, -⟩
  · rw [given, names, budget, receiveFor_view, seen]
    simp [heard]
  · rw [seen]
    unfold heard
    cases names : srv.named env msg with
    | none => rfl
    | some packet =>
        rcases packet with ⟨x, type, token⟩
        have refused : ¬ (srv.budgets env r sender s).1 = true := fun within => by
          rw [nobody within] at names
          cases names
        simp [refused]

theorem receiveFor_dispatches (srv : Server) (r : Reception) (x : Ref)
    (type type' token token' : String) (msg : Json) (sender : Endpoint) :
    .dispatch s type token sender ∈ (srv.receiveFor env r x type' token' msg sender).2 ↔
      (x = s ∧ type' = type ∧ token' = token) ∧
        (type' = "udp_register" ∨ srv.rejection r.now x token' sender = none) ∧
        (srv.checkUdpRateLimit r.now x).2 = true := by
  have sends : ∀ srv' : Server, .dispatch s type token sender ∉
      (srv'.dispatchUdpParsed env r x type' msg sender).2 := fun srv' member => by
    obtain ⟨target, payload, absurd⟩ := dispatchUdpParsed_sends srv' x type' msg _ member
    cases absurd
  unfold receiveFor
  by_cases register : type' = "udp_register"
  · subst register
    simp only [if_true, true_or, true_and]
    split
    · rename_i admitted
      simp only [List.mem_cons, sends, or_false, UdpEffect.dispatch.injEq, and_true, admitted]
      tauto
    · rename_i refused
      simp [refused]
  · simp only [register, if_false, false_or]
    cases srv.rejection r.now x token' sender with
    | some problem => simp
    | none =>
        simp only [true_and]
        split
        · rename_i admitted
          simp only [List.mem_cons, sends, or_false, UdpEffect.dispatch.injEq, and_true, admitted]
          tauto
        · rename_i refused
          simp [refused]

/-- **The dispatcher is given the datagrams the checks take, within the budgets.** -/
theorem dispatched_iff (srv : Server) (r : Reception) (msg : Bytes) (sender : Endpoint)
    (type token : String) :
    .dispatch s type token sender ∈ (srv.udpReceive env r msg sender).2 ↔
      Takes env srv r.now msg sender s type token ∧
        srv.budgets env r sender s = (true, true) := by
  rcases udpReceive_received env srv r msg sender s with
    ⟨srv', x, type', token', j, seen, names, budget, given⟩ | ⟨nobody, -, sends⟩
  · have rejected : srv'.rejection r.now s token' sender = srv.rejection r.now s token' sender := by
      rw [← rejection_view srv', seen, rejection_view]
    rw [given, receiveFor_dispatches, budget, Takes, names]
    simp only [Option.some.injEq, Prod.mk.injEq, true_and]
    constructor
    · rintro ⟨⟨rfl, rfl, rfl⟩, checks, admitted⟩
      exact ⟨⟨⟨rfl, rfl, rfl⟩, rejected ▸ checks⟩, admitted⟩
    · rintro ⟨⟨⟨rfl, rfl, rfl⟩, checks⟩, admitted⟩
      exact ⟨⟨rfl, rfl, rfl⟩, rejected.symm ▸ checks, admitted⟩
  · constructor
    · intro member
      exact absurd member (sends s type token sender)
    · rintro ⟨⟨names, -⟩, budget⟩
      rw [nobody (by rw [budget])] at names
      cases names

/-! ## Two runs -/

/-- A forged datagram: the session is open and bound with a token within its
lifetime, and the datagram comes from another endpoint and does not carry the token. -/
def Forged (env : Env) (s : Ref) (srv : Server) : Event → Prop
  | .datagram r msg sender =>
      (srv.obj s).socketOpen = true ∧ (srv.obj s).udpEndpoint ≠ none ∧
        (srv.obj s).isUdpTokenValid r.now = true ∧
        (srv.obj s).udpEndpoint ≠ some sender ∧ carried env msg ≠ some (srv.obj s).udpToken
  | _ => False

/-- A `udp_register` that names the session. -/
def RegistersAs (env : Env) (s : Ref) (srv : Server) : Event → Prop
  | .datagram _ msg _ =>
      ((srv.named env msg).map fun packet => (packet.1, packet.2.1)) = some (s, "udp_register")
  | _ => False

/-- The limiters give a datagram that names the session the same verdicts in both
servers. -/
def SameBudgets (env : Env) (s : Ref) (srv srv' : Server) : Event → Prop
  | .datagram r msg sender =>
      (srv.named env msg).map Prod.fst = some s →
        srv.budgets env r sender s = srv'.budgets env r sender s
  | _ => True

instance (env : Env) (s : Ref) (srv : Server) : ∀ e, Decidable (Forged env s srv e)
  | .datagram _ _ _ => inferInstanceAs (Decidable (_ ∧ _))
  | .accept _ _ | .readDone _ _ | .handlerStep _ _ _ | .loginTimer _ _ | .writeDone _ _ | .post _
  | .keepaliveCheck _ | .cleanupInactive _ | .sweepClose _ | .expireStaleUdp | .dbConnected _
  | .dbMessage _ | .dbExpire _ _ | .dbResend _ _ _ | .udpBroadcast _ => isFalse id

instance (env : Env) (s : Ref) (srv : Server) : ∀ e, Decidable (RegistersAs env s srv e)
  | .datagram _ _ _ => inferInstanceAs (Decidable (_ = _))
  | .accept _ _ | .readDone _ _ | .handlerStep _ _ _ | .loginTimer _ _ | .writeDone _ _ | .post _
  | .keepaliveCheck _ | .cleanupInactive _ | .sweepClose _ | .expireStaleUdp | .dbConnected _
  | .dbMessage _ | .dbExpire _ _ | .dbResend _ _ _ | .udpBroadcast _ => isFalse id

instance (env : Env) (s : Ref) (srv srv' : Server) : ∀ e, Decidable (SameBudgets env s srv srv' e)
  | .datagram _ _ _ => inferInstanceAs (Decidable (_ → _))
  | .accept _ _ | .readDone _ _ | .handlerStep _ _ _ | .loginTimer _ _ | .writeDone _ _ | .post _
  | .keepaliveCheck _ | .cleanupInactive _ | .sweepClose _ | .expireStaleUdp | .dbConnected _
  | .dbMessage _ | .dbExpire _ _ | .dbResend _ _ _ | .udpBroadcast _ => isTrue trivial

/-- The session's endpoint, its token and what is accepted as it are the same. -/
structure Unmoved (env : Env) (s : Ref) (srv srv' : Server) : Prop where
  endpoint : (srv.obj s).udpEndpoint = (srv'.obj s).udpEndpoint
  token : (srv.obj s).udpToken = (srv'.obj s).udpToken
  accepts : ∀ now msg sender type token,
    srv.Takes env now msg sender s type token ↔ srv'.Takes env now msg sender s type token
  /-- What the dispatcher is given, within the same budgets. -/
  dispatches : ∀ r msg sender type token,
    srv.budgets env r sender s = srv'.budgets env r sender s →
      (.dispatch s type token sender ∈ outputs env srv (.datagram r msg sender) ↔
        .dispatch s type token sender ∈ outputs env srv' (.datagram r msg sender))

/-- What is decided on the view is decided alike on servers of one view. -/
theorem unmoved_of_view {srv srv' : Server} (seen : srv.view s = srv'.view s) :
    Unmoved env s srv srv' := by
  have objects : (srv.obj s).veil true = (srv'.obj s).veil true := by
    have whole := congrArg (fun seen => Server.obj seen s) seen
    simpa [view_obj] using whole
  have accepts : ∀ now msg sender type token,
      srv.Takes env now msg sender s type token ↔ srv'.Takes env now msg sender s type token := by
    intro now msg sender type token
    have checks : srv.rejection now s token sender = srv'.rejection now s token sender := by
      rw [← rejection_view srv, seen, rejection_view]
    rw [Takes, Takes, named_view seen, checks]
  refine ⟨?_, ?_, accepts, ?_⟩
  · have endpoints := congrArg Session.udpEndpoint objects
    exact endpoints
  · have tokens := congrArg Session.udpToken objects
    exact tokens
  · intro r msg sender type token budget
    refine (dispatched_iff _ r msg sender type token).trans ?_
    refine Iff.trans ?_ (dispatched_iff _ r msg sender type token).symm
    refine and_congr (accepts r.now msg sender type token) ?_
    rw [budgets_journal srv, budgets_journal srv', budget]

theorem carried_of_named {srv : Server} {msg : Bytes} {x : Ref} {type token : String}
    (names : srv.named env msg = some (x, type, token)) : carried env msg = some token := by
  obtain ⟨-, j, nickname, addressed⟩ := named_iff.mp names
  simp only [carried, addressed.parsed, addressed.carried, Except.toOption]

/-- A forged datagram that does not register leaves the view of the session. -/
theorem forged_view {srv : Server} {e : Event} (forged : Forged env s srv e)
    (command : ¬ RegistersAs env s srv e) : (srv.step env e).view s = srv.view s := by
  cases e with
  | datagram r msg sender =>
      obtain ⟨-, -, -, -, uncarried⟩ := forged
      have fresh : ({ srv with journal := [] } : Server).view s = srv.view s := rfl
      refine (udpReceive_view { srv with journal := [] } r msg sender).trans ?_
      rw [named_view fresh, fresh]
      cases names : srv.named env msg with
      | none => rfl
      | some packet =>
          rcases packet with ⟨x, type, token⟩
          simp only [heard]
          split
          · rename_i named
            obtain ⟨rfl, -⟩ := named
            have other : type ≠ "udp_register" := fun register =>
              command (by simp [RegistersAs, names, register])
            have wrong : (srv.obj x).udpToken ≠ token := fun same =>
              uncarried (by rw [carried_of_named names, same])
            have refused : srv.rejection r.now x token sender = some .token := by
              simp [rejection, wrong]
            simp [taken, other, rejection_view, refused]
          · rfl
  | _ => exact absurd forged id

/-- An event that stays keeps servers of one view at one view. -/
theorem kept_view {srv srv' : Server} {e : Event} (seen : srv.view s = srv'.view s)
    (budgets : SameBudgets env s srv srv' e) :
    (srv.step env e).view s = (srv'.step env e).view s := by
  by_cases datagram : e.isDatagram = true
  · cases e with
    | datagram r msg sender =>
        have received := fun srv : Server =>
          @udpReceive_view env s { srv with journal := [] } r msg sender
        refine (received srv).trans (Eq.trans ?_ (received srv').symm)
        rw [budgets_journal srv, budgets_journal srv']
        change heard env r sender s (srv.budgets env r sender s) (srv.named env msg) (srv.view s) =
          heard env r sender s (srv'.budgets env r sender s) (srv'.named env msg) (srv'.view s)
        rw [← named_view seen, seen]
        cases names : srv.named env msg with
        | none => rfl
        | some packet =>
            rcases packet with ⟨x, type, token⟩
            by_cases here : x = s
            · subst here
              rw [budgets (by rw [names]; rfl)]
            · simp [heard, here]
    | _ => cases datagram
  · have other : e.isDatagram = false := Bool.eq_false_iff.mpr datagram
    rw [step_view other, step_view other, seen]

/-- **Forged datagrams move nothing**: beside the same run without them, a run with forged
datagrams, none of them a `udp_register` that names the session, leaves the session the
same endpoint and token, and the same datagrams are accepted as it. -/
theorem forged_spares (env : Env) (router : Option (DBmwRouter LoginFlow)) (s : Ref)
    (marked : List (Event × Bool))
    (beside : Beside (Server.step env)
      (fun srv e => Forged env s srv e ∧ ¬ RegistersAs env s srv e) (SameBudgets env s)
      (initial env router) (initial env router) marked) :
    Unmoved env s (after env router (marked.map Prod.fst)) (after env router (purge marked)) := by
  have seen : (after env router (marked.map Prod.fst)).view s =
      (after env router (purge marked)).view s :=
    @alike_purged Server Event (Server.step env)
      (fun srv e => Forged env s srv e ∧ ¬ RegistersAs env s srv e) (SameBudgets env s)
      (fun srv srv' => srv.view s = srv'.view s)
      (fun _ _ _ alike removed => (forged_view removed.1 removed.2).trans alike)
      (fun _ _ _ alike kept => kept_view alike kept) _ _ rfl _ beside
  exact unmoved_of_view seen

def forgedText : String :=
  "\x7b\"type\":\"udp\",\"nickname\":\"kim\",\"token\":\"00\",\"msg\":\"hi\"\x7d"

def forgeryEnv : Env :=
  { udpTrialEnv with
    parse := readsAs [(kimText, kimLogin),
      (registerText, .obj [("type", .str "udp_register"), ("nickname", .str "kim")]),
      (echoText, .obj [("type", .str "udp"), ("nickname", .str "kim"), ("token", .str "2f"),
        ("msg", .str "hi")]),
      (forgedText, .obj [("type", .str "udp"), ("nickname", .str "kim"), ("token", .str "00"),
        ("msg", .str "hi")])] }

def forgerEndpoint : Endpoint := ⟨"10.0.6.6", 6666⟩

/-- kim is registered, a forger guesses at her token, and her echo comes. -/
def guessed : List (Event × Bool) :=
  registered.map (·, false) ++
    [(.datagram ⟨seconds 6, 0, ""⟩ (utf8 forgedText) forgerEndpoint, true),
      (.datagram ⟨seconds 7, 0, ""⟩ (utf8 echoText) kimEndpoint, false)]

theorem forged_spares_guessed :
    Unmoved forgeryEnv 0 (after forgeryEnv none (guessed.map Prod.fst))
      (after forgeryEnv none (purge guessed)) :=
  forged_spares forgeryEnv none 0 guessed (by decide +kernel)

/-- **A `udp_register` binds whoever sends it**: within the budgets, the session it names
is left with the sender's endpoint and the token sent there. -/
theorem register_binds {srv : Server} {r : Reception} {msg : Bytes} {sender : Endpoint}
    {token : String} (names : srv.named env msg = some (s, "udp_register", token))
    (budget : srv.budgets env r sender s = (true, true)) :
    ((srv.step env (.datagram r msg sender)).obj s).udpEndpoint = some sender ∧
      ((srv.step env (.datagram r msg sender)).obj s).udpToken = r.token := by
  have heardOf : (srv.step env (.datagram r msg sender)).view s =
      (srv.view s).modify s (Session.bind env.config r sender) := by
    refine (udpReceive_view { srv with journal := [] } r msg sender).trans ?_
    have fresh : ({ srv with journal := [] } : Server).view s = srv.view s := rfl
    rw [budgets_journal srv, named_view fresh, fresh, names, budget]
    simp [heard, taken]
  have object := congrArg (fun seen => Server.obj seen s) heardOf
  simp only [view_obj, decide_true, modify_obj_self] at object
  have endpoint := congrArg Session.udpEndpoint object
  have bound := congrArg Session.udpToken object
  exact ⟨endpoint, bound⟩

/-- kim is registered, and somebody else sends a `udp_register` with her nickname. -/
def hijacked : List (Event × Bool) :=
  registered.map (·, false) ++
    [(.datagram ⟨seconds 6, 0, "e1"⟩ (utf8 registerText) forgerEndpoint, true)]

/-- It comes from another endpoint and carries no token, and the binding is theirs. -/
theorem forged_register_takes_over :
    Beside (Server.step udpTrialEnv) (Forged udpTrialEnv 0) (SameBudgets udpTrialEnv 0)
        (initial udpTrialEnv none) (initial udpTrialEnv none) hijacked ∧
      ¬ Unmoved udpTrialEnv 0 (after udpTrialEnv none (hijacked.map Prod.fst))
        (after udpTrialEnv none (purge hijacked)) := by
  refine ⟨by decide +kernel, fun unmoved => ?_⟩
  have endpoint := unmoved.endpoint
  revert endpoint
  decide +kernel

end Server

end GameServer.Kernel
