/-
# Kernel.Exceptions -- where an exception of `nlohmann::json` ends

The functions a datagram goes through, written once more with the exceptions in
them: a call ends with what it changed and sent, and perhaps with an exception that
leaves it.  `UDPManager` and `dispatch_udp_parsed` catch; the body that
`udp_broadcast` posts does not.

* `startReceive_eq` -- nothing leaves the completion handler, which does what
  `udpReceive` does;
* `runUdpBroadcast_eq` -- the walk of a posted broadcast, against `runUdpBroadcast`;
* `udpReceive_leaves` -- what a reception posts;
* `contained_iff` -- no exception gets out, unless a datagram is accepted as a
  broadcast with a `msg` that is not a string and there is somebody to send it to.
-/
import GameServer.Kernel.Endpoints
import GameServer.Kernel.Forgery

namespace GameServer.Kernel

set_option autoImplicit false

open Wire

/-- What `nlohmann::json` throws: a `parse_error`, or the error of a member read. -/
inductive Thrown where
  | parse
  | field (problem : JsonError)
deriving DecidableEq, Repr

/-- How a call ends: what it changed and sent, and the exception that leaves it. -/
structure Ending where
  server : Server
  effects : List UdpEffect := []
  thrown : Option Thrown := none

namespace Ending

/-- `catch (const std::exception&)`: what was done before the exception stays done. -/
def caught (o : Ending) : Ending := { o with thrown := none }

/-- A call that returns. -/
def returned (out : Server × List UdpEffect) : Ending := ⟨out.1, out.2, none⟩

/-- `value(key, default)` before anything is sent. -/
def reading (srv : Server) (field : Except JsonError String) (next : String → Ending) : Ending :=
  match field with
  | .error problem => { server := srv, thrown := some (.field problem) }
  | .ok text => next text

@[simp] theorem caught_returned (out : Server × List UdpEffect) :
    (returned out).caught = returned out := rfl

@[simp] theorem reading_ok (srv : Server) (text : String) (next : String → Ending) :
    reading srv (.ok text) next = next text := rfl

@[simp] theorem reading_error (srv : Server) (problem : JsonError) (next : String → Ending) :
    reading srv (.error problem) next = ⟨srv, [], some (.field problem)⟩ := rfl

end Ending

namespace Throwing

open Ending Server

variable (env : Env)

/-! ## The handlers -/

/-- `Udp_handler`. -/
def udpHandler (srv : Server) (msg : Json) (sender : Endpoint) : Ending :=
  reading srv (msg.valueStr "msg" "") fun text =>
    reading srv (msg.valueStr "nickname" "anonymity") fun nickname =>
      let reply := Json.obj [("type", .str "udp_reply"), ("msg", .str ("Echo(UDP): " ++ text)),
        ("nickname", .str nickname)]
      { server := srv, effects := [.send sender (env.dump reply)] }

/-- `Udpbroadcast_handler`. -/
def udpBroadcastHandler (srv : Server) (msg : Json) : Ending :=
  reading srv (msg.valueStr "nickname" "") fun nickname =>
    { server := { srv with udpBroadcasts := srv.udpBroadcasts ++ [(env.dump msg, nickname)] } }

/-- `Udpregister_handler`. -/
def udpRegisterHandler (srv : Server) (r : Reception) (s : Ref) (msg : Json) (sender : Endpoint) :
    Ending :=
  let srv := srv.modify s (Session.setUdpEndpoint sender)
  let srv := srv.modify s (Session.updateUdpAliveTime r.now)
  let srv := srv.modify s (Session.setUdpTokenTtl env.config.udpTokenTtlSeconds)
  let srv := srv.modify s (Session.setUdpToken env.config r.now r.token)
  reading srv (msg.valueStr "nickname" "anonymity") fun nickname =>
    let registration := ⟨sender, r.token, r.now⟩
    let srv := srv.modify s fun x => { x with registration := some registration }
    { server := srv.note (.registerUdp s registration)
      effects := [.send sender (env.dump (udpRegisterAck r.token nickname))] }

/-- `Udpbroadcastzone_handler`. -/
def udpBroadcastZoneHandler (srv : Server) (s : Ref) (msg : Json) : Ending :=
  match srv.zones (srv.obj s).zoneId with
  | none => { server := srv }
  | some zone =>
      reading srv (msg.valueStr "msg" "") fun text =>
        let out := Json.obj [("type", .str "broadcast_udp_zone"),
          ("nickname", .str (srv.obj s).nickname), ("msg", .str text)]
        { server := srv
          effects := zone.entries.filterMap fun entry =>
            if (srv.obj entry.2).nickname = (srv.obj s).nickname then none
            else (srv.obj entry.2).udpEndpoint.map fun e => .send e (env.dump out) }

/-- `dispatch_udp_parsed`: a `try` around the type and the handler. -/
def dispatchUdpParsed (srv : Server) (r : Reception) (s : Ref) (msg : Json) (sender : Endpoint) :
    Ending :=
  Ending.caught <|
    reading srv (msg.valueStr "type" "") fun type =>
      if type = "udp" then udpHandler env srv msg sender
      else if type = "broadcast_udp" then udpBroadcastHandler env srv msg
      else if type = "udp_register" then udpRegisterHandler env srv r s msg sender
      else if type = "broadcast_udp_zone" then udpBroadcastZoneHandler env srv s msg
      else { server := srv, effects := [.send sender unknownUdpType] }

/-! ## Receiving -/

/-- `on_udp_receive` from step 5 on. -/
def receiveFor (srv : Server) (r : Reception) (s : Ref) (type token : String) (msg : Json)
    (sender : Endpoint) : Ending :=
  let verdict := if type = "udp_register" then none else srv.rejection r.now s token sender
  match verdict with
  | some problem =>
      let srv :=
        if problem = .expired then
          (srv.modify s Session.clearUdpToken).note (.clearUdpToken s)
        else srv
      { server := srv, effects := [.send sender (env.dump (rejectionReply token problem))] }
  | none =>
      let (srv, admitted) := srv.checkUdpRateLimit r.now s
      if admitted then
        let srv := if type = "udp_register" then srv.rebind s sender else srv
        let srv := srv.modify s (Session.updateUdpAliveTime r.now)
        let handled := dispatchUdpParsed env srv r s msg sender
        { handled with effects := .dispatch s type token sender :: handled.effects }
      else
        { server := srv
          effects := [.send sender (env.dump (udpError "RATE_LIMIT" "UDP rate limit exceeded"))] }

/-- `on_udp_receive`, whose three member reads are in no `try` of its own. -/
def onUdpReceive (srv : Server) (r : Reception) (msg : Bytes) (sender : Endpoint) : Ending :=
  let (limiter, admitted) := srv.udpGlobalLimiter.shardedUdpRateLimit env.config.totalLimitPerSec r
  let srv := { srv with udpGlobalLimiter := limiter }
  if admitted then
    match env.parse msg with
    | none =>
        let reply := Json.obj [("type", .str "error"), ("msg", .str "Invalid JSON")]
        { server := srv, effects := [.send sender (env.dump reply)] }
    | some j =>
        reading srv (j.valueStr "nickname" "") fun nickname =>
          reading srv (j.valueStr "type" "") fun type =>
            reading srv (j.valueStr "token" "") fun token =>
              if nickname = "" then { server := srv }
              else
                match srv.manager.findSessionByNickname nickname with
                | none => { server := srv }
                | some s => receiveFor env srv r s type token j sender
  else { server := srv }

/-- The completion handler of `UDPManager::start_receive`, with a `try` around
`on_udp_receive`.  `try_parse_json` catches the `parse_error` itself. -/
def startReceive (srv : Server) (r : Reception) (msg : Bytes) (sender : Endpoint) : Ending :=
  if msg.length = 0 ∨ env.config.maxUdpPacketSize < msg.length then { server := srv }
  else
    match env.parse msg with
    | none =>
        let srv := srv.registerBadUdpPacket r.now sender
        let (srv, _) := srv.isBlockedUdp r.now sender
        { server := srv
          effects := [.send sender (env.dump (udpManagerError "Invalid JSON format"))] }
    | some _ =>
        let (srv, admitted) :=
          match srv.getSessionByEndpoint sender with
          | none => (srv, true)
          | some s => srv.checkUdpRateLimit r.now s
        if admitted then (onUdpReceive env srv r msg sender).caught
        else
          { server := srv
            effects :=
              [.send sender (env.dump (udpManagerError "너무 빠르게 UDP 메시지를 보내고 있습니다."))] }

/-! ## The posted broadcast -/

/-- What a posted broadcast makes of the text, for one endpoint. -/
def payload (text : String) : Except Thrown Json :=
  match env.parse (utf8 text) with
  | none => .error .parse
  | some recv => do
      let type ← (recv.valueStr "type" "").mapError .field
      let nickname ← (recv.valueStr "nickname" "").mapError .field
      let msg ← (recv.valueStr "msg" "").mapError .field
      return .obj [("type", .str type), ("nickname", .str nickname), ("msg", .str msg)]

/-- Its walk over the sessions still to come, with no `try` around it. -/
def udpBroadcastTo (srv : Server) (post : String × String) (sent : List UdpEffect) :
    List Ref → Ending
  | [] => { server := srv, effects := sent }
  | s :: rest =>
      if (srv.obj s).nickname = "" then udpBroadcastTo srv post sent rest
      else if (srv.obj s).nickname = post.2 then udpBroadcastTo srv post sent rest
      else
        match (srv.obj s).udpEndpoint with
        | none => udpBroadcastTo srv post sent rest
        | some e =>
            match payload env post.1 with
            | .error problem => ⟨srv, sent, some problem⟩
            | .ok send => udpBroadcastTo srv post (sent ++ [.send e (env.dump send)]) rest

/-- The body that `udp_broadcast` posts. -/
def udpBroadcast (srv : Server) (post : String × String) : Ending :=
  let srv := { srv with udpBroadcasts := srv.udpBroadcasts.erase post }
  udpBroadcastTo env srv post [] srv.manager.sessions

/-! ## What is caught -/

variable {env} {srv : Server} {r : Reception} {s : Ref} {msg : Json} {sender : Endpoint}

theorem udpHandler_caught :
    (udpHandler env srv msg sender).caught = returned (srv.udpHandler env msg sender) := by
  rw [udpHandler, Server.udpHandler]
  cases msg.valueStr "msg" "" with
  | error problem => rfl
  | ok text => cases msg.valueStr "nickname" "anonymity" <;> rfl

theorem udpBroadcastHandler_caught :
    (udpBroadcastHandler env srv msg).caught = returned (srv.udpBroadcastHandler env msg) := by
  rw [udpBroadcastHandler, Server.udpBroadcastHandler]
  cases msg.valueStr "nickname" "" <;> rfl

theorem udpRegisterHandler_caught :
    (udpRegisterHandler env srv r s msg sender).caught =
      returned (srv.udpRegisterHandler env r s msg sender) := by
  simp only [udpRegisterHandler, Server.udpRegisterHandler]
  cases msg.valueStr "nickname" "anonymity" <;> rfl

theorem udpBroadcastZoneHandler_caught :
    (udpBroadcastZoneHandler env srv s msg).caught =
      returned (srv.udpBroadcastZoneHandler env s msg) := by
  rw [udpBroadcastZoneHandler, Server.udpBroadcastZoneHandler]
  cases srv.zones (srv.obj s).zoneId with
  | none => rfl
  | some zone => cases msg.valueStr "msg" "" <;> rfl

/-- What a handler throws does not leave the dispatcher. -/
theorem dispatchUdpParsed_eq {type : String} (read : msg.valueStr "type" "" = .ok type) :
    dispatchUdpParsed env srv r s msg sender =
      returned (srv.dispatchUdpParsed env r s type msg sender) := by
  rw [dispatchUdpParsed, Server.dispatchUdpParsed, read, reading_ok]
  split
  · exact udpHandler_caught
  · split
    · exact udpBroadcastHandler_caught
    · split
      · exact udpRegisterHandler_caught
      · split
        · exact udpBroadcastZoneHandler_caught
        · rfl

theorem receiveFor_eq {type : String} (read : msg.valueStr "type" "" = .ok type) (token : String) :
    receiveFor env srv r s type token msg sender =
      returned (srv.receiveFor env r s type token msg sender) := by
  simp only [receiveFor, Server.receiveFor, dispatchUdpParsed_eq read]
  cases (if type = "udp_register" then none else srv.rejection r.now s token sender) with
  | some problem => rfl
  | none =>
      simp only
      split <;> rfl

/-- A member of another type throws out of `on_udp_receive`, and `UDPManager` catches. -/
theorem onUdpReceive_caught (msg : Bytes) :
    (onUdpReceive env srv r msg sender).caught = returned (srv.onUdpReceive env r msg sender) := by
  simp only [onUdpReceive, Server.onUdpReceive]
  split
  · cases env.parse msg with
    | none => rfl
    | some j =>
        simp only
        cases j.valueStr "nickname" "" with
        | error problem => rfl
        | ok nickname =>
            cases read : j.valueStr "type" "" with
            | error problem => rfl
            | ok type =>
                cases j.valueStr "token" "" with
                | error problem => rfl
                | ok token =>
                    simp only [reading_ok]
                    split
                    · rfl
                    · cases srv.manager.findSessionByNickname nickname with
                      | none => rfl
                      | some x =>
                          simp only [receiveFor_eq read]
                          rfl
  · rfl

/-- **Nothing leaves the completion handler**, and it does what `udpReceive` does. -/
theorem startReceive_eq (env : Env) (srv : Server) (r : Reception) (msg : Bytes)
    (sender : Endpoint) :
    startReceive env srv r msg sender = returned (srv.udpReceive env r msg sender) := by
  simp only [startReceive, Server.udpReceive]
  split
  · rfl
  · cases env.parse msg with
    | none => rfl
    | some j =>
        cases srv.getSessionByEndpoint sender with
        | none => exact onUdpReceive_caught msg
        | some x =>
            simp only
            split
            · exact onUdpReceive_caught msg
            · rfl

/-! ## What is not -/

/-- The ending as the model of the server has it, where the exception is an effect. -/
def flat (o : Ending) : Server × List UdpEffect :=
  (o.server, o.effects ++ (o.thrown.map fun _ => UdpEffect.threw).toList)

/-- The endpoint a broadcast of `nickname` goes to at a session, if it does. -/
def target (srv : Server) (nickname : String) (s : Ref) : Option Endpoint :=
  if (srv.obj s).nickname = "" ∨ (srv.obj s).nickname = nickname then none
  else (srv.obj s).udpEndpoint

theorem payload_eq (env : Env) (text : String) :
    (payload env text).toOption = udpBroadcastPayload env text := by
  rw [payload, udpBroadcastPayload, utf8]
  cases env.parse text.toUTF8.toList with
  | none => rfl
  | some recv =>
      simp only
      rcases recv.valueStr "type" "" with problem | type <;>
        rcases recv.valueStr "nickname" "" with problem | nickname <;>
        rcases recv.valueStr "msg" "" with problem | msg <;> rfl

/-- One session of the walk. -/
theorem udpBroadcastTo_cons (srv : Server) (post : String × String) (sent : List UdpEffect)
    (s : Ref) (rest : List Ref) :
    udpBroadcastTo env srv post sent (s :: rest) =
      match target srv post.2 s with
      | none => udpBroadcastTo env srv post sent rest
      | some e =>
          match payload env post.1 with
          | .error problem => ⟨srv, sent, some problem⟩
          | .ok send => udpBroadcastTo env srv post (sent ++ [.send e (env.dump send)]) rest := by
  rw [udpBroadcastTo, target]
  by_cases unnamed : (srv.obj s).nickname = ""
  · rw [if_pos unnamed, if_pos (.inl unnamed)]
  · by_cases own : (srv.obj s).nickname = post.2
    · rw [if_neg unnamed, if_pos own, if_pos (.inr own)]
    · rw [if_neg unnamed, if_neg own, if_neg (not_or.mpr ⟨unnamed, own⟩)]

/-- The walk sends one text to each target, or throws at the first. -/
theorem udpBroadcastTo_eq (srv : Server) (post : String × String) (sessions : List Ref)
    (sent : List UdpEffect) :
    udpBroadcastTo env srv post sent sessions =
      match sessions.filterMap (target srv post.2), payload env post.1 with
      | [], _ => ⟨srv, sent, none⟩
      | _, .error problem => ⟨srv, sent, some problem⟩
      | targets, .ok send => ⟨srv, sent ++ targets.map fun e => .send e (env.dump send), none⟩ := by
  induction sessions generalizing sent with
  | nil => rfl
  | cons s rest ih =>
      rw [udpBroadcastTo_cons]
      cases at_ : target srv post.2 s with
      | none => simp only [ih, List.filterMap_cons_none at_]
      | some e =>
          simp only [ih, List.filterMap_cons_some at_]
          cases payload env post.1 with
          | error problem => rfl
          | ok send =>
              cases rest.filterMap (target srv post.2) with
              | nil => rfl
              | cons e' targets => simp

/-- **The walk of a posted broadcast is what `runUdpBroadcast` does**, the exception
that leaves it included. -/
theorem runUdpBroadcast_eq (env : Env) (srv : Server) (post : String × String) :
    srv.runUdpBroadcast env post = flat (udpBroadcast env srv post) := by
  rw [udpBroadcast, udpBroadcastTo_eq, Server.runUdpBroadcast, ← payload_eq]
  have targets : (srv.manager.sessions.filterMap fun s =>
      if (srv.obj s).nickname = "" ∨ (srv.obj s).nickname = post.2 then none
      else (srv.obj s).udpEndpoint) = srv.manager.sessions.filterMap (target srv post.2) := rfl
  simp only [targets]
  change _ = flat (match srv.manager.sessions.filterMap (target srv post.2), payload env post.1 with
    | [], _ => _ | _, .error _ => _ | targets, .ok send => _)
  cases srv.manager.sessions.filterMap (target srv post.2) with
  | nil => cases payload env post.1 <;> rfl
  | cons e rest =>
      cases payload env post.1 with
      | error problem => rfl
      | ok send => simp [flat, Except.toOption]

/-- The exception gets out of the walk if the text makes no payload and somebody is
to have it. -/
theorem udpBroadcast_thrown_iff (env : Env) (srv : Server) (post : String × String) :
    (udpBroadcast env srv post).thrown = none ↔
      (∃ send, payload env post.1 = .ok send) ∨
        ∀ s ∈ srv.manager.sessions, target srv post.2 s = none := by
  rw [udpBroadcast, udpBroadcastTo_eq, ← List.filterMap_eq_nil_iff]
  change (match srv.manager.sessions.filterMap (target srv post.2), payload env post.1 with
    | [], _ => _ | _, .error _ => _ | targets, .ok send => _ : Ending).thrown = none ↔ _
  cases srv.manager.sessions.filterMap (target srv post.2) with
  | nil => cases payload env post.1 <;> simp
  | cons e rest => cases payload env post.1 <;> simp

/-- A text of two strings makes a payload if its `msg` can be read. -/
theorem payload_ok_iff {text type nickname : String} {j : Json}
    (parsed : env.parse (utf8 text) = some j) (typed : j.valueStr "type" "" = .ok type)
    (named : j.valueStr "nickname" "" = .ok nickname) :
    (∃ send, payload env text = .ok send) ↔ ∃ msg, j.valueStr "msg" "" = .ok msg := by
  rw [payload, parsed]
  simp only [typed, named]
  cases j.valueStr "msg" "" with
  | error problem =>
      constructor
      · rintro ⟨send, made⟩
        cases made
      · rintro ⟨msg, read⟩
        cases read
  | ok msg => exact ⟨fun _ => ⟨msg, rfl⟩, fun _ => ⟨_, rfl⟩⟩

/-! ## What a reception posts -/

/-- What a reception leaves posted: the datagram's dump, if the dispatcher was given it
as a broadcast. -/
def Leaves (env : Env) (srv : Server) (msg : Bytes) (sender : Endpoint)
    (out : Server × List UdpEffect) : Prop :=
  (∃ s token nickname j, .dispatch s "broadcast_udp" token sender ∈ out.2 ∧
    env.parse msg = some j ∧ j.valueStr "type" "" = .ok "broadcast_udp" ∧
    j.valueStr "nickname" "" = .ok nickname ∧
    out.1.udpBroadcasts = srv.udpBroadcasts ++ [(env.dump j, nickname)]) ∨
  ((∀ s token, .dispatch s "broadcast_udp" token sender ∉ out.2) ∧
    out.1.udpBroadcasts = srv.udpBroadcasts)

theorem unmapEndpoint_posts (srv : Server) (s : Ref) :
    (srv.unmapEndpoint s).udpBroadcasts = srv.udpBroadcasts := by
  obtain ⟨table, unmapped⟩ := srv.unmapEndpoint_eq s
  rw [unmapped]

theorem rebind_posts (srv : Server) (s : Ref) (sender : Endpoint) :
    (srv.rebind s sender).udpBroadcasts = srv.udpBroadcasts := by
  rw [rebind]
  split
  · rfl
  · exact unmapEndpoint_posts srv s

theorem dispatchUdpParsed_posts (srv : Server) (r : Reception) (s : Ref) {type : String}
    (other : type ≠ "broadcast_udp") (msg : Json) (sender : Endpoint) :
    (srv.dispatchUdpParsed env r s type msg sender).1.udpBroadcasts = srv.udpBroadcasts := by
  by_cases register : type = "udp_register"
  · subst register
    rw [Server.dispatchUdpParsed_register, Server.udpRegisterHandler]
    cases msg.valueStr "nickname" "anonymity" <;> rfl
  · rw [Server.dispatchUdpParsed_server register, Server.posting, if_neg other]
    exact List.append_nil srv.udpBroadcasts

theorem receiveFor_posts (srv : Server) (r : Reception) (s : Ref) {type : String}
    (other : type ≠ "broadcast_udp") (token : String) (msg : Json) (sender : Endpoint) :
    (srv.receiveFor env r s type token msg sender).1.udpBroadcasts = srv.udpBroadcasts := by
  simp only [Server.receiveFor]
  split
  · split <;> rfl
  · split
    · refine (dispatchUdpParsed_posts _ r s other msg sender).trans ?_
      split
      · exact rebind_posts _ s sender
      · rfl
    · rfl

/-- A broadcast is posted if it is dispatched. -/
theorem broadcast_leaves {msg : Bytes} {j : Json} {nickname : String}
    (parsed : env.parse msg = some j) (typed : j.valueStr "type" "" = .ok "broadcast_udp")
    (named : j.valueStr "nickname" "" = .ok nickname) (srv : Server) (token : String) :
    Leaves env srv msg sender (srv.receiveFor env r s "broadcast_udp" token j sender) := by
  have unregistered : "broadcast_udp" ≠ "udp_register" := by decide
  cases rejected : srv.rejection r.now s token sender with
  | some problem =>
      refine .inr ⟨fun x token' member => ?_, ?_⟩
      · obtain ⟨-, checks, -⟩ := (receiveFor_dispatches _ _ _ _ _ _ _ _ _).mp member
        simp [rejected, unregistered] at checks
      · simp only [Server.receiveFor, if_neg unregistered, rejected]
        split <;> rfl
  | none =>
      cases admitted : (srv.checkUdpRateLimit r.now s).2 with
      | false =>
          refine .inr ⟨fun x token' member => ?_, ?_⟩
          · obtain ⟨-, -, within⟩ := (receiveFor_dispatches _ _ _ _ _ _ _ _ _).mp member
            rw [admitted] at within
            cases within
          · simp only [Server.receiveFor, if_neg unregistered, rejected, admitted]
            rfl
      | true =>
          refine .inl ⟨s, token, nickname, j, ?_, parsed, typed, named, ?_⟩
          · exact (receiveFor_dispatches _ _ _ _ _ _ _ _ _).mpr
              ⟨⟨rfl, rfl, rfl⟩, .inr rejected, admitted⟩
          · simp [Server.receiveFor, rejected, admitted, Server.dispatchUdpParsed,
              Server.udpBroadcastHandler, named]
            rfl

theorem receiveFor_leaves {msg : Bytes} {j : Json} {type nickname : String}
    (parsed : env.parse msg = some j) (typed : j.valueStr "type" "" = .ok type)
    (named : j.valueStr "nickname" "" = .ok nickname) (srv : Server) (token : String) :
    Leaves env srv msg sender (srv.receiveFor env r s type token j sender) := by
  by_cases broadcast : type = "broadcast_udp"
  · subst broadcast
    exact broadcast_leaves parsed typed named srv token
  · refine .inr ⟨fun x token' member => ?_, receiveFor_posts srv r s broadcast token j sender⟩
    obtain ⟨⟨-, same, -⟩, -⟩ := (receiveFor_dispatches _ _ _ _ _ _ _ _ _).mp member
    exact broadcast same

theorem onUdpReceive_leaves (env : Env) (srv : Server) (r : Reception) (msg : Bytes)
    (sender : Endpoint) : Leaves env srv msg sender (srv.onUdpReceive env r msg sender) := by
  rcases onUdpReceive_cases env srv r msg sender with
    ⟨j, s, nickname, type, token, addressed, -, given⟩ | ⟨sent, -, unheard, given⟩
  · rw [given]
    exact receiveFor_leaves addressed.parsed addressed.typed addressed.named _ token
  · rw [given]
    exact .inr ⟨fun s token => unheard s _ token sender, rfl⟩

theorem udpReceive_leaves (env : Env) (srv : Server) (r : Reception) (msg : Bytes)
    (sender : Endpoint) : Leaves env srv msg sender (srv.udpReceive env r msg sender) := by
  have asked : (srv.askedFor r.now sender).1.udpBroadcasts = srv.udpBroadcasts :=
    Server.askedFor_keeps (fun srv' => srv'.udpBroadcasts = srv.udpBroadcasts) rfl fun _ => rfl
  rcases udpReceive_cases env srv r msg sender with
    ⟨-, given⟩ | ⟨-, given⟩ | ⟨-, given⟩ | ⟨-, -, -, given⟩
  · rw [given]
    exact .inr ⟨by simp, rfl⟩
  · rw [given]
    exact .inr ⟨by simp, rfl⟩
  · rw [given]
    exact .inr ⟨by simp, asked⟩
  · rw [given]
    have left := onUdpReceive_leaves env (srv.askedFor r.now sender).1 r msg sender
    rw [Leaves, asked] at left
    exact left

/-! ## Out of the handler, out of the task -/

/-- The tasks a datagram posts. -/
def posted (env : Env) (srv : Server) (r : Reception) (msg : Bytes) (sender : Endpoint) :
    List (String × String) :=
  (startReceive env srv r msg sender).server.udpBroadcasts.drop srv.udpBroadcasts.length

/-- No exception reaches `io_context::run` from a datagram: none leaves the completion
handler, and none leaves a task it posts, run in `srv'`. -/
structure Contained (env : Env) (srv : Server) (r : Reception) (msg : Bytes) (sender : Endpoint)
    (srv' : Server) : Prop where
  handler : (startReceive env srv r msg sender).thrown = none
  tasks : ∀ post ∈ posted env srv r msg sender, (udpBroadcast env srv' post).thrown = none

/-- The member is there, and is not a string. -/
def Untextual (j : Json) (key : String) : Prop :=
  ∃ fields value, j = .obj fields ∧ Json.lookup fields key = some value ∧
    ∀ text, value ≠ .str text

/-- The datagram is accepted as a broadcast, within the budgets, but its `msg` is not a
string; and when the task runs, a session of another nickname has an endpoint. -/
def Escapes (env : Env) (srv : Server) (r : Reception) (msg : Bytes) (sender : Endpoint)
    (srv' : Server) : Prop :=
  ∃ s token nickname j, Takes env srv r.now msg sender s "broadcast_udp" token ∧
    budgets env srv r sender s = (true, true) ∧ env.parse msg = some j ∧
    j.valueStr "nickname" "" = .ok nickname ∧ Untextual j "msg" ∧
    ∃ x ∈ srv'.manager.sessions, (srv'.obj x).nickname ≠ "" ∧ (srv'.obj x).nickname ≠ nickname ∧
      (srv'.obj x).udpEndpoint ≠ none

theorem read_iff {j : Json} {key key' default default' text : String}
    (read : j.valueStr key default = .ok text) :
    (∃ text', j.valueStr key' default' = .ok text') ↔ ¬ Untextual j key' := by
  cases j with
  | obj fields =>
      simp only [Json.valueStr]
      cases found : Json.lookup fields key' with
      | none =>
          refine ⟨fun _ => ?_, fun _ => ⟨_, rfl⟩⟩
          rintro ⟨fields', value, same, present, -⟩
          cases same
          rw [found] at present
          cases present
      | some value =>
          cases value with
          | str text' =>
              refine ⟨fun _ => ?_, fun _ => ⟨text', rfl⟩⟩
              rintro ⟨fields', value, same, present, other⟩
              cases same
              rw [found] at present
              cases present
              exact other text' rfl
          | _ =>
              refine ⟨?_, fun textual => absurd ⟨fields, _, rfl, found, nofun⟩ textual⟩
              rintro ⟨text', threw⟩
              cases threw
  | _ => cases read

theorem target_ne_none_iff (srv : Server) (nickname : String) (s : Ref) :
    target srv nickname s ≠ none ↔ (srv.obj s).nickname ≠ "" ∧ (srv.obj s).nickname ≠ nickname ∧
      (srv.obj s).udpEndpoint ≠ none := by
  rw [target]
  split
  · rename_i skipped
    simp only [ne_eq, not_true_eq_false, false_iff]
    rintro ⟨unnamed, own, -⟩
    exact skipped.elim unnamed own
  · rename_i kept
    rw [not_or] at kept
    exact ⟨fun bound => ⟨kept.1, kept.2, bound⟩, fun all => all.2.2⟩

/-- **No exception gets out, unless a broadcast is accepted whose `msg` is not a string and
somebody is to have it**: for every datagram, whatever the server is when it comes and when
the task runs. -/
theorem contained_iff (env : Env) (srv : Server) (r : Reception) (msg : Bytes) (sender : Endpoint)
    (srv' : Server)
    (restored : ∀ j, env.parse msg = some j → env.parse (utf8 (env.dump j)) = some j) :
    Contained env srv r msg sender srv' ↔ ¬ Escapes env srv r msg sender srv' := by
  have returns : (startReceive env srv r msg sender).thrown = none := by
    rw [startReceive_eq]
    rfl
  have tasks : posted env srv r msg sender =
      (srv.udpReceive env r msg sender).1.udpBroadcasts.drop srv.udpBroadcasts.length := by
    rw [posted, startReceive_eq]
    rfl
  rcases udpReceive_leaves env srv r msg sender with
    ⟨s, token, nickname, j, given, parsed, typed, named, leaves⟩ | ⟨ungiven, leaves⟩
  · obtain ⟨takes, within⟩ := (dispatched_iff srv r msg sender _ token).mp given
    rw [leaves, List.drop_left] at tasks
    have thrown := udpBroadcast_thrown_iff env srv' (env.dump j, nickname)
    rw [payload_ok_iff (restored j parsed) typed named, read_iff named] at thrown
    constructor
    · rintro ⟨-, none_⟩
        ⟨s', token', nickname', j', -, -, parsed', named', untextual, x, member, meant⟩
      cases parsed.symm.trans parsed'
      cases named.symm.trans named'
      have calm := none_ (env.dump j, nickname) (by rw [tasks]; exact List.mem_singleton_self _)
      rcases thrown.mp calm with textual | nobody
      · exact textual untextual
      · exact (target_ne_none_iff srv' nickname x).mpr meant (nobody x member)
    · intro kept
      refine ⟨returns, fun post member => ?_⟩
      rw [tasks, List.mem_singleton] at member
      subst member
      refine thrown.mpr (or_iff_not_imp_left.mpr fun untextual x member => ?_)
      by_contra bound
      exact kept ⟨s, token, nickname, j, takes, within, parsed, named, not_not.mp untextual, x,
        member, (target_ne_none_iff srv' nickname x).mp bound⟩
  · rw [leaves, List.drop_length] at tasks
    constructor
    · rintro - ⟨s, token, nickname, j, takes, within, -⟩
      exact ungiven s token ((dispatched_iff srv r msg sender _ token).mpr ⟨takes, within⟩)
    · intro _
      refine ⟨returns, fun post member => ?_⟩
      rw [tasks] at member
      cases member

/-- `dump` of an object whose members are scalars and stand in order. -/
def dumpInOrder : Json → String
  | .obj fields =>
      let members := fields.map fun field => "\"" ++ field.1 ++ "\":" ++ plainScalar field.2
      "\x7b" ++ ",".intercalate members ++ "\x7d"
  | j => plainScalar j

/-- A broadcast of kim's. -/
def shout (msg : Json) : Json :=
  .obj [("msg", msg), ("nickname", .str "kim"), ("token", .str "2f"),
    ("type", .str "broadcast_udp")]

def shoutText (msg : Json) : String := dumpInOrder (shout msg)

def shoutEnv : Env :=
  { pairEnv 2 with
    parse := readsAs [(shoutText (.str "hi"), shout (.str "hi")),
      (shoutText (.number 5), shout (.number 5)), (kimText, kimLogin),
      (leeText, .obj [("type", .str "login"), ("nickname", .str "lee")]),
      (registerText, .obj [("type", .str "udp_register"), ("nickname", .str "kim")]),
      (leeRegisterText, .obj [("type", .str "udp_register"), ("nickname", .str "lee")])]
    dump := dumpInOrder }

/-- kim and lee have logged in and registered, each from an endpoint of their own. -/
def shouting : Server := after shoutEnv none (bothRegister ⟨"10.0.0.8", 4000⟩)

theorem contained_text :
    Contained shoutEnv shouting ⟨seconds 7, 0, ""⟩ (utf8 (shoutText (.str "hi"))) kimEndpoint
      shouting := by
  have parsed : shoutEnv.parse (utf8 (shoutText (.str "hi"))) = some (shout (.str "hi")) := by
    simp [shoutEnv, readsAs]
  refine (contained_iff _ _ _ _ _ _ fun j read => ?_).mpr ?_
  · cases parsed.symm.trans read
    exact parsed
  · rintro ⟨s, token, nickname, j, -, -, read, -, ⟨fields, value, same, found, untextual⟩, -⟩
    cases parsed.symm.trans read
    cases same
    cases found
    exact untextual "hi" rfl

/-- **A number for a `msg` ends the thread**: kim broadcasts `5`, and the task that was
posted throws at lee's endpoint. -/
theorem number_escapes :
    ¬ Contained shoutEnv shouting ⟨seconds 7, 0, ""⟩ (utf8 (shoutText (.number 5))) kimEndpoint
      (startReceive shoutEnv shouting ⟨seconds 7, 0, ""⟩ (utf8 (shoutText (.number 5)))
        kimEndpoint).server := by
  intro contained
  have calm := contained.tasks (shoutText (.number 5), "kim") (by decide +kernel)
  revert calm
  decide +kernel

end Throwing

end GameServer.Kernel
