/-
# Kernel.Udp -- datagrams: the checks of `on_udp_receive` and the UDP handlers

A datagram names its session by nickname.  Every type but `udp_register` must
carry the session's token, the token must be within its lifetime, and the
datagram must come from the endpoint the session is bound to; `udp_register` binds
the endpoint it comes from and is answered with a fresh token.
-/
import Mathlib.Algebra.Ring.Nat
import GameServer.Kernel.Server

namespace GameServer.Kernel

set_option autoImplicit false

open Wire

/-- What handling a datagram does besides changing the server. -/
inductive UdpEffect where
  | send (target : Endpoint) (payload : String)
  /-- The dispatcher is given a datagram of this type and token for a session. -/
  | dispatch (session : Ref) (type token : String) (sender : Endpoint)
  /-- An exception leaves the posted task. -/
  | threw
deriving DecidableEq, Repr

/-- What one reception is given: the time, the receiving thread's hash, and the
token the random generator would draw. -/
structure Reception where
  now : Time
  thread : Nat := 0
  token : String := ""

/-! ## Limiters -/

/-- `sharded_udp_rate_limit`. -/
def UdpRateLimiter.shardedUdpRateLimit (l : UdpRateLimiter) (limitPerSec : Nat) (r : Reception) :
    UdpRateLimiter × Bool :=
  if l.counts.length = 0 then (l, true)
  else
    let nowSec := inSeconds r.now
    let idx := r.thread % l.counts.length
    let l :=
      if nowSec ≠ l.windowSecs.getD idx 0 then
        { counts := l.counts.set idx 0, windowSecs := l.windowSecs.set idx nowSec }
      else l
    let l := { l with counts := l.counts.set idx (l.counts.getD idx 0 + 1) }
    (l, decide (l.counts.sum ≤ limitPerSec))

/-- `bad_udp_limit_`. -/
def badUdpLimit : Int := 10

/-- `block_time_`. -/
def blockTime : Time := seconds 60

def udpError (code msg : String) : Json :=
  .obj [("type", .str "udp_error"), ("code", .str code), ("msg", .str msg)]

def unknownUdpType : String :=
  "\x7b\"type\":\"error\",\"msg\":\"Unknown UDP type\"\x7d"

namespace Server

/-- `register_bad_udp_packet`. -/
def registerBadUdpPacket (srv : Server) (now : Time) (e : Endpoint) : Server :=
  let info :=
    match srv.badUdpMap.lookup e with
    | none => ⟨1, now⟩
    | some info =>
        if blockTime < now - info.firstFailTime then ⟨1, now⟩
        else { info with failCount := info.failCount + 1 }
  { srv with badUdpMap := srv.badUdpMap.insert e info }

/-- `is_blocked_udp`, which forgets an endpoint whose time is up. -/
def isBlockedUdp (srv : Server) (now : Time) (e : Endpoint) : Server × Bool :=
  match srv.badUdpMap.lookup e with
  | none => (srv, false)
  | some info =>
      if blockTime < now - info.firstFailTime then
        ({ srv with badUdpMap := srv.badUdpMap.erase e }, false)
      else (srv, decide (badUdpLimit ≤ info.failCount))

/-- `getSessionByEndpoint`. -/
def getSessionByEndpoint (srv : Server) (e : Endpoint) : Option Ref :=
  srv.udpEndpointToSession.lookup e

/-- `checkUdpRateLimit` on a session of the pool. -/
def checkUdpRateLimit (srv : Server) (now : Time) (s : Ref) : Server × Bool :=
  let (x, admitted) := (srv.obj s).checkUdpRateLimit now
  (srv.modify s fun _ => x, admitted)

/-! ## Handlers -/

/-- The ack of `udp_register`. -/
def udpRegisterAck (token nickname : String) : Json :=
  .obj [("type", .str "udp_register_ack"), ("msg", .str "UDP 인증 토큰 발급 및 endpoint registered"),
    ("token", .str token), ("nickname", .str nickname)]

/-- `Udpregister_handler`. -/
def udpRegisterHandler (env : Env) (srv : Server) (r : Reception) (s : Ref) (msg : Json)
    (sender : Endpoint) : Server × List UdpEffect :=
  let srv := srv.modify s (Session.setUdpEndpoint sender)
  let srv := srv.modify s (Session.updateUdpAliveTime r.now)
  let srv := srv.modify s (Session.setUdpTokenTtl env.config.udpTokenTtlSeconds)
  let srv := srv.modify s (Session.setUdpToken env.config r.now r.token)
  match msg.valueStr "nickname" "anonymity" with
  | .error _ => (srv, [])
  | .ok nickname =>
      let registration := ⟨sender, r.token, r.now⟩
      let srv := srv.modify s fun x => { x with registration := some registration }
      (srv.note (.registerUdp s registration),
        [.send sender (env.dump (udpRegisterAck r.token nickname))])

/-- `Udp_handler`. -/
def udpHandler (env : Env) (srv : Server) (msg : Json) (sender : Endpoint) :
    Server × List UdpEffect :=
  match msg.valueStr "msg" "", msg.valueStr "nickname" "anonymity" with
  | .ok text, .ok nickname =>
      let reply := Json.obj [("type", .str "udp_reply"), ("msg", .str ("Echo(UDP): " ++ text)),
        ("nickname", .str nickname)]
      (srv, [.send sender (env.dump reply)])
  | _, _ => (srv, [])

/-- `Udpbroadcast_handler`, which posts the sending. -/
def udpBroadcastHandler (env : Env) (srv : Server) (msg : Json) : Server × List UdpEffect :=
  match msg.valueStr "nickname" "" with
  | .error _ => (srv, [])
  | .ok nickname =>
      ({ srv with udpBroadcasts := srv.udpBroadcasts ++ [(env.dump msg, nickname)] }, [])

/-- `Udpbroadcastzone_handler`. -/
def udpBroadcastZoneHandler (env : Env) (srv : Server) (s : Ref) (msg : Json) :
    Server × List UdpEffect :=
  match srv.zones (srv.obj s).zoneId, msg.valueStr "msg" "" with
  | some zone, .ok text =>
      let out := Json.obj [("type", .str "broadcast_udp_zone"),
        ("nickname", .str (srv.obj s).nickname), ("msg", .str text)]
      (srv, zone.entries.filterMap fun entry =>
        if (srv.obj entry.2).nickname = (srv.obj s).nickname then none
        else (srv.obj entry.2).udpEndpoint.map fun e => .send e (env.dump out))
  | _, _ => (srv, [])

/-- `dispatch_udp_parsed`.  A handler that throws is caught there. -/
def dispatchUdpParsed (env : Env) (srv : Server) (r : Reception) (s : Ref) (type : String)
    (msg : Json) (sender : Endpoint) : Server × List UdpEffect :=
  if type = "udp" then srv.udpHandler env msg sender
  else if type = "broadcast_udp" then srv.udpBroadcastHandler env msg
  else if type = "udp_register" then srv.udpRegisterHandler env r s msg sender
  else if type = "broadcast_udp_zone" then srv.udpBroadcastZoneHandler env s msg
  else (srv, [.send sender unknownUdpType])

/-! ## Receiving -/

/-- What the checks of step 5 find wrong with a datagram. -/
inductive Rejection where
  | token
  | expired
  | endpoint
deriving DecidableEq, Repr

/-- Step 5 of `on_udp_receive`, for every type but `udp_register`. -/
def rejection (srv : Server) (now : Time) (s : Ref) (token : String) (sender : Endpoint) :
    Option Rejection :=
  if token = "" ∨ (srv.obj s).udpToken ≠ token then some .token
  else if (srv.obj s).isUdpTokenValid now = false then some .expired
  else if (srv.obj s).udpEndpoint ≠ some sender then some .endpoint
  else none

def rejectionReply (token : String) : Rejection → Json
  | .token =>
      if token = "" then udpError "TOKEN_REQUIRED" "UDP token is required"
      else udpError "INVALID_TOKEN" "Invalid UDP token"
  | .expired => udpError "UDP_TOKEN_EXPIRED" "UDP token expired, please udp_register again"
  | .endpoint => udpError "ENDPOINT_MISMATCH" "Endpoint mismatch; please udp_register again"

/-- Step 7 of `on_udp_receive`: a `udp_register` from a new endpoint takes it over
in the endpoint map and in the session. -/
def rebind (srv : Server) (s : Ref) (sender : Endpoint) : Server :=
  if (srv.obj s).udpEndpoint = some sender then srv
  else
    let srv := srv.unmapEndpoint s
    let srv := { srv with udpEndpointToSession := srv.udpEndpointToSession.insert sender s }
    srv.modify s (Session.setUdpEndpoint sender)

/-- `on_udp_receive` from step 5 on, for the session the nickname names. -/
def receiveFor (env : Env) (srv : Server) (r : Reception) (s : Ref) (type token : String)
    (msg : Json) (sender : Endpoint) : Server × List UdpEffect :=
  let verdict := if type = "udp_register" then none else srv.rejection r.now s token sender
  match verdict with
  | some problem =>
      let srv :=
        if problem = .expired then
          (srv.modify s Session.clearUdpToken).note (.clearUdpToken s)
        else srv
      (srv, [.send sender (env.dump (rejectionReply token problem))])
  | none =>
      let (srv, admitted) := srv.checkUdpRateLimit r.now s
      if admitted then
        let srv := if type = "udp_register" then srv.rebind s sender else srv
        let srv := srv.modify s (Session.updateUdpAliveTime r.now)
        let (srv, effects) := srv.dispatchUdpParsed env r s type msg sender
        (srv, .dispatch s type token sender :: effects)
      else (srv, [.send sender (env.dump (udpError "RATE_LIMIT" "UDP rate limit exceeded"))])

/-- `on_udp_receive`.  A field of another type throws, and nothing is done. -/
def onUdpReceive (env : Env) (srv : Server) (r : Reception) (msg : Bytes) (sender : Endpoint) :
    Server × List UdpEffect :=
  let (limiter, admitted) := srv.udpGlobalLimiter.shardedUdpRateLimit env.config.totalLimitPerSec r
  let srv := { srv with udpGlobalLimiter := limiter }
  if admitted then
    match env.parse msg with
    | none =>
        (srv, [.send sender (env.dump (.obj [("type", .str "error"), ("msg", .str "Invalid JSON")]))])
    | some j =>
        match j.valueStr "nickname" "", j.valueStr "type" "", j.valueStr "token" "" with
        | .ok nickname, .ok type, .ok token =>
            if nickname = "" then (srv, [])
            else
              match srv.manager.findSessionByNickname nickname with
              | none => (srv, [])
              | some s => srv.receiveFor env r s type token j sender
        | _, _, _ => (srv, [])
  else (srv, [])

/-- `{"type": "udp_error", "error": error}`. -/
def udpManagerError (error : String) : Json :=
  .obj [("type", .str "udp_error"), ("error", .str error)]

/-- The handler of `UDPManager::start_receive`. -/
def udpReceive (env : Env) (srv : Server) (r : Reception) (msg : Bytes) (sender : Endpoint) :
    Server × List UdpEffect :=
  if msg.length = 0 ∨ env.config.maxUdpPacketSize < msg.length then (srv, [])
  else
    match env.parse msg with
    | none =>
        let srv := srv.registerBadUdpPacket r.now sender
        let (srv, _) := srv.isBlockedUdp r.now sender
        (srv, [.send sender (env.dump (udpManagerError "Invalid JSON format"))])
    | some _ =>
        let (srv, admitted) :=
          match srv.getSessionByEndpoint sender with
          | none => (srv, true)
          | some s => srv.checkUdpRateLimit r.now s
        if admitted then srv.onUdpReceive env r msg sender
        else
          (srv, [.send sender (env.dump (udpManagerError "너무 빠르게 UDP 메시지를 보내고 있습니다."))])

/-! ## What a handler changes -/

/-- What a command leaves posted. -/
def posting (env : Env) (type : String) (msg : Json) : List (String × String) :=
  if type = "broadcast_udp" then
    match msg.valueStr "nickname" "" with
    | .error _ => []
    | .ok nickname => [(env.dump msg, nickname)]
  else []

/-- A command changes nothing but what is posted. -/
theorem dispatchUdpParsed_server {env : Env} {r : Reception} {s : Ref} {type : String} {j : Json}
    {sender : Endpoint} (command : type ≠ "udp_register") (srv : Server) :
    (srv.dispatchUdpParsed env r s type j sender).1 =
      { srv with udpBroadcasts := srv.udpBroadcasts ++ posting env type j } := by
  rw [dispatchUdpParsed, posting]
  split
  · rename_i echo
    rw [if_neg (by rw [echo]; decide), List.append_nil, udpHandler]
    split <;> rfl
  · split
    · rw [udpBroadcastHandler]
      cases j.valueStr "nickname" "" with
      | error problem => simp
      | ok nickname => rfl
    · rw [List.append_nil]
      split
      · rw [udpBroadcastZoneHandler]
        split <;> rfl
      · rfl

theorem dispatchUdpParsed_register (env : Env) (srv : Server) (r : Reception) (s : Ref) (j : Json)
    (sender : Endpoint) :
    srv.dispatchUdpParsed env r s "udp_register" j sender =
      srv.udpRegisterHandler env r s j sender := by
  simp only [dispatchUdpParsed, String.reduceEq, if_false, if_true]

/-! ## What a reception comes to -/

/-- The global limiter, asked. -/
def counted (env : Env) (srv : Server) (r : Reception) : Server :=
  { srv with
    udpGlobalLimiter :=
      (srv.udpGlobalLimiter.shardedUdpRateLimit env.config.totalLimitPerSec r).1 }

/-- A datagram that can be read, and the session it names. -/
structure Addresses (env : Env) (srv : Server) (msg : Bytes) (j : Json) (s : Ref)
    (nickname type token : String) : Prop where
  parsed : env.parse msg = some j
  named : j.valueStr "nickname" "" = .ok nickname
  typed : j.valueStr "type" "" = .ok type
  carried : j.valueStr "token" "" = .ok token
  nonempty : nickname ≠ ""
  found : srv.manager.findSessionByNickname nickname = some s

/-- **Past the limiter** a datagram is for the session it names; one that names none is
answered at most, and no handler sees it. -/
theorem onUdpReceive_cases (env : Env) (srv : Server) (r : Reception) (msg : Bytes)
    (sender : Endpoint) :
    (∃ j s nickname type token, Addresses env srv msg j s nickname type token ∧
      (srv.udpGlobalLimiter.shardedUdpRateLimit env.config.totalLimitPerSec r).2 = true ∧
      srv.onUdpReceive env r msg sender =
        (srv.counted env r).receiveFor env r s type token j sender) ∨
    ∃ sent,
      ((srv.udpGlobalLimiter.shardedUdpRateLimit env.config.totalLimitPerSec r).2 = true →
        ∀ j s nickname type token, ¬ Addresses env srv msg j s nickname type token) ∧
      (∀ s type token origin, .dispatch s type token origin ∉ sent) ∧
      srv.onUdpReceive env r msg sender = (srv.counted env r, sent) := by
  simp only [onUdpReceive]
  by_cases admitted :
      (srv.udpGlobalLimiter.shardedUdpRateLimit env.config.totalLimitPerSec r).2 = true
  · rw [if_pos admitted]
    cases parsed : env.parse msg with
    | none =>
        refine .inr ⟨_, fun _ j s nickname type token addressed => ?_, by simp, rfl⟩
        cases parsed.symm.trans addressed.parsed
    | some j =>
        simp only
        -- a field of another type: the exception leaves the reception
        cases named : j.valueStr "nickname" "" with
        | error problem =>
            refine .inr ⟨[], fun _ j' s nickname type token addressed => ?_, by simp, rfl⟩
            cases parsed.symm.trans addressed.parsed
            cases named.symm.trans addressed.named
        | ok nickname =>
            cases typed : j.valueStr "type" "" with
            | error problem =>
                refine .inr ⟨[], fun _ j' s nickname type token addressed => ?_, by simp, rfl⟩
                cases parsed.symm.trans addressed.parsed
                cases typed.symm.trans addressed.typed
            | ok type =>
                cases carried : j.valueStr "token" "" with
                | error problem =>
                    refine .inr ⟨[], fun _ j' s nickname type token addressed => ?_, by simp, rfl⟩
                    cases parsed.symm.trans addressed.parsed
                    cases carried.symm.trans addressed.carried
                | ok token =>
                    simp only
                    by_cases nonempty : nickname = ""
                    · rw [if_pos nonempty]
                      refine .inr ⟨[], fun _ j' s nickname type token addressed => ?_, by simp, rfl⟩
                      cases parsed.symm.trans addressed.parsed
                      cases named.symm.trans addressed.named
                      exact addressed.nonempty nonempty
                    · rw [if_neg nonempty]
                      cases found : srv.manager.findSessionByNickname nickname with
                      | none =>
                          refine .inr
                            ⟨[], fun _ j' s nickname type token addressed => ?_, by simp, rfl⟩
                          cases parsed.symm.trans addressed.parsed
                          cases named.symm.trans addressed.named
                          cases found.symm.trans addressed.found
                      | some s =>
                          exact .inl ⟨j, s, nickname, type, token,
                            ⟨parsed, named, typed, carried, nonempty, found⟩, admitted, rfl⟩
  · rw [if_neg admitted]
    exact .inr ⟨[], fun passed => absurd passed admitted, by simp, rfl⟩

/-- The ask of `UDPManager`, of the session its endpoint map gives for the sender. -/
def askedFor (srv : Server) (now : Time) (sender : Endpoint) : Server × Bool :=
  match srv.getSessionByEndpoint sender with
  | none => (srv, true)
  | some x => srv.checkUdpRateLimit now x

theorem askedFor_keeps (p : Server → Prop) {srv : Server} {now : Time} {sender : Endpoint}
    (same : p srv) (limited : ∀ s, p (srv.checkUdpRateLimit now s).1) :
    p (srv.askedFor now sender).1 := by
  rw [askedFor]
  cases srv.getSessionByEndpoint sender with
  | none => exact same
  | some s => exact limited s

/-- The question behind a failure never finds the time up. -/
theorem isBlockedUdp_registered (srv : Server) (now : Time) (e : Endpoint) :
    ((srv.registerBadUdpPacket now e).isBlockedUdp now e).1 = srv.registerBadUdpPacket now e := by
  obtain ⟨info, counted, early⟩ : ∃ info,
      (srv.registerBadUdpPacket now e).badUdpMap.lookup e = some info ∧
        ¬ blockTime < now - info.firstFailTime := by
    have fresh : ¬ blockTime < now - now := by
      rw [Int.sub_self]
      decide
    simp only [registerBadUdpPacket, AList.lookup_insert, Option.some.injEq, exists_eq_left']
    split
    · exact fresh
    · split
      · exact fresh
      · assumption
  simp only [isBlockedUdp, counted, if_neg early]

/-- **What `UDPManager` does with a datagram**: it drops it by its size, notes it as a bad
one, answers that its session sends too fast, or hands it on. -/
theorem udpReceive_cases (env : Env) (srv : Server) (r : Reception) (msg : Bytes)
    (sender : Endpoint) :
    ((msg.length = 0 ∨ env.config.maxUdpPacketSize < msg.length) ∧
      srv.udpReceive env r msg sender = (srv, [])) ∨
    (env.parse msg = none ∧ srv.udpReceive env r msg sender =
      (srv.registerBadUdpPacket r.now sender,
        [.send sender (env.dump (udpManagerError "Invalid JSON format"))])) ∨
    ((srv.askedFor r.now sender).2 = false ∧ srv.udpReceive env r msg sender =
      ((srv.askedFor r.now sender).1,
        [.send sender (env.dump (udpManagerError "너무 빠르게 UDP 메시지를 보내고 있습니다."))])) ∨
    (¬ (msg.length = 0 ∨ env.config.maxUdpPacketSize < msg.length) ∧
      (∃ j, env.parse msg = some j) ∧ (srv.askedFor r.now sender).2 = true ∧
      srv.udpReceive env r msg sender =
        (srv.askedFor r.now sender).1.onUdpReceive env r msg sender) := by
  by_cases sized : msg.length = 0 ∨ env.config.maxUdpPacketSize < msg.length
  · exact .inl ⟨sized, if_pos sized⟩
  · cases parsed : env.parse msg with
    | none =>
        refine .inr (.inl ⟨rfl, ?_⟩)
        simp only [udpReceive, if_neg sized, parsed, isBlockedUdp_registered]
    | some j =>
        have asked : srv.udpReceive env r msg sender =
            if (srv.askedFor r.now sender).2 = true then
              (srv.askedFor r.now sender).1.onUdpReceive env r msg sender
            else ((srv.askedFor r.now sender).1, [.send sender (env.dump
              (udpManagerError "너무 빠르게 UDP 메시지를 보내고 있습니다."))]) := by
          simp only [udpReceive, if_neg sized, parsed]
          rfl
        cases granted : (srv.askedFor r.now sender).2 with
        | false =>
            refine .inr (.inr (.inl ⟨rfl, ?_⟩))
            rw [asked, granted]
            rfl
        | true =>
            refine .inr (.inr (.inr ⟨sized, ⟨j, rfl⟩, rfl, ?_⟩))
            rw [asked, if_pos granted]

/-- What a posted `udp_broadcast` sends to each endpoint, read back from the text
that was posted. -/
def udpBroadcastPayload (env : Env) (text : String) : Option Json :=
  match env.parse text.toUTF8.toList with
  | none => none
  | some j =>
      match j.valueStr "type" "", j.valueStr "nickname" "", j.valueStr "msg" "" with
      | .ok type, .ok nickname, .ok msg =>
          some (.obj [("type", .str type), ("nickname", .str nickname), ("msg", .str msg)])
      | _, _, _ => none

/-- A posted `udp_broadcast` body, run.  The payload is built for each target, so an
exception comes at the first one, and only if there is one. -/
def runUdpBroadcast (env : Env) (srv : Server) (post : String × String) : Server × List UdpEffect :=
  let srv := { srv with udpBroadcasts := srv.udpBroadcasts.erase post }
  let targets := srv.manager.sessions.filterMap fun s =>
    if (srv.obj s).nickname = "" ∨ (srv.obj s).nickname = post.2 then none
    else (srv.obj s).udpEndpoint
  match targets, udpBroadcastPayload env post.1 with
  | [], _ => (srv, [])
  | _, none => (srv, [.threw])
  | targets, some payload => (srv, targets.map fun e => .send e (env.dump payload))

/-- `expire_stale_udp_endpoints`, for one session of its walk. -/
def expireStaleUdpEndpoint (srv : Server) (s : Ref) : Server :=
  if (srv.obj s).isClosed then
    let srv :=
      match (srv.obj s).udpEndpoint with
      | none => srv
      | some e => { srv with udpEndpointToSession := srv.udpEndpointToSession.erase e }
    (srv.modify s Session.clearUdpEndpoint).modify s Session.clearUdpToken
  else srv

def expireStaleUdpEndpoints (srv : Server) : Server :=
  srv.manager.sessions.foldl expireStaleUdpEndpoint srv

end Server

end GameServer.Kernel
