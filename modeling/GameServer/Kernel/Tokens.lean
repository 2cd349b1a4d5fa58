/-
# Kernel.Tokens -- what is sent does not tell a session's token

Two runs of one reception: the servers differ in a session's token, and the datagrams in
the token they carry, so that both are accepted.  Every function on the way is the same
on a server whose token is forgotten (`forget`), and reads of the datagram what both say.

* `udpReceive_accepted` -- what an accepted command is: both buckets asked, the time noted, and
  the handler of its type;
* `dispatchUdpParsed_forget`, `dispatchUdpParsed_reads` -- the handlers;
* `runUdpBroadcast_forget` -- the body a broadcast posts;
* `token_unseen` -- the same datagrams are sent, at once and by the posted body.
-/
import GameServer.Kernel.Charges
import GameServer.Kernel.Exceptions

namespace GameServer.Kernel

set_option autoImplicit false

open Wire

/-- What leaves the server, to whom. -/
def UdpEffect.datagram : UdpEffect → Option (Endpoint × String)
  | .send target payload => some (target, payload)
  | _ => none

namespace Session

/-- The token gone, and the record of how it came. -/
def forgetToken (x : Session) : Session := { x with udpToken := "", registration := none }

theorem checkUdpRateLimit_forgetToken (x : Session) (now : Time) :
    x.forgetToken.checkUdpRateLimit now =
      ((x.checkUdpRateLimit now).1.forgetToken, (x.checkUdpRateLimit now).2) := by
  have filled : x.forgetToken.refilled now = (x.refilled now).forgetToken := by
    rw [refilled, refilled]
    show (if 0 < x.refill now then _ else _) = _
    split <;> rfl
  rw [checkUdpRateLimit_eq, checkUdpRateLimit_eq, filled]
  show (if 0 < (x.refilled now).udpTokens then _ else _) = _
  split <;> rfl

end Session

namespace Server

/-- The server without the token of `s`, its posted broadcasts and its history. -/
def forget (srv : Server) (s : Ref) : Server :=
  { srv.modify s Session.forgetToken with udpBroadcasts := [], journal := [] }

/-- Nothing but the token of `s` differs, posted broadcasts and history aside. -/
def AlikeButToken (s : Ref) (srv srv' : Server) : Prop := srv.forget s = srv'.forget s

/-- Both datagrams are objects, with the same members but for `token`. -/
def DifferInToken (env : Env) (msg msg' : Bytes) : Prop :=
  ∃ fields fields', env.parse msg = some (.obj fields) ∧ env.parse msg' = some (.obj fields') ∧
    ∀ key, key ≠ "token" → Json.lookup fields key = Json.lookup fields' key

variable {env : Env} {s : Ref}

/-! ## Forgetting -/

/-- A method that does the same to an object without its token. -/
theorem modify_forget {f : Session → Session} (same : ∀ x, (f x).forgetToken = f x.forgetToken)
    (srv : Server) (t : Ref) : (srv.modify t f).forget s = (srv.forget s).modify t f := by
  have objects : ((srv.modify t f).modify s Session.forgetToken).obj =
      ((srv.modify s Session.forgetToken).modify t f).obj := by
    funext x
    by_cases own : x = s <;> by_cases changed : x = t
    · subst own; subst changed
      simp [same]
    · subst own
      simp [modify_obj_other, changed]
    · subst changed
      simp [modify_obj_other, own]
    · simp [modify_obj_other, own, changed]
  simp only [forget]
  simp only [modify] at objects ⊢
  rw [objects]

theorem forget_obj (srv : Server) (s t : Ref) :
    (srv.forget s).obj t = if t = s then (srv.obj t).forgetToken else srv.obj t := by
  show (srv.modify s Session.forgetToken).obj t = _
  split
  · rename_i own
    rw [own, modify_obj_self]
  · rename_i other
    exact modify_obj_other srv _ other

theorem checkUdpRateLimit_forget (srv : Server) (now : Time) (t : Ref) :
    (srv.forget s).checkUdpRateLimit now t =
      ((srv.checkUdpRateLimit now t).1.forget s, (srv.checkUdpRateLimit now t).2) := by
  have commutes := @modify_forget s (fun x => (x.checkUdpRateLimit now).1)
    (fun x => by rw [Session.checkUdpRateLimit_forgetToken]) srv t
  refine Prod.ext commutes.symm ?_
  rw [checkUdpRateLimit_granted, checkUdpRateLimit_granted, forget_obj]
  split
  · rw [Session.checkUdpRateLimit_forgetToken]
  · rfl

theorem forget_nickname (srv : Server) (t : Ref) :
    ((srv.forget s).obj t).nickname = (srv.obj t).nickname :=
  modify_each (fun _ x y => y.nickname = x.nickname) (fun _ _ => rfl) rfl t

theorem forget_udpEndpoint (srv : Server) (t : Ref) :
    ((srv.forget s).obj t).udpEndpoint = (srv.obj t).udpEndpoint :=
  modify_each (fun _ x y => y.udpEndpoint = x.udpEndpoint) (fun _ _ => rfl) rfl t

theorem forget_zoneId (srv : Server) (t : Ref) :
    ((srv.forget s).obj t).zoneId = (srv.obj t).zoneId :=
  modify_each (fun _ x y => y.zoneId = x.zoneId) (fun _ _ => rfl) rfl t

/-! ## An accepted command -/

/-- The bucket of the session, asked, and its time noted. -/
def charged (srv : Server) (r : Reception) (s : Ref) : Server :=
  (srv.checkUdpRateLimit r.now s).1.modify s (Session.updateUdpAliveTime r.now)

/-- A command handed to its handler. -/
def handled (env : Env) (srv : Server) (r : Reception) (s : Ref) (type token : String) (msg : Json)
    (sender : Endpoint) : Server × List UdpEffect :=
  ((srv.dispatchUdpParsed env r s type msg sender).1,
    .dispatch s type token sender :: (srv.dispatchUdpParsed env r s type msg sender).2)

section Accepted

variable {srv : Server} {r : Reception} {msg : Bytes} {j : Json} {type token : String}
  {sender : Endpoint}

/-- From step 5 on. -/
theorem receiveFor_accepted {x : Ref} {type' token' : String} (command : type ≠ "udp_register")
    (accepted : .dispatch s type token sender ∈ (srv.receiveFor env r x type' token' j sender).2) :
    srv.receiveFor env r x type' token' j sender =
      (srv.charged r s).handled env r s type token j sender := by
  obtain ⟨⟨rfl, rfl, rfl⟩, checks, admitted⟩ := (receiveFor_dispatches ..).mp accepted
  have verdict : srv.rejection r.now x token' sender = none := checks.resolve_left command
  simp only [receiveFor, if_neg command, verdict, admitted, if_true]
  rfl

/-- From the limiter on. -/
theorem onUdpReceive_accepted (parsed : env.parse msg = some j) (command : type ≠ "udp_register")
    (accepted : .dispatch s type token sender ∈ (srv.onUdpReceive env r msg sender).2) :
    srv.onUdpReceive env r msg sender =
      ((srv.counted env r).charged r s).handled env r s type token j sender := by
  rcases onUdpReceive_cases env srv r msg sender with
    ⟨j', x, nickname, type', token', addressed, -, given⟩ | ⟨sent, -, unheard, given⟩
  · cases parsed.symm.trans addressed.parsed
    rw [given] at accepted ⊢
    exact receiveFor_accepted command accepted
  · rw [given] at accepted
    exact absurd accepted (unheard s type token sender)

/-- **What an accepted command is.** -/
theorem udpReceive_accepted (parsed : env.parse msg = some j) (command : type ≠ "udp_register")
    (accepted : .dispatch s type token sender ∈ (srv.udpReceive env r msg sender).2) :
    srv.udpReceive env r msg sender =
      (((srv.askedFor r.now sender).1.counted env r).charged r s).handled env r s type token j
        sender := by
  rcases udpReceive_cases env srv r msg sender with
    ⟨-, given⟩ | ⟨-, given⟩ | ⟨-, given⟩ | ⟨-, -, -, given⟩ <;> rw [given] at accepted
  · cases accepted
  · cases List.mem_singleton.mp accepted
  · cases List.mem_singleton.mp accepted
  · rw [given]
    exact onUdpReceive_accepted parsed command accepted

end Accepted

/-! ## The handlers -/

section Handlers

variable {r : Reception} {type : String} {j j' : Json} {sender : Endpoint}

/-- No handler of a command looks at the token of a session. -/
theorem dispatchUdpParsed_forget (command : type ≠ "udp_register") (srv : Server) (t : Ref) :
    ((srv.forget s).dispatchUdpParsed env r t type j sender).2 =
      (srv.dispatchUdpParsed env r t type j sender).2 := by
  rw [dispatchUdpParsed, dispatchUdpParsed]
  split
  · rw [udpHandler, udpHandler]
    split <;> rfl
  · split
    · rw [udpBroadcastHandler, udpBroadcastHandler]
      split <;> rfl
    · split
      · have zones : (srv.forget s).zones = srv.zones := rfl
        simp only [udpBroadcastZoneHandler, zones, forget_zoneId, forget_nickname,
          forget_udpEndpoint]
        split <;> rfl
      · rfl

/-- Nor at the token of a datagram. -/
theorem dispatchUdpParsed_reads (command : type ≠ "udp_register")
    (same : ∀ key default, key ≠ "token" → j.valueStr key default = j'.valueStr key default)
    (srv : Server) (t : Ref) :
    (srv.dispatchUdpParsed env r t type j sender).2 =
      (srv.dispatchUdpParsed env r t type j' sender).2 := by
  have text := same "msg" "" (by decide)
  have anonymous := same "nickname" "anonymity" (by decide)
  have named := same "nickname" "" (by decide)
  rw [dispatchUdpParsed, dispatchUdpParsed]
  split
  · rw [udpHandler, udpHandler, text, anonymous]
  · split
    · rw [udpBroadcastHandler, udpBroadcastHandler, named]
      split <;> rfl
    · split
      · rw [udpBroadcastZoneHandler, udpBroadcastZoneHandler, text]
      · rfl

end Handlers

/-! ## The posted broadcast -/

/-- The payload to each target; without one, an exception at the first. -/
def deliveries (env : Env) : List Endpoint → Option Json → List UdpEffect
  | [], _ => []
  | _ :: _, none => [.threw]
  | e :: targets, some payload => (e :: targets).map fun e => .send e (env.dump payload)

theorem runUdpBroadcast_effects (srv : Server) (post : String × String) :
    (srv.runUdpBroadcast env post).2 =
      deliveries env (srv.manager.sessions.filterMap (Throwing.target srv post.2))
        (udpBroadcastPayload env post.1) := by
  have targets : (srv.manager.sessions.filterMap fun s =>
      if (srv.obj s).nickname = "" ∨ (srv.obj s).nickname = post.2 then none
      else (srv.obj s).udpEndpoint) = srv.manager.sessions.filterMap (Throwing.target srv post.2) := rfl
  simp only [runUdpBroadcast, targets]
  cases srv.manager.sessions.filterMap (Throwing.target srv post.2) with
  | nil => cases udpBroadcastPayload env post.1 <;> rfl
  | cons e rest => cases udpBroadcastPayload env post.1 <;> rfl

/-- Nor does the posted body look at the token of a session. -/
theorem runUdpBroadcast_forget (srv : Server) (post : String × String) :
    ((srv.forget s).runUdpBroadcast env post).2 = (srv.runUdpBroadcast env post).2 := by
  have targets : Throwing.target (srv.forget s) post.2 = Throwing.target srv post.2 := by
    funext t
    simp only [Throwing.target, forget_nickname, forget_udpEndpoint]
  rw [runUdpBroadcast_effects, runUdpBroadcast_effects, targets]
  rfl

/-- What is made of a posted text does not tell the token in it. -/
theorem udpBroadcastPayload_reads {j j' : Json}
    (same : ∀ key default, key ≠ "token" → j.valueStr key default = j'.valueStr key default)
    (restored : env.parse (utf8 (env.dump j)) = some j)
    (restored' : env.parse (utf8 (env.dump j')) = some j') :
    udpBroadcastPayload env (env.dump j) = udpBroadcastPayload env (env.dump j') := by
  rw [utf8] at restored restored'
  rw [udpBroadcastPayload, udpBroadcastPayload, restored, restored']
  simp only [same "type" "" (by decide), same "nickname" "" (by decide), same "msg" "" (by decide)]

/-! ## Two runs -/

/-- The server an accepted command finds its handler on. -/
def received (env : Env) (srv : Server) (r : Reception) (s : Ref) (sender : Endpoint) : Server :=
  ((srv.askedFor r.now sender).1.counted env r).charged r s

theorem received_forget (srv : Server) (r : Reception) (t : Ref) (sender : Endpoint) :
    (srv.forget s).received env r t sender = (srv.received env r t sender).forget s := by
  have asked : ((srv.forget s).askedFor r.now sender).1 = (srv.askedFor r.now sender).1.forget s := by
    have bound : (srv.forget s).getSessionByEndpoint sender = srv.getSessionByEndpoint sender := rfl
    rw [askedFor, askedFor, bound]
    cases srv.getSessionByEndpoint sender with
    | none => rfl
    | some x => exact congrArg Prod.fst (checkUdpRateLimit_forget srv r.now x)
  rw [received, received, asked]
  generalize (srv.askedFor r.now sender).1 = srv
  show ((srv.counted env r).forget s).charged r t = _
  rw [charged, charged, checkUdpRateLimit_forget]
  exact (@modify_forget s (Session.updateUdpAliveTime r.now) (fun _ => rfl) _ t).symm

/-- Nothing is posted on the way. -/
theorem received_posts (srv : Server) (r : Reception) (t : Ref) (sender : Endpoint) :
    (srv.received env r t sender).udpBroadcasts = srv.udpBroadcasts := by
  show (srv.askedFor r.now sender).1.udpBroadcasts = _
  rw [askedFor]
  split <;> rfl

/-- Two receptions send the same: at once, and by what they post, run on any later servers
that differ in the token at most.  And they leave such servers. -/
structure SendAlike (env : Env) (s : Ref) (srv srv' : Server) (out out' : Server × List UdpEffect) :
    Prop where
  sent : out.2.filterMap UdpEffect.datagram = out'.2.filterMap UdpEffect.datagram
  left : AlikeButToken s out.1 out'.1
  posted : ∃ posts posts', out.1.udpBroadcasts = srv.udpBroadcasts ++ posts ∧
    out'.1.udpBroadcasts = srv'.udpBroadcasts ++ posts' ∧
    List.Forall₂ (fun post post' => ∀ later later' : Server, AlikeButToken s later later' →
      (later.runUdpBroadcast env post).2 = (later'.runUdpBroadcast env post').2) posts posts'

section Handled

variable {srv srv' : Server} {r : Reception} {type token token' : String} {j j' : Json}
  {sender : Endpoint}

theorem handled_sent (command : type ≠ "udp_register") (alike : AlikeButToken s srv srv')
    (same : ∀ key default, key ≠ "token" → j.valueStr key default = j'.valueStr key default) :
    (srv.dispatchUdpParsed env r s type j sender).2 =
      (srv'.dispatchUdpParsed env r s type j' sender).2 := by
  rw [← @dispatchUdpParsed_forget env s r type j sender command srv, alike,
    dispatchUdpParsed_forget command, dispatchUdpParsed_reads command same]

theorem handled_left (command : type ≠ "udp_register") (srv : Server) :
    (srv.handled env r s type token j sender).1.forget s = srv.forget s := by
  show (srv.dispatchUdpParsed env r s type j sender).1.forget s = _
  rw [dispatchUdpParsed_server command]
  rfl

theorem posting_alike
    (same : ∀ key default, key ≠ "token" → j.valueStr key default = j'.valueStr key default)
    (restored : env.parse (utf8 (env.dump j)) = some j)
    (restored' : env.parse (utf8 (env.dump j')) = some j') (type : String) :
    List.Forall₂ (fun post post' => ∀ later later' : Server, AlikeButToken s later later' →
        (later.runUdpBroadcast env post).2 = (later'.runUdpBroadcast env post').2)
      (posting env type j) (posting env type j') := by
  rw [posting, posting, same "nickname" "" (by decide)]
  split
  · cases j'.valueStr "nickname" "" with
    | error problem => exact .nil
    | ok nickname =>
        refine .cons ?_ .nil
        intro later later' alike
        rw [← @runUdpBroadcast_forget env s later, alike, runUdpBroadcast_forget,
          runUdpBroadcast_effects, runUdpBroadcast_effects,
          udpBroadcastPayload_reads same restored restored']
  · exact .nil

end Handled

/-- **What is sent does not tell the token.**  Of any two servers that differ in a session's
token, and any two commands for it that differ in the token they carry and are accepted,
the consequences are the same datagrams to the same endpoints. -/
theorem token_unseen (env : Env) {s : Ref} {srv srv' : Server} (alike : AlikeButToken s srv srv')
    (r : Reception) {msg msg' : Bytes} (sender : Endpoint) {type token token' : String}
    (command : type ≠ "udp_register") (differ : DifferInToken env msg msg')
    (accepted : .dispatch s type token sender ∈ (srv.udpReceive env r msg sender).2)
    (accepted' : .dispatch s type token' sender ∈ (srv'.udpReceive env r msg' sender).2)
    (restored : ∀ j, env.parse msg = some j → env.parse (utf8 (env.dump j)) = some j)
    (restored' : ∀ j, env.parse msg' = some j → env.parse (utf8 (env.dump j)) = some j) :
    SendAlike env s srv srv' (srv.udpReceive env r msg sender)
      (srv'.udpReceive env r msg' sender) := by
  obtain ⟨fields, fields', parsed, parsed', members⟩ := differ
  have same : ∀ key default, key ≠ "token" →
      (Json.obj fields).valueStr key default = (Json.obj fields').valueStr key default := by
    intro key default other
    rw [Json.valueStr, Json.valueStr, members key other]
  rw [udpReceive_accepted parsed command accepted, udpReceive_accepted parsed' command accepted']
  change SendAlike env s srv srv'
    ((srv.received env r s sender).handled env r s type token (.obj fields) sender)
    ((srv'.received env r s sender).handled env r s type token' (.obj fields') sender)
  have reached : AlikeButToken s (srv.received env r s sender) (srv'.received env r s sender) := by
    rw [AlikeButToken, ← received_forget, ← received_forget, alike]
  constructor
  case sent =>
    show List.filterMap UdpEffect.datagram (_ :: _) = List.filterMap UdpEffect.datagram (_ :: _)
    rw [List.filterMap_cons_none rfl, List.filterMap_cons_none rfl, handled_sent command reached same]
  case left =>
    rw [AlikeButToken, handled_left command, handled_left command]
    exact reached
  case posted =>
    refine ⟨posting env type (.obj fields), posting env type (.obj fields'), ?_, ?_,
      posting_alike same (restored _ parsed) (restored' _ parsed') type⟩
    · rw [handled, dispatchUdpParsed_server command, received_posts]
    · rw [handled, dispatchUdpParsed_server command, received_posts]

/-- A broadcast of kim's, with a token. -/
def whisper (token : String) : Json :=
  .obj [("msg", .str "hi"), ("nickname", .str "kim"), ("token", .str token),
    ("type", .str "broadcast_udp")]

def whisperText (token : String) : String := Throwing.dumpInOrder (whisper token)

def whisperEnv : Env :=
  { Throwing.shoutEnv with
    parse := readsAs [(whisperText "2f", whisper "2f"), (whisperText "3b", whisper "3b")] }

/-- kim and lee are registered, kim with another token. -/
def retokened : Server := Throwing.shouting.modify 0 fun x => { x with udpToken := "3b" }

theorem token_unseen_broadcast :
    SendAlike whisperEnv 0 Throwing.shouting retokened
      (Throwing.shouting.udpReceive whisperEnv ⟨seconds 7, 0, ""⟩ (utf8 (whisperText "2f"))
        kimEndpoint)
      (retokened.udpReceive whisperEnv ⟨seconds 7, 0, ""⟩ (utf8 (whisperText "3b"))
        kimEndpoint) := by
  have apart : utf8 (whisperText "2f") ≠ utf8 (whisperText "3b") := by decide +kernel
  have parsed : whisperEnv.parse (utf8 (whisperText "2f")) = some (whisper "2f") := by
    simp [whisperEnv, readsAs]
  have parsed' : whisperEnv.parse (utf8 (whisperText "3b")) = some (whisper "3b") := by
    simp [whisperEnv, readsAs, apart]
  have alike : AlikeButToken 0 Throwing.shouting retokened := by
    simp [AlikeButToken, retokened, forget, modify, Session.forgetToken]
  have differ : DifferInToken whisperEnv (utf8 (whisperText "2f")) (utf8 (whisperText "3b")) := by
    refine ⟨_, _, parsed, parsed', fun key other => ?_⟩
    simp [Json.lookup, List.find?_cons, Ne.symm other]
  refine @token_unseen whisperEnv 0 Throwing.shouting retokened alike _ _ _ kimEndpoint
    "broadcast_udp" "2f" "3b" (by decide) differ (by decide +kernel) (by decide +kernel) ?_ ?_
  · intro j read
    cases parsed.symm.trans read
    exact parsed
  · intro j read
    cases parsed'.symm.trans read
    exact parsed'

end Server

end GameServer.Kernel
