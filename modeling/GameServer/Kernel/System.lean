/-
# Kernel.System -- the events of the server and its runs

One event is one handler run to its end: an accepted connection, a completion of
something outstanding, one turn of a read handler's extraction loop, one close of a
sweep, a message or a timer of the middleware link, a datagram.  Handlers of
different threads interleave between events; an event that nothing outstanding
answers to leaves the server as it is.

A server starts with a filled pool, nobody registered and nothing outstanding.
-/
import GameServer.Kernel.Login
import GameServer.Kernel.Udp
import GameServer.Theory.Runs

namespace GameServer.Kernel

set_option autoImplicit false

open Wire Dbmw Theory.Runs

inductive Event where
  | accept (now : Time) (order : List Ref)
  | readDone (op : ReadOp) (result : ReadResult)
  | handlerStep (now : Time) (origin : Origin) (senderThrows : Bool)
  | loginTimer (timer : LoginTimer) (cancelled : Bool)
  | writeDone (op : WriteOp) (failed : Bool)
  | post (post : Post)
  | keepaliveCheck (now : Time)
  | cleanupInactive (now : Time)
  | sweepClose (session : Ref)
  | expireStaleUdp
  | dbConnected (connected : Bool)
  | dbMessage (message : Json)
  | dbExpire (reqId : String) (senderThrows : Bool)
  | dbResend (reqId : String) (cancelled senderThrows : Bool)
  | datagram (reception : Reception) (msg : Bytes) (sender : Endpoint)
  | udpBroadcast (post : String × String)

def Event.isDatagram : Event → Bool
  | .datagram _ _ _ => true
  | _ => false

namespace Server

/-- The first work posted to its strand is next. -/
def NextPost (srv : Server) (post : Post) : Prop :=
  (srv.posts.filter fun p => p.session = post.session ∧ p.strand = post.strand).head? = some post

instance (srv : Server) (post : Post) : Decidable (srv.NextPost post) :=
  inferInstanceAs (Decidable (_ = _))

/-- Bytes and an end of stream come only from a socket that was open; a read
returns at least one byte. -/
def Delivers (op : ReadOp) : ReadResult → Prop
  | .data bytes => op.live = true ∧ bytes ≠ []
  | .eof => op.live = true
  | _ => True

instance (op : ReadOp) : ∀ result, Decidable (Delivers op result)
  | .data _ => inferInstanceAs (Decidable (_ ∧ _))
  | .eof => inferInstanceAs (Decidable (_ = _))
  | .connectionReset => inferInstanceAs (Decidable True)
  | .aborted => inferInstanceAs (Decidable True)
  | .error => inferInstanceAs (Decidable True)

/-- The handler of an event. -/
def react (env : Env) (srv : Server) : Event → Server
  | .accept now order => srv.accept env now order
  | .readDone op result =>
      if op ∈ srv.reads ∧ Delivers op result then srv.readDone env op result else srv
  | .handlerStep now origin senderThrows =>
      if origin ∈ srv.handlers then srv.handlerStep env now origin senderThrows else srv
  | .loginTimer timer cancelled =>
      if timer ∈ srv.loginTimers then
        if cancelled then { srv with loginTimers := srv.loginTimers.erase timer }
        else srv.loginTimerFired env timer
      else srv
  | .writeDone op failed => if op ∈ srv.writes then srv.writeDone op failed else srv
  | .post post => if srv.NextPost post then srv.runPost env post else srv
  | .keepaliveCheck now => srv.keepaliveCheck now
  | .cleanupInactive now => srv.cleanupInactiveSessions now
  | .sweepClose s => if s ∈ srv.sweep then srv.sweepClose s else srv
  | .expireStaleUdp => srv.expireStaleUdpEndpoints
  | .dbConnected connected => { srv with dbConnected := connected }
  | .dbMessage message =>
      match srv.dbRouter with
      | none => srv
      | some router =>
          let (router, effects) := router.handle message
          { srv with dbRouter := some router }.runEffects env effects
  | .dbExpire reqId senderThrows =>
      match srv.dbRouter with
      | none => srv
      | some router =>
          let (router, effects) := router.expire { pid := env.pid, senderThrows } reqId
          { srv with dbRouter := some router }.runEffects env effects
  | .dbResend reqId cancelled senderThrows =>
      match srv.dbRouter with
      | none => srv
      | some router =>
          let (router, effects) := router.resend { pid := env.pid, senderThrows } reqId cancelled
          { srv with dbRouter := some router }.runEffects env effects
  | .datagram reception msg sender => (srv.udpReceive env reception msg sender).1
  | .udpBroadcast post => if post ∈ srv.udpBroadcasts then (srv.runUdpBroadcast env post).1 else srv

/-- One event, on a fresh page of the journal. -/
def step (env : Env) (srv : Server) (e : Event) : Server := { srv with journal := [] }.react env e

/-- What an event sends and dispatches over UDP. -/
def outputs (env : Env) (srv : Server) : Event → List UdpEffect
  | .datagram reception msg sender => ({ srv with journal := [] }.udpReceive env reception msg sender).2
  | .udpBroadcast post =>
      if post ∈ srv.udpBroadcasts then ({ srv with journal := [] }.runUdpBroadcast env post).2 else []
  | _ => []

/-- A server as `main` builds it, with a router whose senders are set, or none. -/
def initial (env : Env) (router : Option (DBmwRouter LoginFlow)) : Server where
  obj _ := {}
  pool := {
    size := env.config.sessionPoolSize
    maxSize := env.config.maxSessionPoolSize
    reusableIndices := List.range env.config.sessionPoolSize }
  manager := { shardCount := env.config.shardCount }
  zones zoneId := if 1 ≤ zoneId ∧ zoneId ≤ env.config.maxZoneCount then some ∅ else none
  udpGlobalLimiter := {
    counts := List.replicate env.config.udpShardCount 0
    windowSecs := List.replicate env.config.udpShardCount 0 }
  dbRouter := router.map fun r => { r with pending := ∅ }

end Server

/-- The state a run of events reaches. -/
abbrev after (env : Env) (router : Option (DBmwRouter LoginFlow)) (events : List Event) : Server :=
  run (Server.step env) (Server.initial env router) events

end GameServer.Kernel
