/-
# Kernel.Inbox -- the messages of one use of a session, against its bytes

Bytes come into the receive buffer of a session in chunks; read handlers take messages out
of it, one a turn, and between turns anything may happen: other sessions, closes, sweeps,
more reads of the same session, a handler left over from an earlier use.  The bytes of a
use are those that the completions in it append, left-over ones included.

* `arriving`, `taking` -- what an event brings into a buffer, and takes out;
* `step_accounts` -- each event keeps the account of a buffer, unless the object is handed
  out or a length is out of range;
* `handled_in_order` -- so what is handled in a use are the messages of its bytes, in order.
-/
import GameServer.Kernel.Extraction
import GameServer.Wire.Framing

namespace GameServer.Kernel

set_option autoImplicit false

open Wire Dbmw Theory.Runs Theory.Incremental

namespace Server

/-- What the event brings into the receive buffer of `s`. -/
def arriving (s : Ref) (srv : Server) : Event → Bytes
  | .readDone op (.data bytes) =>
      if op.origin.session = s ∧ op ∈ srv.reads ∧ Delivers op (.data bytes) then bytes else []
  | _ => []

/-- The message a turn of a read handler takes out of it. -/
def taking (s : Ref) (srv : Server) : Event → List Bytes
  | .handlerStep _ origin _ =>
      if origin.session = s ∧ origin ∈ srv.handlers then
        (srv.obj s).msgBuf.extractMessage.1.toList
      else []
  | _ => []

/-- The turn finds a length out of range, and empties the buffer. -/
def Refuses (s : Ref) (srv : Server) : Event → Prop
  | .handlerStep _ origin _ => origin.session = s ∧ origin ∈ srv.handlers ∧
      (srv.obj s).msgBuf.extractMessage.2.lastClearByInvalidLength = true
  | _ => False

/-- The event gives the object to a connection. -/
def Opens (s : Ref) (srv : Server) : Event → Prop
  | .accept now order => srv.nextFree = some s ∧
      (({ srv with journal := [] } : Server).accepted now s).SortedUnauth order
  | _ => False

instance (s : Ref) (srv : Server) : ∀ e, Decidable (srv.Refuses s e)
  | .handlerStep _ _ _ => inferInstanceAs (Decidable (_ ∧ _ ∧ _))
  | .accept _ _ | .readDone _ _ | .loginTimer _ _ | .writeDone _ _ | .post _ | .keepaliveCheck _
  | .cleanupInactive _ | .sweepClose _ | .expireStaleUdp | .dbConnected _ | .dbMessage _
  | .dbExpire _ _ | .dbResend _ _ _ | .datagram _ _ _ | .udpBroadcast _ => isFalse id

instance (s : Ref) (srv : Server) : ∀ e, Decidable (srv.Opens s e)
  | .accept _ _ => inferInstanceAs (Decidable (_ ∧ _))
  | .handlerStep _ _ _ | .readDone _ _ | .loginTimer _ _ | .writeDone _ _ | .post _
  | .keepaliveCheck _ | .cleanupInactive _ | .sweepClose _ | .expireStaleUdp | .dbConnected _
  | .dbMessage _ | .dbExpire _ _ | .dbResend _ _ _ | .datagram _ _ _ | .udpBroadcast _ => isFalse id

variable {env : Env} {srv : Server} {s : Ref}

/-! ## The buffer through an event -/

theorem handOut_buffer (now : Time) (sessionId : Int) (x : Session) :
    (x.handOut now sessionId).msgBuf = x.msgBuf.clear := by
  rw [Session.handOut, Session.setActive, if_pos rfl, Session.tryActivate]
  split <;> rfl

theorem accepted_buffer (env : Env) (srv : Server) (now : Time) (x : Ref) :
    ((srv.accepted now x).obj s).msgBuf =
      if s = x then (srv.obj s).msgBuf.clear else (srv.obj s).msgBuf := by
  have filed : Reaches env false false _ (srv.accepted now x) := addSession_reach _ x
  rw [reaches_buffer filed]
  change (((srv.modify x (Session.handOut now srv.sessionCounter)).obj s).msgBuf) = _
  by_cases here : s = x
  · subst here
    rw [modify_obj_self, if_pos rfl, handOut_buffer]
  · rw [modify_obj_other _ _ here, if_neg here]

/-- A connection leaves all buffers alone but that of the object it is given. -/
theorem accept_buffer (env : Env) (srv : Server) (now : Time) (order : List Ref) (s : Ref) :
    ((srv.step env (.accept now order)).obj s).msgBuf =
      if srv.Opens s (.accept now order) then (srv.obj s).msgBuf.clear
      else (srv.obj s).msgBuf := by
  by_cases admits : ({ srv with journal := [] } : Server).Admits now order
  · obtain ⟨x, next, sorted⟩ := admits
    have rest : Reaches env false false (({ srv with journal := [] } : Server).accepted now x)
        (srv.step env (.accept now order)) := by
      have swept : Reaches env false false (({ srv with journal := [] } : Server).accepted now x)
          ((({ srv with journal := [] } : Server).accepted now x).cleanupUnauthSessions 100 order) :=
        .foldl (fun srv s => close_reach srv s) _ _
      rw [step, react, accept_admitted next sorted]
      exact swept.trans (start_reach none _ x)
    rw [reaches_buffer rest, accepted_buffer env]
    by_cases here : s = x
    · subst here
      rw [if_pos rfl, if_pos ⟨next, sorted⟩]
    · have other : ¬ srv.Opens s (.accept now order) := fun opens =>
        here (Option.some.inj (opens.1.symm.trans next))
      rw [if_neg here, if_neg other]
  · have other : ¬ srv.Opens s (.accept now order) := fun opens =>
      admits ⟨s, opens.1, opens.2⟩
    have refused : Reaches env false false { srv with journal := [] }
        (srv.step env (.accept now order)) :=
      accept_reach _ now order fun given => absurd given admits
    rw [reaches_buffer refused, if_neg other]

/-! ## The account of a buffer -/

/-- What has come for the object in a use and what was taken of it account for its buffer. -/
def Accounted (s : Ref) (stream : Bytes) (taken : List Bytes) (srv : Server) : Prop :=
  Accounts MessageBufferManager.attempt stream taken (srv.obj s).msgBuf.buffer

theorem accounted_same {stream : Bytes} {taken : List Bytes} {srv' : Server}
    (accounts : srv.Accounted s stream taken)
    (same : (srv'.obj s).msgBuf = (srv.obj s).msgBuf) : srv'.Accounted s stream taken := by
  rw [Accounted, same]
  exact accounts

theorem readDone_appends (env : Env) (srv : Server) (op : ReadOp) (bytes : Bytes) :
    ((srv.readDone env op (.data bytes)).obj op.origin.session).msgBuf =
      (srv.obj op.origin.session).msgBuf.append bytes := by
  simp only [readDone, modify_obj_self]

/-- A completion that brings something. -/
theorem arrive_accounts {stream : Bytes} {taken : List Bytes} {op : ReadOp} {bytes : Bytes}
    (accounts : srv.Accounted op.origin.session stream taken)
    (delivers : op ∈ srv.reads ∧ Delivers op (.data bytes)) :
    (srv.step env (.readDone op (.data bytes))).Accounted op.origin.session (stream ++ bytes)
      taken := by
  have outstanding : op ∈ ({ srv with journal := [] } : Server).reads ∧
      Delivers op (.data bytes) := delivers
  rw [Accounted, step, react, if_pos outstanding, readDone_appends]
  exact accounts.arrive bytes

/-- A turn that finds no length out of range. -/
theorem turn_accounts {stream : Bytes} {taken : List Bytes} {now : Time} {origin : Origin}
    {senderThrows : Bool} (accounts : srv.Accounted origin.session stream taken)
    (running : origin ∈ srv.handlers)
    (regular : ¬ srv.Refuses origin.session (.handlerStep now origin senderThrows)) :
    (srv.step env (.handlerStep now origin senderThrows)).Accounted origin.session stream
      (taken ++ (srv.obj origin.session).msgBuf.extractMessage.1.toList) := by
  have runs : origin ∈ ({ srv with journal := [] } : Server).handlers := running
  rw [Accounted, step, react, if_pos runs, handlerStep_buffer, if_pos rfl]
  change Accounts _ _ _ (srv.obj origin.session).msgBuf.extractMessage.2.buffer
  rcases extracted : (srv.obj origin.session).msgBuf.extractMessage with ⟨_ | msg, m⟩
  · have lowered : ¬ m.lastClearByInvalidLength = true := fun raised =>
      regular ⟨rfl, running, by rwa [extracted]⟩
    have waited := MessageBufferManager.extractMessage_none extracted
    rw [if_neg lowered] at waited
    rw [Option.toList_none, List.append_nil]
    exact accounts.wait MessageBufferManager.attempt_lawful waited
  · exact accounts.deliver MessageBufferManager.attempt_lawful
      (MessageBufferManager.extractMessage_some extracted)

/-- An event that hands no object out leaves the buffers alone that it does not read for. -/
theorem unread_buffer {e : Event} {reader : Option Ref}
    (waits : ∀ now order, e ≠ .accept now order) (reads : e.reads = reader)
    (other : reader ≠ some s) :
    ((srv.step env e).obj s).msgBuf = (srv.obj s).msgBuf := by
  subst reads
  exact step_buffer srv ⟨waits, other⟩

/-- **Every event keeps the account**, unless it gives the object to a connection, or finds a
length out of range. -/
theorem step_accounts {stream : Bytes} {taken : List Bytes} {e : Event}
    (accounts : srv.Accounted s stream taken) (within : ¬ srv.Opens s e ∧ ¬ srv.Refuses s e) :
    (srv.step env e).Accounted s (stream ++ srv.arriving s e) (taken ++ srv.taking s e) := by
  obtain ⟨used, regular⟩ := within
  have settled (nothing : srv.arriving s e = []) (none : srv.taking s e = [])
      (same : ((srv.step env e).obj s).msgBuf = (srv.obj s).msgBuf) :
      (srv.step env e).Accounted s (stream ++ srv.arriving s e) (taken ++ srv.taking s e) := by
    rw [nothing, none, List.append_nil, List.append_nil]
    exact accounted_same accounts same
  cases e with
  | accept now order =>
      have kept := accept_buffer env srv now order s
      rw [if_neg used] at kept
      exact settled rfl rfl kept
  | readDone op result =>
      cases result with
      | data bytes =>
          by_cases brings : op.origin.session = s ∧ op ∈ srv.reads ∧ Delivers op (.data bytes)
          · obtain ⟨rfl, delivers⟩ := brings
            have brought : srv.arriving op.origin.session (.readDone op (.data bytes)) = bytes :=
              if_pos ⟨rfl, delivers⟩
            have none : srv.taking op.origin.session (.readDone op (.data bytes)) = [] := rfl
            rw [brought, none, List.append_nil]
            exact arrive_accounts accounts delivers
          · refine settled (if_neg brings) rfl ?_
            by_cases here : op.origin.session = s
            · have undelivered : ¬ (op ∈ ({ srv with journal := [] } : Server).reads ∧
                  Delivers op (.data bytes)) := fun delivers => brings ⟨here, delivers⟩
              rw [step, react, if_neg undelivered]
            · exact unread_buffer (fun _ _ same => by cases same) rfl
                fun reads => here (Option.some.inj reads)
      | _ =>
          exact settled rfl rfl
            (unread_buffer (fun _ _ same => by cases same) rfl (Option.some_ne_none s).symm)
  | handlerStep now origin senderThrows =>
      by_cases turns : origin.session = s ∧ origin ∈ srv.handlers
      · obtain ⟨rfl, running⟩ := turns
        have nothing : srv.arriving origin.session (.handlerStep now origin senderThrows) = [] := rfl
        have took : srv.taking origin.session (.handlerStep now origin senderThrows) =
            (srv.obj origin.session).msgBuf.extractMessage.1.toList := if_pos ⟨rfl, running⟩
        rw [nothing, List.append_nil, took]
        exact turn_accounts accounts running regular
      · refine settled rfl (if_neg turns) ?_
        by_cases here : origin.session = s
        · have idle : ¬ origin ∈ ({ srv with journal := [] } : Server).handlers :=
            fun running => turns ⟨here, running⟩
          rw [step, react, if_neg idle]
        · exact unread_buffer (fun _ _ same => by cases same) rfl
            fun reads => here (Option.some.inj reads)
  | _ =>
      exact settled rfl rfl
        (unread_buffer (fun _ _ same => by cases same) rfl (Option.some_ne_none s).symm)

/-- All that the events of a run bring for `s`. -/
def arrivals (env : Env) (s : Ref) (srv : Server) (events : List Event) : Bytes :=
  trace (step env) (fun srv e => srv.arriving s e) srv events

/-- The messages that the turns of a run take for `s`. -/
def takings (env : Env) (s : Ref) (srv : Server) (events : List Event) : List Bytes :=
  trace (step env) (fun srv e => srv.taking s e) srv events

theorem run_accounts {stream : Bytes} {taken : List Bytes} {events : List Event}
    (accounts : srv.Accounted s stream taken)
    (within : Along (step env) (fun srv e => ¬ srv.Opens s e ∧ ¬ srv.Refuses s e) srv events) :
    (run (step env) srv events).Accounted s (stream ++ arrivals env s srv events)
      (taken ++ takings env s srv events) := by
  induction events generalizing srv stream taken with
  | nil =>
      rw [arrivals, takings, trace, trace, List.append_nil, List.append_nil]
      exact accounts
  | cons e events ih =>
      rw [arrivals, takings, trace, trace, ← List.append_assoc, ← List.append_assoc]
      exact ih (step_accounts accounts within.1) within.2

/-- The messages are those of the bytes, in order, and what follows them is in the buffer. -/
structure InOrder (bytes : Bytes) (messages : List Bytes) (m : MessageBufferManager) : Prop where
  account : drain MessageBufferManager.attempt bytes =
    (messages ++ (drain MessageBufferManager.attempt m.buffer).1,
      (drain MessageBufferManager.attempt m.buffer).2)
  /-- Of bytes that begin the frames of some payloads, the messages begin the payloads. -/
  framed : ∀ (sender : Sender) (payloads : List Bytes),
    (∀ payload ∈ payloads, MessageBufferManager.Plausible payload.length) →
      bytes <+: (payloads.map sender.frame).flatten → messages <+: payloads
  /-- A length out of range ends them. -/
  refused : MessageBufferManager.attempt m.buffer = .refuse →
    drain MessageBufferManager.attempt bytes = (messages, none)

theorem Accounted.inOrder {bytes : Bytes} {messages : List Bytes}
    (accounts : srv.Accounted s bytes messages) : InOrder bytes messages (srv.obj s).msgBuf where
  account := accounts.now
  framed := by
    rintro sender payloads sizes ⟨rest, whole⟩
    have all := accounts rest
    rw [whole, drain_frames sender payloads sizes] at all
    exact ⟨_, (Prod.mk.inj all).1.symm⟩
  refused := accounts.refuse

/-- **What is handled in a use are the messages of its bytes, in order**: from the event that gives
the object to a connection on, in whatever order completions, turns and everything else come,
the messages taken are those that one extraction from all the bytes appended gives, but for
those still in the buffer; and so up to a length out of range, or to the next use. -/
theorem handled_in_order (env : Env) (srv : Server) (s : Ref) (first : Event) (events : List Event)
    (opens : srv.Opens s first)
    (within : Along (step env) (fun srv e => ¬ srv.Opens s e ∧ ¬ srv.Refuses s e)
      (srv.step env first) events) :
    InOrder (arrivals env s (srv.step env first) events) (takings env s (srv.step env first) events)
      ((run (step env) (srv.step env first) events).obj s).msgBuf := by
  have begun : (srv.step env first).Accounted s [] [] := by
    cases first with
    | accept now order =>
        have cleared := accept_buffer env srv now order s
        rw [if_pos opens] at cleared
        rw [Accounted, cleared]
        exact .start []
    | _ => cases opens
  exact (run_accounts begun within).inOrder

/-- Two messages that one read brings, taken in two turns. -/
theorem handled_in_order_ping :
    InOrder (arrivals pingEnv 0 ((initial pingEnv none).step pingEnv (.accept 0 [0]))
        (pingThenLogin.tail ++ [.handlerStep 0 ⟨0, 1, 2⟩ false, .handlerStep 0 ⟨0, 1, 2⟩ false]))
      (takings pingEnv 0 ((initial pingEnv none).step pingEnv (.accept 0 [0]))
        (pingThenLogin.tail ++ [.handlerStep 0 ⟨0, 1, 2⟩ false, .handlerStep 0 ⟨0, 1, 2⟩ false]))
      ((run (step pingEnv) ((initial pingEnv none).step pingEnv (.accept 0 [0]))
        (pingThenLogin.tail ++ [.handlerStep 0 ⟨0, 1, 2⟩ false,
          .handlerStep 0 ⟨0, 1, 2⟩ false])).obj 0).msgBuf :=
  handled_in_order pingEnv (initial pingEnv none) 0 (.accept 0 [0]) _ (by decide +kernel)
    (by decide +kernel)

end Server

end GameServer.Kernel
