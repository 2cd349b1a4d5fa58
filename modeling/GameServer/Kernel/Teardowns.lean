/-
# Kernel.Teardowns -- how often one use of a session is torn down

`try_close` is meant to let one `close_session` through for each use: it takes the
life from active or idle to closing, and nothing but the next use was to lead back.
But the close ends in `cleanup()`, which sets the life to idle, and the guard stands
open again; only an object that went back to the pool in the meantime stays shut.

* `torn_once_iff` -- the teardown runs at most once in every use exactly when no
  `close_session` meets an object that was closed in its use and is not released;
* `closed_twice` -- a second `close_session` is one too many.
-/
import GameServer.Kernel.Outgoing

namespace GameServer.Kernel

set_option autoImplicit false

open Wire Dbmw Theory.Runs

namespace Server

/-- The call runs `close_session` on the object. -/
def Closes (env : Env) (srv : Server) (s : Ref) : Call → Prop
  | .closeSession t => t = s
  | .write t message => t = s ∧ ((srv.obj s).enqueueWrite env.config message).2 = true
  | .writeDone op failed =>
      op ∈ srv.writes ∧ op.session = s ∧ op.generation = (srv.obj s).generation ∧ failed = true
  | _ => False

instance (env : Env) (srv : Server) (s : Ref) : ∀ c, Decidable (srv.Closes env s c)
  | .acquire _ _ => inferInstanceAs (Decidable False)
  | .closeSession _ => inferInstanceAs (Decidable (_ = _))
  | .write _ _ => inferInstanceAs (Decidable (_ ∧ _))
  | .writeDone _ _ => inferInstanceAs (Decidable (_ ∧ _))
  | .assignSessionToZone _ _ => inferInstanceAs (Decidable False)
  | .leaveZone _ => inferInstanceAs (Decidable False)
  | .elsewhere _ => inferInstanceAs (Decidable False)

/-- The object was handed out and closed since. -/
def ClosedInUse (srv : Server) (s : Ref) : Prop :=
  0 < (srv.obj s).strand ∧ (srv.obj s).socketOpen = false

instance (srv : Server) (s : Ref) : Decidable (srv.ClosedInUse s) :=
  inferInstanceAs (Decidable (_ ∧ _))

/-- No `close_session` meets an object closed in its use that its `try_close` would
let through. -/
def Spares (env : Env) (srv : Server) (s : Ref) (c : Call) : Prop :=
  srv.Closes env s c → srv.ClosedInUse s → ¬ (srv.obj s).Closable

instance (env : Env) (srv : Server) (s : Ref) (c : Call) : Decidable (srv.Spares env s c) :=
  inferInstanceAs (Decidable (_ → _))

end Server

/-- A server and, of one object, how often `close_session` got past its guard since it
was last handed out. -/
structure Torn where
  srv : Server
  times : Nat := 0

namespace Torn

def call (env : Env) (s : Ref) (w : Torn) (c : Call) : Torn where
  srv := w.srv.call env c
  times :=
    if w.srv.HandsOut s c then 0
    else if w.srv.Closes env s c ∧ (w.srv.obj s).Closable ∧ 0 < (w.srv.obj s).strand then
      w.times + 1
    else w.times

/-- A new server after calls, with the teardowns of `s`. -/
def after (env : Env) (router : Option (DBmwRouter LoginFlow)) (s : Ref) (calls : List Call) :
    Torn :=
  run (call env s) { srv := Server.initial env router } calls

end Torn

/-! ## The socket through a call -/

namespace Session

/-- The use of the object, and whether its socket is open. -/
def plug (x : Session) : Nat × Bool := (x.strand, x.socketOpen)

theorem Removed.plug {x y : Session} (removed : x.Removed y) : y.plug = x.plug := by
  obtain ⟨zoneId, rfl | rfl | rfl⟩ := removed <;> rfl

theorem enqueueWrite_plug (x : Session) (config : Config) (message : String) :
    (x.enqueueWrite config message).1.plug = x.plug ∧
      (x.enqueueWrite config message).1.life = x.life := by
  obtain ⟨queue, count, entered⟩ := x.enqueueWrite_eq config message
  rw [entered]
  exact ⟨rfl, rfl⟩

end Session

namespace Server

variable {env : Env} {srv : Server} {s t : Ref}

theorem modify_plug (srv : Server) (t : Ref) (f : Session → Session)
    (same : (f (srv.obj t)).plug = (srv.obj t).plug) (s : Ref) :
    ((srv.modify t f).obj s).plug = (srv.obj s).plug := by
  by_cases here : s = t
  · subst here
    rw [modify_obj_self, same]
  · rw [modify_obj_other _ _ here]

theorem closeSession_plug (srv : Server) (t s : Ref) :
    ((srv.closeSession t).obj s).plug =
      if t = s ∧ (srv.obj s).Closable then ((srv.obj s).strand, false) else (srv.obj s).plug := by
  by_cases closable : (srv.obj t).Closable
  · obtain ⟨⟨y, removed, closed⟩, others⟩ := closeSession_obj closable
    by_cases here : t = s
    · subst here
      rw [if_pos ⟨rfl, closable⟩, closed]
      exact removed.plug
    · rw [if_neg fun both => here both.1]
      exact (others s (Ne.symm here)).plug
  · rw [closeSession_refused closable, if_neg]
    rintro ⟨rfl, open'⟩
    exact closable open'

theorem doWriteQueue_plug (srv : Server) (t s : Ref) :
    ((srv.doWriteQueue t).obj s).plug = (srv.obj s).plug := by
  rw [doWriteQueue_eq]
  split
  · rfl
  · split
    · exact modify_plug srv t _ rfl s
    · rfl

theorem writeNow_plug (srv : Server) (t s : Ref) (message : String) :
    ((srv.writeNow env t message).obj s).plug =
      if srv.Closes env s (.write t message) ∧ (srv.obj s).Closable then
        ((srv.obj s).strand, false)
      else (srv.obj s).plug := by
  obtain ⟨plug, life⟩ := (srv.obj t).enqueueWrite_plug env.config message
  rcases queued : (srv.obj t).enqueueWrite env.config message with ⟨x, overflow⟩
  rw [queued] at plug life
  dsimp only at plug life
  have same : ((srv.modify t fun _ => x).obj s).plug = (srv.obj s).plug :=
    modify_plug srv t (fun _ => x) plug s
  have written (srv : Server) (idle : Bool) :
      ((if idle = true then (srv.modify t fun x => { x with writeInProgress := true }).doWriteQueue t
        else srv).obj s).plug = (srv.obj s).plug := by
    split
    · rw [doWriteQueue_plug]
      exact modify_plug srv t _ rfl s
    · rfl
  simp only [writeNow, queued]
  rw [written]
  cases overflow with
  | false =>
      rw [if_neg Bool.false_ne_true, same, if_neg]
      rintro ⟨⟨rfl, overflows⟩, -⟩
      rw [queued] at overflows
      exact Bool.false_ne_true overflows
  | true =>
      have closed := closeSession_plug ((srv.modify t fun _ => x).note (.close t)) t s
      refine closed.trans ?_
      by_cases here : t = s
      · subst here
        have obj : (((srv.modify t fun _ => x).note (.close t)).obj t) = x :=
          modify_obj_self srv t fun _ => x
        have strand : x.strand = (srv.obj t).strand := congrArg Prod.fst plug
        have overflows : ((srv.obj t).enqueueWrite env.config message).2 = true := by rw [queued]
        simp only [obj, Closes, overflows, Session.Closable, life, strand, plug, and_self, true_and]
      · rw [if_neg fun both => here both.1, if_neg fun both => here both.1.1]
        exact same

theorem writeDone_plug {op : WriteOp} (failed : Bool) (member : op ∈ srv.writes) (s : Ref) :
    ((srv.writeDone op failed).obj s).plug =
      if srv.Closes env s (.writeDone op failed) ∧ (srv.obj s).Closable then
        ((srv.obj s).strand, false)
      else (srv.obj s).plug := by
  simp only [writeDone]
  split
  · rename_i stale
    rw [if_neg]
    rintro ⟨⟨-, rfl, current, -⟩, -⟩
    exact stale current
  · rename_i current
    have current := Decidable.of_not_not current
    split
    · rename_i failed
      refine (closeSession_plug _ op.session s).trans ?_
      by_cases own : op.session = s
      · subst own
        simp only [Closes, member, current, failed, and_self, true_and]
        rfl
      · rw [if_neg fun both => own both.1, if_neg fun both => own both.1.2.1]
        rfl
    · rename_i succeeded
      rw [doWriteQueue_plug, if_neg fun both => succeeded both.1.2.2.2]
      exact modify_plug { srv with writes := srv.writes.erase op } op.session _ rfl s

theorem assignSessionToZone_plug (srv : Server) (t : Ref) (zoneId : Int) (s : Ref) :
    ((srv.assignSessionToZone env t zoneId).obj s).plug = (srv.obj s).plug := by
  rcases assignSessionToZone_cases env srv t zoneId with ⟨-, same⟩ | ⟨zone, -, -, -, enters⟩
  · rw [same]
  · rw [enters]
    exact modify_plug _ t _ rfl s

theorem leaveZone_plug (srv : Server) (t s : Ref) :
    ((srv.leaveZone t).obj s).plug = (srv.obj s).plug := by
  rcases srv.leaveZone_cases t with ⟨-, same⟩ | ⟨zone, -, -, left⟩
  · rw [same]
  · rw [left]
    exact modify_plug _ t _ rfl s

/-- **One call**: the socket stays as it is unless the object is torn down. -/
theorem call_plug (env : Env) {c : Call} (keeps : ¬ srv.HandsOut s c) :
    ((srv.call env c).obj s).plug =
      if srv.Closes env s c ∧ (srv.obj s).Closable then ((srv.obj s).strand, false)
      else (srv.obj s).plug := by
  cases c with
  | acquire now sessionId =>
      rw [if_neg fun both => both.1]
      simp only [call]
      split
      · rfl
      · rename_i t next
        have other : s ≠ t := by
          rintro rfl
          exact keeps next
        exact congrArg Session.plug (modify_obj_other _ _ other)
  | closeSession t => exact closeSession_plug srv t s
  | write t message => exact writeNow_plug srv t s message
  | writeDone op failed =>
      simp only [call]
      split
      · rename_i member
        exact writeDone_plug failed member s
      · rename_i gone
        rw [if_neg fun both => gone both.1.1]
  | assignSessionToZone t zoneId =>
      rw [if_neg fun both => both.1]
      exact assignSessionToZone_plug srv t zoneId s
  | leaveZone t =>
      rw [if_neg fun both => both.1]
      exact leaveZone_plug srv t s
  | elsewhere other =>
      rw [if_neg fun both => both.1]
      rfl

theorem handOut_plug (env : Env) {c : Call} (hands : srv.HandsOut s c) :
    ((srv.call env c).obj s).plug = ((srv.obj s).strand + 1, true) := by
  cases c with
  | acquire now sessionId =>
      have next : srv.nextFree = some s := hands
      simp only [call, next, acquire_obj, Session.handOut, Session.setActive, Session.tryActivate,
        if_true]
      split <;> rfl
  | _ => cases hands

theorem handsOut_closes {c : Call} (hands : srv.HandsOut s c) : ¬ srv.Closes env s c := by
  cases c with
  | acquire now sessionId => exact id
  | _ => cases hands

end Server

namespace Torn

variable {env : Env} {s : Ref} {w : Torn}

/-- The teardowns of a use are told by the socket. -/
structure Counted (s : Ref) (w : Torn) : Prop where
  unused : (w.srv.obj s).strand = 0 → w.times = 0
  opened : (w.srv.obj s).socketOpen = true → w.times = 0
  closed : w.srv.ClosedInUse s → 1 ≤ w.times

theorem counted_initial (env : Env) (router : Option (DBmwRouter LoginFlow)) (s : Ref) :
    Counted s { srv := Server.initial env router } :=
  ⟨fun _ => rfl, fun _ => rfl, fun closed => absurd closed.1 (Nat.lt_irrefl 0)⟩

theorem Counted.step (counted : w.Counted s) (c : Call) : (w.call env s c).Counted s := by
  by_cases hands : w.srv.HandsOut s c
  · obtain ⟨strand, opened⟩ := Prod.mk.inj (Server.handOut_plug env hands)
    have none : (w.call env s c).times = 0 := if_pos hands
    refine ⟨fun _ => none, fun _ => none, fun closed => ?_⟩
    exact absurd (opened.symm.trans closed.2) (by decide)
  · have plug := Server.call_plug env hands
    by_cases torn : w.srv.Closes env s c ∧ (w.srv.obj s).Closable
    · rw [if_pos torn] at plug
      obtain ⟨strand, shut⟩ := Prod.mk.inj plug
      have times : (w.call env s c).times =
          if 0 < (w.srv.obj s).strand then w.times + 1 else w.times := by
        simp only [call, if_neg hands, torn, true_and]
      refine ⟨fun unused => ?_, fun opened => ?_, fun closed => ?_⟩
      · have unused : (w.srv.obj s).strand = 0 := strand.symm.trans unused
        rw [times, if_neg (Nat.not_lt.mpr (Nat.le_of_eq unused))]
        exact counted.unused unused
      · exact absurd (shut.symm.trans opened) (by decide)
      · have used : 0 < (w.srv.obj s).strand := Nat.lt_of_lt_of_eq closed.1 strand
        rw [times, if_pos used]
        exact Nat.succ_le_succ (Nat.zero_le _)
    · rw [if_neg torn] at plug
      obtain ⟨strand, socket⟩ := Prod.mk.inj plug
      have times : (w.call env s c).times = w.times := by
        simp only [call, if_neg hands]
        exact if_neg fun all => torn ⟨all.1, all.2.1⟩
      refine ⟨fun unused => ?_, fun opened => ?_, fun closed => ?_⟩
      · exact times.trans (counted.unused (strand.symm.trans unused))
      · exact times.trans (counted.opened (socket.symm.trans opened))
      · rw [times]
        exact counted.closed
          ⟨Nat.lt_of_lt_of_eq closed.1 strand, socket.symm.trans closed.2⟩

/-- The next call keeps the count at one or less exactly when it spares the object. -/
theorem Counted.sharp (counted : w.Counted s) (once : w.times ≤ 1) (c : Call) :
    (w.call env s c).times ≤ 1 ↔ w.srv.Spares env s c := by
  by_cases hands : w.srv.HandsOut s c
  · have none : (w.call env s c).times = 0 := if_pos hands
    have silent : ¬ w.srv.Closes env s c := Server.handsOut_closes hands
    exact ⟨fun _ closes => absurd closes silent, fun _ => by omega⟩
  · by_cases torn : w.srv.Closes env s c ∧ (w.srv.obj s).Closable ∧ 0 < (w.srv.obj s).strand
    · have times : (w.call env s c).times = w.times + 1 := by
        simp only [call, if_neg hands, if_pos torn]
      obtain ⟨closes, closable, used⟩ := torn
      rw [times]
      constructor
      · intro first _ closed
        have before := counted.closed closed
        omega
      · intro spares
        have opened : (w.srv.obj s).socketOpen = true := by
          by_contra shut
          exact spares closes ⟨used, by simpa using shut⟩ closable
        have none := counted.opened opened
        omega
    · have times : (w.call env s c).times = w.times := by
        simp only [call, if_neg hands, if_neg torn]
      rw [times]
      exact ⟨fun _ closes closed closable => torn ⟨closes, closable, closed.1⟩, fun _ => once⟩

/-- **A use is torn down at most once**, throughout a run, exactly when no
`close_session` meets an object that was closed in its use and that its guard would let
through once more. -/
theorem torn_once_iff (env : Env) (router : Option (DBmwRouter LoginFlow)) (s : Ref)
    (calls : List Call) :
    (∀ front, front <+: calls → (after env router s front).times ≤ 1) ↔
      Along (call env s) (fun w c => w.srv.Spares env s c) { srv := Server.initial env router }
        calls := by
  have preserved : ∀ (w : Torn) c, w.Counted s → (w.call env s c).Counted s :=
    fun w c counted => counted.step c
  have sharp : ∀ (w : Torn) c, w.Counted s → w.times ≤ 1 →
      ((w.call env s c).times ≤ 1 ↔ w.srv.Spares env s c) :=
    fun w c counted once => counted.sharp once c
  exact throughout_iff preserved sharp (counted_initial env router s) (Nat.zero_le 1) calls

/-- A connection filed, closed by its read handler, and closed again by a sweep that had
collected it. -/
theorem closed_twice :
    ¬ (after (trialEnv 1) none 0
      [.acquire 0 7,
        .elsewhere { Server.initial (trialEnv 1) none with
          manager := (Server.initial (trialEnv 1) none).manager.insertSession 7 0 },
        .closeSession 0, .closeSession 0]).times ≤ 1 := by decide

end Torn

end GameServer.Kernel
