/-
# Kernel.Outgoing -- what a session sends in one use

`post_write` queues a message and starts the writing of the front when the queue was
empty; a completion takes the front off and starts the next.  A full queue loses its
front, the message being written, and the completion then takes off the next one.
Writes started in an earlier use of the object complete in any later one.

* `Upkeep.step` -- in use, the queue and its outstanding write are an `Outbox`;
* `outgoing_sound` -- so at most one write is out, and one exactly while the queue
  holds something; messages go out in the order posted, none twice; and once the queue
  has drained, what did not go out was dropped from it.
-/
import GameServer.Kernel.Closing
import GameServer.Kernel.Completion
import GameServer.Theory.Outbox

namespace GameServer.Kernel

set_option autoImplicit false

open Wire Dbmw Theory.Runs Theory.Outboxes

/-! ## The record of a use -/

namespace Server

/-- The outstanding writes of an object, of any use. -/
def writesOf (srv : Server) (s : Ref) : List WriteOp := srv.writes.filter (·.session = s)

/-- The outstanding writes of the present use. -/
def outstanding (srv : Server) (s : Ref) : List WriteOp :=
  (srv.writesOf s).filter (·.strand = (srv.obj s).strand)

/-- The messages the call posts to the object. -/
def postedBy (s : Ref) : Call → List String
  | .write t message => if t = s then [message] else []
  | _ => []

/-- The drops of `enqueue_write` in the call. -/
def dropped (env : Env) (srv : Server) (s : Ref) : Call → Nat
  | .write t _ =>
      if t = s ∧ env.config.maxWriteQueueSize ≤ (srv.obj s).writeQueue.length then 1 else 0
  | _ => 0

/-- The writes of the object that were out before the call and are not completed
by it. -/
def lasting (srv : Server) (s : Ref) : Call → List WriteOp
  | .writeDone op _ => (srv.writesOf s).erase op
  | _ => srv.writesOf s

/-- The messages of the object that the call gives to `async_write`. -/
def given (env : Env) (srv : Server) (s : Ref) (c : Call) : List String :=
  (((srv.call env c).writesOf s).drop (srv.lasting s c).length).map (·.message)

end Server

/-- A server and, of one object, what was posted to it, given to `async_write` and
dropped since it was last handed out. -/
structure Outgoing where
  srv : Server
  /-- The generation the object was last handed out in. -/
  born : Option Nat := none
  posted : List String := []
  given : List String := []
  drops : Nat := 0

namespace Outgoing

def call (env : Env) (s : Ref) (u : Outgoing) (c : Call) : Outgoing :=
  let srv := u.srv.call env c
  if u.srv.HandsOut s c then { srv, born := some (srv.obj s).generation }
  else
    { srv
      born := u.born
      posted := u.posted ++ Server.postedBy s c
      given := u.given ++ u.srv.given env s c
      drops := u.drops + u.srv.dropped env s c }

/-- The object was handed out and has not been closed, or cleaned, since. -/
def InUse (u : Outgoing) (s : Ref) : Prop := u.born = some (u.srv.obj s).generation

instance (u : Outgoing) (s : Ref) : Decidable (u.InUse s) := inferInstanceAs (Decidable (_ = _))

/-- A new server after calls, with the record of `s`. -/
def after (env : Env) (router : Option (DBmwRouter LoginFlow)) (s : Ref) (calls : List Call) :
    Outgoing :=
  run (call env s) { srv := Server.initial env router } calls

/-- The queue of the object and its outstanding write, with the record of its use. -/
def outbox (u : Outgoing) (s : Ref) : Outbox String where
  queue := (u.srv.obj s).writeQueue
  flying := (u.srv.outstanding s).head?.map (·.message)
  posted := u.posted
  written := u.given
  drops := u.drops

end Outgoing

/-! ## Objects that are not written to -/

namespace Session

/-- As far as writing goes, the object is as it was. -/
structure Steady (x y : Session) : Prop where
  strand : y.strand = x.strand
  generation : y.generation = x.generation
  queue : y.writeQueue = x.writeQueue
  life : y.life = x.life
  state : x.state ≠ .closed → y.state ≠ .closed

/-- The object is as it was, or of a later generation. -/
def Passed (x y : Session) : Prop :=
  y.strand = x.strand ∧ (x.generation < y.generation ∨ x.Steady y)

variable {x y z : Session}

theorem Steady.refl (x : Session) : x.Steady x := ⟨rfl, rfl, rfl, rfl, id⟩

theorem Steady.passed (steady : x.Steady y) : x.Passed y := ⟨steady.strand, .inr steady⟩

theorem Passed.refl (x : Session) : x.Passed x := (Steady.refl x).passed

theorem Passed.generation (passed : x.Passed y) : x.generation ≤ y.generation := by
  rcases passed.2 with later | steady
  · exact Nat.le_of_lt later
  · exact Nat.le_of_eq steady.generation.symm

theorem Passed.trans (first : x.Passed y) (second : y.Passed z) : x.Passed z := by
  refine ⟨second.1.trans first.1, ?_⟩
  have grown := first.generation
  have grown' := second.generation
  rcases first.2 with later | steady
  · exact .inl (Nat.lt_of_lt_of_le later grown')
  · rcases second.2 with later | steady'
    · exact .inl (Nat.lt_of_le_of_lt grown later)
    · exact .inr ⟨steady'.strand.trans steady.strand, steady'.generation.trans steady.generation,
        steady'.queue.trans steady.queue, steady'.life.trans steady.life,
        fun live => steady'.state (steady.state live)⟩

theorem Removed.passed (removed : x.Removed y) : x.Passed y := by
  obtain ⟨zoneId, rfl | rfl | rfl⟩ := removed
  · exact .refl _
  · exact Steady.passed ⟨rfl, rfl, rfl, rfl, id⟩
  · exact ⟨rfl, .inl (Nat.lt_succ_self _)⟩

/-- A closed object is cleaned, into a later generation. -/
theorem Removed.cleaned (removed : x.shutDown.Removed y) :
    y.cleanup.strand = x.strand ∧ x.generation < y.cleanup.generation := by
  obtain ⟨strand, -⟩ := removed.passed
  have grown : x.generation ≤ y.generation := removed.passed.generation
  exact ⟨strand, Nat.lt_succ_of_le grown⟩

end Session

namespace Server

variable {env : Env} {srv srv' srv'' : Server} {floor : Nat} {s t : Ref}

/-- Nothing was written to the object. -/
def Aloof (s : Ref) (srv srv' : Server) : Prop :=
  (srv.obj s).Passed (srv'.obj s) ∧ srv'.writesOf s = srv.writesOf s

theorem Aloof.trans (first : Aloof s srv srv') (second : Aloof s srv' srv'') :
    Aloof s srv srv'' := ⟨first.1.trans second.1, second.2.trans first.2⟩

theorem aloof_modify (srv : Server) (f : Session → Session) (other : t ≠ s) :
    Aloof s srv (srv.modify t f) := by
  refine ⟨?_, rfl⟩
  rw [modify_obj_other _ _ (Ne.symm other)]
  exact .refl _

theorem closeSession_writes (srv : Server) (s : Ref) : (srv.closeSession s).writes = srv.writes := by
  obtain ⟨obj, pool, manager, zones, endpoints, closed⟩ := closeSession_confined srv s
  rw [closed]

theorem aloof_closeSession (s : Ref) (srv : Server) (t : Ref) :
    Aloof s srv (srv.closeSession t) := by
  refine ⟨?_, by rw [writesOf, closeSession_writes, ← writesOf]⟩
  refine closeSession_each Session.Passed ?_ ?_ srv t s
  · intro x y removed
    exact removed.passed
  · intro x y removed
    exact ⟨removed.cleaned.1, .inl removed.cleaned.2⟩

/-- A close of the object itself ends its use. -/
theorem closeSession_generation (closable : (srv.obj s).Closable) :
    (srv.obj s).generation < ((srv.closeSession s).obj s).generation := by
  obtain ⟨⟨y, removed, closed⟩, -⟩ := closeSession_obj closable
  rw [closed]
  exact removed.cleaned.2

theorem doWriteQueue_eq (srv : Server) (s : Ref) :
    srv.doWriteQueue s =
      if (srv.obj s).state = .closed then srv
      else match (srv.obj s).writeQueue with
        | [] => srv.modify s fun x => { x with writeInProgress := false }
        | message :: _ =>
            { srv with writes := srv.writes ++
              [⟨s, (srv.obj s).strand, (srv.obj s).generation, message⟩] } := by
  have same : ∀ srv : Server, srv.modify s (fun _ => srv.obj s) = srv := by
    intro srv
    rw [modify, Function.update_eq_self]
  by_cases closed : (srv.obj s).state = .closed
  · have idle : (srv.obj s).doWriteQueue = (srv.obj s, none) := if_pos closed
    simp only [doWriteQueue, idle, if_pos closed, same]
  · rcases queued : (srv.obj s).writeQueue with _ | ⟨message, rest⟩
    · have drained : (srv.obj s).doWriteQueue =
          ({ srv.obj s with writeInProgress := false }, none) := by
        simp only [Session.doWriteQueue, if_neg closed, queued]
      simp only [doWriteQueue, drained, if_neg closed]
      rfl
    · have front : (srv.obj s).doWriteQueue = (srv.obj s, some message) := by
        simp only [Session.doWriteQueue, if_neg closed, queued]
      simp only [doWriteQueue, front, if_neg closed, same]

theorem aloof_doWriteQueue (srv : Server) (other : t ≠ s) : Aloof s srv (srv.doWriteQueue t) := by
  rw [doWriteQueue_eq]
  split
  · exact ⟨.refl _, rfl⟩
  · split
    · exact aloof_modify srv _ other
    · refine ⟨.refl _, ?_⟩
      simp [writesOf, List.filter_append, other]

theorem aloof_writeNow (srv : Server) (message : String) (other : t ≠ s) :
    Aloof s srv (srv.writeNow env t message) := by
  have queued := aloof_modify srv (fun _ => ((srv.obj t).enqueueWrite env.config message).1) other
  refine writeNow_keeps (P := Aloof s srv) message queued (fun _ => ?_) fun srv' aloof => ?_
  · exact queued.trans (aloof_closeSession s (Server.note _ (.close t)) t)
  · exact aloof.trans ((aloof_modify srv' _ other).trans (aloof_doWriteQueue _ other))

/-! ## Writes of earlier uses -/

/-- The object is of generation `floor` or later, no write is of a later use than the
object's, and those of an earlier one are of an earlier generation. -/
structure Dated (srv : Server) (floor : Nat) (s : Ref) : Prop where
  floor : floor ≤ (srv.obj s).generation
  writes : ∀ op ∈ srv.writesOf s, op.strand ≤ (srv.obj s).strand ∧
    op.generation ≤ (srv.obj s).generation ∧
    (op.strand < (srv.obj s).strand → op.generation < (srv.obj s).generation)

/-- A new use is of a new generation. -/
def Aged (x y : Session) : Prop :=
  x.strand ≤ y.strand ∧ x.generation ≤ y.generation ∧
    (x.strand < y.strand → x.generation < y.generation)

theorem aged_passed {x y : Session} (passed : x.Passed y) : Aged x y :=
  ⟨Nat.le_of_eq passed.1.symm, passed.generation,
    fun later => absurd passed.1.symm (Nat.ne_of_lt later)⟩

theorem Dated.aged (dated : srv.Dated floor s) (fewer : srv'.writesOf s ⊆ srv.writesOf s)
    (aged : Aged (srv.obj s) (srv'.obj s)) : srv'.Dated floor s := by
  obtain ⟨strand', generation', newer⟩ := aged
  refine ⟨Nat.le_trans dated.floor generation', fun op member => ?_⟩
  obtain ⟨strand, generation, older⟩ := dated.writes op (fewer member)
  refine ⟨Nat.le_trans strand strand', Nat.le_trans generation generation', fun earlier => ?_⟩
  rcases Nat.lt_or_eq_of_le strand' with renewed | same
  · exact Nat.lt_of_le_of_lt generation (newer renewed)
  · exact Nat.lt_of_lt_of_le (older (same ▸ earlier)) generation'

theorem Dated.aloof (dated : srv.Dated floor s) (beside : Aloof s srv srv') : srv'.Dated floor s :=
  dated.aged (fun _ member => beside.2 ▸ member) (aged_passed beside.1)

theorem Dated.modify (dated : srv.Dated floor s) (f : Session → Session)
    (strand : (f (srv.obj s)).strand = (srv.obj s).strand)
    (generation : (f (srv.obj s)).generation = (srv.obj s).generation) :
    (srv.modify s f).Dated floor s := by
  refine dated.aged (fun _ member => member) ?_
  rw [modify_obj_self]
  exact ⟨Nat.le_of_eq strand.symm, Nat.le_of_eq generation.symm,
    fun later => absurd strand.symm (Nat.ne_of_lt later)⟩

/-- A write is started in the present use. -/
theorem Dated.doWriteQueue (dated : srv.Dated floor s) : (srv.doWriteQueue s).Dated floor s := by
  rw [doWriteQueue_eq]
  split
  · exact dated
  · split
    · exact dated.modify _ rfl rfl
    · refine ⟨dated.floor, fun op member => ?_⟩
      rw [writesOf, List.filter_append] at member
      rcases List.mem_append.mp member with before | started
      · exact dated.writes op before
      · obtain rfl := List.mem_singleton.mp (List.mem_of_mem_filter started)
        exact ⟨Nat.le_refl _, Nat.le_refl _, fun earlier => absurd earlier (Nat.lt_irrefl _)⟩

theorem enqueueWrite_same (x : Session) (config : Config) (message : String) :
    (x.enqueueWrite config message).1.strand = x.strand ∧
      (x.enqueueWrite config message).1.generation = x.generation := by
  obtain ⟨queue, count, entered⟩ := x.enqueueWrite_eq config message
  rw [entered]
  exact ⟨rfl, rfl⟩

theorem Dated.writeNow (dated : srv.Dated floor s) (message : String) :
    (srv.writeNow env s message).Dated floor s := by
  have same := enqueueWrite_same (srv.obj s) env.config message
  have queued := dated.modify (fun _ => ((srv.obj s).enqueueWrite env.config message).1)
    same.1 same.2
  refine writeNow_keeps (P := (Dated · floor s)) message queued (fun _ => ?_) fun srv' dated => ?_
  · exact queued.aloof (aloof_closeSession s (Server.note _ (.close s)) s)
  · exact (dated.modify (fun x => { x with writeInProgress := true }) rfl rfl).doWriteQueue

theorem Dated.writeDone (dated : srv.Dated floor s) (op : WriteOp) (failed : Bool) :
    (srv.writeDone op failed).Dated floor s := by
  have landed : ({ srv with writes := srv.writes.erase op } : Server).Dated floor s :=
    dated.aged (fun _ member => (List.erase_sublist.filter _).subset member)
      (aged_passed (.refl _))
  refine writeDone_keeps (P := (Dated · floor s)) landed (fun _ _ => ?_) ?_
  · exact landed.aloof (aloof_closeSession s (Server.note _ (.close op.session)) op.session)
  · by_cases here : op.session = s
    · subst here
      have popped := landed.modify (fun x => { x with writeQueue := x.writeQueue.tail }) rfl rfl
      exact popped.doWriteQueue
    · exact (landed.aloof (aloof_modify _ _ here)).aloof (aloof_doWriteQueue _ here)

theorem aloof_acquire (srv : Server) (now : Time) (sessionId : Int) (other : t ≠ s) :
    Aloof s srv (srv.acquire now sessionId t) := aloof_modify srv _ other

theorem aloof_assign (srv : Server) (zoneId : Int) :
    Aloof s srv (srv.assignSessionToZone env t zoneId) := by
  rcases assignSessionToZone_cases env srv t zoneId with ⟨-, same⟩ | ⟨zone, -, -, -, enters⟩
  · rw [same]
    exact ⟨.refl _, rfl⟩
  · rw [enters]
    refine ⟨?_, rfl⟩
    by_cases here : s = t
    · subst here
      rw [modify_obj_self]
      exact Session.Steady.passed ⟨rfl, rfl, rfl, rfl, id⟩
    · rw [modify_obj_other _ _ here]
      exact .refl _

theorem aloof_leaveZone (srv : Server) (t : Ref) : Aloof s srv (srv.leaveZone t) := by
  obtain ⟨obj, pool, manager, zones, endpoints, left⟩ := leaveZone_confined srv t
  refine ⟨?_, by rw [left]; rfl⟩
  rw [leaveZone_obj]
  by_cases here : s = t
  · subst here
    rw [Function.update_self]
    split
    · exact Session.Steady.passed ⟨rfl, rfl, rfl, rfl, id⟩
    · exact .refl _
  · rw [Function.update_of_ne here]
    exact .refl _

theorem aloof_elsewhere (srv other : Server) : Aloof s srv (srv.elsewhere other) := by
  refine ⟨Session.Steady.passed ⟨rfl, rfl, rfl, rfl, fun live => ?_⟩, rfl⟩
  show (if (other.obj s).state = .closed then (srv.obj s).state else (other.obj s).state) ≠ .closed
  split
  · exact live
  · assumption

theorem Dated.call (dated : srv.Dated floor s) (c : Call) : (srv.call env c).Dated floor s := by
  cases c with
  | acquire now sessionId =>
      simp only [Server.call]
      split
      · exact dated
      · rename_i t next
        by_cases here : t = s
        · subst here
          refine dated.aged (fun _ member => member) ?_
          obtain ⟨strand, generation, -⟩ := handOut_fresh (srv.obj t) now sessionId
          rw [acquire_obj, Aged, strand, generation]
          omega
        · exact dated.aloof (aloof_acquire srv now sessionId here)
  | closeSession t => exact dated.aloof (aloof_closeSession s srv t)
  | write t message =>
      by_cases here : t = s
      · subst here
        exact dated.writeNow message
      · exact dated.aloof (aloof_writeNow srv message here)
  | writeDone op failed =>
      simp only [Server.call]
      split
      · exact dated.writeDone op failed
      · exact dated
  | assignSessionToZone t zoneId => exact dated.aloof (aloof_assign srv zoneId)
  | leaveZone t => exact dated.aloof (aloof_leaveZone srv t)
  | elsewhere other => exact dated.aloof (aloof_elsewhere srv other)

/-! ## One post, one completion -/

/-- The front of the queue, if any, is written. -/
theorem doWriteQueue_live (srv : Server) (s : Ref) (live : (srv.obj s).state ≠ .closed) :
    (∃ busy, (srv.doWriteQueue s).obj s = { srv.obj s with writeInProgress := busy }) ∧
      (srv.doWriteQueue s).writesOf s = srv.writesOf s ++
        ((srv.obj s).writeQueue.head?.map fun message =>
          (⟨s, (srv.obj s).strand, (srv.obj s).generation, message⟩ : WriteOp)).toList := by
  rw [doWriteQueue_eq, if_neg live]
  rcases queued : (srv.obj s).writeQueue with _ | ⟨message, rest⟩
  · exact ⟨⟨false, modify_obj_self ..⟩, (List.append_nil _).symm⟩
  · exact ⟨⟨(srv.obj s).writeInProgress, rfl⟩, by simp [writesOf, List.filter_append]⟩

/-- A post to an empty queue is written at once. -/
theorem writeNow_empty (room : 1 ≤ env.config.maxWriteQueueSize) (message : String)
    (live : (srv.obj s).state ≠ .closed) (empty : (srv.obj s).writeQueue = []) :
    (∃ busy, (srv.writeNow env s message).obj s =
        { srv.obj s with
          writeQueueOverflowCount := 0, writeQueue := [message], writeInProgress := busy }) ∧
      (srv.writeNow env s message).writesOf s = srv.writesOf s ++
        [⟨s, (srv.obj s).strand, (srv.obj s).generation, message⟩] := by
  have queued : (srv.obj s).enqueueWrite env.config message =
      ({ srv.obj s with writeQueueOverflowCount := 0, writeQueue := [message] }, false) := by
    rw [Session.enqueueWrite_appends message (by rw [empty]; exact room), empty]
    rfl
  simp only [writeNow, queued, empty, List.isEmpty_nil, if_true, Bool.false_eq_true, if_false]
  have started := doWriteQueue_live ((srv.modify s fun _ => { srv.obj s with
    writeQueueOverflowCount := 0, writeQueue := [message] }).modify s fun x =>
      { x with writeInProgress := true }) s (by simpa using live)
  simp only [modify_obj_self] at started
  obtain ⟨⟨busy, obj⟩, writes⟩ := started
  exact ⟨⟨busy, obj⟩, writes⟩

/-- A post behind others waits. -/
theorem writeNow_behind {front : String} {rest : List String} (message : String)
    (queued : (srv.obj s).writeQueue = front :: rest)
    (fits : ¬ env.config.maxWriteQueueSize ≤ rest.length + 1) :
    (srv.writeNow env s message).obj s =
        { srv.obj s with
          writeQueueOverflowCount := 0, writeQueue := front :: rest ++ [message] } ∧
      (srv.writeNow env s message).writesOf s = srv.writesOf s := by
  have room : (srv.obj s).writeQueue.length < env.config.maxWriteQueueSize := by
    rw [queued]
    exact Nat.not_le.mp fits
  simp only [writeNow, Session.enqueueWrite_appends message room, queued, List.isEmpty_cons,
    Bool.false_eq_true, if_false]
  exact ⟨modify_obj_self .., rfl⟩

/-- A post to a full queue drops the front, and closes the session at the limit. -/
theorem writeNow_full {front : String} {rest : List String} (message : String)
    (closable : (srv.obj s).Closable) (queued : (srv.obj s).writeQueue = front :: rest)
    (full : env.config.maxWriteQueueSize ≤ rest.length + 1) :
    ((srv.writeNow env s message).obj s =
        { srv.obj s with
          writeQueue := rest ++ [message]
          writeQueueOverflowCount := (srv.obj s).writeQueueOverflowCount + 1 } ∧
      (srv.writeNow env s message).writesOf s = srv.writesOf s) ∨
      (srv.obj s).generation < ((srv.writeNow env s message).obj s).generation := by
  have full : env.config.maxWriteQueueSize ≤ (srv.obj s).writeQueue.length := by
    rw [queued]
    exact full
  by_cases limit : env.config.writeQueueOverflowLimit ≤ (srv.obj s).writeQueueOverflowCount + 1
  · right
    let dropped : Session := { srv.obj s with
      writeQueue := rest
      writeQueueOverflowCount := (srv.obj s).writeQueueOverflowCount + 1 }
    have same : ((srv.modify s fun _ => dropped).note (.close s)).obj s = dropped :=
      modify_obj_self srv s fun _ => dropped
    have open' : (((srv.modify s fun _ => dropped).note (.close s)).obj s).Closable := by
      rw [same]
      exact closable
    have later := closeSession_generation open'
    rw [same] at later
    simp only [writeNow, Session.enqueueWrite_overflows message full limit, queued,
      List.isEmpty_cons, Bool.false_eq_true, if_false, if_true, List.tail_cons]
    exact later
  · left
    have below := Nat.not_le.mp limit
    simp only [writeNow, Session.enqueueWrite_drops message full below, queued, List.isEmpty_cons,
      Bool.false_eq_true, if_false, List.tail_cons]
    exact ⟨modify_obj_self .., rfl⟩

/-- A completion in its own use, after which the next front, if any, is written. -/
theorem writeDone_current {op : WriteOp} (live : (srv.obj s).state ≠ .closed) (own : op.session = s)
    (current : op.generation = (srv.obj s).generation) :
    (∃ busy, (srv.writeDone op false).obj s =
        { srv.obj s with writeQueue := (srv.obj s).writeQueue.tail, writeInProgress := busy }) ∧
      (srv.writeDone op false).writesOf s = (srv.writesOf s).erase op ++
        ((srv.obj s).writeQueue.tail.head?.map fun message =>
          (⟨s, (srv.obj s).strand, (srv.obj s).generation, message⟩ : WriteOp)).toList := by
  subst own
  have landed : ({ srv with writes := srv.writes.erase op } : Server).writesOf op.session =
      (srv.writesOf op.session).erase op := (List.erase_filter ..).symm
  have met : ¬ op.generation ≠ (srv.obj op.session).generation := fun other => other current
  simp only [writeDone, if_neg met, Bool.false_eq_true, if_false]
  have started := doWriteQueue_live
    (({ srv with writes := srv.writes.erase op } : Server).modify op.session fun x =>
      { x with writeQueue := x.writeQueue.tail }) op.session (by simpa using live)
  simp only [modify_obj_self] at started
  obtain ⟨⟨busy, obj⟩, writes⟩ := started
  exact ⟨⟨busy, obj⟩, writes.trans (congrArg (· ++ _) landed)⟩

/-- A completion of a write of another object. -/
theorem aloof_writeDone (srv : Server) {op : WriteOp} (failed : Bool) (other : op.session ≠ s) :
    Aloof s srv (srv.writeDone op failed) := by
  have landed : Aloof s srv { srv with writes := srv.writes.erase op } := by
    refine ⟨.refl _, (List.erase_filter ..).symm.trans (List.erase_of_not_mem fun listed => ?_)⟩
    exact other (by simpa using (List.mem_filter.mp listed).2)
  refine writeDone_keeps (P := Aloof s srv) landed (fun _ _ => ?_) ?_
  · exact landed.trans (aloof_closeSession s (Server.note _ (.close op.session)) op.session)
  · exact landed.trans ((aloof_modify _ _ other).trans (aloof_doWriteQueue _ other))

end Server

/-! ## A use, step by step -/

namespace Outgoing

variable {env : Env} {u u' : Outgoing} {s : Ref}

/-- In use: the object is open to posts, its one write is of its generation, and
queue and record are sound. -/
structure Serving (u : Outgoing) (s : Ref) : Prop where
  life : (u.srv.obj s).life = .idle
  live : (u.srv.obj s).state ≠ .closed
  out : u.srv.outstanding s = ((u.outbox s).flying.map fun message =>
    ⟨s, (u.srv.obj s).strand, (u.srv.obj s).generation, message⟩).toList
  sound : (u.outbox s).Sound

structure Upkeep (u : Outgoing) (s : Ref) : Prop where
  dated : u.srv.Dated (u.born.getD 0) s
  serving : u.InUse s → u.Serving s

theorem Serving.closable (serving : u.Serving s) : (u.srv.obj s).Closable := .inr serving.life

/-- What goes on beside the object leaves its use as it is. -/
theorem Serving.aloof (serving : u.Serving s) (beside : Server.Aloof s u.srv u'.srv)
    (same : (u'.srv.obj s).generation = (u.srv.obj s).generation) (posted : u'.posted = u.posted)
    (given : u'.given = u.given) (drops : u'.drops = u.drops) : u'.Serving s := by
  obtain ⟨⟨strand, passed⟩, writes⟩ := beside
  obtain steady := passed.resolve_left fun later => absurd same.symm (Nat.ne_of_lt later)
  have out : u'.srv.outstanding s = u.srv.outstanding s := by
    rw [Server.outstanding, Server.outstanding, writes, strand]
  have box : u'.outbox s = u.outbox s := by
    rw [outbox, outbox, steady.queue, out, posted, given, drops]
  refine ⟨steady.life.trans serving.life, steady.state serving.live, ?_, box ▸ serving.sound⟩
  rw [out, box, strand, same]
  exact serving.out

/-- The outstanding write, if any, is the only one. -/
theorem Serving.outstanding_cases (serving : u.Serving s) :
    (u.srv.outstanding s = [] ∧ (u.srv.obj s).writeQueue = []) ∨
      ∃ message, u.srv.outstanding s =
        [⟨s, (u.srv.obj s).strand, (u.srv.obj s).generation, message⟩] ∧
        (u.srv.obj s).writeQueue ≠ [] := by
  have out := serving.out
  have busy := serving.sound.flying
  rcases flying : (u.outbox s).flying with _ | message
  · left
    rw [flying] at out busy
    exact ⟨out, by simpa [outbox] using busy⟩
  · right
    rw [flying] at out busy
    exact ⟨message, out, by simpa [outbox] using busy⟩

/-- Completions of stale writes aside, a write that lands in a use is its
outstanding one. -/
theorem Upkeep.landing (upkeep : u.Upkeep s) (serving : u.Serving s) {op : WriteOp}
    (member : op ∈ u.srv.writes) (own : op.session = s)
    (current : op.generation = (u.srv.obj s).generation) : u.srv.outstanding s = [op] := by
  have listed : op ∈ u.srv.writesOf s := List.mem_filter.mpr ⟨member, by simpa using own⟩
  obtain ⟨strand, -, older⟩ := upkeep.dated.writes op listed
  have present : op.strand = (u.srv.obj s).strand := by
    rcases Nat.lt_or_eq_of_le strand with earlier | same
    · exact absurd current (Nat.ne_of_lt (older earlier))
    · exact same
  have out : op ∈ u.srv.outstanding s := List.mem_filter.mpr ⟨listed, by simpa using present⟩
  rcases serving.outstanding_cases with ⟨none, -⟩ | ⟨message, one, -⟩
  · rw [none] at out
    cases out
  · rw [one] at out ⊢
    rw [List.mem_singleton.mp out]

/-- A call that has nothing to do with the writes of the object. -/
theorem Serving.quiet (serving : u.Serving s) {c : Call} (keeps : ¬ u.srv.HandsOut s c)
    (beside : Server.Aloof s u.srv (u.srv.call env c))
    (same : ((u.srv.call env c).obj s).generation = (u.srv.obj s).generation)
    (posted : Server.postedBy s c = []) (lasting : u.srv.lasting s c = u.srv.writesOf s)
    (drops : u.srv.dropped env s c = 0) : (u.call env s c).Serving s := by
  have given : u.srv.given env s c = [] := by
    rw [Server.given, lasting, beside.2, List.drop_length, List.map_nil]
  rw [call, if_neg keeps, posted, given, drops]
  refine serving.aloof beside same ?_ ?_ rfl
  · exact List.append_nil _
  · exact List.append_nil _

/-- Whatever the queue, the outstanding write and the record make up. -/
theorem serving_of_outbox {o : Outbox String} (sound : o.Sound)
    (life : (u.srv.obj s).life = .idle) (live : (u.srv.obj s).state ≠ .closed)
    (queue : (u.srv.obj s).writeQueue = o.queue)
    (out : u.srv.outstanding s = (o.flying.map fun message =>
      (⟨s, (u.srv.obj s).strand, (u.srv.obj s).generation, message⟩ : WriteOp)).toList)
    (posted : u.posted = o.posted) (given : u.given = o.written) (drops : u.drops = o.drops) :
    u.Serving s := by
  have flying : (u.srv.outstanding s).head?.map (·.message) = o.flying := by
    rw [out]
    cases o.flying <;> rfl
  have box : u.outbox s = o := by
    rw [outbox, queue, flying, posted, given, drops]
  exact ⟨life, live, box ▸ out, box ▸ sound⟩

/-- What the call gives to `async_write` are the writes it starts. -/
theorem given_started (srv : Server) (c : Call) {started : List WriteOp}
    (writes : (srv.call env c).writesOf s = srv.lasting s c ++ started) :
    srv.given env s c = started.map (·.message) := by
  rw [Server.given, writes, List.drop_left]

theorem given_none (srv : Server) (c : Call)
    (writes : (srv.call env c).writesOf s = srv.lasting s c) : srv.given env s c = [] :=
  given_started srv c (writes.trans (List.append_nil _).symm)

theorem outstanding_started {srv srv' : Server} {started : List WriteOp} {strand : Nat}
    (writes : srv'.writesOf s = srv.writesOf s ++ started) (present : (srv'.obj s).strand = strand) :
    srv'.outstanding s = (srv.writesOf s).filter (·.strand = strand) ++
      started.filter (·.strand = strand) := by
  rw [Server.outstanding, writes, present, List.filter_append]

/-- A post behind others changes the queue, the overflow count and the record only. -/
theorem Serving.waits (serving : u.Serving s) {message : String} {queue : List String}
    {count drops : Nat}
    (sound : Outbox.Sound ⟨queue, (u.outbox s).flying, u.posted ++ [message], u.given,
      u.drops + drops⟩)
    (obj : (u.srv.writeNow env s message).obj s =
      { u.srv.obj s with writeQueue := queue, writeQueueOverflowCount := count })
    (writes : (u.srv.writeNow env s message).writesOf s = u.srv.writesOf s)
    (dropped : u.srv.dropped env s (.write s message) = drops) :
    (u.call env s (.write s message)).Serving s := by
  have keeps : ¬ u.srv.HandsOut s (.write s message) := id
  have posted : Server.postedBy s (.write s message) = [message] := if_pos rfl
  have given := given_none u.srv (.write s message) writes
  rw [call, if_neg keeps, posted]
  refine serving_of_outbox sound ?_ ?_ ?_ ?_ rfl ?_ ?_
  · exact (congrArg Session.life obj).trans serving.life
  · exact fun closed => serving.live ((congrArg Session.state obj).symm.trans closed)
  · exact congrArg Session.writeQueue obj
  · have out := serving.out
    simpa [Server.outstanding, Server.call, writes, obj] using out
  · rw [given]
    exact List.append_nil _
  · exact congrArg (u.drops + ·) dropped

/-- **A post.** -/
theorem Serving.write (room : 1 ≤ env.config.maxWriteQueueSize) (serving : u.Serving s)
    (message : String) (same : ((u.srv.call env (.write s message)).obj s).generation =
      (u.srv.obj s).generation) : (u.call env s (.write s message)).Serving s := by
  have keeps : ¬ u.srv.HandsOut s (.write s message) := id
  have posted : Server.postedBy s (.write s message) = [message] := if_pos rfl
  have sound := serving.sound.post env.config.maxWriteQueueSize message
  rcases queued : (u.srv.obj s).writeQueue with _ | ⟨front, rest⟩
  · -- the message is written at once
    have idle : u.srv.outstanding s = [] := by
      rcases serving.outstanding_cases with ⟨idle, -⟩ | ⟨_, _, busy⟩
      · exact idle
      · exact absurd queued busy
    have fits : ¬ (s = s ∧ env.config.maxWriteQueueSize ≤ (u.srv.obj s).writeQueue.length) := by
      rw [queued]
      exact fun full => absurd (Nat.le_trans room full.2) (by decide)
    obtain ⟨⟨busy, obj⟩, writes⟩ := Server.writeNow_empty room message serving.live queued
    have given := given_started u.srv (.write s message) writes
    have box : (u.outbox s).post env.config.maxWriteQueueSize message =
        ⟨[message], some message, u.posted ++ [message], u.given ++ [message], u.drops⟩ := by
      simp only [Outbox.post, outbox, queued, Outbox.writeFront]
    rw [call, if_neg keeps, posted]
    refine serving_of_outbox (box ▸ sound) ?_ ?_ ?_ ?_ rfl ?_ ?_
    · exact (congrArg Session.life obj).trans serving.life
    · exact fun closed => serving.live ((congrArg Session.state obj).symm.trans closed)
    · exact congrArg Session.writeQueue obj
    · have out := outstanding_started writes (congrArg Session.strand obj)
      have old : (u.srv.writesOf s).filter (·.strand = (u.srv.obj s).strand) = [] := idle
      simp only [old, List.nil_append] at out
      simpa [Server.call, obj] using out
    · exact congrArg (u.given ++ ·) given
    · exact congrArg (u.drops + ·) (if_neg fits)
  · -- the message waits behind others
    have length : (u.srv.obj s).writeQueue.length = rest.length + 1 := by rw [queued]; rfl
    by_cases full : env.config.maxWriteQueueSize ≤ rest.length + 1
    · have box : (u.outbox s).post env.config.maxWriteQueueSize message =
          ⟨rest ++ [message], (u.outbox s).flying, u.posted ++ [message], u.given,
            u.drops + 1⟩ := by
        simp only [Outbox.post, outbox, queued, if_pos full]
      rcases Server.writeNow_full message serving.closable queued full with ⟨obj, writes⟩ | later
      · exact serving.waits (box ▸ sound) obj writes (if_pos ⟨rfl, length ▸ full⟩)
      · exact absurd same.symm (Nat.ne_of_lt later)
    · have box : (u.outbox s).post env.config.maxWriteQueueSize message =
          ⟨front :: rest ++ [message], (u.outbox s).flying, u.posted ++ [message], u.given,
            u.drops⟩ := by
        simp only [Outbox.post, outbox, queued, if_neg full]
      obtain ⟨obj, writes⟩ := Server.writeNow_behind message queued full
      have dropped : u.srv.dropped env s (.write s message) = 0 :=
        if_neg fun overflows => full (length ▸ overflows.2)
      exact serving.waits (box ▸ sound) obj writes dropped

/-- **A completion in its own use.** -/
theorem Serving.complete (serving : u.Serving s) {op : WriteOp} (member : op ∈ u.srv.writes)
    (own : op.session = s) (current : op.generation = (u.srv.obj s).generation)
    (only : u.srv.outstanding s = [op]) : (u.call env s (.writeDone op false)).Serving s := by
  have keeps : ¬ u.srv.HandsOut s (.writeDone op false) := id
  have called : u.srv.call env (.writeDone op false) = u.srv.writeDone op false := if_pos member
  obtain ⟨⟨busy, obj⟩, writes⟩ := Server.writeDone_current serving.live own current
  have given := given_started u.srv (.writeDone op false)
    ((congrArg (Server.writesOf · s) called).trans writes)
  have landed : ((u.srv.writesOf s).erase op).filter (·.strand = (u.srv.obj s).strand) = [] := by
    rw [← List.erase_filter]
    show (u.srv.outstanding s).erase op = []
    rw [only, List.erase_cons_head]
  rw [call, if_neg keeps, called]
  have box : (u.outbox s).complete =
      ⟨(u.srv.obj s).writeQueue.tail, (u.srv.obj s).writeQueue.tail.head?, u.posted,
        u.given ++ ((u.srv.obj s).writeQueue.tail.head?.toList), u.drops⟩ := by
    simp only [Outbox.complete, outbox, Outbox.writeFront]
    rcases (u.srv.obj s).writeQueue.tail with _ | ⟨message, rest⟩ <;> simp
  refine serving_of_outbox (box ▸ serving.sound.complete) ?_ ?_ ?_ ?_ ?_ ?_ rfl
  · exact (congrArg Session.life obj).trans serving.life
  · exact fun closed => serving.live ((congrArg Session.state obj).symm.trans closed)
  · exact congrArg Session.writeQueue obj
  · simp only [Server.outstanding, writes, obj, List.filter_append, landed, List.nil_append]
    rcases (u.srv.obj s).writeQueue.tail with _ | ⟨message, rest⟩ <;> simp
  · exact List.append_nil _
  · rw [given]
    rcases (u.srv.obj s).writeQueue.tail with _ | ⟨message, rest⟩ <;> simp

/-- **A stale completion**, which changes nothing. -/
theorem Serving.stale (serving : u.Serving s) {op : WriteOp} {failed : Bool}
    (member : op ∈ u.srv.writes) (own : op.session = s)
    (stale : op.generation ≠ (u.srv.obj s).generation) :
    (u.call env s (.writeDone op failed)).Serving s := by
  have keeps : ¬ u.srv.HandsOut s (.writeDone op failed) := id
  have ignored : u.srv.call env (.writeDone op failed) =
      { u.srv with writes := u.srv.writes.erase op } := by
    subst own
    simp only [Server.call, Server.writeDone, if_pos member, if_pos stale]
  have writes : (u.srv.call env (.writeDone op failed)).writesOf s =
      (u.srv.writesOf s).erase op := by
    rw [ignored]
    exact (List.erase_filter ..).symm
  have given := given_none u.srv (.writeDone op failed) writes
  have other : op ∉ u.srv.outstanding s := by
    rcases serving.outstanding_cases with ⟨none, -⟩ | ⟨message, one, -⟩
    · rw [none]
      exact List.not_mem_nil
    · rw [one, List.mem_singleton]
      rintro rfl
      exact stale rfl
  have out : (u.srv.call env (.writeDone op failed)).outstanding s = u.srv.outstanding s := by
    rw [Server.outstanding, writes, ignored, ← List.erase_filter]
    exact List.erase_of_not_mem other
  rw [call, if_neg keeps]
  refine serving_of_outbox serving.sound ?_ ?_ ?_ ?_ (List.append_nil _) ?_ rfl
  · rw [ignored]
    exact serving.life
  · rw [ignored]
    exact serving.live
  · rw [ignored]
    rfl
  · rw [out, ignored]
    exact serving.out
  · rw [given]
    exact List.append_nil _

/-- **A completion**, in the use or left over, that does not end the use. -/
theorem Upkeep.done (upkeep : u.Upkeep s) (serving : u.Serving s) {op : WriteOp} {failed : Bool}
    (member : op ∈ u.srv.writes) (own : op.session = s)
    (same : ((u.srv.call env (.writeDone op failed)).obj s).generation =
      (u.srv.obj s).generation) : (u.call env s (.writeDone op failed)).Serving s := by
  by_cases current : op.generation = (u.srv.obj s).generation
  · cases failed with
    | false =>
        exact serving.complete member own current (upkeep.landing serving member own current)
    | true =>
        -- the close of a failed write ends the use
        subst own
        have met : ¬ op.generation ≠ (u.srv.obj op.session).generation := fun other => other current
        have closed : u.srv.call env (.writeDone op true) =
            ({ u.srv with writes := u.srv.writes.erase op } : Server).close op.session := by
          simp only [Server.call, Server.writeDone, if_pos member, if_neg met, if_true]
        have open' : ((({ u.srv with writes := u.srv.writes.erase op } : Server).note
            (.close op.session)).obj op.session).Closable := serving.closable
        have later := Server.closeSession_generation open'
        rw [closed] at same
        exact absurd same.symm (Nat.ne_of_lt later)
  · exact serving.stale member own current

/-- A use begins with nothing queued and nothing written. -/
theorem Upkeep.handedOut (upkeep : u.Upkeep s) {c : Call} (hands : u.srv.HandsOut s c) :
    (u.call env s c).Serving s := by
  cases c with
  | acquire now sessionId =>
      have taken : u.srv.call env (.acquire now sessionId) = u.srv.acquire now sessionId s := by
        have next : u.srv.nextFree = some s := hands
        simp only [Server.call, next]
      obtain ⟨strand, generation, queue, life, state⟩ :=
        Server.handOut_fresh (u.srv.obj s) now sessionId
      rw [call, if_pos hands, taken]
      refine serving_of_outbox Outbox.sound_empty ?_ ?_ ?_ ?_ rfl rfl rfl
      · rwa [Server.acquire_obj]
      · rw [Server.acquire_obj, state]
        decide
      · rwa [Server.acquire_obj]
      · refine List.filter_eq_nil_iff.mpr fun op member => ?_
        obtain ⟨earlier, -⟩ := upkeep.dated.writes op member
        rw [Server.acquire_obj, strand]
        simp only [decide_eq_true_eq]
        omega
  | _ => cases hands

/-- **One call that does not end the use.** -/
theorem Upkeep.serves (room : 1 ≤ env.config.maxWriteQueueSize) (upkeep : u.Upkeep s)
    (serving : u.Serving s) {c : Call} (keeps : ¬ u.srv.HandsOut s c)
    (same : ((u.srv.call env c).obj s).generation = (u.srv.obj s).generation) :
    (u.call env s c).Serving s := by
  cases c with
  | acquire now sessionId =>
      refine serving.quiet keeps ?_ same rfl rfl rfl
      simp only [Server.call]
      split
      · exact ⟨.refl _, rfl⟩
      · rename_i t next
        have other : t ≠ s := by
          rintro rfl
          exact keeps next
        exact Server.aloof_acquire _ _ _ other
  | closeSession t =>
      exact serving.quiet keeps (Server.aloof_closeSession s u.srv t) same rfl rfl rfl
  | write t message =>
      by_cases here : t = s
      · subst here
        exact serving.write room message same
      · exact serving.quiet keeps (Server.aloof_writeNow _ _ here) same (if_neg here) rfl
          (if_neg fun overflows => here overflows.1)
  | writeDone op failed =>
      by_cases member : op ∈ u.srv.writes
      · by_cases own : op.session = s
        · exact upkeep.done serving member own same
        · have writes : (u.srv.writesOf s).erase op = u.srv.writesOf s :=
            List.erase_of_not_mem fun listed => own (by simpa using (List.mem_filter.mp listed).2)
          refine serving.quiet keeps ?_ same rfl writes rfl
          simp only [Server.call, if_pos member]
          exact Server.aloof_writeDone _ _ own
      · have writes : (u.srv.writesOf s).erase op = u.srv.writesOf s :=
          List.erase_of_not_mem fun listed => member (List.mem_of_mem_filter listed)
        refine serving.quiet keeps ?_ same rfl writes rfl
        simp only [Server.call, if_neg member]
        exact ⟨.refl _, rfl⟩
  | assignSessionToZone t zoneId =>
      exact serving.quiet keeps (Server.aloof_assign _ _) same rfl rfl rfl
  | leaveZone t => exact serving.quiet keeps (Server.aloof_leaveZone _ _) same rfl rfl rfl
  | elsewhere other => exact serving.quiet keeps (Server.aloof_elsewhere _ _) same rfl rfl rfl

/-- **One call.** -/
theorem Upkeep.step (room : 1 ≤ env.config.maxWriteQueueSize) (upkeep : u.Upkeep s) (c : Call) :
    (u.call env s c).Upkeep s := by
  have dated : (u.srv.call env c).Dated (u.born.getD 0) s := upkeep.dated.call c
  by_cases hands : u.srv.HandsOut s c
  · refine ⟨?_, fun _ => upkeep.handedOut hands⟩
    rw [call, if_pos hands]
    exact ⟨Nat.le_refl _, dated.writes⟩
  · have serving : (u.call env s c).InUse s → (u.call env s c).Serving s := by
      intro inUse
      rw [InUse, call, if_neg hands] at inUse
      -- the generation only grows, so the use was on before the call
      have before : ((u.srv.call env c).obj s).generation ≤ (u.srv.obj s).generation := by
        have floor := upkeep.dated.floor
        rwa [show u.born = _ from inUse] at floor
      have present : u.srv.Dated (u.srv.obj s).generation s := ⟨Nat.le_refl _, upkeep.dated.writes⟩
      have grown : (u.srv.obj s).generation ≤ ((u.srv.call env c).obj s).generation :=
        (present.call c).floor
      have same := Nat.le_antisymm before grown
      exact upkeep.serves room (upkeep.serving (inUse.trans (congrArg some same))) hands same
    refine ⟨?_, serving⟩
    rw [call, if_neg hands]
    exact dated

theorem upkeep_initial (env : Env) (router : Option (DBmwRouter LoginFlow)) (s : Ref) :
    Upkeep { srv := Server.initial env router } s :=
  ⟨⟨Nat.zero_le _, fun _ member => absurd member List.not_mem_nil⟩, nofun⟩

theorem upkeep_after {env : Env} (room : 1 ≤ env.config.maxWriteQueueSize)
    (router : Option (DBmwRouter LoginFlow)) (s : Ref) (calls : List Call) :
    (after env router s calls).Upkeep s := by
  have preserved : ∀ (u : Outgoing) c, u.Upkeep s → True → (u.call env s c).Upkeep s :=
    fun u c upkeep _ => upkeep.step room c
  exact run_invariant preserved (upkeep_initial env router s) (along_true _ calls)

/-- The record does not disturb the server. -/
theorem after_srv (env : Env) (router : Option (DBmwRouter LoginFlow)) (s : Ref)
    (calls : List Call) :
    (after env router s calls).srv = run (Server.call env) (Server.initial env router) calls := by
  have each (u : Outgoing) (c : Call) : (u.call env s c).srv = u.srv.call env c := by
    simp only [call]
    split <;> rfl
  have runs : ∀ u : Outgoing, (run (call env s) u calls).srv = run (Server.call env) u.srv calls := by
    induction calls with
    | nil => exact fun _ => rfl
    | cons c calls ih =>
        intro u
        rw [run_cons, run_cons, ← each u c]
        exact ih _
  exact runs _

/-- Every run of the server is the server of such a run. -/
theorem recorded (env : Env) (router : Option (DBmwRouter LoginFlow)) (s : Ref)
    (events : List Event) :
    ∃ calls, (after env router s calls).srv = Kernel.after env router events := by
  obtain ⟨calls, -, reached⟩ := Server.after_reach env router events
  exact ⟨calls, (after_srv env router s calls).trans reached⟩

/-- **What a session sends in one use**: at most one write is outstanding, and one
exactly while something is queued; what is given to `async_write` is a subsequence of
what was posted; and once the queue is empty, as many messages are missing as were
dropped. -/
theorem outgoing_sound (env : Env) (router : Option (DBmwRouter LoginFlow)) (s : Ref)
    (calls : List Call) (room : 1 ≤ env.config.maxWriteQueueSize)
    (inUse : (after env router s calls).InUse s) :
    let u := after env router s calls
    (u.srv.outstanding s).length ≤ 1 ∧
      ((u.srv.outstanding s).length = 1 ↔ (u.srv.obj s).writeQueue ≠ []) ∧
      u.given.Sublist u.posted ∧
      ((u.srv.obj s).writeQueue = [] → u.posted.length = u.given.length + u.drops) := by
  have serving := (upkeep_after room router s calls).serving inUse
  have sound := serving.sound
  refine ⟨?_, ?_, sound.sublist, sound.drained⟩
  · rcases serving.outstanding_cases with ⟨none, -⟩ | ⟨message, one, -⟩
    · rw [none]
      exact Nat.zero_le 1
    · rw [one]
      exact Nat.le_refl 1
  · rcases serving.outstanding_cases with ⟨none, empty⟩ | ⟨message, one, busy⟩
    · simp only [none, empty, List.length_nil]
      decide
    · simp only [one, List.length_singleton]
      exact ⟨fun _ => busy, fun _ => trivial⟩

/-- A queue of two: the third post drops the first, being written, and its completion
takes off the second. -/
def narrowEnv : Env :=
  { trialEnv 1 with config := { (trialEnv 1).config with maxWriteQueueSize := 2 } }

def threePosts : List Call :=
  [.acquire 0 7, .write 0 "a", .write 0 "b", .write 0 "c", .writeDone ⟨0, 1, 2, "a"⟩ false,
    .writeDone ⟨0, 1, 2, "c"⟩ false]

example : (after narrowEnv none 0 threePosts).posted = ["a", "b", "c"] ∧
    (after narrowEnv none 0 threePosts).given = ["a", "c"] := by decide

theorem outgoing_sound_narrow :
    let u := after narrowEnv none 0 threePosts
    (u.srv.outstanding 0).length ≤ 1 ∧
      ((u.srv.outstanding 0).length = 1 ↔ (u.srv.obj 0).writeQueue ≠ []) ∧
      u.given.Sublist u.posted ∧
      ((u.srv.obj 0).writeQueue = [] → u.posted.length = u.given.length + u.drops) :=
  outgoing_sound narrowEnv none 0 threePosts (by decide) (by decide)

end Outgoing

end GameServer.Kernel
