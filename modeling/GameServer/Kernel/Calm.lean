/-
# Kernel.Calm -- what leaves the reads of a use alone

Few of an object's events begin a read, end one or handle one; the rest may close the
object, write to it, name it, and leave the read loop of the use it serves.  So do the
read events of other uses, unless one of them strays into the loop: the handlers of an
earlier use work on the object as it is.

* `closing_calm` -- a close, seen from the reads;
* `perform_calm` -- which events are calm, for one use;
* `perform_stays` -- no event but the next use changes the strand or opens the socket.
-/
import Mathlib.Data.List.Count
import GameServer.Kernel.Isolation

namespace GameServer.Kernel

set_option autoImplicit false

open Wire Theory.Runs

namespace Session

/-- The object is open, for this use. -/
def Serves (x : Session) (k : Nat) : Prop := x.socketOpen = true ∧ x.strand = k

instance (x : Session) (k : Nat) : Decidable (x.Serves k) := inferInstanceAs (Decidable (_ ∧ _))

/-- As far as the use `k` goes, no read was begun: the queue stands, no flag was raised,
and the state is closed only if it was. -/
structure Settled (k : Nat) (x y : Session) : Prop where
  strand : y.strand = x.strand
  stays : y.socketOpen = true → x.socketOpen = true
  state : y.Serves k → y.state = .closed → x.state = .closed
  queue : y.Serves k → y.taskQueue = x.taskQueue
  running : y.Serves k → y.taskRunning = true → x.taskRunning = true
  pending : y.Serves k → y.readPending = true → x.readPending = true

namespace Settled

variable {k : Nat} {x y z : Session}

theorem refl (x : Session) : Settled k x x :=
  ⟨rfl, id, fun _ => id, fun _ => rfl, fun _ => id, fun _ => id⟩

theorem serves (settled : Settled k x y) (serves : y.Serves k) : x.Serves k :=
  ⟨settled.stays serves.1, settled.strand ▸ serves.2⟩

theorem trans (first : Settled k x y) (then_ : Settled k y z) : Settled k x z where
  strand := then_.strand.trans first.strand
  stays := fun still => first.stays (then_.stays still)
  state := fun still closed => first.state (then_.serves still) (then_.state still closed)
  queue := fun still => (then_.queue still).trans (first.queue (then_.serves still))
  running := fun still raised => first.running (then_.serves still) (then_.running still raised)
  pending := fun still raised => first.pending (then_.serves still) (then_.pending still raised)

/-- Nothing is asked of an object that does not serve the use. -/
theorem of_past (strand : y.strand = x.strand) (stays : y.socketOpen = true → x.socketOpen = true)
    (past : ¬ y.Serves k) : Settled k x y :=
  ⟨strand, stays, fun still => absurd still past, fun still => absurd still past,
    fun still => absurd still past, fun still => absurd still past⟩

theorem of_shut (strand : y.strand = x.strand) (shut : y.socketOpen = false) : Settled k x y := by
  have closed : ¬ y.socketOpen = true := by
    rw [shut]
    exact Bool.false_ne_true
  exact of_past strand (fun still => absurd still closed) fun serves => closed serves.1

end Settled

end Session

namespace Slot

/-! ## The places of a read -/

/-- The uses of the reads outstanding. -/
def readUses (slot : Slot) : List Nat := slot.reads.map (·.use)

/-- The uses whose strand a read task is posted to. -/
def taskUses (slot : Slot) : List Nat :=
  (slot.posts.filter fun p => p.job = .task .readSome).map (·.strand)

/-- The read handlers that a `close_session` under way goes back to. -/
def resuming (slot : Slot) : List Nat :=
  (slot.tails.filter fun t => t.after = .nextTask ∨ t.after = .loop).map (·.caller)

/-- A leftover of an earlier use begins a read: its `start`, its posted task, the end
of its read handler.  Or the task queued for one goes, with the `cleanup` that ends a
close or with the pool taking the object back. -/
def Strays (slot : Slot) : SlotEvent → Prop
  | .start use => use ≠ slot.session.strand ∧ slot.session.readPending = false
  | .post p => p.strand ≠ slot.session.strand ∧ p.job = .task .readSome
  | .handlerStep use _ =>
      use ≠ slot.session.strand ∧ slot.session.readPending = false ∧
        slot.session.msgBuf.extractMessage.1 = none ∧
        slot.session.msgBuf.extractMessage.2.lastClearByInvalidLength = false
  | .closeTail _ => slot.session.taskQueue ≠ []
  | .removal => slot.filed = true ∧ slot.free = false ∧ slot.session.taskQueue ≠ []
  | _ => False

instance (slot : Slot) : ∀ e, Decidable (slot.Strays e)
  | .start _ => inferInstanceAs (Decidable (_ ∧ _))
  | .post _ => inferInstanceAs (Decidable (_ ∧ _))
  | .handlerStep _ _ => inferInstanceAs (Decidable (_ ∧ _ ∧ _ ∧ _))
  | .closeTail _ => inferInstanceAs (Decidable (_ ≠ _))
  | .removal => inferInstanceAs (Decidable (_ ∧ _ ∧ _))
  | .acquire _ _ | .readDone _ _ | .readRest _ | .loginTimer _ _ | .writeDone _ _ | .postWrite _
  | .close | .login _ _ | .displaced => isFalse id

/-! ## Nothing begun -/

/-- No read of `k` was begun, ended, or handled. -/
structure Calm (k : Nat) (slot slot' : Slot) : Prop where
  session : slot.session.Settled k slot'.session
  starts : slot'.starts.count k = slot.starts.count k
  reads : slot'.readUses.count k = slot.readUses.count k
  tasks : slot'.taskUses.count k = slot.taskUses.count k
  handlers : slot'.handlers.count k = slot.handlers.count k
  rests : slot'.session.Serves k → slot'.session.taskQueue ≠ [] →
    k ∈ slot.rests → k ∈ slot'.rests
  resuming : slot'.resuming.count k = slot.resuming.count k

variable {k : Nat} {config : Config} {slot slot' slot'' : Slot}

theorem Calm.refl (slot : Slot) : Calm k slot slot :=
  ⟨.refl _, rfl, rfl, rfl, rfl, fun _ _ => id, rfl⟩

theorem Calm.trans (first : Calm k slot slot') (then_ : Calm k slot' slot'') :
    Calm k slot slot'' where
  session := first.session.trans then_.session
  starts := then_.starts.trans first.starts
  reads := then_.reads.trans first.reads
  tasks := then_.tasks.trans first.tasks
  handlers := then_.handlers.trans first.handlers
  rests := fun serves queued member =>
    then_.rests serves queued (first.rests (then_.session.serves serves)
      (then_.session.queue serves ▸ queued) member)
  resuming := then_.resuming.trans first.resuming

/-- A change of the session alone. -/
theorem session_calm {x : Session} (settled : slot.session.Settled k x) :
    Calm k slot { slot with session := x } := ⟨settled, rfl, rfl, rfl, rfl, fun _ _ => id, rfl⟩

theorem removed_strand (slot : Slot) :
    (slot.removed config).session.strand = slot.session.strand := by
  unfold removed
  split
  · dsimp only
    split <;> split <;> rfl
  · rfl

/-- A removal leaves every list but the flags of the pool and the manager. -/
theorem removed_lists (slot : Slot) :
    (slot.removed config).starts = slot.starts ∧ (slot.removed config).reads = slot.reads ∧
      (slot.removed config).posts = slot.posts ∧ (slot.removed config).handlers = slot.handlers ∧
      (slot.removed config).rests = slot.rests ∧ (slot.removed config).tails = slot.tails := by
  unfold removed
  split
  · dsimp only
    split <;> split <;> exact ⟨rfl, rfl, rfl, rfl, rfl, rfl⟩
  · exact ⟨rfl, rfl, rfl, rfl, rfl, rfl⟩

theorem removed_calm (settled : slot.session.Settled k (slot.removed config).session) :
    Calm k slot (slot.removed config) := by
  obtain ⟨starts, reads, posts, handlers, rests, tails⟩ := @removed_lists config slot
  refine ⟨settled, ?_, ?_, ?_, ?_, ?_, ?_⟩
  · rw [starts]
  · rw [readUses, reads, readUses]
  · rw [taskUses, posts, taskUses]
  · rw [handlers]
  · rw [rests]
    exact fun _ _ => id
  · rw [resuming, tails, resuming]

theorem doWriteQueue_calm (slot : Slot) : Calm k slot slot.doWriteQueue := by
  simp only [doWriteQueue, Session.doWriteQueue]
  split <;> rename_i written
  · split at written
    · cases written
      exact .refl slot
    · split at written <;> cases written
      exact session_calm ⟨rfl, id, fun _ => id, fun _ => rfl, fun _ => id, fun _ => id⟩
  · split at written
    · cases written
    · split at written <;> cases written
      exact ⟨.refl _, rfl, rfl, rfl, rfl, fun _ _ => id, rfl⟩

theorem startWriting_calm (slot : Slot) : Calm k slot slot.startWriting := by
  have marked : Calm k slot (slot.modify fun x => { x with writeInProgress := true }) :=
    session_calm ⟨rfl, id, fun _ => id, fun _ => rfl, fun _ => id, fun _ => id⟩
  exact marked.trans (doWriteQueue_calm _)

/-- After a close, the code of another use goes on, or none. -/
def After.Aside (k caller : Nat) (after : After) : Prop :=
  after = .nothing ∨ after = .writeQueue ∨ caller ≠ k

theorem resume_calm {caller : Nat} {after : After} (aside : After.Aside k caller after) :
    Calm k slot (slot.resume caller after) := by
  cases after with
  | nothing => exact .refl slot
  | writeQueue => exact startWriting_calm slot
  | nextTask =>
      have other : caller ≠ k := by simpa [After.Aside] using aside
      exact ⟨.refl _, rfl, rfl, rfl, rfl, fun _ _ member => List.mem_append_left _ member,
        rfl⟩
  | loop =>
      have other : caller ≠ k := by simpa [After.Aside] using aside
      refine ⟨.refl _, rfl, rfl, rfl, ?_, fun _ _ => id, rfl⟩
      simp [resume, List.count_append, other]

/-- **A close** shuts the object, or finds it taken back. -/
theorem closing_calm {caller : Nat} {after : After} (aside : After.Aside k caller after) :
    Calm k slot (slot.close config caller after) := by
  simp only [close]
  cases tried : slot.session.tryClose with
  | none => exact resume_calm aside
  | some closing =>
      obtain ⟨rfl, -⟩ := tryClose_eq_some tried
      have taken (down : Slot) (shut : down.session.socketOpen = false) :
          Calm k down (down.removed config) :=
        removed_calm (.of_shut (removed_strand down) ((removed_socketOpen down).trans shut))
      have shut : Calm k slot { slot with
          session := ({ slot.session with life := .closing } : Session).shutDown } :=
        session_calm (.of_shut rfl rfl)
      refine (shut.trans (taken _ rfl)).trans ⟨.refl _, rfl, rfl, rfl, rfl, fun _ _ => id, ?_⟩
      have other : after = .nextTask ∨ after = .loop → caller ≠ k := by
        rintro (rfl | rfl) <;> simpa [After.Aside] using aside
      simp only [resuming, List.filter_append, List.map_append, List.count_append]
      by_cases goesOn : after = .nextTask ∨ after = .loop
      · simp [goesOn, other goesOn]
      · simp [goesOn]

theorem close_calm (caller : Nat) : Calm k slot (slot.close config caller .nothing) :=
  closing_calm (.inl rfl)

theorem writeNow_calm (slot : Slot) (caller : Nat) (message : String) :
    Calm k slot (slot.writeNow config caller message) := by
  have kept (writeQueue : List String) (writeQueueOverflowCount : Nat) :
      slot.session.Settled k { slot.session with writeQueue, writeQueueOverflowCount } :=
    ⟨rfl, id, fun _ => id, fun _ => rfl, fun _ => id, fun _ => id⟩
  refine writeNow_keeps slot caller message ?_ ?_ ?_
  · intro queue count idle
    refine .trans (session_calm (kept queue count)) (closing_calm ?_)
    split
    · exact .inr (.inl rfl)
    · exact .inl rfl
  · intro queue count
    exact ⟨kept queue count, rfl, rfl, rfl, rfl, fun _ _ => id, rfl⟩
  · intro slot' calm
    exact calm.trans (startWriting_calm slot')

theorem postWrite_calm (config : Config) (slot : Slot) (here : Option Nat) (message : String) :
    Calm k slot (slot.post config here (.write message)) := by
  simp only [post]
  split
  · exact writeNow_calm slot _ message
  · refine ⟨.refl _, rfl, rfl, ?_, rfl, fun _ _ => id, rfl⟩
    simp [taskUses, List.filter_append]

theorem told_calm (use : Nat) (messages : List String) (slot : Slot) :
    Calm k slot (slot.told config use messages) := by
  induction messages generalizing slot with
  | nil => exact .refl slot
  | cons message rest ih => exact (postWrite_calm config slot (some use) message).trans (ih _)

theorem login_calm (slot : Slot) (nickname : String) (zoneId : Int) :
    Calm k slot (slot.login nickname zoneId) :=
  ⟨⟨rfl, id, nofun, fun _ => rfl, fun _ => id, fun _ => id⟩, rfl, rfl, rfl, rfl,
    fun _ _ => id, rfl⟩

/-- What a message makes the dispatcher do, before it closes the session. -/
theorem answered_calm (slot : Slot) (use : Nat) (reaction : Reaction) :
    Calm k slot (((slot.loggedIn reaction.login).keptAlive reaction.alive).told config use
      reaction.messages) := by
  have entered : Calm k slot (slot.loggedIn reaction.login) := by
    cases reaction.login with
    | none => exact .refl slot
    | some login => exact login_calm slot login.1 login.2
  refine (entered.trans ?_).trans (told_calm use reaction.messages _)
  cases reaction.alive with
  | none => exact .refl _
  | some now => exact session_calm ⟨rfl, id, fun _ => id, fun _ => rfl, fun _ => id, fun _ => id⟩

theorem loginTimerFired_calm (slot : Slot) (use : Nat) :
    Calm k slot (slot.loginTimerFired config use) := by
  simp only [loginTimerFired]
  split
  · exact .refl slot
  · exact (postWrite_calm config slot _ _).trans (close_calm use)

theorem writeDone_calm (slot : Slot) (op : Write) (failed : Bool) :
    Calm k slot (slot.writeDone config op failed) := by
  have landed : Calm k slot { slot with writes := slot.writes.erase op } :=
    ⟨.refl _, rfl, rfl, rfl, rfl, fun _ _ => id, rfl⟩
  simp only [writeDone]
  refine landed.trans ?_
  split
  · exact .refl _
  · split
    · exact close_calm op.use
    · refine .trans (session_calm ?_) (doWriteQueue_calm _)
      exact ⟨rfl, id, fun _ => id, fun _ => rfl, fun _ => id, fun _ => id⟩

/-! ## Reads begun elsewhere -/

theorem count_append_other {l : List Nat} {j : Nat} (other : j ≠ k) :
    (l ++ [j]).count k = l.count k := by
  simp [List.count_append, other]

theorem count_erase_other {l : List Nat} {j : Nat} (other : j ≠ k) :
    (l.erase j).count k = l.count k := by
  rw [List.count_erase_of_ne (Ne.symm other)]

/-- `run_next_task` of an empty queue, or of another use. -/
theorem runNextTask_calm (quiet : slot.session.strand ≠ k ∨ slot.session.taskQueue = []) :
    Calm k slot slot.runNextTask := by
  simp only [runNextTask, Session.runNextTask]
  cases queued : slot.session.taskQueue with
  | nil =>
      exact session_calm ⟨rfl, id, fun _ => id, fun _ => queued.symm, fun _ => nofun, fun _ => id⟩
  | cons task rest =>
      have elsewhere : slot.session.strand ≠ k := quiet.resolve_right (by rw [queued]; nofun)
      cases task with
      | readSome =>
          refine ⟨.of_past rfl id fun serves => elsewhere serves.2, rfl, ?_, rfl, rfl,
            fun _ _ => id, rfl⟩
          simp only [readUses, List.map_append, List.map_cons, List.map_nil]
          exact count_append_other elsewhere

theorem pushTask_calm (elsewhere : slot.session.strand ≠ k) (caller : Nat) (task : Task) :
    Calm k slot (slot.pushTask config caller task) := by
  simp only [pushTask]
  split
  · exact close_calm caller
  · have pushed : Calm k slot (slot.modify fun x =>
        { x with taskQueue := x.taskQueue ++ [task], taskRunning := true }) :=
      session_calm (.of_past rfl id fun serves => elsewhere serves.2)
    split
    · exact pushed
    · exact pushed.trans (runNextTask_calm (.inl elsewhere))

/-- `do_read` while a read is pending, or of another use. -/
theorem doRead_calm (quiet : slot.session.strand ≠ k ∨ slot.session.readPending = true)
    (here : Option Nat) : Calm k slot (slot.doRead config here) := by
  rcases doRead_cases config slot here with ⟨-, same⟩ | ⟨-, lowered, begins⟩
  · rw [same]
    exact .refl slot
  · have elsewhere : slot.session.strand ≠ k := quiet.resolve_right lowered
    have pending : Calm k slot (slot.modify fun x => { x with readPending := true }) :=
      session_calm (.of_past rfl id fun serves => elsewhere serves.2)
    rw [begins]
    refine pending.trans ?_
    simp only [post]
    split
    · exact pushTask_calm (by exact elsewhere) _ _
    · refine ⟨.refl _, rfl, rfl, ?_, rfl, fun _ _ => id, rfl⟩
      simp only [taskUses, List.filter_append, List.map_append]
      exact count_append_other elsewhere

theorem start_calm (quiet : slot.session.strand ≠ k ∨ slot.session.readPending = true) :
    Calm k slot (slot.start config) := by
  have read : Calm k slot (slot.doRead config none) := doRead_calm quiet none
  simp only [start]
  refine read.trans ?_
  split
  · exact .refl _
  · exact ⟨.refl _, rfl, rfl, rfl, rfl, fun _ _ => id, rfl⟩

theorem count_map_erase {α : Type} [DecidableEq α] (f : α → Nat) (a : α) (l : List α) :
    ((l.erase a).map f).count k = (l.map f).count k - if a ∈ l ∧ f a = k then 1 else 0 := by
  simp only [List.count, List.countP_map, List.countP_erase, Function.comp_apply, beq_iff_eq]

theorem count_map_erase_other {α : Type} [DecidableEq α] {f : α → Nat} {a : α} (other : f a ≠ k)
    (l : List α) : ((l.erase a).map f).count k = (l.map f).count k := by
  rw [count_map_erase, if_neg fun both => other both.2, Nat.sub_zero]

theorem tasks_erase (p : Posted) :
    ({ slot with posts := slot.posts.erase p } : Slot).taskUses =
      ((slot.posts.filter fun q => q.job = .task .readSome).erase p).map (·.strand) := by
  rw [taskUses, List.erase_filter]

theorem resuming_erase (t : Tail) :
    ({ slot with tails := slot.tails.erase t } : Slot).resuming =
      ((slot.tails.filter fun u => u.after = .nextTask ∨ u.after = .loop).erase t).map
        (·.caller) := by
  rw [resuming, List.erase_filter]

/-- The lowered flag of a handler, the buffer it fills, and the like. -/
theorem lowered_settled (x : Session) (m : MessageBufferManager) :
    x.Settled k { x with readPending := false, msgBuf := m } :=
  ⟨rfl, id, fun _ => id, fun _ => rfl, fun _ => id, fun _ => nofun⟩

theorem filled_settled (x : Session) (m : MessageBufferManager) :
    x.Settled k { x with msgBuf := m } :=
  ⟨rfl, id, fun _ => id, fun _ => rfl, fun _ => id, fun _ => id⟩

theorem readDone_calm {op : Read} (other : op.use ≠ k) (result : ReadResult) :
    Calm k slot (slot.readDone config op result) := by
  have ended : Calm k slot ({ slot with reads := slot.reads.erase op }.modify fun x =>
      { x with readPending := false }) :=
    ⟨lowered_settled _ _, rfl, count_map_erase_other other _, rfl, rfl, fun _ _ => id, rfl⟩
  have closed (slot : Slot) : Calm k slot (slot.close config op.use .nextTask) :=
    closing_calm (.inr (.inr other))
  simp only [readDone]
  cases result with
  | data bytes =>
      refine ended.trans ⟨filled_settled _ _, rfl, rfl, rfl, ?_, fun _ _ => id, rfl⟩
      exact count_append_other other
  | aborted =>
      refine ended.trans ⟨.refl _, rfl, rfl, rfl, rfl, fun _ _ member => ?_, rfl⟩
      exact List.mem_append_left _ member
  | eof => exact ended.trans (closed _)
  | connectionReset => exact ended.trans (closed _)
  | error => exact ended.trans (closed _)

theorem react_calm {use : Nat} (other : use ≠ k) (reaction : Reaction) :
    Calm k slot (slot.react config use reaction) := by
  have answered := @answered_calm k config slot use reaction
  simp only [react]
  refine answered.trans ?_
  split
  · refine .trans ?_ (closing_calm (.inr (.inr other)))
    exact ⟨.refl _, rfl, rfl, rfl, count_erase_other other, fun _ _ => id, rfl⟩
  · exact .refl _

theorem handlerStep_calm {use : Nat} (other : use ≠ k) (reaction : Reaction)
    (quiet : slot.session.strand ≠ k ∨ (slot.session.msgBuf.extractMessage.1 = none →
      slot.session.msgBuf.extractMessage.2.lastClearByInvalidLength = false →
        slot.session.readPending = true)) :
    Calm k slot (slot.handlerStep config use reaction) := by
  rcases handlerStep_cases config slot use reaction with ⟨msg, m, -, done⟩ | ⟨m, extracted, turn⟩
  · rw [done]
    exact (session_calm (filled_settled _ m)).trans (react_calm other reaction)
  · have ended : Calm k slot ({ slot with handlers := slot.handlers.erase use }.modify fun x =>
        { x with msgBuf := m }) :=
      ⟨filled_settled _ m, rfl, rfl, rfl, count_erase_other other, fun _ _ => id, rfl⟩
    refine ended.trans ?_
    rcases turn with ⟨-, done⟩ | ⟨valid, done⟩
    · rw [done]
      exact close_calm use
    · rw [extracted] at quiet
      have read : slot.session.strand ≠ k ∨ slot.session.readPending = true :=
        quiet.imp_right fun ends => ends rfl valid
      have begun := @doRead_calm k config ({ slot with
          handlers := slot.handlers.erase use }.modify fun x => { x with msgBuf := m })
        read (some use)
      rw [done]
      refine begun.trans ⟨.refl _, rfl, rfl, rfl, rfl, fun _ _ member => ?_, rfl⟩
      exact List.mem_append_left _ member

/-! ## One event -/

end Slot

/-- The use whose read the event begins, goes on with or ends. -/
def SlotEvent.use : SlotEvent → Option Nat
  | .start use => some use
  | .readDone op _ => some op.use
  | .handlerStep use _ => some use
  | .post ⟨_, strand, .task _⟩ => some strand
  | .closeTail t => if t.after = .nextTask ∨ t.after = .loop then some t.caller else none
  | _ => none

def SlotEvent.isAcquire : SlotEvent → Bool
  | .acquire _ _ => true
  | _ => false

namespace Slot

variable {k : Nat} {config : Config} {slot slot' slot'' : Slot}

theorem post_calm {p : Posted} (other : p.job = .task .readSome → p.strand ≠ k)
    (quiet : p.job = .task .readSome → slot.session.strand ≠ k) :
    Calm k slot ({ slot with posts := slot.posts.erase p }.runJob config p.caller p.job) := by
  have taken : Calm k slot { slot with posts := slot.posts.erase p } := by
    refine ⟨.refl _, rfl, rfl, ?_, rfl, fun _ _ => id, rfl⟩
    rw [tasks_erase, taskUses, count_map_erase, if_neg, Nat.sub_zero]
    rintro ⟨member, here⟩
    exact other (by simpa using (List.mem_filter.mp member).2) here
  rcases p with ⟨caller, strand, job⟩
  cases job with
  | write message => exact taken.trans (writeNow_calm _ caller message)
  | task task =>
      cases task with
      | readSome => exact taken.trans (pushTask_calm (by exact quiet rfl) caller _)

theorem cleanup_calm (quiet : slot.session.strand ≠ k ∨ slot.session.taskQueue = []) :
    Calm k slot (slot.modify Session.cleanup) := by
  refine session_calm ⟨rfl, id, fun _ => id, fun serves => ?_, fun _ => nofun, fun _ => nofun⟩
  exact (quiet.resolve_left fun elsewhere => elsewhere serves.2).symm

theorem closeTail_calm {t : Tail} (quiet : slot.session.strand ≠ k ∨ slot.session.taskQueue = [])
    (other : t.after = .nextTask ∨ t.after = .loop → t.caller ≠ k) :
    Calm k slot (slot.closeTail t) := by
  have aside : After.Aside k t.caller t.after := by
    cases after : t.after with
    | nothing => exact .inl rfl
    | writeQueue => exact .inr (.inl rfl)
    | nextTask => exact .inr (.inr (other (.inl after)))
    | loop => exact .inr (.inr (other (.inr after)))
  have taken : Calm k slot { slot with tails := slot.tails.erase t } := by
    refine ⟨.refl _, rfl, rfl, rfl, rfl, fun _ _ => id, ?_⟩
    rw [resuming_erase, resuming, count_map_erase, if_neg, Nat.sub_zero]
    rintro ⟨member, here⟩
    exact other (by simpa using (List.mem_filter.mp member).2) here
  exact (taken.trans (cleanup_calm quiet)).trans (resume_calm aside)

theorem removal_calm (quiet : slot.session.strand ≠ k ∨
    (slot.filed = true → slot.free = false → slot.session.taskQueue = [])) :
    Calm k slot (slot.removed config) := by
  have stays : (slot.removed config).session.socketOpen = true →
      slot.session.socketOpen = true := by
    rw [removed_socketOpen]
    exact id
  refine removed_calm ?_
  by_cases elsewhere : slot.session.strand = k
  · have kept := quiet.resolve_left (not_not.mpr elsewhere)
    unfold removed
    split
    · rename_i filed
      dsimp only
      have given : ∀ zoneId, slot.session.Settled k { slot.session.clearUdpToken with zoneId } :=
        fun zoneId => ⟨rfl, id, fun _ => id, fun _ => rfl, fun _ => id, fun _ => id⟩
      have taken : ∀ zoneId, slot.free = false → slot.session.Settled k
          ({ slot.session.clearUdpToken with zoneId } : Session).takeBack :=
        fun zoneId held => ⟨rfl, id, fun _ => id, fun _ => (kept filed held).symm,
          fun _ => nofun, fun _ => nofun⟩
      split <;> split
      · exact given (-1)
      · rename_i held
        exact taken (-1) (Bool.eq_false_iff.mpr held)
      · exact given slot.session.zoneId
      · rename_i held
        exact taken slot.session.zoneId (Bool.eq_false_iff.mpr held)
    · exact .refl _
  · refine .of_past (removed_strand slot) stays fun serves => elsewhere ?_
    rw [← @removed_strand config slot]
    exact serves.2

theorem readRest_calm (use : Nat) (quiet : slot.session.strand ≠ k ∨ slot.session.taskQueue = []) :
    Calm k slot { slot with rests := slot.rests.erase use }.runNextTask := by
  have finished : Calm k slot { slot with rests := slot.rests.erase use } := by
    refine ⟨.refl _, rfl, rfl, rfl, rfl, fun serves queued => ?_, rfl⟩
    exact absurd (quiet.resolve_left fun elsewhere => elsewhere serves.2) queued
  exact finished.trans (runNextTask_calm quiet)

/-- **An event of another use is calm**, where no leftover strays into the loop. -/
theorem perform_calm {e : SlotEvent} (kept : e.isAcquire = false)
    (other : ∀ use, e.use = some use → use ≠ k)
    (quiet : slot.session.strand = k →
      ¬ slot.Strays e ∧ ∀ use, e = .readRest use → slot.session.taskQueue = []) :
    Calm k slot (slot.perform config e) := by
  cases e with
  | acquire now sessionId => cases kept
  | start use =>
      have begun : Calm k slot { slot with starts := slot.starts.erase use } :=
        ⟨.refl _, count_erase_other (other use rfl), rfl, rfl, rfl, fun _ _ => id, rfl⟩
      refine begun.trans (start_calm (imp_iff_not_or.mp fun here => ?_))
      by_contra lowered
      exact (quiet here).1 ⟨here ▸ other use rfl, Bool.eq_false_iff.mpr lowered⟩
  | readDone op result => exact readDone_calm (other op.use rfl) result
  | handlerStep use reaction =>
      refine handlerStep_calm (other use rfl) reaction ?_
      refine imp_iff_not_or.mp fun here none_ valid => ?_
      by_contra lowered
      exact (quiet here).1 ⟨here ▸ other use rfl, Bool.eq_false_iff.mpr lowered, none_, valid⟩
  | readRest use =>
      exact readRest_calm use (imp_iff_not_or.mp fun here => (quiet here).2 use rfl)
  | loginTimer use cancelled =>
      have ended : Calm k slot { slot with loginTimers := slot.loginTimers.erase use } :=
        ⟨.refl _, rfl, rfl, rfl, rfl, fun _ _ => id, rfl⟩
      simp only [perform]
      split
      · exact ended
      · exact ended.trans (loginTimerFired_calm _ use)
  | writeDone op failed => exact writeDone_calm slot op failed
  | post p =>
      rcases p with ⟨caller, strand, job⟩
      cases job with
      | write message =>
          refine @post_calm k config slot ⟨caller, strand, .write message⟩ ?_ ?_
          · intro task
            cases task
          · intro task
            cases task
      | task task =>
          have elsewhere : slot.session.strand ≠ k := by
            intro here
            cases task
            exact (quiet here).1 ⟨here ▸ other strand rfl, rfl⟩
          exact @post_calm k config slot ⟨caller, strand, .task task⟩ (fun _ => other strand rfl)
            fun _ => elsewhere
  | closeTail t =>
      refine closeTail_calm (imp_iff_not_or.mp fun here => ?_) fun resumes => ?_
      · exact not_not.mp (quiet here).1
      · exact other t.caller (if_pos resumes)
  | postWrite message => exact postWrite_calm config slot none message
  | close => exact close_calm _
  | login nickname zoneId => exact login_calm slot nickname zoneId
  | displaced => exact ⟨.refl _, rfl, rfl, rfl, rfl, fun _ _ => id, rfl⟩
  | removal =>
      refine removal_calm (imp_iff_not_or.mp fun here filed held => ?_)
      by_contra queued
      exact (quiet here).1 ⟨filed, held, queued⟩

/-- An event other than the next use keeps the strand, and opens nothing. -/
theorem perform_stays (config : Config) (slot : Slot) {e : SlotEvent} (kept : e.isAcquire = false) :
    (slot.perform config e).session.strand = slot.session.strand ∧
      ((slot.perform config e).session.socketOpen = true → slot.session.socketOpen = true) := by
  -- a use that neither the object nor the event knows of
  have calm : Calm (slot.session.strand + (e.use.getD 0) + 1) slot (slot.perform config e) := by
    refine perform_calm kept (fun use known => ?_) fun here => ?_
    · rw [known, Option.getD_some]
      omega
    · omega
  exact ⟨calm.session.strand, calm.session.stays⟩

end Slot

end GameServer.Kernel
