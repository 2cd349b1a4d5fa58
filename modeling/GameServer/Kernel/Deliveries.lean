/-
# Kernel.Deliveries -- what an object writes, and for whom

The handler of `async_write` compares the generation it captured with the object's.
That is enough: every acquisition makes the generation grow, so a write started in
an earlier use never matches.

* `stale_write_ignored` -- a write completion of an earlier use changes nothing;
* `messages_own` -- where leftovers are isolated, a message reaches only the
  connection it was posted for.
-/
import GameServer.Kernel.Isolation

namespace GameServer.Kernel

set_option autoImplicit false

open Wire Theory.Runs

namespace Slot

variable {config : Config} {slot : Slot}

/-! ## What a use writes -/

/-- What a method does to the writes: those it starts are of the current use and
generation, and where `own` holds a message it delivers was posted for the use that
gets it. -/
structure Grows (own : Prop) (slot slot' : Slot) : Prop where
  strand : slot'.session.strand = slot.session.strand
  generation : slot.session.generation ≤ slot'.session.generation
  writes : ∀ w ∈ slot'.writes, w ∈ slot.writes ∨
    w.use = slot.session.strand ∧ w.generation ≤ slot'.session.generation
  delivered : ∀ d ∈ slot'.delivered, d ∈ slot.delivered ∨ (own → d.postedFor = d.servedTo)

variable {own : Prop}

namespace Grows

/-- Nothing is written or delivered. -/
theorem quiet {slot slot' : Slot} (strand : slot'.session.strand = slot.session.strand)
    (generation : slot.session.generation ≤ slot'.session.generation)
    (writes : slot'.writes ⊆ slot.writes) (delivered : slot'.delivered = slot.delivered) :
    Grows own slot slot' :=
  ⟨strand, generation, fun _ member => .inl (writes member), fun _ member => .inl (delivered ▸ member)⟩

theorem refl (slot : Slot) : Grows own slot slot :=
  .quiet rfl (Nat.le_refl _) (List.Subset.refl _) rfl

theorem trans {slot slot' slot'' : Slot} (first : Grows own slot slot')
    (second : Grows own slot' slot'') : Grows own slot slot'' where
  strand := second.strand.trans first.strand
  generation := Nat.le_trans first.generation second.generation
  writes w member := by
    rcases second.writes w member with old | ⟨use, generation⟩
    · rcases first.writes w old with old | ⟨use, generation⟩
      · exact .inl old
      · exact .inr ⟨use, Nat.le_trans generation second.generation⟩
    · exact .inr ⟨use.trans first.strand, generation⟩
  delivered d member := by
    rcases second.delivered d member with old | new
    · exact first.delivered d old
    · exact .inr new

end Grows

theorem modify_grows {f : Session → Session} (slot : Slot)
    (strand : (f slot.session).strand = slot.session.strand)
    (generation : slot.session.generation ≤ (f slot.session).generation) :
    Grows own slot (slot.modify f) := .quiet strand generation (List.Subset.refl _) rfl

theorem doWriteQueue_eq (x : Session) :
    ∃ writeInProgress, x.doWriteQueue.1 = { x with writeInProgress } := by
  unfold Session.doWriteQueue
  split
  · exact ⟨_, rfl⟩
  · split <;> exact ⟨_, rfl⟩

theorem doWriteQueue_grows (slot : Slot) : Grows own slot slot.doWriteQueue := by
  obtain ⟨progress, started⟩ := doWriteQueue_eq slot.session
  unfold doWriteQueue
  rcases written : slot.session.doWriteQueue with ⟨x, _ | message⟩ <;>
    rw [written] at started <;> cases started
  · exact .quiet rfl (Nat.le_refl _) (List.Subset.refl _) rfl
  · refine ⟨rfl, Nat.le_refl _, fun w member => ?_, fun _ => .inl⟩
    rcases List.mem_append.mp member with old | new
    · exact .inl old
    · rw [List.mem_singleton.mp new]
      exact .inr ⟨rfl, Nat.le_refl _⟩

theorem startWriting_grows (slot : Slot) : Grows own slot slot.startWriting :=
  (modify_grows slot (f := fun x => { x with writeInProgress := true }) rfl (Nat.le_refl _)).trans
    (doWriteQueue_grows _)

theorem resume_grows (slot : Slot) (caller : Nat) (after : After) :
    Grows own slot (slot.resume caller after) := by
  cases after with
  | writeQueue => exact startWriting_grows slot
  | _ => exact .quiet rfl (Nat.le_refl _) (List.Subset.refl _) rfl

theorem removed_grows (slot : Slot) : Grows own slot (slot.removed config) := by
  unfold removed
  split
  · dsimp only
    split <;> split <;>
      first
      | exact .quiet rfl (Nat.le_refl _) (List.Subset.refl _) rfl
      | exact .quiet rfl (Nat.le_succ _) (List.Subset.refl _) rfl
  · exact .refl slot

theorem close_grows (slot : Slot) (caller : Nat) (after : After) :
    Grows own slot (slot.close config caller after) := by
  unfold close
  cases tried : slot.session.tryClose with
  | none => exact resume_grows slot caller after
  | some closing =>
      obtain ⟨rfl, -⟩ := tryClose_eq_some tried
      have shut : Grows own slot
          { slot with session := { slot.session with life := .closing }.shutDown } :=
        .quiet rfl (Nat.le_refl _) (List.Subset.refl _) rfl
      exact shut.trans ((removed_grows _).trans (.quiet rfl (Nat.le_refl _) (List.Subset.refl _) rfl))

theorem closeTail_grows (slot : Slot) (t : Tail) : Grows own slot (slot.closeTail t) := by
  have cleaned : Grows own slot
      ({ slot with tails := slot.tails.erase t }.modify Session.cleanup) :=
    .quiet rfl (Nat.le_succ _) (List.Subset.refl _) rfl
  exact cleaned.trans (resume_grows _ t.caller t.after)

/-- The one method that delivers. -/
theorem writeNow_grows (slot : Slot) {caller : Nat} (message : String)
    (posted : own → caller = slot.session.strand) :
    Grows own slot (slot.writeNow config caller message) := by
  refine writeNow_keeps slot caller message ?_ ?_ ?_
  · intro queue count idle
    have dropped : Grows own slot { slot with session := { slot.session with
        writeQueue := queue, writeQueueOverflowCount := count } } :=
      .quiet rfl (Nat.le_refl _) (List.Subset.refl _) rfl
    exact dropped.trans (close_grows _ caller _)
  · intro queue count
    refine ⟨rfl, Nat.le_refl _, fun _ => .inl, fun d member => ?_⟩
    rcases List.mem_append.mp member with old | new
    · exact .inl old
    · rw [List.mem_singleton.mp new]
      exact .inr posted
  · intro slot' delivers
    exact delivers.trans (startWriting_grows slot')

theorem runNextTask_grows (slot : Slot) : Grows own slot slot.runNextTask := by
  unfold runNextTask Session.runNextTask
  cases slot.session.taskQueue with
  | nil => exact .quiet rfl (Nat.le_refl _) (List.Subset.refl _) rfl
  | cons task rest =>
      cases task with
      | readSome => exact .quiet rfl (Nat.le_refl _) (List.Subset.refl _) rfl

theorem pushTask_grows (slot : Slot) (caller : Nat) (task : Task) :
    Grows own slot (slot.pushTask config caller task) := by
  unfold pushTask
  split
  · exact close_grows slot caller .nothing
  · have pushed : Grows own slot (slot.modify fun x =>
        { x with taskQueue := x.taskQueue ++ [task], taskRunning := true }) :=
      modify_grows slot rfl (Nat.le_refl _)
    dsimp only
    split
    · exact pushed
    · exact pushed.trans (runNextTask_grows _)

theorem runJob_grows (slot : Slot) {caller : Nat} (job : Job)
    (posted : ∀ message, job = .write message → own → caller = slot.session.strand) :
    Grows own slot (slot.runJob config caller job) := by
  cases job with
  | write message => exact writeNow_grows slot message (posted message rfl)
  | task task => exact pushTask_grows slot caller task

theorem post_grows (slot : Slot) (here : Option Nat) (job : Job) :
    Grows own slot (slot.post config here job) := by
  unfold post
  dsimp only
  split
  · exact runJob_grows slot job fun _ _ _ => rfl
  · exact .quiet rfl (Nat.le_refl _) (List.Subset.refl _) rfl

theorem doRead_grows (slot : Slot) (here : Option Nat) :
    Grows own slot (slot.doRead config here) := by
  rcases doRead_cases config slot here with ⟨-, same⟩ | ⟨-, -, begins⟩
  · rw [same]
    exact .refl slot
  · rw [begins]
    exact (modify_grows slot (f := fun x => { x with readPending := true }) rfl
      (Nat.le_refl _)).trans (post_grows _ here _)

theorem start_grows (slot : Slot) : Grows own slot (slot.start config) := by
  have read : Grows own slot (slot.doRead config none) := doRead_grows slot none
  unfold start
  dsimp only
  split
  · exact read
  · exact read.trans (.quiet rfl (Nat.le_refl _) (List.Subset.refl _) rfl)

theorem login_grows (slot : Slot) (nickname : String) (zoneId : Int) :
    Grows own slot (slot.login nickname zoneId) :=
  .quiet rfl (Nat.le_refl _) (List.Subset.refl _) rfl

theorem told_grows (config : Config) (use : Nat) (messages : List String) (slot : Slot) :
    Grows own slot (slot.told config use messages) := by
  induction messages generalizing slot with
  | nil => exact .refl slot
  | cons message messages ih =>
      exact (post_grows slot (some use) (.write message)).trans (ih _)

theorem react_grows (slot : Slot) (use : Nat) (reaction : Reaction) :
    Grows own slot (slot.react config use reaction) := by
  obtain ⟨login, alive, messages, closes, leaves⟩ := reaction
  have named : Grows own slot (slot.loggedIn login) := by
    cases login with
    | none => exact .refl slot
    | some given => exact login_grows slot given.1 given.2
  have seen : Grows own (slot.loggedIn login) ((slot.loggedIn login).keptAlive alive) := by
    cases alive with
    | none => exact .refl _
    | some now => exact .quiet rfl (Nat.le_refl _) (List.Subset.refl _) rfl
  have closed (slot : Slot) (after : After) : Grows own slot
      ({ slot with handlers := slot.handlers.erase use }.close config use after) := by
    have left : Grows own slot { slot with handlers := slot.handlers.erase use } :=
      .quiet rfl (Nat.le_refl _) (List.Subset.refl _) rfl
    exact left.trans (close_grows _ use after)
  have reacted := named.trans (seen.trans (told_grows config use messages _))
  unfold react
  dsimp only
  split
  · exact reacted.trans (closed _ _)
  · exact reacted

theorem readDone_grows (slot : Slot) (op : Read) (result : ReadResult) :
    Grows own slot (slot.readDone config op result) := by
  have released : Grows own slot ({ slot with reads := slot.reads.erase op }.modify fun x =>
      { x with readPending := false }) := .quiet rfl (Nat.le_refl _) (List.Subset.refl _) rfl
  unfold readDone
  cases result with
  | data bytes => exact .quiet rfl (Nat.le_refl _) (List.Subset.refl _) rfl
  | aborted => exact .quiet rfl (Nat.le_refl _) (List.Subset.refl _) rfl
  | _ => exact released.trans (close_grows _ op.use .nextTask)

theorem handlerStep_grows (slot : Slot) (use : Nat) (reaction : Reaction) :
    Grows own slot (slot.handlerStep config use reaction) := by
  rcases handlerStep_cases config slot use reaction with ⟨msg, m, -, done⟩ | ⟨m, -, turn⟩
  · rw [done]
    exact (modify_grows slot (f := fun x => { x with msgBuf := m }) rfl (Nat.le_refl _)).trans
      (react_grows _ use reaction)
  · have ended : Grows own slot ({ slot with handlers := slot.handlers.erase use }.modify
        fun x => { x with msgBuf := m }) := .quiet rfl (Nat.le_refl _) (List.Subset.refl _) rfl
    rcases turn with ⟨-, done⟩ | ⟨-, done⟩
    · rw [done]
      exact ended.trans (close_grows _ use .nothing)
    · rw [done]
      exact ended.trans ((doRead_grows _ (some use)).trans
        (.quiet rfl (Nat.le_refl _) (List.Subset.refl _) rfl))

theorem loginTimerFired_grows (slot : Slot) (use : Nat) :
    Grows own slot (slot.loginTimerFired config use) := by
  unfold loginTimerFired
  split
  · exact .refl slot
  · exact (post_grows slot _ _).trans (close_grows _ use .nothing)

theorem writeDone_grows (slot : Slot) (op : Write) (failed : Bool) :
    Grows own slot (slot.writeDone config op failed) := by
  have landed : Grows own slot { slot with writes := slot.writes.erase op } :=
    .quiet rfl (Nat.le_refl _) (List.erase_subset ..) rfl
  unfold writeDone
  dsimp only
  split
  · exact landed
  · split
    · exact landed.trans (close_grows _ op.use .nothing)
    · exact landed.trans ((modify_grows _ (f := fun x =>
        { x with writeQueue := x.writeQueue.tail }) rfl (Nat.le_refl _)).trans
          (doWriteQueue_grows _))

/-! ## Runs of an object -/

/-- Every event but an acquisition; only a leftover delivers for another use. -/
theorem perform_grows (slot : Slot) {e : SlotEvent}
    (other : ∀ now sessionId, e ≠ .acquire now sessionId) :
    Grows (¬ slot.Leftover e) slot (slot.perform config e) := by
  unfold perform
  cases e with
  | acquire now sessionId => exact absurd rfl (other now sessionId)
  | start use =>
      have started : Grows (¬ slot.Leftover (.start use)) slot { slot with starts := slot.starts.erase use } :=
        .quiet rfl (Nat.le_refl _) (List.Subset.refl _) rfl
      exact started.trans (start_grows _)
  | readDone op result => exact readDone_grows slot op result
  | handlerStep use reaction => exact handlerStep_grows slot use reaction
  | readRest use =>
      have taken : Grows (¬ slot.Leftover (.readRest use)) slot { slot with rests := slot.rests.erase use } :=
        .quiet rfl (Nat.le_refl _) (List.Subset.refl _) rfl
      exact taken.trans (runNextTask_grows _)
  | loginTimer use cancelled =>
      have taken : Grows (¬ slot.Leftover (.loginTimer use cancelled)) slot
          { slot with loginTimers := slot.loginTimers.erase use } :=
        .quiet rfl (Nat.le_refl _) (List.Subset.refl _) rfl
      dsimp only
      split
      · exact taken
      · exact taken.trans (loginTimerFired_grows _ use)
  | writeDone op failed => exact writeDone_grows slot op failed
  | post p =>
      have taken : Grows (¬ slot.Leftover (.post p)) slot { slot with posts := slot.posts.erase p } :=
        .quiet rfl (Nat.le_refl _) (List.Subset.refl _) rfl
      refine taken.trans (runJob_grows _ p.job ?_)
      obtain ⟨caller, strand, job⟩ := p
      rintro message rfl own
      exact not_not.mp own
  | closeTail t => exact closeTail_grows slot t
  | postWrite message => exact post_grows slot none (.write message)
  | close => exact close_grows slot _ _
  | login nickname zoneId => exact login_grows slot nickname zoneId
  | displaced => exact .quiet rfl (Nat.le_refl _) (List.Subset.refl _) rfl
  | removal => exact removed_grows slot

/-- Writes in flight are of this generation or an older one, and those of an earlier
use are of an older one. -/
def Dated (slot : Slot) : Prop :=
  ∀ w ∈ slot.writes, w.use ≤ slot.session.strand ∧ w.generation ≤ slot.session.generation ∧
    (w.use < slot.session.strand → w.generation < slot.session.generation)

theorem Dated.grows {slot' : Slot} (dated : slot.Dated) (grows : Grows own slot slot') :
    slot'.Dated := by
  intro w member
  rw [grows.strand]
  rcases grows.writes w member with old | ⟨use, generation⟩
  · obtain ⟨use, generation, earlier⟩ := dated w old
    exact ⟨use, Nat.le_trans generation grows.generation,
      fun before => Nat.lt_of_lt_of_le (earlier before) grows.generation⟩
  · exact ⟨Nat.le_of_eq use, generation, fun before => absurd use (Nat.ne_of_lt before)⟩

theorem handOut_strand (now : Time) (sessionId : Int) (x : Session) :
    (x.handOut now sessionId).strand = x.strand + 1 := by
  unfold Session.handOut Session.setActive Session.tryActivate
  simp only [if_true]
  split <;> rfl

theorem handOut_generation (now : Time) (sessionId : Int) (x : Session) :
    (x.handOut now sessionId).generation = x.generation + 2 := by
  unfold Session.handOut Session.setActive Session.tryActivate
  simp only [if_true]
  split <;> rfl

/-- An acquisition leaves every write in flight behind. -/
theorem Dated.acquire (dated : slot.Dated) (now : Time) (sessionId : Int) :
    (slot.perform config (.acquire now sessionId)).Dated := by
  intro w member
  obtain ⟨use, generation, -⟩ := dated w member
  have strand : (slot.perform config (.acquire now sessionId)).session.strand =
      slot.session.strand + 1 := handOut_strand now sessionId slot.session
  have later : (slot.perform config (.acquire now sessionId)).session.generation =
      slot.session.generation + 2 := handOut_generation now sessionId slot.session
  rw [strand, later]
  omega

theorem Dated.step (dated : slot.Dated) (e : SlotEvent) : (slot.step config e).Dated := by
  unfold Slot.step
  split
  · cases e with
    | acquire now sessionId => exact dated.acquire now sessionId
    | _ => exact dated.grows (perform_grows slot (by simp))
  · exact dated

theorem dated_run (config : Config) (events : List SlotEvent) :
    (run (Slot.step config) {} events).Dated :=
  run_invariant (fun _ e dated _ => dated.step e) (fun _ member => nomatch member)
    (along_true ({} : Slot) events)

theorem writeDone_stale {w : Write} (dated : slot.Dated) (started : w ∈ slot.writes)
    (stale : w.use ≠ slot.session.strand) (failed : Bool) :
    slot.step config (.writeDone w failed) = { slot with writes := slot.writes.erase w } := by
  obtain ⟨use, -, earlier⟩ := dated w started
  have older := earlier (Nat.lt_of_le_of_ne use stale)
  have ready : slot.Ready (.writeDone w failed) := started
  unfold Slot.step
  rw [if_pos ready]
  simp only [perform, writeDone]
  rw [if_pos (Nat.ne_of_lt older)]

/-- **A write of an earlier use is forgotten when it completes**, in every run. -/
theorem stale_write_ignored (config : Config) (events : List SlotEvent) {w : Write}
    (started : w ∈ (run (Slot.step config) {} events).writes)
    (stale : w.use ≠ (run (Slot.step config) {} events).session.strand) (failed : Bool) :
    (run (Slot.step config) {} events).step config (.writeDone w failed) =
      { run (Slot.step config) {} events with
        writes := (run (Slot.step config) {} events).writes.erase w } :=
  writeDone_stale (dated_run config events) started stale failed

/-- Every message delivered was posted for the connection that got it. -/
def Own (slot : Slot) : Prop := ∀ d ∈ slot.delivered, d.postedFor = d.servedTo

theorem Own.step (messages : slot.Own) {e : SlotEvent}
    (isolated : slot.Ready e → slot.Leftover e → Isolated config slot e) :
    (slot.step config e).Own := by
  by_cases ready : slot.Ready e
  · by_cases leftover : slot.Leftover e
    · intro d member
      rw [show (slot.step config e).delivered = slot.delivered from
        congrArg Connection.delivered (isolated ready leftover)] at member
      exact messages d member
    · unfold Slot.step
      rw [if_pos ready]
      intro d member
      cases e with
      | acquire now sessionId => exact messages d member
      | _ =>
          rcases (perform_grows slot (by simp)).delivered d member with old | new
          · exact messages d old
          · exact new leftover
  · unfold Slot.step
    rw [if_neg ready]
    exact messages

/-- **Isolated leftovers write nothing to the next connection.** -/
theorem messages_own (config : Config) (events : List SlotEvent)
    (isolated : Along (Slot.step config)
      (fun slot e => slot.Ready e → slot.Leftover e → Isolated config slot e) {} events) :
    (run (Slot.step config) {} events).Own :=
  run_invariant (fun _ _ messages isolated => messages.step isolated)
    (fun _ member => nomatch member) isolated

end Slot

end GameServer.Kernel
