/-
# Kernel.Reads -- one read at a time

A use of a `Session` begins its first read in `start`, and the handler of each read
begins the next one.  What begins a read goes through four places: the call of `start`
to come, the task posted to the strand or queued, the read outstanding, and the
handler that will call `do_read`.  One token moves between them.

* `Paced` -- the token, and the flags that let it go on;
* `step_inv` -- what an event does to it;
* `one_read` -- one read of an open use, always, as long as no leftover of an earlier
  use begins one or takes the queued one away;
* `leftover_reads` -- a read of the last connection does begin one.
-/
import GameServer.Kernel.Calm

namespace GameServer.Kernel

set_option autoImplicit false

open Wire Theory.Runs

/-- A read that completes without an error. -/
def ReadResult.succeeds : ReadResult → Bool
  | .data _ => true
  | _ => false

namespace Slot

/-! ## The law -/

/-- Reads outstanding and read tasks still queued or posted. -/
def reading (slot : Slot) (k : Nat) : Nat :=
  slot.readUses.count k + (slot.session.taskQueue.length + slot.taskUses.count k)

/-- One read is outstanding or queued, none while a read handler is in its loop; and a
task in the queue has the handler that queued it still to run it. -/
def OneRead (slot : Slot) (k : Nat) : Prop :=
  slot.reading k + slot.handlers.count k = 1 ∧ (slot.session.taskQueue ≠ [] → k ∈ slot.rests)

instance (slot : Slot) (k : Nat) : Decidable (slot.OneRead k) := inferInstanceAs (Decidable (_ ∧ _))

/-- The use stops reading by itself: its read fails, or its handler or its task ends in
a `close_session`. -/
def Stops (config : Config) (slot : Slot) : SlotEvent → Prop
  | .readDone op result => op.use = slot.session.strand ∧ result.succeeds = false
  | .handlerStep use reaction =>
      use = slot.session.strand ∧
        if slot.session.msgBuf.extractMessage.1 = none then
          slot.session.msgBuf.extractMessage.2.lastClearByInvalidLength = true ∨
            config.maxTaskQueue ≤ slot.session.taskQueue.length
        else reaction.closes = true ∧ reaction.leaves = true
  | .post p =>
      p.strand = slot.session.strand ∧ p.job = .task .readSome ∧
        config.maxTaskQueue ≤ slot.session.taskQueue.length
  | _ => False

/-- The read loop of `k` goes on: no leftover strays into it, and it does not stop by
itself on an object that is open afterwards. -/
def GoesOn (config : Config) (k : Nat) (slot : Slot) (e : SlotEvent) : Prop :=
  slot.Ready e → ¬ slot.Strays e ∧ ¬ (slot.Stops config e ∧ (slot.step config e).session.Serves k)

instance (config : Config) (slot : Slot) : ∀ e, Decidable (slot.Stops config e)
  | .readDone _ _ => inferInstanceAs (Decidable (_ ∧ _))
  | .handlerStep _ _ => inferInstanceAs (Decidable (_ ∧ ite _ _ _))
  | .post _ => inferInstanceAs (Decidable (_ ∧ _ ∧ _))
  | .acquire _ _ | .start _ | .readRest _ | .loginTimer _ _ | .writeDone _ _ | .closeTail _
  | .postWrite _ | .close | .login _ _ | .displaced | .removal => isFalse id

instance (config : Config) (k : Nat) (slot : Slot) (e : SlotEvent) :
    Decidable (slot.GoesOn config k e) := inferInstanceAs (Decidable (_ → _))

/-! ## The token of a use -/

variable {k : Nat} {config : Config} {slot slot' : Slot}

/-- The places outside the queue. -/
def tokens (slot : Slot) (k : Nat) : Nat :=
  slot.starts.count k + slot.readUses.count k + slot.taskUses.count k + slot.handlers.count k

/-- The read loop of an open use: what begins a read is in one place, and the flags let
it go on from there. -/
structure Paced (k : Nat) (slot : Slot) : Prop where
  state : slot.session.state ≠ .closed
  token : slot.tokens k + slot.session.taskQueue.length = 1
  rests : slot.session.taskQueue ≠ [] → k ∈ slot.rests
  running : k ∈ slot.starts ∨ k ∈ slot.taskUses → slot.session.taskRunning = false
  pending : k ∈ slot.starts ∨ k ∈ slot.handlers → slot.session.readPending = false
  resuming : slot.resuming.count k = 0

/-- A use to come has nothing in any place, and the one the object is open for is
`Paced`. -/
structure Inv (k : Nat) (slot : Slot) : Prop where
  fresh : slot.session.strand < k → slot.tokens k + slot.resuming.count k = 0
  paced : slot.session.Serves k → Paced k slot

theorem Calm.tokens (calm : Calm k slot slot') : slot'.tokens k = slot.tokens k := by
  rw [Slot.tokens, Slot.tokens, calm.starts, calm.reads, calm.tasks, calm.handlers]

theorem Calm.inv (calm : Calm k slot slot') (inv : Inv k slot) : Inv k slot' := by
  refine ⟨fun before => ?_, fun serves => ?_⟩
  · rw [calm.tokens, calm.resuming]
    exact inv.fresh (calm.session.strand ▸ before)
  · have paced := inv.paced (calm.session.serves serves)
    have mem {l l' : List Nat} (same : l'.count k = l.count k) (member : k ∈ l') : k ∈ l := by
      rw [← List.count_pos_iff] at member ⊢
      omega
    exact {
      state := fun closed => paced.state (calm.session.state serves closed)
      token := by rw [calm.tokens, calm.session.queue serves, paced.token]
      rests := fun queued =>
        calm.rests serves queued (paced.rests (calm.session.queue serves ▸ queued))
      running := fun waits => by
        have lowered := paced.running (waits.imp (mem calm.starts) (mem calm.tasks))
        by_contra raised
        rw [calm.session.running serves (by simpa using raised)] at lowered
        cases lowered
      pending := fun waits => by
        have lowered := paced.pending (waits.imp (mem calm.starts) (mem calm.handlers))
        by_contra raised
        rw [calm.session.pending serves (by simpa using raised)] at lowered
        cases lowered
      resuming := by rw [calm.resuming, paced.resuming] }

/-- Once the use is past, there is nothing to keep. -/
theorem inv_of_past (begun : k ≤ slot.session.strand) (past : ¬ slot.session.Serves k) :
    Inv k slot :=
  ⟨fun before => absurd before (Nat.not_lt.mpr begun), fun serves => absurd serves past⟩

/-! ## The token moves -/

/-- A `Paced` use from the counts of its places. -/
theorem paced_of_counts (state : slot.session.state ≠ .closed)
    (token : slot.tokens k + slot.session.taskQueue.length = 1)
    (rests : slot.session.taskQueue.length ≠ 0 → k ∈ slot.rests)
    (running : slot.starts.count k + slot.taskUses.count k ≠ 0 → slot.session.taskRunning = false)
    (pending : slot.starts.count k + slot.handlers.count k ≠ 0 → slot.session.readPending = false)
    (resuming : slot.resuming.count k = 0) : Paced k slot where
  state := state
  token := token
  rests := fun queued => rests (mt List.eq_nil_of_length_eq_zero queued)
  running := fun waits => running <| by
    rcases waits with member | member <;> have := List.count_pos_iff.mpr member <;> omega
  pending := fun waits => pending <| by
    rcases waits with member | member <;> have := List.count_pos_iff.mpr member <;> omega
  resuming := resuming

/-- `start`: the first read is posted. -/
theorem start_paced (paced : Paced k slot) (serves : slot.session.Serves k)
    (begins : k ∈ slot.starts) :
    Paced k ({ slot with starts := slot.starts.erase k }.start config) := by
  have one := paced.token
  have counted := List.count_pos_iff.mpr begins
  have lowered := paced.pending (.inl begins)
  have started : { slot with starts := slot.starts.erase k }.start config =
      { slot with
        starts := slot.starts.erase k
        session := { slot.session with readPending := true }
        posts := slot.posts ++ [⟨slot.session.strand, slot.session.strand, .task .readSome⟩]
        loginTimers := slot.loginTimers ++ [slot.session.strand] } := by
    have begun := @doRead_begins config { slot with starts := slot.starts.erase k } none
      paced.state (by simp [lowered])
    simp [start, begun, post, modify, paced.state]
  have posted : ([(⟨slot.session.strand, slot.session.strand, .task .readSome⟩ : Posted)].filter
      fun p => p.job = .task .readSome).map (·.strand) = [k] := by
    simp [serves.2]
  rw [started]
  simp only [tokens, taskUses] at one
  refine paced_of_counts paced.state ?_ ?_ ?_ ?_ paced.resuming
  · simp only [tokens, taskUses, List.filter_append, List.map_append, posted, List.count_append,
      List.count_singleton_self, List.count_erase_self, readUses] at one ⊢
    omega
  · intro queued
    dsimp only at queued
    omega
  · exact fun _ => paced.running (.inl begins)
  · intro waits
    dsimp only at waits
    rw [List.count_erase_self] at waits
    omega

/-- A read completes with data, and its handler goes into its loop. -/
theorem data_paced (paced : Paced k slot) {op : Read} (member : op ∈ slot.reads)
    (own : op.use = k) (bytes : Bytes) :
    Paced k (slot.readDone config op (.data bytes)) := by
  have one := paced.token
  have counted : 0 < slot.readUses.count k :=
    List.count_pos_iff.mpr (own ▸ List.mem_map_of_mem member)
  have taken : ((slot.reads.erase op).map (·.use)).count k = slot.readUses.count k - 1 := by
    rw [count_map_erase, if_pos ⟨member, own⟩]
    rfl
  have entered : (slot.handlers ++ [op.use]).count k = slot.handlers.count k + 1 := by
    rw [own, List.count_append, List.count_singleton_self]
  simp only [tokens] at one
  refine paced_of_counts paced.state ?_ ?_ ?_ ?_ paced.resuming
  · change slot.starts.count k + ((slot.reads.erase op).map (·.use)).count k +
      slot.taskUses.count k + (slot.handlers ++ [op.use]).count k +
        slot.session.taskQueue.length = 1
    omega
  · intro queued
    have empty : slot.session.taskQueue.length = 0 := by omega
    exact absurd empty queued
  · intro waits
    have none_ : slot.starts.count k + slot.taskUses.count k = 0 := by omega
    exact absurd none_ waits
  · exact fun _ => rfl

/-- The only task runs: `async_read_some`. -/
theorem runNextTask_paced (state : slot.session.state ≠ .closed) (serves : slot.session.strand = k)
    (queued : slot.session.taskQueue = [.readSome]) (none_ : slot.tokens k = 0)
    (resuming : slot.resuming.count k = 0) : Paced k slot.runNextTask := by
  have ran : slot.runNextTask = { slot with
      session := { slot.session with taskQueue := [] }
      reads := slot.reads ++ [⟨slot.session.strand, slot.session.socketOpen⟩] } := by
    simp [runNextTask, Session.runNextTask, queued]
  have begun : (slot.reads.map (·.use) ++ [slot.session.strand]).count k =
      slot.readUses.count k + 1 := by
    rw [serves, List.count_append, List.count_singleton_self]
    rfl
  rw [tokens] at none_
  rw [ran]
  refine paced_of_counts state ?_ (fun left => absurd rfl left) ?_ ?_ resuming
  · simp only [tokens, readUses, List.map_append, List.map_cons, List.map_nil, begun]
    change slot.starts.count k + (slot.readUses.count k + 1) + slot.taskUses.count k +
      slot.handlers.count k + 0 = 1
    omega
  · intro waits
    have gone : slot.starts.count k + slot.taskUses.count k = 0 := by omega
    exact absurd gone waits
  · intro waits
    have gone : slot.starts.count k + slot.handlers.count k = 0 := by omega
    exact absurd gone waits

/-- The posted task goes through the queue. -/
theorem post_paced (paced : Paced k slot) (serves : slot.session.Serves k) {p : Posted}
    (member : p ∈ slot.posts) (own : p.strand = k) (task : p.job = .task .readSome)
    (room : ¬ config.maxTaskQueue ≤ slot.session.taskQueue.length) :
    Paced k ({ slot with posts := slot.posts.erase p }.pushTask config p.caller .readSome) := by
  have one := paced.token
  rw [tokens] at one
  have inTasks : p ∈ slot.posts.filter fun q => q.job = .task .readSome :=
    List.mem_filter.mpr ⟨member, by simp [task]⟩
  have counted : 0 < slot.taskUses.count k :=
    List.count_pos_iff.mpr (own ▸ List.mem_map_of_mem inTasks)
  have lowered := paced.running (.inr (List.count_pos_iff.mp counted))
  have empty : slot.session.taskQueue = [] := List.eq_nil_of_length_eq_zero (by omega)
  have taken : ({ slot with posts := slot.posts.erase p } : Slot).taskUses.count k =
      slot.taskUses.count k - 1 := by
    rw [tasks_erase, count_map_erase, if_pos ⟨inTasks, own⟩]
    rfl
  have pushed : { slot with posts := slot.posts.erase p }.pushTask config p.caller .readSome =
      Slot.runNextTask { slot with
        posts := slot.posts.erase p
        session := { slot.session with taskQueue := [.readSome], taskRunning := true } } := by
    have roomy : config.maxTaskQueue ≠ 0 := by simpa [empty] using room
    simp [pushTask, roomy, lowered, empty, modify]
  rw [pushed]
  refine runNextTask_paced paced.state serves.2 rfl ?_ paced.resuming
  change slot.starts.count k + slot.readUses.count k +
    ({ slot with posts := slot.posts.erase p } : Slot).taskUses.count k + slot.handlers.count k = 0
  omega

/-- The end of a read handler: the next read is queued, or begun at once where a leftover
lowered `task_running_`. -/
theorem doRead_paced (paced : Paced k slot) (serves : slot.session.Serves k)
    (inLoop : k ∈ slot.handlers) (m : MessageBufferManager)
    (room : ¬ config.maxTaskQueue ≤ slot.session.taskQueue.length) :
    let ended := { slot with handlers := slot.handlers.erase k }.modify fun x =>
      { x with msgBuf := m }
    Paced k { ended.doRead config (some k) with
      rests := (ended.doRead config (some k)).rests ++ [k] } := by
  have one := paced.token
  rw [tokens] at one
  have counted := List.count_pos_iff.mpr inLoop
  have lowered := paced.pending (.inr inLoop)
  have empty : slot.session.taskQueue = [] := List.eq_nil_of_length_eq_zero (by omega)
  have gone : (slot.handlers.erase k).count k = slot.handlers.count k - 1 := List.count_erase_self
  have roomy : config.maxTaskQueue ≠ 0 := by simpa [empty] using room
  have here : some k = some slot.session.strand := by rw [serves.2]
  intro ended
  have begins : ended.doRead config (some k) =
      (ended.modify fun x => { x with readPending := true }).post config (some k)
        (.task .readSome) :=
    doRead_begins config (some k) paced.state (by simp [ended, modify, lowered])
  cases running : slot.session.taskRunning with
  | true =>
      have queued : ended.doRead config (some k) = { slot with
          handlers := slot.handlers.erase k
          session := { slot.session with
            msgBuf := m, readPending := true, taskQueue := [.readSome] } } := by
        rw [begins]
        simp [ended, post, here, runJob, pushTask, modify, empty, roomy, running]
      rw [queued]
      refine paced_of_counts paced.state ?_ ?_ ?_ ?_ paced.resuming
      · change slot.starts.count k + slot.readUses.count k + slot.taskUses.count k +
          (slot.handlers.erase k).count k + 1 = 1
        omega
      · exact fun _ => List.mem_append_right _ (List.mem_singleton_self k)
      · intro waits
        have none_ : slot.starts.count k + slot.taskUses.count k = 0 := by omega
        exact absurd none_ waits
      · intro waits
        have none_ : slot.starts.count k + (slot.handlers.erase k).count k = 0 := by omega
        exact absurd none_ waits
  | false =>
      have begun : ended.doRead config (some k) = Slot.runNextTask { slot with
          handlers := slot.handlers.erase k
          session := { slot.session with
            msgBuf := m
            readPending := true
            taskQueue := [.readSome]
            taskRunning := true } } := by
        rw [begins]
        simp [ended, post, here, runJob, pushTask, modify, empty, roomy, running]
      rw [begun]
      have reads := @runNextTask_paced k { slot with
          handlers := slot.handlers.erase k
          session := { slot.session with
            msgBuf := m, readPending := true, taskQueue := [.readSome], taskRunning := true } }
        paced.state serves.2 rfl (by
          change slot.starts.count k + slot.readUses.count k + slot.taskUses.count k +
            (slot.handlers.erase k).count k = 0
          omega) paced.resuming
      exact ⟨reads.state, reads.token, fun queued => List.mem_append_left _ (reads.rests queued),
        reads.running, reads.pending, reads.resuming⟩

theorem close_cases (config : Config) (slot : Slot) (caller : Nat) (after : After) :
    slot.close config caller after = slot.resume caller after ∨
      ((slot.close config caller after).session.socketOpen = false ∧
        (slot.close config caller after).session.strand = slot.session.strand) := by
  simp only [close]
  cases tried : slot.session.tryClose with
  | none => exact .inl rfl
  | some closing =>
      obtain ⟨rfl, -⟩ := tryClose_eq_some tried
      exact .inr ⟨removed_socketOpen _, removed_strand _⟩

/-- A message in the loop of the use's handler, which may close the session and stay. -/
theorem react_inv (inv : Inv k slot) (inLoop : k ∈ slot.handlers) (begun : k ≤ slot.session.strand)
    {reaction : Reaction} (stays : ¬ (reaction.closes = true ∧ reaction.leaves = true)) :
    Inv k (slot.react config k reaction) := by
  have answered := @answered_calm k config slot k reaction
  simp only [react]
  generalize ((slot.loggedIn reaction.login).keptAlive reaction.alive).told config k
    reaction.messages = answer at answered
  split
  · rename_i closes
    have loops : reaction.leaves ≠ true := fun leaves => stays ⟨closes, leaves⟩
    rw [if_neg loops]
    rcases close_cases config { answer with handlers := answer.handlers.erase k } k .loop with
      resumes | ⟨shut, strand⟩
    · have inLoop' : k ∈ answer.handlers := by
        rw [← List.count_pos_iff, answered.handlers, List.count_pos_iff]
        exact inLoop
      have back : (answer.handlers.erase k ++ [k]).count k = answer.handlers.count k := by
        have counted := List.count_pos_iff.mpr inLoop'
        rw [List.count_append, List.count_singleton_self, List.count_erase_self]
        omega
      rw [resumes]
      refine Calm.inv (answered.trans ?_) inv
      exact ⟨.refl _, rfl, rfl, rfl, back, fun _ _ => id, rfl⟩
    · refine inv_of_past ?_ fun serves => ?_
      · rw [strand]
        exact answered.session.strand ▸ begun
      · rw [serves.1] at shut
        cases shut
  · exact answered.inv inv

/-! ## Every event -/

theorem handOut_reads (now : Time) (sessionId : Int) (x : Session) :
    (x.handOut now sessionId).strand = x.strand + 1 ∧
      (x.handOut now sessionId).state = .handshaking ∧
      (x.handOut now sessionId).taskQueue = [] ∧ (x.handOut now sessionId).taskRunning = false ∧
      (x.handOut now sessionId).readPending = false := by
  simp only [Session.handOut, Session.setActive, Session.tryActivate, if_true]
  split <;> exact ⟨rfl, rfl, rfl, rfl, rfl⟩

/-- The next use begins with the call of its `start`. -/
theorem acquire_inv (inv : Inv k slot) (now : Time) (sessionId : Int) :
    Inv k (slot.perform config (.acquire now sessionId)) := by
  obtain ⟨strand, state, queue, running, pending⟩ := handOut_reads now sessionId slot.session
  have later : (slot.perform config (.acquire now sessionId)).session.strand =
      slot.session.strand + 1 := strand
  have listed : (slot.starts ++ [slot.session.strand + 1]).count k =
      slot.starts.count k + if slot.session.strand + 1 = k then 1 else 0 := by
    simp [List.count_append, List.count_singleton]
  refine ⟨fun before => ?_, fun serves => ?_⟩
  · rw [later] at before
    have none_ := inv.fresh (by omega)
    rw [if_neg (by omega)] at listed
    change (slot.starts ++ [slot.session.strand + 1]).count k + slot.readUses.count k +
      slot.taskUses.count k + slot.handlers.count k + slot.resuming.count k = 0
    rw [listed]
    exact none_
  · have here : slot.session.strand + 1 = k := later.symm.trans serves.2
    have none_ := inv.fresh (by omega)
    rw [if_pos here] at listed
    rw [tokens] at none_
    refine paced_of_counts ?_ ?_ ?_ ?_ ?_ ?_
    · intro closed
      cases state.symm.trans closed
    · change (slot.starts ++ [slot.session.strand + 1]).count k + slot.readUses.count k +
        slot.taskUses.count k + slot.handlers.count k +
          (slot.session.handOut now sessionId).taskQueue.length = 1
      rw [queue, listed, List.length_nil]
      omega
    · intro queued
      exact absurd (congrArg List.length queue) queued
    · exact fun _ => running
    · exact fun _ => pending
    · change slot.resuming.count k = 0
      omega

theorem resumes_listed {t : Tail} (member : t ∈ slot.tails)
    (own : (SlotEvent.closeTail t).use = some k) : 0 < slot.resuming.count k := by
  rw [SlotEvent.use] at own
  split at own
  · rename_i resumes
    cases own
    refine List.count_pos_iff.mpr (List.mem_map_of_mem (List.mem_filter.mpr ⟨member, ?_⟩))
    simpa using resumes
  · cases own

/-- What an event of `k` comes from. -/
theorem own_listed {e : SlotEvent} (ready : slot.Ready e) (own : e.use = some k) :
    slot.tokens k + slot.resuming.count k ≠ 0 := by
  have counted {l : List Nat} (member : k ∈ l) : 0 < l.count k := List.count_pos_iff.mpr member
  rw [tokens]
  cases e with
  | start use =>
      cases own
      have := counted ready
      omega
  | readDone op result =>
      cases own
      have : 0 < slot.readUses.count op.use := counted (List.mem_map_of_mem ready.1)
      omega
  | handlerStep use reaction =>
      cases own
      have := counted ready
      omega
  | post p =>
      rcases p with ⟨caller, strand, job⟩
      cases job with
      | write message => cases own
      | task task =>
          cases task
          cases own
          have member := (List.mem_filter.mp (List.mem_of_head? ready)).1
          have : 0 < slot.taskUses.count k :=
            counted (List.mem_map.mpr ⟨_, List.mem_filter.mpr ⟨member, rfl⟩, rfl⟩)
          omega
  | closeTail t =>
      have := resumes_listed ready own
      omega
  | _ => cases own

/-- The use's own event, while it is open: the token moves on. -/
theorem own_inv (inv : Inv k slot) {e : SlotEvent} (ready : slot.Ready e) (own : e.use = some k)
    (serves : slot.session.Serves k) (stops : ¬ slot.Stops config e) :
    Inv k (slot.perform config e) := by
  have paced := inv.paced serves
  have begun : k ≤ slot.session.strand := serves.2 ▸ Nat.le_refl _
  have at_ {slot' : Slot} (paced' : Paced k slot')
      (strand : slot'.session.strand = slot.session.strand) : Inv k slot' :=
    ⟨fun before => absurd (strand ▸ before) (Nat.not_lt.mpr begun), fun _ => paced'⟩
  have kept {e : SlotEvent} (kept : e.isAcquire = false) := (perform_stays config slot kept).1
  cases e with
  | start use =>
      cases own
      exact at_ (start_paced paced serves ready) (@kept (.start k) rfl)
  | readDone op result =>
      cases own
      cases result with
      | data bytes =>
          have read := @data_paced op.use config slot paced op ready.1 rfl bytes
          exact at_ read (@kept (.readDone op (.data bytes)) rfl)
      | _ => exact absurd ⟨serves.2.symm, rfl⟩ stops
  | handlerStep use reaction =>
      cases own
      have strand := @kept (.handlerStep k reaction) rfl
      simp only [perform, Stops, ← serves.2, true_and] at stops strand ⊢
      rcases handlerStep_cases config slot slot.session.strand reaction with
        ⟨msg, m, extracted, done⟩ | ⟨m, extracted, turn⟩ <;> rw [extracted] at stops
      · have found : ¬ some msg = none := Option.some_ne_none msg
        rw [if_neg found] at stops
        have filled : Inv k (slot.modify fun x => { x with msgBuf := m }) :=
          (session_calm (filled_settled _ m)).inv inv
        rw [done, serves.2]
        exact react_inv filled ready begun stops
      · rw [if_pos rfl, not_or] at stops
        rcases turn with ⟨cleared, -⟩ | ⟨-, done⟩
        · exact absurd cleared stops.1
        · rw [done] at strand ⊢
          simp only [serves.2] at strand ⊢
          exact at_ (doRead_paced paced serves ready m stops.2) (strand.trans serves.2.symm)
  | post p =>
      rcases p with ⟨caller, strand, job⟩
      cases job with
      | write message => cases own
      | task task =>
          cases task
          cases own
          have member := (List.mem_filter.mp (List.mem_of_head? ready)).1
          have room : ¬ config.maxTaskQueue ≤ slot.session.taskQueue.length := fun full =>
            stops ⟨serves.2.symm, rfl, full⟩
          exact at_ (post_paced paced serves member rfl rfl room)
            (@kept (.post ⟨caller, k, .task .readSome⟩) rfl)
  | closeTail t =>
      have listed := resumes_listed ready own
      rw [paced.resuming] at listed
      cases listed
  | _ => cases own

/-- The end of a read handler, of whatever use, runs the queued task. -/
theorem readRest_inv (inv : Inv k slot) (serves : slot.session.Serves k) (use : Nat) :
    Inv k (slot.perform config (.readRest use)) := by
  have paced := inv.paced serves
  cases queued : slot.session.taskQueue with
  | nil => exact (readRest_calm use (.inr queued)).inv inv
  | cons task rest =>
      have one := paced.token
      rw [queued, List.length_cons] at one
      have alone : rest = [] := List.eq_nil_of_length_eq_zero (by omega)
      cases task
      rw [alone] at queued
      have ran := @runNextTask_paced k { slot with rests := slot.rests.erase use } paced.state
        serves.2 queued (by
          change slot.tokens k = 0
          omega) paced.resuming
      have strand := (@perform_stays config slot (.readRest use) rfl).1
      exact ⟨fun before => absurd (strand ▸ before) (serves.2 ▸ Nat.lt_irrefl _), fun _ => ran⟩

/-- **One event** keeps the token of the use. -/
theorem step_inv (inv : Inv k slot) {e : SlotEvent}
    (goesOn : slot.session.Serves k → slot.GoesOn config k e) : Inv k (slot.step config e) := by
  rw [step]
  split
  · rename_i ready
    cases acquired : e.isAcquire with
    | true =>
        cases e with
        | acquire now sessionId => exact acquire_inv inv now sessionId
        | _ => cases acquired
    | false =>
        obtain ⟨strand, stays⟩ := perform_stays config slot acquired
        rcases Nat.lt_or_ge slot.session.strand k with before | begun
        · refine (perform_calm acquired (fun use known here => ?_) fun here => ?_).inv inv
          · exact own_listed ready (here ▸ known) (inv.fresh before)
          · omega
        · by_cases still : (slot.perform config e).session.Serves k
          · have serves : slot.session.Serves k := ⟨stays still.1, strand ▸ still.2⟩
            obtain ⟨calm, goes⟩ := goesOn serves ready
            rw [step, if_pos ready] at goes
            have stops : ¬ slot.Stops config e := fun stops => goes ⟨stops, still⟩
            by_cases own : e.use = some k
            · exact own_inv inv ready own serves stops
            · by_cases rest : ∃ use, e = .readRest use
              · obtain ⟨use, rfl⟩ := rest
                exact readRest_inv inv serves use
              · refine Calm.inv ?_ inv
                refine perform_calm acquired (fun use known here => ?_) fun _ => ⟨calm, ?_⟩
                · exact own (here ▸ known)
                · exact fun use same => absurd ⟨use, same⟩ rest
          · exact inv_of_past (strand ▸ begun) still
  · exact inv

/-! ## Runs -/

theorem initial_inv (k : Nat) : Inv k {} :=
  ⟨fun _ => rfl, fun serves => absurd serves.1 Bool.false_ne_true⟩

/-- **One read at a time, always one**: in every run of an object, for every use, from its
`start` until it is closed, while its loop goes on. -/
theorem one_read (config : Config) (k : Nat) (events : List SlotEvent)
    (goesOn : Along (step config) (fun slot e => slot.session.Serves k → slot.GoesOn config k e)
      {} events)
    (serves : (run (step config) {} events).session.Serves k)
    (started : k ∉ (run (step config) {} events).starts) :
    (run (step config) {} events).OneRead k := by
  have kept : ∀ slot e, Inv k slot → (slot.session.Serves k → slot.GoesOn config k e) →
      Inv k (slot.step config e) := fun _ _ inv goesOn => step_inv inv goesOn
  have inv := run_invariant kept (initial_inv k) goesOn
  have paced := inv.paced serves
  have one := paced.token
  rw [tokens, List.count_eq_zero.mpr started] at one
  refine ⟨?_, paced.rests⟩
  rw [reading]
  omega

/-- A connection reads once; it is closed while the next read has data for it, and the
object serves the next connection. -/
def readLate : List SlotEvent :=
  [.acquire 0 0, .start 1, .post ⟨1, 1, .task .readSome⟩, .readDone ⟨1, true⟩ (.data [0]),
    .handlerStep 1 {}, .readRest 1, .close, .closeTail ⟨1, 1, .nothing⟩, .acquire 0 1, .start 2,
    .readDone ⟨1, true⟩ (.data [0]), .handlerStep 1 {}]

/-- The first connection, up to its second read. -/
theorem one_read_second :
    (run (step {}) {} (readLate.take 6)).OneRead 1 :=
  one_read {} 1 _ (by decide +kernel) (by decide +kernel) (by decide +kernel)

/-- **A leftover read begins another**: it clears `read_pending_` of the next use, and
its handler ends in a `do_read` there, where `start` has already posted one. -/
theorem leftover_reads :
    (run (step {}) {} readLate).session.Serves 2 ∧ 2 ∉ (run (step {}) {} readLate).starts ∧
      ¬ (run (step {}) {} readLate).OneRead 2 := by decide +kernel

end Slot

end GameServer.Kernel
