/-
# Kernel.Lifecycle -- the records of a session's life and the pool

`acquire` makes the object active and then calls `cleanup()`, which makes it idle:
no session is active between operations, the one in use no more than the free ones.
And every assignment to `closed_` writes `false`.

* `inactive_after` -- `count_active()` is 0 in every state a run reaches;
* `recorded_iff` -- so the records agree with the pool, throughout a run, exactly as
  long as no connection is given a session.
-/
import GameServer.Kernel.Teardowns
import GameServer.Kernel.Occupancy

namespace GameServer.Kernel

set_option autoImplicit false

open Wire Dbmw Theory.Runs

/-! ## What is asked of a server -/

/-- `is_active`. -/
def Session.isActive (x : Session) : Bool := x.life = .active

namespace Server

/-- The sessions `SessionPool::for_each_active` visits. -/
def forEachActive (srv : Server) : List Ref :=
  (List.range srv.pool.size).filter fun s => (srv.obj s).isActive

/-- `SessionPool::count_active`. -/
def countActive (srv : Server) : Nat :=
  (List.range srv.pool.size).foldl (fun cnt s => if (srv.obj s).isActive then cnt + 1 else cnt) 0

/-- The last thing in the life of the object was its close: it was closed since it was
handed out, and not released since. -/
def ClosedLast (srv : Server) (s : Ref) : Prop :=
  srv.ClosedInUse s ∧ (srv.obj s).life ≠ .released

/-- The records of the sessions agree with the pool. -/
structure Recorded (srv : Server) : Prop where
  counted : srv.countActive = srv.pool.size - srv.pool.reusableIndices.length
  visited : ∀ s, s ∈ srv.forEachActive ↔
    s < srv.pool.size ∧ s ∉ srv.pool.reusableIndices
  closed : ∀ s, srv.ClosedLast s → (srv.obj s).isClosed = true

/-! ## What lasts -/

/-- A property of an object that only its handing out can break, or what happens
elsewhere. -/
structure Lasting (P : Session → Prop) : Prop where
  removed : ∀ {x y : Session}, P x → x.Removed y → P y
  closed : ∀ {x y : Session}, P x → x.shutDown.Removed y → P y.cleanup
  queued : ∀ (x : Session) queue count busy, P x → P { x with
    writeQueue := queue, writeQueueOverflowCount := count, writeInProgress := busy }
  zoned : ∀ (x : Session) zoneId, P x → P { x with zoneId }

section Lasting

variable {P : Session → Prop} {env : Env} {srv : Server} {s : Ref}

theorem modify_lasting (t : Ref) (f : Session → Session) (keeps : P (srv.obj t) → P (f (srv.obj t)))
    (holds : P (srv.obj s)) : P ((srv.modify t f).obj s) :=
  modify_each (fun _ x y => P x → P y) (fun _ _ => id) keeps s holds

theorem Lasting.closeSession (lasting : Lasting P) (t : Ref) (holds : P (srv.obj s)) :
    P ((srv.closeSession t).obj s) := by
  refine closeSession_each (fun x y => P x → P y) ?_ ?_ srv t s holds
  · intro x y removed before
    exact lasting.removed before removed
  · intro x y removed before
    exact lasting.closed before removed

theorem Lasting.doWriteQueue (lasting : Lasting P) (t : Ref) (holds : P (srv.obj s)) :
    P ((srv.doWriteQueue t).obj s) := by
  rw [doWriteQueue_eq]
  split
  · exact holds
  · split
    · exact modify_lasting t _ (lasting.queued _ _ _ false) holds
    · exact holds

theorem Lasting.writeNow (lasting : Lasting P) (t : Ref) (message : String)
    (holds : P (srv.obj s)) : P ((srv.writeNow env t message).obj s) := by
  have enqueued (x : Session) (holds : P x) : P (x.enqueueWrite env.config message).1 := by
    obtain ⟨queue, count, entered⟩ := x.enqueueWrite_eq env.config message
    rw [entered]
    exact lasting.queued x _ _ x.writeInProgress holds
  have queued := modify_lasting t (fun _ => ((srv.obj t).enqueueWrite env.config message).1)
    (enqueued _) holds
  refine writeNow_keeps (P := fun srv => P (srv.obj s)) message queued (fun _ => ?_)
    fun srv' holds => ?_
  · exact lasting.closeSession t queued
  · exact lasting.doWriteQueue t (modify_lasting t _ (lasting.queued _ _ _ true) holds)

theorem Lasting.writeDone (lasting : Lasting P) (op : WriteOp) (failed : Bool)
    (holds : P (srv.obj s)) : P ((srv.writeDone op failed).obj s) := by
  have landed : P (({ srv with writes := srv.writes.erase op } : Server).obj s) := holds
  refine writeDone_keeps (P := fun srv => P (srv.obj s)) landed (fun _ _ => ?_) ?_
  · exact lasting.closeSession op.session landed
  · refine lasting.doWriteQueue op.session ?_
    exact modify_lasting _ _ (lasting.queued _ _ _ _) landed

/-- **One call.** -/
theorem Lasting.call (lasting : Lasting P) {c : Call} (keeps : ¬ srv.HandsOut s c)
    (aside : ∀ other, c = .elsewhere other → P ((srv.obj s).keeping (other.obj s)))
    (holds : P (srv.obj s)) : P ((srv.call env c).obj s) := by
  cases c with
  | acquire now sessionId =>
      simp only [Server.call]
      split
      · exact holds
      · rename_i t next
        have other : s ≠ t := by
          rintro rfl
          exact keeps next
        exact (congrArg P (modify_obj_other _ _ other)).mpr holds
  | closeSession t => exact lasting.closeSession t holds
  | write t message => exact lasting.writeNow t message holds
  | writeDone op failed =>
      simp only [Server.call]
      split
      · exact lasting.writeDone op failed holds
      · exact holds
  | assignSessionToZone t zoneId =>
      simp only [Server.call]
      rcases assignSessionToZone_cases env srv t zoneId with ⟨-, same⟩ | ⟨zone, -, -, -, enters⟩
      · rw [same]
        exact holds
      · rw [enters]
        exact modify_lasting t _ (lasting.zoned _ _) holds
  | leaveZone t =>
      simp only [Server.call]
      rcases srv.leaveZone_cases t with ⟨-, same⟩ | ⟨zone, -, -, left⟩
      · rw [same]
        exact holds
      · rw [left]
        exact modify_lasting t _ (lasting.zoned _ _) holds
  | elsewhere other => exact aside other rfl

end Lasting

/-- Nothing but a hand-out makes an object active, and that not for long. -/
theorem inactive_lasting : Lasting fun x => x.life ≠ .active where
  removed := by
    rintro x y inactive ⟨zoneId, rfl | rfl | rfl⟩
    · exact inactive
    · exact inactive
    · exact nofun
  closed _ _ := nofun
  queued _ _ _ _ := id
  zoned _ _ := id

/-- An object that was not handed out stays so. -/
theorem unused_lasting : Lasting fun x => x.strand = 0 where
  removed unused removed := removed.passed.1.trans unused
  closed unused removed := removed.cleaned.1.trans unused
  queued _ _ _ _ := id
  zoned _ _ := id

section Calls

variable {env : Env} {srv srv' srv'' : Server} {s : Ref}

theorem inactive_call (c : Call) (inactive : ∀ s, (srv.obj s).life ≠ .active) (s : Ref) :
    ((srv.call env c).obj s).life ≠ .active := by
  by_cases hands : srv.HandsOut s c
  · cases c with
    | acquire now sessionId =>
        have next : srv.nextFree = some s := hands
        obtain ⟨-, -, -, life, -⟩ := handOut_fresh (srv.obj s) now sessionId
        simp only [call, next, acquire_obj, life]
        decide
    | _ => cases hands
  · exact inactive_lasting.call hands (fun _ _ => inactive s) (inactive s)

/-- No session is active between operations. -/
theorem inactive_after (env : Env) (router : Option (DBmwRouter LoginFlow)) (events : List Event)
    (s : Ref) : ((after env router events).obj s).life ≠ .active := by
  have preserved : ∀ (srv : Server) c, (∀ s, (srv.obj s).life ≠ .active) →
      Calls true true srv c → ∀ s, ((srv.call env c).obj s).life ≠ .active :=
    fun srv c inactive _ => inactive_call c inactive
  exact (after_reach env router events).invariant preserved (fun _ => nofun) s

/-! ## The pool without hand-outs -/

/-- The pool has not grown and has lost no free object. -/
def Fuller (srv srv' : Server) : Prop :=
  srv'.pool.size = srv.pool.size ∧ srv.pool.reusableIndices ⊆ srv'.pool.reusableIndices

theorem Fuller.of_eq (same : srv'.pool = srv.pool) : Fuller srv srv' :=
  ⟨congrArg SessionPool.size same, fun _ member => same ▸ member⟩

theorem Fuller.trans (first : Fuller srv srv') (second : Fuller srv' srv'') : Fuller srv srv'' :=
  ⟨second.1.trans first.1, fun _ member => second.2 (first.2 member)⟩

theorem closeSession_fuller (srv : Server) (s : Ref) : Fuller srv (srv.closeSession s) := by
  by_cases closable : (srv.obj s).Closable
  · rw [closeSession_eq, if_pos closable]
    show Fuller srv ((srv.shut s).removeSession (srv.obj s).sessionId)
    rcases filed : (srv.shut s).manager.findSession (srv.obj s).sessionId with _ | t
    · rw [removeSession_unfiled filed]
      exact .of_eq rfl
    · obtain ⟨-, -, pool⟩ := removeSession_filed filed
      by_cases returns : (srv.shut s).Returns t
      · rw [if_pos returns] at pool
        rw [Fuller, pool]
        exact ⟨rfl, fun _ member => List.mem_append.mpr (.inl member)⟩
      · rw [if_neg returns] at pool
        exact .of_eq pool
  · rw [closeSession_refused closable]
    exact .of_eq rfl

theorem doWriteQueue_fuller (srv : Server) (s : Ref) : Fuller srv (srv.doWriteQueue s) := by
  rw [doWriteQueue_eq]
  split
  · exact .of_eq rfl
  · split <;> exact .of_eq rfl

theorem writeNow_fuller (srv : Server) (s : Ref) (message : String) :
    Fuller srv (srv.writeNow env s message) := by
  have queued : Fuller srv
      (srv.modify s fun _ => ((srv.obj s).enqueueWrite env.config message).1) := .of_eq rfl
  have busy (srv : Server) : Fuller srv
      (srv.modify s fun x => { x with writeInProgress := true }) := .of_eq rfl
  refine writeNow_keeps (P := Fuller srv) message queued (fun _ => ?_) fun srv' fuller => ?_
  · exact queued.trans (closeSession_fuller (Server.note _ (.close s)) s)
  · exact fuller.trans ((busy srv').trans (doWriteQueue_fuller _ s))

theorem writeDone_fuller (srv : Server) (op : WriteOp) (failed : Bool) :
    Fuller srv (srv.writeDone op failed) := by
  have landed : Fuller srv { srv with writes := srv.writes.erase op } := .of_eq rfl
  refine writeDone_keeps (P := Fuller srv) landed (fun _ _ => ?_) ?_
  · exact landed.trans (closeSession_fuller (Server.note _ (.close op.session)) op.session)
  · exact landed.trans (.trans (.of_eq rfl) (doWriteQueue_fuller _ op.session))

theorem call_fuller {c : Call} (keeps : Calls false true srv c) : Fuller srv (srv.call env c) := by
  cases c with
  | acquire now sessionId => cases keeps
  | closeSession t => exact closeSession_fuller srv t
  | write t message => exact writeNow_fuller srv t message
  | writeDone op failed =>
      simp only [call]
      split
      · exact writeDone_fuller srv op failed
      · exact .of_eq rfl
  | assignSessionToZone t zoneId =>
      simp only [call]
      rcases assignSessionToZone_cases env srv t zoneId with ⟨-, same⟩ | ⟨zone, -, -, -, enters⟩
      · exact .of_eq (by rw [same])
      · exact .of_eq (by rw [enters]; rfl)
  | leaveZone t => exact .of_eq (leaveZone_pool srv t)
  | elsewhere other => exact .of_eq rfl

end Calls

/-! ## Before the first connection -/

variable {env : Env} {srv : Server} {s : Ref}

/-- No object was ever handed out: all are in the pool, and nobody is registered. -/
structure Vacant (env : Env) (srv : Server) : Prop where
  sane : Sane env srv
  tidy : (srv.registry env).Tidy
  inactive : ∀ s, (srv.obj s).life ≠ .active
  unused : ∀ s, (srv.obj s).strand = 0
  free : ∀ s, s < srv.pool.size → s ∈ srv.pool.reusableIndices

theorem initial_vacant (env : Env) (router : Option (DBmwRouter LoginFlow)) :
    Vacant env (initial env router) :=
  ⟨initial_sane env router, initial_tidy env router, fun _ => nofun, fun _ => rfl,
    fun _ inside => List.mem_range.mpr inside⟩

theorem countActive_eq (srv : Server) : srv.countActive = srv.forEachActive.length := by
  rw [countActive, forEachActive, ← List.countP_eq_length_filter]
  have counts : ∀ (l : List Ref) n,
      l.foldl (fun cnt s => if (srv.obj s).isActive then cnt + 1 else cnt) n =
        n + l.countP fun s => (srv.obj s).isActive := by
    intro l
    induction l with
    | nil => exact fun _ => rfl
    | cons t l ih =>
        intro n
        rw [List.foldl_cons, ih, List.countP_cons]
        split <;> omega
  rw [counts, Nat.zero_add]

theorem forEachActive_nil (inactive : ∀ s, (srv.obj s).life ≠ .active) : srv.forEachActive = [] :=
  List.filter_eq_nil_iff.mpr fun s _ => by simp [Session.isActive, inactive s]

theorem Vacant.recorded (vacant : Vacant env srv) : srv.Recorded := by
  have none := forEachActive_nil vacant.inactive
  have many : srv.pool.size ≤ srv.pool.reusableIndices.length := by
    have within : List.range srv.pool.size ⊆ srv.pool.reusableIndices :=
      fun s inside => vacant.free s (List.mem_range.mp inside)
    have shorter := (List.subperm_of_subset List.nodup_range within).length_le
    rwa [List.length_range] at shorter
  refine ⟨?_, fun s => ?_, fun s closed => ?_⟩
  · rw [countActive_eq, none, List.length_nil, Nat.sub_eq_zero_of_le many]
  · rw [none]
    exact ⟨fun visited => absurd visited List.not_mem_nil,
      fun out => absurd (vacant.free s out.1) out.2⟩
  · exact absurd (vacant.unused s) (Nat.ne_of_gt closed.1.1)

/-- While nothing was handed out, no login completes. -/
theorem enrollsHeld_of_unused {r : Registry} {notes : List Note}
    (lawful : Along Registry.exec Registry.Lawful r notes)
    (unused : ∀ s, ((run Registry.exec r notes).holder s).strand = 0) :
    Along Registry.exec Registry.EnrollsHeld r notes := by
  induction notes generalizing r with
  | nil => trivial
  | cons note notes ih =>
      refine ⟨?_, ih lawful.2 unused⟩
      cases note with
      | enroll flow generation serving zoneId =>
          obtain ⟨fits, -⟩ := lawful.1
          have older := (Registry.older_run r (.enroll flow generation serving zoneId :: notes)).strand
            flow.origin.session
          have none := unused flow.origin.session
          have used := fits.used
          have strand := fits.strand
          omega
      | _ => trivial

theorem Vacant.step (vacant : Vacant env srv) {e : Event} (waits : ¬ srv.Hands e) :
    Vacant env (srv.step env e) := by
  have reach : Reaches env false true srv (srv.step env e) :=
    step_reach srv e fun hands => absurd hands waits
  have unused : ∀ s, ((srv.step env e).obj s).strand = 0 := by
    have preserved : ∀ (srv : Server) c, (∀ s, (srv.obj s).strand = 0) →
        Calls false true srv c → ∀ s, ((srv.call env c).obj s).strand = 0 := by
      intro srv c unused keeps s
      exact unused_lasting.call keeps.keepsOut (fun _ _ => unused s) (unused s)
    exact reach.invariant preserved vacant.unused
  have fuller : Fuller srv (srv.step env e) := by
    have preserved : ∀ (srv' : Server) c, Fuller srv srv' → Calls false true srv' c →
        Fuller srv (srv'.call env c) := fun srv' c fuller keeps => fuller.trans (call_fuller keeps)
    exact reach.invariant preserved (.of_eq rfl)
  have inactive : ∀ s, ((srv.step env e).obj s).life ≠ .active := by
    have preserved : ∀ (srv : Server) c, (∀ s, (srv.obj s).life ≠ .active) →
        Calls false true srv c → ∀ s, ((srv.call env c).obj s).life ≠ .active :=
      fun srv c inactive _ => inactive_call c inactive
    exact reach.invariant preserved vacant.inactive
  have simulated := (step_refines env).simulated srv e vacant.sane
  have held : Along Registry.exec Registry.EnrollsHeld (srv.registry env) (notes env srv e) := by
    refine enrollsHeld_of_unused ((step_refines env).lawful srv e vacant.sane) fun s => ?_
    rw [← simulated]
    exact unused s
  refine ⟨(step_refines env).preserved srv e vacant.sane, ?_, inactive, unused, fun s inside => ?_⟩
  · rw [simulated]
    exact run_invariant (fun _ _ tidy => tidy.exec) vacant.tidy held
  · exact fuller.2 (vacant.free s (fuller.1 ▸ inside))

/-! ## The first connection -/

theorem Vacant.unfiled (vacant : Vacant env srv) (sessionId : Int) :
    srv.manager.findSession sessionId = none := by
  rcases filed : srv.manager.findSession sessionId with _ | t
  · rfl
  · obtain ⟨-, inside, out⟩ := vacant.tidy.entry sessionId t filed
    exact absurd (vacant.free t inside) out

/-- A manager with no entry but one lists one session at most. -/
theorem sessions_insertSession {m : SessionManager} (unfiled : ∀ id, m.findSession id = none)
    (sessionId : Int) (s : Ref) : (m.insertSession sessionId s).sessions.length ≤ 1 := by
  have empty : ∀ shard, m.sessionBuckets shard = ∅ := by
    intro shard
    have none : (m.sessionBuckets shard).keys = [] := by
      refine List.eq_nil_iff_forall_not_mem.mpr fun id member => ?_
      obtain ⟨t, found⟩ := Option.isSome_iff_exists.mp (AList.lookup_isSome.mpr member)
      exact absurd (SessionManager.findSession_of_bucket found) (by rw [unfiled]; exact nofun)
    exact AList.ext (List.map_eq_nil_iff.mp none)
  have bucket : ∀ shard, ((m.insertSession sessionId s).sessionBuckets shard).entries.length =
      if shard = m.getShard sessionId then 1 else 0 := by
    intro shard
    by_cases here : shard = m.getShard sessionId
    · subst here
      simp [SessionManager.insertSession, empty]
    · simp [SessionManager.insertSession, empty, here]
  have total : ∀ n, ((List.range n).flatMap fun shard =>
      ((m.insertSession sessionId s).sessionBuckets shard).entries.map (·.2)).length =
        if m.getShard sessionId < n then 1 else 0 := by
    intro n
    induction n with
    | zero => rfl
    | succ n ih =>
        rw [List.range_succ, List.flatMap_append, List.length_append, ih]
        simp only [List.flatMap_cons, List.flatMap_nil, List.append_nil, List.length_map, bucket]
        split <;> split <;> split <;> omega
  rw [SessionManager.sessions, total]
  split <;> omega

theorem addSession_unfiled (unfiled : srv.manager.findSession (srv.obj s).sessionId = none) :
    srv.addSession s =
      { srv with manager := srv.manager.insertSession (srv.obj s).sessionId s } := by
  simp only [addSession, unfiled, Option.filter_none]

/-- Off the strand, `start` posts its read and sets its timer. -/
theorem start_posts (srv : Server) (s : Ref) :
    (srv.start env none s).pool = srv.pool ∧
      ((srv.start env none s).obj s).life = (srv.obj s).life := by
  have read : (srv.doRead env none s).pool = srv.pool ∧
      ((srv.doRead env none s).obj s).life = (srv.obj s).life := by
    rcases doRead_cases env none srv s with ⟨-, same⟩ | ⟨-, -, begins⟩
    · rw [same]
      exact ⟨rfl, rfl⟩
    · have off (srv : Server) : srv.onStrand none s = false := rfl
      have pending : ((srv.modify s fun x => { x with readPending := true }).obj s).life =
          (srv.obj s).life := by rw [modify_obj_self]
      simp only [begins, postTask, off, Bool.false_eq_true, if_false]
      exact ⟨rfl, pending⟩
  simp only [start, startLoginTimeout]
  split <;> exact read

/-- **The first connection is not counted.** -/
theorem Vacant.lost (vacant : Vacant env srv) {e : Event} (hands : srv.Hands e) :
    ¬ (srv.step env e).Recorded := by
  cases e with
  | accept now order =>
      obtain ⟨s, next, sorted⟩ := hands
      let taken : Server := (({ srv with
        journal := []
        sessionCounter := Int.bmod (srv.sessionCounter + 1) (2 ^ 32) } : Server).note
          (.accept srv.sessionCounter)).acquire now srv.sessionCounter s
      have filed : ({ srv with journal := [] } : Server).accepted now s =
          { taken with manager := srv.manager.insertSession (taken.obj s).sessionId s } :=
        addSession_unfiled (vacant.unfiled _)
      have short : order.length ≤ 1 := by
        rw [sorted.1.length_eq]
        refine Nat.le_trans (List.length_filter_le _ _) ?_
        rw [filed]
        exact sessions_insertSession vacant.unfiled _ s
      have stepped : srv.step env (.accept now order) =
          (({ srv with journal := [] } : Server).accepted now s).start env none s := by
        have spared : order.take (order.length - 100) = [] := by
          rw [Nat.sub_eq_zero_of_le (by omega), List.take_zero]
        rw [Server.step, react, accept_admitted next sorted, cleanupUnauthSessions, spared]
        rfl
      obtain ⟨pool, life⟩ := @start_posts env (({ srv with journal := [] } : Server).accepted now s) s
      obtain ⟨-, -, -, idle, -⟩ := handOut_fresh (srv.obj s) now srv.sessionCounter
      have size : (srv.step env (.accept now order)).pool.size = max srv.pool.size (s + 1) := by
        rw [stepped, pool, filed]
        rfl
      have free : (srv.step env (.accept now order)).pool.reusableIndices =
          srv.pool.reusableIndices.tail := by
        rw [stepped, pool, filed]
        rfl
      have inactive : ((srv.step env (.accept now order)).obj s).life = .idle := by
        rw [stepped, life, filed]
        exact (congrArg Session.life (acquire_obj ..)).trans idle
      have out : s ∉ srv.pool.reusableIndices.tail := by
        have nodup : srv.pool.reusableIndices.Nodup := vacant.tidy.nodup
        rcases Registry.nextFree_cases (r := srv.registry env) next with ⟨rest, same⟩ | ⟨same, -⟩
        · have same : srv.pool.reusableIndices = s :: rest := same
          rw [same] at nodup ⊢
          exact (List.nodup_cons.mp nodup).1
        · have same : srv.pool.reusableIndices = [] := same
          rw [same]
          exact List.not_mem_nil
      intro recorded
      have visited := (recorded.visited s).mpr (by
        rw [size, free]
        exact ⟨Nat.lt_of_lt_of_le (Nat.lt_succ_self s) (Nat.le_max_right ..), out⟩)
      have active := (List.mem_filter.mp visited).2
      rw [Session.isActive, inactive] at active
      exact absurd active (by decide)
  | _ => cases hands

/-- **The records agree with the pool**, throughout a run, exactly as long as no
accepted connection is given a session. -/
theorem recorded_iff (env : Env) (router : Option (DBmwRouter LoginFlow)) (events : List Event) :
    (∀ front, front <+: events → (after env router front).Recorded) ↔
      Along (step env) (fun srv e => ¬ srv.Hands e) (initial env router) events := by
  have kept : ∀ (srv : Server) e, Vacant env srv → ¬ srv.Hands e → Vacant env (srv.step env e) :=
    fun srv e vacant waits => vacant.step waits
  have lost : ∀ (srv : Server) e, Vacant env srv → ¬ ¬ srv.Hands e →
      ¬ (srv.step env e).Recorded :=
    fun srv e vacant hands => vacant.lost (not_not.mp hands)
  exact throughout_iff_of_lost kept (fun srv vacant => vacant.recorded) lost
    (initial_vacant env router) events

/-- One connection in a pool of one, and `count_active()` is 0. -/
theorem accepted_uncounted : ¬ (after (trialEnv 1) none [.accept 0 [0]]).Recorded :=
  fun recorded => absurd recorded.counted (by decide)

end Server

end GameServer.Kernel
