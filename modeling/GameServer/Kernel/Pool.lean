/-
# Kernel.Pool -- `SessionPool` under any calls

The pool keeps its free objects twice: in the queue it hands them out from, and in
the set `release` looks at before it queues an object again.  The constructor fills
the queue only.  An object of the first filling is therefore unknown to the set until
it has been handed out, and a `release` of it before that queues it twice.

* `Filed.step` -- the set never holds what the queue does not;
* `pool_sound_iff` -- queue and set agree in a pool built empty and in no other; the
  pool hands out no object twice as long as none is released that was never handed out.
-/
import GameServer.Kernel.Completion

namespace GameServer.Kernel

set_option autoImplicit false

open Theory.Runs

inductive PoolCall where
  | acquire (now : Time) (sessionId : Int)
  | release (session : Ref)
deriving DecidableEq, Repr

/-- A pool under calls; `out` is a history variable, the sessions acquired and not
released since. -/
structure Pooled where
  srv : Server
  out : List Ref := []

namespace Pooled

/-- `SessionPool::acquire` and `SessionPool::release`. -/
def call (p : Pooled) : PoolCall → Pooled
  | .acquire now sessionId =>
      match p.srv.nextFree with
      | none => p
      | some s => { srv := p.srv.acquire now sessionId s, out := s :: p.out }
  | .release s => { srv := p.srv.release s, out := p.out.filter (· ≠ s) }

/-- A new pool after calls. -/
def after (env : Env) (calls : List PoolCall) : Pooled :=
  run call { srv := Server.initial env none } calls

/-- `reusable_indices_`. -/
def queue (p : Pooled) : List Ref := p.srv.pool.reusableIndices

/-- `available_index_set_`. -/
def set (p : Pooled) : List Ref := p.srv.pool.availableIndexSet

/-- The set holds exactly what the queue holds. -/
def Agree (p : Pooled) : Prop := ∀ s, s ∈ p.set ↔ s ∈ p.queue

/-- Every index is queued at most once, and the next session handed out is not out
already. -/
structure Once (p : Pooled) : Prop where
  queued : p.queue.Nodup
  handed : ∀ s, p.srv.nextFree = some s → s ∉ p.out

/-- A released session that is queued is in the set; what has never been handed out
is not. -/
def Returned (p : Pooled) : PoolCall → Prop
  | .acquire _ _ => True
  | .release s => s ∈ p.queue → s ∈ p.set

instance (p : Pooled) : ∀ c, Decidable (Returned p c)
  | .acquire _ _ => inferInstanceAs (Decidable True)
  | .release s => inferInstanceAs (Decidable (s ∈ p.queue → s ∈ p.set))

/-! ## What every call keeps -/

/-- The set is a set, of queued objects, and everything is in the pool. -/
structure Filed (p : Pooled) : Prop where
  distinct : p.set.Nodup
  within : p.set ⊆ p.queue
  pooled : ∀ s ∈ p.queue, s < p.srv.pool.size
  outside : ∀ s ∈ p.out, s < p.srv.pool.size

variable {p : Pooled}

theorem release_files {s : Ref} (inside : s < p.srv.pool.size) (unset : s ∉ p.set) :
    (p.call (.release s)).queue = p.queue ++ [s] ∧ (p.call (.release s)).set = s :: p.set := by
  have files : s < p.srv.pool.size ∧ s ∉ p.srv.pool.availableIndexSet := ⟨inside, unset⟩
  constructor
  · simp only [call, queue, Server.release, if_pos files]
  · simp only [call, set, Server.release, if_pos files]

theorem release_skips {s : Ref} (skips : ¬ (s < p.srv.pool.size ∧ s ∉ p.set)) :
    (p.call (.release s)).srv = p.srv := by
  have skips : ¬ (s < p.srv.pool.size ∧ s ∉ p.srv.pool.availableIndexSet) := skips
  simp only [call, Server.release, if_neg skips]

theorem release_size (p : Pooled) (s : Ref) :
    (p.call (.release s)).srv.pool.size = p.srv.pool.size := by
  simp only [call, Server.release]
  split <;> rfl

theorem next_cases {s : Ref} (next : p.srv.nextFree = some s) :
    p.queue = s :: p.queue.tail ∨ p.queue = [] ∧ s = p.srv.pool.size := by
  simp only [Server.nextFree] at next
  split at next
  · rename_i t rest queued
    cases next
    left
    simp only [queue, queued, List.tail_cons]
  · rename_i queued
    split at next
    · cases next
    · cases next
      exact .inr ⟨queued, rfl⟩

theorem acquire_takes {s : Ref} (next : p.srv.nextFree = some s) (now : Time) (sessionId : Int) :
    (p.call (.acquire now sessionId)).queue = p.queue.tail ∧
      (p.call (.acquire now sessionId)).set = p.set.erase s ∧
      (p.call (.acquire now sessionId)).out = s :: p.out ∧
      (p.call (.acquire now sessionId)).srv.pool.size = max p.srv.pool.size (s + 1) := by
  simp only [call, next]
  exact ⟨rfl, rfl, trivial, rfl⟩

theorem acquire_refused (full : p.srv.nextFree = none) (now : Time) (sessionId : Int) :
    p.call (.acquire now sessionId) = p := by
  simp only [call, full]

/-- **One call**: what the set holds stays queued. -/
theorem Filed.step (filed : p.Filed) (c : PoolCall) : (p.call c).Filed := by
  cases c with
  | acquire now sessionId =>
      rcases next : p.srv.nextFree with _ | s
      · rwa [acquire_refused next]
      · obtain ⟨queue, set, out, size⟩ := acquire_takes next now sessionId
        refine ⟨?_, ?_, ?_, ?_⟩
        · rw [set]
          exact filed.distinct.erase s
        · rw [set, queue]
          intro x member
          obtain ⟨other, before⟩ := filed.distinct.mem_erase_iff.mp member
          have queued := filed.within before
          rcases next_cases next with first | ⟨empty, -⟩
          · rw [first] at queued
            exact (List.mem_cons.mp queued).resolve_left other
          · rw [empty] at queued
            cases queued
        · rw [queue, size]
          intro x member
          exact Nat.lt_of_lt_of_le (filed.pooled x (List.mem_of_mem_tail member))
            (Nat.le_max_left _ _)
        · rw [out, size]
          intro x member
          rcases List.mem_cons.mp member with rfl | before
          · exact Nat.lt_of_lt_of_le (Nat.lt_succ_self _) (Nat.le_max_right _ _)
          · exact Nat.lt_of_lt_of_le (filed.outside x before) (Nat.le_max_left _ _)
  | release s =>
      have outside : ∀ x ∈ (p.call (.release s)).out, x < p.srv.pool.size := by
        intro x member
        exact filed.outside x (List.mem_of_mem_filter member)
      by_cases files : s < p.srv.pool.size ∧ s ∉ p.set
      · obtain ⟨queue, set⟩ := release_files files.1 files.2
        refine ⟨?_, ?_, ?_, ?_⟩
        · rw [set]
          exact List.nodup_cons.mpr ⟨files.2, filed.distinct⟩
        · rw [set, queue]
          intro x member
          rcases List.mem_cons.mp member with rfl | before
          · simp
          · exact List.mem_append.mpr (.inl (filed.within before))
        · rw [queue, release_size]
          intro x member
          rcases List.mem_append.mp member with before | new
          · exact filed.pooled x before
          · rw [List.mem_singleton.mp new]
            exact files.1
        · rwa [release_size]
      · have same := release_skips files
        refine ⟨?_, ?_, ?_, ?_⟩
        · show (p.call (.release s)).srv.pool.availableIndexSet.Nodup
          rw [same]
          exact filed.distinct
        · show (p.call (.release s)).srv.pool.availableIndexSet ⊆
            (p.call (.release s)).srv.pool.reusableIndices
          rw [same]
          exact filed.within
        · show ∀ x ∈ (p.call (.release s)).srv.pool.reusableIndices, _
          rw [same]
          exact filed.pooled
        · rwa [release_size]

/-! ## Queued at most once -/

/-- Nobody out is queued. -/
structure Apart (p : Pooled) : Prop where
  queued : p.queue.Nodup
  out : ∀ s ∈ p.out, s ∉ p.queue

theorem Apart.once (apart : p.Apart) (filed : p.Filed) : p.Once where
  queued := apart.queued
  handed s next out := by
    rcases next_cases next with first | ⟨-, rfl⟩
    · exact apart.out s out (first ▸ List.mem_cons_self)
    · exact absurd (filed.outside _ out) (Nat.lt_irrefl _)

/-- A call that releases only what the set knows of, or what is not queued. -/
theorem Apart.step (apart : p.Apart) {c : PoolCall} (returned : p.Returned c) :
    (p.call c).Apart := by
  cases c with
  | acquire now sessionId =>
      rcases next : p.srv.nextFree with _ | s
      · rwa [acquire_refused next]
      · obtain ⟨queue, -, out, -⟩ := acquire_takes next now sessionId
        have distinct := apart.queued
        constructor
        · rw [queue]
          exact distinct.tail
        · rw [queue, out]
          intro x member queued
          rcases List.mem_cons.mp member with rfl | before
          · rcases next_cases next with first | ⟨empty, -⟩
            · rw [first] at distinct
              exact (List.nodup_cons.mp distinct).1 queued
            · rw [empty] at queued
              cases queued
          · exact apart.out x before (List.mem_of_mem_tail queued)
  | release s =>
      have out : ∀ x ∈ (p.call (.release s)).out, x ∈ p.out ∧ x ≠ s := by
        intro x member
        have kept := List.mem_filter.mp member
        exact ⟨kept.1, of_decide_eq_true kept.2⟩
      by_cases files : s < p.srv.pool.size ∧ s ∉ p.set
      · obtain ⟨queue, -⟩ := release_files files.1 files.2
        have unqueued : s ∉ p.queue := fun queued => files.2 (returned queued)
        constructor
        · rw [queue]
          exact List.nodup_append.mpr ⟨apart.queued, List.nodup_singleton s, by
            rintro x queued y new rfl
            rw [List.mem_singleton.mp new] at queued
            exact unqueued queued⟩
        · rw [queue]
          intro x member queued
          obtain ⟨before, other⟩ := out x member
          rcases List.mem_append.mp queued with old | new
          · exact apart.out x before old
          · exact other (List.mem_singleton.mp new)
      · have same : (p.call (.release s)).queue = p.queue :=
          congrArg (fun srv => srv.pool.reusableIndices) (release_skips files)
        constructor
        · rw [same]
          exact apart.queued
        · rw [same]
          intro x member
          exact apart.out x (out x member).1

/-- A call after which every index is queued at most once has released nothing that
is queued and not in the set. -/
theorem returned_of_nodup (filed : p.Filed) {c : PoolCall} (distinct : (p.call c).queue.Nodup) :
    p.Returned c := by
  cases c with
  | acquire now sessionId => exact trivial
  | release s =>
      intro queued
      by_contra unset
      obtain ⟨queue, -⟩ := release_files (filed.pooled s queued) unset
      rw [queue] at distinct
      exact (List.nodup_append.mp distinct).2.2 s queued s (List.mem_singleton_self s) rfl

/-! ## Queue and set -/

theorem Agree.returned (agree : p.Agree) (c : PoolCall) : p.Returned c := by
  cases c with
  | acquire now sessionId => exact trivial
  | release s => exact (agree s).mpr

theorem Agree.step (agree : p.Agree) (filed : p.Filed) (apart : p.Apart) (c : PoolCall) :
    (p.call c).Agree := by
  cases c with
  | acquire now sessionId =>
      rcases next : p.srv.nextFree with _ | s
      · rwa [acquire_refused next]
      · obtain ⟨queue, set, -, -⟩ := acquire_takes next now sessionId
        have distinct := apart.queued
        intro x
        rw [set, queue, filed.distinct.mem_erase_iff, agree x]
        rcases next_cases next with first | ⟨empty, -⟩
        · rw [first] at distinct ⊢
          have gone := (List.nodup_cons.mp distinct).1
          simp only [List.mem_cons, List.tail_cons]
          constructor
          · rintro ⟨other, queued⟩
            exact queued.resolve_left other
          · intro queued
            exact ⟨fun same => gone (same ▸ queued), .inr queued⟩
        · simp [empty]
  | release s =>
      by_cases files : s < p.srv.pool.size ∧ s ∉ p.set
      · obtain ⟨queue, set⟩ := release_files files.1 files.2
        intro x
        rw [set, queue, List.mem_cons, List.mem_append, List.mem_singleton, agree x]
        exact or_comm
      · have same := release_skips files
        show ∀ x, x ∈ (p.call (.release s)).srv.pool.availableIndexSet ↔
          x ∈ (p.call (.release s)).srv.pool.reusableIndices
        rw [same]
        exact agree

/-! ## A new pool -/

theorem new_queue (env : Env) : (after env []).queue = List.range env.config.sessionPoolSize := rfl

theorem new_filed (env : Env) : (after env []).Filed where
  distinct := List.nodup_nil
  within := List.nil_subset _
  pooled _ queued := List.mem_range.mp (new_queue env ▸ queued)
  outside := fun _ member => nomatch member

theorem new_apart (env : Env) : (after env []).Apart where
  queued := List.nodup_range
  out := fun _ member => nomatch member

/-- What the claimants of a free pool may count on: queue and set agree, and no
session is handed out twice. -/
structure Sound (p : Pooled) : Prop where
  agree : p.Agree
  once : p.Once

theorem filed_run (filed : p.Filed) (calls : List PoolCall) : (run call p calls).Filed :=
  run_invariant (fun _ c filed _ => filed.step c) filed (along_true p calls)

/-- Queued at most once throughout, and every call has released what it may. -/
theorem along_of_nodup (filed : p.Filed) {calls : List PoolCall}
    (distinct : ∀ front, front <+: calls → (run call p front).queue.Nodup) :
    Along call Returned p calls := by
  induction calls generalizing p with
  | nil => trivial
  | cons c calls ih =>
      have next : (p.call c).queue.Nodup :=
        distinct [c] ((List.prefix_cons_inj c).mpr List.nil_prefix)
      refine ⟨returned_of_nodup filed next, ih (filed.step c) fun front within => ?_⟩
      exact distinct (c :: front) ((List.prefix_cons_inj c).mpr within)

theorem apart_run (apart : p.Apart) {calls : List PoolCall}
    (returned : Along call Returned p calls) : (run call p calls).Apart :=
  run_invariant (fun _ _ apart returned => apart.step returned) apart returned

/-- An agreement at the start lasts. -/
theorem agree_run (agree : p.Agree) (filed : p.Filed) (apart : p.Apart) (calls : List PoolCall) :
    (run call p calls).Agree ∧ (run call p calls).Apart := by
  have all : ∀ q c, (Agree q ∧ q.Filed ∧ q.Apart) → True →
      Agree (q.call c) ∧ (q.call c).Filed ∧ (q.call c).Apart := by
    rintro q c ⟨agree, filed, apart⟩ -
    exact ⟨agree.step filed apart c, filed.step c, apart.step (agree.returned c)⟩
  obtain ⟨agree, -, apart⟩ := run_invariant all ⟨agree, filed, apart⟩ (along_true p calls)
  exact ⟨agree, apart⟩

/-- **The pool and its set.**  Whatever is called, a new pool is sound throughout
exactly when it was built empty; and it hands out no session twice, with every index
queued at most once, exactly when no call releases an object that is queued and that
the set does not know: one never handed out. -/
theorem pool_sound_iff (env : Env) (calls : List PoolCall) :
    ((∀ front, front <+: calls → (after env front).Sound) ↔ env.config.sessionPoolSize = 0) ∧
      ((∀ front, front <+: calls → (after env front).Once) ↔
        Along call Returned (after env []) calls) := by
  have filed (front : List PoolCall) : (after env front).Filed := filed_run (new_filed env) front
  constructor
  · constructor
    · intro sound
      have start := (sound [] List.nil_prefix).agree
      by_contra filled
      have queued : 0 ∈ (after env []).queue := by
        rw [new_queue]
        exact List.mem_range.mpr (Nat.pos_of_ne_zero filled)
      exact absurd ((start 0).mpr queued) (List.not_mem_nil)
    · intro empty front _
      have start : (after env []).Agree := by
        intro s
        rw [new_queue, empty]
        exact Iff.rfl
      obtain ⟨agree, apart⟩ := agree_run start (new_filed env) (new_apart env) front
      exact ⟨agree, apart.once (filed front)⟩
  · constructor
    · intro once
      exact along_of_nodup (new_filed env) fun front within => (once front within).queued
    · rintro along front ⟨back, rfl⟩
      have apart := apart_run (new_apart env) (along_append.mp along).1
      exact apart.once (filed front)

/-- A new pool of one, released before it is handed out, hands it out twice. -/
theorem handed_out_twice :
    ¬ (after (trialEnv 1) []).Sound ∧
      (after (trialEnv 1) [.release 0, .acquire 0 1]).srv.nextFree = some 0 ∧
      0 ∈ (after (trialEnv 1) [.release 0, .acquire 0 1]).out := by
  refine ⟨fun sound => ?_, by decide +kernel, by decide +kernel⟩
  exact absurd ((sound.agree 0).mpr (by decide +kernel)) (by decide +kernel)

end Pooled

end GameServer.Kernel
