/-
# Kernel.Occupancy -- registered objects are not free

`add_session` files whatever it is given, and a login completion gives it the
object of the login, free or not.  Everything else keeps the manager and the pool
apart: a close takes the entry away before it gives the object back.

* `Tidy.exec` -- one operation, where a completion meets an object that is held;
* `registered_apart` -- whole runs;
* `answer_files_free` -- a login, a disconnect, and the answer files the object
  the pool has taken back.
-/
import GameServer.Kernel.Completion

namespace GameServer.Kernel

set_option autoImplicit false

open Wire Dbmw Theory.Runs

/-! ## What is asked of a server -/

/-- Every entry of every bucket is under the id of an object that was handed out and
has not come back, and no object is under two ids. -/
structure Server.RegisteredApart (srv : Server) : Prop where
  entry : ∀ shard sessionId s, (srv.manager.sessionBuckets shard).lookup sessionId = some s →
    (srv.obj s).sessionId = sessionId ∧ s < srv.pool.size ∧ s ∉ srv.pool.reusableIndices
  once : ∀ shard shard' sessionId sessionId' s,
    (srv.manager.sessionBuckets shard).lookup sessionId = some s →
    (srv.manager.sessionBuckets shard').lookup sessionId' = some s → sessionId = sessionId'

namespace Registry

/-- What a completion has to meet. -/
def EnrollsHeld (r : Registry) : Note → Prop
  | .enroll flow _ _ _ => r.Held flow.session
  | _ => True

instance (r : Registry) : ∀ note, Decidable (r.EnrollsHeld note)
  | .enroll _ _ _ _ => inferInstanceAs (Decidable (r.Held _))
  | .accept _ => inferInstanceAs (Decidable True)
  | .close _ => inferInstanceAs (Decidable True)
  | .registerUdp _ _ => inferInstanceAs (Decidable True)
  | .clearUdpToken _ => inferInstanceAs (Decidable True)

structure Tidy (r : Registry) : Prop where
  entry : ∀ sessionId s, r.entry sessionId = some s → (r.holder s).sessionId = sessionId ∧ r.Held s
  nodup : r.free.Nodup
  inPool : ∀ s ∈ r.free, s < r.size
  available : ∀ s ∈ r.available, s ∈ r.free
  once : r.available.Nodup

/-! ## One operation -/

/-- Holders may change in anything but their ids. -/
theorem Tidy.congr {r r' : Registry} (tidy : r.Tidy)
    (ids : ∀ s, (r'.holder s).sessionId = (r.holder s).sessionId) (size : r'.size = r.size)
    (free : r'.free = r.free) (available : r'.available = r.available) (entry : r'.entry = r.entry) :
    r'.Tidy where
  entry sessionId s found := by
    rw [ids, Held, size, free]
    exact tidy.entry sessionId s (entry ▸ found)
  nodup := free ▸ tidy.nodup
  inPool s member := size ▸ tidy.inPool s (free ▸ member)
  available s member := free ▸ tidy.available s (available ▸ member)
  once := available ▸ tidy.once

theorem Tidy.modify {r : Registry} (tidy : r.Tidy) {s : Ref} {f : Holder → Holder}
    (same : (f (r.holder s)).sessionId = (r.holder s).sessionId) : (r.modify s f).Tidy :=
  tidy.congr (modify_keeps same) rfl rfl rfl rfl

/-- An object no entry names may go back to the pool. -/
theorem Tidy.release {r : Registry} (tidy : r.Tidy) {s : Ref} (held : s ∉ r.free)
    (unfiled : ∀ sessionId, r.entry sessionId ≠ some s) : (r.release s).Tidy := by
  unfold Registry.release
  split
  · rename_i returns
    have cleaned : (r.modify s fun h => { h.clean with life := .released }).Tidy := tidy.modify rfl
    refine ⟨fun sessionId x found => ?_, ?_, fun x member => ?_, fun x member => ?_,
      List.nodup_cons.mpr ⟨returns.2, tidy.once⟩⟩
    · obtain ⟨filed, inside, out⟩ := cleaned.entry sessionId x found
      have other : x ≠ s := by
        rintro rfl
        exact unfiled sessionId found
      exact ⟨filed, inside, by simpa [other] using out⟩
    · exact List.nodup_append.mpr ⟨tidy.nodup, List.nodup_singleton s, by
        rintro a member b single rfl
        exact held (List.mem_singleton.mp single ▸ member)⟩
    · rcases List.mem_append.mp member with old | new
      · exact tidy.inPool x old
      · rw [List.mem_singleton.mp new]
        exact returns.1
    · rcases List.mem_cons.mp member with rfl | old
      · exact List.mem_append.mpr (.inr List.mem_cons_self)
      · exact List.mem_append.mpr (.inl (tidy.available x old))
  · exact tidy

/-- The entry goes first, so the object released is named by none. -/
theorem Tidy.remove {r : Registry} (tidy : r.Tidy) (sessionId : Int) : (r.remove sessionId).Tidy := by
  cases found : r.entry sessionId with
  | none => rwa [remove_of_none found]
  | some s =>
      obtain ⟨filed, -, held⟩ := tidy.entry sessionId s found
      obtain ⟨zoneId, removed⟩ := remove_of_entry found
      have erased : ∀ id x, (r.setEntry sessionId none).entry id = some x →
          id ≠ sessionId ∧ r.entry id = some x := by
        intro id x entry
        by_cases here : id = sessionId
        · subst here; simp at entry
        · exact ⟨here, setEntry_other r _ _ here ▸ entry⟩
      have unfiled : (r.setEntry sessionId none).Tidy :=
        ⟨fun id x entry => tidy.entry id x (erased id x entry).2, tidy.nodup, tidy.inPool,
          tidy.available, tidy.once⟩
      rw [removed]
      refine Tidy.release (unfiled.modify rfl) held fun id named => ?_
      obtain ⟨other, old⟩ := erased id s named
      exact other ((tidy.entry id s old).1.symm.trans filed)

theorem Tidy.close {r : Registry} (tidy : r.Tidy) (s : Ref) : (r.close s).Tidy := by
  unfold Registry.close
  split
  · exact Tidy.modify (Tidy.remove (tidy.modify (s := s) (f := Holder.shut) rfl) _) rfl
  · exact tidy

theorem Tidy.setEntry {r : Registry} (tidy : r.Tidy) {s : Ref} (held : r.Held s) :
    (r.setEntry (r.holder s).sessionId (some s)).Tidy := by
  refine ⟨fun sessionId x found => ?_, tidy.nodup, tidy.inPool, tidy.available, tidy.once⟩
  by_cases here : sessionId = (r.holder s).sessionId
  · subst here
    rw [setEntry_self] at found
    cases found
    exact ⟨rfl, held⟩
  · rw [setEntry_other _ _ _ here] at found
    exact tidy.entry sessionId x found

theorem Tidy.file {r : Registry} (tidy : r.Tidy) {s : Ref} (held : r.Held s) : (r.file s).Tidy := by
  unfold Registry.file
  dsimp only
  split
  · exact (tidy.setEntry held).close _
  · exact tidy.setEntry held

theorem Tidy.evict {r : Registry} (tidy : r.Tidy) (nickname : String) (s : Ref) :
    (r.evict nickname s).Tidy := by
  unfold Registry.evict
  split
  · split
    · exact tidy.close _
    · exact tidy
  · exact tidy

/-- The object handed out was free, or is new. -/
theorem nextFree_cases {r : Registry} {s : Ref} (next : r.nextFree = some s) :
    (∃ rest, r.free = s :: rest) ∨ r.free = [] ∧ s = r.size := by
  unfold nextFree at next
  split at next
  · rename_i head rest same
    cases next
    exact .inl ⟨rest, same⟩
  · rename_i same
    split at next
    · cases next
    · cases next
      exact .inr ⟨same, rfl⟩

theorem not_held_of_nextFree {r : Registry} {s : Ref} (next : r.nextFree = some s) : ¬ r.Held s := by
  rintro ⟨inside, out⟩
  rcases nextFree_cases next with ⟨rest, same⟩ | ⟨-, rfl⟩
  · exact out (same ▸ List.mem_cons_self)
  · exact Nat.lt_irrefl _ inside

/-- Handing out takes the object off the free list, and it was in no bucket. -/
theorem Tidy.acquire {r : Registry} (tidy : r.Tidy) {s : Ref} (next : r.nextFree = some s)
    (sessionId : Int) : (r.acquire sessionId s).Tidy ∧ (r.acquire sessionId s).Held s := by
  have notHeld := not_held_of_nextFree next
  have taken : s ∉ r.free.tail ∧ (∀ x, x ≠ s → x ∈ r.free → x ∈ r.free.tail) := by
    rcases nextFree_cases next with ⟨rest, same⟩ | ⟨same, -⟩
    · have nodup := tidy.nodup
      rw [same] at nodup ⊢
      exact ⟨(List.nodup_cons.mp nodup).1, fun x other member =>
        (List.mem_cons.mp member).resolve_left other⟩
    · rw [same]
      exact ⟨List.not_mem_nil, fun x _ member => member⟩
  refine ⟨⟨fun id x found => ?_, ?_, fun x member => ?_, fun x member => ?_,
    tidy.once.erase s⟩, Nat.lt_of_lt_of_le (Nat.lt_succ_self s) (Nat.le_max_right ..),
    taken.1⟩
  · obtain ⟨filed, inside, out⟩ := tidy.entry id x found
    have other : x ≠ s := by
      rintro rfl
      exact notHeld ⟨inside, out⟩
    refine ⟨?_, Nat.lt_of_lt_of_le inside (Nat.le_max_left ..), fun member =>
      out (List.mem_of_mem_tail member)⟩
    exact (congrArg Holder.sessionId (modify_other r s (Holder.handOut sessionId) other)).trans filed
  · exact tidy.nodup.tail
  · exact Nat.lt_of_lt_of_le (tidy.inPool x (List.mem_of_mem_tail member)) (Nat.le_max_left ..)
  · obtain ⟨other, old⟩ := (tidy.once.mem_erase_iff).mp member
    exact taken.2 x other (tidy.available x old)

theorem Tidy.accept {r : Registry} (tidy : r.Tidy) (sessionId : Int) : (r.accept sessionId).Tidy := by
  unfold Registry.accept
  cases next : r.nextFree with
  | none => exact tidy
  | some s =>
      obtain ⟨handed, held⟩ := tidy.acquire next sessionId
      exact handed.file held

theorem Tidy.exec {r : Registry} (tidy : r.Tidy) {note : Note} (held : r.EnrollsHeld note) :
    (r.exec note).Tidy := by
  cases note with
  | accept sessionId => exact tidy.accept sessionId
  | close s => exact tidy.close s
  | enroll flow generation serving zoneId =>
      have evicted := ((tidy.file held).evict flow.nickname flow.session).evict flow.nickname
        flow.session
      have indexed : ((((r.file flow.session).evict flow.nickname flow.session).evict flow.nickname
          flow.session).setIndex flow.nickname flow.session).Tidy :=
        evicted.congr (fun _ => rfl) rfl rfl rfl rfl
      exact indexed.modify (f := fun h => { h with nickname := flow.nickname, zoneId }) rfl
  | registerUdp s registration => exact tidy.modify rfl
  | clearUdpToken s => exact tidy.modify rfl

end Registry

namespace Server

theorem initial_tidy (env : Env) (router : Option (DBmwRouter LoginFlow)) :
    ((initial env router).registry env).Tidy := by
  refine ⟨fun sessionId s found => ?_, List.nodup_range, fun s member => List.mem_range.mp member,
    by simp [registry, initial], List.nodup_nil⟩
  simp [registry, initial, SessionManager.findSession] at found

/-- **Registered objects are not free**, in every run whose completions meet objects
that are held. -/
theorem registered_apart (env : Env) (router : Option (DBmwRouter LoginFlow)) (events : List Event)
    (held : Along (step env)
      (fun srv e => Along Registry.exec Registry.EnrollsHeld (srv.registry env) (notes env srv e))
      (initial env router) events) :
    (after env router events).RegisteredApart := by
  have tidy : ((after env router events).registry env).Tidy :=
    (step_refines env).invariant Registry.Tidy
      (fun r notes tidy held _ => run_invariant (fun _ _ tidy => tidy.exec) tidy held)
      (initial_sane env router) (initial_tidy env router) held
  refine ⟨fun shard sessionId s found => ?_, fun shard shard' sessionId sessionId' s one other => ?_⟩
  · exact tidy.entry sessionId s (SessionManager.findSession_of_bucket found)
  · have first := (tidy.entry sessionId s (SessionManager.findSession_of_bucket one)).1
    have second := (tidy.entry sessionId' s (SessionManager.findSession_of_bucket other)).1
    exact first.symm.trans second

/-- The answer to a login comes after its connection has been reset. -/
def answerAfterClose : List Event :=
  [.dbConnected true, .accept 0 [0]] ++ signIn ⟨0, 1, 2⟩ ++
    [.readDone ⟨⟨0, 1, 2⟩, true⟩ .connectionReset, .dbMessage (kimFound "0_1")]

/-- **The answer files an object the pool has taken back.** -/
theorem answer_files_free :
    ¬ (after (trialEnv 1) (some trialRouter) answerAfterClose).RegisteredApart := by
  intro apart
  obtain ⟨-, -, out⟩ := apart.entry 0 0 0 (by decide +kernel)
  exact out (by decide +kernel)

/-- The same login, answered before the connection goes. -/
theorem registered_apart_in_time :
    (after (trialEnv 1) (some trialRouter)
      ([.dbConnected true, .accept 0 [0]] ++ signIn ⟨0, 1, 2⟩ ++
        [.dbMessage (kimFound "0_1"), .readDone ⟨⟨0, 1, 2⟩, true⟩ .connectionReset])).RegisteredApart :=
  registered_apart _ _ _ (by decide +kernel)

end Server

end GameServer.Kernel
