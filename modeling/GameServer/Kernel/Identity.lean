/-
# Kernel.Identity -- one id, one object

Ids come from a counter of 32 bits.  As long as no connection is given an id that an
object still carries, a close reaches the object it is called on and no other,
and filing an object closes nobody.

* `Apart.exec` -- ids stay apart through every operation, the id of an accepted
  connection being fresh;
* `Apart.close_other`, `Apart.file_eq` -- what operations then leave alone.
-/
import GameServer.Kernel.Completion

namespace GameServer.Kernel

set_option autoImplicit false

open Theory.Runs

namespace Registry

/-- An accepted connection is given an id no object of the pool carries, nor the id of
an object that was never handed out. -/
def Fresh (r : Registry) : Note → Prop
  | .accept sessionId => sessionId ≠ -1 ∧ ∀ s < r.size, (r.holder s).sessionId ≠ sessionId
  | _ => True

instance (r : Registry) : ∀ note, Decidable (r.Fresh note)
  | .accept _ => inferInstanceAs (Decidable (_ ∧ _))
  | .close _ => inferInstanceAs (Decidable True)
  | .enroll _ _ _ _ => inferInstanceAs (Decidable True)
  | .registerUdp _ _ => inferInstanceAs (Decidable True)
  | .clearUdpToken _ => inferInstanceAs (Decidable True)

structure Apart (r : Registry) : Prop where
  beyond : ∀ s, r.size ≤ s → (r.holder s).sessionId = -1
  distinct : ∀ x y, (r.holder x).sessionId = (r.holder y).sessionId →
    x = y ∨ (r.holder x).strand = 0 ∧ (r.holder y).strand = 0
  entry : ∀ x y, r.entry (r.holder x).sessionId = some y → y = x
  idle : ∀ s, (r.holder s).life = .idle

theorem Apart.closable {r : Registry} (apart : r.Apart) (s : Ref) : (r.holder s).Closable :=
  .inr (apart.idle s)

/-- A close touches no other object. -/
theorem Apart.close_other {r : Registry} (apart : r.Apart) {s x : Ref} (other : x ≠ s) :
    (r.close s).holder x = r.holder x :=
  Registry.close_other other fun found => other (apart.entry s x found)

theorem Apart.congr {r r' : Registry} (apart : r.Apart) (size : r'.size = r.size)
    (ids : ∀ s, (r'.holder s).sessionId = (r.holder s).sessionId)
    (strands : ∀ s, (r'.holder s).strand = (r.holder s).strand)
    (idle : ∀ s, (r'.holder s).life = .idle)
    (entry : ∀ id s, r'.entry id = some s → r.entry id = some s) : r'.Apart where
  beyond s outside := by
    rw [ids]
    exact apart.beyond s (size ▸ outside)
  distinct x y same := by
    rw [strands, strands]
    rw [ids, ids] at same
    exact apart.distinct x y same
  entry x y found := by
    rw [ids] at found
    exact apart.entry x y (entry _ y found)
  idle := idle

theorem Apart.modify {r : Registry} (apart : r.Apart) {s : Ref} {f : Holder → Holder}
    (ids : (f (r.holder s)).sessionId = (r.holder s).sessionId)
    (strands : (f (r.holder s)).strand = (r.holder s).strand)
    (life : (f (r.holder s)).life = (r.holder s).life) : (r.modify s f).Apart :=
  apart.congr rfl (modify_keeps ids) (modify_keeps strands)
    (fun x => (modify_keeps (g := Holder.life) life x).trans (apart.idle x)) fun _ _ => id

theorem Apart.close {r : Registry} (apart : r.Apart) (s : Ref) : (r.close s).Apart := by
  refine apart.congr (close_size r s) (close_sessionId r s) (close_strand r s) (fun x => ?_)
    fun id x found => ?_
  · by_cases here : x = s
    · subst here
      exact (close_self (apart.closable x)).2.2.1
    · rw [apart.close_other here, apart.idle]
  · rw [close_entry (apart.closable s)] at found
    split at found
    · cases found
    · exact found

theorem Apart.setEntry {r : Registry} (apart : r.Apart) {s : Ref}
    (used : 1 ≤ (r.holder s).strand) : (r.setEntry (r.holder s).sessionId (some s)).Apart where
  beyond := apart.beyond
  distinct := apart.distinct
  idle := apart.idle
  entry x y found := by
    rw [setEntry_holder] at found
    by_cases here : (r.holder x).sessionId = (r.holder s).sessionId
    · rw [here, setEntry_self] at found
      cases found
      rcases apart.distinct x s here with same | ⟨-, unused⟩
      · exact same.symm
      · rw [unused] at used
        exact absurd used (by decide)
    · rw [setEntry_other _ _ _ here] at found
      exact apart.entry x y found

/-- The entry an object replaces is its own, so nobody is closed. -/
theorem Apart.file_eq {r : Registry} (apart : r.Apart) (s : Ref) :
    r.file s = r.setEntry (r.holder s).sessionId (some s) := by
  unfold Registry.file
  dsimp only
  split
  · rename_i p replaced
    obtain ⟨found, differs⟩ := Option.filter_eq_some_iff.mp replaced
    rw [apart.entry s p found] at differs
    simp at differs
  · rfl

theorem Apart.evict {r : Registry} (apart : r.Apart) (nickname : String) (s : Ref) :
    (r.evict nickname s).Apart := by
  unfold Registry.evict
  split
  · split
    · exact apart.close _
    · exact apart
  · exact apart

/-- An eviction leaves the one who takes the nickname. -/
theorem Apart.evict_self {r : Registry} (apart : r.Apart) (nickname : String) (s : Ref) :
    (r.evict nickname s).holder s = r.holder s := by
  unfold Registry.evict
  split
  · split
    · rename_i p _ other
      exact apart.close_other (Ne.symm other)
    · rfl
  · rfl

/-- The object handed out under a fresh id, filed. -/
theorem Apart.acquire {r : Registry} (apart : r.Apart) {sessionId : Int}
    (fresh : r.Fresh (.accept sessionId)) (s : Ref) :
    ((r.acquire sessionId s).setEntry sessionId (some s)).Apart := by
  have handed : ∀ x, ((r.acquire sessionId s).setEntry sessionId (some s)).holder x =
      (r.modify s (Holder.handOut sessionId)).holder x := fun _ => rfl
  have other : ∀ x, x ≠ s →
      ((r.acquire sessionId s).setEntry sessionId (some s)).holder x = r.holder x :=
    fun x away => (handed x).trans (modify_other _ _ _ away)
  have self : ((r.acquire sessionId s).setEntry sessionId (some s)).holder s =
      (r.holder s).handOut sessionId := (handed s).trans (modify_self _ _ _)
  have foreign : ∀ x, x ≠ s → (r.holder x).sessionId ≠ sessionId := by
    intro x away same
    rcases Nat.lt_or_ge x r.size with inside | outside
    · exact fresh.2 x inside same
    · exact fresh.1 (same.symm.trans (apart.beyond x outside))
  refine ⟨fun x outside => ?_, fun x y same => ?_, fun x y found => ?_, fun x => ?_⟩
  · have away : x ≠ s := by
      rintro rfl
      exact absurd (Nat.le_trans (Nat.le_max_right ..) outside) (Nat.not_succ_le_self x)
    rw [other x away]
    exact apart.beyond x (Nat.le_trans (Nat.le_max_left ..) outside)
  · by_cases hx : x = s
    · by_cases hy : y = s
      · exact .inl (hx.trans hy.symm)
      · subst hx
        rw [self, other y hy] at same
        exact absurd same.symm (foreign y hy)
    · by_cases hy : y = s
      · subst hy
        rw [self, other x hx] at same
        exact absurd same (foreign x hx)
      · rw [other x hx, other y hy] at same ⊢
        exact apart.distinct x y same
  · by_cases hx : x = s
    · subst hx
      rw [self, Holder.handOut, setEntry_self] at found
      exact (Option.some.inj found).symm
    · rw [other x hx, setEntry_other _ _ _ (foreign x hx)] at found
      exact apart.entry x y found
  · by_cases hx : x = s
    · subst hx
      rw [self]
      rfl
    · rw [other x hx, apart.idle]

/-- The accepted object is filed; whoever was left under its id is closed. -/
theorem accept_eq {r : Registry} (sessionId : Int) {s : Ref} (next : r.nextFree = some s) :
    r.accept sessionId = (r.acquire sessionId s).setEntry sessionId (some s) ∨
      ∃ p, p ≠ s ∧ r.entry sessionId = some p ∧
        r.accept sessionId = ((r.acquire sessionId s).setEntry sessionId (some s)).close p := by
  have given : ((r.acquire sessionId s).holder s).sessionId = sessionId :=
    congrArg Holder.sessionId (modify_self r s (Holder.handOut sessionId))
  unfold Registry.accept
  rw [next]
  dsimp only
  unfold Registry.file
  dsimp only
  rw [given]
  split
  · rename_i p replaced
    obtain ⟨found, differs⟩ := Option.filter_eq_some_iff.mp replaced
    refine .inr ⟨p, ?_, found, rfl⟩
    rintro rfl
    simp at differs
  · exact .inl rfl

theorem Apart.accept {r : Registry} (apart : r.Apart) {sessionId : Int}
    (fresh : r.Fresh (.accept sessionId)) : (r.accept sessionId).Apart := by
  cases next : r.nextFree with
  | none =>
      unfold Registry.accept
      rwa [next]
  | some s =>
      rcases accept_eq sessionId next with filed | ⟨p, -, -, filed⟩
      · rw [filed]
        exact apart.acquire fresh s
      · rw [filed]
        exact (apart.acquire fresh s).close p

theorem Apart.exec {r : Registry} (apart : r.Apart) {note : Note} (fresh : r.Fresh note)
    (lawful : r.Lawful note) : (r.exec note).Apart := by
  cases note with
  | accept sessionId => exact apart.accept fresh
  | close s => exact apart.close s
  | enroll flow generation serving zoneId =>
      obtain ⟨fits, -⟩ := lawful
      have filed : (r.file flow.session).Apart := by
        rw [apart.file_eq]
        exact apart.setEntry (Nat.le_trans fits.used fits.strand)
      have indexed : ((((r.file flow.session).evict flow.nickname flow.session).evict flow.nickname
          flow.session).setIndex flow.nickname flow.session).Apart :=
        ((filed.evict _ _).evict _ _).congr rfl (fun _ => rfl) (fun _ => rfl)
          ((filed.evict _ _).evict _ _).idle fun _ _ => id
      exact indexed.modify (f := fun h => { h with nickname := flow.nickname, zoneId }) rfl rfl rfl
  | registerUdp s registration => exact apart.modify rfl rfl rfl
  | clearUdpToken s => exact apart.modify rfl rfl rfl

end Registry

theorem Server.initial_apart (env : Env) (router : Option (Dbmw.DBmwRouter LoginFlow)) :
    ((Server.initial env router).registry env).Apart :=
  ⟨fun _ _ => rfl, fun _ _ _ => .inr ⟨rfl, rfl⟩, fun x y found => by
    simp [registry, initial, SessionManager.findSession] at found, fun _ => rfl⟩

end GameServer.Kernel
