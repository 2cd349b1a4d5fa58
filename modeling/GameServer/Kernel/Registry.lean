/-
# Kernel.Registry -- who a session object is: the identity layer, abstractly

What remains of a server when queues, buffers and messages are forgotten: which
object serves which connection under which id, nickname and UDP binding, which
objects are free, and the two indexes, the manager's by id and the nickname's.  The
shards are one map here and the operations are whole: an accepted connection, a
close, a login completion is one step (`exec`), each with everything it does to
other objects.

`Older` says what no operation undoes, and `Fits` what a read that was started in
some use may rely on later: its object's generation is the one of that use only
while the object is still open and serves that use.
-/
import GameServer.Kernel.Server
import GameServer.Theory.Runs

namespace GameServer.Kernel

set_option autoImplicit false

open Theory.Runs

structure Binding where
  endpoint : Option Endpoint := none
  token : String := ""
  issued : Time := 0
  lifetime : Int := 300
  registration : Option Registration := none
deriving DecidableEq, Repr

structure Holder where
  sessionId : Int
  nickname : String
  isOpen : Bool
  strand : Nat
  generation : Nat
  life : LifeState
  zoneId : Int
  udp : Binding
deriving DecidableEq, Repr

namespace Holder

/-- The acquisition an open object serves. -/
def serving (h : Holder) : Option Nat := if h.isOpen then some h.strand else none

/-- `close_session` gets past its guard. -/
def Closable (h : Holder) : Prop := h.life = .active ∨ h.life = .idle

instance (h : Holder) : Decidable h.Closable := inferInstanceAs (Decidable (_ ∨ _))

def handOut (sessionId : Int) (h : Holder) : Holder where
  sessionId := sessionId
  nickname := ""
  isOpen := true
  strand := h.strand + 1
  generation := h.generation + 2
  life := .idle
  zoneId := -1
  udp := {}

def shut (h : Holder) : Holder := { h with isOpen := false, life := .closed }

def clean (h : Holder) : Holder :=
  { h with
    nickname := ""
    generation := h.generation + 1
    life := .idle
    zoneId := -1
    udp := { h.udp with endpoint := none, token := "", registration := none } }

def clearToken (h : Holder) : Holder := { h with udp := { h.udp with token := "", issued := 0 } }

/-- What removal does to an object that is not free yet. -/
def takeBack (h : Holder) : Holder := { h.clearToken.clean with life := .released }

def bind (e : Endpoint) (h : Holder) : Holder := { h with udp := { h.udp with endpoint := some e } }

def register (r : Registration) (lifetime : Int) (h : Holder) : Holder :=
  { h with udp := ⟨some r.endpoint, r.token, r.issued, lifetime, some r⟩ }

end Holder

structure Registry where
  holder : Ref → Holder
  size : Nat
  maxSize : Nat
  free : List Ref
  available : List Ref
  entry : Int → Option Ref
  index : String → Option Ref
  zoneExists : Int → Bool
  /-- The configured lifetime of a token, in seconds. -/
  lifetime : Int

namespace Registry

def modify (r : Registry) (s : Ref) (f : Holder → Holder) : Registry :=
  { r with holder := Function.update r.holder s (f (r.holder s)) }

def setEntry (r : Registry) (sessionId : Int) (s : Option Ref) : Registry :=
  { r with entry := Function.update r.entry sessionId s }

def setIndex (r : Registry) (nickname : String) (s : Ref) : Registry :=
  { r with index := Function.update r.index nickname (some s) }

/-- An object that was handed out and has not come back. -/
def Held (r : Registry) (s : Ref) : Prop := s < r.size ∧ s ∉ r.free

instance (r : Registry) (s : Ref) : Decidable (r.Held s) := inferInstanceAs (Decidable (_ ∧ _))

/-- The object handed out next, `none` when there is none. -/
def nextFree (r : Registry) : Option Ref :=
  match r.free with
  | s :: _ => some s
  | [] => if r.maxSize ≤ r.size then none else some r.size

def release (r : Registry) (s : Ref) : Registry :=
  if s < r.size ∧ s ∉ r.available then
    { r.modify s fun h => { h.clean with life := .released } with
      free := r.free ++ [s], available := s :: r.available }
  else r

def leaveZone (r : Registry) (s : Ref) : Registry :=
  if -1 < (r.holder s).zoneId ∧ r.zoneExists (r.holder s).zoneId = true then
    r.modify s fun h => { h with zoneId := -1 }
  else r

def remove (r : Registry) (sessionId : Int) : Registry :=
  match r.entry sessionId with
  | none => r
  | some s => (((r.setEntry sessionId none).modify s Holder.clearToken).leaveZone s).release s

def close (r : Registry) (s : Ref) : Registry :=
  if (r.holder s).Closable then
    ((r.modify s Holder.shut).remove (r.holder s).sessionId).modify s Holder.clean
  else r

/-- `add_session`: the entry is replaced, then the session it held closed. -/
def file (r : Registry) (s : Ref) : Registry :=
  let sessionId := (r.holder s).sessionId
  let replaced := (r.entry sessionId).filter fun p =>
    decide ((r.holder p).generation ≠ (r.holder s).generation)
  match replaced with
  | some p => (r.setEntry sessionId (some s)).close p
  | none => r.setEntry sessionId (some s)

def acquire (r : Registry) (sessionId : Int) (s : Ref) : Registry :=
  { r.modify s (Holder.handOut sessionId) with
    size := max r.size (s + 1)
    free := r.free.tail
    available := r.available.erase s }

def accept (r : Registry) (sessionId : Int) : Registry :=
  match r.nextFree with
  | none => r
  | some s => (r.acquire sessionId s).file s

/-- The holder of a nickname, if another object, closed. -/
def evict (r : Registry) (nickname : String) (s : Ref) : Registry :=
  match r.index nickname with
  | some p => if p ≠ s then r.close p else r
  | none => r

/-- A login completion: filed, the nickname taken from its holder (whom
`register_nickname` evicts once more), indexed, named and zoned. -/
def enroll (r : Registry) (s : Ref) (nickname : String) (zoneId : Int) : Registry :=
  ((((r.file s).evict nickname s).evict nickname s).setIndex nickname s).modify s fun h =>
    { h with nickname := nickname, zoneId := zoneId }

def exec (r : Registry) : Note → Registry
  | .accept sessionId => r.accept sessionId
  | .close s => r.close s
  | .enroll flow _ _ zoneId => r.enroll flow.session flow.nickname zoneId
  | .registerUdp s registration => r.modify s (Holder.register registration r.lifetime)
  | .clearUdpToken s => r.modify s Holder.clearToken

/-! ## The operations, field by field -/

section Fields

variable (r : Registry) (s : Ref) (f : Holder → Holder)

@[simp] theorem modify_entry : (r.modify s f).entry = r.entry := rfl

@[simp] theorem modify_index : (r.modify s f).index = r.index := rfl

@[simp] theorem modify_free : (r.modify s f).free = r.free := rfl

@[simp] theorem modify_available : (r.modify s f).available = r.available := rfl

@[simp] theorem modify_size : (r.modify s f).size = r.size := rfl

@[simp] theorem modify_lifetime : (r.modify s f).lifetime = r.lifetime := rfl

@[simp] theorem modify_self : (r.modify s f).holder s = f (r.holder s) := by simp [modify]

theorem modify_other {x : Ref} (other : x ≠ s) : (r.modify s f).holder x = r.holder x := by
  simp [modify, other]

theorem modify_modify (g : Holder → Holder) :
    (r.modify s f).modify s g = r.modify s fun h => g (f h) := by simp [modify]

/-- What a modification keeps of the object it touches it keeps of every object. -/
theorem modify_keeps {α : Type} {g : Holder → α} {r : Registry} {s : Ref} {f : Holder → Holder}
    (same : g (f (r.holder s)) = g (r.holder s)) (x : Ref) :
    g ((r.modify s f).holder x) = g (r.holder x) := by
  by_cases here : x = s
  · subst here; rw [modify_self, same]
  · rw [modify_other _ _ _ here]

variable (sessionId : Int) (o : Option Ref)

@[simp] theorem setEntry_holder : (r.setEntry sessionId o).holder = r.holder := rfl

@[simp] theorem setEntry_index : (r.setEntry sessionId o).index = r.index := rfl

@[simp] theorem setEntry_size : (r.setEntry sessionId o).size = r.size := rfl

@[simp] theorem setEntry_lifetime : (r.setEntry sessionId o).lifetime = r.lifetime := rfl

@[simp] theorem setEntry_self : (r.setEntry sessionId o).entry sessionId = o := by simp [setEntry]

theorem setEntry_other {id : Int} (other : id ≠ sessionId) :
    (r.setEntry sessionId o).entry id = r.entry id := by simp [setEntry, other]

variable (nickname : String)

@[simp] theorem setIndex_holder : (r.setIndex nickname s).holder = r.holder := rfl

/-- Leaving the zone changes nothing but the zone. -/
theorem leaveZone_eq_modify : ∃ zoneId, r.leaveZone s = r.modify s fun h => { h with zoneId } := by
  unfold leaveZone
  split
  · exact ⟨-1, rfl⟩
  · refine ⟨(r.holder s).zoneId, ?_⟩
    have same : ({ r.holder s with zoneId := (r.holder s).zoneId } : Holder) = r.holder s := rfl
    simp only [modify, same, Function.update_eq_self]

@[simp] theorem release_entry : (r.release s).entry = r.entry := by
  unfold release
  split <;> rfl

@[simp] theorem release_index : (r.release s).index = r.index := by
  unfold release
  split <;> rfl

@[simp] theorem release_lifetime : (r.release s).lifetime = r.lifetime := by
  unfold release
  split <;> rfl

@[simp] theorem release_size : (r.release s).size = r.size := by
  unfold release
  split <;> rfl

theorem release_other {x : Ref} (other : x ≠ s) : (r.release s).holder x = r.holder x := by
  unfold release
  split
  · exact modify_other r s (fun h => { h.clean with life := .released }) other
  · rfl

theorem modify_preserves {P : Holder → Prop} {f : Holder → Holder} (step : ∀ h, P h → P (f h))
    {x : Ref} (kept : P (r.holder x)) : P ((r.modify s f).holder x) := by
  by_cases here : x = s
  · subst here
    rw [modify_self]
    exact step _ kept
  · rwa [modify_other _ _ _ here]

theorem release_preserves {P : Holder → Prop}
    (cleaned : ∀ h : Holder, P h → P { h.clean with life := .released }) {x : Ref}
    (kept : P (r.holder x)) : P ((r.release s).holder x) := by
  unfold release
  split
  · exact modify_preserves r s cleaned kept
  · exact kept

end Fields

/-! ### Evictions -/

theorem evict_of_index {r : Registry} {nickname : String} {s p : Ref}
    (holds : r.index nickname = some p) (other : p ≠ s) : r.evict nickname s = r.close p := by
  simp [evict, holds, other]

/-- An eviction is the close of another object, or nothing. -/
theorem evict_cases (r : Registry) (nickname : String) (s : Ref) :
    r.evict nickname s = r ∨
      ∃ p, r.index nickname = some p ∧ p ≠ s ∧ r.evict nickname s = r.close p := by
  cases holds : r.index nickname with
  | none => exact .inl (by simp [evict, holds])
  | some p =>
      by_cases other : p ≠ s
      · exact .inr ⟨p, rfl, other, evict_of_index holds other⟩
      · exact .inl (by simp [evict, holds, other])

/-! ## What no operation undoes -/

/-- Open objects were handed out. -/
def Opened (r : Registry) : Prop :=
  ∀ s, (r.holder s).isOpen = true → s < r.size ∧ 1 ≤ (r.holder s).strand

theorem Opened.modify {r : Registry} (opened : r.Opened) {s : Ref} {f : Holder → Holder}
    (shuts : (f (r.holder s)).isOpen = true → (r.holder s).isOpen = true)
    (strand : (r.holder s).strand ≤ (f (r.holder s)).strand) : (r.modify s f).Opened := by
  intro x isOpen
  by_cases here : x = s
  · subst here
    rw [modify_self] at isOpen ⊢
    have before := opened x (shuts isOpen)
    exact ⟨before.1, Nat.le_trans before.2 strand⟩
  · rw [modify_other _ _ _ here] at isOpen ⊢
    exact opened x isOpen

/-- Sizes, acquisitions and generations only grow, and an object of unchanged
generation is as open as it was, for the same acquisition. -/
structure Older (r r' : Registry) : Prop where
  size : r.size ≤ r'.size
  strand : ∀ s, (r.holder s).strand ≤ (r'.holder s).strand
  generation : ∀ s, (r.holder s).generation ≤ (r'.holder s).generation
  serving : ∀ s, (r.holder s).generation = (r'.holder s).generation →
    (r'.holder s).serving = (r.holder s).serving
  opened : r.Opened → r'.Opened

theorem Older.refl (r : Registry) : r.Older r :=
  ⟨Nat.le_refl _, fun _ => Nat.le_refl _, fun _ => Nat.le_refl _, fun _ _ => rfl, id⟩

theorem Older.trans {r r' r'' : Registry} (first : r.Older r') (second : r'.Older r'') :
    r.Older r'' where
  size := Nat.le_trans first.size second.size
  strand s := Nat.le_trans (first.strand s) (second.strand s)
  generation s := Nat.le_trans (first.generation s) (second.generation s)
  serving s same := by
    have lower := first.generation s
    have upper := second.generation s
    rw [second.serving s (by omega), first.serving s (by omega)]
  opened := second.opened ∘ first.opened

/-- A holder after one operation: no more open, and newer or served as before. -/
def Newer (h h' : Holder) : Prop :=
  h.strand ≤ h'.strand ∧ h.generation ≤ h'.generation ∧
    (h.generation = h'.generation → h'.serving = h.serving) ∧ (h'.isOpen = true → h.isOpen = true)

theorem older_modify {r : Registry} {s : Ref} {f : Holder → Holder}
    (newer : Newer (r.holder s) (f (r.holder s))) : r.Older (r.modify s f) where
  size := Nat.le_refl _
  strand x := by
    by_cases here : x = s
    · subst here; simpa using newer.1
    · rw [modify_other r s f here]
  generation x := by
    by_cases here : x = s
    · subst here; simpa using newer.2.1
    · rw [modify_other r s f here]
  serving x same := by
    by_cases here : x = s
    · subst here
      rw [modify_self] at same ⊢
      exact newer.2.2.1 same
    · rw [modify_other r s f here]
  opened opened := opened.modify newer.2.2.2 newer.1

/-- Operations on the indexes leave every holder. -/
theorem older_of_holder_eq {r r' : Registry} (size : r.size ≤ r'.size) (holder : r'.holder = r.holder) :
    r.Older r' := by
  refine ⟨size, fun s => ?_, fun s => ?_, fun s _ => ?_, fun opened s isOpen => ?_⟩
  all_goals rw [holder]
  rw [holder] at isOpen
  exact ⟨Nat.lt_of_lt_of_le (opened s isOpen).1 size, (opened s isOpen).2⟩

theorem older_setEntry (r : Registry) (sessionId : Int) (s : Option Ref) :
    r.Older (r.setEntry sessionId s) := older_of_holder_eq (Nat.le_refl _) rfl

theorem older_setIndex (r : Registry) (nickname : String) (s : Ref) :
    r.Older (r.setIndex nickname s) := older_of_holder_eq (Nat.le_refl _) rfl

theorem older_release (r : Registry) (s : Ref) : r.Older (r.release s) := by
  unfold release
  split
  · have cleaned : r.Older (r.modify s fun h => { h.clean with life := .released }) :=
      older_modify ⟨Nat.le_refl _, Nat.le_succ _,
        fun same => absurd same (Nat.ne_of_lt (Nat.lt_succ_self _)), id⟩
    exact cleaned.trans (older_of_holder_eq (Nat.le_refl _) rfl)
  · exact .refl r

theorem older_leaveZone (r : Registry) (s : Ref) : r.Older (r.leaveZone s) := by
  unfold leaveZone
  split
  · exact older_modify ⟨Nat.le_refl _, Nat.le_refl _, fun _ => rfl, id⟩
  · exact .refl r

theorem older_remove (r : Registry) (sessionId : Int) : r.Older (r.remove sessionId) := by
  unfold remove
  split
  · exact .refl r
  · exact (older_setEntry r sessionId none).trans
      ((older_modify ⟨Nat.le_refl _, Nat.le_refl _, fun _ => rfl, id⟩).trans
        ((older_leaveZone _ _).trans (older_release _ _)))

/-- A close shuts the object and cleans it: the generation moves on. -/
theorem older_close (r : Registry) (s : Ref) : r.Older (r.close s) := by
  unfold close
  split
  · -- shut, then older things, then cleaned; only the whole is older
    have removed := older_remove (r.modify s Holder.shut) (r.holder s).sessionId
    refine ⟨removed.size, fun x => ?_, fun x => ?_, fun x same => ?_, fun opened => ?_⟩
    · have grown := removed.strand x
      by_cases here : x = s
      · subst here; simpa [Holder.shut, Holder.clean] using grown
      · rw [modify_other _ _ _ here] at grown ⊢; exact grown
    · have grown := removed.generation x
      by_cases here : x = s
      · subst here
        simp only [modify_self, Holder.shut, Holder.clean] at grown ⊢
        omega
      · rw [modify_other _ _ _ here] at grown ⊢; exact grown
    · have grown := removed.generation x
      have served := removed.serving x
      by_cases here : x = s
      · subst here
        simp only [modify_self, Holder.shut, Holder.clean] at grown same
        omega
      · rw [modify_other _ _ _ here] at same ⊢
        rw [modify_other r s Holder.shut here] at served
        exact served same
    · have shut : (r.modify s Holder.shut).Opened :=
        opened.modify (fun absurd => by simp [Holder.shut] at absurd) (Nat.le_refl _)
      exact (removed.opened shut).modify id (Nat.le_refl _)
  · exact .refl r

theorem older_file (r : Registry) (s : Ref) : r.Older (r.file s) := by
  unfold file
  dsimp only
  split
  · exact (older_setEntry _ _ _).trans (older_close _ _)
  · exact older_setEntry _ _ _

theorem older_acquire (r : Registry) (sessionId : Int) (s : Ref) :
    r.Older (r.acquire sessionId s) where
  size := Nat.le_max_left ..
  strand x := by
    change _ ≤ ((r.modify s (Holder.handOut sessionId)).holder x).strand
    by_cases here : x = s
    · subst here; simp [Holder.handOut]
    · rw [modify_other _ _ _ here]
  generation x := by
    change _ ≤ ((r.modify s (Holder.handOut sessionId)).holder x).generation
    by_cases here : x = s
    · subst here; simp [Holder.handOut]
    · rw [modify_other _ _ _ here]
  serving x same := by
    change _ = ((r.modify s (Holder.handOut sessionId)).holder x).generation at same
    change ((r.modify s (Holder.handOut sessionId)).holder x).serving = _
    by_cases here : x = s
    · subst here; simp [Holder.handOut] at same
    · rw [modify_other _ _ _ here]
  opened opened x isOpen := by
    change ((r.modify s (Holder.handOut sessionId)).holder x).isOpen = true at isOpen
    change x < max r.size (s + 1) ∧ 1 ≤ ((r.modify s (Holder.handOut sessionId)).holder x).strand
    by_cases here : x = s
    · subst here
      exact ⟨Nat.lt_of_lt_of_le (Nat.lt_succ_self x) (Nat.le_max_right ..), by simp [Holder.handOut]⟩
    · rw [modify_other _ _ _ here] at isOpen ⊢
      have before := opened x isOpen
      exact ⟨Nat.lt_of_lt_of_le before.1 (Nat.le_max_left ..), before.2⟩

theorem older_accept (r : Registry) (sessionId : Int) : r.Older (r.accept sessionId) := by
  unfold accept
  split
  · exact .refl r
  · exact (older_acquire _ _ _).trans (older_file _ _)

theorem older_evict (r : Registry) (nickname : String) (s : Ref) :
    r.Older (r.evict nickname s) := by
  unfold evict
  split
  · split
    · exact older_close _ _
    · exact .refl r
  · exact .refl r

theorem older_enroll (r : Registry) (s : Ref) (nickname : String) (zoneId : Int) :
    r.Older (r.enroll s nickname zoneId) := by
  have evicted : r.Older (((r.file s).evict nickname s).evict nickname s) :=
    (older_file _ _).trans ((older_evict _ _ _).trans (older_evict _ _ _))
  exact evicted.trans ((older_setIndex _ nickname s).trans
    (older_modify ⟨Nat.le_refl _, Nat.le_refl _, fun _ => rfl, id⟩))

/-- **No operation makes a registry younger.** -/
theorem older_exec (r : Registry) (note : Note) : r.Older (r.exec note) := by
  cases note with
  | accept sessionId => exact older_accept r sessionId
  | close s => exact older_close r s
  | enroll flow generation serving zoneId => exact older_enroll r _ _ _
  | registerUdp s registration =>
      exact older_modify ⟨Nat.le_refl _, Nat.le_refl _, fun _ => rfl, id⟩
  | clearUdpToken s => exact older_modify ⟨Nat.le_refl _, Nat.le_refl _, fun _ => rfl, id⟩

theorem older_run (r : Registry) (notes : List Note) : r.Older (run exec r notes) := by
  induction notes generalizing r with
  | nil => exact .refl r
  | cons note notes ih => exact (older_exec r note).trans (ih (r.exec note))

/-! ## Who a close leaves open -/

/-- What clearing the token, leaving the zone and cleaning preserve, a removal
preserves of every object. -/
theorem remove_preserves {P : Holder → Prop}
    (cleared : ∀ (h : Holder) (zoneId : Int), P h → P { h.clearToken with zoneId })
    (cleaned : ∀ h : Holder, P h → P { h.clean with life := .released })
    (r : Registry) (sessionId : Int) {x : Ref} (kept : P (r.holder x)) :
    P ((r.remove sessionId).holder x) := by
  unfold remove
  split
  · exact kept
  · rename_i s _
    obtain ⟨zoneId, left⟩ := leaveZone_eq_modify
      ((r.setEntry sessionId none).modify s Holder.clearToken) s
    rw [left, modify_modify]
    exact release_preserves _ s cleaned
      (modify_preserves (r.setEntry sessionId none) s (fun h => cleared h zoneId) kept)

theorem remove_keeps {α : Type} {g : Holder → α}
    (cleared : ∀ (h : Holder) (zoneId : Int), g { h.clearToken with zoneId } = g h)
    (cleaned : ∀ h : Holder, g { h.clean with life := .released } = g h)
    (r : Registry) (sessionId : Int) (x : Ref) :
    g ((r.remove sessionId).holder x) = g (r.holder x) :=
  remove_preserves (P := fun h => g h = g (r.holder x)) (fun h zoneId => (cleared h zoneId).trans)
    (fun h => (cleaned h).trans) r sessionId rfl

theorem serving_remove (r : Registry) (sessionId : Int) (x : Ref) :
    ((r.remove sessionId).holder x).serving = (r.holder x).serving :=
  remove_keeps (fun _ _ => rfl) (fun _ => rfl) r sessionId x

/-- A close takes no other object off the connection it serves, not even one it
releases. -/
theorem serving_close_other (r : Registry) {s x : Ref} (other : x ≠ s) :
    ((r.close s).holder x).serving = (r.holder x).serving := by
  unfold close
  split
  · rw [modify_other _ _ _ other, serving_remove, modify_other _ _ _ other]
  · rfl

theorem serving_file (r : Registry) (s : Ref) :
    ((r.file s).holder s).serving = (r.holder s).serving := by
  unfold file
  dsimp only
  split
  · rename_i p found
    have other : s ≠ p := by
      rintro rfl
      simp [Option.filter_eq_some_iff] at found
    rw [serving_close_other _ other]
    rfl
  · rfl

theorem serving_evict (r : Registry) (nickname : String) (s : Ref) :
    ((r.evict nickname s).holder s).serving = (r.holder s).serving := by
  unfold evict
  split
  · split
    · rename_i p _ other
      exact serving_close_other _ (Ne.symm other)
    · rfl
  · rfl

/-! ## What a close does -/

section Close

variable (r : Registry) (s : Ref)

theorem remove_of_none {r : Registry} {sessionId : Int} (absent : r.entry sessionId = none) :
    r.remove sessionId = r := by
  unfold remove
  rw [absent]

/-- The object a removal releases is the one the manager has under the id. -/
theorem remove_of_entry {r : Registry} {sessionId : Int} {y : Ref}
    (found : r.entry sessionId = some y) :
    ∃ zoneId, r.remove sessionId =
      ((r.setEntry sessionId none).modify y fun h => { h.clearToken with zoneId }).release y := by
  obtain ⟨zoneId, left⟩ := leaveZone_eq_modify
    ((r.setEntry sessionId none).modify y Holder.clearToken) y
  refine ⟨zoneId, ?_⟩
  unfold remove
  rw [found]
  simp only [left]
  simp [modify]

theorem remove_entry (sessionId id : Int) :
    (r.remove sessionId).entry id = if id = sessionId then none else r.entry id := by
  cases found : r.entry sessionId with
  | none =>
      rw [remove_of_none found]
      split
      · rename_i same
        rw [same, found]
      · rfl
  | some y =>
      obtain ⟨zoneId, removed⟩ := remove_of_entry found
      rw [removed, release_entry, modify_entry]
      split
      · rename_i same
        rw [same, setEntry_self]
      · rename_i other
        exact setEntry_other _ _ _ other

section Field

/-! What an object's own methods, the entries and the pool leave alone, a removal and
a close leave alone. -/

variable {β : Type} {g : Registry → β}
  (entries : ∀ (r : Registry) (sessionId : Int) (o : Option Ref), g (r.setEntry sessionId o) = g r)
  (objects : ∀ (r : Registry) (x : Ref) (f : Holder → Holder), g (r.modify x f) = g r)
  (pools : ∀ (r : Registry) (x : Ref), g (r.release x) = g r)

include entries objects pools

theorem remove_field (r : Registry) (sessionId : Int) : g (r.remove sessionId) = g r := by
  cases found : r.entry sessionId with
  | none => rw [remove_of_none found]
  | some y =>
      obtain ⟨zoneId, removed⟩ := remove_of_entry found
      rw [removed, pools, objects, entries]

theorem close_field (r : Registry) (s : Ref) : g (r.close s) = g r := by
  unfold close
  split
  · rw [objects, remove_field entries objects pools, objects]
  · rfl

end Field

theorem remove_other {sessionId : Int} {x : Ref} (other : r.entry sessionId ≠ some x) :
    (r.remove sessionId).holder x = r.holder x := by
  cases found : r.entry sessionId with
  | none => rw [remove_of_none found]
  | some y =>
      have away : x ≠ y := by
        rintro rfl
        exact other found
      obtain ⟨zoneId, removed⟩ := remove_of_entry found
      rw [removed, release_other _ _ away, modify_other _ _ _ away, setEntry_holder]

@[simp] theorem close_index : (r.close s).index = r.index :=
  close_field (fun _ _ _ => setEntry_index ..) (fun _ _ _ => modify_index ..)
    (fun _ _ => release_index ..) r s

@[simp] theorem close_lifetime : (r.close s).lifetime = r.lifetime :=
  close_field (fun _ _ _ => setEntry_lifetime ..) (fun _ _ _ => modify_lifetime ..)
    (fun _ _ => release_lifetime ..) r s

@[simp] theorem close_size : (r.close s).size = r.size :=
  close_field (fun _ _ _ => setEntry_size ..) (fun _ _ _ => modify_size ..)
    (fun _ _ => release_size ..) r s

theorem close_entry {r : Registry} {s : Ref} (closable : (r.holder s).Closable) (id : Int) :
    (r.close s).entry id = if id = (r.holder s).sessionId then none else r.entry id := by
  unfold close
  rw [if_pos closable, modify_entry, remove_entry, modify_entry]

/-- The object released by a close is the one filed under the closed one's id. -/
theorem close_free {r : Registry} {s x : Ref} (freed : x ∈ (r.close s).free) :
    x ∈ r.free ∨ r.entry (r.holder s).sessionId = some x := by
  unfold close at freed
  split at freed
  · cases found : r.entry (r.holder s).sessionId with
    | none =>
        rw [modify_free, remove_of_none (by exact found)] at freed
        exact .inl freed
    | some y =>
        have entry : (r.modify s Holder.shut).entry (r.holder s).sessionId = some y := found
        obtain ⟨zoneId, removed⟩ := remove_of_entry entry
        rw [modify_free, removed] at freed
        unfold release at freed
        split at freed
        · rcases List.mem_append.mp freed with old | new
          · exact .inl old
          · exact .inr (by rw [List.mem_singleton.mp new])
        · exact .inl freed
  · exact .inl freed

/-- What a close's methods preserve, a close preserves of every object. -/
theorem close_preserves {P : Holder → Prop} (shut : ∀ h : Holder, P h → P h.shut)
    (cleared : ∀ (h : Holder) (zoneId : Int), P h → P { h.clearToken with zoneId })
    (cleaned : ∀ (h : Holder) (life : LifeState), P h → P { h.clean with life }) {x : Ref}
    (kept : P (r.holder x)) : P ((r.close s).holder x) := by
  unfold close
  split
  · refine modify_preserves _ s (fun h => cleaned h LifeState.idle) ?_
    exact remove_preserves cleared (fun h => cleaned h LifeState.released) _ _
      (modify_preserves r s shut kept)
  · exact kept

theorem close_keeps {α : Type} {g : Holder → α} (shut : ∀ h : Holder, g h.shut = g h)
    (cleared : ∀ (h : Holder) (zoneId : Int), g { h.clearToken with zoneId } = g h)
    (cleaned : ∀ (h : Holder) (life : LifeState), g { h.clean with life } = g h) (x : Ref) :
    g ((r.close s).holder x) = g (r.holder x) :=
  close_preserves r s (P := fun h => g h = g (r.holder x)) (fun h => (shut h).trans)
    (fun h zoneId => (cleared h zoneId).trans) (fun h life => (cleaned h life).trans) rfl

theorem close_sessionId (x : Ref) : ((r.close s).holder x).sessionId = (r.holder x).sessionId :=
  r.close_keeps s (fun _ => rfl) (fun _ _ => rfl) (fun _ _ => rfl) x

theorem close_strand (x : Ref) : ((r.close s).holder x).strand = (r.holder x).strand :=
  r.close_keeps s (fun _ => rfl) (fun _ _ => rfl) (fun _ _ => rfl) x

/-- An object neither closed nor filed under the closed one's id stays as it is. -/
theorem close_other {r : Registry} {s x : Ref} (other : x ≠ s)
    (unfiled : r.entry (r.holder s).sessionId ≠ some x) : (r.close s).holder x = r.holder x := by
  unfold close
  split
  · rw [modify_other _ _ _ other, remove_other (r.modify s Holder.shut) unfiled,
      modify_other _ _ _ other]
  · rfl

/-- The object closed: shut, unnamed, idle again and in no zone. -/
theorem close_self {r : Registry} {s : Ref} (closable : (r.holder s).Closable) :
    ((r.close s).holder s).isOpen = false ∧ ((r.close s).holder s).nickname = "" ∧
      ((r.close s).holder s).life = .idle ∧ ((r.close s).holder s).zoneId = -1 := by
  have shut : (((r.modify s Holder.shut).remove (r.holder s).sessionId).holder s).isOpen = false := by
    rw [remove_keeps (g := Holder.isOpen) (fun _ _ => rfl) fun _ => rfl, modify_self]
    rfl
  unfold close
  rw [if_pos closable, modify_self]
  exact ⟨shut, rfl, rfl, rfl⟩

end Close

/-! ## What a read may rely on -/

/-- A use that a read was started in: if the object's generation is still the one
of the start, the object is open and serves that acquisition. -/
structure Fits (r : Registry) (o : Origin) : Prop where
  inPool : o.session < r.size
  used : 1 ≤ o.strand
  strand : o.strand ≤ (r.holder o.session).strand
  generation : o.generation ≤ (r.holder o.session).generation
  serving : o.generation = (r.holder o.session).generation →
    (r.holder o.session).serving = some o.strand

theorem Fits.later {r r' : Registry} {o : Origin} (fits : r.Fits o) (older : r.Older r') :
    r'.Fits o where
  inPool := Nat.lt_of_lt_of_le fits.inPool older.size
  used := fits.used
  strand := Nat.le_trans fits.strand (older.strand _)
  generation := Nat.le_trans fits.generation (older.generation _)
  serving same := by
    have lower := fits.generation
    have upper := older.generation o.session
    rw [older.serving _ (by omega)]
    exact fits.serving (by omega)

/-- A read started now on an open object fits. -/
theorem Opened.fits {r : Registry} (opened : r.Opened) {s : Ref}
    (isOpen : (r.holder s).isOpen = true) :
    r.Fits ⟨s, (r.holder s).strand, (r.holder s).generation⟩ where
  inPool := (opened s isOpen).1
  used := (opened s isOpen).2
  strand := Nat.le_refl _
  generation := Nat.le_refl _
  serving _ := by simp [Holder.serving, isOpen]

/-- What an operation is only done with: a completion comes of a read that fits,
carries a name, and reports what it met. -/
def Lawful (r : Registry) : Note → Prop
  | .enroll flow generation serving _ =>
      r.Fits flow.origin ∧ flow.nickname ≠ "" ∧
        generation = (r.holder flow.session).generation ∧
        ∀ served ∈ serving, served = (r.holder flow.session).serving
  | _ => True

end Registry

end GameServer.Kernel
