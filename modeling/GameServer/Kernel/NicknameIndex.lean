/-
# Kernel.NicknameIndex -- whom `find_session_by_nickname` gives

`register_nickname` overwrites, and nothing takes an entry back: closing a session
clears its name and leaves the index pointing at the object, which the pool hands
to the next connection.

* `index_sound` -- the index gives open sessions under their own name, in a run that
  closes a named session only to hand the name on, and renames none;
* `index_stale` -- a login, a disconnect and the next connection, and the name of
  the first gives the second.
-/
import GameServer.Kernel.Nicknames
import GameServer.Kernel.Occupancy

namespace GameServer.Kernel

set_option autoImplicit false

open Wire Dbmw Theory.Runs

/-- Whom the index gives for a name is open, under that name. -/
def Server.IndexSound (srv : Server) : Prop :=
  ∀ nickname s, srv.manager.findSessionByNickname nickname = some s →
    (srv.obj s).socketOpen = true ∧ (srv.obj s).nickname = nickname

/-- The name a completion registers. -/
def Note.registers : Note → Option String
  | .enroll flow _ _ _ => some flow.nickname
  | _ => none

/-- The name the next operation registers. -/
def registersNext (notes : List Note) : Option String := notes.head?.bind Note.registers

namespace Registry

/-! ## The runs that keep the index -/

/-- An operation that leaves the index sound, `rest` being what the event does
afterwards: ids are fresh, a named session is closed only right before the login that
takes its name, and a login completes on an open session without another name. -/
def Keeps (r : Registry) (rest : List Note) : Note → Prop
  | .accept sessionId => r.Fresh (.accept sessionId)
  | .close s => (r.holder s).nickname = "" ∨ registersNext rest = some (r.holder s).nickname
  | .enroll flow _ _ _ =>
      (r.holder flow.session).isOpen = true ∧
        ((r.holder flow.session).nickname = "" ∨ (r.holder flow.session).nickname = flow.nickname)
  | _ => True

instance (r : Registry) (rest : List Note) : ∀ note, Decidable (r.Keeps rest note)
  | .accept sessionId => inferInstanceAs (Decidable (r.Fresh (.accept sessionId)))
  | .close _ => inferInstanceAs (Decidable (_ ∨ _))
  | .enroll _ _ _ _ => inferInstanceAs (Decidable (_ ∧ _))
  | .registerUdp _ _ => inferInstanceAs (Decidable True)
  | .clearUdpToken _ => inferInstanceAs (Decidable True)

/-- Every operation of an event keeps the index. -/
def KeepsAll : Registry → List Note → Prop
  | _, [] => True
  | r, note :: rest => r.Keeps rest note ∧ KeepsAll (r.exec note) rest

instance decidableKeepsAll : ∀ r notes, Decidable (KeepsAll r notes)
  | _, [] => isTrue trivial
  | r, note :: rest =>
      have := decidableKeepsAll (r.exec note) rest
      inferInstanceAs (Decidable (r.Keeps rest note ∧ KeepsAll (r.exec note) rest))

/-- Between operations: `notes` are those to come, and the first of them may be about to
take over an entry whose session has just been closed. -/
structure Sound (r : Registry) (notes : List Note) : Prop where
  tidy : r.Tidy
  apart : r.Apart
  opened : ∀ s, (r.holder s).isOpen = true → r.Held s
  anonymous : r.index "" = none
  index : ∀ n s, r.index n = some s →
    (registersNext notes = some n ∧ (r.holder s).isOpen = false) ∨
      ((r.holder s).isOpen = true ∧ (r.holder s).nickname = n)

/-- Without a completion next, every entry is sound. -/
theorem Sound.entry {r : Registry} {note : Note} {rest : List Note} (sound : r.Sound (note :: rest))
    (quiet : note.registers = none) {n : String} {s : Ref} (found : r.index n = some s) :
    (r.holder s).isOpen = true ∧ (r.holder s).nickname = n := by
  rcases sound.index n s found with ⟨next, -⟩ | good
  · change note.registers = some n at next
    rw [quiet] at next
    cases next
  · exact good

/-- An operation that touches neither the index, nor who is open under which name. -/
theorem Sound.quiet {r r' : Registry} {note : Note} {rest : List Note}
    (sound : r.Sound (note :: rest)) (none : note.registers = none) (tidy : r'.Tidy)
    (apart : r'.Apart) (held : ∀ s, r'.Held s ↔ r.Held s) (index : r'.index = r.index)
    (isOpen : ∀ s, (r'.holder s).isOpen = (r.holder s).isOpen)
    (nickname : ∀ s, (r'.holder s).nickname = (r.holder s).nickname) : r'.Sound rest where
  tidy := tidy
  apart := apart
  opened s now := (held s).mpr (sound.opened s (isOpen s ▸ now))
  anonymous := index ▸ sound.anonymous
  index n s found := by
    rw [isOpen, nickname]
    exact .inr (sound.entry none (index ▸ found))

theorem Apart.close_held {r : Registry} (apart : r.Apart) {s x : Ref} (other : x ≠ s)
    (held : r.Held x) : (r.close s).Held x := by
  refine ⟨by rw [close_size]; exact held.1, fun freed => ?_⟩
  rcases close_free freed with before | filed
  · exact held.2 before
  · exact other (apart.entry s x filed)

theorem Sound.close {r : Registry} {rest : List Note} {s : Ref}
    (sound : r.Sound (.close s :: rest)) (keeps : r.Keeps rest (.close s)) :
    (r.close s).Sound rest := by
  have self := close_self (sound.apart.closable s)
  refine ⟨sound.tidy.close s, sound.apart.close s, fun x now => ?_, ?_, fun n x found => ?_⟩
  · have other : x ≠ s := by
      rintro rfl
      rw [self.1] at now
      cases now
    rw [sound.apart.close_other other] at now
    exact sound.apart.close_held other (sound.opened x now)
  · rw [close_index]
    exact sound.anonymous
  · rw [close_index] at found
    have good := sound.entry rfl found
    by_cases here : x = s
    · subst here
      rcases keeps with unnamed | next
      · rw [good.2.symm.trans unnamed, sound.anonymous] at found
        cases found
      · rw [good.2] at next
        exact .inl ⟨next, self.1⟩
    · rw [sound.apart.close_other here]
      exact .inr good

theorem Sound.accept {r : Registry} {rest : List Note} {sessionId : Int}
    (sound : r.Sound (.accept sessionId :: rest)) (fresh : r.Fresh (.accept sessionId)) :
    (r.accept sessionId).Sound rest := by
  have tidy := sound.tidy.accept sessionId
  have apart := sound.apart.accept fresh
  cases next : r.nextFree with
  | none =>
      have same : r.accept sessionId = r := by
        unfold Registry.accept
        rw [next]
      rw [same] at tidy apart ⊢
      exact sound.quiet rfl tidy apart (fun _ => .rfl) rfl (fun _ => rfl) fun _ => rfl
  | some s =>
      have shut : (r.holder s).isOpen ≠ true := fun isOpen =>
        not_held_of_nextFree next (sound.opened s isOpen)
      rcases accept_eq sessionId next with whole | ⟨p, -, found, -⟩
      · obtain ⟨handed, held⟩ := sound.tidy.acquire next sessionId
        rw [whole] at tidy apart ⊢
        have other : ∀ x, x ≠ s →
            ((r.acquire sessionId s).setEntry sessionId (some s)).holder x = r.holder x :=
          fun x away => modify_other r s (Holder.handOut sessionId) away
        refine ⟨tidy, apart, fun x now => ?_, sound.anonymous, fun n x found => ?_⟩
        · by_cases here : x = s
          · subst here
            exact held
          · rw [other x here] at now
            obtain ⟨inside, out⟩ := sound.opened x now
            exact ⟨Nat.lt_of_lt_of_le inside (Nat.le_max_left ..), fun member =>
              out (List.mem_of_mem_tail member)⟩
        · have good := sound.entry rfl found
          have here : x ≠ s := by
            rintro rfl
            exact shut good.1
          rw [other x here]
          exact .inr good
      · -- the id is fresh, so no entry is under it
        obtain ⟨filed, inside, -⟩ := sound.tidy.entry sessionId p found
        exact absurd filed (fresh.2 p inside)

/-- An eviction leaves everyone the index does not give for the name. -/
theorem Apart.evict_other {r : Registry} (apart : r.Apart) {n : String} {s x : Ref}
    (spared : x = s ∨ r.index n ≠ some x) :
    (r.evict n s).holder x = r.holder x ∧ (r.Held x → (r.evict n s).Held x) := by
  unfold Registry.evict
  split
  · rename_i p found
    split
    · rename_i other
      have away : x ≠ p := by
        rintro rfl
        exact spared.elim other fun unnamed => unnamed found
      exact ⟨apart.close_other away, apart.close_held away⟩
    · exact ⟨rfl, id⟩
  · exact ⟨rfl, id⟩

theorem Apart.evict_shuts {r : Registry} (apart : r.Apart) {n : String} {s x : Ref} (other : x ≠ s)
    (found : r.index n = some x) : ((r.evict n s).holder x).isOpen = false := by
  unfold Registry.evict
  simp only [found, if_pos other]
  exact (close_self (apart.closable x)).1

/-- What a completion does to the others: it shuts the one the index gives for the name. -/
theorem Apart.enroll_cases {r : Registry} (apart : r.Apart) {s : Ref}
    (used : 1 ≤ (r.holder s).strand) (n : String) (zoneId : Int) (x : Ref) :
    (x ≠ s ∧ r.index n = some x ∧ ((r.enroll s n zoneId).holder x).isOpen = false) ∨
      ((x ≠ s → (r.enroll s n zoneId).holder x = r.holder x) ∧
        (r.Held x → (r.enroll s n zoneId).Held x)) := by
  have filed : (r.file s).Apart := by
    rw [apart.file_eq]
    exact apart.setEntry used
  have index : (r.file s).index = r.index := by
    rw [apart.file_eq]
    rfl
  by_cases named : x ≠ s ∧ r.index n = some x
  · obtain ⟨other, found⟩ := named
    refine .inl ⟨other, found, ?_⟩
    rw [Apart.enroll_other s n zoneId other]
    exact (filed.evict n s).evict_shuts other (by rw [evict_index, index, found])
  · have spared : x = s ∨ (r.file s).index n ≠ some x := by
      rw [index]
      tauto
    obtain ⟨first, heldFirst⟩ := filed.evict_other spared
    obtain ⟨second, heldSecond⟩ := (filed.evict n s).evict_other (s := s) (x := x) (n := n)
      (by rwa [evict_index])
    refine .inr ⟨fun other => ?_, fun held => heldSecond (heldFirst ?_)⟩
    · rw [Apart.enroll_other s n zoneId other, second, first, apart.file_eq]
      rfl
    · rwa [apart.file_eq]

theorem Sound.enroll {r : Registry} {rest : List Note} {flow : LoginFlow} {generation : Nat}
    {serving : List (Option Nat)} {zoneId : Int}
    (sound : r.Sound (.enroll flow generation serving zoneId :: rest))
    (keeps : r.Keeps rest (.enroll flow generation serving zoneId))
    (lawful : r.Lawful (.enroll flow generation serving zoneId)) :
    (r.enroll flow.session flow.nickname zoneId).Sound rest := by
  obtain ⟨isOpen, unnamed⟩ := keeps
  have held := sound.opened _ isOpen
  have used : 1 ≤ (r.holder flow.session).strand := Nat.le_trans lawful.1.used lawful.1.strand
  have self := sound.apart.enroll_self used flow.nickname zoneId
  have cases := sound.apart.enroll_cases used flow.nickname zoneId
  have index : (r.enroll flow.session flow.nickname zoneId).index =
      Function.update r.index flow.nickname (some flow.session) := by
    rw [enroll_index, sound.apart.file_eq]
    rfl
  have tidy : (r.exec (.enroll flow generation serving zoneId)).Tidy := sound.tidy.exec held
  have apart : (r.exec (.enroll flow generation serving zoneId)).Apart :=
    sound.apart.exec trivial lawful
  refine ⟨tidy, apart, fun x now => ?_, ?_, fun n x found => .inr ?_⟩
  · rcases cases x with ⟨-, -, shut⟩ | ⟨stands, holds⟩
    · rw [shut] at now
      cases now
    · by_cases here : x = flow.session
      · exact holds (here ▸ held)
      · exact holds (sound.opened x (stands here ▸ now))
  · rw [index, Function.update_of_ne (Ne.symm lawful.2.1)]
    exact sound.anonymous
  · rw [index] at found
    by_cases named : n = flow.nickname
    · subst named
      rw [Function.update_self] at found
      cases found
      rw [self]
      exact ⟨isOpen, rfl⟩
    · rw [Function.update_of_ne named] at found
      -- not the name that is registered, so whom the index gives is open under it
      have good : ∀ m, r.index m = some x → m ≠ flow.nickname →
          (r.holder x).isOpen = true ∧ (r.holder x).nickname = m := by
        intro m given other
        rcases sound.index m x given with ⟨next, -⟩ | good
        · exact absurd (Option.some.inj next).symm other
        · exact good
      obtain ⟨now, under⟩ := good n found named
      have other : x ≠ flow.session := by
        rintro rfl
        rcases unnamed with empty | same
        · rw [← under, empty, sound.anonymous] at found
          cases found
        · exact named (under.symm.trans same)
      rcases cases x with ⟨-, given, -⟩ | ⟨stands, -⟩
      · -- it cannot be the one evicted: that one has the registered name, or is shut
        rcases sound.index flow.nickname x given with ⟨-, shut⟩ | ⟨-, same⟩
        · rw [shut] at now
          cases now
        · exact absurd (under.symm.trans same) named
      · rw [stands other]
        exact ⟨now, under⟩

theorem Sound.exec {r : Registry} {note : Note} {rest : List Note} (sound : r.Sound (note :: rest))
    (keeps : r.Keeps rest note) (lawful : r.Lawful note) : (r.exec note).Sound rest := by
  have untouched : ∀ {s f}, note.registers = none →
      (∀ h : Holder, (f h).sessionId = h.sessionId ∧ (f h).strand = h.strand ∧ (f h).life = h.life ∧
        (f h).isOpen = h.isOpen ∧ (f h).nickname = h.nickname) → (r.modify s f).Sound rest := by
    intro s f none same
    exact sound.quiet none (sound.tidy.modify (same _).1)
      (sound.apart.modify (same _).1 (same _).2.1 (same _).2.2.1) (fun _ => .rfl) rfl
      (modify_keeps (same _).2.2.2.1) (modify_keeps (same _).2.2.2.2)
  cases note with
  | accept sessionId => exact sound.accept keeps
  | close s => exact sound.close keeps
  | enroll flow generation serving zoneId => exact sound.enroll keeps lawful
  | registerUdp s registration => exact untouched rfl fun _ => ⟨rfl, rfl, rfl, rfl, rfl⟩
  | clearUdpToken s => exact untouched rfl fun _ => ⟨rfl, rfl, rfl, rfl, rfl⟩

theorem Sound.events {r : Registry} {notes : List Note} (sound : r.Sound notes)
    (keeps : r.KeepsAll notes) (lawful : Along Registry.exec Lawful r notes) :
    (run Registry.exec r notes).Sound [] := by
  induction notes generalizing r with
  | nil => exact sound
  | cons note rest ih => exact ih (sound.exec keeps.1 lawful.1) keeps.2 lawful.2

/-- Between events nothing is left to come, so every entry is sound. -/
theorem Sound.good {r : Registry} (sound : r.Sound []) {n : String} {s : Ref}
    (found : r.index n = some s) : (r.holder s).isOpen = true ∧ (r.holder s).nickname = n :=
  (sound.index n s found).resolve_left fun pending => nomatch pending.1

theorem Sound.next {r : Registry} (sound : r.Sound []) (notes : List Note) : r.Sound notes :=
  ⟨sound.tidy, sound.apart, sound.opened, sound.anonymous, fun _ _ found => .inr (sound.good found)⟩

end Registry

namespace Server

theorem initial_sound (env : Env) (router : Option (DBmwRouter LoginFlow)) :
    ((initial env router).registry env).Sound [] :=
  ⟨initial_tidy env router, initial_apart env router, fun _ isOpen => (nomatch isOpen), rfl,
    fun _ _ found => (nomatch found)⟩

/-- **The index gives open sessions under their own name**, in every run that draws no
id twice, closes named sessions only to hand the name on and renames none. -/
theorem index_sound (env : Env) (router : Option (DBmwRouter LoginFlow)) (events : List Event)
    (keeps : Along (step env) (fun srv e => (srv.registry env).KeepsAll (notes env srv e))
      (initial env router) events) :
    (after env router events).IndexSound := by
  have sound : ((after env router events).registry env).Sound [] :=
    (step_refines env).invariant (fun r => r.Sound []) (fun _ notes sound => (sound.next notes).events)
      (initial_sane env router) (initial_sound env router) keeps
  exact fun nickname s found => sound.good found

/-- kim logs in and is reset by her peer, and the next connection gets the object. -/
def loginThenReset : List Event :=
  [.accept 0 [0]] ++ signIn ⟨0, 1, 2⟩ ++ [.readDone ⟨⟨0, 1, 2⟩, true⟩ .connectionReset, .accept 0 [0]]

/-- **The name of a closed session gives the connection that has the object now.** -/
theorem index_stale : ¬ (after (trialEnv 1) none loginThenReset).IndexSound := by
  intro sound
  have named := (sound "kim" 0 (by decide +kernel)).2
  exact absurd named (by decide +kernel)

/-- A second connection takes the name over. -/
theorem index_sound_takeover :
    (after (trialEnv 2) none
      ([.accept 0 [0], .accept 0 [0, 1]] ++ signIn ⟨0, 1, 2⟩ ++ signIn ⟨1, 1, 2⟩)).IndexSound :=
  index_sound _ _ _ (by decide +kernel)

end Server

end GameServer.Kernel
