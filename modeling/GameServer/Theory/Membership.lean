/-
# Theory.Membership -- membership written down twice

Each place keeps a table of its members under keys, and each member knows the key
and the place it is at.  A member may be at a place that has no table; it is then at
large, as is one that is nowhere.

* `Agrees.enter`, `Agrees.leave` -- who comes in and who goes is written down on both
  sides;
* `Agrees.one_place` -- so nobody is at two places, or under two keys.
-/
import Mathlib.Logic.Function.Basic

namespace GameServer.Theory.Membership

set_option autoImplicit false

universe u v w

variable {Place : Type u} {Key : Type v} {Member : Type w}

/-- A table lists a member under a key exactly when that is where the member is. -/
def Agrees (tables : Place → Option (Key → Option Member)) (home : Member → Option (Key × Place)) :
    Prop :=
  ∀ place table, tables place = some table → ∀ key member,
    table key = some member ↔ home member = some (key, place)

/-- The member is at no place that has a table. -/
def AtLarge (tables : Place → Option (Key → Option Member)) (home : Member → Option (Key × Place))
    (member : Member) : Prop :=
  ∀ key place, home member = some (key, place) → tables place = none

variable {tables : Place → Option (Key → Option Member)} {home home' : Member → Option (Key × Place)}

/-- Members at large may go anywhere else at large. -/
theorem Agrees.congr (agrees : Agrees tables home)
    (same : ∀ member, home' member = home member ∨
      AtLarge tables home member ∧ AtLarge tables home' member) : Agrees tables home' := by
  intro place table found key member
  rcases same member with same | ⟨before, after⟩
  · rw [same]
    exact agrees place table found key member
  · constructor
    · intro listed
      have here := (agrees place table found key member).mp listed
      exact absurd (before key place here) (by rw [found]; exact nofun)
    · intro here
      exact absurd (after key place here) (by rw [found]; exact nofun)

variable [DecidableEq Place] [DecidableEq Key]

/-- A member leaves: its table forgets the key, which is no one else's. -/
theorem Agrees.leave (agrees : Agrees tables home) {member : Member} {place : Place} {key : Key}
    {table : Key → Option Member} (found : tables place = some table)
    (own : ∀ other, table key = some other → other = member)
    (here : ∀ k p, home member = some (k, p) → k = key ∧ p = place)
    (gone : AtLarge tables home' member)
    (others : ∀ other, other ≠ member → home' other = home other) :
    Agrees (Function.update tables place (some (Function.update table key none))) home' := by
  intro p table' found' k x
  have agreed : ∀ table, tables p = some table →
      (table k = some x ↔ home x = some (k, p)) := fun table found => agrees p table found k x
  by_cases own' : x = member
  · subst own'
    have away : home' x ≠ some (k, p) := by
      intro stays
      by_cases same : p = place
      · subst same
        exact absurd (gone k p stays) (by rw [found]; exact nofun)
      · rw [Function.update_of_ne same] at found'
        exact absurd (gone k p stays) (by rw [found']; exact nofun)
    refine ⟨fun listed => ?_, fun stays => absurd stays away⟩
    by_cases same : p = place
    · subst same
      rw [Function.update_self] at found'
      cases found'
      by_cases keyed : k = key
      · subst keyed
        rw [Function.update_self] at listed
        cases listed
      · rw [Function.update_of_ne keyed] at listed
        exact absurd (here k p ((agreed table found).mp listed)).1 keyed
    · rw [Function.update_of_ne same] at found'
      exact absurd (here k p ((agreed table' found').mp listed)).2 same
  · rw [others x own']
    by_cases same : p = place
    · subst same
      rw [Function.update_self] at found'
      cases found'
      by_cases keyed : k = key
      · subst keyed
        rw [Function.update_self]
        refine ⟨nofun, fun here => absurd ?_ own'⟩
        exact own x ((agreed table found).mpr here)
      · rw [Function.update_of_ne keyed]
        exact agreed table found
    · rw [Function.update_of_ne same] at found'
      exact agreed table' found'

/-- A member at large comes in, under a free key. -/
theorem Agrees.enter (agrees : Agrees tables home) {member : Member} {place : Place} {key : Key}
    {table : Key → Option Member} (found : tables place = some table) (free : table key = none)
    (large : AtLarge tables home member) (enters : home' member = some (key, place))
    (others : ∀ other, other ≠ member → home' other = home other) :
    Agrees (Function.update tables place (some (Function.update table key (some member)))) home' := by
  intro p table' found' k x
  have agreed : ∀ table, tables p = some table →
      (table k = some x ↔ home x = some (k, p)) := fun table found => agrees p table found k x
  by_cases same : p = place
  · subst same
    rw [Function.update_self] at found'
    cases found'
    by_cases keyed : k = key
    · subst keyed
      rw [Function.update_self]
      constructor
      · rintro ⟨⟩
        exact enters
      · intro here
        by_contra other
        have other : x ≠ member := fun same => other (congrArg some same.symm)
        rw [others x other] at here
        exact absurd ((agreed table found).mpr here) (by rw [free]; exact nofun)
    · rw [Function.update_of_ne keyed, agreed table found]
      by_cases own : x = member
      · subst own
        rw [enters]
        refine ⟨fun here => absurd (large k p here) (by rw [found]; exact nofun), fun here => ?_⟩
        exact absurd (Prod.mk.inj (Option.some.inj here)).1.symm keyed
      · rw [others x own]
  · rw [Function.update_of_ne same] at found'
    rw [agreed table' found']
    by_cases own : x = member
    · subst own
      rw [enters]
      refine ⟨fun here => absurd (large k p here) (by rw [found']; exact nofun), fun here => ?_⟩
      exact absurd (Prod.mk.inj (Option.some.inj here)).2.symm same
    · rw [others x own]

omit [DecidableEq Place] [DecidableEq Key] in
theorem Agrees.one_place (agrees : Agrees tables home) {place place' : Place} {key key' : Key}
    {table table' : Key → Option Member} {member : Member} (found : tables place = some table)
    (found' : tables place' = some table') (listed : table key = some member)
    (listed' : table' key' = some member) : key = key' ∧ place = place' := by
  have here := (agrees place table found key member).mp listed
  have here' := (agrees place' table' found' key' member).mp listed'
  exact Prod.mk.inj (Option.some.inj (here.symm.trans here'))

end GameServer.Theory.Membership
