/-
# Theory.Meter -- a level that is filled up to a cap and drawn from

A meter admits work by a level.  Each draw first adds what was supplied since the
one before, never beyond the cap, and then takes one if there is one to take.

* `draw_within` -- the level stays between nothing and the cap;
* `granted_le_supply` -- no more draws are granted than the level and the supplies give;
* `granted_le_cap` -- nor more than the cap and the supplies after the first draw;
* `granted_all_iff` -- every draw is granted exactly when neither bound is ever
  overrun.
-/
import Mathlib.Algebra.BigOperators.Group.List.Basic
import Mathlib.Algebra.Ring.Int.Defs

namespace GameServer.Theory.Meter

set_option autoImplicit false

/-- What is there to draw from. -/
def filled (cap level supply : Int) : Int := min (level + supply) cap

/-- One draw: the level it leaves, and whether it was granted. -/
def draw (cap level supply : Int) : Int × Bool :=
  if 0 < filled cap level supply then (filled cap level supply - 1, true)
  else (filled cap level supply, false)

/-- Which draws are granted. -/
def granted (cap : Int) : Int → List Int → List Bool
  | _, [] => []
  | level, a :: supplies => (draw cap level a).2 :: granted cap (draw cap level a).1 supplies

variable {cap level : Int} {supplies : List Int}

/-- **The level stays within its bounds.** -/
theorem draw_within (within : 0 ≤ level ∧ level ≤ cap) {a : Int} (some : 0 ≤ a) :
    0 ≤ (draw cap level a).1 ∧ (draw cap level a).1 ≤ cap := by
  have full : 0 ≤ filled cap level a ∧ filled cap level a ≤ cap := by
    simp only [filled]
    omega
  simp only [draw]
  split
  · dsimp only
    omega
  · exact full

/-- What a draw leaves and what it grants is what there was to draw from. -/
theorem draw_total (cap level a : Int) :
    (draw cap level a).1 + ((if (draw cap level a).2 = true then 1 else 0 : Nat) : Int) =
      filled cap level a := by
  simp only [draw]
  split
  · simp
  · simp

theorem granted_cons (cap level a : Int) (supplies : List Int) :
    ((granted cap level (a :: supplies)).count true : Int) =
      filled cap level a - (draw cap level a).1 +
        (granted cap (draw cap level a).1 supplies).count true := by
  have total := draw_total cap level a
  simp only [granted, List.count_cons, beq_iff_eq]
  omega

/-- **At most the level and the supplies.** -/
theorem granted_le_supply (within : 0 ≤ level ∧ level ≤ cap) (some : ∀ a ∈ supplies, 0 ≤ a) :
    ((granted cap level supplies).count true : Int) ≤ level + supplies.sum := by
  induction supplies generalizing level with
  | nil =>
      simp only [granted, List.count_nil, List.sum_nil]
      omega
  | cons a supplies ih =>
      have rest := ih (draw_within within (some a List.mem_cons_self))
        fun b member => some b (List.mem_cons_of_mem a member)
      have most : filled cap level a ≤ level + a := Int.min_le_left _ _
      rw [granted_cons, List.sum_cons]
      omega

/-- **At most the cap and what is supplied after the first draw.** -/
theorem granted_le_cap (within : 0 ≤ level ∧ level ≤ cap) {a : Int} (first : 0 ≤ a)
    (some : ∀ b ∈ supplies, 0 ≤ b) :
    ((granted cap level (a :: supplies)).count true : Int) ≤ cap + supplies.sum := by
  have rest := granted_le_supply (draw_within within first) some
  have most : filled cap level a ≤ cap := Int.min_le_right _ _
  rw [granted_cons]
  omega

/-! ## Every draw granted -/

/-- The draws never overrun the level and the supplies, nor from any draw on the cap
and the supplies after it. -/
structure Covered (cap level : Int) (supplies : List Int) : Prop where
  supply : ∀ front a, front ++ [a] <+: supplies → front.length + 1 ≤ level + (front ++ [a]).sum
  cap : ∀ front a back, front ++ a :: back <+: supplies → back.length + 1 ≤ cap + back.sum

theorem covered_nil (cap level : Int) : Covered cap level [] where
  supply front a within := by simp at within
  cap front a back within := by simp at within

/-- The first draw taken apart from the rest. -/
theorem covered_cons {a : Int} :
    Covered cap level (a :: supplies) ↔
      0 < filled cap level a ∧ Covered cap (filled cap level a - 1) supplies := by
  constructor
  · rintro ⟨supply, capped⟩
    have one := supply [] a ((List.prefix_cons_inj a).mpr List.nil_prefix)
    have room := capped [] a [] ((List.prefix_cons_inj a).mpr List.nil_prefix)
    simp only [List.length_nil, List.nil_append, List.sum_cons, List.sum_nil] at one room
    refine ⟨by simp only [filled]; omega, fun front b within => ?_, fun front b back within => ?_⟩
    · have enough := supply (a :: front) b ((List.prefix_cons_inj a).mpr within)
      have below := capped [] a (front ++ [b]) ((List.prefix_cons_inj a).mpr within)
      simp only [List.length_cons, List.length_append, List.length_nil, List.cons_append,
        List.sum_cons] at enough below
      simp only [filled]
      push_cast at enough below
      omega
    · exact capped (a :: front) b back ((List.prefix_cons_inj a).mpr within)
  · rintro ⟨some, supply, capped⟩
    simp only [filled] at some supply
    refine ⟨fun front b within => ?_, fun front b back within => ?_⟩
    · cases front with
      | nil =>
          rw [List.nil_append, List.prefix_cons_iff] at within
          rcases within with absurd | ⟨rest, same, -⟩
          · cases absurd
          · cases same
            simp only [List.length_nil, List.nil_append, List.sum_cons, List.sum_nil]
            omega
      | cons c front =>
          rw [List.cons_append, List.prefix_cons_iff] at within
          rcases within with absurd | ⟨rest, same, within⟩
          · cases absurd
          · cases same
            have enough := supply front b within
            simp only [List.length_cons, List.cons_append, List.sum_cons]
            push_cast
            omega
    · cases front with
      | nil =>
          rw [List.nil_append, List.prefix_cons_iff] at within
          rcases within with absurd | ⟨rest, same, within⟩
          · cases absurd
          · cases same
            rcases List.eq_nil_or_concat back with rfl | ⟨front, c, rfl⟩
            · simp only [List.length_nil, List.sum_nil]
              omega
            · rw [List.concat_eq_append] at within ⊢
              have enough := supply front c within
              simp only [List.length_append, List.length_cons, List.length_nil]
              push_cast
              omega
      | cons c front =>
          rw [List.cons_append, List.prefix_cons_iff] at within
          rcases within with absurd | ⟨rest, same, within⟩
          · cases absurd
          · cases same
            exact capped front b back within

/-- **Every draw is granted exactly when the draws are covered.** -/
theorem granted_all_iff :
    (∀ b ∈ granted cap level supplies, b = true) ↔ Covered cap level supplies := by
  induction supplies generalizing level with
  | nil => exact iff_of_true (fun _ member => nomatch member) (covered_nil cap level)
  | cons a supplies ih =>
      rw [covered_cons, ← ih]
      simp only [granted, List.mem_cons, forall_eq_or_imp, draw]
      by_cases some : 0 < filled cap level a
      · simp [some]
      · simp [some]

end GameServer.Theory.Meter
