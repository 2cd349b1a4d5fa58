/-
# Theory.Locks -- what a call chain locks while it holds what

A lock is held for a scope, so what one call does is a tree: scopes, each with what is done
inside, one after the other.  Between them code of the caller may run (`call`).

`Nests` says that a mutex is taken while another one is held; a mutex nested in itself is
one the chain waits for and holds (`Relocks`).  Chains that take mutexes in the order of a
rank (`Ranked`) nest upwards only (`Ranked.nests`), and then nothing is nested in a cycle
(`acyclic_of_rank`).  `Ranked` is put together as the chains are.
-/
import Mathlib.Logic.Relation
import Mathlib.Data.Set.Basic

namespace GameServer.Theory.Locks

set_option autoImplicit false

universe u

variable {μ : Type u}

/-- What a call locks, in order. -/
inductive Chain (μ : Type u) where
  | nil
  /-- `m` is held for what is inside, and then released. -/
  | guard (m : μ) (inside rest : Chain μ)
  /-- Code of the caller runs. -/
  | call (rest : Chain μ)
deriving DecidableEq, Repr

namespace Chain

def append : Chain μ → Chain μ → Chain μ
  | nil, back => back
  | guard m inside rest, back => guard m inside (rest.append back)
  | call rest, back => call (rest.append back)

/-- Each mutex taken, with those held there. -/
def takes (held : List μ) : Chain μ → List (μ × List μ)
  | nil => []
  | guard m inside rest => (m, held) :: (takes (m :: held) inside ++ takes held rest)
  | call rest => takes held rest

/-- What is held wherever code of the caller runs. -/
def calls (held : List μ) : Chain μ → List (List μ)
  | nil => []
  | guard m inside rest => calls (m :: held) inside ++ calls held rest
  | call rest => held :: calls held rest

theorem calls_append (held : List μ) (front back : Chain μ) :
    (front.append back).calls held = front.calls held ++ back.calls held := by
  induction front with
  | nil => rfl
  | guard m inside rest _ ih => simp only [append, calls, ih, List.append_assoc]
  | call rest ih => simp only [append, calls, ih, List.cons_append]

/-- `m'` is taken while `m` is held. -/
def Nests (c : Chain μ) (m m' : μ) : Prop := ∃ held, (m', held) ∈ c.takes [] ∧ m ∈ held

/-- A mutex is taken that is held. -/
def Relocks (c : Chain μ) : Prop := ∃ m, c.Nests m m

/-! ## Ranks -/

/-- Each mutex taken is of rank `n` or more, and above those it is nested in. -/
def Ranked (rank : μ → Nat) : Nat → Chain μ → Prop
  | _, nil => True
  | n, guard m inside rest => n ≤ rank m ∧ Ranked rank (rank m + 1) inside ∧ Ranked rank n rest
  | n, call rest => Ranked rank n rest

variable {rank : μ → Nat}

theorem ranked_append {n : Nat} {front back : Chain μ} (first : Ranked rank n front)
    (then_ : Ranked rank n back) : Ranked rank n (front.append back) := by
  induction front with
  | nil => exact then_
  | guard m inside rest _ ih => exact ⟨first.1, first.2.1, ih first.2.2⟩
  | call rest ih => exact ih first

theorem Ranked.mono {n n' : Nat} {c : Chain μ} (lower : n' ≤ n) (ranked : Ranked rank n c) :
    Ranked rank n' c := by
  induction c with
  | nil => trivial
  | guard m inside rest _ ih =>
      exact ⟨Nat.le_trans lower ranked.1, ranked.2.1, ih ranked.2.2⟩
  | call rest ih => exact ih ranked

/-- **A ranked chain takes each mutex above all it holds.** -/
theorem Ranked.above {n : Nat} {c : Chain μ} (ranked : Ranked rank n c) {held : List μ}
    (below : ∀ m ∈ held, rank m < n) {m m' : μ} {at_ : List μ} (taken : (m', at_) ∈ c.takes held)
    (holds : m ∈ at_) : rank m < rank m' := by
  induction c generalizing n held with
  | nil => cases taken
  | guard x inside rest ihInside ihRest =>
      obtain ⟨least, within, after⟩ := ranked
      rw [takes, List.mem_cons, List.mem_append] at taken
      rcases taken with here | taken | taken
      · cases here
        exact Nat.lt_of_lt_of_le (below m holds) least
      · refine ihInside within ?_ taken
        intro y member
        rcases List.mem_cons.mp member with rfl | member
        · exact Nat.lt_succ_self _
        · exact Nat.lt_succ_of_lt (Nat.lt_of_lt_of_le (below y member) least)
      · exact ihRest after below taken
  | call rest ih => exact ih ranked below taken

theorem Ranked.nests {n : Nat} {c : Chain μ} (ranked : Ranked rank n c) {m m' : μ}
    (nests : c.Nests m m') : rank m < rank m' := by
  obtain ⟨held, taken, holds⟩ := nests
  refine ranked.above ?_ taken holds
  intro y member
  cases member

end Chain

/-! ## Orders -/

/-- Nothing is nested in itself, by whatever detours. -/
def Acyclic (nests : μ → μ → Prop) : Prop := ∀ m, ¬ Relation.TransGen nests m m

/-- **Nesting upwards only is nesting in no cycle.** -/
theorem acyclic_of_rank {nests : μ → μ → Prop} {rank : μ → Nat}
    (upwards : ∀ m m', nests m m' → rank m < rank m') : Acyclic nests := by
  have further : ∀ m m', Relation.TransGen nests m m' → rank m < rank m' := by
    intro m m' reached
    induction reached with
    | single nested => exact upwards _ _ nested
    | tail _ nested ih => exact Nat.lt_trans ih (upwards _ _ nested)
  intro m cycle
  exact Nat.lt_irrefl _ (further m m cycle)

end GameServer.Theory.Locks
