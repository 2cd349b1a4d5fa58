/-
# Theory.SortedMap -- maps as lists in the order of their keys

Each key stands once.  `insert` sets the value of a key that is there and puts a new
one in its place; `touch` adds a key with a default value and leaves one that is there.

* `insert_sorted`, `lookup_insert` -- the order is kept, and one key's value is changed;
* `insert_touch` -- a key touched and then set is a key set;
* `collect_sorted`, `gather_sorted` -- a sorted list is the map of its entries;
* `lookup_collect`, `lookup_gather` -- of entries with one key the last counts, or the first.
-/
import Mathlib.Data.List.Basic

namespace GameServer.Theory.SortedMap

set_option autoImplicit false

universe u v

variable {κ : Type u} {β : Type v} [Ord κ]

/-- The value of a key set, or a new entry before the first larger key. -/
def insert (key : κ) (value : β) : List (κ × β) → List (κ × β)
  | [] => [(key, value)]
  | entry :: entries =>
      match compare key entry.1 with
      | .lt => (key, value) :: entry :: entries
      | .eq => (entry.1, value) :: entries
      | .gt => entry :: insert key value entries

def lookup (key : κ) (entries : List (κ × β)) : Option β :=
  (entries.find? fun entry => compare key entry.1 == .eq).map Prod.snd

/-- A key with a default value, unless it is there. -/
def touch (key : κ) (value : β) (entries : List (κ × β)) : List (κ × β) :=
  if (lookup key entries).isSome then entries else insert key value entries

/-- The map of these entries, set one after another. -/
def collect (given : List (κ × β)) : List (κ × β) :=
  given.foldl (fun entries entry => insert entry.1 entry.2 entries) []

/-- The map of these entries, those behind set before those in front. -/
def gather (given : List (κ × β)) : List (κ × β) :=
  given.foldr (fun entry entries => insert entry.1 entry.2 entries) []

/-- In the strict order of the keys. -/
def Sorted (entries : List (κ × β)) : Prop :=
  entries.Pairwise fun one other => compare one.1 other.1 = .lt

@[simp] theorem insert_nil (key : κ) (value : β) : insert key value [] = [(key, value)] := rfl

@[simp] theorem sorted_nil : Sorted ([] : List (κ × β)) := List.Pairwise.nil

/-- What holds of the new key and value and of every entry still does. -/
theorem forall_insert {P : κ → Prop} {Q : β → Prop} {key : κ} {value : β} {entries : List (κ × β)}
    (new : P key ∧ Q value) (old : ∀ entry ∈ entries, P entry.1 ∧ Q entry.2) :
    ∀ entry ∈ insert key value entries, P entry.1 ∧ Q entry.2 := by
  induction entries with
  | nil => simpa using new
  | cons first entries ih =>
      have head := old first List.mem_cons_self
      have tail : ∀ entry ∈ entries, P entry.1 ∧ Q entry.2 :=
        fun entry member => old entry (List.mem_cons_of_mem _ member)
      rw [insert]
      split
      · exact List.forall_mem_cons.mpr ⟨new, old⟩
      · exact List.forall_mem_cons.mpr ⟨⟨head.1, new.2⟩, tail⟩
      · exact List.forall_mem_cons.mpr ⟨head, ih tail⟩

/-- Whatever lies below the new key and the old ones lies below all. -/
theorem insert_below {low key : κ} {value : β} {entries : List (κ × β)}
    (new : compare low key = .lt) (old : ∀ entry ∈ entries, compare low entry.1 = .lt) :
    ∀ entry ∈ insert key value entries, compare low entry.1 = .lt := by
  induction entries with
  | nil => simpa using new
  | cons first entries ih =>
      intro entry member
      have head := old first List.mem_cons_self
      have tail := ih fun entry member => old entry (List.mem_cons_of_mem _ member)
      rw [insert] at member
      split at member
      · rcases List.mem_cons.mp member with rfl | later
        · exact new
        · exact old entry later
      · rcases List.mem_cons.mp member with rfl | later
        · exact head
        · exact old entry (List.mem_cons_of_mem _ later)
      · rcases List.mem_cons.mp member with rfl | later
        · exact head
        · exact tail entry later

section Ordered

variable [Std.TransOrd κ]

theorem insert_sorted (key : κ) (value : β) {entries : List (κ × β)} (sorted : Sorted entries) :
    Sorted (insert key value entries) := by
  induction entries with
  | nil => exact List.pairwise_singleton _ _
  | cons first entries ih =>
      obtain ⟨below, rest⟩ := List.pairwise_cons.mp sorted
      rw [insert]
      split
      · rename_i less
        refine List.pairwise_cons.mpr ⟨?_, sorted⟩
        intro entry member
        rcases List.mem_cons.mp member with rfl | later
        · exact less
        · exact Std.TransCmp.lt_trans less (below entry later)
      · exact List.pairwise_cons.mpr ⟨below, rest⟩
      · rename_i greater
        exact List.pairwise_cons.mpr
          ⟨insert_below (Std.OrientedCmp.lt_of_gt greater) below, ih rest⟩

/-- A key above all stands last. -/
theorem insert_last {key : κ} (value : β) {entries : List (κ × β)}
    (above : ∀ entry ∈ entries, compare entry.1 key = .lt) :
    insert key value entries = entries ++ [(key, value)] := by
  induction entries with
  | nil => rfl
  | cons first entries ih =>
      have greater := Std.OrientedCmp.gt_of_lt (above first List.mem_cons_self)
      have tail := ih fun entry member => above entry (List.mem_cons_of_mem _ member)
      simp only [insert, greater, tail, List.cons_append]

theorem collect_sorted_append {given entries : List (κ × β)} (sorted : Sorted (entries ++ given)) :
    given.foldl (fun entries entry => insert entry.1 entry.2 entries) entries =
      entries ++ given := by
  induction given generalizing entries with
  | nil => simp
  | cons entry given ih =>
      have last : insert entry.1 entry.2 entries = entries ++ [entry] := by
        refine insert_last _ fun other member => ?_
        exact (List.pairwise_append.mp sorted).2.2 other member entry List.mem_cons_self
      rw [List.foldl_cons, last, ih (by simpa using sorted)]
      simp

/-- **A sorted list is the map of its entries.** -/
theorem collect_sorted {given : List (κ × β)} (sorted : Sorted given) : collect given = given :=
  collect_sorted_append sorted

theorem sorted_collect (given : List (κ × β)) : Sorted (collect given) := by
  have each : ∀ {entries : List (κ × β)}, Sorted entries →
      Sorted (given.foldl (fun entries entry => insert entry.1 entry.2 entries) entries) := by
    induction given with
    | nil => exact fun sorted => sorted
    | cons entry given ih => exact fun sorted => ih (insert_sorted _ _ sorted)
  exact each sorted_nil

theorem sorted_gather (given : List (κ × β)) : Sorted (gather given) := by
  induction given with
  | nil => exact sorted_nil
  | cons entry given ih => exact insert_sorted entry.1 entry.2 ih

end Ordered

/-- A key below all stands first. -/
theorem insert_first {key : κ} (value : β) {entries : List (κ × β)}
    (below : ∀ entry ∈ entries, compare key entry.1 = .lt) :
    insert key value entries = (key, value) :: entries := by
  cases entries with
  | nil => rfl
  | cons first entries => simp only [insert, below first List.mem_cons_self]

theorem gather_sorted {given : List (κ × β)} (sorted : Sorted given) : gather given = given := by
  induction given with
  | nil => rfl
  | cons entry given ih =>
      obtain ⟨below, rest⟩ := List.pairwise_cons.mp sorted
      change insert entry.1 entry.2 (gather given) = _
      rw [ih rest, insert_first _ below]

/-- What holds of every entry holds of their map. -/
theorem forall_collect {P : κ → Prop} {Q : β → Prop} {given : List (κ × β)}
    (each : ∀ entry ∈ given, P entry.1 ∧ Q entry.2) :
    ∀ entry ∈ collect given, P entry.1 ∧ Q entry.2 := by
  have all : ∀ entries : List (κ × β), (∀ entry ∈ entries, P entry.1 ∧ Q entry.2) →
      ∀ entry ∈ given.foldl (fun entries entry => insert entry.1 entry.2 entries) entries,
        P entry.1 ∧ Q entry.2 := by
    induction given with
    | nil => exact fun entries held => held
    | cons entry given ih =>
        obtain ⟨first, others⟩ := List.forall_mem_cons.mp each
        exact fun entries held => ih others _ (forall_insert first held)
  exact all [] (List.forall_mem_nil _)

theorem forall_gather {P : κ → Prop} {Q : β → Prop} {given : List (κ × β)}
    (each : ∀ entry ∈ given, P entry.1 ∧ Q entry.2) :
    ∀ entry ∈ gather given, P entry.1 ∧ Q entry.2 := by
  induction given with
  | nil => exact List.forall_mem_nil _
  | cons entry given ih =>
      obtain ⟨first, others⟩ := List.forall_mem_cons.mp each
      exact forall_insert first (ih others)

@[simp] theorem lookup_nil (key : κ) : lookup key ([] : List (κ × β)) = none := rfl

/-- **Touched and then set is set.** -/
theorem insert_touch [Std.ReflOrd κ] (key : κ) (value default : β) (entries : List (κ × β)) :
    insert key value (touch key default entries) = insert key value entries := by
  rw [touch]
  split
  · rfl
  · induction entries with
    | nil => simp [insert]
    | cons first entries ih =>
        rename_i missing
        rw [lookup, List.find?_cons] at missing
        rw [insert, insert]
        cases order : compare key first.1 with
        | lt => simp [insert]
        | eq => simp [order] at missing
        | gt =>
            simp only [order, insert]
            rw [ih]
            simpa [order, lookup] using missing

section Lookup

variable [Std.LawfulEqOrd κ]

theorem lookup_cons [DecidableEq κ] (key : κ) (entry : κ × β) (entries : List (κ × β)) :
    lookup key (entry :: entries) = if entry.1 = key then some entry.2 else lookup key entries := by
  rw [lookup, List.find?_cons]
  by_cases same : entry.1 = key
  · subst same
    simp
  · rw [if_neg same]
    have other : compare key entry.1 ≠ .eq := fun equal =>
      same (Std.LawfulEqOrd.eq_of_compare equal).symm
    rw [beq_eq_false_iff_ne.mpr other]
    rfl

/-- **One key's value is changed.** -/
theorem lookup_insert [DecidableEq κ] (key key' : κ) (value : β) (entries : List (κ × β)) :
    lookup key' (insert key value entries) =
      if key = key' then some value else lookup key' entries := by
  induction entries with
  | nil => simp [lookup_cons]
  | cons first entries ih =>
      rw [insert]
      split
      · rw [lookup_cons]
      · rename_i equal
        have same : key = first.1 := Std.LawfulEqOrd.eq_of_compare equal
        simp only [lookup_cons, same]
        split <;> rfl
      · rename_i greater
        rw [lookup_cons, ih, lookup_cons]
        by_cases same : key = key'
        · have other : first.1 ≠ key' := by
            rintro rfl
            rw [same, Std.compare_self] at greater
            cases greater
          simp [same, other]
        · simp [same]

/-- **Of entries gathered with one key the first counts.** -/
theorem lookup_gather [DecidableEq κ] (key : κ) (given : List (κ × β)) :
    lookup key (gather given) = (given.find? fun entry => entry.1 = key).map Prod.snd := by
  induction given with
  | nil => rfl
  | cons entry given ih =>
      change lookup key (insert entry.1 entry.2 (gather given)) = _
      rw [lookup_insert, ih, List.find?_cons]
      by_cases same : entry.1 = key <;> simp [same]

theorem lookup_collect_append [DecidableEq κ] (key : κ) (given entries : List (κ × β)) :
    lookup key (given.foldl (fun entries entry => insert entry.1 entry.2 entries) entries) =
      ((given.reverse.find? fun entry => entry.1 = key).map Prod.snd).or (lookup key entries) := by
  induction given generalizing entries with
  | nil => rfl
  | cons entry given ih =>
      rw [List.foldl_cons, ih, lookup_insert, List.reverse_cons, List.find?_append]
      cases (given.reverse.find? fun entry => entry.1 = key) with
      | some last => rfl
      | none =>
          by_cases same : entry.1 = key <;> simp [same]

/-- **Of entries with one key the last counts.** -/
theorem lookup_collect [DecidableEq κ] (key : κ) (given : List (κ × β)) :
    lookup key (collect given) =
      (given.reverse.find? fun entry => entry.1 = key).map Prod.snd := by
  rw [collect, lookup_collect_append]
  simp

end Lookup

end GameServer.Theory.SortedMap
