/-
# Theory.Sharding -- one table kept in buckets

Keys are spread over finitely many buckets, each key to its own.  Reading and writing
touch one bucket; counting and walking go through all of them.

`Holds` says that the buckets hold a table.  Writes keep it (`Holds.insert`,
`Holds.erase`), and the buckets read one after the other are the table's entries in some
order (`Holds.entries_perm`): it takes that a key is in no bucket but its own, and that
no key's bucket is out of range.
-/
import Mathlib.Algebra.Ring.Nat
import Mathlib.Data.List.AList
import Mathlib.Data.List.Range

namespace GameServer.Theory.Sharding

set_option autoImplicit false

universe u v

variable {κ : Type u} {β : Type v} [DecidableEq κ]

/-- Buckets by number; `n` of them are in use. -/
abbrev Buckets (κ : Type u) (β : Type v) := Nat → AList fun _ : κ => β

/-- The entries of the buckets, one bucket after the other. -/
def entries (n : Nat) (buckets : Buckets κ β) : List (Σ _ : κ, β) :=
  (List.range n).flatMap fun i => (buckets i).entries

/-- Whoever is in a bucket belongs there. -/
def Own (shard : κ → Nat) (buckets : Buckets κ β) : Prop :=
  ∀ i k, k ∈ buckets i → i = shard k

/-- The buckets hold the table. -/
structure Holds (shard : κ → Nat) (buckets : Buckets κ β) (table : AList fun _ : κ => β) : Prop where
  own : Own shard buckets
  lookup : ∀ k, table.lookup k = (buckets (shard k)).lookup k

variable {shard : κ → Nat} {buckets : Buckets κ β} {table : AList fun _ : κ => β}

theorem Own.lookup_eq (own : Own shard buckets) {i : Nat} {k : κ} {b : β}
    (found : (buckets i).lookup k = some b) : i = shard k :=
  own i k (AList.lookup_isSome.mp (by rw [found]; rfl))

theorem mem_entries {n i : Nat} {k : κ} {b : β} (inRange : i < n)
    (found : (buckets i).lookup k = some b) : ⟨k, b⟩ ∈ entries n buckets :=
  List.mem_flatMap.mpr ⟨i, List.mem_range.mpr inRange, AList.mem_lookup_iff.mp found⟩

/-- The entries are those of the keys' own buckets. -/
theorem lookup_of_mem_entries {n : Nat} {k : κ} {b : β} (own : Own shard buckets)
    (member : ⟨k, b⟩ ∈ entries n buckets) : (buckets (shard k)).lookup k = some b := by
  obtain ⟨i, -, here⟩ := List.mem_flatMap.mp member
  have found : (buckets i).lookup k = some b := AList.mem_lookup_iff.mpr here
  rwa [own.lookup_eq found] at found

omit [DecidableEq κ] in
/-- No key is met twice. -/
theorem entries_nodupKeys (own : Own shard buckets) (n : Nat) :
    (entries n buckets).NodupKeys := by
  have disjoint : ∀ i j, i ≠ j → ((buckets i).keys).Disjoint (buckets j).keys := by
    intro i j apart k here there
    exact apart ((own i k here).trans (own j k there).symm)
  rw [entries, List.flatMap_def, List.nodupKeys_flatten]
  constructor
  · intro bucket member
    obtain ⟨i, -, rfl⟩ := List.mem_map.mp member
    exact (buckets i).nodupKeys
  · rw [List.pairwise_map, List.pairwise_map]
    apply List.nodup_range.imp
    intro i j apart
    exact disjoint i j apart

namespace Holds

theorem empty (shard : κ → Nat) : Holds shard (fun _ => (∅ : AList fun _ : κ => β)) ∅ :=
  ⟨fun _ k member => absurd member (AList.notMem_empty k), fun _ => rfl⟩

/-- **A write of one key**, in its bucket and in the table. -/
theorem write (holds : Holds shard buckets table) {k : κ} {bucket table' : AList fun _ : κ => β}
    (own : ∀ k' ∈ bucket, k' = k ∨ k' ∈ buckets (shard k))
    (here : table'.lookup k = bucket.lookup k)
    (others : ∀ k', k' ≠ k →
      bucket.lookup k' = (buckets (shard k)).lookup k' ∧ table'.lookup k' = table.lookup k') :
    Holds shard (Function.update buckets (shard k) bucket) table' := by
  constructor
  · intro i k' member
    by_cases written : i = shard k
    · subst written
      rw [Function.update_self] at member
      rcases own k' member with rfl | before
      · rfl
      · exact holds.own _ k' before
    · rw [Function.update_of_ne written] at member
      exact holds.own i k' member
  · intro k'
    by_cases same : k' = k
    · subst same
      rw [Function.update_self, here]
    · obtain ⟨inBucket, inTable⟩ := others k' same
      rw [inTable, holds.lookup]
      by_cases written : shard k' = shard k
      · rw [written, Function.update_self, inBucket]
      · rw [Function.update_of_ne written]

theorem insert (holds : Holds shard buckets table) (k : κ) (b : β) :
    Holds shard (Function.update buckets (shard k) ((buckets (shard k)).insert k b))
      (table.insert k b) := by
  refine holds.write ?_ ?_ ?_
  · intro k' member
    exact (AList.mem_insert _).mp member
  · rw [AList.lookup_insert, AList.lookup_insert]
  · intro k' other
    exact ⟨AList.lookup_insert_ne other, AList.lookup_insert_ne other⟩

theorem erase (holds : Holds shard buckets table) (k : κ) :
    Holds shard (Function.update buckets (shard k) ((buckets (shard k)).erase k))
      (table.erase k) := by
  refine holds.write ?_ ?_ ?_
  · intro k' member
    exact .inr (AList.mem_erase.mp member).2
  · rw [AList.lookup_erase, AList.lookup_erase]
  · intro k' other
    exact ⟨AList.lookup_erase_ne other, AList.lookup_erase_ne other⟩

/-- **The buckets, read through, are the table.** -/
theorem entries_perm (holds : Holds shard buckets table) {n : Nat} (inRange : ∀ k, shard k < n) :
    (entries n buckets).Perm table.entries := by
  apply (List.perm_ext_iff_of_nodup (entries_nodupKeys holds.own n).nodup table.nodupKeys.nodup).mpr
  rintro ⟨k, b⟩
  rw [← AList.mem_lookup_iff, Option.mem_def, holds.lookup]
  constructor
  · exact lookup_of_mem_entries holds.own
  · exact mem_entries (inRange k)

/-- Counting bucket by bucket counts the table. -/
theorem sum_length (holds : Holds shard buckets table) {n : Nat} (inRange : ∀ k, shard k < n) :
    ((List.range n).map fun i => (buckets i).entries.length).sum = table.entries.length := by
  rw [← (holds.entries_perm inRange).length_eq, entries, List.length_flatMap]

end Holds

end GameServer.Theory.Sharding
