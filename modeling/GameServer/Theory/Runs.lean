/-
# Theory.Runs -- runs of a machine, and what holds along them

A machine is a total step function; an event it is not ready for leaves it as it
is.  A run is a list of events.  A guard judges each event in the state it meets,
`Along` asks it of every event of a run.

* `run_invariant` -- what guarded steps preserve holds after every guarded run
  (`run_latched`: with a part that only holds once some event has come);
* `run_origin` -- what holds at the end and not at the start has its cause in the run;
* `throughout_iff` -- a guard that decides, step by step, whether good states stay
  good decides whether a run is good throughout (`throughout_iff_of_lost`: or has
  throughout what only good states keep);
* `Reach.trans` -- what some guarded runs reach;
* `trace_count_le` -- what each event puts out at most once, a run puts out no more often
  than it has such events;
* `Refines.run_trace` -- a machine each of whose steps is a list of steps of
  another one runs as that other machine does on the concatenated lists;
* `Refines.invariant` -- and keeps the other machine's invariants.
-/
import Mathlib.Data.List.Basic

namespace GameServer.Theory.Runs

set_option autoImplicit false

universe u v w x

variable {σ : Type u} {ε : Type v}

def run (step : σ → ε → σ) (s : σ) (events : List ε) : σ := events.foldl step s

/-- Every event of the run passes `guard` in the state it meets. -/
def Along (step : σ → ε → σ) (guard : σ → ε → Prop) : σ → List ε → Prop
  | _, [] => True
  | s, e :: events => guard s e ∧ Along step guard (step s e) events

/-- A guard that can be checked can be checked along a run. -/
instance decidableAlong (step : σ → ε → σ) (guard : σ → ε → Prop)
    [∀ s e, Decidable (guard s e)] : ∀ s events, Decidable (Along step guard s events)
  | _, [] => isTrue trivial
  | s, e :: events =>
      have := decidableAlong step guard (step s e) events
      inferInstanceAs (Decidable (guard s e ∧ Along step guard (step s e) events))

section Run

variable {step : σ → ε → σ} {guard : σ → ε → Prop}

@[simp] theorem run_nil (s : σ) : run step s [] = s := rfl

@[simp] theorem run_cons (s : σ) (e : ε) (events : List ε) :
    run step s (e :: events) = run step (step s e) events := rfl

theorem run_append (s : σ) (front back : List ε) :
    run step s (front ++ back) = run step (run step s front) back :=
  List.foldl_append

theorem along_append {s : σ} {front back : List ε} :
    Along step guard s (front ++ back) ↔
      Along step guard s front ∧ Along step guard (run step s front) back := by
  induction front generalizing s with
  | nil => simp [Along]
  | cons e front ih => simp [Along, ih, and_assoc]

theorem along_mono {guard' : σ → ε → Prop} (weaker : ∀ s e, guard s e → guard' s e) {s : σ}
    {events : List ε} (along : Along step guard s events) : Along step guard' s events := by
  induction events generalizing s with
  | nil => trivial
  | cons e events ih => exact ⟨weaker s e along.1, ih along.2⟩

theorem along_and {guard' : σ → ε → Prop} {s : σ} {events : List ε}
    (one : Along step guard s events) (other : Along step guard' s events) :
    Along step (fun s e => guard s e ∧ guard' s e) s events := by
  induction events generalizing s with
  | nil => trivial
  | cons e events ih => exact ⟨⟨one.1, other.1⟩, ih one.2 other.2⟩

theorem along_true (s : σ) (events : List ε) : Along step (fun _ _ => True) s events := by
  induction events generalizing s with
  | nil => trivial
  | cons e events ih => exact ⟨trivial, ih (step s e)⟩

/-- A guard on events alone is met by each event of the run. -/
theorem along_mem {s : σ} {events : List ε} (along : Along step guard s events) {e : ε}
    (member : e ∈ events) : ∃ s', guard s' e := by
  induction events generalizing s with
  | nil => cases member
  | cons e' events ih =>
      rcases List.mem_cons.mp member with rfl | later
      · exact ⟨s, along.1⟩
      · exact ih along.2 later

/-- A guard holds along a run if it holds of whatever follows a front of it. -/
theorem along_iff {s : σ} {events : List ε} :
    Along step guard s events ↔
      ∀ front e, front ++ [e] <+: events → guard (run step s front) e := by
  induction events generalizing s with
  | nil =>
      refine ⟨fun _ front e within => ?_, fun _ => trivial⟩
      have nonempty := within.length_le
      simp at nonempty
  | cons first events ih =>
      constructor
      · rintro ⟨passed, along⟩ front e within
        cases front with
        | nil =>
            rw [List.nil_append, List.cons_prefix_cons] at within
            rw [within.1]
            exact passed
        | cons next front =>
            rw [List.cons_append, List.cons_prefix_cons] at within
            rw [within.1]
            exact ih.mp along front e within.2
      · intro each
        refine ⟨each [] first (List.cons_prefix_cons.mpr ⟨rfl, List.nil_prefix⟩), ih.mpr ?_⟩
        intro front e within
        exact each (first :: front) e (List.cons_prefix_cons.mpr ⟨rfl, within⟩)

/-- **Invariants of guarded runs.** -/
theorem run_invariant {inv : σ → Prop} (preserved : ∀ s e, inv s → guard s e → inv (step s e))
    {s : σ} (start : inv s) {events : List ε} (along : Along step guard s events) :
    inv (run step s events) := by
  induction events generalizing s with
  | nil => exact start
  | cons e events ih => exact ih (preserved s e start along.1) along.2

/-- **Invariants that an event switches on**: `inv p` says more once `p` holds, and an event
of the marked kind makes it hold from then on. -/
theorem run_latched (inv : Prop → σ → Prop) (allowed mark : ε → Prop)
    (weaken : ∀ {p q : Prop} {s : σ}, (q → p) → inv p s → inv q s)
    (preserved : ∀ {p : Prop} {s : σ} {e : ε}, allowed e → inv p s → inv (p ∨ mark e) (step s e))
    {p : Prop} {s : σ} (start : inv p s) {events : List ε} (all : ∀ e ∈ events, allowed e) :
    inv (p ∨ ∃ e ∈ events, mark e) (run step s events) := by
  induction events generalizing p s with
  | nil => exact weaken (fun some => some.resolve_right (by simp)) start
  | cons e events ih =>
      have next := ih (preserved (all e List.mem_cons_self) start)
        fun e' member => all e' (List.mem_cons_of_mem _ member)
      refine weaken ?_ next
      rintro (begun | ⟨e', member, marked⟩)
      · exact .inl (.inl begun)
      · rcases List.mem_cons.mp member with rfl | later
        · exact .inl (.inr marked)
        · exact .inr ⟨e', later, marked⟩

/-- **What holds at the end of a run was so at its start, or has an event of it for a cause.** -/
theorem run_origin {holds : σ → Prop} {cause : σ → ε → Prop}
    (once : ∀ s e, holds (step s e) → holds s ∨ cause s e) {s : σ} {events : List ε}
    (ends : holds (run step s events)) :
    holds s ∨ ∃ front e, front ++ [e] <+: events ∧ cause (run step s front) e := by
  induction events generalizing s with
  | nil => exact .inl ends
  | cons first events ih =>
      rcases ih ends with begun | ⟨front, e, within, caused⟩
      · refine (once s first begun).imp_right fun caused => ?_
        exact ⟨[], first, List.cons_prefix_cons.mpr ⟨rfl, List.nil_prefix⟩, caused⟩
      · exact .inr ⟨first :: front, e, List.cons_prefix_cons.mpr ⟨rfl, within⟩, caused⟩

/-- An invariant carried beside a guard may use it: the conjunction of the two is
the guard of the next layer. -/
theorem along_strengthen {inv : σ → Prop}
    (preserved : ∀ s e, inv s → guard s e → inv (step s e)) {s : σ} (start : inv s)
    {events : List ε} (along : Along step guard s events) :
    Along step (fun s e => guard s e ∧ inv s) s events := by
  induction events generalizing s with
  | nil => trivial
  | cons e events ih => exact ⟨⟨along.1, start⟩, ih (preserved s e start along.1) along.2⟩

/-- **Exact guards.**  Within `inv`, which every step preserves, a good state stays
good on exactly the events that pass the guard. -/
theorem throughout_iff {inv good : σ → Prop} (preserved : ∀ s e, inv s → inv (step s e))
    (sharp : ∀ s e, inv s → good s → (good (step s e) ↔ guard s e)) {s : σ} (start : inv s)
    (goodStart : good s) (events : List ε) :
    (∀ front, front <+: events → good (run step s front)) ↔ Along step guard s events := by
  induction events generalizing s with
  | nil =>
      constructor
      · exact fun _ => trivial
      · intro _ front within
        rw [List.prefix_nil.mp within]
        exact goodStart
  | cons e events ih =>
      constructor
      · intro throughout
        have next : good (step s e) := throughout [e] ((List.prefix_cons_inj e).mpr List.nil_prefix)
        refine ⟨(sharp s e start goodStart).mp next, ?_⟩
        refine (ih (preserved s e start) next).mp fun front within => ?_
        exact throughout (e :: front) ((List.prefix_cons_inj e).mpr within)
      · rintro ⟨passed, along⟩ front within
        have next := (sharp s e start goodStart).mpr passed
        rcases List.prefix_cons_iff.mp within with rfl | ⟨rest, rfl, shorter⟩
        · exact goodStart
        · exact (ih (preserved s e start) next).mpr along rest shorter

/-- The same of a property the guard is not exact for: good states have it, a passing
event keeps them good, and any other one loses the property. -/
theorem throughout_iff_of_lost {good holds : σ → Prop}
    (kept : ∀ s e, good s → guard s e → good (step s e)) (has : ∀ s, good s → holds s)
    (lost : ∀ s e, good s → ¬ guard s e → ¬ holds (step s e)) {s : σ} (start : good s)
    (events : List ε) :
    (∀ front, front <+: events → holds (run step s front)) ↔ Along step guard s events := by
  induction events generalizing s with
  | nil =>
      refine ⟨fun _ => trivial, fun _ front within => ?_⟩
      rw [List.prefix_nil.mp within]
      exact has s start
  | cons e events ih =>
      constructor
      · intro throughout
        have next : holds (step s e) := throughout [e] ((List.prefix_cons_inj e).mpr List.nil_prefix)
        have passed : guard s e := by
          by_contra fails
          exact lost s e start fails next
        refine ⟨passed, (ih (kept s e start passed)).mp fun front within => ?_⟩
        exact throughout (e :: front) ((List.prefix_cons_inj e).mpr within)
      · rintro ⟨passed, along⟩ front within
        rcases List.prefix_cons_iff.mp within with rfl | ⟨rest, rfl, shorter⟩
        · exact has s start
        · exact (ih (kept s e start passed)).mpr along rest shorter

/-- Some run of passing events leads from one state to the other. -/
def Reach (step : σ → ε → σ) (guard : σ → ε → Prop) (s s' : σ) : Prop :=
  ∃ events, Along step guard s events ∧ run step s events = s'

theorem Reach.refl (s : σ) : Reach step guard s s := ⟨[], trivial, rfl⟩

theorem Reach.one {s : σ} (e : ε) (passes : guard s e) : Reach step guard s (step s e) :=
  ⟨[e], ⟨passes, trivial⟩, rfl⟩

theorem Reach.trans {s s' s'' : σ} (first : Reach step guard s s')
    (second : Reach step guard s' s'') : Reach step guard s s'' := by
  obtain ⟨front, along, rfl⟩ := first
  obtain ⟨back, along', rfl⟩ := second
  exact ⟨front ++ back, along_append.mpr ⟨along, along'⟩, run_append s front back⟩

theorem Reach.foldl {α : Type w} {f : σ → α → σ} (each : ∀ s a, Reach step guard s (f s a))
    (items : List α) (s : σ) : Reach step guard s (items.foldl f s) := by
  induction items generalizing s with
  | nil => exact .refl s
  | cons a items ih => exact (each s a).trans (ih (f s a))

/-- What passing events preserve holds wherever they lead. -/
theorem Reach.invariant {inv : σ → Prop}
    (preserved : ∀ s e, inv s → guard s e → inv (step s e)) {s s' : σ}
    (reach : Reach step guard s s') (start : inv s) : inv s' := by
  obtain ⟨events, along, rfl⟩ := reach
  exact run_invariant preserved start along

end Run

section Refinement

variable {α : Type w} {ω : Type x}

/-- The steps of the other machine that a run takes. -/
def trace (step : σ → ε → σ) (ops : σ → ε → List ω) : σ → List ε → List ω
  | _, [] => []
  | s, e :: events => ops s e ++ trace step ops (step s e) events

/-- Each of them belongs to an event, in the state that it meets. -/
theorem mem_trace {step : σ → ε → σ} {ops : σ → ε → List ω} {s : σ} {events : List ε} {o : ω}
    (member : o ∈ trace step ops s events) :
    ∃ front e, front ++ [e] <+: events ∧ o ∈ ops (run step s front) e := by
  induction events generalizing s with
  | nil => cases member
  | cons first events ih =>
      rcases List.mem_append.mp member with here | later
      · exact ⟨[], first, List.cons_prefix_cons.mpr ⟨rfl, List.nil_prefix⟩, here⟩
      · obtain ⟨front, e, within, inside⟩ := ih later
        exact ⟨first :: front, e, List.cons_prefix_cons.mpr ⟨rfl, within⟩, inside⟩

theorem trace_append {step : σ → ε → σ} {ops : σ → ε → List ω} (s : σ) (front back : List ε) :
    trace step ops s (front ++ back) =
      trace step ops s front ++ trace step ops (run step s front) back := by
  induction front generalizing s with
  | nil => rfl
  | cons e front ih => rw [List.cons_append, trace, ih, trace, List.append_assoc, run_cons]

/-- An invariant that stands as long as nothing is put out that spoils it. -/
theorem trace_invariant {step : σ → ε → σ} {ops : σ → ε → List ω} {inv : σ → Prop}
    {spoils : ω → Bool}
    (preserved : ∀ s e, inv s → (∀ o ∈ ops s e, spoils o = false) → inv (step s e)) {s : σ}
    (start : inv s) {events : List ε} (spared : ∀ o ∈ trace step ops s events, spoils o = false) :
    inv (run step s events) := by
  induction events generalizing s with
  | nil => exact start
  | cons e events ih =>
      exact ih (preserved s e start fun o member => spared o (List.mem_append_left _ member))
        fun o member => spared o (List.mem_append_right _ member)

/-- **What a run puts out, it was given for**: if each event puts out at most one item that
counts, and none unless it is itself of a kind, then a run puts out no more of them than it has
events of that kind.  The invariant this rests on may end with an item that spoils it. -/
theorem trace_count_le {step : σ → ε → σ} {ops : σ → ε → List ω} {inv : σ → Prop}
    {spoils counts : ω → Bool} {kind : ε → Bool}
    (preserved : ∀ s e, inv s → (∀ o ∈ ops s e, spoils o = false) → inv (step s e))
    (bounded : ∀ s e, inv s → (ops s e).countP counts ≤ if kind e then 1 else 0) {s : σ}
    (start : inv s) {events : List ε} (spared : ∀ o ∈ trace step ops s events, spoils o = false) :
    (trace step ops s events).countP counts ≤ events.countP kind := by
  induction events generalizing s with
  | nil => exact Nat.le_refl 0
  | cons e events ih =>
      have here := bounded s e start
      have later := ih
        (preserved s e start fun o member => spared o (List.mem_append_left _ member))
        fun o member => spared o (List.mem_append_right _ member)
      rw [trace, List.countP_append, List.countP_cons]
      omega

/-- Within `inv`, each step is the steps `ops` of the other machine, all of them
lawful there. -/
structure Refines (step : σ → ε → σ) (inv : σ → Prop) (exec : α → ω → α) (lawful : α → ω → Prop)
    (ops : σ → ε → List ω) (abs : σ → α) : Prop where
  preserved : ∀ s e, inv s → inv (step s e)
  simulated : ∀ s e, inv s → abs (step s e) = run exec (abs s) (ops s e)
  lawful : ∀ s e, inv s → Along exec lawful (abs s) (ops s e)

namespace Refines

variable {step : σ → ε → σ} {inv : σ → Prop} {exec : α → ω → α} {lawful : α → ω → Prop}
  {ops : σ → ε → List ω} {abs : σ → α}

theorem inv_run (refines : Refines step inv exec lawful ops abs) {s : σ} (start : inv s)
    (events : List ε) : inv (run step s events) :=
  run_invariant (fun s e within _ => refines.preserved s e within) start (along_true s events)

/-- **A refinement is a refinement of runs.** -/
theorem run_trace (refines : Refines step inv exec lawful ops abs) {s : σ} (start : inv s)
    (events : List ε) :
    abs (run step s events) = run exec (abs s) (trace step ops s events) ∧
      Along exec lawful (abs s) (trace step ops s events) := by
  induction events generalizing s with
  | nil => exact ⟨rfl, trivial⟩
  | cons e events ih =>
      obtain ⟨reached, later⟩ := ih (refines.preserved s e start)
      rw [trace, run_append, along_append, ← refines.simulated s e start]
      exact ⟨reached, refines.lawful s e start, later⟩

/-- **Invariants of the other machine**, where every event's list of steps is
guarded as a whole. -/
theorem invariant (refines : Refines step inv exec lawful ops abs) (law : α → Prop)
    {guard : α → List ω → Prop}
    (preserved : ∀ a os, law a → guard a os → Along exec lawful a os → law (run exec a os)) {s : σ}
    (start : inv s) (lawStart : law (abs s)) {events : List ε}
    (along : Along step (fun s e => guard (abs s) (ops s e)) s events) :
    law (abs (run step s events)) := by
  have both : ∀ s e, inv s ∧ law (abs s) → guard (abs s) (ops s e) →
      inv (step s e) ∧ law (abs (step s e)) := by
    rintro s e ⟨within, lawful⟩ guarded
    refine ⟨refines.preserved s e within, ?_⟩
    rw [refines.simulated s e within]
    exact preserved _ _ lawful guarded (refines.lawful s e within)
  exact (run_invariant both ⟨start, lawStart⟩ along).2

/-- What lawful steps make of a guard is so all along. -/
theorem along (refines : Refines step inv exec lawful ops abs) {guard guard' : σ → ε → Prop}
    (entails : ∀ s e, inv s → Along exec lawful (abs s) (ops s e) → guard s e → guard' s e) {s : σ}
    (start : inv s) {events : List ε} (along : Along step guard s events) :
    Along step guard' s events := by
  have within := along_strengthen (fun s e within _ => refines.preserved s e within) start along
  exact along_mono (fun s e both => entails s e both.2 (refines.lawful s e both.2) both.1) within

end Refines

end Refinement

end GameServer.Theory.Runs
