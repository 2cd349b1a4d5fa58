/-
# Theory.Observation -- two runs compared by what can be observed of them

A machine answers each input.  Two of its states are as good as each other when
they answer every list of inputs alike.

* `answers_eq` -- a relation that agrees on every answer and that every input
  preserves makes two states answer alike for ever;
* `answer_eq_of_answers_eq` -- and a list that ends in different answers tells
  them apart;
* `answers_simulated` -- a machine that another one simulates answers as that one does;
* `alike_purged` -- a run and the same run without some of its inputs stay alike,
  when a removed input does not leave what its state is alike to and a kept one
  takes alike states to alike states.
-/
import GameServer.Theory.Runs

namespace GameServer.Theory.Observation

set_option autoImplicit false

open Runs

universe u v w x

variable {σ : Type u} {ε : Type v} {ω : Type w}

/-! ## Answers -/

section Answers

variable (step : σ → ε → σ) (answer : σ → ε → ω)

/-- What the machine answers to the inputs, one after the other. -/
def answers : σ → List ε → List ω
  | _, [] => []
  | s, e :: inputs => answer s e :: answers (step s e) inputs

theorem answers_append (s : σ) (front back : List ε) :
    answers step answer s (front ++ back) =
      answers step answer s front ++ answers step answer (run step s front) back := by
  induction front generalizing s with
  | nil => rfl
  | cons e front ih => simp [answers, ih]

variable {step answer}

/-- States that answer a list alike answer its last input alike. -/
theorem answer_eq_of_answers_eq {s t : σ} {front : List ε} {last : ε}
    (same : answers step answer s (front ++ [last]) = answers step answer t (front ++ [last])) :
    answer (run step s front) last = answer (run step t front) last := by
  rw [answers_append, answers_append] at same
  have tails := List.append_inj_right' same (by simp [answers])
  simpa [answers] using tails

/-- **Bisimulation.**  A relation under which answers agree, and which every input
preserves, relates only states that answer every list of inputs alike. -/
theorem answers_eq {Alike : σ → σ → Prop}
    (agree : ∀ s t e, Alike s t → answer s e = answer t e)
    (preserved : ∀ s t e, Alike s t → Alike (step s e) (step t e))
    {s t : σ} (alike : Alike s t) (inputs : List ε) :
    answers step answer s inputs = answers step answer t inputs := by
  induction inputs generalizing s t with
  | nil => rfl
  | cons e inputs ih =>
      rw [answers, answers, agree s t e alike, ih (preserved s t e alike)]

/-- **Simulation.**  A relation to the states of another machine, under which answers
agree and which every passing input preserves, makes the two answer alike. -/
theorem answers_simulated {τ : Type x} {step' : τ → ε → τ} {answer' : τ → ε → ω}
    {guard : σ → ε → Prop} {Simulates : σ → τ → Prop}
    (agree : ∀ s t e, Simulates s t → answer s e = answer' t e)
    (preserved : ∀ s t e, Simulates s t → guard s e → Simulates (step s e) (step' t e))
    {s : σ} {t : τ} (start : Simulates s t) {inputs : List ε}
    (along : Along step guard s inputs) :
    answers step answer s inputs = answers step' answer' t inputs ∧
      Simulates (run step s inputs) (run step' t inputs) := by
  induction inputs generalizing s t with
  | nil => exact ⟨rfl, start⟩
  | cons e inputs ih =>
      obtain ⟨same, reached⟩ := ih (preserved s t e start along.1) along.2
      exact ⟨by rw [answers, answers, agree s t e start, same], reached⟩

end Answers

/-! ## Inputs taken out -/

section Purged

/-- The inputs of a marked list that stay. -/
def purge (marked : List (ε × Bool)) : List ε := (marked.filter fun m => !m.2).map (·.1)

@[simp] theorem purge_removed (e : ε) (marked : List (ε × Bool)) :
    purge ((e, true) :: marked) = purge marked := rfl

@[simp] theorem purge_kept (e : ε) (marked : List (ε × Bool)) :
    purge ((e, false) :: marked) = e :: purge marked := rfl

variable (step : σ → ε → σ) (removed : σ → ε → Prop) (kept : σ → σ → ε → Prop)

/-- The run of the whole list from `s` beside the run of what stays from `t`: each
marked input passes `removed` in the state it meets, each other one `kept` in the
states it meets. -/
def Beside : σ → σ → List (ε × Bool) → Prop
  | _, _, [] => True
  | s, t, (e, true) :: marked => removed s e ∧ Beside (step s e) t marked
  | s, t, (e, false) :: marked => kept s t e ∧ Beside (step s e) (step t e) marked

instance decidableBeside [∀ s e, Decidable (removed s e)] [∀ s t e, Decidable (kept s t e)] :
    ∀ s t marked, Decidable (Beside step removed kept s t marked)
  | _, _, [] => isTrue trivial
  | s, t, (e, true) :: marked =>
      have := decidableBeside (step s e) t marked
      inferInstanceAs (Decidable (removed s e ∧ Beside step removed kept (step s e) t marked))
  | s, t, (e, false) :: marked =>
      have := decidableBeside (step s e) (step t e) marked
      inferInstanceAs
        (Decidable (kept s t e ∧ Beside step removed kept (step s e) (step t e) marked))

variable {step removed kept}

/-- **Unwinding.**  Runs with and without the marked inputs stay alike when a removed
input does not leave what its state is alike to, and a kept one keeps states alike. -/
theorem alike_purged {Alike : σ → σ → Prop}
    (silent : ∀ s t e, Alike s t → removed s e → Alike (step s e) t)
    (preserved : ∀ s t e, Alike s t → kept s t e → Alike (step s e) (step t e))
    {s t : σ} (alike : Alike s t) {marked : List (ε × Bool)}
    (beside : Beside step removed kept s t marked) :
    Alike (run step s (marked.map Prod.fst)) (run step t (purge marked)) := by
  induction marked generalizing s t with
  | nil => exact alike
  | cons m marked ih =>
      rcases m with ⟨e, out⟩
      cases out with
      | true =>
          rw [List.map_cons, run_cons, purge_removed]
          exact ih (silent s t e alike beside.1) beside.2
      | false =>
          rw [List.map_cons, run_cons, purge_kept, run_cons]
          exact ih (preserved s t e alike beside.1) beside.2

end Purged

end GameServer.Theory.Observation
