/-
# Dbmw.Carried -- the callbacks a step holds on to or calls

A step of the table invents no callback: what it calls, and what its entries hold
afterwards, was held before or came with the request.

* `handle_within`, `expire_within`, `resend_within`, `sendRequestCb_within` -- a
  property of all callbacks stays one;
* `expire_silent`, `sendRequestCb_silent`, `handle_calls` -- only a response calls,
  and `on_ok` only one of type `db_query_result`.
-/
import GameServer.Dbmw.Router

namespace GameServer.Dbmw

set_option autoImplicit false

open Wire

universe u

variable {κ : Type u}

/-- A callback some entry of the request table holds. -/
def Carries (r : DBmwRouter κ) (callback : κ) : Prop :=
  ∃ reqId p, r.pending.lookup reqId = some p ∧ (p.onOk = some callback ∨ p.onError = some callback)

/-- The callback an effect invokes. -/
def Effect.callee : Effect κ → Option κ
  | .call _ _ callback _ => some callback
  | .refused callback _ => some callback
  | _ => none

def Effect.isCall : Effect κ → Bool
  | .call _ _ _ _ => true
  | _ => false

/-- Every callback held or called has the property. -/
def Within (P : κ → Prop) (out : DBmwRouter κ × List (Effect κ)) : Prop :=
  (∀ callback, Carries out.1 callback → P callback) ∧
    ∀ effect ∈ out.2, ∀ callback, effect.callee = some callback → P callback

namespace DBmwRouter

variable {P : κ → Prop}

theorem carries_of_pending_eq {r r' : DBmwRouter κ} (same : r'.pending = r.pending) {callback : κ}
    (carries : Carries r' callback) : Carries r callback := by
  obtain ⟨reqId, p, found, holds⟩ := carries
  exact ⟨reqId, p, same ▸ found, holds⟩

theorem sendNowLocked_within (ctx : StrandRun) (reqId : String) {r : DBmwRouter κ}
    (held : ∀ callback, Carries r callback → P callback) : Within P (r.sendNowLocked ctx reqId) := by
  obtain ⟨sent, resends, effects, done, sends⟩ := r.sendNowLocked_eq ctx reqId
  rw [done]
  refine ⟨fun callback carries => held callback (carries_of_pending_eq rfl carries), ?_⟩
  intro effect member callback called
  obtain ⟨secure, request, rfl⟩ := sends effect member
  cases called

theorem carries_of_erase {r r' : DBmwRouter κ} {reqId : String}
    (erased : r'.pending = r.pending.erase reqId) {callback : κ} (carries : Carries r' callback) :
    Carries r callback := by
  obtain ⟨id, p, found, holds⟩ := carries
  rw [erased] at found
  by_cases here : id = reqId
  · subst here
    simp at found
  · exact ⟨id, p, (AList.lookup_erase_ne here).symm.trans found, holds⟩

theorem carries_of_insert {r r' : DBmwRouter κ} {reqId : String} {p : Pending κ}
    (inserted : r'.pending = r.pending.insert reqId p) {callback : κ}
    (carries : Carries r' callback) :
    Carries r callback ∨ p.onOk = some callback ∨ p.onError = some callback := by
  obtain ⟨id, q, found, holds⟩ := carries
  rw [inserted] at found
  by_cases here : id = reqId
  · subst here
    rw [AList.lookup_insert] at found
    cases found
    exact .inr holds
  · exact .inl ⟨id, q, (AList.lookup_insert_ne here).symm.trans found, holds⟩

theorem fulfillAndEraseLocked_within (reqId : String) (result : Json) (success : Bool)
    {r : DBmwRouter κ} (held : ∀ callback, Carries r callback → P callback) :
    Within P (r.fulfillAndEraseLocked reqId result success) := by
  unfold fulfillAndEraseLocked
  split
  · exact ⟨held, by simp⟩
  · exact ⟨fun callback carries => held callback (carries_of_erase rfl carries),
      by simp [Effect.callee]⟩

theorem answer_within (reqId : String) (j : Json) (type : String) {r : DBmwRouter κ}
    (held : ∀ callback, Carries r callback → P callback) : Within P (r.answer reqId j type) := by
  unfold answer
  cases found : r.pending.lookup reqId with
  | none => exact ⟨held, by simp⟩
  | some p =>
      obtain ⟨held', quiet⟩ := fulfillAndEraseLocked_within reqId j (type == okType) held
      dsimp only
      split
      · refine ⟨held', fun effect member callback called => ?_⟩
        rcases List.mem_append.mp member with old | new
        · exact quiet effect old callback called
        · -- the entry's own callback, found in the table before the erasure
          split at new
          · cases given : p.onOk with
            | none => simp [given] at new
            | some onOk =>
                simp only [given, Option.map_some, Option.toList_some, List.mem_singleton] at new
                subst new
                cases called
                exact held _ ⟨reqId, p, found, .inl given⟩
          · cases given : p.onError with
            | none => simp [given] at new
            | some onError =>
                simp only [given, Option.map_some, Option.toList_some, List.mem_singleton] at new
                subst new
                cases called
                exact held _ ⟨reqId, p, found, .inr given⟩
      · exact ⟨held', quiet⟩

theorem passOn_within (type : String) (j : Json) {r : DBmwRouter κ}
    (held : ∀ callback, Carries r callback → P callback) : Within P (r.passOn type j) := by
  refine ⟨held, ?_⟩
  unfold passOn
  dsimp only
  split <;> simp [Effect.callee]

theorem handle_within (j : Json) {r : DBmwRouter κ}
    (held : ∀ callback, Carries r callback → P callback) : Within P (r.handle j) := by
  rcases r.handle_cases j with ⟨type, reqId, -, given⟩ | ⟨type, -, given⟩ | ⟨e, given⟩
  · rw [given]
    exact answer_within _ j _ held
  · rw [given]
    exact passOn_within _ j held
  · rw [given]
    exact ⟨held, by simp [Effect.callee]⟩

theorem expire_within (ctx : StrandRun) (reqId : String) {r : DBmwRouter κ}
    (held : ∀ callback, Carries r callback → P callback) : Within P (r.expire ctx reqId) := by
  unfold expire
  cases found : r.pending.lookup reqId with
  | none => exact ⟨held, by simp⟩
  | some p =>
      dsimp only
      split
      · refine sendNowLocked_within ctx reqId fun callback carries => ?_
        rcases carries_of_insert rfl carries with old | entry
        · exact held callback old
        · exact held callback ⟨reqId, p, found, entry⟩
      · exact fulfillAndEraseLocked_within _ _ _ fun callback carries =>
          held callback (carries_of_pending_eq rfl carries)

theorem resend_within (ctx : StrandRun) (reqId : String) (cancelled : Bool) {r : DBmwRouter κ}
    (held : ∀ callback, Carries r callback → P callback) : Within P (r.resend ctx reqId cancelled) := by
  unfold resend
  split
  · dsimp only
    split
    · exact ⟨fun callback carries => held callback (carries_of_pending_eq rfl carries), by simp⟩
    · exact sendNowLocked_within ctx reqId fun callback carries =>
        held callback (carries_of_pending_eq rfl carries)
  · exact ⟨held, by simp⟩

theorem enter_within (ctx : StrandRun) (reqId : String) (p : Pending κ) {r : DBmwRouter κ}
    (held : ∀ callback, Carries r callback → P callback)
    (given : ∀ callback, p.onOk = some callback ∨ p.onError = some callback → P callback) :
    Within P (r.enter ctx reqId p) := by
  unfold enter emplace
  cases found : r.pending.lookup reqId with
  | some old =>
      exact sendNowLocked_within ctx reqId fun callback carries =>
        held callback (carries_of_pending_eq rfl carries)
  | none =>
      obtain ⟨held', sent⟩ := sendNowLocked_within ctx reqId (P := P)
        (r := { r with
          serials := r.serials + 1
          pending := r.pending.insert reqId { p with serial := r.serials } })
        fun callback carries =>
          (carries_of_insert (p := { p with serial := r.serials }) rfl carries).elim
            (held callback) (given callback)
      refine ⟨held', fun effect member callback called => ?_⟩
      rcases List.mem_append.mp member with entered | other
      · simp only [List.mem_singleton] at entered
        subst entered
        simp [Effect.callee] at called
      · exact sent effect other callback called

theorem sendRequestCb_within (ctx : StrandRun) (api : String) (payload : Json) (secure : Bool)
    (timeoutMs maxRetries sessionId : Int) {onOk onError : Option κ} {r : DBmwRouter κ}
    (held : ∀ callback, Carries r callback → P callback)
    (given : ∀ callback, onOk = some callback ∨ onError = some callback → P callback) :
    Within P (r.sendRequestCb ctx api payload secure timeoutMs maxRetries sessionId onOk onError) := by
  have numbered : ∀ callback, Carries (r.makeReqId ctx sessionId).2 callback → P callback :=
    fun callback carries => held callback (carries_of_pending_eq rfl carries)
  unfold sendRequestCb
  dsimp only
  split
  · exact ⟨numbered, by simp [Effect.callee]⟩
  · split
    · exact enter_within ctx _ _ numbered given
    · refine ⟨numbered, fun effect member callback called => ?_⟩
      cases onError with
      | none => simp at member
      | some refuse =>
          simp only [Option.map_some, Option.toList_some, List.mem_singleton] at member
          subst member
          cases called
          exact given _ (.inr rfl)

/-! ## Who calls -/

theorem sendNowLocked_silent (ctx : StrandRun) (reqId : String) (r : DBmwRouter κ) :
    ∀ effect ∈ (r.sendNowLocked ctx reqId).2, effect.isCall = false := by
  obtain ⟨sent, resends, effects, done, sends⟩ := r.sendNowLocked_eq ctx reqId
  rw [done]
  intro effect member
  obtain ⟨secure, request, rfl⟩ := sends effect member
  rfl

theorem fulfillAndEraseLocked_silent (reqId : String) (result : Json) (success : Bool)
    (r : DBmwRouter κ) :
    ∀ effect ∈ (r.fulfillAndEraseLocked reqId result success).2, effect.isCall = false := by
  unfold fulfillAndEraseLocked
  split <;> simp [Effect.isCall]

theorem expire_silent (ctx : StrandRun) (reqId : String) (r : DBmwRouter κ) :
    ∀ effect ∈ (r.expire ctx reqId).2, effect.isCall = false := by
  unfold expire
  split
  · simp
  · dsimp only
    split
    · exact sendNowLocked_silent ctx reqId _
    · exact fulfillAndEraseLocked_silent reqId _ _ _

theorem sendRequestCb_silent (ctx : StrandRun) (api : String) (payload : Json) (secure : Bool)
    (timeoutMs maxRetries sessionId : Int) (onOk onError : Option κ) (r : DBmwRouter κ) :
    ∀ effect ∈
      (r.sendRequestCb ctx api payload secure timeoutMs maxRetries sessionId onOk onError).2,
      effect.isCall = false := by
  intro effect member
  unfold sendRequestCb at member
  dsimp only at member
  split at member
  · rw [List.mem_singleton.mp member]
    rfl
  · split at member
    · unfold enter emplace at member
      dsimp only at member
      split at member <;> rcases List.mem_append.mp member with entered | sent
      · cases entered
      · exact sendNowLocked_silent _ _ _ effect sent
      · rw [List.mem_singleton.mp entered]
        rfl
      · exact sendNowLocked_silent _ _ _ effect sent
    · cases onError with
      | none => cases member
      | some refuse =>
          rw [List.mem_singleton.mp member]
          rfl

theorem handle_calls (j : Json) (r : DBmwRouter κ) {serial : Nat} {callback : κ} {response : Json}
    (called : .call serial .onOk callback response ∈ (r.handle j).2) :
    response = j ∧ j.valueStr "type" "" = .ok okType := by
  rcases r.handle_cases j with
    ⟨type, reqId, ⟨typed, -⟩, given⟩ | ⟨type, -, given⟩ | ⟨e, given⟩ <;> rw [given] at called
  · unfold answer at called
    split at called
    · cases called
    · rename_i p _
      dsimp only at called
      split at called
      · rcases List.mem_append.mp called with fulfilled | told
        · cases fulfillAndEraseLocked_silent _ _ _ _ _ fulfilled
        · split at told
          · rename_i ok
            refine ⟨?_, by rw [typed, beq_iff_eq.mp ok]⟩
            cases given : p.onOk with
            | none => simp [given] at told
            | some onOk =>
                simp only [given, Option.map_some, Option.toList_some, List.mem_singleton] at told
                cases told
                rfl
          · cases given : p.onError with
            | none => simp [given] at told
            | some onError => simp [given] at told
      · cases fulfillAndEraseLocked_silent _ _ _ _ _ called
  · unfold passOn at called
    dsimp only at called
    split at called
    · cases List.mem_singleton.mp called
    · cases called
  · cases List.mem_singleton.mp called

end DBmwRouter

end GameServer.Dbmw
