/-
# Dbmw.RequestIds -- the ids of requests: unique, and the session in front

An id ends in the sequence number it drew, behind a separator, whichever of the two
forms it has.  Ids with a session start with its number, the others with a letter.

* `sequence_makeReqId` -- the number an id drew is read off its end;
* `drawn_sequences` -- a run draws one number after the other;
* `request_ids` -- no two ids of a router are the same, and the session is read back.
-/
import GameServer.Dbmw.Router
import GameServer.Theory.Decimal

namespace GameServer.Dbmw

set_option autoImplicit false

open Wire Theory

universe u

variable {κ : Type u}

/-- `std::stoi` of digits, which throws `out_of_range` past the largest `int`. -/
def stoi (digits : List Char) : Option Int :=
  if Decimal.value digits ≤ 2 ^ 31 - 1 then some (Decimal.value digits) else none

/-- `extract_session_id_from_req`. -/
def extractSessionIdFromReq (reqId : String) : Int :=
  let digits := reqId.toList.takeWhile fun c => '0' ≤ c ∧ c ≤ '9'
  if digits.isEmpty then -1 else (stoi digits).getD (-1)

/-- The number at the end of an id. -/
def sequence (reqId : String) : Nat := Decimal.value (Decimal.trailing reqId.toList)

/-! ## One id -/

theorem scan_eq (text : List Char) :
    (text.takeWhile fun c => '0' ≤ c ∧ c ≤ '9') = Decimal.leading text := by
  have same : (fun c : Char => decide ('0' ≤ c ∧ c ≤ '9')) = Char.isDigit := by
    funext c
    simp [Char.isDigit, Char.le_def]
  rw [Decimal.leading, ← same]

/-- An id is a front without end, a separator and the number it drew. -/
theorem makeReqId_toList (ctx : StrandRun) (sessionId : Int) (r : DBmwRouter κ) :
    ∃ front separator, separator.isDigit = false ∧
      (r.makeReqId ctx sessionId).1.toList =
        front ++ separator :: Nat.toDigits 10 ((r.reqSeq + 1) % 2 ^ 64) := by
  simp only [DBmwRouter.makeReqId]
  split
  · refine ⟨(toString sessionId).toList, '_', by decide, ?_⟩
    simp [Nat.toString_eq_repr, Nat.toList_repr]
  · refine ⟨("srv-" ++ toString ctx.pid).toList, '-', by decide, ?_⟩
    simp [Nat.toString_eq_repr, Nat.toList_repr]

/-- **An id ends in the number it drew.** -/
theorem sequence_makeReqId (ctx : StrandRun) (sessionId : Int) (r : DBmwRouter κ) :
    sequence (r.makeReqId ctx sessionId).1 = (r.reqSeq + 1) % 2 ^ 64 := by
  obtain ⟨front, separator, apart, printed⟩ := makeReqId_toList ctx sessionId r
  rw [sequence, printed, Decimal.trailing_printed apart, Decimal.value_printed]

/-- **The session is read back** from its ids. -/
theorem extract_makeReqId (ctx : StrandRun) {sessionId : Int} (named : 0 ≤ sessionId)
    (fits : sessionId ≤ 2 ^ 31 - 1) (r : DBmwRouter κ) :
    extractSessionIdFromReq (r.makeReqId ctx sessionId).1 = sessionId := by
  obtain ⟨n, rfl⟩ := Int.eq_ofNat_of_zero_le named
  have printed : (r.makeReqId ctx n).1.toList =
      Nat.toDigits 10 n ++ '_' :: Nat.toDigits 10 ((r.reqSeq + 1) % 2 ^ 64) := by
    have natural : toString (n : Int) = toString n := rfl
    simp [DBmwRouter.makeReqId, natural, Nat.toString_eq_repr, Nat.toList_repr]
  rw [extractSessionIdFromReq, scan_eq, printed, Decimal.leading_printed (by decide)]
  have some_digit : (Nat.toDigits 10 n).isEmpty = false := by simp
  have small : n ≤ 2 ^ 31 - 1 := by omega
  rw [some_digit, if_neg Bool.false_ne_true, stoi, Decimal.value_printed, if_pos small]
  rfl

/-- **No session is read** from the others. -/
theorem extract_unnamed (ctx : StrandRun) {sessionId : Int} (unnamed : sessionId < 0)
    (r : DBmwRouter κ) : extractSessionIdFromReq (r.makeReqId ctx sessionId).1 = -1 := by
  have printed : (r.makeReqId ctx sessionId).1 =
      "srv-" ++ toString ctx.pid ++ "-" ++ toString ((r.reqSeq + 1) % 2 ^ 64) :=
    if_neg (Int.not_le.mpr unnamed)
  rw [extractSessionIdFromReq, printed]
  simp

/-! ## The ids of a run -/

/-- The session whose request an event makes an id for. -/
def RouterEvent.draws : RouterEvent κ → Option Int
  | .sendRequest _ _ _ _ _ sessionId => some sessionId
  | .sendRequestCb _ _ _ _ _ sessionId _ _ => some sessionId
  | _ => none

/-- The ids `make_req_id` gives out in a run. -/
def drawn (r : DBmwRouter κ) : List (StrandRun × RouterEvent κ) → List String
  | [] => []
  | e :: events =>
      (e.2.draws.map fun sessionId => (r.makeReqId e.1 sessionId).1).toList ++
        drawn (routerStep e.1 r e.2).1 events

namespace DBmwRouter

theorem sendNowLocked_reqSeq (ctx : StrandRun) (reqId : String) (r : DBmwRouter κ) :
    (r.sendNowLocked ctx reqId).1.reqSeq = r.reqSeq := by
  obtain ⟨sent, resends, effects, whole, -⟩ := r.sendNowLocked_eq ctx reqId
  rw [whole]

theorem enter_reqSeq (ctx : StrandRun) (reqId : String) (p : Pending κ) (r : DBmwRouter κ) :
    (r.enter ctx reqId p).1.reqSeq = r.reqSeq := by
  simp only [enter, emplace, sendNowLocked_reqSeq]
  split <;> rfl

theorem fulfillAndEraseLocked_reqSeq (reqId : String) (result : Json) (success : Bool)
    (r : DBmwRouter κ) : (r.fulfillAndEraseLocked reqId result success).1.reqSeq = r.reqSeq := by
  rw [fulfillAndEraseLocked]
  split <;> rfl

theorem handle_reqSeq (j : Json) (r : DBmwRouter κ) : (r.handle j).1.reqSeq = r.reqSeq := by
  rcases r.handle_cases j with ⟨type, reqId, -, given⟩ | ⟨type, -, given⟩ | ⟨e, given⟩
  · rw [given, answer_router, fulfillAndEraseLocked_reqSeq]
  · rw [given]
    rfl
  · rw [given]

theorem expire_reqSeq (ctx : StrandRun) (reqId : String) (r : DBmwRouter κ) :
    (r.expire ctx reqId).1.reqSeq = r.reqSeq := by
  simp only [expire]
  split
  · rfl
  · split
    · rw [sendNowLocked_reqSeq]
    · rw [fulfillAndEraseLocked_reqSeq]

theorem resend_reqSeq (ctx : StrandRun) (reqId : String) (cancelled : Bool) (r : DBmwRouter κ) :
    (r.resend ctx reqId cancelled).1.reqSeq = r.reqSeq := by
  simp only [resend]
  split
  · split
    · rfl
    · rw [sendNowLocked_reqSeq]
  · rfl

theorem sendRequest_reqSeq (ctx : StrandRun) (api : String) (payload : Json) (secure : Bool)
    (timeoutMs maxRetries sessionId : Int) (r : DBmwRouter κ) :
    (r.sendRequest ctx api payload secure timeoutMs maxRetries sessionId).1.reqSeq =
      (r.reqSeq + 1) % 2 ^ 64 := by
  simp only [sendRequest]
  split
  · rfl
  · rw [enter_reqSeq]
    rfl

theorem sendRequestCb_reqSeq (ctx : StrandRun) (api : String) (payload : Json) (secure : Bool)
    (timeoutMs maxRetries sessionId : Int) (onOk onError : Option κ) (r : DBmwRouter κ) :
    (r.sendRequestCb ctx api payload secure timeoutMs maxRetries sessionId onOk onError).1.reqSeq =
      (r.reqSeq + 1) % 2 ^ 64 := by
  simp only [sendRequestCb]
  split
  · rfl
  · split
    · rw [enter_reqSeq]
      rfl
    · rfl

end DBmwRouter

/-- **A step that makes a request draws the next number**, and no other draws one. -/
theorem routerStep_reqSeq (ctx : StrandRun) (r : DBmwRouter κ) (e : RouterEvent κ) :
    (routerStep ctx r e).1.reqSeq =
      if e.draws.isSome then (r.reqSeq + 1) % 2 ^ 64 else r.reqSeq := by
  cases e with
  | sendRequest api payload secure timeoutMs maxRetries sessionId =>
      exact DBmwRouter.sendRequest_reqSeq ..
  | sendRequestCb api payload secure timeoutMs maxRetries sessionId onOk onError =>
      exact DBmwRouter.sendRequestCb_reqSeq ..
  | response j => exact DBmwRouter.handle_reqSeq j r
  | expire reqId => exact DBmwRouter.expire_reqSeq ctx reqId r
  | resend reqId cancelled => exact DBmwRouter.resend_reqSeq ctx reqId cancelled r
  | setSenders sendJsonFn sendSecureJsonFn => rfl

/-- **A run draws one number after the other.** -/
theorem drawn_sequences (r : DBmwRouter κ) (events : List (StrandRun × RouterEvent κ)) :
    (drawn r events).map sequence =
      (List.range (drawn r events).length).map fun i => (r.reqSeq + 1 + i) % 2 ^ 64 := by
  induction events generalizing r with
  | nil => rfl
  | cons e events ih =>
      have next := routerStep_reqSeq e.1 r e.2
      cases draws : e.2.draws with
      | none =>
          have same : drawn r (e :: events) = drawn (routerStep e.1 r e.2).1 events := by
            simp [drawn, draws]
          rw [draws] at next
          rw [same, ih, next]
          rfl
      | some sessionId =>
          have first : drawn r (e :: events) =
              (r.makeReqId e.1 sessionId).1 :: drawn (routerStep e.1 r e.2).1 events := by
            simp [drawn, draws]
          rw [draws, Option.isSome_some, if_pos rfl] at next
          rw [first, List.map_cons, sequence_makeReqId, ih, next, List.length_cons,
            List.range_succ_eq_map, List.map_cons, List.map_map]
          congr 1
          apply List.map_congr_left
          intro i _
          simp only [Function.comp]
          omega

/-- Fewer numbers than there are differ. -/
theorem drawn_nodup (r : DBmwRouter κ) {events : List (StrandRun × RouterEvent κ)}
    (few : (drawn r events).length ≤ 2 ^ 64) : (drawn r events).Nodup := by
  apply List.Nodup.of_map sequence
  rw [drawn_sequences]
  apply List.Nodup.map_on _ List.nodup_range
  intro i i_lt j j_lt same
  rw [List.mem_range] at i_lt j_lt
  omega

/-- **Request ids are unique and carry their session**: in every run of a router in which
the number has not come round, no two ids are the same; a session of `int`'s range is
read back from its ids, and the ids of negative ones give none. -/
theorem request_ids (r : DBmwRouter κ) (events : List (StrandRun × RouterEvent κ))
    (few : (drawn r events).length ≤ 2 ^ 64) :
    (drawn r events).Nodup ∧
      ∀ (ctx : StrandRun) (r : DBmwRouter κ) (sessionId : Int),
        (0 ≤ sessionId → sessionId ≤ 2 ^ 31 - 1 →
          extractSessionIdFromReq (r.makeReqId ctx sessionId).1 = sessionId) ∧
        (sessionId < 0 → extractSessionIdFromReq (r.makeReqId ctx sessionId).1 = -1) := by
  refine ⟨drawn_nodup r few, ?_⟩
  intro ctx r sessionId
  exact ⟨fun named fits => extract_makeReqId ctx named fits r,
    fun unnamed => extract_unnamed ctx unnamed r⟩

/-- A request for a session, and one for none. -/
theorem request_ids_two :
    (drawn ({} : DBmwRouter Unit)
      [({ pid := 4 }, .sendRequest "a" .null false 0 0 7),
        ({ pid := 4 }, .sendRequest "a" .null false 0 0 (-1))]).Nodup :=
  (request_ids _ _ (by decide)).1

end GameServer.Dbmw
