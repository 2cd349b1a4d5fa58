/-
# Dbmw.Echo -- a response that carries the request's id

The key of an entry is the id `make_req_id` drew.  The message that goes out has it as
`"req_id"` too, unless the payload has a member of that name: the payload's members go
over the request's own.

* `lookup_merged` -- what the merged message has under a key;
* `routerStep_grown` -- no step gives an entry another message or another number;
* `completes_iff` -- a response completes a request if it names its key;
* `echo_finds_iff` -- so a response that echoes the message's `"req_id"` finds its request
  just when the id was free and the payload leaves it alone.
-/
import GameServer.Dbmw.Accounting
import GameServer.Dbmw.Callbacks

namespace GameServer.Dbmw

set_option autoImplicit false

open Wire Theory.Runs

universe u

variable {κ : Type u}

/-! ## What is asked of a response -/

/-- The member of an object, if the value is one and has it. -/
def member (j : Json) (key : String) : Option Json :=
  match j with
  | .obj fields => Json.lookup fields key
  | _ => none

/-- A query result with the `"req_id"` of the request. -/
def Echoes (request j : Json) : Prop :=
  j.valueStr "type" "" = .ok DBmwRouter.okType ∧ member j "req_id" = member request "req_id"

/-- The response takes the request of that number off the table, sets its promise, and
does so to no other. -/
def Completes (r : DBmwRouter κ) (serial : Nat) (j : Json) : Prop :=
  ∃ reqId p, r.pending.lookup reqId = some p ∧ p.serial = serial ∧
    (r.handle j).1.pending = r.pending.erase reqId ∧
    ∀ k result, .fulfil k result ∈ (r.handle j).2 ↔ k = serial ∧ result = j

/-- A request of that number is on the table. -/
def Waits (r : DBmwRouter κ) (serial : Nat) : Prop :=
  ∃ reqId p, r.pending.lookup reqId = some p ∧ p.serial = serial

/-- A response that echoes the message completes the request: at once, and after whatever
else has happened while the request waits. -/
def EchoFinds (r : DBmwRouter κ) (serial : Nat) (request : Json) : Prop :=
  ∀ later : List (StrandRun × RouterEvent κ),
    later = [] ∨ Waits (run History.step { router := r } later).router serial →
      ∀ j, Echoes request j → Completes (run History.step { router := r } later).router serial j

/-- The event is a call of `send_request` or `send_request_cb` with this payload. -/
inductive Requests : RouterEvent κ → String → List (String × Json) → Int → Prop where
  | future {api : String} {payload : List (String × Json)} {secure : Bool}
      {timeoutMs maxRetries sessionId : Int} :
      Requests (.sendRequest api (.obj payload) secure timeoutMs maxRetries sessionId)
        api payload sessionId
  | callback {api : String} {payload : List (String × Json)} {secure : Bool}
      {timeoutMs maxRetries sessionId : Int} {onOk onError : Option κ} :
      Requests
        (.sendRequestCb api (.obj payload) secure timeoutMs maxRetries sessionId onOk onError)
        api payload sessionId

/-- The last value the members give a key. -/
def lastOf (fields : List (String × Json)) (key : String) : Option Json :=
  Json.lookup fields.reverse key

/-! ## The merged message -/

theorem lookup_cons (field : String × Json) (fields : List (String × Json)) (key : String) :
    Json.lookup (field :: fields) key =
      if field.1 = key then some field.2 else Json.lookup fields key := by
  by_cases here : field.1 = key <;> simp [Json.lookup, here]

theorem lookup_append (front back : List (String × Json)) (key : String) :
    Json.lookup (front ++ back) key = (Json.lookup front key).or (Json.lookup back key) := by
  induction front with
  | nil => rfl
  | cons field front ih =>
      rw [List.cons_append, lookup_cons, lookup_cons, ih]
      split <;> rfl

theorem lookup_replaced (fields : List (String × Json)) (key : String) (value : Json)
    (other : String) :
    Json.lookup (fields.map fun field => if field.1 = key then (key, value) else field) other =
      if key = other then (Json.lookup fields key).map fun _ => value
      else Json.lookup fields other := by
  induction fields with
  | nil => simp [Json.lookup]
  | cons field fields ih =>
      rw [List.map_cons, lookup_cons, lookup_cons, lookup_cons, ih]
      by_cases here : field.1 = key
      · simp only [if_pos here]
        by_cases same : key = other
        · simp [same]
        · simp [same, show field.1 ≠ other from here ▸ same]
      · simp only [if_neg here]
        by_cases same : key = other
        · simp [same, show field.1 ≠ other from same ▸ here]
        · simp [same]

theorem lookup_assign (fields : List (String × Json)) (key : String) (value : Json)
    (other : String) :
    Json.lookup (Json.assign fields key value) other =
      if key = other then some value else Json.lookup fields other := by
  rw [Json.assign]
  cases had : Json.lookup fields key with
  | some old => simp [lookup_replaced, had]
  | none =>
      by_cases same : key = other
      · subst same
        simp [lookup_append, had, lookup_cons]
      · simp [same, Json.lookup]

/-- What a merge leaves under a key: the payload's last value, else the request's own. -/
theorem lookup_merged (payload req : List (String × Json)) (key : String) :
    Json.lookup (payload.foldl (fun req field => Json.assign req field.1 field.2) req) key =
      (lastOf payload key).or (Json.lookup req key) := by
  induction payload generalizing req with
  | nil => rfl
  | cons field payload ih =>
      rw [List.foldl_cons, ih, lookup_assign, lastOf, lastOf, List.reverse_cons, lookup_append,
        Option.or_assoc]
      split <;> simp [Json.lookup, *]

/-! ## Steps and entries -/

/-- Every entry was there, with its number and message, or is the one of the next
number. -/
structure Grown (r r' : DBmwRouter κ) : Prop where
  serials : r.serials ≤ r'.serials
  entries : ∀ reqId p, r'.pending.lookup reqId = some p →
    (∃ q, r.pending.lookup reqId = some q ∧ q.serial = p.serial ∧
      q.requestJson = p.requestJson) ∨ (p.serial = r.serials ∧ r.serials < r'.serials)

theorem Grown.of_eq {r r' : DBmwRouter κ} (pending : r'.pending = r.pending)
    (serials : r.serials ≤ r'.serials) : Grown r r' :=
  ⟨serials, fun _ p found => .inl ⟨p, pending ▸ found, rfl, rfl⟩⟩

theorem Grown.of_erase {r r' : DBmwRouter κ} {reqId : String}
    (pending : r'.pending = r.pending.erase reqId) (serials : r'.serials = r.serials) :
    Grown r r' := by
  refine ⟨Nat.le_of_eq serials.symm, fun id p found => .inl ⟨p, ?_, rfl, rfl⟩⟩
  rw [pending] at found
  by_cases here : id = reqId
  · subst here
    simp at found
  · rwa [AList.lookup_erase_ne here] at found

namespace DBmwRouter

/-- What is sent for an id is its entry's message. -/
theorem sendNowLocked_sends {ctx : StrandRun} {reqId : String} {r : DBmwRouter κ} {secure : Bool}
    {request : Json} (sent : .send secure request ∈ (r.sendNowLocked ctx reqId).2) :
    ∃ p, r.pending.lookup reqId = some p ∧ request = p.requestJson := by
  unfold sendNowLocked at sent
  split at sent
  · cases sent
  · rename_i p found
    refine ⟨p, found, ?_⟩
    split at sent
    · cases sent
    · dsimp only at sent
      split at sent <;> split at sent <;> simp_all

theorem enter_present {ctx : StrandRun} {reqId : String} {p old : Pending κ} {r : DBmwRouter κ}
    (found : r.pending.lookup reqId = some old) :
    (r.enter ctx reqId p).1.pending = r.pending ∧
      (r.enter ctx reqId p).1.serials = r.serials + 1 := by
  obtain ⟨pending, serials, -⟩ := sendNowLocked_quiet ctx reqId { r with serials := r.serials + 1 }
  unfold enter emplace
  simp only [found]
  exact ⟨pending, serials⟩

theorem enter_absent {ctx : StrandRun} {reqId : String} {p : Pending κ} {r : DBmwRouter κ}
    (absent : r.pending.lookup reqId = none) :
    (r.enter ctx reqId p).1.pending = r.pending.insert reqId { p with serial := r.serials } ∧
      (r.enter ctx reqId p).1.serials = r.serials + 1 ∧
      ∀ secure request, .send secure request ∈ (r.enter ctx reqId p).2 →
        request = p.requestJson := by
  obtain ⟨pending, serials, -⟩ := sendNowLocked_quiet ctx reqId
    { r with
      serials := r.serials + 1
      pending := r.pending.insert reqId { p with serial := r.serials } }
  unfold enter emplace
  simp only [absent]
  refine ⟨pending, serials, fun secure request sent => ?_⟩
  rcases List.mem_append.mp sent with entered | sent
  · simp at entered
  · obtain ⟨q, found, rfl⟩ := sendNowLocked_sends sent
    rw [AList.lookup_insert, Option.some.injEq] at found
    rw [← found]

theorem enter_grown (ctx : StrandRun) (reqId : String) (p : Pending κ) (r : DBmwRouter κ) :
    Grown r (r.enter ctx reqId p).1 := by
  cases found : r.pending.lookup reqId with
  | some old =>
      obtain ⟨pending, serials⟩ := @enter_present κ ctx reqId p old r found
      exact .of_eq pending (by omega)
  | none =>
      obtain ⟨pending, serials, -⟩ := @enter_absent κ ctx reqId p r found
      refine ⟨by omega, fun id q there => ?_⟩
      rw [pending] at there
      by_cases here : id = reqId
      · subst here
        rw [AList.lookup_insert, Option.some.injEq] at there
        exact .inr ⟨by rw [← there], by omega⟩
      · rw [AList.lookup_insert_ne here] at there
        exact .inl ⟨q, there, rfl, rfl⟩

theorem handle_grown (j : Json) (r : DBmwRouter κ) : Grown r (r.handle j).1 := by
  have unchanged : Grown r r := .of_eq rfl (Nat.le_refl _)
  rcases r.handle_cases j with ⟨type, reqId, -, given⟩ | ⟨type, -, given⟩ | ⟨e, given⟩
  · rw [given, answer_router]
    cases found : r.pending.lookup reqId with
    | none =>
        simp only [fulfillAndEraseLocked, found]
        exact unchanged
    | some p =>
        rw [fulfillAndEraseLocked_found found]
        exact .of_erase rfl rfl
  · rw [given]
    exact unchanged
  · rw [given]
    exact unchanged

theorem expire_grown (ctx : StrandRun) (reqId : String) (r : DBmwRouter κ) :
    Grown r (r.expire ctx reqId).1 := by
  unfold expire
  cases found : r.pending.lookup reqId with
  | none => exact .of_eq rfl (Nat.le_refl _)
  | some p =>
      by_cases left : p.retries < p.maxRetries
      · simp only [if_pos left]
        obtain ⟨pending, serials, -⟩ := sendNowLocked_quiet ctx reqId
          { r with
            pending := r.pending.insert reqId { p with retries := p.retries + 1 }
            metrics.retried := r.metrics.retried + 1 }
        refine ⟨Nat.le_of_eq serials.symm, fun id q there => .inl ?_⟩
        rw [pending] at there
        by_cases here : id = reqId
        · subst here
          rw [AList.lookup_insert, Option.some.injEq] at there
          exact ⟨p, found, by rw [← there], by rw [← there]⟩
        · rw [AList.lookup_insert_ne here] at there
          exact ⟨q, there, rfl, rfl⟩
      · simp only [if_neg left]
        rw [@fulfillAndEraseLocked_found κ reqId
          { r with metrics.timedOut := r.metrics.timedOut + 1 } p found]
        exact .of_erase rfl rfl

end DBmwRouter

/-- **No step gives an entry another number or another message.** -/
theorem routerStep_grown (ctx : StrandRun) (r : DBmwRouter κ) (e : RouterEvent κ) :
    Grown r (routerStep ctx r e).1 := by
  have drawn {reqSeq : Nat} {r' : DBmwRouter κ} (grown : Grown { r with reqSeq } r') :
      Grown r r' := ⟨grown.serials, grown.entries⟩
  cases e with
  | sendRequest api payload secure timeoutMs maxRetries sessionId =>
      simp only [routerStep, DBmwRouter.sendRequest]
      split
      · exact .of_eq rfl (Nat.le_refl _)
      · exact drawn (DBmwRouter.enter_grown ctx _ _ _)
  | sendRequestCb api payload secure timeoutMs maxRetries sessionId onOk onError =>
      simp only [routerStep, DBmwRouter.sendRequestCb]
      split
      · exact .of_eq rfl (Nat.le_refl _)
      · split
        · exact drawn (DBmwRouter.enter_grown ctx _ _ _)
        · exact .of_eq rfl (Nat.le_refl _)
  | response j => exact DBmwRouter.handle_grown j r
  | expire reqId => exact DBmwRouter.expire_grown ctx reqId r
  | resend reqId cancelled =>
      simp only [routerStep, DBmwRouter.resend]
      split
      · split
        · exact .of_eq rfl (Nat.le_refl _)
        · obtain ⟨pending, serials, -⟩ := DBmwRouter.sendNowLocked_quiet ctx reqId
            { r with resends := r.resends.erase reqId }
          exact .of_eq pending (Nat.le_of_eq serials.symm)
      · exact .of_eq rfl (Nat.le_refl _)
  | setSenders sendJsonFn sendSecureJsonFn => exact .of_eq rfl (Nat.le_refl _)

/-! ## Completing -/

/-- Of a string that is a member, `value` gives the text; of anything else, no text. -/
theorem valueStr_eq_ok {j v : Json} {key text : String} (has : member j key = some v) :
    j.valueStr key "" = .ok text ↔ v = .str text := by
  cases j with
  | obj fields =>
      have has : Json.lookup fields key = some v := has
      simp only [Json.valueStr, has]
      cases v <;> simp
  | _ => cases has

theorem handle_keeps {r : DBmwRouter κ} {reqId : String} {p : Pending κ} {j : Json}
    (found : r.pending.lookup reqId = some p) (elsewhere : j.valueStr "req_id" "" ≠ .ok reqId) :
    (r.handle j).1.pending.lookup reqId = some p := by
  rcases r.handle_cases j with
    ⟨type, other, ⟨-, -, named, -⟩, given⟩ | ⟨type, -, given⟩ | ⟨e, given⟩
  · rw [given, DBmwRouter.answer_router]
    rw [named] at elsewhere
    have apart : reqId ≠ other := fun same => elsewhere (by rw [same])
    cases there : r.pending.lookup other with
    | none =>
        simp only [DBmwRouter.fulfillAndEraseLocked, there]
        exact found
    | some q =>
        rw [DBmwRouter.fulfillAndEraseLocked_found there]
        exact (AList.lookup_erase_ne apart).trans found
  · rw [given]
    exact found
  · rw [given]
    exact found

/-- **A query result completes a request** just when it names its key. -/
theorem completes_iff {r : DBmwRouter κ} {reqId : String} {p : Pending κ} {j : Json}
    (found : r.pending.lookup reqId = some p) (filled : reqId ≠ "")
    (only : ∀ id q, r.pending.lookup id = some q → q.serial = p.serial → id = reqId)
    (typed : j.valueStr "type" "" = .ok DBmwRouter.okType) :
    Completes r p.serial j ↔ j.valueStr "req_id" "" = .ok reqId := by
  constructor
  · rintro ⟨id, q, there, same, erased, -⟩
    obtain rfl := only id q there same
    by_contra elsewhere
    have kept := handle_keeps found elsewhere
    rw [erased] at kept
    simp at kept
  · intro named
    have addressed : Addressed j DBmwRouter.okType reqId := ⟨typed, .inl rfl, named, filled⟩
    obtain ⟨called, answered, silent⟩ := DBmwRouter.answer_found j DBmwRouter.okType found
    refine ⟨reqId, p, found, rfl, ?_, fun k result => ?_⟩
    · rw [handle_eq_answer addressed, answered, DBmwRouter.fulfillAndEraseLocked_found found]
    · have told : Effect.fulfil k result ∈ called ↔ False := by
        refine ⟨fun told => ?_, False.elim⟩
        have mute := (silent _ told).2 k
        simp [Effect.fulfils] at mute
      rw [handle_eq_answer addressed, answered, List.mem_cons, told, or_false]
      simp

/-! ## A request and its echo -/

/-- The number is behind, and at most the entry of that key and message has it. -/
structure Held (reqId : String) (serial : Nat) (request : Json) (r : DBmwRouter κ) : Prop where
  behind : serial < r.serials
  entry : ∀ id p, r.pending.lookup id = some p → p.serial = serial →
    id = reqId ∧ p.requestJson = request

theorem Held.step {reqId : String} {serial : Nat} {request : Json} {r : DBmwRouter κ}
    (held : Held reqId serial request r) (ctx : StrandRun) (e : RouterEvent κ) :
    Held reqId serial request (routerStep ctx r e).1 := by
  have grown := routerStep_grown ctx r e
  have behind := held.behind
  have more := grown.serials
  refine ⟨by omega, fun id p found own => ?_⟩
  rcases grown.entries id p found with ⟨q, there, number, message⟩ | ⟨fresh, -⟩
  · obtain ⟨here, same⟩ := held.entry id q there (number.trans own)
    exact ⟨here, message ▸ same⟩
  · omega

/-- Every number on the table is behind the next one. -/
def Numbered (r : DBmwRouter κ) : Prop :=
  ∀ reqId p, r.pending.lookup reqId = some p → p.serial < r.serials

theorem Numbered.step {r : DBmwRouter κ} (numbered : Numbered r) (ctx : StrandRun)
    (e : RouterEvent κ) : Numbered (routerStep ctx r e).1 := by
  have grown := routerStep_grown ctx r e
  have more := grown.serials
  intro reqId p found
  rcases grown.entries reqId p found with ⟨q, there, number, -⟩ | ⟨fresh, later⟩
  · have before := numbered reqId q there
    omega
  · omega

theorem numbered_run (r : DBmwRouter κ) (events : List (StrandRun × RouterEvent κ)) :
    Numbered (run History.step (History.start r) events).router :=
  have preserved : ∀ (h : History κ) (e : StrandRun × RouterEvent κ), Numbered h.router → True →
      Numbered (History.step h e).router := fun _ e numbered _ => numbered.step e.1 e.2
  run_invariant preserved (fun _ _ found => by simp [History.start] at found) (along_true _ _)

/-- An id is never empty. -/
theorem makeReqId_ne_empty (ctx : StrandRun) (sessionId : Int) (r : DBmwRouter κ) :
    (r.makeReqId ctx sessionId).1 ≠ "" := by
  intro empty
  have length := congrArg String.length empty
  simp only [DBmwRouter.makeReqId] at length
  split at length <;> simp at length

/-- The message a request's payload is merged into. -/
def merged (api reqId : String) (payload : List (String × Json)) : Json :=
  .obj (payload.foldl (fun req field => Json.assign req field.1 field.2)
    [("type", .str "db_query"), ("api", .str api), ("req_id", .str reqId)])

theorem member_merged (api reqId : String) (payload : List (String × Json)) :
    member (merged api reqId payload) "req_id" =
      some ((lastOf payload "req_id").getD (.str reqId)) := by
  have own : Json.lookup [("type", Json.str "db_query"), ("api", .str api), ("req_id", .str reqId)]
      "req_id" = some (.str reqId) := rfl
  show Json.lookup _ "req_id" = _
  rw [lookup_merged, own]
  cases lastOf payload "req_id" <;> rfl

/-- A call that hands its message on makes an entry of it, or finds its id taken. -/
theorem requested {r : DBmwRouter κ} {ctx : StrandRun} {e : RouterEvent κ} {api : String}
    {payload : List (String × Json)} {sessionId : Int} (requests : Requests e api payload sessionId)
    {secure : Bool} {request : Json} (handed : .send secure request ∈ (routerStep ctx r e).2) :
    ∃ p reqSeq, p.requestJson = merged api (r.makeReqId ctx sessionId).1 payload ∧
      routerStep ctx r e =
        ({ r with reqSeq } : DBmwRouter κ).enter ctx (r.makeReqId ctx sessionId).1 p := by
  cases requests with
  | future => exact ⟨_, _, rfl, rfl⟩
  | callback =>
      rename_i sends timeoutMs maxRetries onOk onError
      by_cases sender : (r.makeReqId ctx sessionId).2.hasSender sends = true
      · refine ⟨{
          serial := 0
          requestJson := merged api (r.makeReqId ctx sessionId).1 payload
          secure := sends
          maxRetries, timeoutMs, sessionId, onOk, onError, useCallbacks := true },
        (r.reqSeq + 1) % 2 ^ 64, rfl, ?_⟩
        simp only [routerStep, DBmwRouter.sendRequestCb, DBmwRouter.buildRequest, if_pos sender]
        rfl
      · simp only [routerStep, DBmwRouter.sendRequestCb, DBmwRouter.buildRequest,
          if_neg sender] at handed
        cases onError <;> simp at handed

/-- A request at its key, alone with its number. -/
theorem completes_iff_of_held {r : DBmwRouter κ} {reqId : String} {p : Pending κ} {request j : Json}
    (found : r.pending.lookup reqId = some p) (filled : reqId ≠ "")
    (held : Held reqId p.serial request r) (echoes : Echoes request j) {v : Json}
    (carries : member request "req_id" = some v) : Completes r p.serial j ↔ v = .str reqId := by
  have only : ∀ id q, r.pending.lookup id = some q → q.serial = p.serial → id = reqId :=
    fun id q there own => (held.entry id q there own).1
  rw [completes_iff found filled only echoes.1]
  exact valueStr_eq_ok (echoes.2.trans carries)

theorem exists_echo (request : Json) : ∃ j, Echoes request j := by
  cases carries : member request "req_id" with
  | none => exact ⟨.obj [("type", .str DBmwRouter.okType)], rfl, carries.symm⟩
  | some v => exact ⟨.obj [("type", .str DBmwRouter.okType), ("req_id", v)], rfl, carries.symm⟩

/-- A request entered under a free id. -/
theorem echoFinds_iff_of_entered {r : DBmwRouter κ} {reqId : String} {p : Pending κ}
    {request : Json} (found : r.pending.lookup reqId = some p) (filled : reqId ≠ "")
    (held : Held reqId p.serial request r) {v : Json} (carries : member request "req_id" = some v) :
    EchoFinds r p.serial request ↔ v = .str reqId := by
  constructor
  · intro finds
    obtain ⟨j, echoes⟩ := exists_echo request
    exact (completes_iff_of_held found filled held echoes carries).mp
      (finds [] (.inl rfl) j echoes)
  · intro own later waits j echoes
    have preserved : ∀ (h : History κ) (e : StrandRun × RouterEvent κ),
        Held reqId p.serial request h.router → True →
          Held reqId p.serial request (History.step h e).router :=
      fun _ e held _ => held.step e.1 e.2
    have later_held : Held reqId p.serial request
        (run History.step { router := r } later).router :=
      run_invariant preserved held (along_true _ _)
    have stays : ∃ q, (run History.step { router := r } later).router.pending.lookup reqId =
        some q ∧ q.serial = p.serial := by
      rcases waits with rfl | ⟨id, q, there, same⟩
      · exact ⟨p, found, rfl⟩
      · obtain ⟨rfl, -⟩ := later_held.entry id q there same
        exact ⟨q, there, same⟩
    obtain ⟨q, there, same⟩ := stays
    rw [← same] at later_held ⊢
    exact (completes_iff_of_held there filled later_held echoes carries).mpr own

/-- **An echoed `"req_id"` finds its request** just when the id was free and the payload
has no other value for `"req_id"`. -/
theorem echo_finds_iff {router r : DBmwRouter κ} {before : List (StrandRun × RouterEvent κ)}
    (reached : (run History.step (History.start router) before).router = r) (ctx : StrandRun)
    {e : RouterEvent κ} {api : String} {payload : List (String × Json)} {sessionId : Int}
    (requests : Requests e api payload sessionId) {secure : Bool} {request : Json}
    (handed : .send secure request ∈ (routerStep ctx r e).2) :
    EchoFinds (routerStep ctx r e).1 r.serials request ↔
      r.pending.lookup (r.makeReqId ctx sessionId).1 = none ∧
        ∀ v ∈ lastOf payload "req_id", v = .str (r.makeReqId ctx sessionId).1 := by
  have numbered : Numbered r := reached ▸ numbered_run router before
  have filled := makeReqId_ne_empty ctx sessionId r
  obtain ⟨p, reqSeq, message, entered⟩ := requested requests handed
  generalize (r.makeReqId ctx sessionId).1 = reqId at *
  rw [entered] at handed ⊢
  cases found : r.pending.lookup reqId with
  | some old =>
      -- the table has no entry of the new number
      obtain ⟨pending, -⟩ := @DBmwRouter.enter_present κ ctx reqId p old { r with reqSeq } found
      refine ⟨fun finds => ?_, fun free => by cases free.1⟩
      obtain ⟨j, echoes⟩ := exists_echo request
      obtain ⟨id, q, there, own, -⟩ := finds [] (.inl rfl) j echoes
      rw [run_nil, pending] at there
      have behind := numbered id q there
      omega
  | none =>
      obtain ⟨pending, serials, sends⟩ :=
        @DBmwRouter.enter_absent κ ctx reqId p { r with reqSeq } found
      have carries := member_merged api reqId payload
      rw [← message, ← sends secure request handed] at carries
      generalize (({ r with reqSeq } : DBmwRouter κ).enter ctx reqId p).1 = r' at *
      have next : r'.serials = r.serials + 1 := serials
      have there : r'.pending.lookup reqId = some { p with serial := r.serials } := by
        rw [pending]
        exact AList.lookup_insert _
      have held : Held reqId r.serials request r' := by
        refine ⟨by omega, fun id q same own => ?_⟩
        rw [pending] at same
        by_cases here : id = reqId
        · subst here
          rw [AList.lookup_insert, Option.some.injEq] at same
          exact ⟨rfl, by rw [← same, sends secure request handed]⟩
        · rw [AList.lookup_insert_ne here] at same
          have behind := numbered id q same
          omega
      rw [echoFinds_iff_of_entered there filled held carries]
      cases lastOf payload "req_id" <;> simp

/-! ## Two requests -/

/-- A router with both senders. -/
def both : DBmwRouter Unit := { sendJsonFn := true, sendSecureJsonFn := true }

/-- A request with nothing in its payload, after another. -/
def plainRequest : RouterEvent Unit := .sendRequest "a" (.obj []) false 0 0 7

theorem echo_finds_plain :
    EchoFinds (routerStep {} (run History.step (History.start both) [({}, plainRequest)]).router
        plainRequest).1 1 (merged "a" "7_2" []) := by
  have handed : .send false (merged "a" "7_2" []) ∈
      (routerStep {} (run History.step (History.start both) [({}, plainRequest)]).router
        plainRequest).2 := .tail _ (.head _)
  exact (echo_finds_iff rfl {} .future handed).mpr ⟨rfl, by simp [lastOf, Json.lookup]⟩

/-- A payload with a `"req_id"` of its own. -/
def claimedRequest : RouterEvent Unit :=
  .sendRequest "a" (.obj [("req_id", .str "x")]) false 0 0 7

/-- **Its response finds nobody.** -/
theorem claimed_echo_lost :
    .send false (merged "a" "7_1" [("req_id", .str "x")]) ∈
        (routerStep {} (History.start both).router claimedRequest).2 ∧
      ¬ EchoFinds (routerStep {} (History.start both).router claimedRequest).1 0
        (merged "a" "7_1" [("req_id", .str "x")]) := by
  refine ⟨.tail _ (.head _), fun finds => ?_⟩
  obtain ⟨-, -, -, -, -, fulfils⟩ := finds [] (.inl rfl)
    (.obj [("type", .str "db_query_result"), ("req_id", .str "x")]) ⟨rfl, rfl⟩
  have told := (fulfils 0 _).mpr ⟨rfl, rfl⟩
  cases told

end GameServer.Dbmw
