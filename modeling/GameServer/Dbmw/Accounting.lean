/-
# Dbmw.Accounting -- the counters of the request table

Every request entered is in the table, or was answered, or was given up; every
send is a request's first or one of its retries; an entry lives through as many
timer expirations as it has retries; a promise is set as its entry leaves.

The log line behind a send is in the send's `try`.  It reads `"api"` as a text from
the request, where a payload may have put something else; what it throws is taken
for a failed send, and the request is sent again every half second.

* `routerStep_turn` -- what a step does to table, counters and promises;
* `accounted` -- the account balances in every state of a run whose requests draw an
  unused id and have a text for an `"api"`;
* `accounted_once` -- a request retried, given up and answered too late;
* `send_counted_twice` -- a request whose payload replaces `"api"` by a number.
-/
import Mathlib.Algebra.Order.Group.Unbundled.Int
import GameServer.Dbmw.Router
import GameServer.Theory.Runs

namespace GameServer.Dbmw

set_option autoImplicit false

open Wire Theory.Runs

universe u

variable {κ : Type u}

/-! ## What is asked of a run -/

def Effect.isEntry : Effect κ → Bool
  | .entered _ _ => true
  | _ => false

def Effect.fulfils (serial : Nat) : Effect κ → Bool
  | .fulfil k _ => k == serial
  | _ => false

/-- How often the promise of a request was set. -/
def fulfilments (serial : Nat) (effects : List (Effect κ)) : Nat :=
  effects.countP (Effect.fulfils serial)

/-- The entry whose timer an event ends, by its number. -/
def DBmwRouter.expiring (r : DBmwRouter κ) : RouterEvent κ → Option Nat
  | .expire reqId => (r.pending.lookup reqId).map Pending.serial
  | _ => none

/-- A history, with the number of expirations each entry has met. -/
structure Audit (κ : Type u) where
  history : History κ
  met : Nat → Nat := fun _ => 0

namespace Audit

def router (a : Audit κ) : DBmwRouter κ := a.history.router

def effects (a : Audit κ) : List (Effect κ) := a.history.effects

/-- One expiration more for the entry whose timer ended. -/
def meet (met : Nat → Nat) : Option Nat → Nat → Nat
  | none => met
  | some serial => Function.update met serial (met serial + 1)

def step (a : Audit κ) (e : StrandRun × RouterEvent κ) : Audit κ where
  history := a.history.step e
  met := meet a.met (a.router.expiring e.2)

/-- A router with its handlers, before its first request. -/
def start (handlers : List String) : Audit κ := { history := { router := { handlers } } }

def requests (a : Audit κ) : Nat := a.effects.countP Effect.isEntry

end Audit

/-- No entry of the table has this number. -/
def DBmwRouter.Gone (r : DBmwRouter κ) (serial : Nat) : Prop :=
  ∀ reqId p, r.pending.lookup reqId = some p → p.serial ≠ serial

/-- The account balances. -/
structure Accounted (a : Audit κ) : Prop where
  requests : a.requests =
    a.router.metrics.ok + a.router.metrics.failed + a.router.pending.keys.length
  timedOut : a.router.metrics.timedOut ≤ a.router.metrics.failed
  sent : a.router.metrics.sent = a.requests + a.router.metrics.retried
  retries : ∀ reqId p, a.router.pending.lookup reqId = some p → p.retries ≤ max 0 p.maxRetries
  /-- One expiration more than `max 0 maxRetries`, and the entry is not there. -/
  expirations : ∀ reqId p, a.router.pending.lookup reqId = some p →
    (a.met p.serial : Int) ≤ max 0 p.maxRetries
  unset : ∀ reqId p, a.router.pending.lookup reqId = some p → fulfilments p.serial a.effects = 0
  set : ∀ reqId t, .entered reqId t ∈ a.effects → a.router.Gone t.serial →
    fulfilments t.serial a.effects = 1

/-- The request has a text for an `"api"`. -/
def Worded (request : Json) : Prop := ∃ text, request.valueStr "api" "" = .ok text

/-- What is entered is new under its id and has a text for an `"api"`. -/
def DBmwRouter.Enterable (r : DBmwRouter κ) (reqId api : String) (payload : Json) : Prop :=
  ∀ request, buildRequest api reqId payload = .ok request →
    r.pending.lookup reqId = none ∧ Worded request

/-- The sender does not throw, and a request that reaches the table is enterable. -/
def DBmwRouter.Regular (r : DBmwRouter κ) (e : StrandRun × RouterEvent κ) : Prop :=
  e.1.senderThrows = false ∧
    match e.2 with
    | .sendRequest api payload _ _ _ sessionId =>
        r.Enterable (r.makeReqId e.1 sessionId).1 api payload
    | .sendRequestCb api payload secure _ _ sessionId _ _ =>
        r.hasSender secure = true → r.Enterable (r.makeReqId e.1 sessionId).1 api payload
    | _ => True

section Decidable

instance (request : Json) : Decidable (Worded request) :=
  match read : request.valueStr "api" "" with
  | .ok text => isTrue ⟨text, read⟩
  | .error _ => isFalse fun ⟨text, other⟩ => by rw [read] at other; cases other

instance (r : DBmwRouter κ) (reqId api : String) (payload : Json) :
    Decidable (r.Enterable reqId api payload) :=
  match built : DBmwRouter.buildRequest api reqId payload with
  | .error _ => isTrue fun request other => by rw [built] at other; cases other
  | .ok request =>
      decidable_of_iff (r.pending.lookup reqId = none ∧ Worded request)
        ⟨fun enterable request' same => by
          rw [built] at same
          cases same
          exact enterable, fun enterable => enterable request built⟩

instance (r : DBmwRouter κ) (e : StrandRun × RouterEvent κ) : Decidable (r.Regular e) :=
  match e with
  | (ctx, .sendRequest api payload _ _ _ sessionId) =>
      inferInstanceAs (Decidable (ctx.senderThrows = false ∧
        r.Enterable (r.makeReqId ctx sessionId).1 api payload))
  | (ctx, .sendRequestCb api payload secure _ _ sessionId _ _) =>
      inferInstanceAs (Decidable (ctx.senderThrows = false ∧
        (r.hasSender secure = true → r.Enterable (r.makeReqId ctx sessionId).1 api payload)))
  | (ctx, .response _) | (ctx, .expire _) | (ctx, .resend _ _) | (ctx, .setSenders _ _) =>
      inferInstanceAs (Decidable (ctx.senderThrows = false ∧ True))

end Decidable

/-! ## What a step does -/

/-- Effects that enter nothing and set no promise. -/
def Silent (effects : List (Effect κ)) : Prop :=
  ∀ effect ∈ effects, effect.isEntry = false ∧ ∀ serial, effect.fulfils serial = false

/-- One step of the table, its counters and its promises; the index is the entry
whose timer it ends. -/
inductive Turn (r : DBmwRouter κ) : Option Nat → DBmwRouter κ → List (Effect κ) → Prop where
  | idle {r' : DBmwRouter κ} {effects : List (Effect κ)} (pending : r'.pending = r.pending)
      (metrics : r'.metrics = r.metrics) (serials : r'.serials = r.serials)
      (resends : r'.resends = r.resends) (silent : Silent effects) : Turn r none r' effects
  | enter {r' : DBmwRouter κ} {effects : List (Effect κ)} (reqId : String) (p : Pending κ)
      (absent : r.pending.lookup reqId = none) (number : p.serial = r.serials)
      (unretried : p.retries = 0) (worded : Worded p.requestJson)
      (pending : r'.pending = r.pending.insert reqId p)
      (metrics : r'.metrics = { r.metrics with sent := r.metrics.sent + 1 })
      (serials : r'.serials = r.serials + 1) (resends : r'.resends = r.resends)
      (silent : Silent effects) : Turn r none r' (.entered reqId p.ticket :: effects)
  | retry {r' : DBmwRouter κ} {effects : List (Effect κ)} (reqId : String) (p : Pending κ)
      (found : r.pending.lookup reqId = some p) (left : p.retries < p.maxRetries)
      (pending : r'.pending = r.pending.insert reqId { p with retries := p.retries + 1 })
      (metrics : r'.metrics =
        { r.metrics with sent := r.metrics.sent + 1, retried := r.metrics.retried + 1 })
      (serials : r'.serials = r.serials) (resends : r'.resends = r.resends)
      (silent : Silent effects) : Turn r (some p.serial) r' effects
  | finish {r' : DBmwRouter κ} {effects : List (Effect κ)} (reqId : String) (p : Pending κ)
      (result : Json) (success late : Bool) (found : r.pending.lookup reqId = some p)
      (failure : late = true → success = false)
      (pending : r'.pending = r.pending.erase reqId)
      (metrics : r'.metrics = { r.metrics with
        ok := r.metrics.ok + (if success then 1 else 0)
        failed := r.metrics.failed + (if success then 0 else 1)
        timedOut := r.metrics.timedOut + (if late then 1 else 0) })
      (serials : r'.serials = r.serials) (resends : r'.resends = r.resends)
      (silent : Silent effects) :
      Turn r (if late then some p.serial else none) r' (.fulfil p.serial result :: effects)

/-- A number drawn for the next id is no part of a turn. -/
theorem Turn.numbered {r r' : DBmwRouter κ} {reqSeq : Nat} {met : Option Nat}
    {effects : List (Effect κ)} (turn : Turn { r with reqSeq := reqSeq } met r' effects) :
    Turn r met r' effects := by
  cases turn with
  | idle pending metrics serials resends silent => exact .idle pending metrics serials resends silent
  | enter reqId p absent number unretried worded pending metrics serials resends silent =>
      exact .enter reqId p absent number unretried worded pending metrics serials resends silent
  | retry reqId p found left pending metrics serials resends silent =>
      exact .retry reqId p found left pending metrics serials resends silent
  | finish reqId p result success late found failure pending metrics serials resends silent =>
      exact .finish reqId p result success late found failure pending metrics serials resends silent

theorem Silent.nil : Silent ([] : List (Effect κ)) := fun _ member => (List.not_mem_nil member).elim

theorem Silent.of_isCall {effects : List (Effect κ)}
    (calls : ∀ effect ∈ effects, ∃ serial which callback j, effect = .call serial which callback j) :
    Silent effects := by
  intro effect member
  obtain ⟨serial, which, callback, j, rfl⟩ := calls effect member
  exact ⟨rfl, fun _ => rfl⟩

namespace DBmwRouter

/-- A send that throws nothing is counted. -/
theorem sendNowLocked_worded {ctx : StrandRun} {reqId : String} {r : DBmwRouter κ} {p : Pending κ}
    (calm : ctx.senderThrows = false) (found : r.pending.lookup reqId = some p)
    (worded : Worded p.requestJson) :
    ∃ effects, r.sendNowLocked ctx reqId =
      ({ r with metrics.sent := r.metrics.sent + 1 }, effects) ∧ Silent effects := by
  obtain ⟨text, read⟩ := worded
  refine ⟨if r.hasSender p.secure then [.send p.secure p.requestJson] else [], ?_, ?_⟩
  · simp [sendNowLocked, found, calm, read]
  · intro effect member
    split at member
    · rw [List.mem_singleton.mp member]
      exact ⟨rfl, fun _ => rfl⟩
    · cases member

theorem enter_turn {ctx : StrandRun} {reqId : String} {p : Pending κ} {r : DBmwRouter κ}
    (calm : ctx.senderThrows = false) (absent : r.pending.lookup reqId = none)
    (unretried : p.retries = 0) (worded : Worded p.requestJson) :
    Turn r none (r.enter ctx reqId p).1 (r.enter ctx reqId p).2 := by
  have found : (r.pending.insert reqId { p with serial := r.serials }).lookup reqId =
      some { p with serial := r.serials } := AList.lookup_insert _
  obtain ⟨effects, sent, silent⟩ := @sendNowLocked_worded κ ctx reqId
    { r with
      serials := r.serials + 1
      pending := r.pending.insert reqId { p with serial := r.serials } } _ calm found worded
  unfold enter emplace
  simp only [absent, sent, List.singleton_append]
  exact .enter reqId { p with serial := r.serials } absent rfl unretried worded rfl rfl rfl rfl silent

/-- A response that finds its entry: the promise, then at most a callback. -/
theorem answer_found {reqId : String} {r : DBmwRouter κ} {p : Pending κ} (j : Json) (type : String)
    (found : r.pending.lookup reqId = some p) :
    ∃ called, r.answer reqId j type =
        ((r.fulfillAndEraseLocked reqId j (type == okType)).1, .fulfil p.serial j :: called) ∧
      Silent called := by
  have told (which : Callback) (callback : Option κ) : Silent
      (callback.map fun callback => Effect.call p.serial which callback j).toList := by
    refine Silent.of_isCall fun effect member => ?_
    cases callback with
    | none => cases member
    | some callback => exact ⟨_, _, _, _, List.mem_singleton.mp member⟩
  simp only [answer, found, fulfillAndEraseLocked_found found]
  cases p.useCallbacks with
  | false => exact ⟨[], rfl, Silent.nil⟩
  | true =>
      cases type == okType with
      | true => exact ⟨_, rfl, told .onOk p.onOk⟩
      | false => exact ⟨_, rfl, told .onError p.onError⟩

theorem answer_turn (j : Json) (reqId type : String) (r : DBmwRouter κ) :
    Turn r none (r.answer reqId j type).1 (r.answer reqId j type).2 := by
  cases found : r.pending.lookup reqId with
  | none =>
      have untouched : r.answer reqId j type = (r, []) := by rw [answer, found]
      rw [untouched]
      exact .idle rfl rfl rfl rfl Silent.nil
  | some p =>
      obtain ⟨called, answered, silent⟩ := answer_found j type found
      rw [answered, fulfillAndEraseLocked_found found]
      exact .finish reqId p j (type == okType) false found (fun late => by cases late) rfl rfl rfl
        rfl silent

theorem handle_turn (j : Json) (r : DBmwRouter κ) : Turn r none (r.handle j).1 (r.handle j).2 := by
  have passed (type : String) : Turn r none (r.passOn type j).1 (r.passOn type j).2 := by
    refine .idle rfl rfl rfl rfl ?_
    intro effect member
    rw [passOn] at member
    split at member
    · rw [List.mem_singleton.mp member]
      exact ⟨rfl, fun _ => rfl⟩
    · cases member
  have thrown (e : JsonError) : Turn r none r [.threw e] := by
    refine .idle rfl rfl rfl rfl ?_
    intro effect member
    rw [List.mem_singleton.mp member]
    exact ⟨rfl, fun _ => rfl⟩
  rcases r.handle_cases j with ⟨type, reqId, -, given⟩ | ⟨type, -, given⟩ | ⟨e, given⟩
  · rw [given]
    exact answer_turn _ _ _ r
  · rw [given]
    exact passed _
  · rw [given]
    exact thrown _

theorem expire_turn {ctx : StrandRun} {reqId : String} {r : DBmwRouter κ}
    (calm : ctx.senderThrows = false)
    (worded : ∀ p, r.pending.lookup reqId = some p → Worded p.requestJson) :
    Turn r (r.expiring (.expire reqId)) (r.expire ctx reqId).1 (r.expire ctx reqId).2 := by
  show Turn r ((r.pending.lookup reqId).map Pending.serial) _ _
  unfold expire
  cases found : r.pending.lookup reqId with
  | none => exact .idle rfl rfl rfl rfl Silent.nil
  | some p =>
      by_cases left : p.retries < p.maxRetries
      · simp only [if_pos left]
        have again : (r.pending.insert reqId { p with retries := p.retries + 1 }).lookup reqId =
            some { p with retries := p.retries + 1 } := AList.lookup_insert _
        obtain ⟨effects, sent, silent⟩ := @sendNowLocked_worded κ ctx reqId
          { r with
            pending := r.pending.insert reqId { p with retries := p.retries + 1 }
            metrics.retried := r.metrics.retried + 1 } _ calm again (worded p found)
        rw [sent]
        exact .retry reqId p found left rfl rfl rfl rfl silent
      · simp only [if_neg left]
        rw [@fulfillAndEraseLocked_found κ reqId
          { r with metrics.timedOut := r.metrics.timedOut + 1 } p found]
        exact .finish reqId p (timeoutError reqId) false true found (fun _ => rfl) rfl rfl rfl rfl
          Silent.nil

end DBmwRouter

/-- **What a step does to table, counters and promises**, nothing waiting to be sent
again. -/
theorem routerStep_turn {r : DBmwRouter κ} {e : StrandRun × RouterEvent κ}
    (quiet : r.resends = [])
    (worded : ∀ reqId p, r.pending.lookup reqId = some p → Worded p.requestJson)
    (regular : r.Regular e) :
    Turn r (r.expiring e.2) (routerStep e.1 r e.2).1 (routerStep e.1 r e.2).2 := by
  obtain ⟨ctx, e⟩ := e
  obtain ⟨calm, regular⟩ := regular
  have refusal (effect : Effect κ) (harmless : effect.isEntry = false)
      (unfulfilling : ∀ serial, effect.fulfils serial = false) : Silent [effect] := by
    intro effect' member
    rw [List.mem_singleton.mp member]
    exact ⟨harmless, unfulfilling⟩
  cases e with
  | sendRequest api payload secure timeoutMs maxRetries sessionId =>
      simp only [routerStep, DBmwRouter.sendRequest]
      cases built : DBmwRouter.buildRequest api (r.makeReqId ctx sessionId).1 payload with
      | error e => exact .idle rfl rfl rfl rfl (refusal _ rfl fun _ => rfl)
      | ok request =>
          obtain ⟨absent, worded⟩ := regular request built
          exact Turn.numbered (DBmwRouter.enter_turn calm absent rfl worded)
  | sendRequestCb api payload secure timeoutMs maxRetries sessionId onOk onError =>
      simp only [routerStep, DBmwRouter.sendRequestCb]
      cases built : DBmwRouter.buildRequest api (r.makeReqId ctx sessionId).1 payload with
      | error e => exact .idle rfl rfl rfl rfl (refusal _ rfl fun _ => rfl)
      | ok request =>
          by_cases sender : (r.makeReqId ctx sessionId).2.hasSender secure = true
          · obtain ⟨absent, worded⟩ := regular sender request built
            simp only [sender, if_true]
            exact Turn.numbered (DBmwRouter.enter_turn calm absent rfl worded)
          · simp only [sender]
            cases onError with
            | none => exact .idle rfl rfl rfl rfl Silent.nil
            | some callback => exact .idle rfl rfl rfl rfl (refusal _ rfl fun _ => rfl)
  | response j => exact DBmwRouter.handle_turn j r
  | expire reqId => exact DBmwRouter.expire_turn calm (worded reqId)
  | resend reqId cancelled =>
      have idle : r.resend ctx reqId cancelled = (r, []) := by simp [DBmwRouter.resend, quiet]
      simp only [routerStep, idle]
      exact .idle rfl rfl rfl rfl Silent.nil
  | setSenders sendJsonFn sendSecureJsonFn => exact .idle rfl rfl rfl rfl Silent.nil

/-! ## The books -/

theorem Silent.counts {effects : List (Effect κ)} (silent : Silent effects) :
    effects.countP Effect.isEntry = 0 ∧ ∀ serial, fulfilments serial effects = 0 := by
  constructor
  · exact List.countP_eq_zero.mpr fun effect member => by simp [(silent effect member).1]
  · intro serial
    exact List.countP_eq_zero.mpr fun effect member => by simp [(silent effect member).2 serial]

theorem Silent.no_entry {effects : List (Effect κ)} (silent : Silent effects) {reqId : String}
    {t : Ticket κ} : .entered reqId t ∉ effects := by
  intro member
  exact absurd (silent _ member).1 Bool.true_eq_false.mp

theorem fulfilments_append (serial : Nat) (front back : List (Effect κ)) :
    fulfilments serial (front ++ back) = fulfilments serial front + fulfilments serial back :=
  List.countP_append

theorem fulfilments_fulfil (serial k : Nat) (result : Json) (effects : List (Effect κ)) :
    fulfilments serial (.fulfil k result :: effects) =
      fulfilments serial effects + (if k = serial then 1 else 0) := by
  simp [fulfilments, List.countP_cons, Effect.fulfils]

theorem fulfilments_entered (serial : Nat) (reqId : String) (t : Ticket κ)
    (effects : List (Effect κ)) :
    fulfilments serial (.entered reqId t :: effects) = fulfilments serial effects := by
  simp [fulfilments, Effect.fulfils]

section Table

variable {β : Type u} {table : AList (fun _ : String => β)} {reqId id : String} {p q : β}

theorem lookup_insert_some (found : (table.insert reqId p).lookup id = some q) :
    (id = reqId ∧ q = p) ∨ (id ≠ reqId ∧ table.lookup id = some q) := by
  by_cases here : id = reqId
  · subst here
    rw [AList.lookup_insert] at found
    exact .inl ⟨rfl, (Option.some.inj found).symm⟩
  · rw [AList.lookup_insert_ne here] at found
    exact .inr ⟨here, found⟩

theorem lookup_erase_some (found : (table.erase reqId).lookup id = some q) :
    id ≠ reqId ∧ table.lookup id = some q := by
  by_cases here : id = reqId
  · subst here
    rw [AList.lookup_erase] at found
    cases found
  · rw [AList.lookup_erase_ne here] at found
    exact ⟨here, found⟩

theorem mem_keys_of_lookup (found : table.lookup reqId = some p) : reqId ∈ table.keys :=
  AList.mem_keys.mp (AList.lookup_isSome.mp (by rw [found]; rfl))

theorem length_insert_absent (absent : table.lookup reqId = none) :
    (table.insert reqId p).keys.length = table.keys.length + 1 := by
  have missing : reqId ∉ table.keys := AList.lookup_eq_none.mp absent
  rw [AList.keys_insert, List.length_cons, List.erase_of_not_mem missing]

theorem length_erase_present (found : table.lookup reqId = some q) :
    (table.erase reqId).keys.length + 1 = table.keys.length := by
  have present := mem_keys_of_lookup found
  have some_key := List.length_pos_of_mem present
  rw [AList.keys_erase, List.length_erase_of_mem present]
  omega

theorem length_insert_present (found : table.lookup reqId = some q) :
    (table.insert reqId p).keys.length = table.keys.length := by
  rw [AList.keys_insert, List.length_cons, ← AList.keys_erase]
  exact length_erase_present found

end Table

/-- What stands behind the account: nothing waits to be sent again, every entry has
met as many expirations as it has retries, and numbers are used once. -/
structure Books (a : Audit κ) : Prop where
  account : Accounted a
  quiet : a.router.resends = []
  worded : ∀ reqId p, a.router.pending.lookup reqId = some p → Worded p.requestJson
  own : ∀ reqId p, a.router.pending.lookup reqId = some p → (a.met p.serial : Int) = p.retries
  numbered : ∀ reqId p, a.router.pending.lookup reqId = some p → p.serial < a.router.serials
  unique : ∀ reqId p id q, a.router.pending.lookup reqId = some p →
    a.router.pending.lookup id = some q → p.serial = q.serial → reqId = id
  recorded : ∀ reqId t, .entered reqId t ∈ a.effects → t.serial < a.router.serials
  unused : ∀ serial, a.router.serials ≤ serial →
    a.met serial = 0 ∧ fulfilments serial a.effects = 0

namespace Books

theorem start (handlers : List String) : Books (Audit.start (κ := κ) handlers) := by
  refine ⟨⟨rfl, Nat.le_refl _, rfl, ?_, ?_, ?_, ?_⟩, rfl, ?_, ?_, ?_, ?_, ?_, fun _ _ => ⟨rfl, rfl⟩⟩ <;>
    intros <;> simp_all [Audit.start, Audit.router, Audit.effects]

variable {a : Audit κ} {r' : DBmwRouter κ} {effects : List (Effect κ)}

/-- The books after a step. -/
def after (a : Audit κ) (r' : DBmwRouter κ) (effects : List (Effect κ)) (expired : Option Nat) :
    Audit κ :=
  ⟨⟨r', a.effects ++ effects⟩, Audit.meet a.met expired⟩

/-- What stands behind one entry of the table. -/
structure Standing (a : Audit κ) (p : Pending κ) : Prop where
  retries : p.retries ≤ max 0 p.maxRetries
  own : (a.met p.serial : Int) = p.retries
  unset : fulfilments p.serial a.effects = 0
  worded : Worded p.requestJson
  numbered : p.serial < a.router.serials

theorem standing (books : Books a) {reqId : String} {p : Pending κ}
    (found : a.router.pending.lookup reqId = some p) : Standing a p where
  retries := books.account.retries reqId p found
  own := books.own reqId p found
  unset := books.account.unset reqId p found
  worded := books.worded reqId p found
  numbered := books.numbered reqId p found

/-- A step that does not concern the entry. -/
theorem Standing.later {b : Audit κ} {p : Pending κ} (standing : Standing a p)
    (met : b.met p.serial = a.met p.serial)
    (promises : fulfilments p.serial b.effects = fulfilments p.serial a.effects)
    (serials : a.router.serials ≤ b.router.serials) : Standing b p where
  retries := standing.retries
  own := by rw [met, standing.own]
  unset := promises.trans standing.unset
  worded := standing.worded
  numbered := Nat.lt_of_lt_of_le standing.numbered serials

/-- The books, entry by entry. -/
theorem of_standing {b : Audit κ}
    (requests : b.requests =
      b.router.metrics.ok + b.router.metrics.failed + b.router.pending.keys.length)
    (timedOut : b.router.metrics.timedOut ≤ b.router.metrics.failed)
    (sent : b.router.metrics.sent = b.requests + b.router.metrics.retried)
    (set : ∀ reqId t, .entered reqId t ∈ b.effects → b.router.Gone t.serial →
      fulfilments t.serial b.effects = 1)
    (quiet : b.router.resends = [])
    (standing : ∀ reqId p, b.router.pending.lookup reqId = some p → Standing b p)
    (unique : ∀ reqId p id q, b.router.pending.lookup reqId = some p →
      b.router.pending.lookup id = some q → p.serial = q.serial → reqId = id)
    (recorded : ∀ reqId t, .entered reqId t ∈ b.effects → t.serial < b.router.serials)
    (unused : ∀ serial, b.router.serials ≤ serial →
      b.met serial = 0 ∧ fulfilments serial b.effects = 0) : Books b where
  account := {
    requests
    timedOut
    sent
    retries := fun reqId p found => (standing reqId p found).retries
    expirations := fun reqId p found => by
      rw [(standing reqId p found).own]
      exact (standing reqId p found).retries
    unset := fun reqId p found => (standing reqId p found).unset
    set }
  quiet
  worded := fun reqId p found => (standing reqId p found).worded
  own := fun reqId p found => (standing reqId p found).own
  numbered := fun reqId p found => (standing reqId p found).numbered
  unique
  recorded
  unused

theorem idle (books : Books a) (pending : r'.pending = a.router.pending)
    (metrics : r'.metrics = a.router.metrics) (serials : r'.serials = a.router.serials)
    (resends : r'.resends = a.router.resends) (silent : Silent effects) :
    Books (after a r' effects none) := by
  obtain ⟨entries, fulfils⟩ := silent.counts
  have requests : (after a r' effects none).requests = a.requests := by
    simp [Audit.requests, after, Audit.effects, List.countP_append, entries]
  have promises (serial : Nat) :
      fulfilments serial (after a r' effects none).effects = fulfilments serial a.effects := by
    show fulfilments serial (a.effects ++ effects) = _
    rw [fulfilments_append, fulfils, Nat.add_zero]
  have entered {reqId : String} {t : Ticket κ}
      (member : .entered reqId t ∈ (after a r' effects none).effects) :
      .entered reqId t ∈ a.effects :=
    (List.mem_append.mp member).resolve_right silent.no_entry
  have router : (after a r' effects none).router = r' := rfl
  have met : (after a r' effects none).met = a.met := rfl
  refine of_standing ?_ ?_ ?_ ?_ ?_ ?_ ?_ ?_ ?_
  all_goals
    simp only [router, met, requests, promises, pending, metrics, serials, resends,
      DBmwRouter.Gone]
  · exact books.account.requests
  · exact books.account.timedOut
  · exact books.account.sent
  · exact fun reqId t member => books.account.set reqId t (entered member)
  · exact books.quiet
  · exact fun reqId p found =>
      (books.standing found).later rfl (promises _) (Nat.le_of_eq serials.symm)
  · exact books.unique
  · exact fun reqId t member => books.recorded reqId t (entered member)
  · exact books.unused

/-- A request entered under an unused number. -/
theorem enter (books : Books a) {reqId : String} {p : Pending κ}
    (absent : a.router.pending.lookup reqId = none) (number : p.serial = a.router.serials)
    (unretried : p.retries = 0) (worded : Worded p.requestJson)
    (pending : r'.pending = a.router.pending.insert reqId p)
    (metrics : r'.metrics = { a.router.metrics with sent := a.router.metrics.sent + 1 })
    (serials : r'.serials = a.router.serials + 1) (resends : r'.resends = a.router.resends)
    (silent : Silent effects) : Books (after a r' (.entered reqId p.ticket :: effects) none) := by
  obtain ⟨entries, fulfils⟩ := silent.counts
  set b := after a r' (.entered reqId p.ticket :: effects) none with b_eq
  have requests : b.requests = a.requests + 1 := by
    simp [b_eq, Audit.requests, after, Audit.effects, List.countP_append, List.countP_cons,
      entries, Effect.isEntry]
  have promises (serial : Nat) : fulfilments serial b.effects = fulfilments serial a.effects := by
    show fulfilments serial (a.effects ++ (.entered reqId p.ticket :: effects)) = _
    rw [fulfilments_append, fulfilments_entered, fulfils, Nat.add_zero]
  have entered {id : String} {t : Ticket κ} (member : .entered id t ∈ b.effects) :
      .entered id t ∈ a.effects ∨ (id = reqId ∧ t = p.ticket) := by
    rcases List.mem_append.mp member with earlier | new
    · exact .inl earlier
    · rcases List.mem_cons.mp new with same | other
      · cases same
        exact .inr ⟨rfl, rfl⟩
      · exact absurd other silent.no_entry
  have router : b.router = r' := rfl
  have met : b.met = a.met := rfl
  have found {id : String} {q : Pending κ} (found : r'.pending.lookup id = some q) :
      (id = reqId ∧ q = p) ∨ (id ≠ reqId ∧ a.router.pending.lookup id = some q) := by
    rw [pending] at found
    exact lookup_insert_some found
  have fresh := books.unused a.router.serials (Nat.le_refl _)
  refine of_standing ?_ ?_ ?_ ?_ ?_ ?_ ?_ ?_ ?_
  all_goals simp only [router, met, requests, promises, metrics, serials, resends]
  · rw [pending, length_insert_absent absent, books.account.requests]
    omega
  · exact books.account.timedOut
  · rw [books.account.sent]
    omega
  · intro id t member gone
    rcases entered member with earlier | ⟨rfl, rfl⟩
    · refine books.account.set id t earlier fun id' q there => ?_
      have elsewhere : id' ≠ reqId := by
        rintro rfl
        rw [absent] at there
        cases there
      exact gone id' q (by rw [pending, AList.lookup_insert_ne elsewhere, there])
    · exact absurd rfl (gone id p (by rw [pending, AList.lookup_insert]))
  · exact books.quiet
  · intro id q here
    have more : a.router.serials ≤ b.router.serials := by
      rw [router, serials]
      exact Nat.le_succ _
    rcases found here with ⟨-, rfl⟩ | ⟨-, there⟩
    · refine ⟨?_, ?_, ?_, worded, ?_⟩
      · rw [unretried]
        exact Int.le_max_left _ _
      · rw [met, number, fresh.1, unretried]
        rfl
      · rw [promises, number, fresh.2]
      · rw [router, serials]
        omega
    · exact (books.standing there).later rfl (promises _) more
  · intro id q id' q' here here' same
    rcases found here with ⟨rfl, rfl⟩ | ⟨-, there⟩ <;>
      rcases found here' with ⟨rfl, rfl⟩ | ⟨-, there'⟩
    · rfl
    · have := books.numbered id' q' there'
      omega
    · have := books.numbered id q there
      omega
    · exact books.unique id q id' q' there there' same
  · intro id t member
    rcases entered member with earlier | ⟨-, rfl⟩
    · have := books.recorded id t earlier
      omega
    · show p.serial < _
      omega
  · intro serial above
    exact books.unused serial (by omega)

/-- An expiration that spends a retry. -/
theorem retry (books : Books a) {reqId : String} {p : Pending κ}
    (present : a.router.pending.lookup reqId = some p) (left : p.retries < p.maxRetries)
    (pending : r'.pending = a.router.pending.insert reqId { p with retries := p.retries + 1 })
    (metrics : r'.metrics = { a.router.metrics with
      sent := a.router.metrics.sent + 1, retried := a.router.metrics.retried + 1 })
    (serials : r'.serials = a.router.serials) (resends : r'.resends = a.router.resends)
    (silent : Silent effects) : Books (after a r' effects (some p.serial)) := by
  obtain ⟨entries, fulfils⟩ := silent.counts
  set b := after a r' effects (some p.serial) with b_eq
  have requests : b.requests = a.requests := by
    simp [b_eq, Audit.requests, after, Audit.effects, List.countP_append, entries]
  have promises (serial : Nat) : fulfilments serial b.effects = fulfilments serial a.effects := by
    show fulfilments serial (a.effects ++ effects) = _
    rw [fulfilments_append, fulfils, Nat.add_zero]
  have entered {id : String} {t : Ticket κ} (member : .entered id t ∈ b.effects) :
      .entered id t ∈ a.effects :=
    (List.mem_append.mp member).resolve_right silent.no_entry
  have router : b.router = r' := rfl
  have spent : b.met p.serial = a.met p.serial + 1 := Function.update_self ..
  have spared {serial : Nat} (other : serial ≠ p.serial) : b.met serial = a.met serial :=
    Function.update_of_ne other ..
  have found {id : String} {q : Pending κ} (found : r'.pending.lookup id = some q) :
      (id = reqId ∧ q = { p with retries := p.retries + 1 }) ∨
        (q.serial ≠ p.serial ∧ a.router.pending.lookup id = some q) := by
    rw [pending] at found
    refine (lookup_insert_some found).imp_right fun ⟨elsewhere, there⟩ => ⟨fun same => ?_, there⟩
    exact elsewhere (books.unique _ _ _ _ there present same)
  have before := books.standing present
  refine of_standing ?_ ?_ ?_ ?_ ?_ ?_ ?_ ?_ ?_
  all_goals simp only [router, requests, promises, metrics, serials, resends]
  · rw [pending, length_insert_present present, books.account.requests]
  · exact books.account.timedOut
  · rw [books.account.sent]
    omega
  · intro id t member gone
    refine books.account.set id t (entered member) fun id' q there => ?_
    by_cases here : id' = reqId
    · subst here
      cases present.symm.trans there
      exact gone id' { p with retries := p.retries + 1 } (by rw [pending, AList.lookup_insert])
    · exact gone id' q (by rw [pending, AList.lookup_insert_ne here, there])
  · exact books.quiet
  · intro id q here
    have kept : a.router.serials ≤ b.router.serials := Nat.le_of_eq serials.symm
    rcases found here with ⟨-, rfl⟩ | ⟨other, there⟩
    · refine ⟨?_, ?_, (promises _).trans before.unset, before.worded,
        Nat.lt_of_lt_of_le before.numbered kept⟩
      · show p.retries + 1 ≤ max 0 p.maxRetries
        omega
      · have own := before.own
        rw [spent]
        show ((a.met p.serial + 1 : Nat) : Int) = p.retries + 1
        omega
    · exact (books.standing there).later (spared other) (promises _) kept
  · intro id q id' q' here here' same
    rcases found here with ⟨rfl, rfl⟩ | ⟨other, there⟩ <;>
      rcases found here' with ⟨rfl, rfl⟩ | ⟨other', there'⟩
    · rfl
    · exact absurd same.symm other'
    · exact absurd same other
    · exact books.unique id q id' q' there there' same
  · exact fun id t member => books.recorded id t (entered member)
  · intro serial above
    have other : serial ≠ p.serial := by
      have := before.numbered
      omega
    rw [spared other]
    exact books.unused serial above

/-- An entry that leaves, answered or given up. -/
theorem finish (books : Books a) {reqId : String} {p : Pending κ} (result : Json)
    (success late : Bool) (present : a.router.pending.lookup reqId = some p)
    (failure : late = true → success = false)
    (pending : r'.pending = a.router.pending.erase reqId)
    (metrics : r'.metrics = { a.router.metrics with
      ok := a.router.metrics.ok + (if success then 1 else 0)
      failed := a.router.metrics.failed + (if success then 0 else 1)
      timedOut := a.router.metrics.timedOut + (if late then 1 else 0) })
    (serials : r'.serials = a.router.serials) (resends : r'.resends = a.router.resends)
    (silent : Silent effects) :
    Books (after a r' (.fulfil p.serial result :: effects)
      (if late then some p.serial else none)) := by
  obtain ⟨entries, fulfils⟩ := silent.counts
  set b := after a r' (.fulfil p.serial result :: effects) (if late then some p.serial else none)
    with b_eq
  have requests : b.requests = a.requests := by
    simp [b_eq, Audit.requests, after, Audit.effects, List.countP_append, entries, Effect.isEntry]
  have promises (serial : Nat) : fulfilments serial b.effects =
      fulfilments serial a.effects + (if p.serial = serial then 1 else 0) := by
    show fulfilments serial (a.effects ++ (.fulfil p.serial result :: effects)) = _
    rw [fulfilments_append, fulfilments_fulfil, fulfils, Nat.zero_add]
  have unpaid {serial : Nat} (other : serial ≠ p.serial) :
      fulfilments serial b.effects = fulfilments serial a.effects := by
    rw [promises, if_neg (Ne.symm other), Nat.add_zero]
  have entered {id : String} {t : Ticket κ} (member : .entered id t ∈ b.effects) :
      .entered id t ∈ a.effects := by
    refine (List.mem_append.mp member).resolve_right fun new => ?_
    rcases List.mem_cons.mp new with same | other
    · cases same
    · exact silent.no_entry other
  have router : b.router = r' := rfl
  have spared {serial : Nat} (other : serial ≠ p.serial) : b.met serial = a.met serial := by
    cases late with
    | false => rfl
    | true => exact Function.update_of_ne other ..
  have found {id : String} {q : Pending κ} (found : r'.pending.lookup id = some q) :
      q.serial ≠ p.serial ∧ a.router.pending.lookup id = some q := by
    rw [pending] at found
    obtain ⟨elsewhere, there⟩ := lookup_erase_some found
    exact ⟨fun same => elsewhere (books.unique _ _ _ _ there present same), there⟩
  refine of_standing ?_ ?_ ?_ ?_ ?_ ?_ ?_ ?_ ?_
  all_goals simp only [router, requests, metrics, serials, resends]
  · have fewer := length_erase_present present
    have balance := books.account.requests
    rw [pending]
    split <;> omega
  · have before := books.account.timedOut
    cases late with
    | true =>
        rw [failure rfl]
        exact Nat.succ_le_succ before
    | false => exact Nat.le_trans before (Nat.le_add_right _ _)
  · exact books.account.sent
  · intro id t member gone
    by_cases self : p.serial = t.serial
    · rw [promises, if_pos self, ← self, books.account.unset reqId p present]
    · rw [unpaid (Ne.symm self)]
      refine books.account.set id t (entered member) fun id' q there same => ?_
      have elsewhere : id' ≠ reqId := by
        rintro rfl
        cases present.symm.trans there
        exact self same
      exact gone id' q (by rw [pending, AList.lookup_erase_ne elsewhere, there]) same
  · exact books.quiet
  · intro id q here
    obtain ⟨other, there⟩ := found here
    exact (books.standing there).later (spared other) (unpaid other) (Nat.le_of_eq serials.symm)
  · exact fun id q id' q' here here' =>
      books.unique id q id' q' (found here).2 (found here').2
  · exact fun id t member => books.recorded id t (entered member)
  · intro serial above
    have other : serial ≠ p.serial := by
      have := books.numbered reqId p present
      omega
    rw [spared other, unpaid other]
    exact books.unused serial above

/-- **A turn keeps the books.** -/
theorem turn (books : Books a) {expired : Option Nat}
    (turn : Turn a.router expired r' effects) : Books (after a r' effects expired) := by
  cases turn with
  | idle pending metrics serials resends silent =>
      exact books.idle pending metrics serials resends silent
  | enter reqId p absent number unretried worded pending metrics serials resends silent =>
      exact books.enter absent number unretried worded pending metrics serials resends silent
  | retry reqId p found left pending metrics serials resends silent =>
      exact books.retry found left pending metrics serials resends silent
  | finish reqId p result success late found failure pending metrics serials resends silent =>
      exact books.finish result success late found failure pending metrics serials resends silent

theorem step (books : Books a) {e : StrandRun × RouterEvent κ} (regular : a.router.Regular e) :
    Books (a.step e) :=
  books.turn (routerStep_turn books.quiet books.worded regular)

end Books

/-- **The account of the request table balances** in every state of a run whose
requests draw an unused id and have a text for an `"api"`. -/
theorem accounted (handlers : List String) {events : List (StrandRun × RouterEvent κ)}
    (regular : Along Audit.step (fun a e => a.router.Regular e) (Audit.start handlers) events) :
    Accounted (run Audit.step (Audit.start handlers) events) := by
  have preserved : ∀ (a : Audit κ) e, Books a → a.router.Regular e → Books (a.step e) :=
    fun a e books regular => books.step regular
  exact (run_invariant preserved (Books.start handlers) regular).account

/-- A request with one retry, given up at its second expiration and answered then. -/
def givenUp : List (StrandRun × RouterEvent Nat) :=
  [({}, .setSenders true true),
    ({}, .sendRequest "get_user_profile" (.obj [("nickname", .str "kim")]) false 3000 1 7),
    ({}, .expire "7_1"), ({}, .expire "7_1"),
    ({}, .response (.obj [("type", .str "db_query_result"), ("req_id", .str "7_1")]))]

theorem accounted_once : Accounted (run Audit.step (Audit.start []) givenUp) :=
  accounted [] (by decide +kernel)

/-- A request whose payload has a number for an `"api"`, and its next half second. -/
def renamed : List (StrandRun × RouterEvent Nat) :=
  [({}, .setSenders true true),
    ({}, .sendRequest "get_user_profile" (.obj [("api", .number 5)]) false 3000 1 7),
    ({}, .resend "7_1" false)]

/-- **One request, no retry, two sends**: the log line behind the first throws. -/
theorem send_counted_twice :
    ¬ ∀ (handlers : List String) (events : List (StrandRun × RouterEvent Nat)),
      (∀ e ∈ events, e.1.senderThrows = false) →
        Accounted (run Audit.step (Audit.start handlers) events) := by
  intro always
  have sent := (always [] renamed (by decide)).sent
  revert sent
  decide +kernel

end GameServer.Dbmw
