/-
# Dbmw.Callbacks -- which requests hear of their end

A callback-mode entry leaves the table in two ways.  A response calls `on_ok` or
`on_error`; an expiration with no retry left erases the entry, fulfils a promise
nobody holds and calls neither.

* `routerStep_change` -- what a step can do to the table, effects included;
* `routerStep_change_called`, `routerStep_dropped` -- when a removal notifies;
* `settled_iff` -- after every step of a run each request that has left has had
  exactly one of its callbacks called, exactly once, if and only if no
  expiration met a callback entry without a retry and no response met one
  without the callback it calls for;
* `timeout_unsettled` -- two retries and a third expiration, and nobody is told.
-/
import GameServer.Dbmw.Router
import GameServer.Theory.Runs
import Mathlib.Data.List.Induction

namespace GameServer.Dbmw

set_option autoImplicit false

open Wire Theory.Runs

universe u

variable {κ : Type u}

/-! ## What is asked of a run -/

def Ticket.callback (t : Ticket κ) : Callback → Option κ
  | .onOk => t.onOk
  | .onError => t.onError

/-- What entitles a request to the call it gets. -/
def Warranted (reqId : String) : Callback → Json → Prop
  | .onOk, j => j.valueStr "type" "" = .ok DBmwRouter.okType ∧ j.valueStr "req_id" "" = .ok reqId
  | .onError, j =>
      (∃ type ∈ DBmwRouter.errorTypes,
        j.valueStr "type" "" = .ok type ∧ j.valueStr "req_id" "" = .ok reqId) ∨
      j = DBmwRouter.timeoutError reqId

def Effect.isCallOf (serial : Nat) : Effect κ → Bool
  | .call k _ _ _ => k == serial
  | _ => false

/-- The calls of a request's callbacks, in order. -/
def callsOf (serial : Nat) (effects : List (Effect κ)) : List (Effect κ) :=
  effects.filter (Effect.isCallOf serial)

/-- Every callback-mode request that was entered and is no longer in the table
had one of its callbacks called, once, and for cause. -/
def Settled (h : History κ) : Prop :=
  ∀ reqId ticket, .entered reqId ticket ∈ h.effects → ticket.useCallbacks = true →
    (∀ id p, h.router.pending.lookup id = some p → p.serial ≠ ticket.serial) →
    ∃ which callback response,
      callsOf ticket.serial h.effects = [.call ticket.serial which callback response] ∧
      ticket.callback which = some callback ∧ Warranted reqId which response

/-- The steps that leave nobody untold: an expiration meets a callback entry only
while it has a retry, and a response meets it only with the callback it calls for. -/
def Notifying (h : History κ) : StrandRun × RouterEvent κ → Prop
  | (_, .expire reqId) =>
      ∀ p, h.router.pending.lookup reqId = some p → p.useCallbacks = true →
        p.retries < p.maxRetries
  | (_, .response j) =>
      ∀ type reqId p, j.valueStr "type" "" = .ok type →
        (type = DBmwRouter.okType ∨ type ∈ DBmwRouter.errorTypes) →
        j.valueStr "req_id" "" = .ok reqId → reqId ≠ "" →
        h.router.pending.lookup reqId = some p → p.useCallbacks = true →
        (p.ticket.callback (if type = DBmwRouter.okType then .onOk else .onError)).isSome = true
  | _ => True

/-! ## What a step can do -/

namespace DBmwRouter

/-- The table, as far as no retry changes it. -/
def table (r : DBmwRouter κ) (reqId : String) : Option (Ticket κ) :=
  (r.pending.lookup reqId).map Pending.ticket

theorem table_eq_some {r : DBmwRouter κ} {reqId : String} {t : Ticket κ} :
    r.table reqId = some t ↔ ∃ p, r.pending.lookup reqId = some p ∧ p.ticket = t := by
  simp [table]

theorem table_eq_none {r : DBmwRouter κ} {reqId : String} :
    r.table reqId = none ↔ r.pending.lookup reqId = none := by
  simp [table]

end DBmwRouter

/-- Entries and calls, the effects the ledger is about. -/
def Effect.isRecord : Effect κ → Bool
  | .entered _ _ => true
  | .call _ _ _ _ => true
  | _ => false

def records (effects : List (Effect κ)) : List (Effect κ) := effects.filter Effect.isRecord

@[simp] theorem records_append (a b : List (Effect κ)) :
    records (a ++ b) = records a ++ records b := List.filter_append ..

/-- What a removal tells: nothing, or one call of the entry's own callback. -/
def Told (reqId : String) (t : Ticket κ) (called : List (Effect κ)) : Prop :=
  called = [] ∨ t.useCallbacks = true ∧ ∃ which callback response,
    t.callback which = some callback ∧ Warranted reqId which response ∧
      called = [.call t.serial which callback response]

/-- One step of the table: nothing, an entry under a new number, or a removal.
Where `notify` holds, the removal of a callback entry tells. -/
inductive Change (notify : Prop) (r : DBmwRouter κ) : DBmwRouter κ → List (Effect κ) → Prop where
  | quiet {r' : DBmwRouter κ} (same : r'.table = r.table) (numbers : r.serials ≤ r'.serials) :
      Change notify r r' []
  | enter {r' : DBmwRouter κ} (reqId : String) (t : Ticket κ) (absent : r.table reqId = none)
      (number : t.serial = r.serials) (numbers : r'.serials = r.serials + 1)
      (table : r'.table = Function.update r.table reqId (some t)) :
      Change notify r r' [.entered reqId t]
  | leave {r' : DBmwRouter κ} (reqId : String) (t : Ticket κ) (called : List (Effect κ))
      (present : r.table reqId = some t) (numbers : r'.serials = r.serials)
      (table : r'.table = Function.update r.table reqId none) (told : Told reqId t called)
      (heard : notify → t.useCallbacks = true → called ≠ []) :
      Change notify r r' called

/-- A change starts from the table and the next number, and from nothing else. -/
theorem Change.congr {notify : Prop} {r₀ r r' : DBmwRouter κ} {told : List (Effect κ)}
    (change : Change notify r₀ r' told) (table : r₀.table = r.table)
    (serials : r₀.serials = r.serials) : Change notify r r' told := by
  cases change with
  | quiet same numbers => exact .quiet (same.trans table) (serials ▸ numbers)
  | enter reqId t absent number numbers update =>
      exact .enter reqId t (table ▸ absent) (serials ▸ number) (serials ▸ numbers) (table ▸ update)
  | leave reqId t called present numbers update told heard =>
      exact .leave reqId t _ (table ▸ present) (serials ▸ numbers) (table ▸ update) told heard

namespace DBmwRouter

theorem table_of_pending_eq {r r' : DBmwRouter κ} (same : r'.pending = r.pending) :
    r'.table = r.table := by
  funext id
  simp only [table, same]

/-- Sending changes no entry and records nothing. -/
theorem sendNowLocked_quiet (ctx : StrandRun) (reqId : String) (r : DBmwRouter κ) :
    (r.sendNowLocked ctx reqId).1.pending = r.pending ∧
      (r.sendNowLocked ctx reqId).1.serials = r.serials ∧
      records (r.sendNowLocked ctx reqId).2 = [] := by
  obtain ⟨sent, resends, effects, done, sends⟩ := r.sendNowLocked_eq ctx reqId
  rw [done]
  refine ⟨rfl, rfl, ?_⟩
  refine List.filter_eq_nil_iff.mpr fun effect member => ?_
  obtain ⟨secure, request, rfl⟩ := sends effect member
  simp [Effect.isRecord]

theorem fulfillAndEraseLocked_present {r : DBmwRouter κ} {reqId : String} {p : Pending κ}
    (found : r.pending.lookup reqId = some p) (result : Json) (success : Bool) :
    (r.fulfillAndEraseLocked reqId result success).1.table =
        Function.update r.table reqId none ∧
      (r.fulfillAndEraseLocked reqId result success).1.serials = r.serials ∧
      records (r.fulfillAndEraseLocked reqId result success).2 = [] := by
  unfold fulfillAndEraseLocked
  rw [found]
  refine ⟨?_, rfl, rfl⟩
  funext id
  by_cases same : id = reqId
  · subst same
    simp [table]
  · simp [table, same, AList.lookup_erase_ne same]

/-- An entry made under the next number, or a table the id was in already. -/
theorem enter_change {notify : Prop} (ctx : StrandRun) (reqId : String) (p : Pending κ)
    (r : DBmwRouter κ) :
    Change notify r (r.enter ctx reqId p).1 (records (r.enter ctx reqId p).2) := by
  unfold enter emplace
  cases found : r.pending.lookup reqId with
  | some old =>
      obtain ⟨pending, serials, silent⟩ :=
        sendNowLocked_quiet ctx reqId { r with serials := r.serials + 1 }
      simp only [List.nil_append, silent]
      exact .quiet (table_of_pending_eq pending) (by rw [serials]; exact Nat.le_succ _)
  | none =>
      obtain ⟨pending, serials, silent⟩ :=
        sendNowLocked_quiet ctx reqId
          { r with
            serials := r.serials + 1
            pending := r.pending.insert reqId { p with serial := r.serials } }
      simp only [records_append, silent, List.append_nil]
      refine .enter reqId _ (table_eq_none.mpr found) rfl serials ?_
      funext id
      by_cases same : id = reqId
      · subst same
        simp [table, pending]
      · simp [table, pending, same, AList.lookup_insert_ne same]

/-- With the callback it calls for, a response notifies the entry it removes. -/
theorem answer_told {r : DBmwRouter κ} {reqId : String} {p : Pending κ} (j : Json) (type : String)
    (found : r.pending.lookup reqId = some p) (callbacks : p.useCallbacks = true) :
    records (r.answer reqId j type).2 =
      ((p.ticket.callback (if type = okType then .onOk else .onError)).map fun callback =>
        Effect.call p.serial (if type = okType then .onOk else .onError) callback j).toList := by
  obtain ⟨-, -, silent⟩ := fulfillAndEraseLocked_present found j (type == okType)
  unfold answer
  simp only [found, callbacks, if_true, records_append, silent, List.nil_append]
  by_cases ok : type = okType
  · cases given : p.onOk <;>
      simp [ok, given, records, Effect.isRecord, Ticket.callback, Pending.ticket]
  · cases given : p.onError <;>
      simp [ok, given, records, Effect.isRecord, Ticket.callback, Pending.ticket]

/-- A response erases the entry it names. -/
theorem answer_erases {r : DBmwRouter κ} {reqId : String} {p : Pending κ} (j : Json) (type : String)
    (found : r.pending.lookup reqId = some p) :
    (r.answer reqId j type).1.table = Function.update r.table reqId none ∧
      (r.answer reqId j type).1.serials = r.serials ∧
      (p.useCallbacks = false → records (r.answer reqId j type).2 = []) := by
  obtain ⟨table, serials, silent⟩ := fulfillAndEraseLocked_present found j (type == okType)
  unfold answer
  cases callbacks : p.useCallbacks with
  | false =>
      simp only [found, callbacks, Bool.false_eq_true, if_false]
      exact ⟨table, serials, fun _ => silent⟩
  | true =>
      simp only [found, callbacks, if_true]
      exact ⟨table, serials, fun absurd => by cases absurd⟩

theorem answer_change {notify : Prop} {j : Json} {reqId type : String}
    (addressed : Addressed j type reqId) (r : DBmwRouter κ)
    (heard : notify → ∀ p, r.pending.lookup reqId = some p → p.useCallbacks = true →
      (p.ticket.callback (if type = okType then .onOk else .onError)).isSome = true) :
    Change notify r (r.answer reqId j type).1 (records (r.answer reqId j type).2) := by
  obtain ⟨typed, known, named, -⟩ := addressed
  cases found : r.pending.lookup reqId with
  | none =>
      have untouched : r.answer reqId j type = (r, []) := by simp [answer, found]
      rw [untouched]
      exact .quiet rfl (Nat.le_refl _)
  | some p =>
      obtain ⟨table, serials, silent⟩ := answer_erases j type found
      have present : r.table reqId = some p.ticket := table_eq_some.mpr ⟨p, found, rfl⟩
      cases callbacks : p.useCallbacks with
      | false =>
          refine .leave reqId p.ticket _ present serials table (.inl (silent callbacks)) ?_
          intro _ mode
          simp [Pending.ticket, callbacks] at mode
      | true =>
          have told := answer_told j type found callbacks
          refine .leave reqId p.ticket _ present serials table ?_ fun notifying _ => ?_
          · rw [told]
            cases given : p.ticket.callback (if type = okType then .onOk else .onError) with
            | none => exact .inl rfl
            | some callback =>
                refine .inr ⟨callbacks, _, callback, j, given, ?_, rfl⟩
                by_cases ok : type = okType
                · rw [if_pos ok]
                  exact ⟨ok ▸ typed, named⟩
                · rw [if_neg ok]
                  exact .inl ⟨type, known.resolve_left ok, typed, named⟩
          · obtain ⟨callback, given⟩ :=
              Option.isSome_iff_exists.mp (heard notifying p found callbacks)
            rw [told, given]
            exact List.cons_ne_nil _ _

theorem handle_change {notify : Prop} (j : Json) (r : DBmwRouter κ)
    (heard : notify → ∀ type reqId p, Addressed j type reqId →
      r.pending.lookup reqId = some p → p.useCallbacks = true →
      (p.ticket.callback (if type = okType then .onOk else .onError)).isSome = true) :
    Change notify r (r.handle j).1 (records (r.handle j).2) := by
  have passed : ∀ type, Change notify r (r.passOn type j).1 (records (r.passOn type j).2) := by
    intro type
    have silent : records (r.passOn type j).2 = [] := by
      unfold passOn records
      split <;> rfl
    rw [silent]
    exact .quiet rfl (Nat.le_refl _)
  rcases r.handle_cases j with
    ⟨type, reqId, addressed, given⟩ | ⟨type, -, given⟩ | ⟨e, given⟩
  · rw [given]
    exact answer_change addressed r fun notifying p => heard notifying _ _ p addressed
  · rw [given]
    exact passed type
  · rw [given]
    exact .quiet rfl (Nat.le_refl _)

/-- Writing an entry again under its id keeps what no retry changes. -/
theorem table_insert {r : DBmwRouter κ} {reqId : String} {p q : Pending κ}
    (found : r.pending.lookup reqId = some p) (same : q.ticket = p.ticket) (id : String) :
    ((r.pending.insert reqId q).lookup id).map Pending.ticket = r.table id := by
  by_cases here : id = reqId
  · subst here
    simp [table, found, same]
  · simp [table, AList.lookup_insert_ne here]

theorem expire_change {notify : Prop} (ctx : StrandRun) (reqId : String) (r : DBmwRouter κ)
    (heard : notify → ∀ p, r.pending.lookup reqId = some p → p.useCallbacks = true →
      p.retries < p.maxRetries) :
    Change notify r (r.expire ctx reqId).1 (records (r.expire ctx reqId).2) := by
  unfold expire
  cases found : r.pending.lookup reqId with
  | none => exact .quiet rfl (Nat.le_refl _)
  | some p =>
      by_cases left : p.retries < p.maxRetries
      · simp only [if_pos left]
        obtain ⟨pending, serials, silent⟩ := sendNowLocked_quiet ctx reqId
          { r with
            pending := r.pending.insert reqId { p with retries := p.retries + 1 }
            metrics.retried := r.metrics.retried + 1 }
        rw [silent]
        refine .quiet ?_ (by rw [serials])
        funext id
        rw [table, pending]
        exact table_insert (q := { p with retries := p.retries + 1 }) found rfl id
      · simp only [if_neg left]
        have found' : ({ r with metrics.timedOut := r.metrics.timedOut + 1 } :
            DBmwRouter κ).pending.lookup reqId = some p := found
        obtain ⟨table, serials, silent⟩ :=
          fulfillAndEraseLocked_present found' (timeoutError reqId) false
        rw [silent]
        exact .leave reqId p.ticket _ (table_eq_some.mpr ⟨p, found, rfl⟩) serials table (.inl rfl)
          fun notifying callbacks => absurd (heard notifying p found callbacks) left

theorem resend_change {notify : Prop} (ctx : StrandRun) (reqId : String) (cancelled : Bool)
    (r : DBmwRouter κ) :
    Change notify r (r.resend ctx reqId cancelled).1 (records (r.resend ctx reqId cancelled).2) := by
  unfold resend
  by_cases waiting : reqId ∈ r.resends
  · simp only [if_pos waiting]
    by_cases stopped : cancelled = true
    · simp only [if_pos stopped]
      exact .quiet rfl (Nat.le_refl _)
    · simp only [if_neg stopped]
      obtain ⟨pending, serials, silent⟩ :=
        sendNowLocked_quiet ctx reqId { r with resends := r.resends.erase reqId }
      rw [silent]
      exact .quiet (table_of_pending_eq pending) (by rw [serials])
  · simp only [if_neg waiting]
    exact .quiet rfl (Nat.le_refl _)

end DBmwRouter

/-- **What a step can do to the table**, and what it then tells. -/
theorem routerStep_change (h : History κ) (e : StrandRun × RouterEvent κ) :
    Change (Notifying h e) h.router (routerStep e.1 h.router e.2).1
      (records (routerStep e.1 h.router e.2).2) := by
  obtain ⟨ctx, e⟩ := e
  cases e with
  | sendRequest api payload secure timeoutMs maxRetries sessionId =>
      simp only [routerStep, DBmwRouter.sendRequest]
      cases DBmwRouter.buildRequest api (h.router.makeReqId ctx sessionId).1 payload with
      | error e => exact .quiet rfl (Nat.le_refl _)
      | ok req =>
          exact (DBmwRouter.enter_change ctx _ _ (h.router.makeReqId ctx sessionId).2).congr rfl rfl
  | sendRequestCb api payload secure timeoutMs maxRetries sessionId onOk onError =>
      simp only [routerStep, DBmwRouter.sendRequestCb]
      cases DBmwRouter.buildRequest api (h.router.makeReqId ctx sessionId).1 payload with
      | error e => exact .quiet rfl (Nat.le_refl _)
      | ok req =>
          by_cases sender : (h.router.makeReqId ctx sessionId).2.hasSender secure = true
          · simp only [sender, if_true]
            exact (DBmwRouter.enter_change ctx _ _ (h.router.makeReqId ctx sessionId).2).congr rfl rfl
          · simp only [sender]
            cases onError with
            | none => exact .quiet rfl (Nat.le_refl _)
            | some callback => exact .quiet rfl (Nat.le_refl _)
  | response j =>
      exact DBmwRouter.handle_change j h.router fun notifying type reqId p addressed =>
        notifying type reqId p addressed.1 addressed.2.1 addressed.2.2.1 addressed.2.2.2
  | expire reqId => exact DBmwRouter.expire_change ctx reqId h.router fun notifying => notifying
  | resend reqId cancelled => exact DBmwRouter.resend_change ctx reqId cancelled h.router
  | setSenders sendJsonFn sendSecureJsonFn => exact .quiet rfl (Nat.le_refl _)

/-! ## Who is told -/

/-- A removal of a callback entry that calls nothing. -/
def Dropped (r r' : DBmwRouter κ) (told : List (Effect κ)) : Prop :=
  ∃ reqId t, r.table reqId = some t ∧ t.useCallbacks = true ∧
    r'.table = Function.update r.table reqId none ∧ told = []

theorem handle_eq_answer {j : Json} {type reqId : String} (addressed : Addressed j type reqId)
    (r : DBmwRouter κ) : r.handle j = r.answer reqId j type := by
  obtain ⟨typed, known, named, filled⟩ := addressed
  simp only [DBmwRouter.handle, typed, if_pos known, named, ne_eq, filled, not_false_iff, if_true]

/-- **A step that does not notify drops a request.** -/
theorem routerStep_dropped (h : History κ) (e : StrandRun × RouterEvent κ) :
    Notifying h e ∨
      Dropped h.router (routerStep e.1 h.router e.2).1 (records (routerStep e.1 h.router e.2).2) := by
  obtain ⟨ctx, e⟩ := e
  cases e with
  | sendRequest | sendRequestCb | resend | setSenders => exact .inl trivial
  | response j =>
      by_cases lacking : ∃ type reqId p, Addressed j type reqId ∧
          h.router.pending.lookup reqId = some p ∧ p.useCallbacks = true ∧
          p.ticket.callback (if type = DBmwRouter.okType then .onOk else .onError) = none
      · obtain ⟨type, reqId, p, addressed, found, callbacks, none⟩ := lacking
        refine .inr ⟨reqId, p.ticket, DBmwRouter.table_eq_some.mpr ⟨p, found, rfl⟩, callbacks, ?_, ?_⟩
        · simp only [routerStep, handle_eq_answer addressed]
          exact (DBmwRouter.answer_erases j type found).1
        · simp only [routerStep, handle_eq_answer addressed,
            DBmwRouter.answer_told j _ found callbacks, none, Option.map_none, Option.toList_none]
      · refine .inl fun type reqId p typed known named filled found callbacks => ?_
        rw [Option.isSome_iff_ne_none]
        intro none
        exact lacking ⟨type, reqId, p, ⟨typed, known, named, filled⟩, found, callbacks, none⟩
  | expire reqId =>
      by_cases spent : ∃ p, h.router.pending.lookup reqId = some p ∧ p.useCallbacks = true ∧
          ¬ p.retries < p.maxRetries
      · obtain ⟨p, found, callbacks, spent⟩ := spent
        have found' : ({ h.router with metrics.timedOut := h.router.metrics.timedOut + 1 } :
            DBmwRouter κ).pending.lookup reqId = some p := found
        obtain ⟨table, -, silent⟩ := DBmwRouter.fulfillAndEraseLocked_present found'
          (DBmwRouter.timeoutError reqId) false
        refine .inr ⟨reqId, p.ticket, DBmwRouter.table_eq_some.mpr ⟨p, found, rfl⟩, callbacks, ?_, ?_⟩
        · simp only [routerStep, DBmwRouter.expire, found, if_neg spent]
          exact table
        · simp only [routerStep, DBmwRouter.expire, found, if_neg spent]
          exact silent
      · refine .inl fun p found callbacks => ?_
        by_contra last
        exact spent ⟨p, found, callbacks, last⟩

/-! ## The ledger of a run -/

@[simp] theorem callsOf_append (k : Nat) (a b : List (Effect κ)) :
    callsOf k (a ++ b) = callsOf k a ++ callsOf k b := List.filter_append ..

theorem callsOf_records (k : Nat) (effects : List (Effect κ)) :
    callsOf k (records effects) = callsOf k effects := by
  rw [callsOf, records, List.filter_filter]
  refine List.filter_congr fun effect _ => ?_
  cases effect <;> simp [Effect.isCallOf, Effect.isRecord]

theorem entered_mem_records {reqId : String} {t : Ticket κ} {effects : List (Effect κ)} :
    .entered reqId t ∈ records effects ↔ .entered reqId t ∈ effects := by
  simp [records, Effect.isRecord]

theorem Told.no_entry {reqId id : String} {t t' : Ticket κ} {called : List (Effect κ)}
    (told : Told reqId t called) : .entered id t' ∉ called := by
  rcases told with rfl | ⟨-, which, callback, response, -, -, rfl⟩ <;> simp

theorem Told.calls_self {reqId : String} {t : Ticket κ} {called : List (Effect κ)}
    (told : Told reqId t called) : callsOf t.serial called = called := by
  rcases told with rfl | ⟨-, which, callback, response, -, -, rfl⟩
  · rfl
  · simp [callsOf, Effect.isCallOf]

theorem Told.calls_other {reqId : String} {t : Ticket κ} {called : List (Effect κ)}
    (told : Told reqId t called) {k : Nat} (other : k ≠ t.serial) : callsOf k called = [] := by
  rcases told with rfl | ⟨-, which, callback, response, -, -, rfl⟩
  · rfl
  · simp [callsOf, Effect.isCallOf, Ne.symm other]

/-- What the table of a run and its past effects know of each other. -/
structure Ledger (h : History κ) : Prop where
  known : ∀ {id t}, h.router.table id = some t → .entered id t ∈ h.effects
  unheard : ∀ {id t}, h.router.table id = some t → callsOf t.serial h.effects = []
  numbered : ∀ {id t}, .entered id t ∈ h.effects → t.serial < h.router.serials
  silent : ∀ {k}, h.router.serials ≤ k → callsOf k h.effects = []
  unique : ∀ {id t id' t'}, .entered id t ∈ h.effects → .entered id' t' ∈ h.effects →
    t.serial = t'.serial → id = id' ∧ t = t'

/-- A fresh router, with nothing in its table and nothing done. -/
def History.start (r : DBmwRouter κ) : History κ := { router := { r with pending := ∅, serials := 0 } }

theorem Ledger.start (r : DBmwRouter κ) : Ledger (History.start r) where
  known found := by simp [History.start, DBmwRouter.table] at found
  unheard found := by simp [History.start, DBmwRouter.table] at found
  numbered entered := by simp [History.start] at entered
  silent _ := rfl
  unique entered := by simp [History.start] at entered

/-- Two entries of the table with one number are one entry. -/
theorem Ledger.same_entry {h : History κ} (ledger : Ledger h) {id id' : String} {t t' : Ticket κ}
    (found : h.router.table id = some t) (found' : h.router.table id' = some t')
    (same : t.serial = t'.serial) : id = id' :=
  (ledger.unique (ledger.known found) (ledger.known found') same).1

theorem Ledger.change {notify : Prop} {h : History κ} {r' : DBmwRouter κ}
    {done told : List (Effect κ)} (ledger : Ledger h) (recorded : records done = told)
    (change : Change notify h.router r' told) : Ledger ⟨r', h.effects ++ done⟩ := by
  have entered : ∀ {id t}, .entered id t ∈ h.effects ++ done ↔
      .entered id t ∈ h.effects ∨ .entered id t ∈ told := by
    intro id t
    rw [List.mem_append, ← recorded, entered_mem_records]
  have calls : ∀ k, callsOf k (h.effects ++ done) = callsOf k h.effects ++ callsOf k told := by
    intro k
    rw [callsOf_append, ← recorded, callsOf_records]
  cases change with
  | quiet same numbers =>
      refine ⟨fun {id t} found => ?_, fun {id t} found => ?_, fun {id t} member => ?_,
        fun {k} above => ?_, fun {id t id' t'} left right => ?_⟩
      · exact entered.mpr (.inl (ledger.known (same ▸ found)))
      · rw [calls, ledger.unheard (same ▸ found)]
        rfl
      · have old := ledger.numbered ((entered.mp member).resolve_right (by simp))
        exact Nat.lt_of_lt_of_le old numbers
      · rw [calls, ledger.silent (Nat.le_trans numbers above)]
        rfl
      · exact ledger.unique ((entered.mp left).resolve_right (by simp))
          ((entered.mp right).resolve_right (by simp))
  | enter reqId ticket absent number numbers table =>
      have fresh : ∀ {id t}, .entered id t ∈ h.effects → t.serial ≠ ticket.serial := by
        intro id t member same
        have := ledger.numbered member
        omega
      refine ⟨fun {id t} found => ?_, fun {id t} found => ?_, fun {id t} member => ?_,
        fun {k} above => ?_, fun {id t id' t'} left right same => ?_⟩
      · simp only [table] at found
        by_cases here : id = reqId
        · subst here
          simp only [Function.update_self, Option.some.injEq] at found
          exact entered.mpr (.inr (by simp [found]))
        · rw [Function.update_of_ne here] at found
          exact entered.mpr (.inl (ledger.known found))
      · simp only [table] at found
        by_cases here : id = reqId
        · subst here
          simp only [Function.update_self, Option.some.injEq] at found
          rw [calls, ← found, ledger.silent (by omega)]
          rfl
        · rw [Function.update_of_ne here] at found
          rw [calls, ledger.unheard found]
          rfl
      · simp only at numbers ⊢
        rcases entered.mp member with old | new
        · have := ledger.numbered old
          omega
        · simp only [List.mem_singleton, Effect.entered.injEq] at new
          rw [new.2]
          omega
      · simp only at above
        rw [calls, ledger.silent (by omega)]
        rfl
      · rcases entered.mp left with left | left <;> rcases entered.mp right with right | right
        · exact ledger.unique left right same
        · simp only [List.mem_singleton, Effect.entered.injEq] at right
          exact absurd (right.2 ▸ same) (fresh left)
        · simp only [List.mem_singleton, Effect.entered.injEq] at left
          exact absurd (left.2 ▸ same).symm (fresh right)
        · simp only [List.mem_singleton, Effect.entered.injEq] at left right
          exact ⟨left.1.trans right.1.symm, left.2.trans right.2.symm⟩
  | leave reqId ticket called present numbers table told heard =>
      have found : ∀ {id t}, r'.table id = some t → id ≠ reqId ∧ h.router.table id = some t := by
        intro id t found
        rw [table] at found
        by_cases here : id = reqId
        · simp [here] at found
        · exact ⟨here, by rwa [Function.update_of_ne here] at found⟩
      refine ⟨fun {id t} kept => ?_, fun {id t} kept => ?_, fun {id t} member => ?_,
        fun {k} above => ?_, fun {id t id' t'} left right => ?_⟩
      · exact entered.mpr (.inl (ledger.known (found kept).2))
      · obtain ⟨elsewhere, kept⟩ := found kept
        have other : t.serial ≠ ticket.serial := fun same =>
          elsewhere (ledger.same_entry kept present same)
        rw [calls, ledger.unheard kept, told.calls_other other]
        rfl
      · have old := ledger.numbered ((entered.mp member).resolve_right told.no_entry)
        exact numbers ▸ old
      · simp only [numbers] at above
        have old := ledger.numbered (ledger.known present)
        rw [calls, ledger.silent above, told.calls_other (by omega)]
        rfl
      · exact ledger.unique ((entered.mp left).resolve_right told.no_entry)
          ((entered.mp right).resolve_right told.no_entry)

theorem Ledger.step {h : History κ} (ledger : Ledger h) (e : StrandRun × RouterEvent κ) :
    Ledger (h.step e) :=
  ledger.change rfl (routerStep_change h e)

/-- `Settled`, read off the table's tickets. -/
theorem settled_iff_table {h : History κ} :
    Settled h ↔ ∀ reqId ticket, .entered reqId ticket ∈ h.effects → ticket.useCallbacks = true →
      (∀ id t, h.router.table id = some t → t.serial ≠ ticket.serial) →
      ∃ which callback response,
        callsOf ticket.serial h.effects = [.call ticket.serial which callback response] ∧
        ticket.callback which = some callback ∧ Warranted reqId which response := by
  refine forall₂_congr fun reqId ticket => ?_
  have gone : (∀ id p, h.router.pending.lookup id = some p → p.serial ≠ ticket.serial) ↔
      ∀ id t, h.router.table id = some t → t.serial ≠ ticket.serial := by
    simp only [DBmwRouter.table_eq_some]
    exact ⟨fun all id t ⟨p, found, same⟩ => same ▸ all id p found,
      fun all id p found => all id p.ticket ⟨p, found, rfl⟩⟩
  rw [gone]

/-- A notifying step keeps everyone told. -/
theorem settled_step {h : History κ} (ledger : Ledger h) (settled : Settled h)
    {e : StrandRun × RouterEvent κ} (notifying : Notifying h e) : Settled (h.step e) := by
  rw [settled_iff_table] at settled ⊢
  intro reqId ticket member mode gone
  have change := routerStep_change h e
  generalize recorded : records (routerStep e.1 h.router e.2).2 = told at change
  have entered : .entered reqId ticket ∈ h.effects ∨ .entered reqId ticket ∈ told := by
    rw [← recorded, entered_mem_records]
    exact List.mem_append.mp member
  have calls : callsOf ticket.serial (h.step e).effects =
      callsOf ticket.serial h.effects ++ callsOf ticket.serial told := by
    rw [← recorded, callsOf_records]
    exact callsOf_append ..
  replace gone : ∀ id t, (routerStep e.1 h.router e.2).1.table id = some t →
      t.serial ≠ ticket.serial := gone
  rw [calls]
  generalize (routerStep e.1 h.router e.2).1 = r' at change gone
  cases change with
  | quiet same numbers =>
      rw [same] at gone
      have := settled reqId ticket (entered.resolve_right (by simp)) mode gone
      simpa [callsOf] using this
  | enter id t absent number numbers table =>
      rcases entered with old | new
      · have gone : ∀ id t, h.router.table id = some t → t.serial ≠ ticket.serial := by
          intro id' t' found
          refine gone id' t' ?_
          have elsewhere : id' ≠ id := fun here => by simp [here, absent] at found
          rw [table, Function.update_of_ne elsewhere, found]
        have := settled reqId ticket old mode gone
        simpa [callsOf, Effect.isCallOf] using this
      · simp only [List.mem_singleton, Effect.entered.injEq] at new
        exact absurd (congrArg Ticket.serial new.2.symm) (gone id t (by simp [table]))
  | leave id t called present numbers table tells heard =>
      have old := entered.resolve_right tells.no_entry
      by_cases self : t.serial = ticket.serial
      · -- the entry that leaves is the request's own
        obtain ⟨rfl, rfl⟩ := ledger.unique (ledger.known present) old self
        rw [ledger.unheard present, tells.calls_self, List.nil_append]
        rcases tells with none | ⟨-, which, callback, response, given, warranted, rfl⟩
        · exact absurd none (heard notifying mode)
        · exact ⟨which, callback, response, rfl, given, warranted⟩
      · rw [tells.calls_other (Ne.symm self), List.append_nil]
        refine settled reqId ticket old mode fun id' t' found same => ?_
        by_cases here : id' = id
        · subst here
          exact self (Option.some.inj (present.symm.trans found) ▸ same)
        · exact gone id' t' (by rw [table, Function.update_of_ne here, found]) same

/-- A dropped request is never told: the record of the run shows it at once. -/
theorem not_settled_of_dropped {h : History κ} (ledger : Ledger h) {e : StrandRun × RouterEvent κ}
    (dropped : Dropped h.router (routerStep e.1 h.router e.2).1
      (records (routerStep e.1 h.router e.2).2)) : ¬ Settled (h.step e) := by
  obtain ⟨reqId, t, present, mode, table, told⟩ := dropped
  intro settled
  rw [settled_iff_table] at settled
  have gone : ∀ id t', (h.step e).router.table id = some t' → t'.serial ≠ t.serial := by
    intro id t' found same
    change (routerStep e.1 h.router e.2).1.table id = some t' at found
    rw [table] at found
    by_cases here : id = reqId
    · simp [here] at found
    · rw [Function.update_of_ne here] at found
      exact here (ledger.same_entry found present same)
  obtain ⟨which, callback, response, calls, -⟩ :=
    settled reqId t (List.mem_append_left _ (ledger.known present)) mode gone
  have none : callsOf t.serial (h.step e).effects = [] := by
    change callsOf t.serial (h.effects ++ _) = []
    rw [callsOf_append, ledger.unheard present, ← callsOf_records, told]
    rfl
  rw [none] at calls
  cases calls

/-! ## Whole runs -/

/-- **Exactly one callback per request, exactly when nothing is dropped.**  In
every state a run reaches each callback-mode request that has left the table had
one of its callbacks called, once and for cause, if and only if every step of the
run was a notifying one. -/
theorem settled_iff (r : DBmwRouter κ) (events : List (StrandRun × RouterEvent κ)) :
    (∀ front, front <+: events → Settled (run History.step (History.start r) front)) ↔
      Along History.step Notifying (History.start r) events := by
  have preserved : ∀ (h : History κ) e, Ledger h → Ledger (h.step e) :=
    fun _ e ledger => ledger.step e
  have sharp : ∀ (h : History κ) e, Ledger h → Settled h →
      (Settled (h.step e) ↔ Notifying h e) := by
    intro h e ledger settled
    constructor
    · intro next
      refine (routerStep_dropped h e).resolve_right fun dropped => ?_
      exact not_settled_of_dropped ledger dropped next
    · exact settled_step ledger settled
  have fresh : Settled (History.start r) := by
    intro reqId ticket member
    simp [History.start] at member
  exact throughout_iff preserved sharp (Ledger.start r) fresh events

/-! ## The timeout that nobody hears of -/

/-- One request in callback mode with two retries, and three expirations. -/
def timeoutRun : List (StrandRun × RouterEvent Nat) :=
  [({}, .sendRequestCb "request_user_info" (.obj [("nickname", .str "kim")]) true 2500 2 7
      (some 0) (some 1)),
    ({}, .expire "7_1"), ({}, .expire "7_1"), ({}, .expire "7_1")]

def sendersSet : DBmwRouter Nat := { sendJsonFn := true, sendSecureJsonFn := true }

/-- **The request is entered, leaves after its last retry, and neither callback is
called.** -/
theorem timeout_unsettled :
    ¬ Settled (run History.step (History.start sendersSet) timeoutRun) := by
  intro settled
  have entered : (run History.step (History.start sendersSet) timeoutRun).effects.head? =
      some (.entered "7_1" ⟨0, some 0, some 1, true⟩) := rfl
  have left : (run History.step (History.start sendersSet) timeoutRun).router.pending.entries = [] :=
    rfl
  have uncalled : callsOf 0 (run History.step (History.start sendersSet) timeoutRun).effects = [] :=
    rfl
  have gone : ∀ id p, (run History.step (History.start sendersSet) timeoutRun).router.pending.lookup
      id = some p → p.serial ≠ 0 := by
    intro id p found
    rw [AList.lookup, left] at found
    cases found
  obtain ⟨which, callback, response, calls, -⟩ :=
    settled "7_1" _ (List.mem_of_head? entered) rfl gone
  rw [uncalled] at calls
  cases calls

end GameServer.Dbmw
