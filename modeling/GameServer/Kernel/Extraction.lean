/-
# Kernel.Extraction -- the extraction loop of a read handler, past a close

A read handler takes the messages off its receive buffer one by one and dispatches
each.  Closing the session, which many a dispatch does, neither empties the buffer
nor ends the loop: only a number out of range does.

* `turn_buffer` -- whatever dispatching a message does, the rest of the buffer stays;
* `loopAt_ahead` -- so the turns of the loop take what lay ahead, in order;
* `silent_iff` -- a loop is silent after a close exactly if nothing ahead parses.
-/
import GameServer.Kernel.Lifecycle

namespace GameServer.Kernel

set_option autoImplicit false

open Wire Dbmw Theory.Runs

/-- `json::parse` throws something else than a `parse_error`: the loop is left. -/
def Env.ends (env : Env) (msg : Bytes) : Bool := (env.parse msg).isNone && env.outOfRange msg

/-- The messages a loop takes before one that ends it, if any. -/
def Env.ahead (env : Env) (m : MessageBufferManager) : List Bytes :=
  m.drain.1.takeWhile fun msg => !env.ends msg

/-- What goes with a turn of the loop of a session: what the other threads do before
it, short of the receive buffer, the clock, and whether a sender throws. -/
structure Turn (s : Ref) where
  others : Server → Server
  kept : ∀ srv, ((others srv).obj s).msgBuf = (srv.obj s).msgBuf
  now : Time
  senderThrows : Bool

/-- The event accepts nobody, and reads nothing for the session. -/
def Event.Aside (s : Ref) (e : Event) : Prop :=
  (∀ now order, e ≠ .accept now order) ∧ e.reads ≠ some s

namespace Server

/-- The turn of the loop, on a fresh page of the journal. -/
def turn (env : Env) (srv : Server) (origin : Origin) (t : Turn origin.session) : Server :=
  ({ srv with journal := [] } : Server).handlerStep env t.now origin t.senderThrows

/-- The loop goes on after the turn. -/
def goesOn (env : Env) (srv : Server) (s : Ref) : Bool :=
  (srv.obj s).msgBuf.extractMessage.1.any fun msg => !env.ends msg

/-- The server as the turns begin, as long as the loop lasts. -/
def loopAt (env : Env) (srv : Server) (origin : Origin) (turns : Nat → Turn origin.session) :
    Nat → Option Server
  | 0 => some ((turns 0).others srv)
  | k + 1 => (loopAt env srv origin turns k).bind fun srv =>
      if srv.goesOn env origin.session then
        some ((turns (k + 1)).others (srv.turn env origin (turns k)))
      else none

/-- The message the turn dispatches. -/
def dispatched (env : Env) (srv : Server) (s : Ref) : Option Json :=
  (srv.obj s).msgBuf.extractMessage.1.bind env.parse

/-- `close_session` runs on the session in the turn. -/
def TurnCloses (env : Env) (srv : Server) (origin : Origin) (t : Turn origin.session) : Prop :=
  Note.close origin.session ∈ (srv.turn env origin t).journal

instance (env : Env) (srv : Server) (origin : Origin) (t : Turn origin.session) :
    Decidable (srv.TurnCloses env origin t) := inferInstanceAs (Decidable (_ ∈ _))

/-- Once a turn has closed the session, no later one dispatches a message. -/
def SilentAfterClose (env : Env) (srv : Server) (origin : Origin)
    (turns : Nat → Turn origin.session) : Prop :=
  ∀ i j x y, i < j → srv.loopAt env origin turns i = some x →
    x.TurnCloses env origin (turns i) → srv.loopAt env origin turns j = some y →
      y.dispatched env origin.session = none

/-- A turn that closes the session, in a loop that goes on, leaves no message ahead
that parses. -/
def SpentAtClose (env : Env) (srv : Server) (origin : Origin)
    (turns : Nat → Turn origin.session) : Prop :=
  ∀ i x, srv.loopAt env origin turns i = some x → x.TurnCloses env origin (turns i) →
    x.goesOn env origin.session = true →
      ∀ msg ∈ env.ahead (x.obj origin.session).msgBuf.extractMessage.2, env.parse msg = none

/-! ## The buffer through a turn -/

theorem buffer_lasting (m : MessageBufferManager) : Lasting fun x => x.msgBuf = m where
  removed := by
    rintro x y same ⟨zoneId, rfl | rfl | rfl⟩ <;> exact same
  closed := by
    rintro x y same ⟨zoneId, rfl | rfl | rfl⟩ <;> exact same
  queued _ _ _ _ := id
  zoned _ _ := id

variable {env : Env} {srv srv' : Server} {s : Ref}

theorem call_buffer {c : Call} (keeps : Calls false false srv c) (s : Ref) :
    ((srv.call env c).obj s).msgBuf = (srv.obj s).msgBuf := by
  refine (buffer_lasting (srv.obj s).msgBuf).call keeps.keepsOut ?_ rfl
  rintro other rfl
  rcases keeps with any | same
  · cases any
  · exact same s

theorem reaches_buffer (reach : Reaches env false false srv srv') (s : Ref) :
    (srv'.obj s).msgBuf = (srv.obj s).msgBuf := by
  have preserved : ∀ (srv' : Server) c, (srv'.obj s).msgBuf = (srv.obj s).msgBuf →
      Calls false false srv' c → ((srv'.call env c).obj s).msgBuf = (srv.obj s).msgBuf :=
    fun srv' c same keeps => (call_buffer keeps s).trans same
  exact reach.invariant preserved rfl

/-- Whatever dispatching a message does, the buffer keeps what was behind it. -/
theorem handlerStep_buffer (srv : Server) (now : Time) (origin : Origin) (senderThrows : Bool)
    (s : Ref) :
    ((srv.handlerStep env now origin senderThrows).obj s).msgBuf =
      if s = origin.session then (srv.obj s).msgBuf.extractMessage.2 else (srv.obj s).msgBuf := by
  rcases extracted : (srv.obj origin.session).msgBuf.extractMessage with ⟨front, m⟩
  have rest : Reaches env false false _ (srv.handlerStep env now origin senderThrows) :=
    handlerStep_extracted extracted now senderThrows
  rw [reaches_buffer rest]
  by_cases here : s = origin.session
  · subst here
    rw [modify_obj_self, if_pos rfl, extracted]
  · rw [modify_obj_other _ _ here, if_neg here]

/-- **A turn takes one message off the buffer.** -/
theorem turn_buffer (srv : Server) (origin : Origin) (t : Turn origin.session) :
    ((srv.turn env origin t).obj origin.session).msgBuf =
      (srv.obj origin.session).msgBuf.extractMessage.2 := by
  rw [turn, handlerStep_buffer, if_pos rfl]

/-- A turn of a running handler is an event of the server. -/
theorem turn_eq_step {origin : Origin} (running : origin ∈ srv.handlers)
    (t : Turn origin.session) :
    srv.turn env origin t = srv.step env (.handlerStep t.now origin t.senderThrows) := by
  have running : origin ∈ ({ srv with journal := [] } : Server).handlers := running
  simp only [turn, step, react, if_pos running]

theorem readDone_buffer (srv : Server) (op : ReadOp) (bytes : Bytes)
    (other : s ≠ op.origin.session) :
    ((srv.readDone env op (.data bytes)).obj s).msgBuf = (srv.obj s).msgBuf := by
  have appended := modify_obj_other (({ srv with reads := srv.reads.erase op } : Server).modify
    op.origin.session fun x => { x with readPending := false })
    (fun x => { x with msgBuf := x.msgBuf.append bytes }) other
  have landed := modify_obj_other { srv with reads := srv.reads.erase op }
    (fun x => { x with readPending := false }) other
  exact congrArg Session.msgBuf (appended.trans landed)

/-- **What may happen beside the loop**: the events of others leave the buffer alone. -/
theorem step_buffer (srv : Server) {e : Event} (aside : e.Aside s) :
    ((srv.step env e).obj s).msgBuf = (srv.obj s).msgBuf := by
  obtain ⟨waits, apart⟩ := aside
  cases reads : e.reads with
  | none =>
      have reach : Reaches env false false { srv with journal := [] } (srv.step env e) :=
        react_reach _ e (fun now order same => absurd same (waits now order))
          (by rw [reads]; exact fun _ => nofun)
      exact reaches_buffer reach s
  | some t =>
      have other : s ≠ t := by
        rintro rfl
        exact apart reads
      simp only [Event.reads] at reads
      split at reads
      · obtain rfl := Option.some.inj reads
        simp only [step, react]
        split
        · exact readDone_buffer _ _ _ other
        · rfl
      · obtain rfl := Option.some.inj reads
        simp only [step, react]
        split
        · rw [handlerStep_buffer, if_neg other]
        · rfl
      · cases reads

/-- A turn, the events having happened before it. -/
def turnAmid (env : Env) {s : Ref} (events : List Event) (asides : ∀ e ∈ events, e.Aside s)
    (now : Time) (senderThrows : Bool) : Turn s where
  others srv := run (step env) srv events
  kept srv := by
    induction events generalizing srv with
    | nil => rfl
    | cons e events ih =>
        rw [run_cons, ih fun e' later => asides e' (List.mem_cons_of_mem e later)]
        exact step_buffer srv (asides e List.mem_cons_self)
  now := now
  senderThrows := senderThrows

/-! ## The turns of a loop -/

theorem ahead_none {m m' : MessageBufferManager} (extracted : m.extractMessage = (none, m')) :
    env.ahead m = [] := by
  rw [Env.ahead, MessageBufferManager.drain_none extracted, List.takeWhile_nil]

theorem ahead_some {m m' : MessageBufferManager} {msg : Bytes}
    (extracted : m.extractMessage = (some msg, m')) :
    env.ahead m = if env.ends msg then [] else msg :: env.ahead m' := by
  rw [Env.ahead, MessageBufferManager.drain_some extracted]
  cases ended : env.ends msg with
  | true => simp [ended]
  | false => simp [ended, Env.ahead]

/-- A turn from which the loop goes on takes the first message ahead. -/
theorem ahead_goesOn (goes : srv.goesOn env s = true) :
    ∃ msg, (srv.obj s).msgBuf.extractMessage.1 = some msg ∧ env.ends msg = false ∧
      env.ahead (srv.obj s).msgBuf =
        msg :: env.ahead (srv.obj s).msgBuf.extractMessage.2 := by
  rw [goesOn] at goes
  rcases extracted : (srv.obj s).msgBuf.extractMessage with ⟨_ | msg, m⟩
  · rw [extracted] at goes
    cases goes
  · have goes : (!env.ends msg) = true := by rwa [extracted] at goes
    have lasts : env.ends msg = false := by simpa using goes
    refine ⟨msg, rfl, lasts, ?_⟩
    rw [ahead_some extracted, lasts, if_neg Bool.false_ne_true]

theorem ahead_last (last : srv.goesOn env s = false) :
    env.ahead (srv.obj s).msgBuf = [] ∧
      ∀ msg, (srv.obj s).msgBuf.extractMessage.1 = some msg → env.ends msg = true := by
  rw [goesOn] at last
  rcases extracted : (srv.obj s).msgBuf.extractMessage with ⟨_ | msg, m⟩
  · exact ⟨ahead_none extracted, fun _ => nofun⟩
  · have last : (!env.ends msg) = false := by rwa [extracted] at last
    have ended : env.ends msg = true := by simpa using last
    rw [ahead_some extracted, if_pos ended]
    refine ⟨rfl, ?_⟩
    rintro _ ⟨⟩
    exact ended

section Loop

variable {origin : Origin} {turns : Nat → Turn origin.session} {k : Nat} {x : Server}

theorem loopAt_goesOn (reached : srv.loopAt env origin turns k = some x)
    (goes : x.goesOn env origin.session = true) :
    ∃ y, srv.loopAt env origin turns (k + 1) = some y ∧
      (y.obj origin.session).msgBuf = (x.obj origin.session).msgBuf.extractMessage.2 := by
  refine ⟨(turns (k + 1)).others (x.turn env origin (turns k)), ?_, ?_⟩
  · simp only [loopAt, reached, Option.bind_some, if_pos goes]
  · rw [(turns (k + 1)).kept, turn_buffer]

theorem loopAt_last (reached : srv.loopAt env origin turns k = some x)
    (last : x.goesOn env origin.session = false) (n : Nat) :
    srv.loopAt env origin turns (k + 1 + n) = none := by
  induction n with
  | zero => simp [loopAt, reached, last]
  | succ n ih => rw [← Nat.add_assoc, loopAt, ih, Option.bind_none]

/-- **The turns take what lies ahead**, in its order. -/
theorem loopAt_ahead (n : Nat) (reached : srv.loopAt env origin turns k = some x) (msg : Bytes) :
    (env.ahead (x.obj origin.session).msgBuf)[n]? = some msg ↔
      env.ends msg = false ∧ ∃ y, srv.loopAt env origin turns (k + n) = some y ∧
        (y.obj origin.session).msgBuf.extractMessage.1 = some msg := by
  induction n generalizing k x with
  | zero =>
      rw [Nat.add_zero, reached]
      cases goes : x.goesOn env origin.session with
      | true =>
          obtain ⟨front, taken, lasts, ahead⟩ := ahead_goesOn goes
          rw [ahead, List.getElem?_cons_zero]
          constructor
          · rintro ⟨⟩
            exact ⟨lasts, x, rfl, taken⟩
          · rintro ⟨-, _, ⟨⟩, again⟩
            exact taken.symm.trans again
      | false =>
          obtain ⟨ahead, ended⟩ := ahead_last goes
          rw [ahead]
          constructor
          · exact nofun
          · rintro ⟨lasts, _, ⟨⟩, taken⟩
            rw [ended msg taken] at lasts
            cases lasts
  | succ n ih =>
      cases goes : x.goesOn env origin.session with
      | true =>
          obtain ⟨front, -, -, ahead⟩ := ahead_goesOn goes
          obtain ⟨y, next, left⟩ := loopAt_goesOn reached goes
          rw [ahead, List.getElem?_cons_succ, ← left, ih next, Nat.add_assoc, Nat.add_comm 1 n]
      | false =>
          have none := loopAt_last reached goes n
          rw [Nat.add_assoc, Nat.add_comm 1 n] at none
          simp [none, (ahead_last goes).1]

/-- **A loop is silent after a close if and only if** no turn that closes the session
leaves a message ahead that parses. -/
theorem silent_iff (env : Env) (srv : Server) (origin : Origin)
    (turns : Nat → Turn origin.session) :
    srv.SilentAfterClose env origin turns ↔ srv.SpentAtClose env origin turns := by
  constructor
  · intro silent i x reached closes goes msg member
    obtain ⟨y, next, left⟩ := loopAt_goesOn reached goes
    rw [← left] at member
    obtain ⟨n, found⟩ := List.getElem?_of_mem member
    obtain ⟨-, z, later, taken⟩ := (loopAt_ahead n next msg).mp found
    have quiet := silent i (i + 1 + n) x z (by omega) reached closes later
    rwa [dispatched, taken, Option.bind_some] at quiet
  · intro spent i j x y before reached closes later
    obtain ⟨n, rfl⟩ : ∃ n, j = i + 1 + n := ⟨j - (i + 1), by omega⟩
    cases goes : x.goesOn env origin.session with
    | false =>
        rw [loopAt_last reached goes n] at later
        cases later
    | true =>
        obtain ⟨z, next, left⟩ := loopAt_goesOn reached goes
        rw [dispatched, Option.bind_eq_none_iff]
        intro msg taken
        by_contra parsed
        have lasts : env.ends msg = false := by
          rw [Env.ends, Option.isNone_eq_false_iff.mpr (Option.isSome_iff_ne_none.mpr parsed)]
          rfl
        have found := (loopAt_ahead n next msg).mpr ⟨lasts, y, later, taken⟩
        have member := List.mem_of_getElem? found
        rw [left] at member
        exact parsed (spent i x reached closes goes msg member)

end Loop

/-! ## A message of an unknown type, then a login -/

def pingText : String := "\x7b\"type\":\"ping\"\x7d"

def pingEnv : Env where
  config := { sessionPoolSize := 1, maxSessionPoolSize := 1 }
  parse := readsAs [(pingText, .obj [("type", .str "ping")]), (kimText, kimLogin)]
  dump := plainDump

/-- One read brings both messages. -/
def pingThenLogin : List Event :=
  [.accept 0 [0], .post ⟨0, 1, .task .readSome⟩,
    .readDone ⟨⟨0, 1, 2⟩, true⟩ (.data ([0, 0, 0, 15] ++ utf8 pingText ++ kimFrame))]

/-- **The unknown type closes the session, and the login is dispatched.** -/
theorem dispatched_after_close :
    ¬ (after pingEnv none pingThenLogin).SilentAfterClose pingEnv ⟨0, 1, 2⟩
      fun _ => turnAmid pingEnv [] nofun 0 false := by
  intro silent
  have first : (after pingEnv none pingThenLogin).loopAt pingEnv ⟨0, 1, 2⟩
      (fun _ => turnAmid pingEnv [] nofun 0 false) 0 =
        some (after pingEnv none pingThenLogin) := rfl
  obtain ⟨y, second, left⟩ := loopAt_goesOn first (by decide +kernel)
  have quiet := silent 0 1 _ y (by omega) first (by decide +kernel) second
  rw [dispatched, left] at quiet
  revert quiet
  decide +kernel

end Server

end GameServer.Kernel
