/-
# Kernel.Keepalive -- a client that keeps alive, and the check

`do_keepalive_check` closes the logged-in sessions whose last sign of life is more than
a minute old.  The sign is set when the object is handed out and by `keepalive` messages;
a login, which may come up to ninety seconds after the accept, sets none.

* `step_alive` -- what an event does to the sign of an object;
* `Watch` -- a run with its clock: the sign, the login, and whom the checks collected;
* `kept_open` -- who keeps alive is not closed by a check, if the checks between the login
  and the first keepalive come within a minute of the last sign before;
* `late_login_closed` -- a login after sixty-eight seconds, and a check two seconds later.
-/
import GameServer.Kernel.Completion
import GameServer.Kernel.Unread

namespace GameServer.Kernel

set_option autoImplicit false

open Wire Dbmw Theory.Runs

/-- When an event reads the clock. -/
def Event.clock : Event → Option Time
  | .accept now _ => some now
  | .handlerStep now _ _ => some now
  | .keepaliveCheck now => some now
  | .cleanupInactive now => some now
  | .datagram r _ _ => some r.now
  | _ => none

/-- The time of a `do_keepalive_check`. -/
def Event.checkTime : Event → Option Time
  | .keepaliveCheck now => some now
  | _ => none

/-- The session a sweep closes. -/
def Event.swept : Event → Option Ref
  | .sweepClose s => some s
  | _ => none

def Event.isAccept : Event → Bool
  | .accept _ _ => true
  | _ => false

namespace Server

/-! ## Signs of life -/

def isKeepalive (env : Env) (srv : Server) (s : Ref) : Bool :=
  match (srv.obj s).msgBuf.extractMessage.1 with
  | none => false
  | some msg =>
      match env.parse msg with
      | none => false
      | some j =>
          match j.valueStr "type" "" with
          | .ok type => type = "keepalive"
          | .error _ => false

theorem isKeepalive_iff (env : Env) (srv : Server) (s : Ref) :
    srv.isKeepalive env s = true ↔ srv.Keepalive env s := by
  rw [isKeepalive, Keepalive]
  cases (srv.obj s).msgBuf.extractMessage.1 with
  | none => simp
  | some msg =>
      cases parsed : env.parse msg with
      | none => simp [parsed]
      | some j => cases typed : j.valueStr "type" "" <;> simp [parsed, typed]

/-- The event handles a `keepalive` of the session. -/
def Hears (env : Env) (srv : Server) (s : Ref) : Event → Prop
  | .handlerStep _ origin _ => origin ∈ srv.handlers ∧ origin.session = s ∧ srv.isKeepalive env s
  | _ => False

instance (env : Env) (srv : Server) (s : Ref) : ∀ e, Decidable (srv.Hears env s e)
  | .handlerStep _ _ _ => inferInstanceAs (Decidable (_ ∧ _ ∧ _))
  | .accept _ _ | .readDone _ _ | .loginTimer _ _ | .writeDone _ _ | .post _ | .keepaliveCheck _
  | .cleanupInactive _ | .sweepClose _ | .expireStaleUdp | .dbConnected _ | .dbMessage _
  | .dbExpire _ _ | .dbResend _ _ _ | .datagram _ _ _ | .udpBroadcast _ => isFalse id

variable {env : Env}

/-- No sign of life. -/
def silence (_ : Ref) (_ : Time) : Prop := False

/-- **An event other than an accept** leaves the sign of a session it does not hear. -/
theorem react_alive (srv : Server) {e : Event} (other : ∀ now order, e ≠ .accept now order)
    (s : Ref) :
    Session.Enduring (fun t => srv.Hears env s e ∧ e.clock = some t) (srv.obj s)
      ((srv.react env e).obj s) := by
  have quiet (lasts : e.lasts = true)
      (unheard : ∀ now origin thrown, e ≠ .handlerStep now origin thrown) :
      Session.Enduring (fun t => srv.Hears env s e ∧ e.clock = some t) (srv.obj s)
        ((srv.react env e).obj s) := by
    refine (@react_enduring env (fun x t => srv.Hears env x e ∧ e.clock = some t) srv e lasts
      fun now origin thrown same => ?_).obj s
    exact absurd same (unheard now origin thrown)
  cases e with
  | accept now order => exact absurd rfl (other now order)
  | handlerStep now origin senderThrows =>
      simp only [react]
      split
      · rename_i inLoop
        refine (@handlerStep_enduring env (fun x t =>
          srv.Hears env x (.handlerStep now origin senderThrows) ∧ some now = some t) srv now origin
          (fun keepalive => ?_) senderThrows).obj s
        exact ⟨⟨inLoop, rfl, (isKeepalive_iff env srv _).mpr keepalive⟩, rfl⟩
      · exact .refl _
  | keepaliveCheck now => exact .refl _
  | cleanupInactive now => exact .refl _
  | sweepClose x =>
      simp only [react]
      split
      · have kept := @close_unread (fun y t =>
          srv.Hears env y (.sweepClose x) ∧ none = some t) { srv with sweep := srv.sweep.erase x } x
        exact (kept.obj s).enduring
      · exact .refl _
  | datagram r msg sender =>
      have kept := @udpReceive_obj env (fun x t =>
        srv.Hears env x (.datagram r msg sender) ∧ some r.now = some t) srv r msg sender
      exact (kept.obj s).enduring
  | _ =>
      refine quiet rfl ?_
      intro now origin thrown same
      cases same

/-- What is heard is the new sign. -/
theorem react_hears (srv : Server) {e : Event} {s : Ref} (hears : srv.Hears env s e) :
    some ((srv.react env e).obj s).lastAliveTime = e.clock := by
  cases e with
  | handlerStep now origin senderThrows =>
      obtain ⟨inLoop, rfl, keepalive⟩ := hears
      obtain ⟨msg, extracted, j, parsed, typed⟩ := (isKeepalive_iff env srv _).mp keepalive
      have message := Option.mem_def.mp extracted
      rcases whole : (srv.obj origin.session).msgBuf.extractMessage with ⟨found, m⟩
      rw [whole] at message
      cases message
      simp only [react, if_pos inLoop,
        handlerStep_dispatches whole (Option.mem_def.mp parsed) now senderThrows, dispatch, typed]
      simp [handleMessage, keepaliveHandler, modify, Event.clock]
  | _ => exact absurd hears id

theorem handOut_alive (x : Session) (now : Time) (sessionId : Int) :
    (x.handOut now sessionId).lastAliveTime = now := by
  simp only [Session.handOut, Session.setActive, Session.tryActivate, if_true]
  split <;> rfl

/-- **An accept** hands an object out with the time of the accept for a sign, and leaves
the others theirs. -/
theorem accept_alive (srv : Server) (now : Time) (order : List Ref) (s : Ref) :
    Session.Enduring (silence s) (srv.obj s) ((srv.accept env now order).obj s) ∨
      srv.nextFree = some s ∧
        ((srv.accept env now order).obj s).strand = (srv.obj s).strand + 1 ∧
        ((srv.accept env now order).obj s).lastAliveTime = now := by
  have admitted (srv : Server) (x : Ref) : Enduring silence srv
      (((srv.addSession x).cleanupUnauthSessions 100 order).start env none x) := by
    have filed := @addSession_unread silence srv x
    have cleaned : Unread silence (srv.addSession x)
        ((srv.addSession x).cleanupUnauthSessions 100 order) :=
      .foldl (fun srv x => close_unread srv x) _ _
    exact (filed.trans cleaned).enduring.trans (start_enduring none _ x)
  simp only [accept]
  split
  · exact .inl (.refl _)
  · rename_i x free
    split
    · have lasts := (admitted (({ srv with
        sessionCounter := Int.bmod (srv.sessionCounter + 1) (2 ^ 32) }.note
          (.accept srv.sessionCounter)).acquire now srv.sessionCounter x) x).obj s
      by_cases taken : x = s
      · subst taken
        have fresh := handOut_fresh (srv.obj x) now srv.sessionCounter
        refine .inr ⟨free, ?_, ?_⟩
        · rw [lasts.strand, acquire_obj]
          exact fresh.1
        · rcases lasts.alive with same | told
          · rw [same, acquire_obj]
            exact handOut_alive _ now _
          · exact told.elim
      · refine .inl (.trans ?_ lasts)
        show Session.Enduring _ (srv.obj s) (Function.update srv.obj x _ s)
        rw [Function.update_of_ne (Ne.symm taken)]
        exact .refl _
    · exact .inl (.refl _)

/-- **What an event does to the sign of an object**: it stays, or is heard, or is the
time of an accept. -/
theorem step_alive (srv : Server) (e : Event) (s : Ref) :
    Session.Enduring (fun t => srv.Hears env s e ∧ e.clock = some t) (srv.obj s)
        ((srv.step env e).obj s) ∨
      ∃ now order, e = .accept now order ∧ srv.nextFree = some s ∧
        ((srv.step env e).obj s).strand = (srv.obj s).strand + 1 ∧
        ((srv.step env e).obj s).lastAliveTime = now := by
  by_cases accepts : ∃ now order, e = .accept now order
  · obtain ⟨now, order, rfl⟩ := accepts
    rcases @accept_alive env { srv with journal := [] } now order s with lasts | handed
    · refine .inl ⟨lasts.strand, lasts.stays, ?_⟩
      exact lasts.alive.imp_right False.elim
    · exact .inr ⟨now, order, rfl, handed⟩
  · have other : ∀ now order, e ≠ .accept now order := by
      intro now order same
      exact accepts ⟨now, order, same⟩
    refine .inl ?_
    cases e with
    | accept now order => exact absurd rfl (other now order)
    | _ => exact react_alive { srv with journal := [] } other s

theorem strand_of_serving {srv : Server} {s : Ref} {k : Nat} (serves : srv.serving s = some k) :
    (srv.obj s).strand = k := by
  simp only [serving, Option.ite_none_right_eq_some, Option.some.injEq] at serves
  exact serves.2

theorem serving_of_enduring {heard : Time → Prop} {srv srv' : Server} {s : Ref} {k : Nat}
    (lasts : Session.Enduring heard (srv.obj s) (srv'.obj s)) (serves : srv'.serving s = some k) :
    srv.serving s = some k := by
  simp only [serving, Option.ite_none_right_eq_some, Option.some.injEq] at serves ⊢
  exact ⟨lasts.stays serves.1, lasts.strand.symm.trans serves.2⟩

/-! ## A run with its clock -/

/-- The sessions `do_keepalive_check` collects. -/
def timedOut (srv : Server) (now : Time) : List Ref :=
  srv.manager.sessions.filter fun s =>
    (srv.obj s).nicknameRegistered ∧ seconds 60 < now - (srv.obj s).lastAliveTime

theorem keepaliveCheck_eq (srv : Server) (now : Time) :
    srv.keepaliveCheck now = { srv with sweep := srv.sweep ++ srv.timedOut now } := rfl

/-- What an event collects for its silence. -/
def collects (srv : Server) (e : Event) : List Ref := e.checkTime.elim [] srv.timedOut

end Server

/-- A server, and what is to be seen of one of its objects: the last sign of life of its
use, when the use logged in, the last keepalive since; and the sessions that checks
collected and that are still to be closed. -/
structure Watch where
  server : Server
  sign : Time := 0
  login : Option Time := none
  kept : Option Time := none
  collected : List Ref := []

namespace Watch

/-- An event, and its time if it reads no clock. -/
def step (env : Env) (s : Ref) (w : Watch) (e : Time × Event) : Watch :=
  let now := e.2.clock.getD e.1
  let next := w.server.step env e.2
  let handedOut := (next.obj s).strand ≠ (w.server.obj s).strand
  let login := if handedOut then none else w.login
  { server := next
    sign := if handedOut ∨ w.server.Hears env s e.2 then now else w.sign
    login := if (next.obj s).nicknameRegistered then some (login.getD now) else login
    kept :=
      if handedOut then none
      else if w.server.Hears env s e.2 then login.map fun _ => now
      else w.kept
    collected := (w.collected ++ w.server.collects e.2).filter (· ∈ next.sweep) }

def start (env : Env) (router : Option (DBmwRouter LoginFlow)) : Watch where
  server := .initial env router

/-- The event is a check's `close_session` of the use. -/
def Closes (s : Ref) (k : Nat) (w : Watch) (e : Time × Event) : Prop :=
  e.2.swept = some s ∧ s ∈ w.collected ∧ w.server.serving s = some k

/-- The client of the use keeps alive: when a check comes after the login, the login or a
keepalive handled since is at most twenty seconds back. -/
def KeepsAlive (s : Ref) (k : Nat) (w : Watch) (e : Time × Event) : Prop :=
  ∀ now ∈ e.2.checkTime, w.server.serving s = some k →
    ∀ login ∈ w.login, now ≤ w.kept.getD login + seconds 20

/-- A check between the login and the first keepalive comes within a minute of the last
sign before, and the object is not accepted while an earlier check is to close it. -/
def InTime (s : Ref) (k : Nat) (w : Watch) (e : Time × Event) : Prop :=
  (∀ now ∈ e.2.checkTime, w.server.serving s = some k → w.login ≠ none → w.kept = none →
      now ≤ w.sign + seconds 60) ∧
    (e.2.isAccept = true → w.server.nextFree = some s → (w.server.obj s).strand + 1 = k →
      s ∉ w.collected)

instance (s : Ref) (k : Nat) (w : Watch) (e : Time × Event) : Decidable (w.Closes s k e) :=
  inferInstanceAs (Decidable (_ ∧ _ ∧ _))

instance (s : Ref) (k : Nat) (w : Watch) (e : Time × Event) : Decidable (w.KeepsAlive s k e) :=
  inferInstanceAs (Decidable (∀ _ ∈ _, _))

instance (s : Ref) (k : Nat) (w : Watch) (e : Time × Event) : Decidable (w.InTime s k e) :=
  inferInstanceAs (Decidable ((∀ _ ∈ _, _) ∧ _))

/-- A login within forty seconds of the last sign is soon enough. -/
theorem inTime_of_prompt {s : Ref} {k : Nat} {w : Watch} {time now : Time}
    (keeps : w.KeepsAlive s k (time, .keepaliveCheck now))
    (prompt : ∀ login ∈ w.login, login ≤ w.sign + seconds 40) :
    w.InTime s k (time, .keepaliveCheck now) := by
  refine ⟨?_, nofun⟩
  rintro now ⟨⟩ serves loggedIn unkept
  obtain ⟨login, known⟩ := Option.ne_none_iff_exists'.mp loggedIn
  have recent := keeps now rfl serves login known
  have soon := prompt login known
  rw [unkept, Option.getD_none] at recent
  calc
    now ≤ login + seconds 20 := recent
    _ ≤ w.sign + seconds 40 + seconds 20 := Int.add_le_add_right soon _
    _ = w.sign + seconds 60 := Int.add_assoc ..

/-- The times are those of the object. -/
structure Tracks (s : Ref) (w : Watch) : Prop where
  sign : (w.server.obj s).lastAliveTime = w.sign
  login : (w.server.obj s).nicknameRegistered = true → w.login ≠ none
  kept : ∀ now ∈ w.kept, w.sign = now

variable {env : Env} {s : Ref} {k : Nat} {w : Watch}

/-- **An event is seen as it is.** -/
theorem step_tracks (tracks : Tracks s w) (e : Time × Event) : Tracks s (w.step env s e) := by
  refine ⟨?_, ?_, ?_⟩
  · show ((w.server.step env e.2).obj s).lastAliveTime = if _ then _ else _
    rcases @Server.step_alive env w.server e.2 s with
      lasts | ⟨now, order, accepts, -, strand, alive⟩
    · have sameUse := not_not.mpr lasts.strand
      by_cases hears : w.server.Hears env s e.2
      · have told := Server.react_hears { w.server with journal := [] } hears
        rw [if_pos (.inr hears), ← told]
        rfl
      · rw [if_neg (not_or.mpr ⟨sameUse, hears⟩), ← tracks.sign]
        exact lasts.alive.resolve_right fun heard => hears heard.1
    · have handedOut : ((w.server.step env e.2).obj s).strand ≠ (w.server.obj s).strand := by omega
      rw [if_pos (.inl handedOut), alive, accepts]
      rfl
  · intro named
    have loggedIn : (w.step env s e).login = some _ := if_pos named
    rw [loggedIn]
    exact Option.some_ne_none _
  · intro now kept
    simp only [step] at kept ⊢
    split at kept
    · cases kept
    · rename_i sameUse
      split at kept
      · rename_i hears
        obtain ⟨_, -, rfl⟩ := Option.map_eq_some_iff.mp kept
        exact if_pos (.inr hears)
      · rename_i silent
        rw [if_neg (not_or.mpr ⟨sameUse, silent⟩)]
        exact tracks.kept now kept

/-- The use is on no check's list. -/
def Spared (s : Ref) (k : Nat) (w : Watch) : Prop :=
  w.server.serving s = some k → s ∉ w.collected

/-- A check does not collect the use. -/
theorem kept_uncollected (tracks : Tracks s w) {e : Time × Event} (keeps : w.KeepsAlive s k e)
    (inTime : w.InTime s k e) (serves : w.server.serving s = some k) :
    s ∉ w.server.collects e.2 := by
  intro collected
  rw [Server.collects] at collected
  cases check : e.2.checkTime with
  | none =>
      rw [check] at collected
      cases collected
  | some now =>
      rw [check] at collected
      obtain ⟨-, late⟩ := List.mem_filter.mp collected
      obtain ⟨named, silent⟩ := of_decide_eq_true late
      rw [tracks.sign] at silent
      have expired : w.sign + seconds 60 < now := Int.add_lt_of_lt_sub_left silent
      have loggedIn := tracks.login named
      obtain ⟨login, known⟩ := Option.ne_none_iff_exists'.mp loggedIn
      have recent := keeps now check serves login known
      cases kept : w.kept with
      | none => exact Int.not_le.mpr expired (inTime.1 now check serves loggedIn kept)
      | some heard =>
          rw [kept, Option.getD_some, ← tracks.kept heard kept] at recent
          have sooner : w.sign + seconds 20 ≤ w.sign + seconds 60 :=
            Int.add_le_add_left (by decide) _
          exact Int.not_le.mpr expired (Int.le_trans recent sooner)

/-- **An event keeps the use off the lists.** -/
theorem step_spared (tracks : Tracks s w) (spared : w.Spared s k) {e : Time × Event}
    (keeps : w.KeepsAlive s k e) (inTime : w.InTime s k e) : (w.step env s e).Spared s k := by
  intro serves listed
  have before : s ∈ w.collected ∨ s ∈ w.server.collects e.2 :=
    List.mem_append.mp (List.mem_of_mem_filter listed)
  rcases @Server.step_alive env w.server e.2 s with lasts | ⟨now, order, accepts, free, strand, -⟩
  · have served := Server.serving_of_enduring lasts serves
    exact before.elim (spared served) (kept_uncollected tracks keeps inTime served)
  · have use : (w.server.obj s).strand + 1 = k := by
      rw [← strand]
      exact Server.strand_of_serving serves
    have nothing : w.server.collects e.2 = [] := by
      rw [accepts]
      rfl
    rw [nothing] at before
    exact before.elim (inTime.2 (by rw [accepts]; rfl) free use) List.not_mem_nil

/-! ## Runs -/

/-- **Who keeps alive is not timed out**, in every run in which the checks before the
first keepalive are in time. -/
theorem kept_open (env : Env) (router : Option (DBmwRouter LoginFlow)) (s : Ref) (k : Nat)
    (events : List (Time × Event))
    (keeps : Along (step env s) (KeepsAlive s k) (start env router) events)
    (inTime : Along (step env s) (InTime s k) (start env router) events) :
    Along (step env s) (fun w e => ¬ w.Closes s k e) (start env router) events := by
  have preserved : ∀ w e, Tracks s w ∧ w.Spared s k → w.KeepsAlive s k e ∧ w.InTime s k e →
      Tracks s (w.step env s e) ∧ (w.step env s e).Spared s k :=
    fun w e inv guards => ⟨step_tracks inv.1 e, step_spared inv.1 inv.2 guards.1 guards.2⟩
  have begins : Tracks s (start env router) ∧ (start env router).Spared s k :=
    ⟨⟨rfl, nofun, nofun⟩, fun _ => List.not_mem_nil⟩
  refine along_mono ?_ (along_strengthen preserved begins (along_and keeps inTime))
  exact fun w e passed closes => passed.2.2 closes.2.2 closes.2.1

def keepaliveText : String := "\x7b\"type\":\"keepalive\"\x7d"

def keepaliveEnv : Env :=
  { trialEnv 1 with
    parse := readsAs [(kimText, kimLogin), (keepaliveText, .obj [("type", .str "keepalive")])] }

/-- A connection is accepted after fifty seconds and logs in at the given time. -/
def loginAt (login : Time) : List (Time × Event) :=
  [(0, .accept (seconds 50) [0]), (0, .post ⟨0, 1, .task .readSome⟩),
    (0, .keepaliveCheck (seconds 60)), (0, .readDone ⟨⟨0, 1, 2⟩, true⟩ (.data kimFrame)),
    (0, .handlerStep login ⟨0, 1, 2⟩ false), (0, .handlerStep login ⟨0, 1, 2⟩ false)]

/-- Its keepalive is handled, and the check comes again. -/
theorem kept_open_message :
    Along (step keepaliveEnv 0) (fun w e => ¬ w.Closes 0 1 e) (start keepaliveEnv none)
      (loginAt (seconds 95) ++
        [(0, .readDone ⟨⟨0, 1, 2⟩, true⟩ (.data ([0, 0, 0, 20] ++ utf8 keepaliveText))),
          (0, .handlerStep (seconds 110) ⟨0, 1, 2⟩ false), (0, .keepaliveCheck (seconds 120)),
          (0, .sweepClose 0)]) :=
  kept_open keepaliveEnv none 0 1 _ (by decide +kernel) (by decide +kernel)

/-- **A late login is closed at once**: it comes sixty-eight seconds after the accept, and
the check two seconds later, long before a keepalive is due. -/
theorem late_login_closed :
    Along (step keepaliveEnv 0) (KeepsAlive 0 1) (start keepaliveEnv none)
        (loginAt (seconds 118) ++ [(0, .keepaliveCheck (seconds 120)), (0, .sweepClose 0)]) ∧
      ¬ Along (step keepaliveEnv 0) (fun w e => ¬ w.Closes 0 1 e) (start keepaliveEnv none)
        (loginAt (seconds 118) ++ [(0, .keepaliveCheck (seconds 120)), (0, .sweepClose 0)]) := by
  decide +kernel

end Watch

end GameServer.Kernel
