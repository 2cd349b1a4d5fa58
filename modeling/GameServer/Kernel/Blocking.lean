/-
# Kernel.Blocking -- what `is_blocked_udp` keeps out

Ten datagrams that are no JSON block their endpoint until a minute after the first of
them.  `start_receive` asks whether it is blocked in one place only, after one more such
datagram, and for its log.  What is JSON goes on to `on_udp_receive` unasked.

* `blocked_lasts` -- a block stands until its time is up, whatever else happens;
* `udpReceive_others` -- the record of one endpoint means nothing to the datagrams of
  others;
* `blocks_iff` -- a blocked endpoint is kept out just when none of its datagrams would
  have got in unblocked;
* `blocked_got_in` -- ten bad datagrams and a good one, which is handed on.
-/
import GameServer.Kernel.Unread

namespace GameServer.Kernel

set_option autoImplicit false

open Wire Dbmw Theory.Runs

/-- When a datagram is received. -/
def Event.received : Event → Option Time
  | .datagram r _ _ => some r.now
  | _ => none

/-- Datagrams are received in the order of the clock. -/
def ByTheClock (events : List Event) : Prop :=
  (events.filterMap Event.received).Pairwise (· ≤ ·)

instance (events : List Event) : Decidable (ByTheClock events) :=
  inferInstanceAs (Decidable (List.Pairwise _ _))

namespace Server

/-! ## What is asked of a run -/

/-- The server `start_receive` calls `on_udp_receive` on, if it does. -/
def handsOn (env : Env) (srv : Server) (r : Reception) (msg : Bytes) (sender : Endpoint) :
    Option Server :=
  if msg.length = 0 ∨ env.config.maxUdpPacketSize < msg.length then none
  else
    match env.parse msg with
    | none => none
    | some _ =>
        match srv.getSessionByEndpoint sender with
        | none => some srv
        | some s =>
            let (srv, admitted) := srv.checkUdpRateLimit r.now s
            if admitted then some srv else none

/-- `is_blocked_udp`. -/
def Blocked (srv : Server) (now : Time) (e : Endpoint) : Prop := (srv.isBlockedUdp now e).2 = true

instance (srv : Server) (now : Time) (e : Endpoint) : Decidable (srv.Blocked now e) :=
  inferInstanceAs (Decidable (_ = _))

/-- The record of every endpoint but one. -/
def AgreeBut (e : Endpoint) (m m' : AList fun _ : Endpoint => BadUdpInfo) : Prop :=
  ∀ other, other ≠ e → m.lookup other = m'.lookup other

/-- A datagram of another endpoint does the same whatever is recorded of this one. -/
def SparesOthers (env : Env) (srv : Server) (e : Endpoint) : Prop :=
  ∀ (m : AList fun _ : Endpoint => BadUdpInfo) (r : Reception) (msg : Bytes) (other : Endpoint),
    other ≠ e → AgreeBut e m srv.badUdpMap →
      ({ srv with badUdpMap := m }.udpReceive env r msg other).2 =
          (srv.udpReceive env r msg other).2 ∧
        ∃ m', AgreeBut e m' (srv.udpReceive env r msg other).1.badUdpMap ∧
          ({ srv with badUdpMap := m }.udpReceive env r msg other).1 =
            { (srv.udpReceive env r msg other).1 with badUdpMap := m' }

/-- Once an endpoint is blocked no datagram of it is handed on until the time of its
first failure is up; and nobody else notices. -/
structure BlocksOnly (env : Env) (srv : Server) (events : List Event) : Prop where
  blocked : ∀ front later r msg e, front ++ later ++ [.datagram r msg e] <+: events →
    ∀ now info, (run (step env) srv front).badUdpMap.lookup e = some info →
      (run (step env) srv front).Blocked now e → r.now - info.firstFailTime ≤ blockTime →
        (run (step env) srv (front ++ later)).handsOn env r msg e = none
  others : ∀ front, front <+: events → ∀ e, SparesOthers env (run (step env) srv front) e

/-- The datagram gets past the checks of size, JSON and budget. -/
def Acceptable (env : Env) (srv : Server) (r : Reception) (msg : Bytes) (sender : Endpoint) :
    Prop :=
  (msg.length ≠ 0 ∧ msg.length ≤ env.config.maxUdpPacketSize) ∧ (env.parse msg).isSome = true ∧
    ∀ s ∈ srv.getSessionByEndpoint sender, (srv.checkUdpRateLimit r.now s).2 = true

instance (srv : Server) (r : Reception) (msg : Bytes) (sender : Endpoint) (env : Env) :
    Decidable (srv.Acceptable env r msg sender) :=
  inferInstanceAs (Decidable ((_ ∧ _) ∧ _ ∧ ∀ s ∈ srv.getSessionByEndpoint sender, _))

/-- A datagram of a blocked endpoint is none that would get in. -/
def KeepsOut (env : Env) (srv : Server) : Event → Prop
  | .datagram r msg sender => srv.Blocked r.now sender → ¬ srv.Acceptable env r msg sender
  | _ => True

instance (env : Env) (srv : Server) (e : Event) : Decidable (srv.KeepsOut env e) :=
  match e with
  | .datagram r msg sender =>
      inferInstanceAs (Decidable (srv.Blocked r.now sender → ¬ srv.Acceptable env r msg sender))
  | .accept _ _ | .readDone _ _ | .handlerStep _ _ _ | .loginTimer _ _ | .writeDone _ _ | .post _
  | .keepaliveCheck _ | .cleanupInactive _ | .sweepClose _ | .expireStaleUdp | .dbConnected _
  | .dbMessage _ | .dbExpire _ _ | .dbResend _ _ _ | .udpBroadcast _ => isTrue trivial

/-! ## The receive handler -/

variable {env : Env} {srv : Server}

/-- What gets past the checks is handed on. -/
theorem handsOn_isSome_iff (srv : Server) (r : Reception) (msg : Bytes) (sender : Endpoint) :
    (srv.handsOn env r msg sender).isSome ↔ srv.Acceptable env r msg sender := by
  rw [handsOn, Acceptable]
  by_cases size : msg.length = 0 ∨ env.config.maxUdpPacketSize < msg.length
  · rw [if_pos size]
    refine iff_of_false (by simp) fun acceptable => ?_
    have fits := acceptable.1
    omega
  · rw [if_neg size]
    have fits : msg.length ≠ 0 ∧ msg.length ≤ env.config.maxUdpPacketSize := by omega
    cases parsed : env.parse msg with
    | none => simp
    | some j =>
        cases mapped : srv.getSessionByEndpoint sender with
        | none => simp [fits]
        | some s => by_cases admitted : (srv.checkUdpRateLimit r.now s).2 <;> simp [fits, admitted]

/-- A datagram that is handed on is handled by `on_udp_receive`. -/
theorem udpReceive_handsOn {srv' : Server} {r : Reception} {msg : Bytes} {sender : Endpoint}
    (handed : srv.handsOn env r msg sender = some srv') :
    srv.udpReceive env r msg sender = srv'.onUdpReceive env r msg sender := by
  rw [handsOn] at handed
  simp only [udpReceive]
  split at handed
  · cases handed
  · rename_i fits
    rw [if_neg fits]
    cases parsed : env.parse msg with
    | none => simp [parsed] at handed
    | some j =>
        simp only [parsed] at handed
        cases mapped : srv.getSessionByEndpoint sender with
        | none =>
            simp only [mapped, Option.some.injEq] at handed
            subst handed
            rfl
        | some s =>
            simp only [mapped] at handed
            split at handed
            · rename_i admitted
              cases handed
              exact if_pos admitted
            · cases handed

/-- Any other is answered with an error at most, and changes the sender's record and the
budget of the session mapped to it at most. -/
theorem udpReceive_refused {r : Reception} {msg : Bytes} {sender : Endpoint}
    (refused : srv.handsOn env r msg sender = none) :
    (∀ effect ∈ (srv.udpReceive env r msg sender).2, ∃ error,
        effect = .send sender (env.dump (udpManagerError error))) ∧
      ∃ m spent, (srv.udpReceive env r msg sender).1 = { spent with badUdpMap := m } ∧
        (spent = srv ∨ ∃ s ∈ srv.getSessionByEndpoint sender,
          spent = (srv.checkUdpRateLimit r.now s).1) := by
  rw [handsOn] at refused
  rcases udpReceive_cases env srv r msg sender with
    ⟨-, given⟩ | ⟨-, given⟩ | ⟨-, given⟩ | ⟨fits, ⟨j, parsed⟩, granted, given⟩
  · rw [given]
    exact ⟨by simp, srv.badUdpMap, srv, rfl, .inl rfl⟩
  · rw [given]
    exact ⟨fun effect sent => ⟨_, List.mem_singleton.mp sent⟩,
      (srv.registerBadUdpPacket r.now sender).badUdpMap, srv, rfl, .inl rfl⟩
  · rw [given]
    refine ⟨fun effect sent => ⟨_, List.mem_singleton.mp sent⟩, _,
      (srv.askedFor r.now sender).1, rfl, ?_⟩
    rw [askedFor]
    cases mapped : srv.getSessionByEndpoint sender with
    | none => exact .inl rfl
    | some s => exact .inr ⟨s, rfl, rfl⟩
  · -- the datagram is handed on
    rw [if_neg fits, parsed] at refused
    rw [askedFor] at granted
    cases mapped : srv.getSessionByEndpoint sender with
    | none => simp [mapped] at refused
    | some s =>
        rw [mapped] at granted
        simp [mapped, granted] at refused

/-! ## The record of bad datagrams -/

theorem blocked_iff {now : Time} {e : Endpoint} :
    srv.Blocked now e ↔ ∃ info, srv.badUdpMap.lookup e = some info ∧
      now - info.firstFailTime ≤ blockTime ∧ badUdpLimit ≤ info.failCount := by
  rw [Blocked, isBlockedUdp]
  cases found : srv.badUdpMap.lookup e with
  | none => simp
  | some info =>
      simp only [Option.some.injEq, exists_eq_left']
      by_cases elapsed : blockTime < now - info.firstFailTime
      · rw [if_pos elapsed]
        exact iff_of_false Bool.false_ne_true fun blocked => Int.not_le.mpr elapsed blocked.1
      · rw [if_neg elapsed, decide_eq_true_iff]
        exact (and_iff_right (Int.not_lt.mp elapsed)).symm

/-- Many failures within the time of the first are on record. -/
def OnRecord (e : Endpoint) (first : Time) (srv : Server) : Prop :=
  ∃ info, srv.badUdpMap.lookup e = some info ∧ info.firstFailTime = first ∧
    badUdpLimit ≤ info.failCount

/-- One more failure of the endpoint within that time, or any of another, leaves the
record. -/
theorem OnRecord.bad {e sender : Endpoint} {first now : Time} (recorded : srv.OnRecord e first)
    (within : sender = e → now - first ≤ blockTime) :
    (srv.registerBadUdpPacket now sender).OnRecord e first := by
  rw [registerBadUdpPacket]
  obtain ⟨info, found, rfl, many⟩ := recorded
  by_cases own : sender = e
  · subst own
    have early : ¬ blockTime < now - info.firstFailTime := Int.not_lt.mpr (within rfl)
    refine ⟨{ info with failCount := info.failCount + 1 }, ?_, rfl, Int.le_add_one many⟩
    simp [found, early]
  · exact ⟨info, (AList.lookup_insert_ne (Ne.symm own)).trans found, rfl, many⟩

theorem udpReceive_onRecord {e : Endpoint} {first : Time} (recorded : srv.OnRecord e first)
    (r : Reception) (msg : Bytes) (sender : Endpoint) (within : r.now - first ≤ blockTime) :
    (srv.udpReceive env r msg sender).1.OnRecord e first := by
  have same (srv' : Server) (kept : srv'.badUdpMap = srv.badUdpMap) : srv'.OnRecord e first := by
    rw [OnRecord, kept]
    exact recorded
  have asked : (srv.askedFor r.now sender).1.badUdpMap = srv.badUdpMap :=
    askedFor_keeps (fun srv' => srv'.badUdpMap = srv.badUdpMap) rfl fun _ => rfl
  rcases udpReceive_cases env srv r msg sender with
    ⟨-, given⟩ | ⟨-, given⟩ | ⟨-, given⟩ | ⟨-, -, -, given⟩
  · rw [given]
    exact recorded
  · rw [given]
    exact recorded.bad fun _ => within
  · rw [given]
    exact same _ asked
  · rw [given]
    have handled : Unread (fun _ _ => False) (srv.askedFor r.now sender).1
        ((srv.askedFor r.now sender).1.onUdpReceive env r msg sender).1 :=
      onUdpReceive_unread _ r msg sender
    exact same _ (handled.badUdpMap.trans asked)

/-- Nothing but a datagram touches the record. -/
theorem react_badUdpMap (srv : Server) {e : Event} (other : e.isDatagram = false) :
    (srv.react env e).badUdpMap = srv.badUdpMap := by
  have lasts (lasts : e.lasts = true) : (srv.react env e).badUdpMap = srv.badUdpMap :=
    (@react_enduring env (fun _ _ => True) srv e lasts fun _ _ _ _ _ => trivial).badUdpMap
  have closed (srv : Server) (s : Ref) : (srv.close s).badUdpMap = srv.badUdpMap :=
    (@close_unread (fun _ _ => True) srv s).badUdpMap
  cases e with
  | accept now order =>
      have filed (srv : Server) (s : Ref) : (srv.addSession s).badUdpMap = srv.badUdpMap :=
        (@addSession_unread (fun _ _ => True) srv s).badUdpMap
      have started (srv : Server) (s : Ref) : (srv.start env none s).badUdpMap = srv.badUdpMap :=
        (@start_enduring env (fun _ _ => True) none srv s).badUdpMap
      have cleaned (srv : Server) : (srv.cleanupUnauthSessions 100 order).badUdpMap =
          srv.badUdpMap :=
        (Unread.foldl (fun srv s => @close_unread (fun _ _ => True) srv s) _ srv).badUdpMap
      simp only [react, accept]
      split
      · rfl
      · split
        · exact (started _ _).trans ((cleaned _).trans (filed _ _))
        · rfl
  | keepaliveCheck now => rfl
  | cleanupInactive now => rfl
  | sweepClose s =>
      simp only [react]
      split
      · exact closed _ s
      · rfl
  | datagram r msg sender => cases other
  | _ => exact lasts rfl

theorem step_onRecord {e : Endpoint} {first : Time} (recorded : srv.OnRecord e first)
    {event : Event} (within : ∀ now ∈ event.received, now - first ≤ blockTime) :
    (srv.step env event).OnRecord e first := by
  have fresh : ({ srv with journal := [] } : Server).OnRecord e first := recorded
  cases event with
  | datagram r msg sender => exact udpReceive_onRecord fresh r msg sender (within r.now rfl)
  | _ =>
      rw [OnRecord, step, react_badUdpMap _ rfl]
      exact recorded

/-- **A block stands** until the time of the first failure is up. -/
theorem blocked_lasts {e : Endpoint} {first : Time} (recorded : srv.OnRecord e first)
    {events : List Event}
    (within : ∀ now ∈ events.filterMap Event.received, now - first ≤ blockTime) :
    (run (step env) srv events).OnRecord e first := by
  induction events generalizing srv with
  | nil => exact recorded
  | cons event events ih =>
      refine ih (step_onRecord recorded fun now own => ?_) fun now member => ?_
      · exact within now (List.mem_filterMap.mpr ⟨event, List.mem_cons_self, own⟩)
      · obtain ⟨other, later, own⟩ := List.mem_filterMap.mp member
        exact within now (List.mem_filterMap.mpr ⟨other, List.mem_cons_of_mem _ later, own⟩)

/-! ## Other endpoints -/

/-- The server with another record of bad datagrams. -/
def recording (srv : Server) (m : AList fun _ : Endpoint => BadUdpInfo) : Server :=
  { srv with badUdpMap := m }

variable (m : AList fun _ : Endpoint => BadUdpInfo)

theorem dispatchUdpParsed_recording (r : Reception) (s : Ref) (type : String) (msg : Json)
    (sender : Endpoint) :
    (srv.recording m).dispatchUdpParsed env r s type msg sender =
      ((srv.dispatchUdpParsed env r s type msg sender).1.recording m,
        (srv.dispatchUdpParsed env r s type msg sender).2) := by
  simp only [dispatchUdpParsed]
  split
  · simp only [udpHandler]
    split <;> rfl
  · split
    · simp only [udpBroadcastHandler]
      split <;> rfl
    · split
      · simp only [udpRegisterHandler]
        split <;> rfl
      · split
        · simp only [udpBroadcastZoneHandler, recording]
          split <;> rfl
        · rfl

theorem unmapEndpoint_recording (s : Ref) :
    (srv.recording m).unmapEndpoint s = (srv.unmapEndpoint s).recording m := by
  cases bound : (srv.obj s).udpEndpoint with
  | none =>
      have bound' : ((srv.recording m).obj s).udpEndpoint = none := bound
      simp only [unmapEndpoint, bound, bound']
  | some e =>
      have bound' : ((srv.recording m).obj s).udpEndpoint = some e := bound
      simp only [unmapEndpoint, bound, bound']
      by_cases own : srv.udpEndpointToSession.lookup e = some s
      · have own' : (srv.recording m).udpEndpointToSession.lookup e = some s := own
        rw [if_pos own, if_pos own']
        rfl
      · have own' : ¬ (srv.recording m).udpEndpointToSession.lookup e = some s := own
        rw [if_neg own, if_neg own']

theorem rebind_recording (s : Ref) (sender : Endpoint) :
    (srv.recording m).rebind s sender = (srv.rebind s sender).recording m := by
  by_cases same : (srv.obj s).udpEndpoint = some sender
  · have same' : ((srv.recording m).obj s).udpEndpoint = some sender := same
    rw [rebind, rebind, if_pos same, if_pos same']
  · have same' : ¬ ((srv.recording m).obj s).udpEndpoint = some sender := same
    rw [rebind, rebind, if_neg same, if_neg same', unmapEndpoint_recording]
    rfl

theorem receiveFor_recording (r : Reception) (s : Ref) (type token : String) (msg : Json)
    (sender : Endpoint) :
    (srv.recording m).receiveFor env r s type token msg sender =
      ((srv.receiveFor env r s type token msg sender).1.recording m,
        (srv.receiveFor env r s type token msg sender).2) := by
  have asked : (srv.recording m).checkUdpRateLimit r.now s =
      ((srv.checkUdpRateLimit r.now s).1.recording m, (srv.checkUdpRateLimit r.now s).2) := rfl
  have verdict : (srv.recording m).rejection r.now s token sender =
      srv.rejection r.now s token sender := rfl
  have bound : (if type = "udp_register" then
        ((srv.checkUdpRateLimit r.now s).1.recording m).rebind s sender
      else (srv.checkUdpRateLimit r.now s).1.recording m) =
      (if type = "udp_register" then (srv.checkUdpRateLimit r.now s).1.rebind s sender
        else (srv.checkUdpRateLimit r.now s).1).recording m := by
    split
    · exact rebind_recording m s sender
    · rfl
  have alive (srv : Server) : (srv.recording m).modify s (Session.updateUdpAliveTime r.now) =
      (srv.modify s (Session.updateUdpAliveTime r.now)).recording m := rfl
  simp only [receiveFor, asked, verdict, bound, alive, dispatchUdpParsed_recording]
  cases (if type = "udp_register" then none else srv.rejection r.now s token sender) with
  | none =>
      by_cases admitted : (srv.checkUdpRateLimit r.now s).2 = true
      · simp only [if_pos admitted]
      · simp only [if_neg admitted]
  | some problem =>
      by_cases expired : problem = .expired
      · simp only [if_pos expired]
        rfl
      · simp only [if_neg expired]

theorem onUdpReceive_recording (r : Reception) (msg : Bytes) (sender : Endpoint) :
    (srv.recording m).onUdpReceive env r msg sender =
      ((srv.onUdpReceive env r msg sender).1.recording m,
        (srv.onUdpReceive env r msg sender).2) := by
  rcases counted : srv.udpGlobalLimiter.shardedUdpRateLimit env.config.totalLimitPerSec r with
    ⟨limiter, admitted⟩
  have same : (srv.recording m).udpGlobalLimiter = srv.udpGlobalLimiter := rfl
  simp only [onUdpReceive, same, counted]
  cases admitted with
  | false => rfl
  | true =>
      simp only [if_true]
      cases env.parse msg with
      | none => rfl
      | some j =>
          dsimp only
          rcases j.valueStr "nickname" "" with _ | nickname
          · rfl
          rcases j.valueStr "type" "" with _ | type
          · rfl
          rcases j.valueStr "token" "" with _ | token
          · rfl
          dsimp only
          by_cases empty : nickname = ""
          · simp only [if_pos empty]
            rfl
          · simp only [if_neg empty]
            have named : (srv.recording m).manager.findSessionByNickname nickname =
                srv.manager.findSessionByNickname nickname := rfl
            rw [named]
            cases srv.manager.findSessionByNickname nickname with
            | none => rfl
            | some s =>
                exact @receiveFor_recording env { srv with udpGlobalLimiter := limiter } m r s type
                  token j sender

/-- **The record of an endpoint** means nothing to the datagrams of others. -/
theorem udpReceive_others (srv : Server) (e : Endpoint) : SparesOthers env srv e := by
  intro m r msg other apart agree
  have handled (srv : Server) (same : AgreeBut e m srv.badUdpMap) :
      ((srv.recording m).onUdpReceive env r msg other).2 = (srv.onUdpReceive env r msg other).2 ∧
        ∃ m', AgreeBut e m' (srv.onUdpReceive env r msg other).1.badUdpMap ∧
          ((srv.recording m).onUdpReceive env r msg other).1 =
            (srv.onUdpReceive env r msg other).1.recording m' := by
    have unread := @onUdpReceive_unread env (fun _ _ => False) srv r msg other
    rw [onUdpReceive_recording, unread.badUdpMap]
    exact ⟨rfl, m, same, rfl⟩
  have mapped : (srv.recording m).getSessionByEndpoint other = srv.getSessionByEndpoint other := rfl
  show ((srv.recording m).udpReceive env r msg other).2 = _ ∧ ∃ m', _ ∧
    ((srv.recording m).udpReceive env r msg other).1 =
      (srv.udpReceive env r msg other).1.recording m'
  simp only [udpReceive]
  split
  · exact ⟨rfl, m, agree, rfl⟩
  · cases env.parse msg with
    | none =>
        simp only [isBlockedUdp_registered]
        refine ⟨trivial, ((srv.recording m).registerBadUdpPacket r.now other).badUdpMap, ?_, rfl⟩
        intro x distinct
        have same : (srv.recording m).badUdpMap.lookup other = srv.badUdpMap.lookup other :=
          agree other apart
        simp only [registerBadUdpPacket, same]
        by_cases here : x = other
        · subst here
          rw [AList.lookup_insert, AList.lookup_insert]
        · rw [AList.lookup_insert_ne here, AList.lookup_insert_ne here]
          exact agree x distinct
    | some j =>
        simp only [mapped]
        cases srv.getSessionByEndpoint other with
        | none => exact handled srv agree
        | some s =>
            have asked : (srv.recording m).checkUdpRateLimit r.now s =
                ((srv.checkUdpRateLimit r.now s).1.recording m,
                  (srv.checkUdpRateLimit r.now s).2) := rfl
            simp only [asked]
            by_cases admitted : (srv.checkUdpRateLimit r.now s).2 = true
            · simp only [if_pos admitted]
              exact handled _ agree
            · simp only [if_neg admitted]
              exact ⟨trivial, m, agree, rfl⟩

/-! ## Runs -/

/-- **A blocked endpoint is kept out** throughout a run, if and only if none of its
datagrams would have been handed on anyway. -/
theorem blocks_iff (env : Env) (srv : Server) {events : List Event} (clock : ByTheClock events) :
    BlocksOnly env srv events ↔ Along (step env) (KeepsOut env) srv events := by
  rw [along_iff]
  constructor
  · intro blocks front event within
    cases event with
    | datagram r msg e =>
        intro blocked acceptable
        obtain ⟨info, found, early, -⟩ := blocked_iff.mp blocked
        have refused := blocks.blocked front [] r msg e (by simpa using within) r.now info found
          blocked early
        rw [List.append_nil] at refused
        have handed := (handsOn_isSome_iff _ r msg e).mpr acceptable
        rw [refused] at handed
        cases handed
    | _ => trivial
  · intro keeps
    refine ⟨?_, fun front _ e => udpReceive_others _ e⟩
    intro front later r msg e within now info found blocked early
    obtain ⟨info', found', -, many⟩ := blocked_iff.mp blocked
    obtain rfl : info = info' := Option.some.inj (found.symm.trans found')
    -- what comes between is received before this one
    have before : ∀ earlier ∈ later.filterMap Event.received,
        earlier - info.firstFailTime ≤ blockTime := by
      intro earlier member
      obtain ⟨rest, whole⟩ := within
      have ordered : (events.filterMap Event.received).Pairwise (· ≤ ·) := clock
      rw [← whole] at ordered
      simp only [List.append_assoc, List.filterMap_append, List.pairwise_append,
        List.mem_append] at ordered
      have order := ordered.2.1.2.2 earlier member r.now (.inl (by simp [Event.received]))
      exact Int.le_trans (Int.sub_le_sub_right order _) early
    obtain ⟨last, there, first, failed⟩ := @blocked_lasts env _ e _ ⟨info, found, rfl, many⟩ later
      before
    rw [← run_append] at there
    have still : (run (step env) srv (front ++ later)).Blocked r.now e :=
      blocked_iff.mpr ⟨last, there, by rwa [first], failed⟩
    have refused := keeps (front ++ later) _ within still
    rw [← handsOn_isSome_iff] at refused
    exact Option.not_isSome_iff_eq_none.mp refused

/-! ## Bad datagrams and a good one -/

/-- A library that knows one text. -/
def braces : Env where
  parse := fun text => if text = [0x7B, 0x7D] then some (.obj []) else none
  dump := fun _ => ""

def stranger : Endpoint := ⟨"10.0.0.1", 5000⟩

/-- Ten datagrams that are no JSON, all at once. -/
def tenBad : List Event := List.replicate 10 (.datagram { now := 0 } [0] stranger)

/-- An eleventh is kept out. -/
theorem blocked_stays_out : BlocksOnly braces (initial braces none)
    (tenBad ++ [.datagram { now := seconds 30 } [0] stranger]) :=
  (blocks_iff braces (initial braces none) (by decide)).mpr (by decide +kernel)

/-- **A good one gets in.** -/
theorem blocked_got_in :
    ¬ ∀ (env : Env) (srv : Server) (events : List Event), ByTheClock events →
      BlocksOnly env srv events := by
  intro always
  have blocks := always braces (initial braces none)
    (tenBad ++ [.datagram { now := seconds 30 } [0x7B, 0x7D] stranger]) (by decide)
  have found : (run (step braces) (initial braces none) tenBad).badUdpMap.lookup stranger =
      some ⟨10, 0⟩ := by decide +kernel
  have blocked : (run (step braces) (initial braces none) tenBad).Blocked 0 stranger := by
    decide +kernel
  have refused := blocks.blocked tenBad [] { now := seconds 30 } [0x7B, 0x7D] stranger
    (by simp) 0 ⟨10, 0⟩ found blocked (by decide)
  have handed : ((run (step braces) (initial braces none) (tenBad ++ [])).handsOn braces
      { now := seconds 30 } [0x7B, 0x7D] stranger).isSome = true := by decide +kernel
  rw [refused] at handed
  cases handed

end Server

end GameServer.Kernel
