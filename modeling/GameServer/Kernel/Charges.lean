/-
# Kernel.Charges -- whose bucket a datagram is taken from

`UDPManager` asks the bucket of the session its endpoint map gives for the sender,
and `on_udp_receive` the bucket of the session the datagram names.  Both asks take a
token, and neither knows of the other.

* `dispatched_charges` -- what a dispatched datagram has cost every session;
* `one_token_iff` -- it costs one token, of the session it is dispatched for, only
  where its sender is bound to nobody.
-/
import GameServer.Kernel.Bucket
import GameServer.Kernel.Forgery

namespace GameServer.Kernel

set_option autoImplicit false

open Wire

/-! ## Tokens taken -/

namespace Session

/-- The token bucket: its tokens, and when it was last filled. -/
def bucket (s : Session) : Int × Time := (s.udpTokens, s.lastUdpTokenRefill)

/-- Between `before` and `after`, `n` tokens were taken from the bucket at `now`.  A
bucket nobody has asked is not filled either. -/
def Taken (now : Time) (n : Nat) (before after : Session) : Prop :=
  after.bucket = ((before.refilled now).udpTokens - n, (before.refilled now).lastUdpTokenRefill) ∨
    n = 0 ∧ after.bucket = before.bucket

instance (now : Time) (n : Nat) (before after : Session) : Decidable (Taken now n before after) :=
  inferInstanceAs (Decidable (_ ∨ _))

variable {now : Time} {before after : Session}

theorem taken_refl (now : Time) (s : Session) : Taken now 0 s s := .inr ⟨rfl, rfl⟩

/-- An ask that is granted takes a token. -/
theorem taken_one (granted : (before.checkUdpRateLimit now).2 = true) :
    Taken now 1 before (before.checkUdpRateLimit now).1 := by
  rw [checkUdpRateLimit_eq] at granted ⊢
  split at granted
  · rename_i full
    rw [if_pos full]
    exact .inl rfl
  · cases granted

/-- What the first ask has filled in is not filled in again by the second. -/
theorem taken_two (first : (before.checkUdpRateLimit now).2 = true)
    (second : ((before.checkUdpRateLimit now).1.checkUdpRateLimit now).2 = true) :
    Taken now 2 before ((before.checkUdpRateLimit now).1.checkUdpRateLimit now).1 := by
  rw [checkUdpRateLimit_eq] at first
  split at first
  · rename_i full
    have drawn : (before.checkUdpRateLimit now).1 = (before.refilled now).drawn 1 := by
      have left : max ((before.refilled now).udpTokens - (1 : Nat))
          (min (before.refilled now).udpTokens 0) = (before.refilled now).udpTokens - 1 := by
        omega
      rw [checkUdpRateLimit_eq, if_pos full, Session.drawn, left]
    rcases taken_one second with taken | ⟨none, -⟩
    · refine .inl (taken.trans ?_)
      rw [drawn, refilled_drawn_refilled, ← drawn, checkUdpRateLimit_eq, if_pos full]
      show ((before.refilled now).udpTokens - 1 - (1 : Nat), _) = _
      rw [Int.sub_sub]
      rfl
    · cases none
  · cases first

/-- A bucket as old as it was has not been filled. -/
theorem refilled_of_age
    (same : (before.refilled now).lastUdpTokenRefill = before.lastUdpTokenRefill) :
    before.refilled now = before := by
  apply refilled_early
  by_contra old
  have due : tokenTime ≤ before.sinceRefill now := by omega
  rw [(refilled_due due).1] at same
  have age : before.sinceRefill now = 0 := by
    show now - before.lastUdpTokenRefill = 0
    rw [← same]
    exact Int.sub_self now
  rw [age] at due
  exact absurd due (by decide)

theorem not_taken_of_kept {n : Nat} (taken : after.bucket =
      ((before.refilled now).udpTokens - n, (before.refilled now).lastUdpTokenRefill))
    (kept : after.bucket = before.bucket) : n = 0 := by
  rw [kept] at taken
  have age : before.lastUdpTokenRefill = (before.refilled now).lastUdpTokenRefill :=
    congrArg Prod.snd taken
  have tokens : before.udpTokens = (before.refilled now).udpTokens - n := congrArg Prod.fst taken
  rw [refilled_of_age age.symm] at tokens
  omega

/-- How many tokens were taken shows in the bucket. -/
theorem taken_unique {n m : Nat} (one : Taken now n before after)
    (other : Taken now m before after) : n = m := by
  rcases one with one | ⟨rfl, kept⟩ <;> rcases other with other | ⟨rfl, kept'⟩
  · have tokens : (before.refilled now).udpTokens - (n : Int) =
        (before.refilled now).udpTokens - m := congrArg Prod.fst (one.symm.trans other)
    omega
  · exact not_taken_of_kept one kept'
  · exact (not_taken_of_kept other kept).symm
  · rfl

end Session

namespace Server

variable {env : Env} {s : Ref}

/-! ## What dispatching costs -/

/-- Nobody's bucket is other than before. -/
def SameBuckets (srv srv' : Server) : Prop := ∀ x, (srv'.obj x).bucket = (srv.obj x).bucket

theorem SameBuckets.refl (srv : Server) : SameBuckets srv srv := fun _ => rfl

theorem SameBuckets.trans {srv srv' srv'' : Server} (first : SameBuckets srv srv')
    (second : SameBuckets srv' srv'') : SameBuckets srv srv'' :=
  fun x => (second x).trans (first x)

theorem modify_sameBuckets (srv : Server) (x : Ref) (f : Session → Session)
    (spares : ∀ y, (f y).bucket = y.bucket) : SameBuckets srv (srv.modify x f) :=
  modify_each (fun _ y z => z.bucket = y.bucket) (fun _ _ => rfl) (spares _)

theorem rebind_sameBuckets (srv : Server) (x : Ref) (sender : Endpoint) :
    SameBuckets srv (srv.rebind x sender) := by
  have unmapped : SameBuckets srv (srv.unmapEndpoint x) := by
    intro y
    obtain ⟨table, same⟩ := srv.unmapEndpoint_eq x
    rw [same]
  simp only [rebind]
  split
  · exact .refl srv
  · refine unmapped.trans (.trans ?_ (modify_sameBuckets _ x _ fun _ => rfl))
    exact fun _ => rfl

theorem udpRegisterHandler_sameBuckets (srv : Server) (r : Reception) (x : Ref) (msg : Json)
    (sender : Endpoint) : SameBuckets srv (srv.udpRegisterHandler env r x msg sender).1 := by
  have bound : SameBuckets srv (((((srv.modify x (Session.setUdpEndpoint sender)).modify x
      (Session.updateUdpAliveTime r.now)).modify x
        (Session.setUdpTokenTtl env.config.udpTokenTtlSeconds)).modify x
          (Session.setUdpToken env.config r.now r.token))) := by
    refine .trans ?_ (modify_sameBuckets _ x (Session.setUdpToken env.config r.now r.token)
      fun _ => rfl)
    refine .trans ?_ (modify_sameBuckets _ x (Session.setUdpTokenTtl _) fun _ => rfl)
    refine .trans ?_ (modify_sameBuckets _ x (Session.updateUdpAliveTime r.now) fun _ => rfl)
    exact modify_sameBuckets _ x (Session.setUdpEndpoint sender) fun _ => rfl
  simp only [udpRegisterHandler]
  split
  · exact bound
  · refine bound.trans (.trans (modify_sameBuckets _ x
      (fun y => { y with registration := some ⟨sender, r.token, r.now⟩ }) fun _ => rfl) ?_)
    exact fun _ => rfl

/-- The handlers take no tokens. -/
theorem dispatchUdpParsed_sameBuckets (srv : Server) (r : Reception) (x : Ref) (type : String)
    (msg : Json) (sender : Endpoint) :
    SameBuckets srv (srv.dispatchUdpParsed env r x type msg sender).1 := by
  by_cases register : type = "udp_register"
  · subst register
    rw [dispatchUdpParsed_register]
    exact udpRegisterHandler_sameBuckets srv r x msg sender
  · rw [dispatchUdpParsed_server register]
    exact fun _ => rfl

theorem checkUdpRateLimit_obj (srv : Server) (now : Time) (x : Ref) :
    (srv.checkUdpRateLimit now x).1.obj =
      Function.update srv.obj x ((srv.obj x).checkUdpRateLimit now).1 := rfl

theorem checkUdpRateLimit_granted (srv : Server) (now : Time) (x : Ref) :
    (srv.checkUdpRateLimit now x).2 = ((srv.obj x).checkUdpRateLimit now).2 := rfl

/-- A datagram dispatched from step 5 on has been granted by the bucket of its
session, and that is all it costs there. -/
theorem receiveFor_charges (srv : Server) (r : Reception) (x : Ref)
    (type type' token token' : String)
    (msg : Json) (sender : Endpoint)
    (dispatched : .dispatch s type token sender ∈
      (srv.receiveFor env r x type' token' msg sender).2) :
    x = s ∧ (srv.checkUdpRateLimit r.now s).2 = true ∧
      SameBuckets (srv.checkUdpRateLimit r.now s).1
        (srv.receiveFor env r x type' token' msg sender).1 := by
  obtain ⟨⟨rfl, rfl, rfl⟩, checks, admitted⟩ := (receiveFor_dispatches ..).mp dispatched
  refine ⟨rfl, admitted, ?_⟩
  have verdict : (if type' = "udp_register" then none
      else srv.rejection r.now x token' sender) = none := by
    rcases checks with register | accepted
    · rw [if_pos register]
    · rw [accepted, ite_self]
  rcases asked : srv.checkUdpRateLimit r.now x with ⟨srv', granted⟩
  rw [asked] at admitted
  cases admitted
  simp only [receiveFor, verdict, asked, if_true]
  have rebound : SameBuckets srv' (if type' = "udp_register" then srv'.rebind x sender else srv') := by
    split
    · exact rebind_sameBuckets _ x sender
    · exact .refl _
  refine rebound.trans (.trans ?_ (dispatchUdpParsed_sameBuckets _ r x type' msg sender))
  exact modify_sameBuckets _ x (Session.updateUdpAliveTime r.now) fun _ => rfl

/-- Past the ask of `UDPManager`, a dispatched datagram is charged to the session it
names. -/
theorem onUdpReceive_charges (srv : Server) (r : Reception) {msg : Bytes} {type token : String}
    (sender : Endpoint)
    (dispatched : .dispatch s type token sender ∈ (srv.onUdpReceive env r msg sender).2) :
    (srv.checkUdpRateLimit r.now s).2 = true ∧
      SameBuckets (srv.checkUdpRateLimit r.now s).1 (srv.onUdpReceive env r msg sender).1 := by
  rcases onUdpReceive_cases env srv r msg sender with
    ⟨j, x, nickname, type', token', -, -, given⟩ | ⟨sent, -, unheard, given⟩
  · rw [given] at dispatched ⊢
    obtain ⟨-, granted, costs⟩ := receiveFor_charges _ r x type type' token token' j sender dispatched
    exact ⟨granted, costs⟩
  · rw [given] at dispatched
    exact absurd dispatched (unheard s type token sender)

/-- **What a dispatched datagram costs**: it has passed both asks, and no bucket is
touched besides. -/
theorem dispatched_charges (srv : Server) (r : Reception) (msg : Bytes) (sender : Endpoint)
    {type token : String}
    (dispatched : .dispatch s type token sender ∈ (srv.udpReceive env r msg sender).2) :
    (srv.askedFor r.now sender).2 = true ∧
      ((srv.askedFor r.now sender).1.checkUdpRateLimit r.now s).2 = true ∧
      SameBuckets ((srv.askedFor r.now sender).1.checkUdpRateLimit r.now s).1
        (srv.udpReceive env r msg sender).1 := by
  rcases udpReceive_cases env srv r msg sender with
    ⟨-, given⟩ | ⟨-, given⟩ | ⟨-, given⟩ | ⟨-, -, granted, given⟩ <;> rw [given] at dispatched
  · cases dispatched
  · cases List.mem_singleton.mp dispatched
  · cases List.mem_singleton.mp dispatched
  · rw [given]
    exact ⟨granted, onUdpReceive_charges _ r sender dispatched⟩

/-! ## One token -/

/-- One token is taken, of the session's bucket. -/
def OneToken (now : Time) (s : Ref) (srv srv' : Server) : Prop :=
  Session.Taken now 1 (srv.obj s) (srv'.obj s) ∧
    ∀ x, x ≠ s → Session.Taken now 0 (srv.obj x) (srv'.obj x)

theorem taken_congr {now : Time} {n : Nat} {x y z : Session} (taken : Session.Taken now n x y)
    (same : z.bucket = y.bucket) : Session.Taken now n x z := by
  rcases taken with taken | ⟨rfl, kept⟩
  · exact .inl (same.trans taken)
  · exact .inr ⟨rfl, same.trans kept⟩

/-- **A dispatched datagram costs one token where its sender is bound to nobody, and
only there.** -/
theorem one_token_iff (env : Env) (srv : Server) (r : Reception) (msg : Bytes) (sender : Endpoint)
    (s : Ref) (type token : String)
    (dispatched : .dispatch s type token sender ∈ (srv.udpReceive env r msg sender).2) :
    OneToken r.now s srv (srv.udpReceive env r msg sender).1 ↔
      srv.getSessionByEndpoint sender = none := by
  obtain ⟨first, second, costs⟩ := dispatched_charges srv r msg sender dispatched
  rcases bound : srv.getSessionByEndpoint sender with _ | t
  · have nobody : srv.askedFor r.now sender = (srv, true) := by rw [askedFor, bound]
    rw [nobody] at second costs
    refine iff_of_true ⟨?_, fun x other => ?_⟩ rfl
    · have taken := Session.taken_one second
      refine taken_congr taken ((costs s).trans ?_)
      rw [checkUdpRateLimit_obj, Function.update_self]
    · refine taken_congr (Session.taken_refl _ _) ((costs x).trans ?_)
      rw [checkUdpRateLimit_obj, Function.update_of_ne other]
  · have holder : srv.askedFor r.now sender = srv.checkUdpRateLimit r.now t := by
      rw [askedFor, bound]
    rw [holder] at first second costs
    refine iff_of_false (fun one => ?_) (Option.some_ne_none t)
    by_cases own : t = s
    · subst own
      have asked : (srv.checkUdpRateLimit r.now t).1.obj t =
          ((srv.obj t).checkUdpRateLimit r.now).1 := by
        rw [checkUdpRateLimit_obj, Function.update_self]
      rw [checkUdpRateLimit_granted, asked] at second
      have twice : Session.Taken r.now 2 (srv.obj t)
          ((srv.udpReceive env r msg sender).1.obj t) := by
        refine taken_congr (Session.taken_two first second) ((costs t).trans ?_)
        rw [checkUdpRateLimit_obj, Function.update_self, asked]
      exact absurd (Session.taken_unique one.1 twice) (by decide)
    · have other : Session.Taken r.now 1 (srv.obj t)
          ((srv.udpReceive env r msg sender).1.obj t) := by
        refine taken_congr (Session.taken_one first) ((costs t).trans ?_)
        rw [checkUdpRateLimit_obj, Function.update_of_ne own, checkUdpRateLimit_obj,
          Function.update_self]
      exact absurd (Session.taken_unique (one.2 t own) other) (by decide)

/-- kim's first `udp_register`, from an endpoint bound to nobody. -/
theorem one_token_iff_register :
    OneToken (seconds 5) 0 (after udpTrialEnv none ([.accept 0 [0]] ++ signIn ⟨0, 1, 2⟩))
        (udpReceive udpTrialEnv (after udpTrialEnv none ([.accept 0 [0]] ++ signIn ⟨0, 1, 2⟩))
          ⟨seconds 5, 0, "2f"⟩ (utf8 registerText) kimEndpoint).1 ↔
      (after udpTrialEnv none ([.accept 0 [0]] ++ signIn ⟨0, 1, 2⟩)).getSessionByEndpoint
        kimEndpoint = none :=
  one_token_iff udpTrialEnv _ ⟨seconds 5, 0, "2f"⟩ (utf8 registerText) kimEndpoint 0
    "udp_register" "" (by decide +kernel)

/-- Once her endpoint is bound, an echo costs her two. -/
theorem echo_costs_two :
    .dispatch 0 "udp" "2f" kimEndpoint ∈ (udpReceive udpTrialEnv (after udpTrialEnv none registered)
        ⟨seconds 6, 0, ""⟩ (utf8 echoText) kimEndpoint).2 ∧
      ¬ OneToken (seconds 6) 0 (after udpTrialEnv none registered)
        (udpReceive udpTrialEnv (after udpTrialEnv none registered) ⟨seconds 6, 0, ""⟩
          (utf8 echoText) kimEndpoint).1 := by
  refine ⟨by decide +kernel, fun one => ?_⟩
  have two : ¬ Session.Taken (seconds 6) 1 ((after udpTrialEnv none registered).obj 0)
      ((udpReceive udpTrialEnv (after udpTrialEnv none registered) ⟨seconds 6, 0, ""⟩
        (utf8 echoText) kimEndpoint).1.obj 0) := by
    decide +kernel
  exact two one.1

end Server

end GameServer.Kernel
