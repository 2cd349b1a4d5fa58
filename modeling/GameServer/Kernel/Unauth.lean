/-
# Kernel.Unauth -- the cap on unauthenticated sessions

`cleanup_unauth_sessions` collects the sessions that have not logged in, sorts them by
the time they were last alive, and closes from the front what is over the cap.  Closing
goes through the manager, the endpoint table, the zones and the pool.

`Evicted` says that just these sessions are gone.  One close evicts one session that is
registered under its own id (`closeSession_evicts`), evictions add up (`Evicted.trans`),
and so do the closes of the loop (`closes_evict`).

`close_session` takes a session that is `Active` or `Idle` and no other.  The sweep counts by
the state of the login, so a session that the pool took back and a login filed again is
counted, and its close does nothing.

* `cleanupUnauthSessions_evicts` -- how many are gone, which, and who stays, when each session
  counted is one that a close takes;
* `released_outlasts_cap` -- one that it does not take stays.
-/
import GameServer.Kernel.Store

namespace GameServer.Kernel

set_option autoImplicit false

open Wire Dbmw Theory

/-! ## The front of a sorted list -/

section Front

variable {α : Type} {older : α → α → Prop} {found order : List α}

/-- What stays is not older than what is taken from the front. -/
theorem front_older (perm : order.Perm found) (sorted : order.Pairwise older) (n : Nat) {a b : α}
    (front : a ∈ order.take n) (member : b ∈ found) (stays : b ∉ order.take n) : older a b := by
  have rest : b ∈ order.drop n := by
    have whole : b ∈ order.take n ++ order.drop n := by
      rw [List.take_append_drop]
      exact perm.mem_iff.mpr member
    exact (List.mem_append.mp whole).resolve_left stays
  rw [← List.take_append_drop n order] at sorted
  exact (List.pairwise_append.mp sorted).2.2 a front b rest

end Front

namespace Server

/-- Just the sessions `gone` were closed and unregistered. -/
structure Evicted (srv srv' : Server) (gone : List Ref) : Prop where
  shut : ∀ s ∈ gone, (srv'.obj s).socketOpen = false ∧ (srv'.obj s).state = .closed
  registered : ∀ sessionId s, srv'.manager.findSession sessionId = some s ↔
    srv.manager.findSession sessionId = some s ∧ s ∉ gone
  others : ∀ s, s ∉ gone → srv'.obj s = srv.obj s
  ids : ∀ s, (srv'.obj s).sessionId = (srv.obj s).sessionId
  free : ∀ s, s ∉ gone → (s ∈ srv'.pool.reusableIndices ↔ s ∈ srv.pool.reusableIndices)
  endpoints : ∀ e s, s ∉ gone → (srv'.udpEndpointToSession.lookup e = some s ↔
    srv.udpEndpointToSession.lookup e = some s)
  zones : ∀ zoneId sessionId, (∀ s ∈ gone, (srv.obj s).sessionId ≠ sessionId) →
    (srv'.zones zoneId).map (·.lookup sessionId) = (srv.zones zoneId).map (·.lookup sessionId)
  nicknames : srv'.manager.nicknameIndex = srv.manager.nicknameIndex
  /-- Nothing but these and the journal differs. -/
  rest : ∃ journal, Confined { srv with journal } srv'

namespace Evicted

variable {a b c : Server} {gone more : List Ref}

theorem refl (srv : Server) : Evicted srv srv [] where
  shut s member := by cases member
  registered sessionId s := by simp
  others _ _ := rfl
  ids _ := rfl
  free _ _ := Iff.rfl
  endpoints _ _ _ := Iff.rfl
  zones _ _ _ := rfl
  nicknames := rfl
  rest := ⟨srv.journal, .refl srv⟩

/-- **Evictions add up.** -/
theorem trans (first : Evicted a b gone) (then_ : Evicted b c more) :
    Evicted a c (gone ++ more) where
  shut s member := by
    by_cases again : s ∈ more
    · exact then_.shut s again
    · rw [then_.others s again]
      exact first.shut s ((List.mem_append.mp member).resolve_right again)
  registered sessionId s := by
    rw [then_.registered, first.registered, List.mem_append, not_or, and_assoc]
  others s stays := by
    rw [List.mem_append, not_or] at stays
    rw [then_.others s stays.2, first.others s stays.1]
  ids s := (then_.ids s).trans (first.ids s)
  free s stays := by
    rw [List.mem_append, not_or] at stays
    exact (then_.free s stays.2).trans (first.free s stays.1)
  endpoints e s stays := by
    rw [List.mem_append, not_or] at stays
    exact (then_.endpoints e s stays.2).trans (first.endpoints e s stays.1)
  zones zoneId sessionId away := by
    rw [then_.zones zoneId sessionId, first.zones zoneId sessionId]
    · intro s member
      exact away s (List.mem_append_left more member)
    · intro s member
      rw [first.ids s]
      exact away s (List.mem_append_right gone member)
  nicknames := then_.nicknames.trans first.nicknames
  rest := by
    obtain ⟨_, _, _, _, _, _, rfl⟩ := first.rest
    obtain ⟨journal, _, _, _, _, _, rfl⟩ := then_.rest
    exact ⟨journal, _, _, _, _, _, rfl⟩

end Evicted

/-! ## One close -/

variable {srv : Server} {s : Ref}

/-- Only the session's own entry is taken off the endpoint table. -/
theorem unmapEndpoint_lookup (srv : Server) (s : Ref) (e : Endpoint) {x : Ref} (other : x ≠ s) :
    (srv.unmapEndpoint s).udpEndpointToSession.lookup e = some x ↔
      srv.udpEndpointToSession.lookup e = some x := by
  rcases srv.unmapEndpoint_cases s with ⟨-, same⟩ | ⟨bound, -, own, erased⟩
  · rw [same]
  · rw [erased]
    show (srv.udpEndpointToSession.erase bound).lookup e = some x ↔ _
    by_cases here : e = bound
    · subst here
      rw [AList.lookup_erase, own, Option.some.injEq]
      exact iff_of_false (fun found => by cases found) (Ne.symm other)
    · rw [AList.lookup_erase_ne here]

/-- A removal takes only the session's own entry off it. -/
theorem removeSession_endpoints {sessionId : Int}
    (filed : srv.manager.findSession sessionId = some s) (e : Endpoint) {x : Ref} (other : x ≠ s) :
    (srv.removeSession sessionId).udpEndpointToSession.lookup e = some x ↔
      srv.udpEndpointToSession.lookup e = some x := by
  simp only [removeSession, filed]
  rw [release_table, leaveZone_table]
  exact unmapEndpoint_lookup { srv with manager := srv.manager.eraseSession sessionId } s e other

/-- Whoever has another id stays in every zone. -/
theorem zonesWithout_lookup (srv : Server) (s : Ref) (zoneId : Int) {sessionId : Int}
    (away : (srv.obj s).sessionId ≠ sessionId) :
    (srv.zonesWithout s zoneId).map (·.lookup sessionId) =
      (srv.zones zoneId).map (·.lookup sessionId) := by
  rw [zonesWithout]
  cases found : srv.leaves s with
  | none => rfl
  | some zone =>
      show (Function.update srv.zones (srv.obj s).zoneId
        (some (zone.erase (srv.obj s).sessionId)) zoneId).map _ = _
      by_cases here : zoneId = (srv.obj s).zoneId
      · rw [leaves] at found
        split at found
        · rw [here, Function.update_self, found, Option.map_some, Option.map_some,
            AList.lookup_erase_ne (Ne.symm away)]
        · cases found
      · rw [Function.update_of_ne here]

/-- **One close** of a session registered under its id evicts it, and nobody else. -/
theorem closeSession_evicts (agree : srv.EntriesAgree)
    (filed : srv.manager.findSession (srv.obj s).sessionId = some s)
    (closable : (srv.obj s).Closable) : Evicted srv (srv.closeSession s) [s] := by
  have filed' : (srv.shut s).manager.findSession (srv.obj s).sessionId = some s := filed
  obtain ⟨objects, zones, pool⟩ := removeSession_filed filed'
  obtain ⟨⟨y, shut, cleaned⟩, -⟩ := closeSession_obj closable
  have closed : srv.closeSession s =
      ((srv.shut s).removeSession (srv.obj s).sessionId).modify s Session.cleanup := by
    rw [closeSession_eq, if_pos closable]
  constructor
  case shut =>
    intro x member
    rw [List.mem_singleton.mp member, cleaned]
    exact ⟨(removed_same shut).1, (removed_same shut).2.1⟩
  case registered =>
    intro sessionId x
    rw [closed, List.mem_singleton]
    show ((srv.shut s).removeSession _).manager.findSession sessionId = some x ↔ _
    rw [removeSession_findSession]
    by_cases own : sessionId = (srv.obj s).sessionId
    · rw [if_pos own, own, filed, Option.some.injEq]
      exact iff_of_false (fun found => by cases found) fun both => both.2 both.1.symm
    · rw [if_neg own]
      refine (and_iff_left_of_imp fun found => ?_).symm
      rintro rfl
      exact own (agree sessionId x found).symm
  case others =>
    intro x stays
    have other : x ≠ s := fun same => stays (List.mem_singleton.mpr same)
    rw [closed, modify_obj_other _ _ other, objects, Function.update_of_ne other, Server.shut,
      modify_obj_other _ _ other]
  case ids =>
    exact closeSession_each (fun x y => y.sessionId = x.sessionId)
      (fun removed => (removed_same removed).2.2) (fun removed => (removed_same removed).2.2) srv s
  case free =>
    intro x stays
    have other : x ≠ s := fun same => stays (List.mem_singleton.mpr same)
    rw [closed]
    show x ∈ ((srv.shut s).removeSession _).pool.reusableIndices ↔ x ∈ srv.pool.reusableIndices
    rw [pool]
    split
    · show x ∈ srv.pool.reusableIndices ++ [s] ↔ _
      rw [List.mem_append, List.mem_singleton]
      exact or_iff_left other
    · exact Iff.rfl
  case endpoints =>
    intro e x stays
    have other : x ≠ s := fun same => stays (List.mem_singleton.mpr same)
    rw [closed]
    exact removeSession_endpoints filed' e other
  case zones =>
    intro zoneId sessionId away
    have apart : ((srv.shut s).obj s).sessionId ≠ sessionId := by
      rw [Server.shut, modify_obj_self]
      exact away s (List.mem_singleton.mpr rfl)
    rw [closed]
    show (((srv.shut s).removeSession _).zones zoneId).map _ = _
    rw [zones]
    exact zonesWithout_lookup (srv.shut s) s zoneId apart
  case nicknames =>
    rw [closed]
    show ((srv.shut s).removeSession _).manager.nicknameIndex = _
    rw [removeSession_manager filed']
    rfl
  case rest => exact ⟨srv.journal, closeSession_confined srv s⟩

theorem close_evicts (agree : srv.EntriesAgree)
    (filed : srv.manager.findSession (srv.obj s).sessionId = some s)
    (closable : (srv.obj s).Closable) : Evicted srv (srv.close s) [s] := by
  obtain ⟨shut, registered, others, ids, free, endpoints, zones, nicknames, rest⟩ :=
    @closeSession_evicts (srv.note (.close s)) s agree filed closable
  exact ⟨shut, registered, others, ids, free, endpoints, zones, nicknames, rest⟩

/-! ## The loop -/

/-- What is left registered is registered as before. -/
theorem Evicted.agree {srv' : Server} {gone : List Ref} (evicted : Evicted srv srv' gone)
    (agree : srv.EntriesAgree) : srv'.EntriesAgree := by
  intro sessionId s found
  rw [evicted.ids s]
  exact agree sessionId s ((evicted.registered sessionId s).mp found).1

/-- **The closes of the loop** evict the sessions they are called on. -/
theorem closes_evict (agree : srv.EntriesAgree) {gone : List Ref} (once : gone.Nodup)
    (filed : ∀ s ∈ gone, srv.manager.findSession (srv.obj s).sessionId = some s)
    (closable : ∀ s ∈ gone, (srv.obj s).Closable) :
    Evicted srv (gone.foldl close srv) gone := by
  induction gone generalizing srv with
  | nil => exact .refl srv
  | cons s gone ih =>
      rw [List.nodup_cons] at once
      have first : Evicted srv (srv.close s) [s] :=
        close_evicts agree (filed s List.mem_cons_self) (closable s List.mem_cons_self)
      have stay : ∀ t ∈ gone, t ∉ [s] := by
        intro t member here
        rw [List.mem_singleton.mp here] at member
        exact once.1 member
      have then_ : Evicted (srv.close s) (gone.foldl close (srv.close s)) gone := by
        apply ih (first.agree agree) once.2
        · intro t member
          rw [first.ids t, first.registered]
          exact ⟨filed t (List.mem_cons_of_mem s member), stay t member⟩
        · intro t member
          rw [first.others t (stay t member)]
          exact closable t (List.mem_cons_of_mem s member)
      exact first.trans then_

/-! ## Who is counted -/

/-- Not logged in. -/
def Unauthenticated (srv : Server) (s : Ref) : Prop :=
  (srv.obj s).state = .handshaking ∨ (srv.obj s).state = .loginWait

theorem mem_unauthSessions (srv : Server) (s : Ref) :
    s ∈ srv.unauthSessions ↔ s ∈ srv.manager.sessions ∧ srv.Unauthenticated s := by
  rw [unauthSessions, List.mem_filter, decide_eq_true_iff]
  exact Iff.rfl

/-- **The cap is kept fairly.**  The sessions counted are, each once, the registered ones not
logged in; those over the cap are gone, none of them younger than one that stays. -/
theorem cleanupUnauthSessions_evicts (agree : srv.EntriesAgree)
    (settled : ∀ s ∈ srv.unauthSessions, (srv.obj s).Closable) (maxUnauth : Nat) {order : List Ref}
    (sorted : srv.SortedUnauth order) :
    srv.unauthSessions.Nodup ∧
    (0 < srv.manager.shardCount → ∀ s, s ∈ srv.unauthSessions ↔
      srv.manager.findSession (srv.obj s).sessionId = some s ∧ srv.Unauthenticated s) ∧
    ∃ gone, gone.length = srv.unauthSessions.length - maxUnauth ∧ gone.Nodup ∧
      (∀ s ∈ gone, s ∈ srv.unauthSessions) ∧
      (∀ s ∈ gone, ∀ t ∈ srv.unauthSessions, t ∉ gone →
        (srv.obj s).lastAliveTime ≤ (srv.obj t).lastAliveTime) ∧
      Evicted srv (srv.cleanupUnauthSessions maxUnauth order) gone := by
  obtain ⟨perm, byAge⟩ := sorted
  have counted : srv.unauthSessions.Nodup := (sessions_nodup agree).filter _
  have once : (order.take (order.length - maxUnauth)).Nodup :=
    (perm.nodup_iff.mpr counted).sublist (List.take_sublist _ _)
  have among : ∀ s ∈ order.take (order.length - maxUnauth), s ∈ srv.unauthSessions :=
    fun s member => perm.mem_iff.mp (List.mem_of_mem_take member)
  refine ⟨counted, ?_, _, ?_, once, among, ?_, ?_⟩
  · intro some_shard s
    rw [mem_unauthSessions, mem_sessions agree some_shard]
  · rw [List.length_take, perm.length_eq]
    omega
  · intro s front t member stays
    exact front_older perm byAge _ front member stays
  · apply closes_evict agree once
    · intro s member
      exact filed_of_mem_sessions agree ((mem_unauthSessions srv s).mp (among s member)).1
    · intro s member
      exact settled s (among s member)

/-- An entry under the session's own id agrees. -/
theorem EntriesAgree.filed (agree : srv.EntriesAgree) (s : Ref) : (srv.filed s).EntriesAgree := by
  intro sessionId x found
  change (srv.manager.insertSession (srv.obj s).sessionId s).findSession sessionId = some x at found
  rw [SessionManager.findSession_insertSession] at found
  split at found
  · rename_i own
    cases found
    exact own.symm
  · exact agree sessionId x found

theorem EntriesAgree.removeSession (agree : srv.EntriesAgree) (sessionId : Int) :
    (srv.removeSession sessionId).EntriesAgree := by
  intro id x found
  rw [removeSession_findSession] at found
  split at found
  · cases found
  · rw [(removed_same (removeSession_obj srv sessionId x)).2.2]
    exact agree id x found

/-- Nobody is registered. -/
theorem twoIds_agree : twoIds.EntriesAgree := fun _ _ found => by cases found

/-- Two connections that have not logged in. -/
def twoWaiting : Server := (twoIds.filed 0).filed 1

theorem cleanupUnauthSessions_evicts_one :
    ∃ gone, gone.length = 1 ∧
      Evicted twoWaiting (twoWaiting.cleanupUnauthSessions 1 [1, 0]) gone := by
  have agree : twoWaiting.EntriesAgree := (twoIds_agree.filed 0).filed 1
  obtain ⟨-, -, gone, few, -, -, -, evicted⟩ :=
    @cleanupUnauthSessions_evicts twoWaiting agree (by decide +kernel) 1 [1, 0] (by decide +kernel)
  refine ⟨gone, few.trans ?_, evicted⟩
  decide +kernel

/-- A session was removed and its object given back to the pool, and `on_user_info_ok` has
just filed the object again. -/
def filedAgain : Server := ((twoIds.addSession 0).removeSession (-1)).addSession 0

theorem filedAgain_agree : filedAgain.EntriesAgree := by
  have added : twoIds.addSession 0 = twoIds.filed 0 := addSession_fresh (by decide +kernel)
  have again : filedAgain = ((twoIds.filed 0).removeSession (-1)).filed 0 := by
    rw [filedAgain, added]
    exact addSession_fresh (by decide +kernel)
  rw [again]
  exact ((twoIds_agree.filed 0).removeSession (-1)).filed 0

/-- Nobody is inside a close. -/
theorem filedAgain_unclosing (s : Ref) : (filedAgain.obj s).life ≠ .closing := by
  rcases s with _ | _ | s
  · decide +kernel
  · decide +kernel
  · have untouched : (filedAgain.obj (s + 2)).life = .idle := rfl
    rw [untouched]
    decide

/-- **A session that was given back is counted and not closed**, with nobody inside a close. -/
theorem released_outlasts_cap :
    ¬ ∀ (srv : Server) (maxUnauth : Nat) (order : List Ref), srv.EntriesAgree →
      (∀ s, (srv.obj s).life ≠ .closing) → srv.SortedUnauth order →
      ∃ gone, gone.length = srv.unauthSessions.length - maxUnauth ∧
        (∀ s ∈ gone, s ∈ srv.unauthSessions) ∧
        Evicted srv (srv.cleanupUnauthSessions maxUnauth order) gone := by
  intro always
  obtain ⟨gone, many, among, evicted⟩ :=
    always filedAgain 0 [0] filedAgain_agree filedAgain_unclosing (by decide +kernel)
  have counted : filedAgain.unauthSessions = [0] := by decide +kernel
  have stays : ((filedAgain.cleanupUnauthSessions 0 [0]).obj 0).state ≠ .closed := by
    decide +kernel
  rw [counted] at many among
  obtain ⟨s, rfl⟩ := List.length_eq_one_iff.mp many
  have own : s = 0 := List.mem_singleton.mp (among s (List.mem_singleton_self s))
  subst own
  exact stays (evicted.shut 0 (List.mem_singleton_self 0)).2

end Server

end GameServer.Kernel
