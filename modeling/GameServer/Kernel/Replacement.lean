/-
# Kernel.Replacement -- `add_session` over an id that is taken

The new entry is written first and the session it replaced is closed after.  That close
removes its own id from the manager, and lets go of whatever session is found there.  The
replaced session and the new one have the same id, so it is the new one.

* `addSession_replaces` -- what is filed, open and free after a close of the replaced;
* `keeps_new_iff` -- the new session stays just when the replaced one was shut before, or
  carries another id than the one it was filed under;
* `replaced_loses_new` -- an id used twice.
-/
import GameServer.Kernel.Closing

namespace GameServer.Kernel

set_option autoImplicit false

open Wire Dbmw

namespace Server

/-! ## What is asked of `add_session` -/

/-- The session of another generation under the id of `s`. -/
def replacedBy (srv : Server) (s : Ref) : Option Ref :=
  (srv.manager.findSession (srv.obj s).sessionId).filter fun p =>
    decide ((srv.obj p).generation ≠ (srv.obj s).generation)

/-- The session is found under its id, as open as it was, and no freer; the one it
replaces is shut, and nobody else. -/
structure KeepsNew (srv : Server) (s : Ref) : Prop where
  found : (srv.addSession s).manager.findSession ((srv.addSession s).obj s).sessionId = some s
  stays : ((srv.addSession s).obj s).socketOpen = (srv.obj s).socketOpen ∧
    ((srv.addSession s).obj s).state = (srv.obj s).state
  free : s ∉ srv.pool.reusableIndices → s ∉ (srv.addSession s).pool.reusableIndices
  shut : ∀ p ∈ srv.replacedBy s, ((srv.addSession s).obj p).socketOpen = false
  others : ∀ q, q ∉ srv.replacedBy s →
    ((srv.addSession s).obj q).socketOpen = (srv.obj q).socketOpen

/-- Closing `p` lets go of nobody filed as `s` is: it is shut already and nothing is
done, or it has another id, and the session filed there is not `s`, or cannot be
released. -/
def LetsGo (srv : Server) (s p : Ref) : Prop :=
  if (srv.obj p).Closable then
    (srv.obj p).sessionId ≠ (srv.obj s).sessionId ∧
      (srv.manager.findSession (srv.obj p).sessionId = some s →
        s ∈ srv.pool.reusableIndices ∨ ¬ srv.Returns s)
  else (srv.obj p).socketOpen = false

/-! ## Removal and close -/

/-- The manager loses the entry, and nothing else. -/
theorem removeSession_manager {srv : Server} {sessionId : Int} {t : Ref}
    (filed : srv.manager.findSession sessionId = some t) :
    (srv.removeSession sessionId).manager = srv.manager.eraseSession sessionId := by
  have released (srv : Server) (s : Ref) : (srv.release s).manager = srv.manager := by
    rw [release_eq]
    split <;> rfl
  have left (srv : Server) (s : Ref) : (srv.leaveZone s).manager = srv.manager := by
    rcases srv.leaveZone_cases s with ⟨-, same⟩ | ⟨zone, -, -, left⟩
    · rw [same]
    · rw [left]
      rfl
  have unmapped (srv : Server) (s : Ref) : (srv.unmapEndpoint s).manager = srv.manager := by
    obtain ⟨table, same⟩ := srv.unmapEndpoint_eq s
    rw [same]
  simp only [removeSession, filed]
  rw [released, left]
  show (Server.unmapEndpoint _ t).manager = _
  rw [unmapped]

theorem removeSession_findSession (srv : Server) (sessionId id : Int) :
    (srv.removeSession sessionId).manager.findSession id =
      if id = sessionId then none else srv.manager.findSession id := by
  cases filed : srv.manager.findSession sessionId with
  | none =>
      rw [removeSession_unfiled filed]
      split
      · rename_i same
        rw [same, filed]
      · rfl
  | some t => rw [removeSession_manager filed, SessionManager.findSession_eraseSession]

/-- A removal leaves socket, state and id alone. -/
theorem removed_same {x y : Session} (removed : x.Removed y) :
    y.socketOpen = x.socketOpen ∧ y.state = x.state ∧ y.sessionId = x.sessionId := by
  rcases removed with ⟨zoneId, rfl | rfl | rfl⟩ <;> exact ⟨rfl, rfl, rfl⟩

/-- The new entry, written. -/
def filed (srv : Server) (s : Ref) : Server :=
  { srv with manager := srv.manager.insertSession (srv.obj s).sessionId s }

variable {srv : Server} {s p : Ref}

theorem addSession_fresh (fresh : srv.replacedBy s = none) : srv.addSession s = srv.filed s := by
  rw [replacedBy] at fresh
  simp only [addSession, fresh]
  rfl

theorem addSession_replaces (replaced : srv.replacedBy s = some p) :
    srv.addSession s = (srv.filed s).closeSession p := by
  rw [replacedBy] at replaced
  simp only [addSession, replaced]
  rfl

theorem replacedBy_ne (replaced : srv.replacedBy s = some p) : p ≠ s := by
  have other := (Option.filter_eq_some_iff.mp replaced).2
  rintro rfl
  simp at other

/-- **A close behind the new entry**: what is filed and what is free. -/
theorem closeSession_filed (closable : (srv.obj p).Closable) :
    ((srv.filed s).closeSession p).manager.findSession (srv.obj s).sessionId =
        (if (srv.obj s).sessionId = (srv.obj p).sessionId then none else some s) ∧
      ((srv.obj p).sessionId ≠ (srv.obj s).sessionId →
        (s ∈ ((srv.filed s).closeSession p).pool.reusableIndices ↔
          s ∈ srv.pool.reusableIndices ∨
            srv.manager.findSession (srv.obj p).sessionId = some s ∧ srv.Returns s)) := by
  have open_ : ((srv.filed s).obj p).Closable := closable
  rw [closeSession_eq, if_pos open_]
  constructor
  · show (((srv.filed s).shut p).removeSession (srv.obj p).sessionId).manager.findSession _ = _
    rw [removeSession_findSession]
    split
    · rfl
    · show (srv.manager.insertSession (srv.obj s).sessionId s).findSession _ = _
      rw [SessionManager.findSession_insertSession, if_pos rfl]
  · intro stale
    show s ∈ (((srv.filed s).shut p).removeSession (srv.obj p).sessionId).pool.reusableIndices ↔ _
    have entry : ((srv.filed s).shut p).manager.findSession (srv.obj p).sessionId =
        srv.manager.findSession (srv.obj p).sessionId := by
      show (srv.manager.insertSession (srv.obj s).sessionId s).findSession _ = _
      rw [SessionManager.findSession_insertSession, if_neg stale]
    cases found : srv.manager.findSession (srv.obj p).sessionId with
    | none =>
        rw [removeSession_unfiled (entry.trans found)]
        show s ∈ srv.pool.reusableIndices ↔ _
        simp
    | some t =>
        rw [(removeSession_filed (entry.trans found)).2.2]
        show s ∈ (if srv.Returns t then
          { srv.pool with
            reusableIndices := srv.pool.reusableIndices ++ [t]
            availableIndexSet := t :: srv.pool.availableIndexSet }
          else srv.pool).reusableIndices ↔ _
        split
        · rename_i returns
          simp only [List.mem_append, List.mem_singleton, Option.some.injEq]
          constructor
          · rintro (before | rfl)
            · exact .inl before
            · exact .inr ⟨rfl, returns⟩
          · rintro (before | ⟨rfl, -⟩)
            · exact .inl before
            · exact .inr rfl
        · rename_i kept
          simp only [Option.some.injEq]
          refine ⟨.inl, ?_⟩
          rintro (before | ⟨rfl, returns⟩)
          · exact before
          · exact absurd returns kept

/-- The objects of such a close. -/
theorem closeSession_sockets (closable : (srv.obj p).Closable) :
    (((srv.filed s).closeSession p).obj p).socketOpen = false ∧
      ∀ q, q ≠ p →
        (((srv.filed s).closeSession p).obj q).socketOpen = (srv.obj q).socketOpen ∧
          (((srv.filed s).closeSession p).obj q).state = (srv.obj q).state ∧
          (((srv.filed s).closeSession p).obj q).sessionId = (srv.obj q).sessionId := by
  have open_ : ((srv.filed s).obj p).Closable := closable
  obtain ⟨⟨y, shut, cleaned⟩, others⟩ := closeSession_obj open_
  refine ⟨?_, fun q other => removed_same (others q other)⟩
  rw [cleaned]
  exact (removed_same shut).1

/-! ## The new session -/

theorem filed_entry (srv : Server) (s : Ref) :
    (srv.filed s).manager.findSession (srv.obj s).sessionId = some s := by
  show (srv.manager.insertSession (srv.obj s).sessionId s).findSession _ = _
  rw [SessionManager.findSession_insertSession, if_pos rfl]

theorem keepsNew_fresh (fresh : srv.replacedBy s = none) : KeepsNew srv s := by
  have added := addSession_fresh fresh
  refine ⟨?_, ?_, ?_, by simp [fresh], ?_⟩ <;> rw [added]
  · exact filed_entry srv s
  · exact ⟨rfl, rfl⟩
  · exact id
  · exact fun _ _ => rfl

/-- The session replaced is closed already: nothing is done to it. -/
theorem keepsNew_refused (replaced : srv.replacedBy s = some p) (refused : ¬ (srv.obj p).Closable) :
    KeepsNew srv s ↔ (srv.obj p).socketOpen = false := by
  have added : srv.addSession s = srv.filed s :=
    (addSession_replaces replaced).trans (closeSession_refused refused)
  constructor
  · intro keeps
    have shut := keeps.shut p replaced
    rwa [added] at shut
  · intro shut
    refine ⟨?_, ?_, ?_, ?_, ?_⟩ <;> rw [added]
    · exact filed_entry srv s
    · exact ⟨rfl, rfl⟩
    · exact id
    · intro q same
      rw [replaced] at same
      cases same
      exact shut
    · exact fun _ _ => rfl

/-- The session replaced is closed: the close must not find the new one. -/
theorem keepsNew_closed (replaced : srv.replacedBy s = some p) (closable : (srv.obj p).Closable) :
    KeepsNew srv s ↔
      (srv.obj p).sessionId ≠ (srv.obj s).sessionId ∧
        (srv.manager.findSession (srv.obj p).sessionId = some s →
          s ∈ srv.pool.reusableIndices ∨ ¬ srv.Returns s) := by
  obtain ⟨found, free⟩ := @closeSession_filed srv s p closable
  obtain ⟨shut, others⟩ := @closeSession_sockets srv s p closable
  rw [← addSession_replaces replaced] at found free shut others
  obtain ⟨isOpen, state, sessionId⟩ := others s (replacedBy_ne replaced).symm
  constructor
  · intro keeps
    have there := keeps.found
    rw [sessionId, found] at there
    have stale : (srv.obj p).sessionId ≠ (srv.obj s).sessionId := by
      intro same
      rw [if_pos same.symm] at there
      cases there
    refine ⟨stale, fun also => ?_⟩
    by_contra lost
    obtain ⟨before, returns⟩ := not_or.mp lost
    exact keeps.free before ((free stale).mpr (.inr ⟨also, not_not.mp returns⟩))
  · rintro ⟨stale, spared⟩
    refine ⟨?_, ⟨isOpen, state⟩, ?_, ?_, ?_⟩
    · rw [sessionId, found, if_neg (Ne.symm stale)]
    · intro before after
      rcases (free stale).mp after with again | ⟨also, returns⟩
      · exact before again
      · rcases spared also with again | kept
        · exact before again
        · exact kept returns
    · simp [replaced, shut]
    · intro q other
      rw [replaced, Option.mem_some_iff] at other
      exact (others q (Ne.symm other)).1

/-- **The new session stays** just when nobody is replaced, or closing the replaced lets
go of nobody filed as it is. -/
theorem keeps_new_iff (srv : Server) (s : Ref) :
    KeepsNew srv s ↔ ∀ p ∈ srv.replacedBy s, srv.LetsGo s p := by
  cases replaced : srv.replacedBy s with
  | none => exact iff_of_true (keepsNew_fresh replaced) (by simp)
  | some p =>
      simp only [Option.mem_some_iff, forall_eq']
      rw [LetsGo]
      split
      · rename_i closable
        exact keepsNew_closed replaced closable
      · rename_i refused
        exact keepsNew_refused replaced refused

/-! ## An id used twice -/

/-- Two connections are accepted, the second one is closed, and its object is handed out
again when the counter has come round to the first one's id. -/
def cameRound : Server :=
  let env : Env :=
    { config := { sessionPoolSize := 2 }, parse := fun _ => none, dump := fun _ => "" }
  ((((initial env none).accept env 0 [0]).accept env 1 [0, 1]).closeSession 1).acquire 2 0 1

/-- **The new session is lost**, and free. -/
theorem replaced_loses_new : ¬ ∀ (srv : Server) (s : Ref), KeepsNew srv s := by
  intro always
  have found := (always cameRound 1).found
  revert found
  decide +kernel

end Server

end GameServer.Kernel
