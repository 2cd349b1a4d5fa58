/-
# Kernel.Closing -- the ends of a use

`close_session` shuts its object, has the manager's entry of its id removed, and
cleans the object.  The entry may be of another object, which is then the one that
loses its token, leaves its zone and goes back to the pool.

* `removeSession_filed` -- what a removal does;
* `closeSession_obj` -- what becomes of every object in a close;
* `writeNow_keeps`, `writeDone_keeps` -- what a post and a completion are made of;
* `handOut_fresh` -- what the next use starts from.
-/
import GameServer.Kernel.Calls

namespace GameServer.Kernel

set_option autoImplicit false

open Wire Dbmw Theory.Runs

namespace Session

/-- `close_session` gets past its `try_close`. -/
def Closable (x : Session) : Prop := x.life = .active ∨ x.life = .idle

instance (x : Session) : Decidable x.Closable := inferInstanceAs (Decidable (_ ∨ _))

/-- What removal may leave of an object: untouched, or without its token and
perhaps its zone, or back in the pool. -/
def Removed (x y : Session) : Prop :=
  ∃ zoneId, y = x ∨ y = { x.clearUdpToken with zoneId } ∨
    y = ({ x.clearUdpToken with zoneId } : Session).takeBack

theorem Removed.refl (x : Session) : x.Removed x := ⟨0, .inl rfl⟩

end Session

namespace Server

/-- `release` takes the object back. -/
def Returns (srv : Server) (s : Ref) : Prop := s < srv.pool.size ∧ s ∉ srv.pool.availableIndexSet

instance (srv : Server) (s : Ref) : Decidable (srv.Returns s) := inferInstanceAs (Decidable (_ ∧ _))

/-- The zone `ZoneManager::remove_session` takes the object off. -/
def leaves (srv : Server) (s : Ref) : Option Zone :=
  if -1 < (srv.obj s).zoneId then srv.zones (srv.obj s).zoneId else none

/-- The zones, once it is off. -/
def zonesWithout (srv : Server) (s : Ref) : Int → Option Zone :=
  match srv.leaves s with
  | none => srv.zones
  | some zone => Function.update srv.zones (srv.obj s).zoneId
      (some (zone.erase (srv.obj s).sessionId))

/-! ## The parts of a removal -/

theorem release_eq (srv : Server) (s : Ref) :
    srv.release s = if srv.Returns s then
      { srv.modify s Session.takeBack with
        pool := { srv.pool with
          reusableIndices := srv.pool.reusableIndices ++ [s]
          availableIndexSet := s :: srv.pool.availableIndexSet } }
    else srv := rfl

theorem release_obj (srv : Server) (s : Ref) :
    (srv.release s).obj = Function.update srv.obj s
      (if srv.Returns s then (srv.obj s).takeBack else srv.obj s) := by
  rw [release_eq]
  by_cases returns : srv.Returns s
  · rw [if_pos returns, if_pos returns]
    rfl
  · rw [if_neg returns, if_neg returns, Function.update_eq_self]

theorem release_pool (srv : Server) (s : Ref) :
    (srv.release s).pool = if srv.Returns s then
      { srv.pool with
        reusableIndices := srv.pool.reusableIndices ++ [s]
        availableIndexSet := s :: srv.pool.availableIndexSet }
    else srv.pool := by
  rw [release_eq]
  split <;> rfl

theorem release_zones (srv : Server) (s : Ref) : (srv.release s).zones = srv.zones := by
  rw [release_eq]
  split <;> rfl

theorem unmapEndpoint_lists (srv : Server) (s : Ref) :
    (srv.unmapEndpoint s).obj = srv.obj ∧ (srv.unmapEndpoint s).pool = srv.pool ∧
      (srv.unmapEndpoint s).zones = srv.zones := by
  obtain ⟨table, unmapped⟩ := srv.unmapEndpoint_eq s
  rw [unmapped]
  exact ⟨rfl, rfl, rfl⟩

theorem leaveZone_obj (srv : Server) (s : Ref) :
    (srv.leaveZone s).obj = Function.update srv.obj s
      (if (srv.leaves s).isSome then { srv.obj s with zoneId := -1 } else srv.obj s) := by
  by_cases placed : -1 < (srv.obj s).zoneId
  · simp only [leaveZone, leaves, if_pos placed]
    cases found : srv.zones (srv.obj s).zoneId with
    | none => exact (Function.update_eq_self s srv.obj).symm
    | some zone => rfl
  · simp only [leaveZone, leaves, if_neg placed]
    exact (Function.update_eq_self s srv.obj).symm

theorem leaveZone_zones (srv : Server) (s : Ref) :
    (srv.leaveZone s).zones = srv.zonesWithout s := by
  by_cases placed : -1 < (srv.obj s).zoneId
  · simp only [leaveZone, zonesWithout, leaves, if_pos placed]
    cases found : srv.zones (srv.obj s).zoneId <;> rfl
  · simp only [leaveZone, zonesWithout, leaves, if_neg placed]

theorem leaveZone_pool (srv : Server) (s : Ref) : (srv.leaveZone s).pool = srv.pool := by
  rcases srv.leaveZone_cases s with ⟨-, same⟩ | ⟨zone, -, -, left⟩
  · rw [same]
  · rw [left]
    rfl

/-! ## Removal -/

/-- What is left of the object the entry names. -/
def discharged (srv : Server) (t : Ref) : Session :=
  let x := (srv.obj t).clearUdpToken
  let x := if (srv.leaves t).isSome then { x with zoneId := -1 } else x
  if srv.Returns t then x.takeBack else x

theorem removeSession_unfiled {srv : Server} {sessionId : Int}
    (unfiled : srv.manager.findSession sessionId = none) : srv.removeSession sessionId = srv := by
  simp only [removeSession, unfiled]

theorem discharged_removed (srv : Server) (t : Ref) : (srv.obj t).Removed (srv.discharged t) := by
  simp only [discharged]
  split
  · split
    · exact ⟨-1, .inr (.inr rfl)⟩
    · exact ⟨(srv.obj t).zoneId, .inr (.inr rfl)⟩
  · split
    · exact ⟨-1, .inr (.inl rfl)⟩
    · exact ⟨(srv.obj t).zoneId, .inr (.inl rfl)⟩

/-- **A removal** touches the object the entry names, the zone it is in, and the
pool. -/
theorem removeSession_filed {srv : Server} {sessionId : Int} {t : Ref}
    (filed : srv.manager.findSession sessionId = some t) :
    (srv.removeSession sessionId).obj = Function.update srv.obj t (srv.discharged t) ∧
      (srv.removeSession sessionId).zones = srv.zonesWithout t ∧
      (srv.removeSession sessionId).pool = (if srv.Returns t then
        { srv.pool with
          reusableIndices := srv.pool.reusableIndices ++ [t]
          availableIndexSet := t :: srv.pool.availableIndexSet }
      else srv.pool) := by
  obtain ⟨obj, pool, zones⟩ :=
    unmapEndpoint_lists { srv with manager := srv.manager.eraseSession sessionId } t
  have cleared : ((({ srv with manager := srv.manager.eraseSession sessionId } :
      Server).unmapEndpoint t).modify t Session.clearUdpToken).obj t =
      (srv.obj t).clearUdpToken := by
    simp [modify, obj]
  simp only [removeSession, filed]
  generalize unmapped : ({ srv with manager := srv.manager.eraseSession sessionId } :
    Server).unmapEndpoint t = here at *
  have leaving : (here.modify t Session.clearUdpToken).leaves t = srv.leaves t := by
    simp only [leaves, cleared]
    show (if -1 < (srv.obj t).zoneId then here.zones (srv.obj t).zoneId else none) = _
    rw [zones]
  have returning : ((here.modify t Session.clearUdpToken).leaveZone t).Returns t ↔
      srv.Returns t := by
    simp only [Returns, leaveZone_pool]
    show t < here.pool.size ∧ t ∉ here.pool.availableIndexSet ↔ _
    rw [pool]
  refine ⟨?_, ?_, ?_⟩
  · rw [release_obj, leaveZone_obj, leaving, cleared]
    simp only [returning, discharged, Function.update_self, Function.update_idem]
    show Function.update (Function.update here.obj t _) t _ = _
    rw [Function.update_idem, obj]
  · rw [release_zones, leaveZone_zones, zonesWithout, zonesWithout, leaving, cleared]
    show (match srv.leaves t with
      | none => here.zones
      | some zone => Function.update here.zones _ _) = _
    rw [zones]
    rfl
  · rw [release_pool, leaveZone_pool]
    simp only [returning]
    show (if srv.Returns t then { here.pool with
      reusableIndices := here.pool.reusableIndices ++ [t]
      availableIndexSet := t :: here.pool.availableIndexSet } else here.pool) = _
    rw [pool]

theorem removeSession_obj (srv : Server) (sessionId : Int) (x : Ref) :
    (srv.obj x).Removed ((srv.removeSession sessionId).obj x) := by
  rcases filed : srv.manager.findSession sessionId with _ | t
  · rw [removeSession_unfiled filed]
    exact .refl _
  · rw [(removeSession_filed filed).1]
    by_cases here : x = t
    · subst here
      rw [Function.update_self]
      exact discharged_removed srv x
    · rw [Function.update_of_ne here]
      exact .refl _

/-! ## Closing -/

/-- The object shut, before its id is removed. -/
def shut (srv : Server) (s : Ref) : Server := srv.modify s Session.shutDown

theorem closeSession_eq (srv : Server) (s : Ref) :
    srv.closeSession s = if (srv.obj s).Closable then
      ((srv.shut s).removeSession (srv.obj s).sessionId).modify s Session.cleanup
    else srv := by
  by_cases closable : (srv.obj s).Closable
  · have taken : (srv.obj s).tryClose = some { srv.obj s with life := .closing } :=
      if_pos closable
    simp only [closeSession, taken, modify_obj_self, if_pos closable]
    rfl
  · have refused : (srv.obj s).tryClose = none := if_neg closable
    simp only [closeSession, refused, if_neg closable]

theorem closeSession_refused {srv : Server} {s : Ref} (refused : ¬ (srv.obj s).Closable) :
    srv.closeSession s = srv := by
  rw [closeSession_eq, if_neg refused]

/-- **A close that gets past its guard**, object by object. -/
theorem closeSession_obj {srv : Server} {s : Ref} (closable : (srv.obj s).Closable) :
    (∃ y, (srv.obj s).shutDown.Removed y ∧ (srv.closeSession s).obj s = y.cleanup) ∧
      ∀ x, x ≠ s → (srv.obj x).Removed ((srv.closeSession s).obj x) := by
  rw [closeSession_eq, if_pos closable]
  refine ⟨⟨_, ?_, modify_obj_self _ s _⟩, fun x other => ?_⟩
  · have removed := removeSession_obj (srv.shut s) (srv.obj s).sessionId s
    rwa [shut, modify_obj_self] at removed
  · have removed := removeSession_obj (srv.shut s) (srv.obj s).sessionId x
    rw [modify_obj_other _ _ other]
    rwa [shut, modify_obj_other _ _ other] at removed

/-- What removals and the close of an object do, a close does to each. -/
theorem closeSession_each (rel : Session → Session → Prop)
    (removed : ∀ {x y : Session}, x.Removed y → rel x y)
    (closed : ∀ {x y : Session}, x.shutDown.Removed y → rel x y.cleanup) (srv : Server)
    (t s : Ref) : rel (srv.obj s) ((srv.closeSession t).obj s) := by
  by_cases closable : (srv.obj t).Closable
  · obtain ⟨⟨y, shut, cleaned⟩, others⟩ := closeSession_obj closable
    by_cases here : s = t
    · subst here
      rw [cleaned]
      exact closed shut
    · exact removed (others s here)
  · rw [closeSession_refused closable]
    exact removed (.refl _)

/-! ## Posts and completions -/

section Writing

variable {env : Env} {srv : Server} {P : Server → Prop}

/-- What the steps of a post keep: the message is queued, an overflow closes the
session, and an idle queue is started. -/
theorem writeNow_keeps {s : Ref} (message : String)
    (queued : P (srv.modify s fun _ => ((srv.obj s).enqueueWrite env.config message).1))
    (closed : ((srv.obj s).enqueueWrite env.config message).2 = true →
      P ((srv.modify s fun _ => ((srv.obj s).enqueueWrite env.config message).1).close s))
    (started : ∀ srv, P srv →
      P ((srv.modify s fun x => { x with writeInProgress := true }).doWriteQueue s)) :
    P (srv.writeNow env s message) := by
  have posted : P (if ((srv.obj s).enqueueWrite env.config message).2 = true then
      (srv.modify s fun _ => ((srv.obj s).enqueueWrite env.config message).1).close s
    else srv.modify s fun _ => ((srv.obj s).enqueueWrite env.config message).1) := by
    split
    · rename_i overflows
      exact closed overflows
    · exact queued
  simp only [writeNow]
  split
  · exact started _ posted
  · exact posted

/-- What the steps of a completion keep: the write is taken off, and one of the present
generation closes the session or starts the next. -/
theorem writeDone_keeps {op : WriteOp} {failed : Bool}
    (landed : P { srv with writes := srv.writes.erase op })
    (closed : op.generation = (srv.obj op.session).generation → failed = true →
      P (({ srv with writes := srv.writes.erase op } : Server).close op.session))
    (next : P ((({ srv with writes := srv.writes.erase op } : Server).modify op.session fun x =>
      { x with writeQueue := x.writeQueue.tail }).doWriteQueue op.session)) :
    P (srv.writeDone op failed) := by
  simp only [writeDone]
  split
  · exact landed
  · rename_i current
    split
    · rename_i fails
      exact closed (Decidable.of_not_not current) fails
    · exact next

end Writing

/-! ## Handing out -/

/-- The call hands out the object. -/
def HandsOut (srv : Server) (s : Ref) : Call → Prop
  | .acquire _ _ => srv.nextFree = some s
  | _ => False

instance (srv : Server) (s : Ref) : ∀ c, Decidable (srv.HandsOut s c)
  | .acquire _ _ => inferInstanceAs (Decidable (_ = _))
  | .closeSession _ => inferInstanceAs (Decidable False)
  | .write _ _ => inferInstanceAs (Decidable False)
  | .writeDone _ _ => inferInstanceAs (Decidable False)
  | .assignSessionToZone _ _ => inferInstanceAs (Decidable False)
  | .leaveZone _ => inferInstanceAs (Decidable False)
  | .elsewhere _ => inferInstanceAs (Decidable False)

theorem Calls.keepsOut {buffers : Bool} {srv : Server} {c : Call}
    (keeps : Calls false buffers srv c) {s : Ref} : ¬ srv.HandsOut s c := by
  intro hands
  cases c with
  | acquire now sessionId => cases keeps
  | _ => cases hands

/-- A new use: nothing queued, idle, and two generations on. -/
theorem handOut_fresh (x : Session) (now : Time) (sessionId : Int) :
    (x.handOut now sessionId).strand = x.strand + 1 ∧
      (x.handOut now sessionId).generation = x.generation + 2 ∧
      (x.handOut now sessionId).writeQueue = [] ∧ (x.handOut now sessionId).life = .idle ∧
      (x.handOut now sessionId).state = .handshaking := by
  simp only [Session.handOut, Session.setActive, Session.tryActivate, if_true]
  split <;> exact ⟨rfl, rfl, rfl, rfl, rfl⟩

theorem acquire_obj (srv : Server) (now : Time) (sessionId : Int) (s : Ref) :
    (srv.acquire now sessionId s).obj s = (srv.obj s).handOut now sessionId :=
  Function.update_self ..

end Server

end GameServer.Kernel
