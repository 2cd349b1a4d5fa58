/-
# Kernel.Zones -- which zones list which sessions

A zone lists sessions by id, and a session holds its id and the id of its zone.
`assign_session_to_zone` writes both, without a look at the zone the session is in or
at its socket; `remove_session` clears both; `cleanup()`, which ends every use, clears
the session's side alone.

* `zones_agree` -- zones list exactly the open sessions that say so, in every run in
  which sessions out of their zone are assigned, handed out or closed unregistered;
* `late_login_listed` -- a login completed after its connection is closed leaves the
  closed session in a zone.
-/
import GameServer.Kernel.Lifecycle
import GameServer.Theory.Membership

namespace GameServer.Kernel

set_option autoImplicit false

open Wire Dbmw Theory.Runs Theory.Membership

namespace Session

/-- The id and the zone id of an open session. -/
def seat (x : Session) : Option (Int × Int) :=
  if x.socketOpen then some (x.sessionId, x.zoneId) else none

end Session

namespace Server

/-- The zones, as what they list. -/
def rosters (srv : Server) (zoneId : Int) : Option (Int → Option Ref) :=
  (srv.zones zoneId).map fun zone sessionId => zone.lookup sessionId

/-- Where the open sessions say they are. -/
def seats (srv : Server) (s : Ref) : Option (Int × Int) := (srv.obj s).seat

/-- **A zone lists a session under an id exactly when the session is open, of that id,
and says it is in that zone.** -/
def ZonesAgree (srv : Server) : Prop :=
  ∀ zoneId zone, srv.zones zoneId = some zone → ∀ sessionId s,
    zone.lookup sessionId = some s ↔ (srv.obj s).socketOpen = true ∧
      (srv.obj s).sessionId = sessionId ∧ (srv.obj s).zoneId = zoneId

/-! ## What is asked of a call -/

/-- The session is open, and the zone it says it is in exists. -/
def InZone (srv : Server) (s : Ref) : Prop :=
  (srv.obj s).socketOpen = true ∧ (srv.zones (srv.obj s).zoneId).isSome = true

instance (srv : Server) (s : Ref) : Decidable (srv.InZone s) := inferInstanceAs (Decidable (_ ∧ _))

/-- The session is closed, and a session of its id is listed in the zone it still
says it is in. -/
def Strays (srv : Server) (s : Ref) : Prop :=
  (srv.obj s).socketOpen = false ∧
    ∃ zone ∈ srv.zones (srv.obj s).zoneId, (srv.obj s).sessionId ∈ zone

instance (srv : Server) (s : Ref) : Decidable (srv.Strays s) :=
  inferInstanceAs (Decidable (_ ∧ ∃ zone ∈ _, _))

/-- A close finds the session, if it is in a zone, filed under its id; and the session
filed under its id does not stray. -/
def ClosesFiled (srv : Server) (s : Ref) : Prop :=
  (srv.obj s).Closable →
    (srv.InZone s → srv.manager.findSession (srv.obj s).sessionId = some s) ∧
      ∀ t ∈ srv.manager.findSession (srv.obj s).sessionId, ¬ srv.Strays t

instance (srv : Server) (s : Ref) : Decidable (srv.ClosesFiled s) :=
  inferInstanceAs (Decidable (_ → _ ∧ ∀ t ∈ _, _))

/-- No session is handed out that is in a zone; sessions assigned to a zone that takes
them are open and in none; and a session taken off its zone is the one it lists. -/
def Orderly (env : Env) (srv : Server) : Call → Prop
  | .acquire _ _ => ∀ s ∈ srv.nextFree, ¬ srv.InZone s
  | .assignSessionToZone s zoneId =>
      ∀ zone ∈ srv.zones zoneId, zone.entries.length < env.config.zoneMaxSessionsCount →
        (srv.obj s).sessionId ∉ zone →
        (srv.obj s).socketOpen = true ∧ srv.zones (srv.obj s).zoneId = none
  | .leaveZone s => ¬ srv.Strays s
  | c => ∀ s, srv.Closes env s c → srv.ClosesFiled s

/-! ## Zones as tables -/

/-- The sessions and the zones agree, and no zone has a negative id. -/
structure Aligned (srv : Server) : Prop where
  agree : Agrees srv.rosters srv.seats
  positive : ∀ zoneId, (srv.zones zoneId).isSome = true → -1 < zoneId

variable {env : Env} {srv srv' : Server} {s t : Ref}

theorem seat_eq_some {x : Session} {sessionId zoneId : Int} :
    x.seat = some (sessionId, zoneId) ↔
      x.socketOpen = true ∧ x.sessionId = sessionId ∧ x.zoneId = zoneId := by
  simp only [Session.seat]
  split <;> simp_all

theorem Aligned.zonesAgree (aligned : srv.Aligned) : srv.ZonesAgree := by
  intro zoneId zone found sessionId s
  have table : srv.rosters zoneId = some fun id => zone.lookup id := by
    rw [rosters, found]
    rfl
  exact (aligned.agree zoneId _ table sessionId s).trans seat_eq_some

theorem initial_aligned (env : Env) (router : Option (DBmwRouter LoginFlow)) :
    (initial env router).Aligned := by
  have zones : ∀ zoneId, (initial env router).zones zoneId =
      if 1 ≤ zoneId ∧ zoneId ≤ env.config.maxZoneCount then some ∅ else none := fun _ => rfl
  refine ⟨fun zoneId table found sessionId s => ?_, fun zoneId here => ?_⟩
  · rw [rosters, zones] at found
    split at found
    · cases found
      exact ⟨nofun, nofun⟩
    · cases found
  · rw [zones] at here
    split at here
    · rename_i inside
      omega
    · cases here

theorem atLarge_of_closed (shut : (srv.obj s).socketOpen = false) :
    AtLarge srv.rosters srv.seats s := by
  intro key place here
  have opened := (seat_eq_some.mp here).1
  rw [shut] at opened
  cases opened

theorem atLarge_of_zone (absent : srv.zones (srv.obj s).zoneId = none) :
    AtLarge srv.rosters srv.seats s := by
  intro key place here
  obtain ⟨-, -, rfl⟩ := seat_eq_some.mp here
  rw [rosters, absent]
  rfl

theorem atLarge_of_not_inZone (out : ¬ srv.InZone s) : AtLarge srv.rosters srv.seats s := by
  by_cases opened : (srv.obj s).socketOpen = true
  · refine atLarge_of_zone ?_
    by_contra absent
    exact out ⟨opened, Option.isSome_iff_ne_none.mpr absent⟩
  · exact atLarge_of_closed (by simpa using opened)

/-- Sessions out of their zones may change in any way that leaves them out. -/
theorem Aligned.congr (aligned : srv.Aligned) (zones : srv'.zones = srv.zones)
    (same : ∀ s, (srv'.obj s).seat = (srv.obj s).seat ∨ ¬ srv.InZone s ∧ ¬ srv'.InZone s) :
    srv'.Aligned := by
  have rosters : srv'.rosters = srv.rosters := by
    funext zoneId
    rw [Server.rosters, Server.rosters, zones]
  refine ⟨?_, zones ▸ aligned.positive⟩
  rw [rosters]
  refine aligned.agree.congr fun s => (same s).imp id fun out => ?_
  exact ⟨atLarge_of_not_inZone out.1, rosters ▸ atLarge_of_not_inZone out.2⟩

theorem Aligned.leaves (aligned : srv.Aligned) (t : Ref) :
    srv.leaves t = srv.zones (srv.obj t).zoneId := by
  rw [Server.leaves]
  split
  · rfl
  · rename_i negative
    by_contra some
    exact negative (aligned.positive _ (Option.isSome_iff_ne_none.mpr (Ne.symm some)))

/-- The zone a session says it is in lists no other under its id, unless it strays. -/
theorem Aligned.own (aligned : srv.Aligned) (stays : ¬ srv.Strays t) {zone : Zone}
    (found : srv.zones (srv.obj t).zoneId = some zone) {other : Ref}
    (listed : zone.lookup (srv.obj t).sessionId = some other) : other = t := by
  by_cases opened : (srv.obj t).socketOpen = true
  · have own := (aligned.zonesAgree _ zone found _ t).mpr ⟨opened, rfl, rfl⟩
    exact Option.some.inj (listed.symm.trans own)
  · refine absurd ⟨by simpa using opened, zone, found, ?_⟩ stays
    exact AList.lookup_isSome.mp (by rw [listed]; rfl)

theorem rosters_update {zones : Int → Option Zone} {zoneId : Int} {zone : Zone}
    {table : Int → Option Ref} (same : (fun id => zone.lookup id) = table)
    (changed : srv'.zones = Function.update zones zoneId (some zone)) :
    srv'.rosters = Function.update (fun z => (zones z).map fun zone id => zone.lookup id) zoneId
      (some table) := by
  funext z
  rw [rosters, changed]
  by_cases here : z = zoneId
  · subst here
    rw [Function.update_self, Function.update_self, ← same]
    rfl
  · rw [Function.update_of_ne here, Function.update_of_ne here]

theorem lookup_erase_eq (zone : Zone) (key : Int) :
    (fun id => (zone.erase key).lookup id) =
      Function.update (fun id => zone.lookup id) key none := by
  funext id
  by_cases here : id = key
  · subst here
    rw [AList.lookup_erase, Function.update_self]
  · rw [AList.lookup_erase_ne here, Function.update_of_ne here]

theorem lookup_insert_eq (zone : Zone) (key : Int) (s : Ref) :
    (fun id => (zone.insert key s).lookup id) =
      Function.update (fun id => zone.lookup id) key (some s) := by
  funext id
  by_cases here : id = key
  · subst here
    rw [AList.lookup_insert, Function.update_self]
  · rw [AList.lookup_insert_ne here, Function.update_of_ne here]

/-- What a change of one zone does to the ids of zones. -/
theorem positive_update {zones : Int → Option Zone} {zoneId : Int} {zone zone' : Zone}
    (positive : ∀ z, (zones z).isSome = true → -1 < z) (found : zones zoneId = some zone)
    (z : Int) (here : (Function.update zones zoneId (some zone') z).isSome = true) : -1 < z := by
  by_cases same : z = zoneId
  · subst same
    exact positive z (by rw [found]; rfl)
  · rw [Function.update_of_ne same] at here
    exact positive z here

/-- **A session taken off its zone**, whatever else becomes of it. -/
theorem Aligned.drop (aligned : srv.Aligned) (stays : ¬ srv.Strays t)
    (zones : srv'.zones = srv.zonesWithout t) (gone : ¬ srv'.InZone t)
    (others : ∀ x, x ≠ t → (srv'.obj x).seat = (srv.obj x).seat) :
    srv'.Aligned := by
  rw [zonesWithout, aligned.leaves t] at zones
  rcases found : srv.zones (srv.obj t).zoneId with _ | zone
  · rw [found] at zones
    refine aligned.congr zones fun x => ?_
    by_cases here : x = t
    · subst here
      exact .inr ⟨fun inZone => by simp [InZone, found] at inZone, gone⟩
    · exact .inl (others x here)
  · rw [found] at zones
    dsimp only at zones
    refine ⟨?_, zones ▸ positive_update aligned.positive found⟩
    have table : srv.rosters (srv.obj t).zoneId = some fun id => zone.lookup id := by
      rw [rosters, found]
      rfl
    rw [rosters_update (lookup_erase_eq zone _) zones]
    refine aligned.agree.leave table (fun other => aligned.own stays found) ?_ ?_ others
    · intro key place here
      obtain ⟨-, rfl, rfl⟩ := seat_eq_some.mp here
      exact ⟨rfl, rfl⟩
    · intro key place here
      obtain ⟨opened, -, rfl⟩ := seat_eq_some.mp here
      have absent : srv'.zones (srv'.obj t).zoneId = none := by
        by_contra some
        exact gone ⟨opened, Option.isSome_iff_ne_none.mpr some⟩
      rw [zones] at absent
      by_cases same : (srv'.obj t).zoneId = (srv.obj t).zoneId
      · rw [same, Function.update_self] at absent
        cases absent
      · rw [Function.update_of_ne same] at absent
        rw [rosters, absent]
        rfl

/-! ## Closing -/

/-- What zones and closes look at. -/
def badge (x : Session) : Bool × Int × Int × LifeState :=
  (x.socketOpen, x.sessionId, x.zoneId, x.life)

/-- Zones, manager, and all they know of the sessions are as they were. -/
structure Alike (srv srv' : Server) : Prop where
  zones : srv'.zones = srv.zones
  manager : srv'.manager = srv.manager
  badge : ∀ s, badge (srv'.obj s) = badge (srv.obj s)

theorem badge_eq {x y : Session} (same : badge y = badge x) :
    y.socketOpen = x.socketOpen ∧ y.sessionId = x.sessionId ∧ y.zoneId = x.zoneId ∧
      y.life = x.life := by
  simpa only [badge, Prod.mk.injEq] using same

theorem seat_of_badge {x y : Session} (same : badge y = badge x) : y.seat = x.seat := by
  obtain ⟨opened, sessionId, zoneId, -⟩ := badge_eq same
  rw [Session.seat, Session.seat, opened, sessionId, zoneId]

theorem Alike.aligned (alike : Alike srv srv') (aligned : srv.Aligned) : srv'.Aligned :=
  aligned.congr alike.zones fun s => .inl (seat_of_badge (alike.badge s))

theorem Alike.closesFiled (alike : Alike srv srv') (filed : srv.ClosesFiled s) :
    srv'.ClosesFiled s := by
  have same (t : Ref) := badge_eq (alike.badge t)
  intro closable
  obtain ⟨own, stays⟩ := filed (by
    rw [Session.Closable, (same s).2.2.2] at closable
    exact closable)
  rw [alike.manager, (same s).2.1]
  refine ⟨fun inZone => own ?_, fun t found strays => stays t found ?_⟩
  · rwa [InZone, (same s).1, (same s).2.2.1, alike.zones] at inZone
  · rwa [Strays, (same t).1, (same t).2.1, (same t).2.2.1, alike.zones] at strays

theorem not_inZone_closed (shut : (srv.obj s).socketOpen = false) : ¬ srv.InZone s := by
  intro inZone
  rw [inZone.1] at shut
  cases shut

/-- Without a zone id, or with that of no zone, a session is in no zone. -/
theorem Aligned.left_out (aligned : srv.Aligned) (zones : srv'.zones = srv.zonesWithout t)
    (left : (srv'.obj t).zoneId = -1 ∨
      srv.leaves t = none ∧ (srv'.obj t).zoneId = (srv.obj t).zoneId) : ¬ srv'.InZone t := by
  rintro ⟨-, inside⟩
  rw [zones, zonesWithout] at inside
  rcases off : srv.leaves t with _ | zone
  · have absent : srv.zones (srv.obj t).zoneId = none := (aligned.leaves t).symm.trans off
    rw [off] at inside
    rcases left with negative | ⟨-, same⟩
    · rw [negative] at inside
      exact absurd (aligned.positive _ inside) (by decide)
    · rw [same] at inside
      have inside : (srv.zones (srv.obj t).zoneId).isSome = true := inside
      rw [absent] at inside
      cases inside
  · rcases left with negative | ⟨absent, -⟩
    · rw [off, negative] at inside
      have found : srv.zones (srv.obj t).zoneId = some zone := (aligned.leaves t).symm.trans off
      exact absurd (positive_update aligned.positive found _ inside) (by decide)
    · rw [off] at absent
      cases absent

/-- What a removal leaves of its object says so. -/
theorem discharged_zoneId (srv : Server) (t : Ref) : (srv.discharged t).zoneId = -1 ∨
    srv.leaves t = none ∧ (srv.discharged t).zoneId = (srv.obj t).zoneId := by
  rw [discharged]
  by_cases returns : srv.Returns t
  · rw [if_pos returns]
    exact .inl rfl
  · rw [if_neg returns]
    rcases left : srv.leaves t with _ | zone
    · exact .inr ⟨rfl, rfl⟩
    · exact .inl rfl

/-- **A close** of a session that, if in a zone, is filed under its id. -/
theorem Aligned.closeSession (aligned : srv.Aligned) (filed : srv.ClosesFiled s) :
    (srv.closeSession s).Aligned := by
  by_cases closable : (srv.obj s).Closable
  · obtain ⟨own, stays⟩ := filed closable
    have shutObj : (srv.shut s).obj s = (srv.obj s).shutDown := modify_obj_self ..
    have shutOthers (x : Ref) (other : x ≠ s) : (srv.shut s).obj x = srv.obj x :=
      modify_obj_other _ _ other
    have shutAligned (out : ¬ srv.InZone s) : (srv.shut s).Aligned := by
      refine aligned.congr rfl fun x => ?_
      by_cases here : x = s
      · subst here
        exact .inr ⟨out, not_inZone_closed (congrArg Session.socketOpen shutObj)⟩
      · exact .inl (congrArg Session.seat (shutOthers x here))
    have cleaned {srv : Server} (aligned : srv.Aligned) (shut : (srv.obj s).socketOpen = false) :
        (srv.modify s Session.cleanup).Aligned := by
      refine aligned.congr rfl fun x => ?_
      by_cases here : x = s
      · subst here
        refine .inr ⟨not_inZone_closed shut, not_inZone_closed ?_⟩
        rw [modify_obj_self]
        exact shut
      · exact .inl (congrArg Session.seat (modify_obj_other _ _ here))
    rw [closeSession_eq, if_pos closable]
    rcases found : srv.manager.findSession (srv.obj s).sessionId with _ | t
    · -- nobody is filed under the id, so the session is in no zone
      rw [found] at own
      have unfiled : (srv.shut s).manager.findSession (srv.obj s).sessionId = none := found
      rw [removeSession_unfiled unfiled]
      exact cleaned (shutAligned fun inZone => nomatch own inZone)
        (congrArg Session.socketOpen shutObj)
    · rw [found] at own stays
      have filed : (srv.shut s).manager.findSession (srv.obj s).sessionId = some t := found
      obtain ⟨obj, zones, -⟩ := removeSession_filed filed
      by_cases same : t = s
      · -- the session itself is taken off its zone
        subst same
        have left : (srv.shut t).zonesWithout t = srv.zonesWithout t := by
          rw [zonesWithout, zonesWithout, Server.leaves, Server.leaves, shutObj]
          rfl
        refine aligned.drop (stays t rfl) (zones.trans left) ?_ fun x other => ?_
        · refine not_inZone_closed ?_
          rw [modify_obj_self]
          have removed := (removeSession_obj (srv.shut t) (srv.obj t).sessionId t).plug
          rw [shutObj] at removed
          exact congrArg Prod.snd removed
        · rw [modify_obj_other _ _ other, obj, Function.update_of_ne other, shutOthers x other]
      · -- another session is, and this one is in no zone
        have out : ¬ srv.InZone s := fun inZone => same (Option.some.inj (own inZone))
        have aligned' := shutAligned out
        have stays' : ¬ (srv.shut s).Strays t := by
          intro strays
          rw [Strays, shutOthers t same] at strays
          exact stays t rfl strays
        have taken : ((srv.shut s).removeSession (srv.obj s).sessionId).obj t =
            (srv.shut s).discharged t := by
          rw [obj, Function.update_self]
        have gone := aligned'.left_out zones (taken ▸ discharged_zoneId (srv.shut s) t)
        refine cleaned (aligned'.drop stays' zones gone ?_) ?_
        · intro x other
          rw [obj, Function.update_of_ne other]
        · rw [obj, Function.update_of_ne (Ne.symm same), shutObj]
          rfl
  · rwa [closeSession_refused closable]

/-! ## The other calls -/

theorem Alike.refl (srv : Server) : Alike srv srv := ⟨rfl, rfl, fun _ => rfl⟩

theorem Alike.trans {srv'' : Server} (first : Alike srv srv') (second : Alike srv' srv'') :
    Alike srv srv'' :=
  ⟨second.zones.trans first.zones, second.manager.trans first.manager,
    fun s => (second.badge s).trans (first.badge s)⟩

theorem alike_modify (srv : Server) (t : Ref) (f : Session → Session)
    (same : badge (f (srv.obj t)) = badge (srv.obj t)) : Alike srv (srv.modify t f) := by
  refine ⟨rfl, rfl, fun s => ?_⟩
  by_cases here : s = t
  · subst here
    rw [modify_obj_self, same]
  · rw [modify_obj_other _ _ here]

theorem alike_doWriteQueue (srv : Server) (t : Ref) : Alike srv (srv.doWriteQueue t) := by
  rw [doWriteQueue_eq]
  split
  · exact .refl srv
  · split
    · exact alike_modify srv t _ rfl
    · exact ⟨rfl, rfl, fun _ => rfl⟩

theorem Aligned.writeNow (aligned : srv.Aligned) (message : String)
    (filed : srv.Closes env t (.write t message) → srv.ClosesFiled t) :
    (srv.writeNow env t message).Aligned := by
  have enqueued : badge ((srv.obj t).enqueueWrite env.config message).1 = badge (srv.obj t) := by
    obtain ⟨queue, count, entered⟩ := (srv.obj t).enqueueWrite_eq env.config message
    rw [entered]
    rfl
  have alike := alike_modify srv t (fun _ => ((srv.obj t).enqueueWrite env.config message).1)
    enqueued
  refine writeNow_keeps (P := Server.Aligned) message (alike.aligned aligned) (fun overflows => ?_)
    fun srv' aligned => ?_
  · have noted : Alike srv ((srv.modify t fun _ =>
        ((srv.obj t).enqueueWrite env.config message).1).note (.close t)) :=
      ⟨alike.zones, alike.manager, alike.badge⟩
    have closes : srv.Closes env t (.write t message) := ⟨rfl, overflows⟩
    exact (noted.aligned aligned).closeSession (noted.closesFiled (filed closes))
  · exact (alike_doWriteQueue _ t).aligned ((alike_modify srv' t _ rfl).aligned aligned)

theorem Aligned.writeDone (aligned : srv.Aligned) {op : WriteOp} {failed : Bool}
    (member : op ∈ srv.writes)
    (filed : srv.Closes env op.session (.writeDone op failed) → srv.ClosesFiled op.session) :
    (srv.writeDone op failed).Aligned := by
  have landed : Alike srv { srv with writes := srv.writes.erase op } := ⟨rfl, rfl, fun _ => rfl⟩
  refine writeDone_keeps (P := Server.Aligned) (landed.aligned aligned) (fun current fails => ?_) ?_
  · have noted : Alike srv
        (({ srv with writes := srv.writes.erase op } : Server).note (.close op.session)) :=
      ⟨rfl, rfl, fun _ => rfl⟩
    have closes : srv.Closes env op.session (.writeDone op failed) := ⟨member, rfl, current, fails⟩
    exact (noted.aligned aligned).closeSession (noted.closesFiled (filed closes))
  · refine (alike_doWriteQueue _ _).aligned ?_
    exact (alike_modify _ _ _ rfl).aligned (landed.aligned aligned)

/-- **An assignment** of an open session that is in no zone. -/
theorem Aligned.assign (aligned : srv.Aligned) (zoneId : Int)
    (orderly : srv.Orderly env (.assignSessionToZone s zoneId)) :
    (srv.assignSessionToZone env s zoneId).Aligned := by
  rcases assignSessionToZone_cases env srv s zoneId with
    ⟨-, same⟩ | ⟨zone, found, room, unlisted, enters⟩
  · rw [same]
    exact aligned
  · obtain ⟨opened, absent⟩ := orderly zone found room unlisted
    have table : srv.rosters zoneId = some fun id => zone.lookup id := by
      rw [rosters, found]
      rfl
    have seated : ((srv.modify s fun x => { x with zoneId }).obj s).seat =
        some ((srv.obj s).sessionId, zoneId) := by
      rw [modify_obj_self]
      exact seat_eq_some.mpr ⟨opened, rfl, rfl⟩
    rw [enters]
    refine ⟨?_, positive_update aligned.positive found⟩
    rw [rosters_update (lookup_insert_eq zone _ s) rfl]
    refine aligned.agree.enter table ?_ (atLarge_of_zone absent) seated fun x other => ?_
    · exact AList.lookup_eq_none.mpr unlisted
    · exact congrArg Session.seat (modify_obj_other _ _ other)

/-- **A session that does not stray** taken off its zone. -/
theorem Aligned.leaveZone (aligned : srv.Aligned) (stays : ¬ srv.Strays t) :
    (srv.leaveZone t).Aligned := by
  refine aligned.drop stays (leaveZone_zones srv t) ?_ fun x other => ?_
  · refine aligned.left_out (leaveZone_zones srv t) ?_
    rw [leaveZone_obj, Function.update_self]
    rcases srv.leaves t with _ | zone
    · exact .inr ⟨rfl, rfl⟩
    · exact .inl rfl
  · rw [leaveZone_obj, Function.update_of_ne other]

/-- **An object handed out** that is in no zone. -/
theorem Aligned.acquire (aligned : srv.Aligned) (out : ¬ srv.InZone s) (now : Time)
    (sessionId : Int) : (srv.acquire now sessionId s).Aligned := by
  refine aligned.congr rfl fun x => ?_
  by_cases here : x = s
  · subst here
    refine .inr ⟨out, fun inZone => ?_⟩
    have negative : ((srv.acquire now sessionId x).obj x).zoneId = -1 := by
      rw [acquire_obj]
      rfl
    have inside := inZone.2
    rw [negative] at inside
    exact absurd (aligned.positive _ inside) (by decide)
  · exact .inl (congrArg Session.seat (modify_obj_other _ _ here))

/-- **One call.** -/
theorem Aligned.call (aligned : srv.Aligned) {c : Call} (orderly : srv.Orderly env c) :
    (srv.call env c).Aligned := by
  cases c with
  | acquire now sessionId =>
      simp only [Server.call]
      split
      · exact aligned
      · rename_i s next
        exact aligned.acquire (orderly s next) now sessionId
  | closeSession s => exact aligned.closeSession (orderly s rfl)
  | write s message => exact aligned.writeNow message (orderly s)
  | writeDone op failed =>
      simp only [Server.call]
      split
      · rename_i member
        exact aligned.writeDone member (orderly op.session)
      · exact aligned
  | assignSessionToZone s zoneId => exact aligned.assign zoneId orderly
  | leaveZone s => exact aligned.leaveZone orderly
  | elsewhere other => exact aligned.congr rfl fun _ => .inl rfl

/-- **Zones list exactly the open sessions that say so**, in every run whose calls are
orderly; so no session is in two zones, and no closed one in any. -/
theorem zones_agree (env : Env) (router : Option (DBmwRouter LoginFlow)) (calls : List Call)
    (orderly : Along (call env) (Orderly env) (initial env router) calls) :
    let srv := run (call env) (initial env router) calls
    srv.ZonesAgree ∧
      (∀ zoneId zoneId' zone zone' sessionId sessionId' s, srv.zones zoneId = some zone →
        srv.zones zoneId' = some zone' → zone.lookup sessionId = some s →
        zone'.lookup sessionId' = some s → zoneId = zoneId') ∧
      ∀ zoneId zone sessionId s, srv.zones zoneId = some zone →
        (srv.obj s).socketOpen = false → zone.lookup sessionId ≠ some s := by
  have preserved : ∀ (srv : Server) c, srv.Aligned → srv.Orderly env c → (srv.call env c).Aligned :=
    fun srv c aligned orderly => aligned.call orderly
  have aligned := run_invariant preserved (initial_aligned env router) orderly
  refine ⟨aligned.zonesAgree, ?_, ?_⟩
  · intro zoneId zoneId' zone zone' sessionId sessionId' s found found' listed listed'
    have table : (run (call env) (initial env router) calls).rosters zoneId =
        some fun id => zone.lookup id := by rw [rosters, found]; rfl
    have table' : (run (call env) (initial env router) calls).rosters zoneId' =
        some fun id => zone'.lookup id := by rw [rosters, found']; rfl
    exact (aligned.agree.one_place table table' listed listed').2
  · intro zoneId zone sessionId s found shut listed
    have opened := ((aligned.zonesAgree zoneId zone found sessionId s).mp listed).1
    rw [shut] at opened
    cases opened

/-- A connection filed, put in a zone and closed. -/
def inAndOut : List Call :=
  [.acquire 0 7,
    .elsewhere { initial (trialEnv 1) none with
      manager := (initial (trialEnv 1) none).manager.insertSession 7 0 },
    .assignSessionToZone 0 1, .closeSession 0]

theorem zones_agree_inAndOut :
    let srv := run (call (trialEnv 1)) (initial (trialEnv 1) none) inAndOut
    srv.ZonesAgree ∧
      (∀ zoneId zoneId' zone zone' sessionId sessionId' s, srv.zones zoneId = some zone →
        srv.zones zoneId' = some zone' → zone.lookup sessionId = some s →
        zone'.lookup sessionId' = some s → zoneId = zoneId') ∧
      ∀ zoneId zone sessionId s, srv.zones zoneId = some zone →
        (srv.obj s).socketOpen = false → zone.lookup sessionId ≠ some s := by
  refine zones_agree (trialEnv 1) none inAndOut ⟨?_, ?_, ?_, ?_, trivial⟩
  · rintro s ⟨⟩
    decide
  · exact fun _ => nofun
  · rintro zone ⟨⟩ - -
    decide
  · rintro s rfl
    decide

/-- **A login completed after its connection is closed** puts the closed session in a
zone. -/
theorem late_login_listed :
    ¬ (after (trialEnv 1) (some trialRouter) answerAfterClose).ZonesAgree := by
  intro agree
  have listed : (((after (trialEnv 1) (some trialRouter) answerAfterClose).zones 1).bind
      fun zone => zone.lookup 0) = some 0 := by decide +kernel
  obtain ⟨zone, found, lookup⟩ := Option.bind_eq_some_iff.mp listed
  have opened := ((agree 1 zone found 0 0).mp lookup).1
  exact absurd opened (by decide +kernel)

end Server

end GameServer.Kernel
