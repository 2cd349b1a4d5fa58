/-
# Kernel.Endpoints -- one endpoint, one session

A registration from an endpoint another session holds replaces the entry of the
endpoint map; the other session keeps the endpoint in its own field, which is what
`on_udp_receive` compares a datagram's sender with.

* `Fewer.exec` -- no operation but a registration gives a session an endpoint;
* `one_session_each` -- runs in which no registration comes from an endpoint that
  another session still holds;
* `replaced_still_accepted` -- two sessions register from one endpoint, and the
  first goes on being accepted there.
-/
import GameServer.Kernel.Occupancy
import GameServer.Kernel.Provenance

namespace GameServer.Kernel

set_option autoImplicit false

open Wire Dbmw Theory.Runs

/-! ## What is asked of a server -/

/-- A command of the session from this endpoint passes the checks, at some time and
with some token. -/
def Server.Accepts (srv : Server) (s : Ref) (e : Endpoint) : Prop :=
  ∃ now token, srv.rejection now s token e = none

/-- No two sessions of the pool hold one endpoint, and a session that holds an endpoint
is the only one accepted there. -/
structure Server.OneSessionEach (srv : Server) : Prop where
  endpoint : ∀ e x y, x < srv.pool.size → y < srv.pool.size →
    (srv.obj x).udpEndpoint = some e → (srv.obj y).udpEndpoint = some e → x = y
  accepted : ∀ e x y, x < srv.pool.size → y < srv.pool.size →
    (srv.obj x).udpEndpoint = some e → srv.Accepts y e → x = y

theorem Server.Accepts.bound {srv : Server} {s : Ref} {e : Endpoint} (accepts : srv.Accepts s e) :
    (srv.obj s).udpEndpoint = some e := by
  obtain ⟨now, token, passed⟩ := accepts
  unfold rejection at passed
  split at passed
  · cases passed
  · split at passed
    · cases passed
    · split at passed
      · cases passed
      · rename_i same
        simpa using same

namespace Registry

/-- The endpoint an object holds. -/
def endpoint (r : Registry) (s : Ref) : Option Endpoint := (r.holder s).udp.endpoint

/-- A registration comes from an endpoint no other session holds. -/
def BindsVacant (r : Registry) : Note → Prop
  | .registerUdp s registration =>
      ∀ x < r.size, x ≠ s → r.endpoint x ≠ some registration.endpoint
  | _ => True

instance (r : Registry) : ∀ note, Decidable (r.BindsVacant note)
  | .registerUdp _ _ => Nat.decidableBallLT _ _
  | .accept _ => inferInstanceAs (Decidable True)
  | .close _ => inferInstanceAs (Decidable True)
  | .enroll _ _ _ _ => inferInstanceAs (Decidable True)
  | .clearUdpToken _ => inferInstanceAs (Decidable True)

/-- The free objects are of the pool. -/
def InPool (r : Registry) : Prop := ∀ s ∈ r.free, s < r.size

/-! ## Who gains an endpoint -/

/-- Nobody gains an endpoint. -/
structure Fewer (r r' : Registry) : Prop where
  inPool : r.InPool → r'.InPool
  endpoint : r.InPool → ∀ e x, x < r'.size → r'.endpoint x = some e →
    x < r.size ∧ r.endpoint x = some e

theorem Fewer.refl (r : Registry) : r.Fewer r := ⟨id, fun _ _ _ inside held => ⟨inside, held⟩⟩

theorem Fewer.trans {r r' r'' : Registry} (first : r.Fewer r') (second : r'.Fewer r'') :
    r.Fewer r'' where
  inPool := second.inPool ∘ first.inPool
  endpoint inPool e x inside held := by
    obtain ⟨inside', held'⟩ := second.endpoint (first.inPool inPool) e x inside held
    exact first.endpoint inPool e x inside' held'

/-- Indexes apart, nothing changes. -/
theorem Fewer.of_eq {r r' : Registry} (holder : r'.holder = r.holder) (size : r'.size = r.size)
    (free : r'.free = r.free) : r.Fewer r' where
  inPool inPool s member := size ▸ inPool s (free ▸ member)
  endpoint _ e x inside held := ⟨size ▸ inside, by rwa [Registry.endpoint, ← holder]⟩

/-- A method that keeps the endpoint or clears it. -/
theorem fewer_modify (r : Registry) (s : Ref) {f : Holder → Holder}
    (kept : ∀ h e, (f h).udp.endpoint = some e → h.udp.endpoint = some e) :
    r.Fewer (r.modify s f) where
  inPool := id
  endpoint _ e x inside held := by
    refine ⟨inside, ?_⟩
    by_cases here : x = s
    · subst here
      rw [Registry.endpoint, modify_self] at held
      exact kept _ e held
    · rwa [Registry.endpoint, modify_other _ _ _ here] at held

theorem fewer_release (r : Registry) (s : Ref) : r.Fewer (r.release s) := by
  unfold release
  split
  · rename_i returns
    refine Fewer.trans (fewer_modify r s (f := fun h => { h.clean with life := .released })
      fun _ _ held => nomatch held) ⟨fun inPool x member => ?_, fun _ _ _ inside held => ⟨inside, held⟩⟩
    rcases List.mem_append.mp member with old | new
    · exact inPool x old
    · rw [List.mem_singleton.mp new]
      exact returns.1
  · exact .refl r

theorem fewer_remove (r : Registry) (sessionId : Int) : r.Fewer (r.remove sessionId) := by
  cases found : r.entry sessionId with
  | none =>
      rw [remove_of_none found]
      exact .refl r
  | some s =>
      obtain ⟨zoneId, removed⟩ := remove_of_entry found
      have erased : r.Fewer (r.setEntry sessionId none) := .of_eq rfl rfl rfl
      rw [removed]
      exact erased.trans ((fewer_modify _ s (f := fun h => { h.clearToken with zoneId })
        fun _ _ held => held).trans (fewer_release _ s))

theorem fewer_close (r : Registry) (s : Ref) : r.Fewer (r.close s) := by
  unfold close
  split
  · have shut : r.Fewer (r.modify s Holder.shut) := fewer_modify r s fun _ _ held => held
    exact shut.trans ((fewer_remove _ _).trans (fewer_modify _ s fun _ _ held => nomatch held))
  · exact .refl r

theorem fewer_file (r : Registry) (s : Ref) : r.Fewer (r.file s) := by
  have filed : r.Fewer (r.setEntry (r.holder s).sessionId (some s)) := .of_eq rfl rfl rfl
  unfold file
  dsimp only
  split
  · exact filed.trans (fewer_close _ _)
  · exact filed

theorem fewer_evict (r : Registry) (nickname : String) (s : Ref) :
    r.Fewer (r.evict nickname s) := by
  rcases evict_cases r nickname s with same | ⟨p, -, -, closed⟩
  · rw [same]
    exact .refl r
  · rw [closed]
    exact fewer_close r p

/-- An object handed out holds no endpoint. -/
theorem fewer_acquire {r : Registry} {s : Ref} (next : r.nextFree = some s) (sessionId : Int) :
    r.Fewer (r.acquire sessionId s) where
  inPool inPool x member :=
    Nat.lt_of_lt_of_le (inPool x (List.mem_of_mem_tail member)) (Nat.le_max_left ..)
  endpoint inPool e x inside held := by
    have bounded : s ≤ r.size := by
      rcases nextFree_cases next with ⟨rest, same⟩ | ⟨-, rfl⟩
      · exact Nat.le_of_lt (inPool s (same ▸ List.mem_cons_self))
      · exact Nat.le_refl _
    change ((r.modify s (Holder.handOut sessionId)).holder x).udp.endpoint = some e at held
    by_cases here : x = s
    · subst here
      rw [modify_self] at held
      cases held
    · rw [modify_other _ _ _ here] at held
      refine ⟨?_, held⟩
      rcases Nat.lt_or_ge x r.size with within | outside
      · exact within
      · have past : s + 1 ≤ x :=
          Nat.lt_of_le_of_ne (Nat.le_trans bounded outside) (Ne.symm here)
        exact absurd inside (Nat.not_lt.mpr (Nat.max_le.mpr ⟨outside, past⟩))

theorem fewer_accept (r : Registry) (sessionId : Int) : r.Fewer (r.accept sessionId) := by
  unfold accept
  cases next : r.nextFree with
  | none => exact .refl r
  | some s => exact (fewer_acquire next sessionId).trans (fewer_file _ _)

theorem fewer_enroll (r : Registry) (s : Ref) (nickname : String) (zoneId : Int) :
    r.Fewer (r.enroll s nickname zoneId) := by
  have evicted : r.Fewer (((r.file s).evict nickname s).evict nickname s) :=
    (fewer_file r s).trans ((fewer_evict _ nickname s).trans (fewer_evict _ nickname s))
  have indexed : r.Fewer ((((r.file s).evict nickname s).evict nickname s).setIndex nickname s) :=
    evicted.trans (.of_eq rfl rfl rfl)
  exact indexed.trans (fewer_modify _ s (f := fun h => { h with nickname := nickname, zoneId })
    fun _ _ held => held)

/-- **No operation but a registration gives a session an endpoint.** -/
theorem Fewer.exec (r : Registry) {note : Note} (other : note.isRegistration = false) :
    r.Fewer (r.exec note) := by
  cases note with
  | accept sessionId => exact fewer_accept r sessionId
  | close s => exact fewer_close r s
  | enroll flow generation serving zoneId => exact fewer_enroll r _ _ _
  | registerUdp s registration => cases other
  | clearUdpToken s => exact fewer_modify r s fun _ _ held => held

/-! ## One holder for each endpoint -/

structure OneEach (r : Registry) : Prop where
  inPool : r.InPool
  endpoint : ∀ e x y, x < r.size → y < r.size → r.endpoint x = some e → r.endpoint y = some e → x = y

theorem OneEach.fewer {r r' : Registry} (each : r.OneEach) (fewer : r.Fewer r') : r'.OneEach where
  inPool := fewer.inPool each.inPool
  endpoint e x y insideX insideY heldX heldY := by
    obtain ⟨inX, holdsX⟩ := fewer.endpoint each.inPool e x insideX heldX
    obtain ⟨inY, holdsY⟩ := fewer.endpoint each.inPool e y insideY heldY
    exact each.endpoint e x y inX inY holdsX holdsY

theorem OneEach.register {r : Registry} (each : r.OneEach) {s : Ref} {registration : Registration}
    (vacant : r.BindsVacant (.registerUdp s registration)) :
    (r.modify s (Holder.register registration r.lifetime)).OneEach where
  inPool := each.inPool
  endpoint e x y insideX insideY heldX heldY := by
    have self : (r.modify s (Holder.register registration r.lifetime)).endpoint s =
        some registration.endpoint := by
      rw [Registry.endpoint, modify_self]
      rfl
    have other : ∀ z, z ≠ s →
        (r.modify s (Holder.register registration r.lifetime)).endpoint z = r.endpoint z :=
      fun z away => by rw [Registry.endpoint, modify_other _ _ _ away, Registry.endpoint]
    by_cases hereX : x = s
    · by_cases hereY : y = s
      · exact hereX.trans hereY.symm
      · -- the other one would hold the endpoint the registration came from
        rw [hereX, self] at heldX
        rw [other y hereY, ← heldX] at heldY
        exact absurd heldY (vacant y insideY hereY)
    · by_cases hereY : y = s
      · rw [hereY, self] at heldY
        rw [other x hereX, ← heldY] at heldX
        exact absurd heldX (vacant x insideX hereX)
      · rw [other x hereX] at heldX
        rw [other y hereY] at heldY
        exact each.endpoint e x y insideX insideY heldX heldY

theorem OneEach.exec {r : Registry} (each : r.OneEach) {note : Note} (vacant : r.BindsVacant note) :
    (r.exec note).OneEach := by
  cases note with
  | registerUdp s registration => exact each.register vacant
  | accept sessionId => exact each.fewer (.exec r rfl)
  | close s => exact each.fewer (.exec r rfl)
  | enroll flow generation serving zoneId => exact each.fewer (.exec r rfl)
  | clearUdpToken s => exact each.fewer (.exec r rfl)

end Registry

namespace Server

theorem initial_oneEach (env : Env) (router : Option (DBmwRouter LoginFlow)) :
    ((initial env router).registry env).OneEach :=
  ⟨fun _ member => List.mem_range.mp member, fun _ _ _ _ _ held => nomatch held⟩

/-- **One endpoint, one session**, in every run whose registrations come from endpoints
that no other session holds. -/
theorem one_session_each (env : Env) (router : Option (DBmwRouter LoginFlow)) (events : List Event)
    (vacant : Along (step env)
      (fun srv e => Along Registry.exec Registry.BindsVacant (srv.registry env) (notes env srv e))
      (initial env router) events) :
    (after env router events).OneSessionEach := by
  have each : ((after env router events).registry env).OneEach :=
    (step_refines env).invariant Registry.OneEach
      (fun r notes each vacant _ => run_invariant (fun _ _ each => each.exec) each vacant)
      (initial_sane env router) (initial_oneEach env router) vacant
  refine ⟨each.endpoint, fun e x y insideX insideY heldX accepts => ?_⟩
  exact each.endpoint e x y insideX insideY heldX accepts.bound

def leeText : String := "\x7b\"type\":\"login\",\"nickname\":\"lee\"\x7d"

def leeRegisterText : String := "\x7b\"type\":\"udp_register\",\"nickname\":\"lee\"\x7d"

/-- A small server that reads the logins and registrations of kim and lee. -/
def pairEnv (poolSize : Nat) : Env :=
  { trialEnv poolSize with
    parse := readsAs [(kimText, kimLogin),
      (leeText, .obj [("type", .str "login"), ("nickname", .str "lee")]),
      (registerText, .obj [("type", .str "udp_register"), ("nickname", .str "kim")]),
      (leeRegisterText, .obj [("type", .str "udp_register"), ("nickname", .str "lee")])] }

/-- A connection logs in as lee. -/
def signInLee (o : Origin) : List Event :=
  [.post ⟨o.session, o.strand, .task .readSome⟩,
    .readDone ⟨o, true⟩ (.data ([0, 0, 0, 33] ++ utf8 leeText)),
    .handlerStep 0 o false, .handlerStep 0 o false]

/-- kim and lee log in, kim registers from her endpoint, and lee from another one. -/
def bothRegister (leeEndpoint : Endpoint) : List Event :=
  [.accept 0 [0], .accept 0 [0, 1]] ++ signIn ⟨0, 1, 2⟩ ++ signInLee ⟨1, 1, 2⟩ ++
    [.datagram ⟨seconds 5, 0, "2f"⟩ (utf8 registerText) kimEndpoint,
      .datagram ⟨seconds 6, 0, "3a"⟩ (utf8 leeRegisterText) leeEndpoint]

/-- **The replaced session is still accepted.**  lee registers from kim's endpoint, and
kim's commands still pass from there. -/
theorem replaced_still_accepted :
    ((after (pairEnv 2) none (bothRegister kimEndpoint)).obj 0).socketOpen = true ∧
      ((after (pairEnv 2) none (bothRegister kimEndpoint)).obj 1).socketOpen = true ∧
      (after (pairEnv 2) none (bothRegister kimEndpoint)).rejection (seconds 7) 0 "2f" kimEndpoint =
        none ∧
      ¬ (after (pairEnv 2) none (bothRegister kimEndpoint)).OneSessionEach := by
  refine ⟨by decide +kernel, by decide +kernel, by decide +kernel, fun each => ?_⟩
  have same := each.endpoint kimEndpoint 0 1 (by decide +kernel) (by decide +kernel)
    (by decide +kernel) (by decide +kernel)
  exact absurd same (by decide)

/-- From endpoints of their own. -/
theorem one_session_each_apart :
    (after (pairEnv 2) none (bothRegister ⟨"10.0.0.8", 4000⟩)).OneSessionEach :=
  one_session_each _ _ _ (by decide +kernel)

end Server

end GameServer.Kernel
