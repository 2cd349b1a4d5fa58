/-
# Kernel.Bindings -- the endpoint table and the sessions it gives

`udp_endpoint_to_session_` says for each endpoint what a session's own field says the
other way round.  `remove_session` takes a session's entry out before the session is
cleaned; but the nickname index names closed sessions too, and a registration on one
puts an entry in that no close takes out again.

* `Pooled.exec` -- open sessions are filed, and never free;
* `Current.exec` -- one operation, a registration meeting an open session;
* `bindings_current` -- whole runs;
* `binding_of_closed` -- a registration after the disconnect, and the endpoint gives
  the connection that has the object next.
-/
import GameServer.Kernel.Endpoints
import GameServer.Kernel.Identity

namespace GameServer.Kernel

set_option autoImplicit false

open Wire Dbmw Theory.Runs

/-! ## What is asked of a server -/

/-- Whom the table gives for an endpoint is an open session that holds the endpoint,
by a registration of its present connection. -/
def Server.BindingsCurrent (srv : Server) : Prop :=
  ∀ e s, srv.getSessionByEndpoint e = some s →
    (srv.obj s).socketOpen = true ∧ (srv.obj s).udpEndpoint = some e ∧
      ∃ registration, (srv.obj s).registration = some registration ∧ registration.endpoint = e

namespace Registry

/-- Ids are fresh, and a registration meets an open session. -/
def BindsOpen (r : Registry) : Note → Prop
  | .accept sessionId => r.Fresh (.accept sessionId)
  | .registerUdp s _ => (r.holder s).isOpen = true
  | _ => True

instance (r : Registry) : ∀ note, Decidable (r.BindsOpen note)
  | .accept sessionId => inferInstanceAs (Decidable (r.Fresh (.accept sessionId)))
  | .registerUdp _ _ => inferInstanceAs (Decidable (_ = _))
  | .close _ => inferInstanceAs (Decidable True)
  | .enroll _ _ _ _ => inferInstanceAs (Decidable True)
  | .clearUdpToken _ => inferInstanceAs (Decidable True)

theorem BindsOpen.fresh {r : Registry} {note : Note} (binds : r.BindsOpen note) : r.Fresh note := by
  cases note with
  | accept sessionId => exact binds
  | _ => trivial

/-! ## Open sessions are filed, and never free -/

structure Pooled (r : Registry) : Prop where
  apart : r.Apart
  nodup : r.free.Nodup
  inPool : r.InPool
  /-- What has come back to the pool does not come back again. -/
  returned : ∀ s ∈ r.free, 1 ≤ (r.holder s).strand → s ∈ r.available
  used : ∀ sessionId s, r.entry sessionId = some s → 1 ≤ (r.holder s).strand
  opened : ∀ s, (r.holder s).isOpen = true → r.Held s ∧ 1 ≤ (r.holder s).strand
  filed : ∀ s, (r.holder s).isOpen = true → r.entry (r.holder s).sessionId = some s

/-- Two open sessions, or an open one and any other, differ in their ids. -/
theorem Pooled.ids {r : Registry} (pooled : r.Pooled) {s x : Ref} (other : x ≠ s)
    (isOpen : (r.holder x).isOpen = true) : (r.holder x).sessionId ≠ (r.holder s).sessionId := by
  intro same
  rcases pooled.apart.distinct x s same with here | ⟨unused, -⟩
  · exact other here
  · have used := (pooled.opened x isOpen).2
    omega

/-- A method that leaves alone who is open, in which use, under which id. -/
theorem Pooled.modify {r : Registry} (pooled : r.Pooled) (s : Ref) {f : Holder → Holder}
    (same : ∀ h : Holder, (f h).sessionId = h.sessionId ∧ (f h).strand = h.strand ∧
      (f h).life = h.life ∧ (f h).isOpen = h.isOpen) : (r.modify s f).Pooled := by
  have ids := modify_keeps (r := r) (s := s) (f := f) (g := Holder.sessionId) (same _).1
  have strands := modify_keeps (r := r) (s := s) (f := f) (g := Holder.strand) (same _).2.1
  have isOpen := modify_keeps (r := r) (s := s) (f := f) (g := Holder.isOpen) (same _).2.2.2
  refine ⟨pooled.apart.modify (same _).1 (same _).2.1 (same _).2.2.1, pooled.nodup, pooled.inPool,
    fun x member used => ?_, fun id x found => ?_, fun x now => ?_, fun x now => ?_⟩
  · rw [strands] at used
    exact pooled.returned x member used
  · rw [strands]
    exact pooled.used id x found
  · rw [isOpen] at now
    rw [strands]
    exact pooled.opened x now
  · rw [isOpen] at now
    rw [ids]
    exact pooled.filed x now

/-- What a close gives back to the pool: the object filed under the closed one's id, or
nothing. -/
theorem close_pool (r : Registry) (s : Ref) :
    (r.close s).free = r.free ∧ (r.close s).available = r.available ∨
      ∃ y, r.entry (r.holder s).sessionId = some y ∧ y < r.size ∧ y ∉ r.available ∧
        (r.close s).free = r.free ++ [y] ∧ (r.close s).available = y :: r.available := by
  unfold close
  split
  · rw [modify_free, modify_available]
    cases found : r.entry (r.holder s).sessionId with
    | none =>
        rw [remove_of_none (by exact found)]
        exact .inl ⟨rfl, rfl⟩
    | some y =>
        have entry : (r.modify s Holder.shut).entry (r.holder s).sessionId = some y := found
        obtain ⟨zoneId, removed⟩ := remove_of_entry entry
        rw [removed]
        unfold release
        split
        · rename_i returns
          exact .inr ⟨y, rfl, returns.1, returns.2, rfl, rfl⟩
        · exact .inl ⟨rfl, rfl⟩
  · exact .inl ⟨rfl, rfl⟩

theorem Pooled.close {r : Registry} (pooled : r.Pooled) (s : Ref) : (r.close s).Pooled := by
  have apart := pooled.apart
  have closable := apart.closable s
  have shut := (close_self closable).1
  have still : ∀ x, ((r.close s).holder x).isOpen = true → x ≠ s ∧ (r.holder x).isOpen = true := by
    intro x now
    have other : x ≠ s := by
      rintro rfl
      rw [shut] at now
      cases now
    exact ⟨other, by rwa [apart.close_other other] at now⟩
  have entry := close_entry closable
  -- only the closed object can come back, and it was not free
  have pool : (r.close s).free.Nodup ∧ (r.close s).InPool ∧
      (∀ x ∈ (r.close s).free, 1 ≤ (r.holder x).strand → x ∈ (r.close s).available) ∧
      ∀ x ∈ (r.close s).free, x ∈ r.free ∨ x = s := by
    rcases close_pool r s with ⟨free, available⟩ | ⟨y, found, inside, away, free, available⟩
    · rw [InPool, free, available, close_size]
      exact ⟨pooled.nodup, pooled.inPool, pooled.returned, fun _ => .inl⟩
    · obtain rfl := apart.entry s y found
      have notFree : y ∉ r.free := fun member =>
        away (pooled.returned y member (pooled.used _ y found))
      rw [InPool, free, available, close_size]
      refine ⟨?_, fun x member => ?_, fun x member used => ?_, fun x member => ?_⟩
      · refine List.nodup_append.mpr ⟨pooled.nodup, List.nodup_singleton y, ?_⟩
        rintro a member b single rfl
        exact notFree (List.mem_singleton.mp single ▸ member)
      · rcases List.mem_append.mp member with old | new
        · exact pooled.inPool x old
        · rwa [List.mem_singleton.mp new]
      · rcases List.mem_append.mp member with old | new
        · exact List.mem_cons_of_mem _ (pooled.returned x old used)
        · rw [List.mem_singleton.mp new]
          exact List.mem_cons_self
      · rcases List.mem_append.mp member with old | new
        · exact .inl old
        · exact .inr (List.mem_singleton.mp new)
  refine ⟨apart.close s, pool.1, pool.2.1, fun x member used => ?_, fun id x found => ?_,
    fun x now => ?_, fun x now => ?_⟩
  · rw [close_strand] at used
    exact pool.2.2.1 x member used
  · rw [close_strand]
    rw [entry] at found
    split at found
    · cases found
    · exact pooled.used id x found
  · obtain ⟨other, before⟩ := still x now
    obtain ⟨⟨inside, out⟩, used⟩ := pooled.opened x before
    rw [close_strand]
    exact ⟨⟨by rwa [close_size], fun member => (pool.2.2.2 x member).elim out other⟩, used⟩
  · obtain ⟨other, before⟩ := still x now
    rw [close_sessionId, entry, if_neg (pooled.ids other before)]
    exact pooled.filed x before

/-- Filing a used object under its own id. -/
theorem Pooled.setEntry {r : Registry} (pooled : r.Pooled) {s : Ref}
    (used : 1 ≤ (r.holder s).strand) : (r.setEntry (r.holder s).sessionId (some s)).Pooled := by
  refine ⟨pooled.apart.setEntry used, pooled.nodup, pooled.inPool, pooled.returned,
    fun id x found => ?_, pooled.opened, fun x now => ?_⟩
  · by_cases here : id = (r.holder s).sessionId
    · rw [here, setEntry_self] at found
      cases found
      exact used
    · rw [setEntry_other _ _ _ here] at found
      exact pooled.used id x found
  · by_cases here : x = s
    · subst here
      exact setEntry_self ..
    · rw [setEntry_holder] at now ⊢
      rw [setEntry_other _ _ _ (pooled.ids here now)]
      exact pooled.filed x now

/-- An object that is handed out is not open. -/
theorem Pooled.shut_of_nextFree {r : Registry} (pooled : r.Pooled) {s : Ref}
    (next : r.nextFree = some s) : (r.holder s).isOpen = false := by
  cases isOpen : (r.holder s).isOpen with
  | false => rfl
  | true => exact absurd (pooled.opened s isOpen).1 (not_held_of_nextFree next)

/-- The object handed out under a fresh id, filed. -/
theorem Pooled.acquire {r : Registry} (pooled : r.Pooled) {sessionId : Int}
    (fresh : r.Fresh (.accept sessionId)) {s : Ref} (next : r.nextFree = some s) :
    ((r.acquire sessionId s).setEntry sessionId (some s)).Pooled := by
  have self : ((r.acquire sessionId s).setEntry sessionId (some s)).holder s =
      (r.holder s).handOut sessionId := modify_self r s (Holder.handOut sessionId)
  have other : ∀ x, x ≠ s →
      ((r.acquire sessionId s).setEntry sessionId (some s)).holder x = r.holder x :=
    fun x away => modify_other r s (Holder.handOut sessionId) away
  have taken : s ∉ r.free.tail ∧ r.free.tail.Nodup := by
    have nodup := pooled.nodup
    rcases nextFree_cases next with ⟨rest, same⟩ | ⟨same, -⟩
    · rw [same] at nodup ⊢
      exact List.nodup_cons.mp nodup
    · rw [same]
      exact ⟨List.not_mem_nil, List.nodup_nil⟩
  refine ⟨pooled.apart.acquire fresh s, taken.2,
    ((fewer_acquire next sessionId).inPool pooled.inPool), fun x member used => ?_,
    fun id x found => ?_, fun x now => ?_, fun x now => ?_⟩
  · have away : x ≠ s := by
      rintro rfl
      exact taken.1 member
    rw [other x away] at used
    have before := pooled.returned x (List.mem_of_mem_tail member) used
    exact (List.mem_erase_of_ne away).mpr before
  · by_cases here : x = s
    · rw [here, self]
      exact Nat.succ_le_succ (Nat.zero_le _)
    · rw [other x here]
      by_cases filed : id = sessionId
      · rw [filed, setEntry_self] at found
        exact absurd (Option.some.inj found).symm here
      · rw [setEntry_other _ _ _ filed] at found
        exact pooled.used id x found
  · by_cases here : x = s
    · rw [here, self]
      exact ⟨⟨Nat.lt_of_lt_of_le (Nat.lt_succ_self s) (Nat.le_max_right ..), taken.1⟩,
        Nat.succ_le_succ (Nat.zero_le _)⟩
    · rw [other x here] at now ⊢
      obtain ⟨⟨inside, out⟩, used⟩ := pooled.opened x now
      exact ⟨⟨Nat.lt_of_lt_of_le inside (Nat.le_max_left ..), fun member =>
        out (List.mem_of_mem_tail member)⟩, used⟩
  · by_cases here : x = s
    · rw [here, self]
      exact setEntry_self ..
    · rw [other x here] at now ⊢
      have inside := (pooled.opened x now).1.1
      rw [setEntry_other _ _ _ (fresh.2 x inside)]
      exact pooled.filed x now

theorem Pooled.accept {r : Registry} (pooled : r.Pooled) {sessionId : Int}
    (fresh : r.Fresh (.accept sessionId)) : (r.accept sessionId).Pooled := by
  cases next : r.nextFree with
  | none =>
      unfold Registry.accept
      rwa [next]
  | some s =>
      have handed := pooled.acquire fresh next
      rcases accept_eq sessionId next with filed | ⟨p, -, -, filed⟩
      · rwa [filed]
      · rw [filed]
        exact handed.close p

theorem Pooled.evict {r : Registry} (pooled : r.Pooled) (nickname : String) (s : Ref) :
    (r.evict nickname s).Pooled := by
  rcases evict_cases r nickname s with same | ⟨p, -, -, closed⟩
  · rwa [same]
  · rw [closed]
    exact pooled.close p

theorem Pooled.file {r : Registry} (pooled : r.Pooled) {s : Ref}
    (used : 1 ≤ (r.holder s).strand) : (r.file s).Pooled := by
  rw [pooled.apart.file_eq]
  exact pooled.setEntry used

theorem Pooled.exec {r : Registry} (pooled : r.Pooled) {note : Note} (fresh : r.Fresh note)
    (lawful : r.Lawful note) : (r.exec note).Pooled := by
  cases note with
  | accept sessionId => exact pooled.accept fresh
  | close s => exact pooled.close s
  | enroll flow generation serving zoneId =>
      have filed := pooled.file (Nat.le_trans lawful.1.used lawful.1.strand)
      have evicted := (filed.evict flow.nickname flow.session).evict flow.nickname flow.session
      have indexed : ((((r.file flow.session).evict flow.nickname flow.session).evict flow.nickname
          flow.session).setIndex flow.nickname flow.session).Pooled :=
        { apart := evicted.apart.congr rfl (fun _ => rfl) (fun _ => rfl) evicted.apart.idle
            fun _ _ => id
          nodup := evicted.nodup
          inPool := evicted.inPool
          returned := evicted.returned
          used := evicted.used
          opened := evicted.opened
          filed := evicted.filed }
      exact indexed.modify (f := fun h => { h with nickname := flow.nickname, zoneId }) _
        fun _ => ⟨rfl, rfl, rfl, rfl⟩
  | registerUdp s registration => exact pooled.modify s fun _ => ⟨rfl, rfl, rfl, rfl⟩
  | clearUdpToken s => exact pooled.modify s fun _ => ⟨rfl, rfl, rfl, rfl⟩

end Registry

/-! ## The table -/

/-- The object holds the endpoint, by a registration from there. -/
def Holder.HoldsAt (h : Holder) (e : Endpoint) : Prop :=
  h.isOpen = true ∧ h.udp.endpoint = some e ∧
    ∃ registration, h.udp.registration = some registration ∧ registration.endpoint = e

namespace Directory

structure Current (d : Directory) : Prop where
  pooled : d.registry.Pooled
  bound : ∀ e s, d.bound e = some s → (d.registry.holder s).HoldsAt e

/-- The entries an unmapping leaves are old, and not for the object's own endpoint. -/
theorem unmap_bound {d : Directory} {s x : Ref} {e : Endpoint} (found : (d.unmap s).bound e = some x) :
    d.bound e = some x ∧ ((d.registry.holder s).udp.endpoint = some e → x ≠ s) := by
  unfold unmap at found
  cases held : (d.registry.holder s).udp.endpoint with
  | none =>
      rw [held] at found
      exact ⟨found, fun absurd => nomatch absurd⟩
  | some e' =>
      rw [held] at found
      dsimp only at found
      split at found
      · rename_i own
        by_cases here : e = e'
        · subst here
          simp at found
        · change Function.update d.bound e' none e = some x at found
          rw [Function.update_of_ne here] at found
          exact ⟨found, fun same => absurd (Option.some.inj same).symm here⟩
      · rename_i foreign
        refine ⟨found, ?_⟩
        rintro same rfl
        rw [Option.some.inj same] at foreign
        exact foreign found

/-- Steps that leave the table, and the holders it gives, as they were. -/
theorem Current.congr {d : Directory} {d' : Directory} (current : d.Current)
    (pooled : d'.registry.Pooled) (table : ∀ e s, d'.bound e = some s → d.bound e = some s)
    (holder : ∀ e s, d'.bound e = some s → (d.registry.holder s).HoldsAt e →
      (d'.registry.holder s).HoldsAt e) : d'.Current where
  pooled := pooled
  bound e s found := holder e s found (current.bound e s (table e s found))

/-- **A close takes the closed session's entry with it.** -/
theorem Current.close {d : Directory} (current : d.Current) (s : Ref) : (d.close s).Current := by
  have apart := current.pooled.apart
  have closable := apart.closable s
  have table : ∀ e x, (d.close s).bound e = some x → d.bound e = some x ∧ x ≠ s := by
    intro e x found
    unfold Directory.close at found
    rw [if_pos closable, modify_bound] at found
    have entry : (d.modify s Holder.shut).registry.entry (d.registry.holder s).sessionId =
        d.registry.entry (d.registry.holder s).sessionId := rfl
    have endpoint : ((d.modify s Holder.shut).registry.holder s).udp.endpoint =
        (d.registry.holder s).udp.endpoint := by simp [Holder.shut]
    unfold Directory.remove at found
    rw [entry] at found
    cases filed : d.registry.entry (d.registry.holder s).sessionId with
    | none =>
        -- an object that is not filed is not open, and has no entry
        rw [filed] at found
        refine ⟨found, ?_⟩
        rintro rfl
        have isOpen := (current.bound e x found).1
        rw [current.pooled.filed x isOpen] at filed
        cases filed
    | some y =>
        obtain rfl := apart.entry s y filed
        rw [filed] at found
        obtain ⟨old, own⟩ := unmap_bound found
        refine ⟨old, ?_⟩
        rintro rfl
        have holds := (current.bound e x old).2.1
        exact own (endpoint.trans holds) rfl
  refine current.congr (by rw [close_registry]; exact current.pooled.close s)
    (fun e x found => (table e x found).1) fun e x found holds => ?_
  rw [close_registry, apart.close_other (table e x found).2]
  exact holds

theorem Current.evict {d : Directory} (current : d.Current) (nickname : String) (s : Ref) :
    (d.evict nickname s).Current := by
  unfold Directory.evict
  split
  · split
    · exact current.close _
    · exact current
  · exact current

/-- Filing is putting the entry in, and perhaps the close of whom it replaces. -/
theorem file_cases (d : Directory) (s : Ref) :
    d.file s = { d with registry := d.registry.setEntry (d.registry.holder s).sessionId (some s) } ∨
      ∃ p, d.file s =
        close { d with registry := d.registry.setEntry (d.registry.holder s).sessionId (some s) }
          p := by
  unfold Directory.file
  dsimp only
  split
  · exact .inr ⟨_, rfl⟩
  · exact .inl rfl

theorem Current.filed {d : Directory} {s : Ref}
    (current : Current
      { d with registry := d.registry.setEntry (d.registry.holder s).sessionId (some s) }) :
    (d.file s).Current := by
  rcases file_cases d s with same | ⟨p, closed⟩
  · rwa [same]
  · rw [closed]
    exact current.close p

theorem Current.file {d : Directory} (current : d.Current) {s : Ref}
    (used : 1 ≤ (d.registry.holder s).strand) : (d.file s).Current :=
  filed ⟨current.pooled.setEntry used, current.bound⟩

/-- An object handed out has no entry. -/
theorem Current.accept {d : Directory} (current : d.Current) {sessionId : Int}
    (fresh : d.registry.Fresh (.accept sessionId)) : (d.accept sessionId).Current := by
  unfold Directory.accept
  cases next : d.registry.nextFree with
  | none => exact current
  | some s =>
      have given : ((d.registry.acquire sessionId s).holder s).sessionId = sessionId :=
        congrArg Holder.sessionId (Registry.modify_self d.registry s (Holder.handOut sessionId))
      have pooled : ((d.registry.acquire sessionId s).setEntry
          ((d.registry.acquire sessionId s).holder s).sessionId (some s)).Pooled := by
        rw [given]
        exact current.pooled.acquire fresh next
      refine filed ⟨pooled, fun e x found => ?_⟩
      have holds := current.bound e x found
      have away : x ≠ s := by
        rintro rfl
        rw [Holder.HoldsAt, current.pooled.shut_of_nextFree next] at holds
        exact nomatch holds.1
      show ((d.registry.modify s (Holder.handOut sessionId)).holder x).HoldsAt e
      rwa [Registry.modify_other _ _ _ away]

theorem Current.enroll {d : Directory} (current : d.Current) {s : Ref}
    (used : 1 ≤ (d.registry.holder s).strand) (nickname : String) (zoneId : Int)
    (pooled : (d.registry.enroll s nickname zoneId).Pooled) :
    (d.enroll s nickname zoneId).Current := by
  have evicted := ((current.file used).evict nickname s).evict nickname s
  refine evicted.congr (by rwa [enroll_registry]) (fun _ _ found => found) fun e x _ holds => ?_
  exact Registry.modify_preserves (P := fun h => h.HoldsAt e)
    (f := fun h => { h with nickname := nickname, zoneId }) _ s (fun _ holds => holds) holds

/-- **A registration on an open session** puts its entry in, takes the old one out, and
leaves every other session's. -/
theorem Current.register {d : Directory} (current : d.Current) {s : Ref}
    {registration : Registration} (isOpen : (d.registry.holder s).isOpen = true) :
    (d.registerUdp s registration).Current := by
  have pooled : (d.registerUdp s registration).registry.Pooled := by
    rw [registerUdp_registry]
    exact current.pooled.modify s fun _ => ⟨rfl, rfl, rfl, rfl⟩
  have table : ∀ e x, (d.registerUdp s registration).bound e = some x →
      x = s ∧ e = registration.endpoint ∨ x ≠ s ∧ d.bound e = some x := by
    intro e x found
    change (d.rebind s registration.endpoint).bound e = some x at found
    unfold Directory.rebind at found
    split at found
    · rename_i same
      by_cases here : x = s
      · subst here
        have held := (current.bound e x found).2.1
        exact .inl ⟨rfl, Option.some.inj (held.symm.trans same)⟩
      · exact .inr ⟨here, found⟩
    · change Function.update (d.unmap s).bound registration.endpoint (some s) e = some x at found
      by_cases new : e = registration.endpoint
      · subst new
        rw [Function.update_self] at found
        exact .inl ⟨(Option.some.inj found).symm, rfl⟩
      · rw [Function.update_of_ne new] at found
        obtain ⟨old, own⟩ := unmap_bound found
        refine .inr ⟨?_, old⟩
        rintro rfl
        exact own (current.bound e x old).2.1 rfl
  refine ⟨pooled, fun e x found => ?_⟩
  rw [registerUdp_registry]
  rcases table e x found with ⟨rfl, rfl⟩ | ⟨other, old⟩
  · rw [Registry.modify_self]
    exact ⟨isOpen, rfl, registration, rfl, rfl⟩
  · rw [Registry.modify_other _ _ _ other]
    exact current.bound e x old

theorem Current.exec {d : Directory} (current : d.Current) {note : Note}
    (binds : d.registry.BindsOpen note) (lawful : d.registry.Lawful note) :
    (d.exec note).Current := by
  cases note with
  | accept sessionId => exact current.accept binds
  | close s => exact current.close s
  | enroll flow generation serving zoneId =>
      exact current.enroll (Nat.le_trans lawful.1.used lawful.1.strand) _ _
        (current.pooled.exec binds.fresh lawful)
  | registerUdp s registration => exact current.register binds
  | clearUdpToken s =>
      refine current.congr (current.pooled.modify s fun _ => ⟨rfl, rfl, rfl, rfl⟩)
        (fun _ _ found => found) fun e x _ holds => ?_
      exact Registry.modify_preserves (P := fun h => h.HoldsAt e) (f := Holder.clearToken) _ s
        (fun _ holds => holds) holds

end Directory

namespace Server

theorem initial_current (env : Env) (router : Option (DBmwRouter LoginFlow)) :
    ((initial env router).directory env).Current where
  pooled := {
    apart := initial_apart env router
    nodup := List.nodup_range
    inPool := fun _ member => List.mem_range.mp member
    returned := fun _ _ used => absurd used (Nat.not_succ_le_zero 0)
    used := fun _ _ found => by simp [directory, registry, initial, SessionManager.findSession] at found
    opened := fun _ isOpen => nomatch isOpen
    filed := fun _ isOpen => nomatch isOpen }
  bound := fun _ _ found => nomatch found

/-- **The endpoint table gives open sessions that hold the endpoint**, in every run that
draws no id twice and whose registrations meet open sessions. -/
theorem bindings_current (env : Env) (router : Option (DBmwRouter LoginFlow)) (events : List Event)
    (binds : Along (step env)
      (fun srv e => Along Registry.exec Registry.BindsOpen (srv.registry env) (notes env srv e))
      (initial env router) events) :
    (after env router events).BindingsCurrent := by
  have preserved : ∀ (d : Directory) (notes : List Note), d.Current →
      Along Registry.exec Registry.BindsOpen d.registry notes →
      Along Directory.exec (fun d note => d.registry.Lawful note) d notes →
      (run Directory.exec d notes).Current :=
    fun d notes current binds lawful =>
      run_invariant (fun _ _ current both => current.exec both.1 both.2) current
        (along_and (Directory.along_registry.mpr binds) lawful)
  have current : ((after env router events).directory env).Current :=
    (step_refines_directory env).invariant Directory.Current preserved (initial_sane env router)
      (initial_current env router) binds
  exact fun e s found => current.bound e s found

/-- kim logs in and is reset by her peer; a registration under her name comes after, and
the next connection gets the object. -/
def registerAfterReset : List Event :=
  [.accept 0 [0]] ++ signIn ⟨0, 1, 2⟩ ++
    [.readDone ⟨⟨0, 1, 2⟩, true⟩ .connectionReset,
      .datagram ⟨seconds 5, 0, "2f"⟩ (utf8 registerText) kimEndpoint, .accept 0 [0]]

/-- **The endpoint gives another client's session.** -/
theorem binding_of_closed :
    (after (pairEnv 1) none registerAfterReset).getSessionByEndpoint kimEndpoint = some 0 ∧
      ((after (pairEnv 1) none registerAfterReset).obj 0).udpEndpoint = none ∧
      ¬ (after (pairEnv 1) none registerAfterReset).BindingsCurrent := by
  refine ⟨by decide +kernel, by decide +kernel, fun current => ?_⟩
  have held := (current kimEndpoint 0 (by decide +kernel)).2.1
  exact absurd held (by decide +kernel)

/-- The registration comes before the reset. -/
theorem bindings_current_in_time :
    (after (pairEnv 1) none ([.accept 0 [0]] ++ signIn ⟨0, 1, 2⟩ ++
      [.datagram ⟨seconds 5, 0, "2f"⟩ (utf8 registerText) kimEndpoint,
        .readDone ⟨⟨0, 1, 2⟩, true⟩ .connectionReset, .accept 0 [0]])).BindingsCurrent :=
  bindings_current _ _ _ (by decide +kernel)

end Server

end GameServer.Kernel
