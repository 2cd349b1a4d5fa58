/-
# Kernel.Nicknames -- one session a name

A login completion closes whoever the index gives for the name before it overwrites
the entry, and a close clears the name of the session closed.

* `nickname_exclusive` -- a named session is the one the index gives for its name,
  in every run that draws no id twice;
* `two_kims` -- after 2^32 connections one is given the id of another that is still
  there, and two sessions end up with one name.
-/
import GameServer.Kernel.Identity

namespace GameServer.Kernel

set_option autoImplicit false

open Wire Dbmw Theory.Runs

namespace Registry

/-! ## Exclusive names -/

/-- Every named session is the index's for its name. -/
def Named (r : Registry) : Prop :=
  ∀ s, (r.holder s).nickname ≠ "" → r.index (r.holder s).nickname = some s

theorem Named.congr {r r' : Registry} (named : r.Named)
    (holders : ∀ s, (r'.holder s).nickname = "" ∨ (r'.holder s).nickname = (r.holder s).nickname)
    (index : r'.index = r.index) : r'.Named := by
  intro s filled
  rcases holders s with empty | same
  · exact absurd empty filled
  · rw [same] at filled ⊢
    exact index ▸ named s filled

theorem Named.close {r : Registry} (named : r.Named) (apart : r.Apart) (s : Ref) :
    (r.close s).Named := by
  refine named.congr (fun x => ?_) (close_index r s)
  by_cases here : x = s
  · subst here
    exact .inl (close_self (apart.closable x)).2.1
  · exact .inr (congrArg Holder.nickname (apart.close_other here))

theorem Named.evict {r : Registry} (named : r.Named) (apart : r.Apart) (nickname : String) (s : Ref) :
    (r.evict nickname s).Named := by
  unfold Registry.evict
  split
  · split
    · exact named.close apart _
    · exact named
  · exact named

/-- After the eviction nobody else has the name. -/
theorem Named.evicted {r : Registry} (named : r.Named) (apart : r.Apart) {nickname : String}
    (filled : nickname ≠ "") {s x : Ref} (other : x ≠ s) :
    ((r.evict nickname s).holder x).nickname ≠ nickname := by
  intro same
  unfold Registry.evict at same
  split at same
  · rename_i p found
    split at same
    · by_cases here : x = p
      · subst here
        rw [(close_self (apart.closable x)).2.1] at same
        exact filled same.symm
      · rw [apart.close_other here] at same
        have index := named x (same ▸ filled)
        rw [same, found] at index
        exact here (Option.some.inj index).symm
    · rename_i own
      have index := named x (same ▸ filled)
      rw [same, found] at index
      exact other ((Option.some.inj index).symm.trans (Decidable.not_not.mp own))
  · rename_i absent
    have index := named x (same ▸ filled)
    rw [same, absent] at index
    cases index

theorem evict_index (r : Registry) (nickname : String) (s : Ref) :
    (r.evict nickname s).index = r.index := by
  unfold evict
  split
  · split
    · exact close_index r _
    · rfl
  · rfl

/-- A login completion, ids apart: the eviction, once, and then the new holder. -/
theorem Apart.enroll_self {r : Registry} (apart : r.Apart) {s : Ref} (used : 1 ≤ (r.holder s).strand)
    (nickname : String) (zoneId : Int) :
    (r.enroll s nickname zoneId).holder s = { r.holder s with nickname, zoneId } := by
  have filed := apart.setEntry used
  unfold Registry.enroll
  rw [modify_self, setIndex_holder, apart.file_eq, (filed.evict _ _).evict_self, filed.evict_self,
    setEntry_holder]

theorem Apart.enroll_other {r : Registry} (s : Ref) (nickname : String) (zoneId : Int) {x : Ref}
    (other : x ≠ s) :
    (r.enroll s nickname zoneId).holder x =
      (((r.file s).evict nickname s).evict nickname s).holder x := by
  unfold Registry.enroll
  rw [modify_other _ _ _ other, setIndex_holder]

theorem enroll_index (r : Registry) (s : Ref) (nickname : String) (zoneId : Int) :
    (r.enroll s nickname zoneId).index = Function.update (r.file s).index nickname (some s) := by
  unfold enroll
  rw [modify_index]
  unfold setIndex
  rw [evict_index, evict_index]

theorem Named.enroll {r : Registry} (named : r.Named) (apart : r.Apart) {s : Ref}
    (used : 1 ≤ (r.holder s).strand) {nickname : String} (filled : nickname ≠ "") (zoneId : Int) :
    (r.enroll s nickname zoneId).Named := by
  have filed : (r.file s).Apart := by
    rw [apart.file_eq]
    exact apart.setEntry used
  have namedFiled : (r.file s).Named := by
    rw [apart.file_eq]
    exact named
  intro x filled'
  rw [enroll_index]
  by_cases here : x = s
  · subst here
    rw [apart.enroll_self used, Function.update_self]
  · rw [Apart.enroll_other s nickname zoneId here] at filled' ⊢
    have away := Named.evicted (namedFiled.evict filed nickname s) (filed.evict nickname s) filled here
    rw [Function.update_of_ne away]
    have index := (namedFiled.evict filed nickname s).evict (filed.evict nickname s) nickname s x filled'
    rwa [evict_index, evict_index] at index

theorem Named.accept {r : Registry} (named : r.Named) (apart : r.Apart) {sessionId : Int}
    (fresh : r.Fresh (.accept sessionId)) : (r.accept sessionId).Named := by
  cases next : r.nextFree with
  | none =>
      unfold Registry.accept
      rwa [next]
  | some s =>
      have filed : ((r.acquire sessionId s).setEntry sessionId (some s)).Named := by
        refine named.congr (fun x => ?_) rfl
        change ((r.modify s (Holder.handOut sessionId)).holder x).nickname = "" ∨
          ((r.modify s (Holder.handOut sessionId)).holder x).nickname = _
        by_cases here : x = s
        · subst here
          exact .inl (by rw [modify_self]; rfl)
        · exact .inr (by rw [modify_other _ _ _ here])
      rcases accept_eq sessionId next with whole | ⟨p, -, -, whole⟩
      · rwa [whole]
      · rw [whole]
        exact filed.close (apart.acquire fresh s) p

theorem Named.exec {r : Registry} (named : r.Named) (apart : r.Apart) {note : Note}
    (fresh : r.Fresh note) (lawful : r.Lawful note) : (r.exec note).Named := by
  cases note with
  | accept sessionId => exact named.accept apart fresh
  | close s => exact named.close apart s
  | enroll flow generation serving zoneId =>
      exact named.enroll apart (Nat.le_trans lawful.1.used lawful.1.strand) lawful.2.1 zoneId
  | registerUdp s registration => exact named.congr (fun x => .inr (modify_keeps rfl x)) rfl
  | clearUdpToken s => exact named.congr (fun x => .inr (modify_keeps rfl x)) rfl

structure Exclusive (r : Registry) : Prop where
  apart : r.Apart
  named : r.Named

theorem Exclusive.exec {r : Registry} (exclusive : r.Exclusive) {note : Note}
    (met : r.Fresh note ∧ r.Lawful note) : (r.exec note).Exclusive :=
  ⟨exclusive.apart.exec met.1 met.2, exclusive.named.exec exclusive.apart met.1 met.2⟩

end Registry

namespace Server

/-- Every named session is the one the index gives for its name, and the only one so
named. -/
structure NicknameExclusive (srv : Server) : Prop where
  index : ∀ s, (srv.obj s).nickname ≠ "" →
    srv.manager.findSessionByNickname (srv.obj s).nickname = some s
  unique : ∀ s s', (srv.obj s).nickname ≠ "" → (srv.obj s).nickname = (srv.obj s').nickname → s = s'

/-- **Nicknames are exclusive** in every run that gives no connection an id an object
still carries. -/
theorem nickname_exclusive (env : Env) (router : Option (DBmwRouter LoginFlow))
    (events : List Event)
    (fresh : Along (step env)
      (fun srv e => Along Registry.exec Registry.Fresh (srv.registry env) (notes env srv e))
      (initial env router) events) :
    (after env router events).NicknameExclusive := by
  have exclusive : ((after env router events).registry env).Exclusive :=
    (step_refines env).invariant Registry.Exclusive
      (fun r notes exclusive fresh lawful =>
        run_invariant (fun _ _ exclusive => exclusive.exec) exclusive (along_and fresh lawful))
      (initial_sane env router)
      ⟨initial_apart env router, fun s filled => absurd rfl filled⟩ fresh
  refine ⟨exclusive.named, fun s s' filled same => ?_⟩
  have one := exclusive.named s filled
  have other := exclusive.named s' fun empty => filled (same.trans empty)
  exact Option.some.inj ((one.symm.trans (congrArg _ same)).trans other)

/-! ## The counter of ids comes round -/

/-- With the pool full a connection is turned away, but has drawn its id. -/
theorem accept_full (env : Env) {srv : Server} (full : srv.nextFree = none) (now : Time)
    (order : List Ref) :
    srv.step env (.accept now order) =
      { srv with sessionCounter := Int.bmod (srv.sessionCounter + 1) (2 ^ 32), journal := [] } := by
  change accept env { srv with journal := [] } now order = _
  unfold accept
  have none : nextFree { srv with
      sessionCounter := Int.bmod (srv.sessionCounter + 1) (2 ^ 32), journal := [] } = none := full
  simp only [none]

/-- Any number of them. -/
theorem accepts_full (env : Env) {srv : Server} (full : srv.nextFree = none) (now : Time)
    (order : List Ref) (n : Nat) :
    run (step env) srv (List.replicate (n + 1) (.accept now order)) =
      { srv with
        sessionCounter := Int.bmod (srv.sessionCounter + (n + 1 : Nat)) (2 ^ 32), journal := [] } := by
  induction n generalizing srv with
  | zero => exact accept_full env full now order
  | succ n ih =>
      rw [List.replicate_succ, run_cons, accept_full env full]
      rw [ih (by exact full)]
      have counted : Int.bmod (Int.bmod (srv.sessionCounter + 1) (2 ^ 32) + (n + 1 : Nat)) (2 ^ 32) =
          Int.bmod (srv.sessionCounter + (n + 1 + 1 : Nat)) (2 ^ 32) := by
        rw [Int.bmod_add_bmod]
        congr 1
        omega
      rw [counted]

/-- Three connections fill the pool. -/
def fillPool : List Event :=
  [.accept 0 [0], .accept 0 [0, 1], .accept 0 [0, 1, 2], .post ⟨2, 1, .task .readSome⟩]

/-- The third is reset, a fourth gets its object, and two of them log in as kim. -/
def twoKims : List Event :=
  [.readDone ⟨⟨2, 1, 2⟩, true⟩ .error, .accept 0 [1]] ++ signIn ⟨2, 2, 7⟩ ++ signIn ⟨1, 1, 2⟩

/-- **The 2^32nd id is the first again**: the connection that draws it is released as its
predecessor under the id is closed, and from then on cannot be closed. -/
theorem two_kims :
    ¬ (after (trialEnv 3) none
      (fillPool ++ List.replicate (4294967292 + 1) (.accept 0 []) ++ twoKims)).NicknameExclusive := by
  intro exclusive
  have reached : after (trialEnv 3) none
      (fillPool ++ List.replicate (4294967292 + 1) (.accept 0 []) ++ twoKims) =
      run (step (trialEnv 3))
        { after (trialEnv 3) none fillPool with
          sessionCounter := Int.bmod ((after (trialEnv 3) none fillPool).sessionCounter +
            (4294967292 + 1 : Nat)) (2 ^ 32)
          journal := [] } twoKims := by
    have full : (after (trialEnv 3) none fillPool).nextFree = none := by decide +kernel
    rw [after, run_append, run_append, accepts_full (trialEnv 3) full]
  rw [reached] at exclusive
  have index := exclusive.index 2 (by decide +kernel)
  exact absurd index (by decide +kernel)

/-- A login, a takeover and a logout by disconnection. -/
theorem nickname_exclusive_takeover :
    (after (trialEnv 2) none
      ([.accept 0 [0], .accept 0 [0, 1]] ++ signIn ⟨0, 1, 2⟩ ++ signIn ⟨1, 1, 2⟩ ++
        [.readDone ⟨⟨1, 1, 2⟩, true⟩ .connectionReset, .accept 0 [0]])).NicknameExclusive :=
  nickname_exclusive _ _ _ (by decide +kernel)

end Server

end GameServer.Kernel
