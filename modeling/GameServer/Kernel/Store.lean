/-
# Kernel.Store -- the session manager as a map from id to session

`SessionManager` keeps its entries in shards, each id in its own.  `get_shard` computes
with an `int`, a `size_t` and an `int` again; up to `INT_MAX` shards that is `shardOf`, in
range for every id.

The calls of the store are run on the shards and on one table.  A call of `add_session`
that replaces nobody writes one entry and closes nothing.

* `getShard_eq` -- the conversions of `get_shard`;
* `StoresIn.agree`, `StoresIn.call` -- what one call returns and does;
* `store_refines` -- all results are the table's, and a walk meets every session once.
-/
import GameServer.Kernel.Replacement
import GameServer.Theory.Observation
import GameServer.Theory.Sharding
import Mathlib.Data.Multiset.Basic

namespace GameServer.Kernel

set_option autoImplicit false

open Theory Theory.Runs Theory.Observation

/-! ## The calls -/

/-- `get_shard`: the id as a `size_t`, its remainder, and that as an `int`. -/
def getShard (shardCount : Nat) (sessionId : Int) : Int :=
  Int.bmod (((sessionId % 2 ^ 64).toNat % shardCount : Nat) : Int) (2 ^ 32)

namespace SessionManager

/-- `remove_session`, and the session it returns. -/
def removeSession (m : SessionManager) (sessionId : Int) : SessionManager × Option Ref :=
  (m.eraseSession sessionId, m.findSession sessionId)

/-- `session_count`. -/
def sessionCount (m : SessionManager) : Nat :=
  ((List.range m.shardCount).map fun shard => (m.sessionBuckets shard).entries.length).sum

/-- `get_total_session_count`, which counts the same way. -/
def getTotalSessionCount (m : SessionManager) : Nat := m.sessionCount

end SessionManager

inductive StoreCall where
  | addSession (s : Ref)
  | removeSession (sessionId : Int)
  | findSession (sessionId : Int)
  | sessionCount
  | getTotalSessionCount
  | forEachSession
deriving DecidableEq, Repr

/-- What a call returns.  The order of a walk is the containers', so it is not told. -/
inductive StoreResult where
  | nothing
  | session (found : Option Ref)
  | count (n : Nat)
  | visited (sessions : Multiset Ref)
deriving DecidableEq

namespace Server

/-- A call on the shards. -/
def storeCall (srv : Server) : StoreCall → Server × StoreResult
  | .addSession s => (srv.addSession s, .nothing)
  | .removeSession sessionId =>
      let (manager, removed) := srv.manager.removeSession sessionId
      ({ srv with manager }, .session removed)
  | .findSession sessionId => (srv, .session (srv.manager.findSession sessionId))
  | .sessionCount => (srv, .count srv.manager.sessionCount)
  | .getTotalSessionCount => (srv, .count srv.manager.getTotalSessionCount)
  | .forEachSession => (srv, .visited srv.manager.sessions)

end Server

/-- One map from id to session. -/
abbrev SessionTable := AList fun _ : Int => Ref

/-- The same call on one map, for sessions with the given ids. -/
def SessionTable.call (idOf : Ref → Int) (table : SessionTable) :
    StoreCall → SessionTable × StoreResult
  | .addSession s => (table.insert (idOf s) s, .nothing)
  | .removeSession sessionId => (table.erase sessionId, .session (table.lookup sessionId))
  | .findSession sessionId => (table, .session (table.lookup sessionId))
  | .sessionCount | .getTotalSessionCount => (table, .count table.entries.length)
  | .forEachSession => (table, .visited (table.entries.map (·.2)))

/-! ## Shards -/

theorem shardOf_lt {shardCount : Nat} (some_shard : 0 < shardCount) (sessionId : Int) :
    shardOf shardCount sessionId < shardCount :=
  Nat.mod_lt _ some_shard

/-- **The shard of an id** is in range, and an `int`. -/
theorem getShard_eq {shardCount : Nat} (some_shard : 1 ≤ shardCount)
    (fits : shardCount ≤ 2 ^ 31 - 1) (sessionId : Int) :
    getShard shardCount sessionId = shardOf shardCount sessionId := by
  have inRange := shardOf_lt some_shard sessionId
  show Int.bmod (shardOf shardCount sessionId : Int) (2 ^ 32) = _
  generalize shardOf shardCount sessionId = shard at inRange
  rw [Int.bmod_eq_of_le] <;> omega

/-! ## Walks -/

/-- A walk goes through the shards' entries. -/
theorem SessionManager.sessions_eq (m : SessionManager) :
    m.sessions = (Sharding.entries m.shardCount m.sessionBuckets).map (·.2) := by
  rw [Sharding.entries, List.map_flatMap]
  rfl

/-- An entry of the manager is under the id of its session. -/
def Server.EntriesAgree (srv : Server) : Prop :=
  ∀ sessionId s, srv.manager.findSession sessionId = some s → (srv.obj s).sessionId = sessionId

namespace Server

variable {srv : Server}

theorem filed_of_mem_sessions (agree : srv.EntriesAgree) {s : Ref}
    (member : s ∈ srv.manager.sessions) :
    srv.manager.findSession (srv.obj s).sessionId = some s := by
  rw [SessionManager.sessions_eq, List.mem_map] at member
  obtain ⟨⟨id, s⟩, listed, rfl⟩ := member
  have found : srv.manager.findSession id = some s :=
    Sharding.lookup_of_mem_entries srv.manager.sharded listed
  rw [agree id s found]
  exact found

/-- A walk meets each registered session. -/
theorem mem_sessions (agree : srv.EntriesAgree) (some_shard : 0 < srv.manager.shardCount) (s : Ref) :
    s ∈ srv.manager.sessions ↔ srv.manager.findSession (srv.obj s).sessionId = some s := by
  constructor
  · exact filed_of_mem_sessions agree
  · intro found
    rw [SessionManager.sessions_eq, List.mem_map]
    exact ⟨⟨(srv.obj s).sessionId, s⟩,
      Sharding.mem_entries (shardOf_lt some_shard _) found, rfl⟩

/-- And none twice. -/
theorem sessions_nodup (agree : srv.EntriesAgree) : srv.manager.sessions.Nodup := by
  rw [SessionManager.sessions_eq]
  apply List.Nodup.map_on _ (Sharding.entries_nodupKeys srv.manager.sharded _).nodup
  rintro ⟨id, s⟩ listed ⟨id', s'⟩ listed' same
  cases same
  have here := agree id s (Sharding.lookup_of_mem_entries srv.manager.sharded listed)
  have there := agree id' s (Sharding.lookup_of_mem_entries srv.manager.sharded listed')
  rw [← here, ← there]

end Server

/-! ## One call -/

/-- The shards hold the table, and its entries are under the ids of their sessions. -/
structure Server.StoresIn (srv : Server) (idOf : Ref → Int) (table : SessionTable) : Prop where
  some_shard : 0 < srv.manager.shardCount
  ids : ∀ s, (srv.obj s).sessionId = idOf s
  holds : Sharding.Holds srv.manager.getShard srv.manager.sessionBuckets table
  under : ∀ sessionId s, table.lookup sessionId = some s → idOf s = sessionId

namespace Server.StoresIn

variable {srv : Server} {idOf : Ref → Int} {table : SessionTable}

theorem findSession (stores : srv.StoresIn idOf table) (sessionId : Int) :
    srv.manager.findSession sessionId = table.lookup sessionId :=
  (stores.holds.lookup sessionId).symm

theorem sessionCount (stores : srv.StoresIn idOf table) :
    srv.manager.sessionCount = table.entries.length :=
  stores.holds.sum_length (shardOf_lt stores.some_shard)

theorem sessions_perm (stores : srv.StoresIn idOf table) :
    srv.manager.sessions.Perm (table.entries.map (·.2)) := by
  rw [SessionManager.sessions_eq]
  exact (stores.holds.entries_perm (shardOf_lt stores.some_shard)).map _

theorem agrees (stores : srv.StoresIn idOf table) : srv.EntriesAgree := by
  intro sessionId s found
  rw [stores.ids s]
  exact stores.under sessionId s ((stores.findSession sessionId).symm.trans found)

/-- **The results agree.** -/
theorem agree (stores : srv.StoresIn idOf table) (c : StoreCall) :
    (srv.storeCall c).2 = (table.call idOf c).2 := by
  cases c with
  | addSession s => rfl
  | removeSession sessionId => exact congrArg StoreResult.session (stores.findSession sessionId)
  | findSession sessionId => exact congrArg StoreResult.session (stores.findSession sessionId)
  | sessionCount => exact congrArg StoreResult.count stores.sessionCount
  | getTotalSessionCount => exact congrArg StoreResult.count stores.sessionCount
  | forEachSession =>
      exact congrArg StoreResult.visited (Multiset.coe_eq_coe.mpr stores.sessions_perm)

/-- **A call writes both alike**, if it replaces nobody. -/
theorem call (stores : srv.StoresIn idOf table) {c : StoreCall}
    (fresh : ∀ s, c = .addSession s → srv.replacedBy s = none) :
    (srv.storeCall c).1.StoresIn idOf (table.call idOf c).1 := by
  cases c with
  | addSession s =>
      have added : srv.addSession s = srv.filed s := addSession_fresh (fresh s rfl)
      show (srv.addSession s).StoresIn idOf (table.insert (idOf s) s)
      rw [added]
      refine ⟨stores.some_shard, stores.ids, ?_, ?_⟩
      · rw [← stores.ids s]
        exact stores.holds.insert (srv.obj s).sessionId s
      · intro sessionId x found
        by_cases here : sessionId = idOf s
        · subst here
          rw [AList.lookup_insert, Option.some.injEq] at found
          rw [found]
        · rw [AList.lookup_insert_ne here] at found
          exact stores.under sessionId x found
  | removeSession sessionId =>
      refine ⟨stores.some_shard, stores.ids, stores.holds.erase sessionId, ?_⟩
      intro id x found
      by_cases here : id = sessionId
      · subst here
        rw [SessionTable.call, AList.lookup_erase] at found
        cases found
      · rw [SessionTable.call, AList.lookup_erase_ne here] at found
        exact stores.under id x found
  | _ => exact stores

end Server.StoresIn

/-! ## Every sequence of calls -/

namespace Server

/-- The server with a manager of so many shards, all empty. -/
def freshStore (srv : Server) (shardCount : Nat) : Server :=
  { srv with manager := { shardCount } }

/-- No call replaces a session by one of another generation. -/
def ReplacesNobody (srv : Server) : StoreCall → Prop
  | .addSession s => srv.replacedBy s = none
  | _ => True

instance (srv : Server) : DecidablePred srv.ReplacesNobody
  | .addSession s => inferInstanceAs (Decidable (srv.replacedBy s = none))
  | .removeSession _ | .findSession _ | .sessionCount | .getTotalSessionCount
  | .forEachSession => isTrue trivial

theorem freshStore_storesIn (srv : Server) {shardCount : Nat} (some_shard : 1 ≤ shardCount) :
    (srv.freshStore shardCount).StoresIn (fun s => (srv.obj s).sessionId) ∅ := by
  refine ⟨some_shard, fun _ => rfl, Sharding.Holds.empty _, ?_⟩
  intro sessionId s found
  rw [AList.lookup_empty] at found
  cases found

/-- **The shards are one map.**  Every call on them returns what it returns on one table
of ids, wherever the ids fall; and a walk meets every session once. -/
theorem store_refines (srv : Server) {shardCount : Nat} (some_shard : 1 ≤ shardCount)
    (fits : shardCount ≤ 2 ^ 31 - 1) {calls : List StoreCall}
    (along : Along (fun srv c => (storeCall srv c).1) ReplacesNobody
      (srv.freshStore shardCount) calls) :
    let idOf := fun s => (srv.obj s).sessionId
    let last := run (fun srv c => (storeCall srv c).1) (srv.freshStore shardCount) calls
    answers (fun srv c => (storeCall srv c).1) (fun srv c => (storeCall srv c).2)
        (srv.freshStore shardCount) calls =
      answers (fun table c => (SessionTable.call idOf table c).1)
        (fun table c => (SessionTable.call idOf table c).2) ∅ calls ∧
    last.manager.sessions.Nodup ∧
    (∀ s, s ∈ last.manager.sessions ↔ last.manager.findSession (idOf s) = some s) ∧
    ∀ sessionId, getShard shardCount sessionId = shardOf shardCount sessionId ∧
      shardOf shardCount sessionId < shardCount := by
  intro idOf last
  have preserved : ∀ (srv : Server) (table : SessionTable) (c : StoreCall),
      srv.StoresIn idOf table → srv.ReplacesNobody c →
        (srv.storeCall c).1.StoresIn idOf (table.call idOf c).1 := by
    intro srv table c stores replacesNobody
    apply stores.call
    rintro s rfl
    exact replacesNobody
  obtain ⟨same, stores⟩ := answers_simulated
    (fun srv table c (stores : Server.StoresIn srv idOf table) => stores.agree c) preserved
    (srv.freshStore_storesIn some_shard) along
  refine ⟨same, sessions_nodup stores.agrees, ?_, ?_⟩
  · intro s
    rw [mem_sessions stores.agrees stores.some_shard, stores.ids s]
  · intro sessionId
    exact ⟨getShard_eq some_shard fits sessionId, shardOf_lt some_shard sessionId⟩

/-- Two objects, one of them under a negative id. -/
def twoIds : Server :=
  let env : Env := { config := { sessionPoolSize := 2 }, parse := fun _ => none, dump := fun _ => "" }
  ((initial env none).acquire 5 (-1) 0).acquire 3 7 1

theorem store_refines_two :
    let calls : List StoreCall :=
      [.addSession 0, .addSession 1, .addSession 0, .forEachSession, .findSession (-1),
        .removeSession (-1), .sessionCount]
    answers (fun srv c => (storeCall srv c).1) (fun srv c => (storeCall srv c).2)
        (twoIds.freshStore 3) calls =
      [.nothing, .nothing, .nothing, .visited {0, 1}, .session (some 0), .session (some 0),
        .count 1] := by
  intro calls
  have along : Along (fun srv c => (storeCall srv c).1) ReplacesNobody (twoIds.freshStore 3) calls := by
    decide +kernel
  refine (store_refines twoIds (by decide) (by decide) along).1.trans ?_
  decide +kernel

end Server

end GameServer.Kernel
