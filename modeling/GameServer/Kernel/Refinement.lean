/-
# Kernel.Refinement -- the kernel's functions as registry operations

`Server.registry` forgets everything but identity, and `Server.directory` keeps the
endpoint map beside it.  Each function of the kernel is shown once to do to both what
its notes say, to give completions only flows that fit, and to start reads that fit
(`Traced`).

* `closeSession_registry`, `closeSession_directory` -- the concrete close, shards,
  endpoint map and zones included, is the abstract one;
* `addSession_registry`, `registerNickname_registry`,
  `assignSessionToZone_registry` -- the parts of a login completion.
-/
import GameServer.Dbmw.Carried
import GameServer.Kernel.System
import GameServer.Kernel.Directory

namespace GameServer.Kernel

set_option autoImplicit false

open Wire Dbmw Theory.Runs

/-! ## The projection -/

def Session.holder (x : Session) : Holder where
  sessionId := x.sessionId
  nickname := x.nickname
  isOpen := x.socketOpen
  strand := x.strand
  generation := x.generation
  life := x.life
  zoneId := x.zoneId
  udp := {
    endpoint := x.udpEndpoint
    token := x.udpToken
    issued := x.udpTokenIssued
    lifetime := x.udpTokenTtlSec
    registration := x.registration }

namespace Server

def registry (env : Env) (srv : Server) : Registry where
  holder s := (srv.obj s).holder
  size := srv.pool.size
  maxSize := srv.pool.maxSize
  free := srv.pool.reusableIndices
  available := srv.pool.availableIndexSet
  entry := srv.manager.findSession
  index := srv.manager.findSessionByNickname
  zoneExists zoneId := (srv.zones zoneId).isSome
  lifetime := env.config.udpTokenTtlSeconds

variable {env : Env} {udp : Bool}

@[simp] theorem modify_obj_self (srv : Server) (s : Ref) (f : Session → Session) :
    (srv.modify s f).obj s = f (srv.obj s) := by simp [modify]

theorem modify_obj_other (srv : Server) {s x : Ref} (f : Session → Session) (other : x ≠ s) :
    (srv.modify s f).obj x = srv.obj x := by simp [modify, other]

/-- Changing one object relates every object to itself by what relates that one. -/
theorem modify_each (rel : Ref → Session → Session → Prop) (same : ∀ x y, rel x y y) {srv : Server}
    {s : Ref} {f : Session → Session} (changed : rel s (srv.obj s) (f (srv.obj s))) (x : Ref) :
    rel x (srv.obj x) ((srv.modify s f).obj x) := by
  by_cases here : x = s
  · subst here
    rw [modify_obj_self]
    exact changed
  · rw [modify_obj_other srv f here]
    exact same x _

@[simp] theorem note_registry (srv : Server) (n : Note) :
    (srv.note n).registry env = srv.registry env := rfl

theorem modify_modify (srv : Server) (s : Ref) (f g : Session → Session) :
    (srv.modify s f).modify s g = srv.modify s fun x => g (f x) := by simp [modify]

/-- A method that does to the identity what `g` does. -/
theorem modify_registry {srv : Server} {s : Ref} {f : Session → Session} {g : Holder → Holder}
    (same : (f (srv.obj s)).holder = g (srv.obj s).holder) :
    (srv.modify s f).registry env = (srv.registry env).modify s g := by
  have holders : (fun x => ((srv.modify s f).obj x).holder) =
      Function.update (fun x => (srv.obj x).holder) s (g (srv.obj s).holder) := by
    funext x
    by_cases here : x = s
    · subst here; simp [same]
    · rw [modify_obj_other _ _ here, Function.update_of_ne here]
  simp only [registry, Registry.modify]
  rw [holders]
  rfl

/-- A method that leaves the identity alone. -/
theorem modify_registry_quiet {srv : Server} {s : Ref} {f : Session → Session}
    (same : (f (srv.obj s)).holder = (srv.obj s).holder) :
    (srv.modify s f).registry env = srv.registry env := by
  rw [modify_registry (g := id) same]
  simp [Registry.modify, Function.update_eq_self]

def directory (env : Env) (srv : Server) : Directory where
  registry := srv.registry env
  bound := srv.getSessionByEndpoint

/-- The directory of a server whose registry and table are known. -/
theorem directory_eq {srv : Server} {d : Directory} (reg : srv.registry env = d.registry)
    (table : srv.getSessionByEndpoint = d.bound) : srv.directory env = d := by
  cases d
  cases reg
  cases table
  rfl

theorem modify_directory {srv : Server} {s : Ref} {f : Session → Session} {g : Holder → Holder}
    (same : (f (srv.obj s)).holder = g (srv.obj s).holder) :
    (srv.modify s f).directory env = (srv.directory env).modify s g :=
  directory_eq (modify_registry same) rfl

theorem modify_directory_quiet {srv : Server} {s : Ref} {f : Session → Session}
    (same : (f (srv.obj s)).holder = (srv.obj s).holder) :
    (srv.modify s f).directory env = srv.directory env :=
  directory_eq (modify_registry_quiet same) rfl

/-! ## Closing -/

theorem release_registry (srv : Server) (s : Ref) :
    (srv.release s).registry env = (srv.registry env).release s := by
  unfold release Registry.release
  by_cases free : s < srv.pool.size ∧ s ∉ srv.pool.availableIndexSet
  · have free' : s < (srv.registry env).size ∧ s ∉ (srv.registry env).available := free
    rw [if_pos free, if_pos free']
    have taken : (srv.modify s Session.takeBack).registry env =
        (srv.registry env).modify s fun h => { h.clean with life := .released } :=
      modify_registry rfl
    rw [← taken]
    rfl
  · have kept : ¬ (s < (srv.registry env).size ∧ s ∉ (srv.registry env).available) := free
    rw [if_neg free, if_neg kept]

theorem unmapEndpoint_registry (srv : Server) (s : Ref) :
    (srv.unmapEndpoint s).registry env = srv.registry env := by
  obtain ⟨table, unmapped⟩ := srv.unmapEndpoint_eq s
  rw [unmapped]
  rfl

theorem zoneExists_update {zones : Int → Option Zone} {zoneId : Int} {zone : Zone}
    (found : zones zoneId = some zone) (zone' : Zone) :
    (fun z => (Function.update zones zoneId (some zone') z).isSome) = fun z => (zones z).isSome := by
  funext z
  by_cases here : z = zoneId
  · subst here; simp [found]
  · rw [Function.update_of_ne here]

theorem leaveZone_registry (srv : Server) (s : Ref) :
    (srv.leaveZone s).registry env = (srv.registry env).leaveZone s := by
  unfold Registry.leaveZone
  rcases srv.leaveZone_cases s with ⟨away, same⟩ | ⟨zone, inZone, found, left⟩
  · rw [same, if_neg]
    rintro ⟨placed, zoneExists⟩
    have nowhere : srv.zones (srv.obj s).zoneId = none := away placed
    simp [registry, Session.holder, nowhere] at zoneExists
  · have inside : -1 < ((srv.registry env).holder s).zoneId ∧
        (srv.registry env).zoneExists ((srv.registry env).holder s).zoneId = true :=
      ⟨inZone, by simp [registry, Session.holder, found]⟩
    rw [left, if_pos inside, modify_registry (g := fun h => { h with zoneId := -1 }) rfl]
    simp only [registry, zoneExists_update found]

theorem eraseSession_registry (srv : Server) (sessionId : Int) :
    ({ srv with manager := srv.manager.eraseSession sessionId } : Server).registry env =
      (srv.registry env).setEntry sessionId none := by
  have entries : (srv.manager.eraseSession sessionId).findSession =
      Function.update srv.manager.findSession sessionId none := by
    funext id
    rw [SessionManager.findSession_eraseSession]
    by_cases here : id = sessionId
    · subst here; simp
    · rw [if_neg here, Function.update_of_ne here]
  simp only [registry, Registry.setEntry, entries]
  rfl

theorem insertSession_registry (srv : Server) (sessionId : Int) (s : Ref) :
    ({ srv with manager := srv.manager.insertSession sessionId s } : Server).registry env =
      (srv.registry env).setEntry sessionId (some s) := by
  have entries : (srv.manager.insertSession sessionId s).findSession =
      Function.update srv.manager.findSession sessionId (some s) := by
    funext id
    rw [SessionManager.findSession_insertSession]
    by_cases here : id = sessionId
    · subst here; simp
    · rw [if_neg here, Function.update_of_ne here]
  simp only [registry, Registry.setEntry, entries]
  rfl

theorem removeSession_registry (srv : Server) (sessionId : Int) :
    (srv.removeSession sessionId).registry env = (srv.registry env).remove sessionId := by
  unfold removeSession Registry.remove
  have entry : (srv.registry env).entry sessionId = srv.manager.findSession sessionId := rfl
  rw [entry]
  cases srv.manager.findSession sessionId with
  | none => rfl
  | some s =>
      simp only
      rw [release_registry, leaveZone_registry, modify_registry (g := Holder.clearToken) rfl,
        unmapEndpoint_registry, eraseSession_registry]

theorem tryClose_eq (x : Session) :
    x.tryClose = if x.holder.Closable then some { x with life := .closing } else none := rfl

/-! ### The endpoint table -/

theorem unmapEndpoint_directory (srv : Server) (s : Ref) :
    (srv.unmapEndpoint s).directory env = (srv.directory env).unmap s := by
  refine directory_eq ?_ ?_
  · rw [unmapEndpoint_registry, Directory.unmap_registry]
    rfl
  · have held : ((srv.directory env).registry.holder s).udp.endpoint = (srv.obj s).udpEndpoint := rfl
    have given : (srv.directory env).bound = srv.getSessionByEndpoint := rfl
    unfold unmapEndpoint Directory.unmap
    rw [held]
    cases (srv.obj s).udpEndpoint with
    | none => rfl
    | some e =>
        have entry : (srv.directory env).bound e = srv.udpEndpointToSession.lookup e := rfl
        simp only [entry]
        by_cases own : srv.udpEndpointToSession.lookup e = some s
        · rw [if_pos own, if_pos own, given]
          funext e'
          by_cases here : e' = e
          · subst here
            simp [getSessionByEndpoint]
          · simp [getSessionByEndpoint, here, AList.lookup_erase_ne here]
        · rw [if_neg own, if_neg own]
          rfl

theorem release_table (srv : Server) (s : Ref) :
    (srv.release s).udpEndpointToSession = srv.udpEndpointToSession := by
  unfold release
  split <;> rfl

theorem leaveZone_table (srv : Server) (s : Ref) :
    (srv.leaveZone s).udpEndpointToSession = srv.udpEndpointToSession := by
  rcases srv.leaveZone_cases s with ⟨-, same⟩ | ⟨zone, -, -, left⟩
  · rw [same]
  · rw [left]
    rfl

theorem removeSession_directory (srv : Server) (sessionId : Int) :
    (srv.removeSession sessionId).directory env = (srv.directory env).remove sessionId := by
  refine directory_eq (by rw [removeSession_registry, Directory.remove_registry]; rfl) ?_
  have entry : (srv.directory env).registry.entry sessionId = srv.manager.findSession sessionId := rfl
  unfold removeSession Directory.remove
  rw [entry]
  cases srv.manager.findSession sessionId with
  | none => rfl
  | some s =>
      have unmapped := congrArg Directory.bound (@unmapEndpoint_directory env
        { srv with manager := srv.manager.eraseSession sessionId } s)
      have cleared : ∀ srv' : Server, ((((srv'.modify s Session.clearUdpToken).leaveZone s).release
          s).getSessionByEndpoint) = srv'.getSessionByEndpoint := by
        intro srv'
        funext e
        rw [getSessionByEndpoint, release_table, leaveZone_table]
        rfl
      simp only
      rw [cleared]
      exact unmapped.trans (Directory.unmap_bound_congr rfl rfl)

/-- The close, with the endpoint map. -/
theorem closeSession_directory (srv : Server) (s : Ref) :
    (srv.closeSession s).directory env = (srv.directory env).close s := by
  have closable : (srv.directory env).registry.holder s = (srv.obj s).holder := rfl
  unfold closeSession Directory.close
  rw [tryClose_eq]
  by_cases open' : (srv.obj s).holder.Closable
  · rw [if_pos open', closable, if_pos open']
    simp only
    rw [modify_directory (g := Holder.clean) rfl, removeSession_directory,
      modify_directory (g := Holder.shut) rfl]
    simp only [modify_obj_self]
    rfl
  · rw [if_neg open', closable, if_neg open']

/-- **The concrete close is the abstract one.** -/
theorem closeSession_registry (srv : Server) (s : Ref) :
    (srv.closeSession s).registry env = (srv.registry env).close s := by
  have both := congrArg Directory.registry (@closeSession_directory env srv s)
  rwa [Directory.close_registry] at both

/-! ## What a close leaves alone -/

/-- Sessions, pool, indexes, zones and the endpoint map are all that differ. -/
def Confined (srv srv' : Server) : Prop :=
  ∃ obj pool manager zones udpEndpointToSession,
    srv' = { srv with obj, pool, manager, zones, udpEndpointToSession }

theorem Confined.refl (srv : Server) : Confined srv srv := ⟨_, _, _, _, _, rfl⟩

theorem Confined.trans {srv srv' srv'' : Server} (first : Confined srv srv')
    (second : Confined srv' srv'') : Confined srv srv'' := by
  obtain ⟨obj, pool, manager, zones, endpoints, rfl⟩ := first
  obtain ⟨obj', pool', manager', zones', endpoints', rfl⟩ := second
  exact ⟨obj', pool', manager', zones', endpoints', rfl⟩

theorem modify_confined (srv : Server) (s : Ref) (f : Session → Session) :
    Confined srv (srv.modify s f) := ⟨_, _, _, _, _, rfl⟩

theorem release_confined (srv : Server) (s : Ref) : Confined srv (srv.release s) := by
  unfold release
  split
  · exact ⟨_, _, _, _, _, rfl⟩
  · exact .refl srv

theorem unmapEndpoint_confined (srv : Server) (s : Ref) : Confined srv (srv.unmapEndpoint s) := by
  obtain ⟨table, unmapped⟩ := srv.unmapEndpoint_eq s
  rw [unmapped]
  exact ⟨_, _, _, _, _, rfl⟩

theorem leaveZone_confined (srv : Server) (s : Ref) : Confined srv (srv.leaveZone s) := by
  rcases srv.leaveZone_cases s with ⟨-, same⟩ | ⟨zone, -, -, left⟩
  · rw [same]
    exact .refl srv
  · rw [left]
    exact ⟨_, _, _, _, _, rfl⟩

theorem removeSession_confined (srv : Server) (sessionId : Int) :
    Confined srv (srv.removeSession sessionId) := by
  unfold removeSession
  split
  · exact .refl srv
  · have erased : Confined srv { srv with manager := srv.manager.eraseSession sessionId } :=
      ⟨_, _, _, _, _, rfl⟩
    exact (erased.trans (unmapEndpoint_confined _ _)).trans ((modify_confined _ _ _).trans
      ((leaveZone_confined _ _).trans (release_confined _ _)))

/-- **A close is confined.** -/
theorem closeSession_confined (srv : Server) (s : Ref) : Confined srv (srv.closeSession s) := by
  unfold closeSession
  split
  · exact .refl srv
  · exact (modify_confined _ _ _).trans
      ((removeSession_confined _ _).trans (modify_confined _ _ _))

/-- What is in flight and could still name a session: reads, read handlers, the
request table; and the journal. -/
def flight (srv : Server) :
    List ReadOp × List Origin × Option (DBmwRouter LoginFlow) × List Note :=
  (srv.reads, srv.handlers, srv.dbRouter, srv.journal)

theorem Confined.flight {srv srv' : Server} (confined : Confined srv srv') :
    srv'.flight = srv.flight := by
  obtain ⟨obj, pool, manager, zones, endpoints, rfl⟩ := confined
  rfl

theorem closeSession_flight (srv : Server) (s : Ref) : (srv.closeSession s).flight = srv.flight :=
  (closeSession_confined srv s).flight

/-! ## What each function does to the registry -/

/-- A flow that came of a read that fits, under a name. -/
def FlowFits (r : Registry) (flow : LoginFlow) : Prop := r.Fits flow.origin ∧ flow.nickname ≠ ""

/-- Everything in flight that names a session fits it. -/
structure Sane (env : Env) (srv : Server) : Prop where
  opened : (srv.registry env).Opened
  reads : ∀ op ∈ srv.reads, op.live = true → (srv.registry env).Fits op.origin
  handlers : ∀ origin ∈ srv.handlers, (srv.registry env).Fits origin
  flows : ∀ router, srv.dbRouter = some router → ∀ flow, Carries router flow →
    FlowFits (srv.registry env) flow

theorem FlowFits.later {r r' : Registry} {flow : LoginFlow} (fits : FlowFits r flow)
    (older : r.Older r') : FlowFits r' flow := ⟨fits.1.later older, fits.2⟩

/-- Nothing new in flight, and an older registry. -/
theorem Sane.later {srv srv' : Server} (sane : Sane env srv)
    (older : (srv.registry env).Older (srv'.registry env))
    (reads : ∀ op ∈ srv'.reads, op ∈ srv.reads)
    (handlers : ∀ origin ∈ srv'.handlers, origin ∈ srv.handlers)
    (dbRouter : srv'.dbRouter = srv.dbRouter) : Sane env srv' where
  opened := older.opened sane.opened
  reads op member live := (sane.reads op (reads op member) live).later older
  handlers origin member := (sane.handlers origin (handlers origin member)).later older
  flows router found flow carries := (sane.flows router (dbRouter ▸ found) flow carries).later older

/-- The directory runs through the notes the function adds, each lawful when it
comes, and what is in flight still fits; without `udp` no registration is among them. -/
def Traced (env : Env) (udp : Bool) (srv srv' : Server) : Prop :=
  Sane env srv → ∃ notes, srv'.journal = srv.journal ++ notes ∧
    srv'.directory env = run Directory.exec (srv.directory env) notes ∧
    Along Registry.exec Registry.Lawful (srv.registry env) notes ∧
    (∀ note ∈ notes, note.isRegistration = true → udp = true) ∧ Sane env srv'

theorem Traced.refl (srv : Server) : Traced env udp srv srv := fun sane =>
  ⟨[], by simp, rfl, trivial, by simp, sane⟩

/-- Forgetting the table, the registry runs through the notes. -/
theorem registry_run {srv srv' : Server} {notes : List Note}
    (dir : srv'.directory env = run Directory.exec (srv.directory env) notes) :
    srv'.registry env = run Registry.exec (srv.registry env) notes := by
  have reg := congrArg Directory.registry dir
  rwa [Directory.run_registry] at reg

theorem Traced.trans {srv srv' srv'' : Server} (first : Traced env udp srv srv')
    (second : Traced env udp srv' srv'') : Traced env udp srv srv'' := by
  intro sane
  obtain ⟨notes, journal, dir, lawful, kind, sane'⟩ := first sane
  obtain ⟨notes', journal', dir', lawful', kind', sane''⟩ := second sane'
  refine ⟨notes ++ notes', ?_, ?_, ?_, ?_, sane''⟩
  · rw [journal', journal, List.append_assoc]
  · rw [dir', dir, run_append]
  · rw [along_append, ← registry_run dir]
    exact ⟨lawful, lawful'⟩
  · intro note member
    rcases List.mem_append.mp member with early | late
    · exact kind note early
    · exact kind' note late

/-- Past the first function, the second may use what the first leaves true. -/
theorem Traced.older {srv srv' : Server} (traced : Traced env udp srv srv') (sane : Sane env srv) :
    (srv.registry env).Older (srv'.registry env) ∧ Sane env srv' := by
  obtain ⟨notes, -, dir, -, -, sane'⟩ := traced sane
  exact ⟨registry_run dir ▸ Registry.older_run _ notes, sane'⟩

theorem Traced.foldl {α : Type} {f : Server → α → Server}
    (each : ∀ srv a, Traced env udp srv (f srv a)) (items : List α) (srv : Server) :
    Traced env udp srv (items.foldl f srv) := by
  induction items generalizing srv with
  | nil => exact .refl srv
  | cons a items ih => exact (each srv a).trans (ih (f srv a))

/-- A function that leaves identity alone and at most takes reads and read handlers
out of flight. -/
theorem Traced.landed {srv srv' : Server} (dir : srv'.directory env = srv.directory env)
    (reads : srv'.reads ⊆ srv.reads) (handlers : srv'.handlers ⊆ srv.handlers)
    (dbRouter : srv'.dbRouter = srv.dbRouter) (journal : srv'.journal = srv.journal) :
    Traced env udp srv srv' := by
  intro sane
  have reg : srv'.registry env = srv.registry env := congrArg Directory.registry dir
  refine ⟨[], by simp [journal], dir, trivial, by simp, ?_⟩
  exact sane.later (reg ▸ .refl _) (fun _ => @reads _) (fun _ => @handlers _) dbRouter

/-- A function that touches neither identity nor what is in flight. -/
theorem Traced.quiet {srv srv' : Server} (dir : srv'.directory env = srv.directory env)
    (flight : srv'.flight = srv.flight) : Traced env udp srv srv' := by
  simp only [Server.flight, Prod.mk.injEq] at flight
  obtain ⟨reads, handlers, router, journal⟩ := flight
  exact .landed dir (reads ▸ List.Subset.refl _) (handlers ▸ List.Subset.refl _) router journal

/-- One noted operation, with nothing new in flight. -/
theorem Traced.noted {srv srv' : Server} (note : Note)
    (dir : srv'.directory env = (srv.directory env).exec note)
    (lawful : Sane env srv → (srv.registry env).Lawful note)
    (kind : note.isRegistration = true → udp = true)
    (flight : srv'.flight = (srv.note note).flight) : Traced env udp srv srv' := by
  intro sane
  simp only [Server.flight, Prod.mk.injEq] at flight
  obtain ⟨reads, handlers, router, journal⟩ := flight
  have reg : srv'.registry env = (srv.registry env).exec note := by
    have both := congrArg Directory.registry dir
    rwa [Directory.exec_registry] at both
  refine ⟨[note], journal, dir, ⟨lawful sane, trivial⟩, by simpa using kind, ?_⟩
  exact sane.later (reg ▸ Registry.older_exec _ _) (fun _ => reads ▸ id) (fun _ => handlers ▸ id)
    router

theorem modify_traced {srv : Server} {s : Ref} {f : Session → Session}
    (same : (f (srv.obj s)).holder = (srv.obj s).holder) : Traced env udp srv (srv.modify s f) :=
  .quiet (modify_directory_quiet same) rfl

theorem close_traced (srv : Server) (s : Ref) : Traced env udp srv (srv.close s) :=
  .noted (.close s) (closeSession_directory _ s) (fun _ => trivial) (fun absurd => nomatch absurd)
    (closeSession_flight _ s)

/-! ### Writing -/

theorem enqueueWrite_holder (config : Config) (message : String) (x : Session) :
    (x.enqueueWrite config message).1.holder = x.holder := by
  obtain ⟨queue, count, entered⟩ := x.enqueueWrite_eq config message
  rw [entered]
  rfl

theorem doWriteQueue_holder (x : Session) : x.doWriteQueue.1.holder = x.holder := by
  unfold Session.doWriteQueue
  split
  · rfl
  · split <;> rfl

theorem doWriteQueue_traced (srv : Server) (s : Ref) : Traced env udp srv (srv.doWriteQueue s) := by
  have same := doWriteQueue_holder (srv.obj s)
  unfold doWriteQueue
  rcases written : (srv.obj s).doWriteQueue with ⟨x, _ | message⟩
  · rw [written] at same
    exact modify_traced same
  · rw [written] at same
    exact (modify_traced (f := fun _ => x) same).trans (.quiet rfl rfl)

theorem writeNow_traced (srv : Server) (s : Ref) (message : String) :
    Traced env udp srv (srv.writeNow env s message) := by
  have same := enqueueWrite_holder env.config message (srv.obj s)
  unfold writeNow
  rcases enqueued : (srv.obj s).enqueueWrite env.config message with ⟨x, overflow⟩
  rw [enqueued] at same
  dsimp only
  have queued : Traced env udp srv (srv.modify s fun _ => x) := modify_traced same
  have closed : Traced env udp srv
      (if overflow = true then (srv.modify s fun _ => x).close s else srv.modify s fun _ => x) := by
    split
    · exact queued.trans (close_traced _ s)
    · exact queued
  split
  · exact closed.trans ((modify_traced (f := fun x => { x with writeInProgress := true }) rfl).trans
      (doWriteQueue_traced _ s))
  · exact closed

theorem postWrite_traced (here : Here) (srv : Server) (s : Ref) (message : String) :
    Traced env udp srv (srv.postWrite env here s message) := by
  unfold postWrite
  split
  · exact writeNow_traced srv s message
  · exact .quiet rfl rfl

theorem broadcast_traced (here : Here) (srv : Server) (message : String) (senderId : Int) :
    Traced env udp srv (srv.broadcast env here message senderId) :=
  .foldl (fun srv s => postWrite_traced here srv s message) _ srv

theorem broadcastZoneTcp_traced (here : Here) (srv : Server) (message : String)
    (zoneId senderId : Int) :
    Traced env udp srv (srv.broadcastZoneTcp env here message zoneId senderId) :=
  .foldl (fun srv s => postWrite_traced here srv s message) _ srv

theorem postLine_traced (here : Here) (srv : Server) (s : Ref) (out : Json) :
    Traced env udp srv (srv.postLine env here s out) := postWrite_traced here srv s _

/-! ### Reading -/

/-- A read started on an open socket fits, since open objects were handed out. -/
theorem runTask_traced (srv : Server) (s : Ref) (task : Task) :
    Traced env udp srv (srv.runTask s task) := by
  intro sane
  cases task with
  | readSome =>
      refine ⟨[], by simp [runTask], rfl, trivial, by simp, sane.opened, ?_, sane.handlers,
        sane.flows⟩
      intro op member live
      simp only [runTask, List.mem_append, List.mem_singleton] at member
      rcases member with old | rfl
      · exact sane.reads op old live
      · exact sane.opened.fits live

theorem runNextTask_holder (x : Session) : x.runNextTask.1.holder = x.holder := by
  unfold Session.runNextTask
  split <;> rfl

theorem runNextTask_traced (srv : Server) (s : Ref) : Traced env udp srv (srv.runNextTask s) := by
  have same := runNextTask_holder (srv.obj s)
  unfold runNextTask
  rcases ran : (srv.obj s).runNextTask with ⟨x, _ | task⟩
  · rw [ran] at same
    exact modify_traced same
  · rw [ran] at same
    exact (modify_traced (f := fun _ => x) same).trans (runTask_traced _ s task)

theorem pushTask_traced (srv : Server) (s : Ref) (task : Task) :
    Traced env udp srv (srv.pushTask env s task) := by
  unfold pushTask
  split
  · exact close_traced srv s
  · have pushed : Traced env udp srv (srv.modify s fun x =>
        { x with taskQueue := x.taskQueue ++ [task], taskRunning := true }) := modify_traced rfl
    dsimp only
    split
    · exact pushed
    · exact pushed.trans (runNextTask_traced _ s)

theorem postTask_traced (here : Here) (srv : Server) (s : Ref) (task : Task) :
    Traced env udp srv (srv.postTask env here s task) := by
  unfold postTask
  split
  · exact pushTask_traced srv s task
  · exact .quiet rfl rfl

theorem doRead_traced (here : Here) (srv : Server) (s : Ref) :
    Traced env udp srv (srv.doRead env here s) := by
  rcases doRead_cases env here srv s with ⟨-, same⟩ | ⟨-, -, begins⟩
  · rw [same]
    exact .refl srv
  · rw [begins]
    exact (modify_traced (f := fun x => { x with readPending := true }) rfl).trans
      (postTask_traced here _ s _)

theorem startLoginTimeout_traced (srv : Server) (s : Ref) :
    Traced env udp srv (srv.startLoginTimeout s) := by
  unfold startLoginTimeout
  split
  · exact .refl srv
  · exact .quiet rfl rfl

theorem start_traced (here : Here) (srv : Server) (s : Ref) :
    Traced env udp srv (srv.start env here s) :=
  (doRead_traced here srv s).trans (startLoginTimeout_traced _ s)

/-! ### Registration -/

theorem addSession_directory (srv : Server) (s : Ref) :
    (srv.addSession s).directory env = (srv.directory env).file s := by
  unfold addSession Directory.file
  have entry : (srv.directory env).registry.entry ((srv.directory env).registry.holder s).sessionId =
      srv.manager.findSession (srv.obj s).sessionId := rfl
  have generation : ∀ p, ((srv.directory env).registry.holder p).generation =
      (srv.obj p).generation := fun _ => rfl
  have inserted : ({ srv with manager := srv.manager.insertSession (srv.obj s).sessionId s } :
      Server).directory env = { srv.directory env with
        registry := (srv.registry env).setEntry (srv.obj s).sessionId (some s) } :=
    directory_eq (insertSession_registry srv _ s) rfl
  simp only [entry, generation]
  cases (srv.manager.findSession (srv.obj s).sessionId).filter fun p =>
      decide ((srv.obj p).generation ≠ (srv.obj s).generation) with
  | none => exact inserted
  | some p =>
      simp only [Session.isClosed, Bool.false_eq_true, if_false]
      rw [closeSession_directory, inserted]
      rfl

theorem addSession_registry (srv : Server) (s : Ref) :
    (srv.addSession s).registry env = (srv.registry env).file s := by
  have both := congrArg Directory.registry (@addSession_directory env srv s)
  rwa [Directory.file_registry] at both

theorem addSession_flight (srv : Server) (s : Ref) : (srv.addSession s).flight = srv.flight := by
  unfold addSession
  dsimp only
  split
  · split
    · rfl
    · exact closeSession_flight _ _
  · rfl

/-- The code runs on the session's own strand, or on none. -/
def Aside (here : Here) (s : Ref) : Prop := here = none ∨ ∃ strand, here = some (s, strand)

/-- A message to another session is posted. -/
theorem postWrite_elsewhere (env : Env) {here : Here} {s p : Ref} (aside : Aside here s)
    (other : p ≠ s) (srv : Server) (message : String) :
    srv.postWrite env here p message =
      { srv with posts := srv.posts ++ [⟨p, (srv.obj p).strand, .write message⟩] } := by
  have posted : srv.onStrand here p = false := by
    rcases aside with rfl | ⟨strand, rfl⟩
    · rfl
    · simp [onStrand, Ne.symm other]
  simp [postWrite, posted]

/-- The holder of the nickname is told and closed, if it is another session. -/
def evict (env : Env) (here : Here) (srv : Server) (nickname message : String) (s : Ref) : Server :=
  match srv.manager.findSessionByNickname nickname with
  | some p => if p ≠ s then (srv.postWrite env here p message).closeSession p else srv
  | none => srv

theorem evict_directory (env : Env) {here : Here} {s : Ref} (aside : Aside here s) (srv : Server)
    (nickname message : String) :
    (srv.evict env here nickname message s).directory env =
        (srv.directory env).evict nickname s ∧
      (srv.evict env here nickname message s).flight = srv.flight := by
  unfold evict Directory.evict
  have index : (srv.directory env).registry.index nickname =
      srv.manager.findSessionByNickname nickname := rfl
  rw [index]
  cases srv.manager.findSessionByNickname nickname with
  | none => simp
  | some p =>
      by_cases other : p ≠ s
      · simp only [if_pos other]
        rw [postWrite_elsewhere env aside other]
        exact ⟨closeSession_directory _ p, closeSession_flight _ p⟩
      · simp [if_neg other]

theorem evict_registry (env : Env) {here : Here} {s : Ref} (aside : Aside here s) (srv : Server)
    (nickname message : String) :
    (srv.evict env here nickname message s).registry env = (srv.registry env).evict nickname s ∧
      (srv.evict env here nickname message s).flight = srv.flight := by
  obtain ⟨dir, flight⟩ := evict_directory env aside srv nickname message
  have both := congrArg Directory.registry dir
  rw [Directory.evict_registry] at both
  exact ⟨both, flight⟩

theorem indexed_registry (srv : Server) (nickname : String) (s : Ref) :
    ({ srv with
        manager := { srv.manager with
          nicknameIndex := srv.manager.nicknameIndex.insert nickname s } } : Server).registry env =
      (srv.registry env).setIndex nickname s := by
  have index : ({ srv.manager with
      nicknameIndex := srv.manager.nicknameIndex.insert nickname s } :
      SessionManager).findSessionByNickname =
      Function.update srv.manager.findSessionByNickname nickname (some s) := by
    funext n
    by_cases here : n = nickname
    · subst here; simp [SessionManager.findSessionByNickname]
    · simp [SessionManager.findSessionByNickname, here, AList.lookup_insert_ne here]
  simp only [registry, Registry.setIndex, index]
  rfl

theorem registerNickname_registry (env : Env) {here : Here} {s : Ref} (aside : Aside here s) (srv : Server)
    (nickname : String) :
    (srv.registerNickname env here nickname s).registry env =
        ((srv.registry env).evict nickname s).setIndex nickname s ∧
      (srv.registerNickname env here nickname s).flight = srv.flight := by
  obtain ⟨reg, flight⟩ := evict_registry env aside srv nickname loggedInElsewhere
  refine ⟨?_, flight⟩
  rw [← reg]
  exact indexed_registry _ nickname s

theorem registerNickname_table (env : Env) {here : Here} {s : Ref} (aside : Aside here s)
    (srv : Server) (nickname : String) :
    (srv.registerNickname env here nickname s).getSessionByEndpoint =
      ((srv.directory env).evict nickname s).bound :=
  congrArg Directory.bound (evict_directory env aside srv nickname loggedInElsewhere).1

theorem assignSessionToZone_table (env : Env) (srv : Server) (s : Ref) (zoneId : Int) :
    (srv.assignSessionToZone env s zoneId).getSessionByEndpoint = srv.getSessionByEndpoint := by
  rcases assignSessionToZone_cases env srv s zoneId with ⟨-, same⟩ | ⟨zone, -, -, -, enters⟩
  · rw [same]
  · rw [enters]
    rfl

/-- Whatever zone the session ends in, nothing else of it changes. -/
theorem assignSessionToZone_registry (env : Env) (srv : Server) (s : Ref) (zoneId : Int) :
    (srv.assignSessionToZone env s zoneId).registry env =
        (srv.registry env).modify s (fun h =>
          { h with zoneId := ((srv.assignSessionToZone env s zoneId).obj s).zoneId }) ∧
      (srv.assignSessionToZone env s zoneId).flight = srv.flight := by
  have stays : srv.registry env =
      (srv.registry env).modify s (fun h => { h with zoneId := (srv.obj s).zoneId }) := by
    have same : ({ (srv.registry env).holder s with zoneId := (srv.obj s).zoneId } : Holder) =
        (srv.registry env).holder s := rfl
    simp only [Registry.modify, same, Function.update_eq_self]
  rcases assignSessionToZone_cases env srv s zoneId with ⟨-, same⟩ | ⟨zone, found, -, -, enters⟩
  · rw [same]
    exact ⟨stays, rfl⟩
  · rw [enters]
    refine ⟨?_, rfl⟩
    rw [modify_registry (g := fun h => { h with zoneId := zoneId }) rfl, modify_obj_self]
    simp only [registry, zoneExists_update found]

end Server

end GameServer.Kernel
