/-
# Kernel.Directory -- the registry with its endpoint table

The endpoint table says a second time what each object keeps in a field of its own,
so it is kept beside the registry and not in it: a `Directory` is both.  Its
operations are those of the registry, each with what it does to the table.  A close
takes out the entry of the object it removes from the manager, if the entry is that
object's; a registration puts one in; nothing else touches the table.

* `run_registry` -- forgetting the table gives back the run of the registry.
-/
import GameServer.Kernel.Registry

namespace GameServer.Kernel

set_option autoImplicit false

open Theory.Runs

structure Directory where
  registry : Registry
  bound : Endpoint → Option Ref

namespace Directory

variable (d : Directory)

def modify (s : Ref) (f : Holder → Holder) : Directory :=
  { d with registry := d.registry.modify s f }

/-- The table without the entry of the object's endpoint, if it is the object's. -/
def unmap (s : Ref) : Directory :=
  match (d.registry.holder s).udp.endpoint with
  | none => d
  | some e => if d.bound e = some s then { d with bound := Function.update d.bound e none } else d

def remove (sessionId : Int) : Directory :=
  match d.registry.entry sessionId with
  | none => d
  | some s => { d.unmap s with registry := d.registry.remove sessionId }

def close (s : Ref) : Directory :=
  if (d.registry.holder s).Closable then
    ((d.modify s Holder.shut).remove (d.registry.holder s).sessionId).modify s Holder.clean
  else d

def file (s : Ref) : Directory :=
  let sessionId := (d.registry.holder s).sessionId
  let replaced := (d.registry.entry sessionId).filter fun p =>
    decide ((d.registry.holder p).generation ≠ (d.registry.holder s).generation)
  let filed : Directory := { d with registry := d.registry.setEntry sessionId (some s) }
  match replaced with
  | some p => filed.close p
  | none => filed

def accept (sessionId : Int) : Directory :=
  match d.registry.nextFree with
  | none => d
  | some s => { d with registry := d.registry.acquire sessionId s : Directory }.file s

def evict (nickname : String) (s : Ref) : Directory :=
  match d.registry.index nickname with
  | some p => if p ≠ s then d.close p else d
  | none => d

/-- The object named, indexed and zoned. -/
def seat (s : Ref) (nickname : String) (zoneId : Int) : Directory :=
  { d with registry := (d.registry.setIndex nickname s).modify s fun h =>
      { h with nickname := nickname, zoneId := zoneId } }

def enroll (s : Ref) (nickname : String) (zoneId : Int) : Directory :=
  (((d.file s).evict nickname s).evict nickname s).seat s nickname zoneId

/-- A new endpoint's entry is taken, whoever's it is, and the object's own given up. -/
def rebind (s : Ref) (e : Endpoint) : Directory :=
  if (d.registry.holder s).udp.endpoint = some e then d
  else { d.unmap s with bound := Function.update (d.unmap s).bound e (some s) }

def registerUdp (s : Ref) (registration : Registration) : Directory :=
  (d.rebind s registration.endpoint).modify s (Holder.register registration d.registry.lifetime)

def exec : Note → Directory
  | .accept sessionId => d.accept sessionId
  | .close s => d.close s
  | .enroll flow _ _ zoneId => d.enroll flow.session flow.nickname zoneId
  | .registerUdp s registration => d.registerUdp s registration
  | .clearUdpToken s => d.modify s Holder.clearToken

/-! ## Without the table -/

variable {d}

@[simp] theorem modify_registry (s : Ref) (f : Holder → Holder) :
    (d.modify s f).registry = d.registry.modify s f := rfl

@[simp] theorem modify_bound (s : Ref) (f : Holder → Holder) : (d.modify s f).bound = d.bound := rfl

@[simp] theorem unmap_registry (s : Ref) : (d.unmap s).registry = d.registry := by
  unfold unmap
  split
  · rfl
  · split <;> rfl

/-- What an unmapping does to the table depends on the object's endpoint only. -/
theorem unmap_bound_congr {d d' : Directory} {s : Ref}
    (same : d.registry.holder s = d'.registry.holder s) (table : d.bound = d'.bound) :
    (d.unmap s).bound = (d'.unmap s).bound := by
  unfold unmap
  rw [same, table]
  cases (d'.registry.holder s).udp.endpoint with
  | none => exact table
  | some e =>
      dsimp only
      split
      · rfl
      · exact table

@[simp] theorem remove_registry (sessionId : Int) :
    (d.remove sessionId).registry = d.registry.remove sessionId := by
  unfold remove
  split
  · rename_i absent
    exact (Registry.remove_of_none absent).symm
  · rfl

@[simp] theorem close_registry (s : Ref) : (d.close s).registry = d.registry.close s := by
  unfold close Registry.close
  split
  · simp
  · rfl

@[simp] theorem file_registry (s : Ref) : (d.file s).registry = d.registry.file s := by
  unfold file Registry.file
  dsimp only
  cases (d.registry.entry (d.registry.holder s).sessionId).filter fun p =>
      decide ((d.registry.holder p).generation ≠ (d.registry.holder s).generation) with
  | none => rfl
  | some p => exact close_registry p

@[simp] theorem accept_registry (sessionId : Int) :
    (d.accept sessionId).registry = d.registry.accept sessionId := by
  unfold accept Registry.accept
  cases d.registry.nextFree with
  | none => rfl
  | some s => exact file_registry s

@[simp] theorem evict_registry (nickname : String) (s : Ref) :
    (d.evict nickname s).registry = d.registry.evict nickname s := by
  unfold evict Registry.evict
  cases d.registry.index nickname with
  | none => rfl
  | some p =>
      by_cases other : p ≠ s
      · simp [other]
      · simp [other]

@[simp] theorem enroll_registry (s : Ref) (nickname : String) (zoneId : Int) :
    (d.enroll s nickname zoneId).registry = d.registry.enroll s nickname zoneId := by
  simp [enroll, seat, Registry.enroll]

@[simp] theorem rebind_registry (s : Ref) (e : Endpoint) : (d.rebind s e).registry = d.registry := by
  unfold rebind
  split
  · rfl
  · exact unmap_registry s

@[simp] theorem registerUdp_registry (s : Ref) (registration : Registration) :
    (d.registerUdp s registration).registry =
      d.registry.modify s (Holder.register registration d.registry.lifetime) := by
  simp [registerUdp]

@[simp] theorem exec_registry (note : Note) : (d.exec note).registry = d.registry.exec note := by
  cases note with
  | accept sessionId => exact accept_registry sessionId
  | close s => exact close_registry s
  | enroll flow generation serving zoneId => exact enroll_registry _ _ _
  | registerUdp s registration => exact registerUdp_registry s registration
  | clearUdpToken s => rfl

/-- **A run of the directory is a run of the registry.** -/
theorem run_registry (notes : List Note) :
    (run exec d notes).registry = run Registry.exec d.registry notes := by
  induction notes generalizing d with
  | nil => rfl
  | cons note notes ih => rw [run_cons, run_cons, ih, exec_registry]

theorem along_registry {guard : Registry → Note → Prop} {notes : List Note} :
    Along exec (fun d note => guard d.registry note) d notes ↔
      Along Registry.exec guard d.registry notes := by
  induction notes generalizing d with
  | nil => exact .rfl
  | cons note notes ih => simp only [Along, ih, exec_registry]

end Directory

end GameServer.Kernel
