/-
# Kernel.Completion -- whom a login completion reaches

`on_user_info_ok` takes the session object its flow was built with, whoever the
object serves by then.

* `completion_faithful` -- where every completion meets the generation its login
  was read in, it registers, names and zones the connection the login came on;
* `late_answer_unfaithful` -- a login, a disconnect, the next connection on the
  same object, and the answer to the first login names the newcomer.
-/
import GameServer.Kernel.Simulation

namespace GameServer.Kernel

set_option autoImplicit false

open Wire Dbmw Theory.Runs

/-! ## What is asked of a completion -/

/-- The completion meets the generation the login was read in. -/
def Note.Current : Note → Prop
  | .enroll flow generation _ _ => generation = flow.origin.generation
  | _ => True

/-- Whenever the completion registers, names or zones the object, the object is open
and serves the connection the login came on. -/
def Note.Faithful : Note → Prop
  | .enroll flow _ serving _ => ∀ served ∈ serving, served = some flow.origin.strand
  | _ => True

instance : ∀ note : Note, Decidable note.Current
  | .enroll _ _ _ _ => inferInstanceAs (Decidable (_ = _))
  | .accept _ => inferInstanceAs (Decidable True)
  | .close _ => inferInstanceAs (Decidable True)
  | .registerUdp _ _ => inferInstanceAs (Decidable True)
  | .clearUdpToken _ => inferInstanceAs (Decidable True)

instance : ∀ note : Note, Decidable note.Faithful
  | .enroll _ _ _ _ => inferInstanceAs (Decidable (∀ served ∈ _, served = _))
  | .accept _ => inferInstanceAs (Decidable True)
  | .close _ => inferInstanceAs (Decidable True)
  | .registerUdp _ _ => inferInstanceAs (Decidable True)
  | .clearUdpToken _ => inferInstanceAs (Decidable True)

/-- The generation of a use is met only while the use lasts. -/
theorem faithful_of_current {r : Registry} {note : Note} (lawful : r.Lawful note)
    (current : note.Current) : note.Faithful := by
  cases note with
  | enroll flow generation serving zoneId =>
      obtain ⟨fits, -, met, served⟩ := lawful
      intro now member
      rw [served now member]
      exact fits.serving (current.symm.trans met)
  | _ => trivial

namespace Server

/-- **A completion that meets the generation of its login reaches the connection
that asked**, in every run. -/
theorem completion_faithful (env : Env) (router : Option (DBmwRouter LoginFlow))
    (events : List Event)
    (current : Along (step env) (fun srv e => ∀ note ∈ notes env srv e, note.Current)
      (initial env router) events) :
    Along (step env) (fun srv e => ∀ note ∈ notes env srv e, note.Faithful)
      (initial env router) events := by
  refine (step_refines env).along (fun srv e _ lawful current note member => ?_)
    (initial_sane env router) current
  obtain ⟨r, allowed⟩ := along_mem lawful member
  exact faithful_of_current allowed (current note member)

end Server

/-! ## A small server -/

def utf8 (text : String) : Bytes := text.toUTF8.toList

/-- A parser for the texts a trial sends. -/
def readsAs (texts : List (String × Json)) (msg : Bytes) : Option Json :=
  (texts.find? fun text => utf8 text.1 = msg).map (·.2)

def plainScalar : Json → String
  | .null => "null"
  | .bool b => if b then "true" else "false"
  | .number n => toString n
  | .str text => "\"" ++ text ++ "\""
  | _ => ""

/-- `dump` of a message whose members are scalars that need no escape. -/
def plainDump : Json → String
  | .obj fields =>
      let members := (fields.mergeSort fun a b => a.1 ≤ b.1).map fun field =>
        "\"" ++ field.1 ++ "\":" ++ plainScalar field.2
      "\x7b" ++ ",".intercalate members ++ "\x7d"
  | j => plainScalar j

def kimText : String := "\x7b\"type\":\"login\",\"nickname\":\"kim\"\x7d"

def kimLogin : Json := .obj [("type", .str "login"), ("nickname", .str "kim")]

def trialEnv (poolSize : Nat) : Env where
  config := { sessionPoolSize := poolSize, maxSessionPoolSize := poolSize }
  parse := readsAs [(kimText, kimLogin)]
  dump := plainDump

def trialRouter : DBmwRouter LoginFlow := { sendJsonFn := true, sendSecureJsonFn := true }

def kimFrame : Bytes := [0, 0, 0, 33] ++ utf8 kimText

/-- A connection logs in as kim, and its next read starts. -/
def signIn (o : Origin) : List Event :=
  [.post ⟨o.session, o.strand, .task .readSome⟩, .readDone ⟨o, true⟩ (.data kimFrame),
    .handlerStep 0 o false, .handlerStep 0 o false]

def kimFound (reqId : String) : Json :=
  .obj [("type", .str "db_query_result"), ("api", .str "request_user_info"),
    ("req_id", .str reqId), ("code", .number 0)]

namespace Server

/-- One object, two connections: the first logs in and is reset by its peer, the
second is accepted, then the answer to the first login comes. -/
def lateAnswer : List Event :=
  [.dbConnected true, .accept 0 [0]] ++ signIn ⟨0, 1, 2⟩ ++
    [.readDone ⟨⟨0, 1, 2⟩, true⟩ .connectionReset, .accept 0 [0], .dbMessage (kimFound "0_1")]

/-- **The late answer names the newcomer.** -/
theorem late_answer_unfaithful :
    ¬ Along (step (trialEnv 1))
      (fun srv e => ∀ note ∈ notes (trialEnv 1) srv e, note.Faithful)
      (initial (trialEnv 1) (some trialRouter)) lateAnswer := by decide +kernel

/-- Answered in time, the login reaches the connection it came on. -/
theorem completion_faithful_in_time :
    Along (step (trialEnv 1))
      (fun srv e => ∀ note ∈ notes (trialEnv 1) srv e, note.Faithful)
      (initial (trialEnv 1) (some trialRouter))
      ([.dbConnected true, .accept 0 [0]] ++ signIn ⟨0, 1, 2⟩ ++ [.dbMessage (kimFound "0_1")]) :=
  completion_faithful _ _ _ (by decide +kernel)

end Server

end GameServer.Kernel
