/-
# Dbmw.Secret -- the secret in front of a JSON body

`do_read_some` takes the secret off a view of the body and tries the view as an
envelope.  When that fails it gives the JSON library the body as it came, with the
secret still in front.

* `decode_secured` -- so a secured body is read as the library reads all of it;
* `secured_iff` -- and a value gets through just when the secret is nothing but a byte
  order mark and white space, which the library skips.
-/
import GameServer.Dbmw.Inbound

namespace GameServer.Dbmw

set_option autoImplicit false

open Wire DBMiddlewareClient

namespace ClientConfig

/-! ## What is asked of a body -/

/-- The body `send_secure_json` frames. -/
def secured (config : ClientConfig) (j : Json) : Bytes := config.secret ++ config.dump j

/-- However the frame of the body is cut, what is handed on is the value. -/
def HandsOver (config : ClientConfig) (body : Bytes) (j : Json) : Prop :=
  ∀ chunks : List Bytes, chunks.flatten = sendFramed body → framesOf config chunks = [.json j]

/-- A frame of the body is one the buffer takes. -/
def Fits (body : Bytes) : Prop := 1 ≤ body.length ∧ body.length ≤ 262144

instance (body : Bytes) : Decidable (Fits body) := inferInstanceAs (Decidable (_ ∧ _))

def byteOrderMark : Bytes := [0xEF, 0xBB, 0xBF]

/-- The white space of JSON. -/
def isSpace (letter : UInt8) : Bool := letter ∈ [0x20, 0x09, 0x0A, 0x0D]

/-- A text without what `json::parse` skips in front. -/
def skipBlank (text : Bytes) : Bytes :=
  (if byteOrderMark.isPrefixOf text then text.drop 3 else text).dropWhile isSpace

/-- A text `json::parse` skips whole. -/
def Blank (text : Bytes) : Prop := skipBlank text = []

instance (text : Bytes) : Decidable (Blank text) := inferInstanceAs (Decidable (_ = _))

/-! ## Reading a body -/

variable {config : ClientConfig} {j : Json}

theorem stripSecret_append (config : ClientConfig) (body : Bytes) :
    config.stripSecret (config.secret ++ body) = body := by
  have ahead : config.secret.isPrefixOf (config.secret ++ body) = true :=
    List.isPrefixOf_iff_prefix.mpr (List.prefix_append _ _)
  rw [stripSecret, if_pos ahead, List.drop_left]

/-- A body that is no envelope behind the secret is read as JSON, all of it. -/
theorem decode_json {body : Bytes} (set : config.onMessage = true)
    (noEnvelope : config.parseEnvelope (config.stripSecret body) = none) :
    config.decode body = (config.parseJson body).map .json := by
  simp only [decode, noEnvelope, set, if_true]
  cases config.parseJson body <;> rfl

theorem framesOf_sendFramed {body : Bytes} (fits : Fits body) {chunks : List Bytes}
    (cut : chunks.flatten = sendFramed body) :
    framesOf config chunks = [body].filterMap config.decode := by
  have frames : chunks.flatten = ([body].map (Sender.frame .middlewareClient)).flatten := by
    simpa [Sender.frame] using cut
  have sizes : ∀ p ∈ [body], 1 ≤ p.length ∧ p.length ≤ 262144 := by
    intro p only
    rw [List.mem_singleton.mp only]
    exact fits
  rw [framesOf, receive_frames .middlewareClient [body] chunks sizes frames]

/-- What is handed on is what the library makes of the body as it came. -/
theorem handsOver_iff {body : Bytes} (fits : Fits body) (set : config.onMessage = true)
    (noEnvelope : config.parseEnvelope (config.stripSecret body) = none) :
    config.HandsOver body j ↔ config.parseJson body = some j := by
  have handed : [body].filterMap config.decode =
      ((config.parseJson body).map Message.json).toList := by
    rw [List.filterMap_cons, decode_json set noEnvelope]
    cases config.parseJson body <;> rfl
  constructor
  · intro handsOver
    have read := handsOver [sendFramed body] (by simp)
    rw [framesOf_sendFramed fits (by simp), handed] at read
    cases parsed : config.parseJson body with
    | none => simp [parsed] at read
    | some j' =>
        simp only [parsed, Option.map_some, Option.toList_some, List.cons.injEq, and_true,
          Message.json.injEq] at read
        rw [read]
  · intro parsed chunks cut
    rw [framesOf_sendFramed fits cut, handed, parsed]
    rfl

/-- **A secured body reaches `on_message_`** just when the library skips the secret. -/
theorem secured_iff (config : ClientConfig) (j : Json) (set : config.onMessage = true)
    (fits : Fits (config.secured j)) (noEnvelope : config.parseEnvelope (config.dump j) = none)
    (reads : ∀ front, config.parseJson (front ++ config.dump j) = some j ↔ Blank front) :
    config.HandsOver (config.secured j) j ↔ Blank config.secret := by
  have behind : config.parseEnvelope (config.stripSecret (config.secured j)) = none := by
    rw [secured, stripSecret_append, noEnvelope]
  rw [handsOver_iff fits set behind, secured, reads]

/-- The body without the secret gets through, unless it begins like the secret and goes on
like an envelope. -/
theorem unsecured_handsOver (set : config.onMessage = true) (fits : Fits (config.dump j))
    (noEnvelope : config.parseEnvelope (config.stripSecret (config.dump j)) = none)
    (undone : config.parseJson (config.dump j) = some j) : config.HandsOver (config.dump j) j :=
  (handsOver_iff fits set noEnvelope).mpr undone

/-! ## A library that knows one text -/

/-- The JSON library as it is on one object's text and what may stand in front. -/
def lone (secret : Bytes) (j : Json) : ClientConfig where
  secret := secret
  dump := dumpTexts
  parseEnvelope := fun _ => none
  parseJson := fun text => if skipBlank text = dumpTexts j then some j else none

theorem skipBlank_append (front : Bytes) :
    skipBlank (front ++ [0x7B, 0x7D]) = skipBlank front ++ [0x7B, 0x7D] := by
  have skipped : ∀ text : Bytes,
      (text ++ [0x7B, 0x7D]).dropWhile isSpace = text.dropWhile isSpace ++ [0x7B, 0x7D] := by
    intro text
    induction text with
    | nil => decide
    | cons letter text ih =>
        rw [List.cons_append, List.dropWhile_cons, List.dropWhile_cons, ih]
        split <;> rfl
  rcases front with _ | ⟨a, _ | ⟨b, _ | ⟨c, rest⟩⟩⟩
  · decide
  · simp [skipBlank, byteOrderMark, ← skipped]
  · simp [skipBlank, byteOrderMark, ← skipped]
  · simp only [skipBlank, byteOrderMark, List.cons_append, List.isPrefixOf_cons_cons,
      List.isPrefixOf_nil_left, List.drop_succ_cons, List.drop_zero]
    split
    · exact skipped rest
    · exact skipped (a :: b :: c :: rest)

theorem lone_reads (secret front : Bytes) :
    (lone secret (.obj [])).parseJson (front ++ (lone secret (.obj [])).dump (.obj [])) =
      some (.obj []) ↔ Blank front := by
  have text : dumpTexts (.obj []) = [0x7B, 0x7D] := by decide +kernel
  simp only [lone, text, skipBlank_append, Blank, List.append_left_eq_self]
  split <;> rename_i skips <;> simp [skips]

/-- An empty object behind a blank. -/
theorem secured_blank :
    (lone (ascii " ") (.obj [])).HandsOver ((lone (ascii " ") (.obj [])).secured (.obj []))
      (.obj []) :=
  (secured_iff (lone (ascii " ") (.obj [])) (.obj []) rfl (by decide +kernel) rfl
    (lone_reads _)).mpr (by decide +kernel)

/-- **Behind a secret it is lost.** -/
theorem secured_lost :
    ¬ ∀ (config : ClientConfig) (j : Json), config.onMessage = true →
      config.parseEnvelope (config.dump j) = none → config.parseJson (config.dump j) = some j →
        config.HandsOver (config.dump j) j → config.HandsOver (config.secured j) j := by
  intro always
  have whole : (lone (ascii "s3cret") (.obj [])).HandsOver (dumpTexts (.obj [])) (.obj []) :=
    @unsecured_handsOver (lone (ascii "s3cret") (.obj [])) (.obj []) rfl (by decide +kernel) rfl
      rfl
  have handsOver := always (lone (ascii "s3cret") (.obj [])) (.obj []) rfl rfl rfl whole
  have read := congrArg List.length (handsOver [sendFramed ((lone (ascii "s3cret") (.obj [])).secured
    (.obj []))] (by simp))
  revert read
  decide +kernel

end ClientConfig

end GameServer.Dbmw
