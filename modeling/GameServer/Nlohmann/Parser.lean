/-
# Nlohmann.Parser -- `detail::parser` and `detail::json_sax_dom_parser` of `json.hpp`

`sax_parse_internal` is one loop with a stack of booleans, an array or an object each,
and a flag that sends it on to what stands behind a value.  The loop is told here by the
two places it can be in: `parseValue` at its head, `evaluateState` behind a value.

`json_sax_dom_parser` keeps pointers to the containers it has begun.  A container is
kept here apart from the one it stands in until it is complete; an object's frame
carries the key that `object_element` points behind.

A grammar of values in tokens says what is read:

* `parseValue_tokens` -- the tokens of a value are read as that value, whatever stands
  around them;
* `readsOnly` -- and nothing else is;
* `parse_iff` -- so a text is parsed as a value exactly when its tokens are those of a
  syntax tree with that value, and then the end.
-/
import GameServer.Nlohmann.Lexer
import GameServer.Theory.SortedMap

namespace GameServer.Nlohmann

set_option autoImplicit false

open Wire (Bytes)
open Theory

/-! ## Values -/

/-- `basic_json`, with `F` for `number_float_t`.  Strings are bytes; an object's members
stand in the order of `std::map`.  Binary values and discarded ones come of no parse. -/
inductive Value (F : Type) where
  | null
  | boolean (value : Bool)
  | numberInteger (value : Int64)
  | numberUnsigned (value : UInt64)
  | numberFloat (value : F)
  | string (text : Bytes)
  | array (items : List (Value F))
  | object (members : List (Bytes × Value F))

/-- Floating-point numbers, as the library uses them. -/
structure Floats (F : Type) where
  /-- `std::strtod`. -/
  strtod : Bytes → F
  /-- `std::isfinite`. -/
  isFinite : F → Bool
  /-- `detail::to_chars`. -/
  toChars : F → Bytes

/-- What `parse` throws. -/
inductive ParseError where
  /-- `parse_error.101`. -/
  | parseError
  /-- `out_of_range.406`: a number too large. -/
  | outOfRange
deriving DecidableEq, Repr

/-! ## The DOM under construction -/

/-- A container begun, with what it holds so far. -/
inductive Frame (F : Type) where
  | array (items : List (Value F))
  | object (members : List (Bytes × Value F)) (key : Bytes)

/-- `root` and `ref_stack`, the innermost container first. -/
structure Dom (F : Type) where
  root : Value F
  refStack : List (Frame F)

namespace Dom

variable {F : Type}

/-- `handle_value`. -/
def handleValue (dom : Dom F) (value : Value F) : Dom F :=
  match dom.refStack with
  | [] => { dom with root := value }
  | .array items :: refStack => { dom with refStack := .array (items ++ [value]) :: refStack }
  | .object members key :: refStack =>
      { dom with refStack := .object (SortedMap.insert key value members) key :: refStack }

def startObject (dom : Dom F) : Dom F := { dom with refStack := .object [] [] :: dom.refStack }

def startArray (dom : Dom F) : Dom F := { dom with refStack := .array [] :: dom.refStack }

/-- `key`: a new key is put in with null. -/
def key (dom : Dom F) (key : Bytes) : Dom F :=
  match dom.refStack with
  | .object members _ :: refStack =>
      { dom with refStack := .object (SortedMap.touch key .null members) key :: refStack }
  | _ => dom

/-- `end_object`. -/
def endObject (dom : Dom F) : Dom F :=
  match dom.refStack with
  | .object members _ :: refStack => { dom with refStack := refStack }.handleValue (.object members)
  | _ => dom

/-- `end_array`. -/
def endArray (dom : Dom F) : Dom F :=
  match dom.refStack with
  | .array items :: refStack => { dom with refStack := refStack }.handleValue (.array items)
  | _ => dom

end Dom

/-! ## The loop -/

section Loop

variable {F : Type} (floats : Floats F)

mutual

/-- The switch on `last_token`, which is the first of the tokens.  In `states` an array is
`true` and an object `false`. -/
def parseValue : List Token → List Bool → Dom F → Except ParseError (Dom F × List Token)
  | [], _, _ => .error .parseError
  | .beginObject :: toks, states, dom =>
      match toks with
      | .endObject :: toks => evaluateState toks states dom.startObject.endObject
      | .valueString key :: .nameSeparator :: toks =>
          parseValue toks (false :: states) (dom.startObject.key key)
      | _ => .error .parseError
  | .beginArray :: toks, states, dom =>
      let filled := parseValue toks (true :: states) dom.startArray
      match toks with
      | .endArray :: toks => evaluateState toks states dom.startArray.endArray
      | _ => filled
  | .valueFloat text :: toks, states, dom =>
      if floats.isFinite (floats.strtod text) then
        evaluateState toks states (dom.handleValue (.numberFloat (floats.strtod text)))
      else .error .outOfRange
  | .literalFalse :: toks, states, dom =>
      evaluateState toks states (dom.handleValue (.boolean false))
  | .literalNull :: toks, states, dom => evaluateState toks states (dom.handleValue .null)
  | .literalTrue :: toks, states, dom =>
      evaluateState toks states (dom.handleValue (.boolean true))
  | .valueInteger value :: toks, states, dom =>
      evaluateState toks states (dom.handleValue (.numberInteger value))
  | .valueString text :: toks, states, dom =>
      evaluateState toks states (dom.handleValue (.string text))
  | .valueUnsigned value :: toks, states, dom =>
      evaluateState toks states (dom.handleValue (.numberUnsigned value))
  | .parseError :: _, _, _ | .endOfInput :: _, _, _ | .endArray :: _, _, _ | .endObject :: _, _, _
  | .nameSeparator :: _, _, _ | .valueSeparator :: _, _, _ => .error .parseError

/-- Behind a value: the tokens start with the one `get_token` gives next. -/
def evaluateState : List Token → List Bool → Dom F → Except ParseError (Dom F × List Token)
  | toks, [], dom => .ok (dom, toks)
  | .valueSeparator :: toks, true :: states, dom => parseValue toks (true :: states) dom
  | .endArray :: toks, true :: states, dom => evaluateState toks states dom.endArray
  | .valueSeparator :: .valueString key :: .nameSeparator :: toks, false :: states, dom =>
      parseValue toks (false :: states) (dom.key key)
  | .endObject :: toks, false :: states, dom => evaluateState toks states dom.endObject
  | _, _ :: _, _ => .error .parseError

end

/-- `parse` of the tokens, strict: behind the value the input ends. -/
def parseTokens (toks : List Token) : Except ParseError (Value F) :=
  match parseValue floats toks [] ⟨.null, []⟩ with
  | .ok (dom, .endOfInput :: _) => .ok dom.root
  | .ok _ => .error .parseError
  | .error e => .error e

/-- `json::parse`. -/
def parse (input : Bytes) : Except ParseError (Value F) := parseTokens floats (lex input)

end Loop

/-! ## The grammar -/

/-- A value as it is written: members in the order of the text, keys as often as they
stand there, numbers as the lexer tells them apart. -/
inductive Text where
  | null
  | boolean (value : Bool)
  | integer (value : Int64)
  | unsigned (value : UInt64)
  | float (text : Bytes)
  | string (text : Bytes)
  | array (items : List Text)
  | object (members : List (Bytes × Text))

mutual

/-- The tokens of a text. -/
def Text.tokens : Text → List Token
  | .null => [.literalNull]
  | .boolean value => [if value then .literalTrue else .literalFalse]
  | .integer value => [.valueInteger value]
  | .unsigned value => [.valueUnsigned value]
  | .float text => [.valueFloat text]
  | .string text => [.valueString text]
  | .array [] => [.beginArray, .endArray]
  | .array (item :: items) => .beginArray :: (item.tokens ++ moreItems items)
  | .object [] => [.beginObject, .endObject]
  | .object ((key, value) :: members) =>
      .beginObject :: .valueString key :: .nameSeparator :: (value.tokens ++ moreMembers members)

/-- Behind an item. -/
def moreItems : List Text → List Token
  | [] => [.endArray]
  | item :: items => .valueSeparator :: (item.tokens ++ moreItems items)

/-- Behind a member. -/
def moreMembers : List (Bytes × Text) → List Token
  | [] => [.endObject]
  | (key, value) :: members =>
      .valueSeparator :: .valueString key :: .nameSeparator :: (value.tokens ++ moreMembers members)

end

section Meaning

variable {F : Type} (floats : Floats F)

mutual

/-- What a text means: of members with one key the last, and nothing if a number is too
large. -/
def Text.value : Text → Option (Value F)
  | .null => some .null
  | .boolean value => some (.boolean value)
  | .integer value => some (.numberInteger value)
  | .unsigned value => some (.numberUnsigned value)
  | .float text =>
      if floats.isFinite (floats.strtod text) then some (.numberFloat (floats.strtod text))
      else none
  | .string text => some (.string text)
  | .array items => (itemValues items).map .array
  | .object members =>
      (memberValues members).map fun members => .object (SortedMap.collect members)

def itemValues : List Text → Option (List (Value F))
  | [] => some []
  | item :: items =>
      match item.value, itemValues items with
      | some value, some values => some (value :: values)
      | _, _ => none

def memberValues : List (Bytes × Text) → Option (List (Bytes × Value F))
  | [] => some []
  | (key, member) :: members =>
      match member.value, memberValues members with
      | some value, some values => some ((key, value) :: values)
      | _, _ => none

end

end Meaning

/-! ## What the loop reads -/

section Reading

variable {F : Type} {floats : Floats F}

/-- A container given one value more, and then closed. -/
@[simp] theorem handleValue_array (root value : Value F) (items : List (Value F))
    (refStack : List (Frame F)) :
    (⟨root, .array items :: refStack⟩ : Dom F).handleValue value =
      ⟨root, .array (items ++ [value]) :: refStack⟩ := rfl

@[simp] theorem handleValue_object (root value : Value F) (members : List (Bytes × Value F))
    (key : Bytes) (refStack : List (Frame F)) :
    (⟨root, .object members key :: refStack⟩ : Dom F).handleValue value =
      ⟨root, .object (SortedMap.insert key value members) key :: refStack⟩ := rfl

@[simp] theorem endArray_array (root : Value F) (items : List (Value F))
    (refStack : List (Frame F)) :
    (⟨root, .array items :: refStack⟩ : Dom F).endArray =
      (⟨root, refStack⟩ : Dom F).handleValue (.array items) := rfl

@[simp] theorem endObject_object (root : Value F) (members : List (Bytes × Value F)) (key : Bytes)
    (refStack : List (Frame F)) :
    (⟨root, .object members key :: refStack⟩ : Dom F).endObject =
      (⟨root, refStack⟩ : Dom F).handleValue (.object members) := rfl

/-- A key, and its value: the null put in for it is gone. -/
@[simp] theorem key_handleValue (root value : Value F) (members : List (Bytes × Value F))
    (key key' : Bytes) (refStack : List (Frame F)) :
    ((⟨root, .object members key' :: refStack⟩ : Dom F).key key).handleValue value =
      ⟨root, .object (SortedMap.insert key value members) key :: refStack⟩ := by
  simp only [Dom.key, handleValue_object, SortedMap.insert_touch]

theorem startArray_eq (dom : Dom F) : dom.startArray = ⟨dom.root, .array [] :: dom.refStack⟩ := rfl

theorem startObject_eq (dom : Dom F) :
    dom.startObject = ⟨dom.root, .object [] [] :: dom.refStack⟩ := rfl

/-- The tokens of a value never begin with a closing bracket. -/
theorem tokens_ne_endArray (item : Text) (rest toks : List Token) :
    item.tokens ++ rest ≠ .endArray :: toks := by
  unfold Text.tokens
  split <;> simp
  split <;> simp

/-- Behind `[` a value is read, if it is not closed at once. -/
theorem parseValue_beginArray (toks : List Token) (states : List Bool) (dom : Dom F)
    (filled : ∀ toks', toks ≠ .endArray :: toks') :
    parseValue floats (.beginArray :: toks) states dom =
      parseValue floats toks (true :: states) dom.startArray := by
  rw [parseValue]
  exact filled

mutual

/-- **The tokens of a value are read as that value**, wherever they stand. -/
theorem parseValue_tokens (text : Text) (value : Value F) (means : text.value floats = some value)
    (rest : List Token) (states : List Bool) (dom : Dom F) :
    parseValue floats (text.tokens ++ rest) states dom =
      evaluateState floats rest states (dom.handleValue value) := by
  cases text with
  | null =>
      cases means
      rfl
  | boolean flag =>
      cases means
      cases flag <;> rfl
  | integer number =>
      cases means
      rfl
  | unsigned number =>
      cases means
      rfl
  | float lexeme =>
      rw [Text.value] at means
      split at means
      · rename_i finite
        cases means
        simp only [Text.tokens, List.singleton_append, parseValue, finite, if_true]
      · cases means
  | string text =>
      cases means
      rfl
  | array items =>
      rw [Text.value] at means
      obtain ⟨values, valued, rfl⟩ := Option.map_eq_some_iff.mp means
      cases items with
      | nil =>
          cases valued
          rfl
      | cons item items =>
          rw [itemValues] at valued
          split at valued
          · rename_i first others itemMeans itemsMean
            cases valued
            have opened := @parseValue_beginArray F floats
              (item.tokens ++ (moreItems items ++ rest)) states dom
              (tokens_ne_endArray item _)
            simp only [Text.tokens, List.cons_append, List.append_assoc, opened]
            rw [parseValue_tokens item first itemMeans, startArray_eq, handleValue_array,
              evaluateState_moreItems items others itemsMean]
            rfl
          · cases valued
  | object members =>
      rw [Text.value] at means
      obtain ⟨values, valued, rfl⟩ := Option.map_eq_some_iff.mp means
      cases members with
      | nil =>
          cases valued
          rfl
      | cons member members =>
          obtain ⟨key, member⟩ := member
          rw [memberValues] at valued
          split at valued
          · rename_i first others memberMeans membersMean
            cases valued
            simp only [Text.tokens, List.cons_append, List.append_assoc, parseValue]
            rw [parseValue_tokens member first memberMeans, startObject_eq, key_handleValue,
              evaluateState_moreMembers members others membersMean]
            rfl
          · cases valued

/-- The rest of an array is read into its frame. -/
theorem evaluateState_moreItems (items : List Text) (values : List (Value F))
    (mean : itemValues floats items = some values) (rest : List Token) (states : List Bool)
    (root : Value F) (refStack : List (Frame F)) (held : List (Value F)) :
    evaluateState floats (moreItems items ++ rest) (true :: states)
        ⟨root, .array held :: refStack⟩ =
      evaluateState floats rest states
        ((⟨root, refStack⟩ : Dom F).handleValue (.array (held ++ values))) := by
  cases items with
  | nil =>
      cases mean
      rw [List.append_nil]
      rfl
  | cons item items =>
      rw [itemValues] at mean
      split at mean
      · rename_i first others itemMeans itemsMean
        cases mean
        simp only [moreItems, List.cons_append, List.append_assoc, evaluateState]
        rw [parseValue_tokens item first itemMeans, handleValue_array,
          evaluateState_moreItems items others itemsMean]
        simp
      · cases mean

/-- The rest of an object is read into its frame. -/
theorem evaluateState_moreMembers (members : List (Bytes × Text))
    (values : List (Bytes × Value F)) (mean : memberValues floats members = some values)
    (rest : List Token) (states : List Bool) (root : Value F) (refStack : List (Frame F))
    (held : List (Bytes × Value F)) (last : Bytes) :
    evaluateState floats (moreMembers members ++ rest) (false :: states)
        ⟨root, .object held last :: refStack⟩ =
      evaluateState floats rest states ((⟨root, refStack⟩ : Dom F).handleValue (.object
        (values.foldl (fun held entry => SortedMap.insert entry.1 entry.2 held) held))) := by
  cases members with
  | nil =>
      cases mean
      rfl
  | cons member members =>
      obtain ⟨key, member⟩ := member
      rw [memberValues] at mean
      split at mean
      · rename_i first others memberMeans membersMean
        cases mean
        simp only [moreMembers, List.cons_append, List.append_assoc, evaluateState]
        rw [parseValue_tokens member first memberMeans, key_handleValue,
          evaluateState_moreMembers members others membersMean]
        rfl
      · cases mean

end

variable (floats) in
/-- A value stands in front, and the loop goes on behind it. -/
def ReadsValue (toks : List Token) (states : List Bool) (dom : Dom F)
    (out : Dom F × List Token) : Prop :=
  ∃ (text : Text) (value : Value F) (rest : List Token), toks = text.tokens ++ rest ∧
    text.value floats = some value ∧ rest.length < toks.length ∧
    evaluateState floats rest states (dom.handleValue value) = .ok out

variable (floats) in
/-- The rest of an array, the same. -/
def ReadsItems (toks : List Token) (states : List Bool) (dom : Dom F) (held : List (Value F))
    (out : Dom F × List Token) : Prop :=
  ∃ (items : List Text) (values : List (Value F)) (rest : List Token),
    toks = moreItems items ++ rest ∧ itemValues floats items = some values ∧
    rest.length < toks.length ∧
    evaluateState floats rest states (dom.handleValue (.array (held ++ values))) = .ok out

variable (floats) in
/-- The rest of an object, the same. -/
def ReadsMembers (toks : List Token) (states : List Bool) (dom : Dom F)
    (held : List (Bytes × Value F)) (out : Dom F × List Token) : Prop :=
  ∃ (members : List (Bytes × Text)) (values : List (Bytes × Value F)) (rest : List Token),
    toks = moreMembers members ++ rest ∧ memberValues floats members = some values ∧
    rest.length < toks.length ∧
    evaluateState floats rest states (dom.handleValue (.object
      (values.foldl (fun held entry => SortedMap.insert entry.1 entry.2 held) held))) = .ok out

variable (floats) in
/-- What an accepting run of the loop has read, from each of the places it can be in. -/
structure ReadsOnly (toks : List Token) : Prop where
  value : ∀ (states : List Bool) (dom : Dom F) (out : Dom F × List Token),
    parseValue floats toks states dom = .ok out → ReadsValue floats toks states dom out
  items : ∀ (states : List Bool) (root : Value F) (refStack : List (Frame F))
      (held : List (Value F)) (out : Dom F × List Token),
    evaluateState floats toks (true :: states) ⟨root, .array held :: refStack⟩ = .ok out →
      ReadsItems floats toks states ⟨root, refStack⟩ held out
  members : ∀ (states : List Bool) (root : Value F) (refStack : List (Frame F))
      (held : List (Bytes × Value F)) (last : Bytes) (out : Dom F × List Token),
    evaluateState floats toks (false :: states) ⟨root, .object held last :: refStack⟩ = .ok out →
      ReadsMembers floats toks states ⟨root, refStack⟩ held out

/-- Behind a value of an array comes a comma and a value, or the end. -/
theorem evaluateState_array_cases {toks : List Token} {states : List Bool} {dom : Dom F}
    {out : Dom F × List Token} (read : evaluateState floats toks (true :: states) dom = .ok out) :
    (∃ toks', toks = .valueSeparator :: toks' ∧
        parseValue floats toks' (true :: states) dom = .ok out) ∨
      ∃ toks', toks = .endArray :: toks' ∧
        evaluateState floats toks' states dom.endArray = .ok out := by
  cases toks with
  | nil => cases read
  | cons token toks =>
      cases token with
      | valueSeparator => exact .inl ⟨toks, rfl, read⟩
      | endArray => exact .inr ⟨toks, rfl, read⟩
      | _ => cases read

/-- Behind `{` a key and its value are read, if it is not closed at once. -/
theorem parseValue_object_cases {toks : List Token} {states : List Bool} {dom : Dom F}
    {out : Dom F × List Token}
    (read : parseValue floats (.beginObject :: toks) states dom = .ok out) :
    (∃ toks', toks = .endObject :: toks' ∧
        evaluateState floats toks' states dom.startObject.endObject = .ok out) ∨
      ∃ key toks', toks = .valueString key :: .nameSeparator :: toks' ∧
        parseValue floats toks' (false :: states) (dom.startObject.key key) = .ok out := by
  cases toks with
  | nil => cases read
  | cons token toks =>
      cases token with
      | endObject => exact .inl ⟨toks, rfl, read⟩
      | valueString key =>
          cases toks with
          | nil => cases read
          | cons separator toks =>
              cases separator with
              | nameSeparator => exact .inr ⟨key, toks, rfl, read⟩
              | _ => cases read
      | _ => cases read

/-- Behind a value of an object comes a comma, a key and a value, or the end. -/
theorem evaluateState_object_cases {toks : List Token} {states : List Bool} {dom : Dom F}
    {out : Dom F × List Token} (read : evaluateState floats toks (false :: states) dom = .ok out) :
    (∃ key toks', toks = .valueSeparator :: .valueString key :: .nameSeparator :: toks' ∧
        parseValue floats toks' (false :: states) (dom.key key) = .ok out) ∨
      ∃ toks', toks = .endObject :: toks' ∧
        evaluateState floats toks' states dom.endObject = .ok out := by
  cases toks with
  | nil => cases read
  | cons token toks =>
      cases token with
      | endObject => exact .inr ⟨toks, rfl, read⟩
      | valueSeparator =>
          cases toks with
          | nil => cases read
          | cons token toks =>
              cases token with
              | valueString key =>
                  cases toks with
                  | nil => cases read
                  | cons separator toks =>
                      cases separator with
                      | nameSeparator => exact .inl ⟨key, toks, rfl, read⟩
                      | _ => cases read
              | _ => cases read
      | _ => cases read

/-- A value, when all that is shorter reads as it should. -/
theorem readsValue_of_shorter {toks : List Token}
    (shorter : ∀ toks' : List Token, toks'.length < toks.length → ReadsOnly floats toks')
    (states : List Bool) (dom : Dom F) (out : Dom F × List Token)
    (read : parseValue floats toks states dom = .ok out) : ReadsValue floats toks states dom out := by
  cases toks with
  | nil => cases read
  | cons token toks =>
      cases token with
      | literalNull => exact ⟨.null, _, toks, rfl, rfl, Nat.lt_succ_self _, read⟩
      | literalTrue => exact ⟨.boolean true, _, toks, rfl, rfl, Nat.lt_succ_self _, read⟩
      | literalFalse => exact ⟨.boolean false, _, toks, rfl, rfl, Nat.lt_succ_self _, read⟩
      | valueInteger value => exact ⟨.integer value, _, toks, rfl, rfl, Nat.lt_succ_self _, read⟩
      | valueUnsigned value => exact ⟨.unsigned value, _, toks, rfl, rfl, Nat.lt_succ_self _, read⟩
      | valueString text => exact ⟨.string text, _, toks, rfl, rfl, Nat.lt_succ_self _, read⟩
      | valueFloat text =>
          rw [parseValue] at read
          split at read
          · rename_i finite
            refine ⟨.float text, _, toks, rfl, ?_, Nat.lt_succ_self _, read⟩
            rw [Text.value, if_pos finite]
          · cases read
      | beginArray =>
          by_cases closed : ∃ toks', toks = .endArray :: toks'
          · obtain ⟨toks', rfl⟩ := closed
            exact ⟨.array [], _, toks', rfl, rfl, by simp only [List.length_cons]; omega, read⟩
          · rw [parseValue_beginArray toks states dom fun toks' same => closed ⟨toks', same⟩] at read
            obtain ⟨item, first, rest, rfl, itemMeans, less, read⟩ :=
              (shorter toks (Nat.lt_succ_self _)).value _ _ _ read
            rw [startArray_eq, handleValue_array, List.nil_append] at read
            obtain ⟨items, others, rest', rfl, itemsMean, less', read⟩ :=
              (shorter rest (by simp only [List.length_cons] at less ⊢; omega)).items _ _ _ _ _ read
            refine ⟨.array (item :: items), _, rest', ?_, ?_, ?_, read⟩
            · simp [Text.tokens]
            · simp [Text.value, itemValues, itemMeans, itemsMean]
            · simp only [List.length_cons] at less less' ⊢
              omega
      | beginObject =>
          rcases parseValue_object_cases read with ⟨toks', rfl, read⟩ | ⟨key, toks', rfl, read⟩
          · exact ⟨.object [], _, toks', rfl, rfl, by simp only [List.length_cons]; omega, read⟩
          · obtain ⟨member, first, rest, rfl, memberMeans, less, read⟩ :=
              (shorter toks' (by simp only [List.length_cons]; omega)).value _ _ _ read
            rw [startObject_eq, key_handleValue] at read
            obtain ⟨members, others, rest', rfl, membersMean, less', read⟩ :=
              (shorter rest (by simp only [List.length_cons]; omega)).members _ _ _ _ _ _ read
            refine ⟨.object ((key, member) :: members), _, rest', ?_, ?_, ?_, read⟩
            · simp [Text.tokens]
            · simp [Text.value, memberValues, memberMeans, membersMean, SortedMap.collect]
            · simp only [List.length_cons] at less less' ⊢
              omega
      | endArray | endObject | nameSeparator | valueSeparator | parseError | endOfInput => cases read

theorem readsItems_of_shorter {toks : List Token}
    (shorter : ∀ toks' : List Token, toks'.length < toks.length → ReadsOnly floats toks')
    (states : List Bool) (root : Value F) (refStack : List (Frame F)) (held : List (Value F))
    (out : Dom F × List Token)
    (read : evaluateState floats toks (true :: states) ⟨root, .array held :: refStack⟩ = .ok out) :
    ReadsItems floats toks states ⟨root, refStack⟩ held out := by
  rcases evaluateState_array_cases read with ⟨toks', rfl, read⟩ | ⟨toks', rfl, closed⟩
  · obtain ⟨item, first, rest, rfl, itemMeans, less, read⟩ :=
      (shorter toks' (Nat.lt_succ_self _)).value _ _ _ read
    rw [handleValue_array] at read
    obtain ⟨items, others, rest', rfl, itemsMean, less', read⟩ :=
      (shorter rest (by simp only [List.length_cons]; omega)).items _ _ _ _ _ read
    refine ⟨item :: items, first :: others, rest', ?_, ?_, ?_, ?_⟩
    · simp [moreItems]
    · simp [itemValues, itemMeans, itemsMean]
    · simp only [List.length_cons] at less less' ⊢
      omega
    · simpa using read
  · exact ⟨[], [], toks', rfl, rfl, Nat.lt_succ_self _, by simpa using closed⟩

theorem readsMembers_of_shorter {toks : List Token}
    (shorter : ∀ toks' : List Token, toks'.length < toks.length → ReadsOnly floats toks')
    (states : List Bool) (root : Value F) (refStack : List (Frame F))
    (held : List (Bytes × Value F)) (last : Bytes) (out : Dom F × List Token)
    (read : evaluateState floats toks (false :: states)
      ⟨root, .object held last :: refStack⟩ = .ok out) :
    ReadsMembers floats toks states ⟨root, refStack⟩ held out := by
  rcases evaluateState_object_cases read with ⟨key, toks', rfl, read⟩ | ⟨toks', rfl, read⟩
  · obtain ⟨member, first, rest, rfl, memberMeans, less, read⟩ :=
      (shorter toks' (by simp only [List.length_cons]; omega)).value _ _ _ read
    rw [key_handleValue] at read
    obtain ⟨members, others, rest', rfl, membersMean, less', read⟩ :=
      (shorter rest (by simp only [List.length_cons]; omega)).members _ _ _ _ _ _ read
    refine ⟨(key, member) :: members, (key, first) :: others, rest', ?_, ?_, ?_, read⟩
    · simp [moreMembers]
    · simp [memberValues, memberMeans, membersMean]
    · simp only [List.length_cons] at less less' ⊢
      omega
  · exact ⟨[], [], toks', rfl, rfl, Nat.lt_succ_self _, read⟩

/-- **The loop reads nothing but the tokens of values.** -/
theorem readsOnly (toks : List Token) : ReadsOnly floats toks := by
  induction size : toks.length using Nat.strongRecOn generalizing toks with
  | _ n ih =>
      have shorter : ∀ toks' : List Token, toks'.length < toks.length → ReadsOnly floats toks' :=
        fun toks' less => ih toks'.length (size ▸ less) toks' rfl
      exact ⟨readsValue_of_shorter shorter, readsItems_of_shorter shorter,
        readsMembers_of_shorter shorter⟩

/-- What is parsed was written as some text. -/
theorem parse_reads {input : Bytes} {value : Value F} (parsed : parse floats input = .ok value) :
    ∃ (text : Text) (rest : List Token), lex input = text.tokens ++ .endOfInput :: rest ∧
      text.value floats = some value := by
  rw [parse, parseTokens] at parsed
  split at parsed
  · rename_i dom rest read
    obtain ⟨text, value', rest', toks, means, -, read⟩ := (readsOnly (lex input)).value _ _ _ read
    rw [evaluateState] at read
    cases read
    cases parsed
    exact ⟨text, rest, toks, means⟩
  · cases parsed
  · cases parsed

/-- What is written as a text is parsed. -/
theorem parse_text {input : Bytes} {value : Value F} {text : Text} {rest : List Token}
    (toks : lex input = text.tokens ++ .endOfInput :: rest)
    (means : text.value floats = some value) : parse floats input = .ok value := by
  rw [parse, parseTokens, toks, parseValue_tokens text value means, evaluateState]
  rfl

variable (floats) in
/-- **A text is parsed as a value exactly when its tokens are those of a syntax tree with that
value, with the end of the input behind them.** -/
theorem parse_iff (input : Bytes) (value : Value F) :
    parse floats input = .ok value ↔
      ∃ (text : Text) (rest : List Token), lex input = text.tokens ++ .endOfInput :: rest ∧
        text.value floats = some value := by
  constructor
  · exact parse_reads
  · rintro ⟨text, rest, toks, means⟩
    exact parse_text toks means

end Reading

end GameServer.Nlohmann
