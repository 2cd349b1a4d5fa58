/-
# Nlohmann.RoundTrip -- what is dumped, parsed

The lexer takes the tokens of a text one by one, so the tokens of what `dump` wrote are
those of the value's syntax, and the parser reads that.  An integer that is not negative
comes back as an unsigned one, and a number that is not finite as null; `settled` says so.

* `parse_dump` -- what `dump` makes of a value is parsed as the value;
* `dump_of_parse` -- no value that was parsed makes `dump` throw;
* `dump_parse_dump` -- dumped, parsed and dumped again, it has the text it had;
* `written_eq_iff` -- two values have one text only if they are read back as one value;
* `dump_clean` -- what `dump` writes is UTF-8 without control characters.
-/
import Mathlib.Data.List.TakeWhile
import GameServer.Nlohmann.Dump

namespace GameServer.Nlohmann

set_option autoImplicit false

open Wire (Bytes)
open Theory Theory.Utf8

/-! ## Token by token -/

theorem scanNumberFrom_shorter {state : NumberState} {type type' : NumberType}
    {buffer buffer' rest rest' : Bytes}
    (scanned : scanNumberFrom state type buffer rest = some (type', buffer', rest')) :
    rest'.length ≤ rest.length := by
  obtain ⟨taken, rfl, -⟩ := scanNumberFrom_taken scanned
  simp

theorem scanNumber_shorter (current : UInt8) (rest : Bytes) :
    (scanNumber current rest).2.length ≤ rest.length := by
  rw [scanNumber]
  split
  · rename_i scanned
    split_ifs at scanned <;> exact scanNumberFrom_shorter scanned
  · exact Nat.le_refl _

theorem scanLiteral_shorter (text : Bytes) (token : Token) (input : Bytes) :
    (scanLiteral text token input).2.length ≤ input.length := by
  induction text generalizing input with
  | nil => exact Nat.le_refl _
  | cons c text ih =>
      cases input with
      | nil => exact Nat.le_refl _
      | cons b input =>
          rw [scanLiteral]
          split
          · exact Nat.le_succ_of_le (ih input)
          · exact Nat.le_succ _

/-- The case of a string in the switch. -/
def stringToken (rest : Bytes) : Token × Bytes :=
  match scanString [] [] rest with
  | some (text, rest) => (.valueString text, rest)
  | none => (.parseError, rest)

theorem ite_rule {P : Token × Bytes → Prop} {condition : Prop} [Decidable condition]
    {one other : Token × Bytes} (first : P one) (second : P other) :
    P (if condition then one else other) := by
  split
  · exact first
  · exact second

/-- What holds of every case of the switch. -/
theorem scanToken_rule {P : Token × Bytes → Prop} {current : UInt8} {rest : Bytes}
    (plain : ∀ token, (∀ text, token ≠ .valueString text) → P (token, rest))
    (literal : ∀ text token, (∀ s, token ≠ .valueString s) → P (scanLiteral text token rest))
    (number : P (scanNumber current rest)) (string : P (stringToken rest)) :
    P (scanToken current rest) := by
  rw [scanToken]
  refine ite_rule (plain _ ?_) (ite_rule (plain _ ?_) (ite_rule (plain _ ?_) (ite_rule (plain _ ?_)
    (ite_rule (plain _ ?_) (ite_rule (plain _ ?_) (ite_rule (literal _ _ ?_)
    (ite_rule (literal _ _ ?_) (ite_rule (literal _ _ ?_) (ite_rule string (ite_rule number
    (ite_rule (plain _ ?_) (plain _ ?_))))))))))))
  all_goals
    intro text same
    cases same

theorem scanToken_shorter (current : UInt8) (rest : Bytes) :
    (scanToken current rest).2.length ≤ rest.length := by
  refine @scanToken_rule (fun scanned => scanned.2.length ≤ rest.length) current rest
    (fun _ _ => Nat.le_refl _) (fun text token _ => scanLiteral_shorter text token rest)
    (scanNumber_shorter current rest) ?_
  rw [stringToken]
  split
  · rename_i scanned
    exact Nat.le_of_lt (scanString_shorter scanned)
  · exact Nat.le_refl _

theorem skipWhitespace_shorter (input : Bytes) : (skipWhitespace input).length ≤ input.length :=
  (List.dropWhile_sublist _).length_le

/-- A token that is not the last one takes a byte at least. -/
theorem scan_shorter {input rest : Bytes} {token : Token} (scanned : scan input = (token, rest))
    (more : token.last = false) : rest.length < input.length := by
  have skipped := skipWhitespace_shorter input
  rw [scan] at scanned
  cases left : skipWhitespace input with
  | nil =>
      simp only [left] at scanned
      cases scanned
      cases more
  | cons current rest' =>
      simp only [left] at scanned
      have shorter := scanToken_shorter current rest'
      rw [scanned] at shorter
      rw [left, List.length_cons] at skipped
      exact Nat.lt_of_lt_of_le (Nat.lt_succ_of_le shorter) skipped

/-- Fuel for every byte is enough. -/
theorem tokensFrom_enough {fuel fuel' : Nat} {input : Bytes} (enough : input.length < fuel)
    (enough' : input.length < fuel') : tokensFrom fuel input = tokensFrom fuel' input := by
  induction fuel generalizing fuel' input with
  | zero => cases enough
  | succ fuel ih =>
      cases fuel' with
      | zero => cases enough'
      | succ fuel' =>
          rw [tokensFrom, tokensFrom]
          cases scanned : scan input with
          | mk token rest =>
              cases more : token.last with
              | true => simp only [more, if_true]
              | false =>
                  have shorter := scan_shorter scanned more
                  simp only [more, Bool.false_eq_true, if_false]
                  rw [@ih fuel' rest (by omega) (by omega)]

/-- One token, and those of what is left. -/
theorem tokens_cons {input rest : Bytes} {token : Token} (scanned : scan input = (token, rest))
    (more : token.last = false) : tokens input = token :: tokens rest := by
  have shorter := scan_shorter scanned more
  rw [tokens, tokensFrom, scanned]
  simp only [more, Bool.false_eq_true, if_false]
  rw [tokens, tokensFrom_enough shorter (Nat.lt_succ_self _)]

section Reading

variable {F : Type} (floats : Floats F)

/-! ## What is read back -/

/-- What `to_chars` and `strtod` are documented to do: the text of a finite number is that
of a floating-point number, and is read as the same number. -/
def Floats.Exact : Prop :=
  ∀ x, floats.isFinite x = true → FloatText (floats.toChars x) ∧ floats.strtod (floats.toChars x) = x

/-- Of all numbers there is a half. -/
def halfFloats : Floats Unit where
  strtod _ := ()
  isFinite _ := true
  toChars _ := [0x30, 0x2E, 0x35]

theorem half_exact : halfFloats.Exact := fun _ _ => ⟨⟨0x30, [0x2E, 0x35], rfl, .inr rfl, rfl⟩, rfl⟩

/-- `{"a":[0.5,-3,"\n"],"b":null}` -/
def sample : Value Unit :=
  .object [([0x61], .array [.numberFloat (), .numberInteger (-3), .string [0x0A]]), ([0x62], .null)]

theorem sample_utf8 : sample.Utf8 := by
  have letter : ∀ b : UInt8, b.toNat ≤ 0x7F → Valid [b] := fun b small => valid_one small valid_nil
  exact ⟨letter _ (by decide), ⟨trivial, trivial, letter _ (by decide), trivial⟩,
    letter _ (by decide), trivial, trivial⟩

theorem sample_ordered : sample.Ordered :=
  ⟨List.pairwise_pair.mpr rfl, ⟨trivial, trivial, trivial, trivial⟩, trivial, trivial⟩

mutual

/-- The syntax of what is written: an integer has lost the type it was held in, and a number
that is not finite is gone. -/
def Value.text : Value F → Text
  | .null => .null
  | .boolean value => .boolean value
  | .numberInteger x => if x < 0 then .integer x else .unsigned x.toUInt64
  | .numberUnsigned x => .unsigned x
  | .numberFloat x => if floats.isFinite x then .float (floats.toChars x) else .null
  | .string text => .string text
  | .array items => .array (itemTexts items)
  | .object members => .object (memberTexts members)

def itemTexts : List (Value F) → List Text
  | [] => []
  | item :: items => item.text :: itemTexts items

def memberTexts : List (Bytes × Value F) → List (Bytes × Text)
  | [] => []
  | (key, value) :: members => (key, value.text) :: memberTexts members

end

mutual

/-- The value that text stands for. -/
def Value.settled : Value F → Value F
  | .null => .null
  | .boolean value => .boolean value
  | .numberInteger x => if x < 0 then .numberInteger x else .numberUnsigned x.toUInt64
  | .numberUnsigned x => .numberUnsigned x
  | .numberFloat x => if floats.isFinite x then .numberFloat x else .null
  | .string text => .string text
  | .array items => .array (itemsSettled items)
  | .object members => .object (membersSettled members)

def itemsSettled : List (Value F) → List (Value F)
  | [] => []
  | item :: items => item.settled :: itemsSettled items

def membersSettled : List (Bytes × Value F) → List (Bytes × Value F)
  | [] => []
  | (key, value) :: members => (key, value.settled) :: membersSettled members

end

variable {floats}

theorem membersSettled_keys (members : List (Bytes × Value F)) :
    (membersSettled floats members).map Prod.fst = members.map Prod.fst := by
  induction members with
  | nil => rfl
  | cons member members ih => rw [membersSettled, List.map_cons, List.map_cons, ih]

theorem membersSettled_sorted {members : List (Bytes × Value F)}
    (sorted : SortedMap.Sorted members) : SortedMap.Sorted (membersSettled floats members) := by
  have keys : (members.map Prod.fst).Pairwise fun one other => compare one other = .lt :=
    List.pairwise_map.mpr sorted
  rw [← @membersSettled_keys F floats] at keys
  exact List.pairwise_map.mp keys

mutual

/-- A text means the value it was written for. -/
theorem text_value (exact : floats.Exact) (value : Value F) (ordered : value.Ordered) :
    (value.text floats).value floats = some (value.settled floats) := by
  cases value with
  | null => rfl
  | boolean flag => rfl
  | numberInteger x =>
      rw [Value.text, Value.settled]
      split <;> rfl
  | numberUnsigned x => rfl
  | numberFloat x =>
      rw [Value.text, Value.settled]
      split
      · rename_i finite
        rw [Text.value, (exact x finite).2, if_pos finite]
      · rfl
  | string text => rfl
  | array items =>
      rw [Value.text, Text.value, itemTexts_values exact items ordered]
      rfl
  | object members =>
      rw [Value.text, Text.value, memberTexts_values exact members ordered.2]
      have same := SortedMap.collect_sorted (@membersSettled_sorted F floats _ ordered.1)
      rw [Option.map_some, same]
      rfl

theorem itemTexts_values (exact : floats.Exact) (items : List (Value F))
    (ordered : itemsOrdered items) :
    itemValues floats (itemTexts floats items) = some (itemsSettled floats items) := by
  cases items with
  | nil => rfl
  | cons item items =>
      rw [itemTexts, itemValues, text_value exact item ordered.1,
        itemTexts_values exact items ordered.2]
      rfl

theorem memberTexts_values (exact : floats.Exact) (members : List (Bytes × Value F))
    (ordered : membersOrdered members) :
    memberValues floats (memberTexts floats members) = some (membersSettled floats members) := by
  cases members with
  | nil => rfl
  | cons member members =>
      rw [memberTexts, memberValues, text_value exact member.2 ordered.1,
        memberTexts_values exact members ordered.2]
      rfl

end

theorem scan_quoted {s : Bytes} (valid : Valid s) (input : Bytes) :
    scan (quoted s ++ input) = (.valueString s, input) := by
  have joined : quoted s ++ input = 0x22 :: (escaped s ++ 0x22 :: input) := by
    simp [quoted]
  have opened : scan (0x22 :: (escaped s ++ 0x22 :: input)) =
      stringToken (escaped s ++ 0x22 :: input) := rfl
  rw [joined, opened, stringToken, scanString_escaped valid]

theorem stops_cons {b : UInt8} (input : Bytes) (digit : isDigit b = false) (point : b ≠ 0x2E)
    (exponent : isExponent b = false) : Stops (b :: input) := by
  intro c member
  cases member
  exact ⟨digit, point, exponent⟩

theorem stops_moreItems (items : List (Value F)) (input : Bytes) :
    Stops (moreItemsWritten floats items ++ input) := by
  cases items <;> exact stops_cons _ rfl (by decide) rfl

theorem stops_moreMembers (members : List (Bytes × Value F)) (input : Bytes) :
    Stops (moreMembersWritten floats members ++ input) := by
  cases members <;> exact stops_cons _ rfl (by decide) rfl

/-- A mark, a key and a colon. -/
theorem tokens_member {mark : UInt8} {token : Token} {input : Bytes}
    (scanned : ∀ rest, scan (mark :: rest) = (token, rest)) (more : token.last = false)
    {key : Bytes} (valid : Valid key) :
    tokens (mark :: (quoted key ++ 0x3A :: input)) =
      token :: .valueString key :: .nameSeparator :: tokens input := by
  rw [tokens_cons (scanned _) more, tokens_cons (scan_quoted valid _) rfl, @tokens_cons _ input _ rfl rfl]

mutual

/-- **What is written is lexed as its syntax**, in front of anything that does not go on with
a number. -/
theorem tokens_written (exact : floats.Exact) (value : Value F) (utf8 : value.Utf8)
    (input : Bytes) (stops : Stops input) :
    tokens (value.written floats ++ input) = (value.text floats).tokens ++ tokens input := by
  cases value with
  | null => exact tokens_cons rfl rfl
  | boolean flag => cases flag <;> exact tokens_cons rfl rfl
  | numberInteger x =>
      rw [Value.written, Value.text]
      split_ifs with negative
      · exact tokens_cons (scan_minus negative stops) rfl
      · rw [List.nil_append, ← toNat_toUInt64 negative]
        exact tokens_cons (scan_numeral x.toUInt64 stops) rfl
  | numberUnsigned x => exact tokens_cons (scan_numeral x stops) rfl
  | numberFloat x =>
      rw [Value.written, Value.text, dumpFloat]
      split_ifs with finite
      · exact tokens_cons (scan_float (exact x finite).1 stops) rfl
      · exact tokens_cons rfl rfl
  | string text => exact tokens_cons (scan_quoted utf8 input) rfl
  | array items =>
      cases items with
      | nil => exact (tokens_cons rfl rfl).trans (congrArg _ (tokens_cons rfl rfl))
      | cons item items =>
          have opened := @tokens_cons (0x5B :: (item.written floats ++
            (moreItemsWritten floats items ++ input))) _ _ rfl rfl
          rw [tokens_written exact item utf8.1 _ (stops_moreItems items input),
            tokens_moreItemsWritten exact items utf8.2] at opened
          simpa [Value.written, Value.text, itemTexts, Text.tokens] using opened
  | object members =>
      cases members with
      | nil => exact (tokens_cons rfl rfl).trans (congrArg _ (tokens_cons rfl rfl))
      | cons member members =>
          have opened := @tokens_member 0x7B .beginObject (member.2.written floats ++
            (moreMembersWritten floats members ++ input)) (fun _ => rfl) rfl member.1 utf8.1
          rw [tokens_written exact member.2 utf8.2.1 _ (stops_moreMembers members input),
            tokens_moreMembersWritten exact members utf8.2.2] at opened
          simpa [Value.written, Value.text, memberTexts, Text.tokens] using opened

theorem tokens_moreItemsWritten (exact : floats.Exact) (items : List (Value F))
    (utf8 : itemsUtf8 items) (input : Bytes) :
    tokens (moreItemsWritten floats items ++ input) =
      moreItems (itemTexts floats items) ++ tokens input := by
  cases items with
  | nil => exact tokens_cons rfl rfl
  | cons item items =>
      have opened := @tokens_cons (0x2C :: (item.written floats ++
        (moreItemsWritten floats items ++ input))) _ _ rfl rfl
      rw [tokens_written exact item utf8.1 _ (stops_moreItems items input),
        tokens_moreItemsWritten exact items utf8.2] at opened
      simpa [moreItemsWritten, moreItems, itemTexts] using opened

theorem tokens_moreMembersWritten (exact : floats.Exact) (members : List (Bytes × Value F))
    (utf8 : membersUtf8 members) (input : Bytes) :
    tokens (moreMembersWritten floats members ++ input) =
      moreMembers (memberTexts floats members) ++ tokens input := by
  cases members with
  | nil => exact tokens_cons rfl rfl
  | cons member members =>
      have opened := @tokens_member 0x2C .valueSeparator (member.2.written floats ++
        (moreMembersWritten floats members ++ input)) (fun _ => rfl) rfl member.1 utf8.1
      rw [tokens_written exact member.2 utf8.2.1 _ (stops_moreMembers members input),
        tokens_moreMembersWritten exact members utf8.2.2] at opened
      simpa [moreMembersWritten, moreMembers, memberTexts] using opened

end

/-- No text of a value begins like a byte order mark. -/
theorem written_head (exact : floats.Exact) (value : Value F) :
    ∃ b rest, value.written floats = b :: rest ∧ b ≠ 0xEF := by
  have number : ∀ n, ∃ b rest, numeral n = b :: rest ∧ b ≠ 0xEF := by
    intro n
    obtain ⟨d, digits, same, small, -⟩ := numeral_cons n
    have plain : ∀ d < 10, digit d ≠ 0xEF := by decide
    exact ⟨_, _, same, plain d small⟩
  cases value with
  | null => exact ⟨_, _, rfl, by decide⟩
  | boolean flag => cases flag <;> exact ⟨_, _, rfl, by decide⟩
  | numberInteger x =>
      rw [Value.written]
      split_ifs with negative
      · exact ⟨_, _, rfl, by decide⟩
      · exact number _
  | numberUnsigned x => exact number _
  | numberFloat x =>
      rw [Value.written, dumpFloat]
      split_ifs with finite
      · obtain ⟨current, rest, same, begins, -⟩ := (exact x finite).1
        refine ⟨current, rest, same, ?_⟩
        rintro rfl
        rcases begins with dash | digital
        · cases dash
        · cases digital
      · exact ⟨_, _, rfl, by decide⟩
  | string text => exact ⟨_, _, rfl, by decide⟩
  | array items => cases items <;> exact ⟨_, _, rfl, by decide⟩
  | object members => cases members <;> exact ⟨_, _, rfl, by decide⟩

theorem skipBom_plain {b : UInt8} (plain : b ≠ 0xEF) (rest : Bytes) :
    skipBom (b :: rest) = some (b :: rest) := by
  rw [skipBom.eq_def]
  exact if_neg plain

/-- White space, and nothing else. -/
def Blank (text : Bytes) : Prop := ∀ b ∈ text, isWhitespace b = true

theorem tokens_blank {text : Bytes} (blank : Blank text) : tokens text = [.endOfInput] := by
  have skipped : skipWhitespace text = [] := List.dropWhile_eq_nil_iff.mpr blank
  have ended : scan text = (.endOfInput, []) := by rw [scan, skipped]
  rw [tokens, tokensFrom, ended]
  rfl

theorem stops_blank {text : Bytes} (blank : Blank text) : Stops text := by
  intro b member
  have white := blank b (List.mem_of_mem_head? member)
  simp only [isWhitespace, Bool.or_eq_true, decide_eq_true_eq] at white
  rcases white with ((rfl | rfl) | rfl) | rfl <;> exact ⟨rfl, by decide, rfl⟩

theorem lex_written (exact : floats.Exact) (value : Value F) (utf8 : value.Utf8) {behind : Bytes}
    (blank : Blank behind) :
    lex (value.written floats ++ behind) = (value.text floats).tokens ++ [.endOfInput] := by
  obtain ⟨b, rest, same, plain⟩ := written_head exact value
  have toks := tokens_written exact value utf8 behind (stops_blank blank)
  rw [tokens_blank blank, same, List.cons_append] at toks
  rw [lex, same, List.cons_append, skipBom_plain plain]
  exact toks

/-- **What is written is parsed as the value**, but for the type an integer was held in,
and with white space behind it as well. -/
theorem parse_written_blank (exact : floats.Exact) {value : Value F} (utf8 : value.Utf8)
    (ordered : value.Ordered) {behind : Bytes} (blank : Blank behind) :
    parse floats (value.written floats ++ behind) = .ok (value.settled floats) :=
  parse_text (lex_written exact value utf8 blank) (text_value exact value ordered)

theorem parse_written (exact : floats.Exact) {value : Value F} (utf8 : value.Utf8)
    (ordered : value.Ordered) :
    parse floats (value.written floats) = .ok (value.settled floats) := by
  have parsed := parse_written_blank exact utf8 ordered (List.forall_mem_nil _ : Blank [])
  rwa [List.append_nil] at parsed

/-- **Dumped and parsed**: what `dump` makes of a value is parsed as the value. -/
theorem parse_dump (exact : floats.Exact) {value : Value F} (ordered : value.Ordered)
    {text : Bytes} (dumped : dump floats value = .ok text) :
    parse floats text = .ok (value.settled floats) := by
  rcases @dump_dumps F floats value with ⟨utf8, done⟩ | ⟨-, refused⟩
  · cases dumped.symm.trans done
    exact parse_written exact utf8 ordered
  · cases dumped.symm.trans refused

theorem parse_dump_sample :
    parse halfFloats (sample.written halfFloats) = .ok (sample.settled halfFloats) :=
  parse_dump half_exact sample_ordered rfl

/-! ## What is parsed -/

theorem scanLiteral_first (text : Bytes) (token : Token) (input : Bytes) :
    (scanLiteral text token input).1 = token ∨ (scanLiteral text token input).1 = .parseError := by
  induction text generalizing input with
  | nil => exact .inl rfl
  | cons c text ih =>
      cases input with
      | nil => exact .inr rfl
      | cons b input =>
          rw [scanLiteral]
          split
          · exact ih input
          · exact .inr rfl

theorem numberToken_ne_string (type : NumberType) (buffer text : Bytes) :
    numberToken type buffer ≠ .valueString text := by
  unfold numberToken
  split
  · split <;> exact fun same => by cases same
  · split <;> exact fun same => by cases same
  · exact fun same => by cases same

/-- A string token holds UTF-8. -/
theorem scan_valid {input rest text : Bytes} (scanned : scan input = (.valueString text, rest)) :
    Valid text := by
  rw [scan] at scanned
  split at scanned
  · cases scanned
  · rename_i current rest' _
    have told := @scanToken_rule (fun scanned => ∀ text, scanned.1 = .valueString text → Valid text)
      current rest' (fun token other text same => absurd same (other text)) ?_ ?_ ?_
    · exact told text (congrArg Prod.fst scanned)
    · intro letters token other text same
      rcases scanLiteral_first letters token rest' with first | first
      · exact absurd (first.symm.trans same) (other text)
      · cases first.symm.trans same
    · intro text same
      rw [scanNumber] at same
      split at same
      · exact absurd same (numberToken_ne_string _ _ _)
      · cases same
    · intro text same
      rw [stringToken] at same
      split at same
      · rename_i taken
        cases same
        exact scanString_valid taken
      · cases same

theorem tokensFrom_valid {fuel : Nat} {input text : Bytes}
    (member : .valueString text ∈ tokensFrom fuel input) : Valid text := by
  induction fuel generalizing input with
  | zero => cases member
  | succ fuel ih =>
      rw [tokensFrom] at member
      cases scanned : scan input with
      | mk token rest =>
          simp only [scanned] at member
          split at member
          · rw [List.mem_singleton] at member
            subst member
            exact scan_valid scanned
          · rcases List.mem_cons.mp member with rfl | later
            · exact scan_valid scanned
            · exact ih later

theorem lex_valid {input text : Bytes} (member : .valueString text ∈ lex input) : Valid text := by
  rw [lex] at member
  split at member
  · exact tokensFrom_valid member
  · rw [List.mem_singleton] at member
    cases member

theorem itemsUtf8_iff {items : List (Value F)} : itemsUtf8 items ↔ ∀ item ∈ items, item.Utf8 := by
  induction items with
  | nil => simp [itemsUtf8]
  | cons item items ih => rw [itemsUtf8, ih, List.forall_mem_cons]

theorem membersUtf8_iff {members : List (Bytes × Value F)} :
    membersUtf8 members ↔ ∀ member ∈ members, Valid member.1 ∧ member.2.Utf8 := by
  induction members with
  | nil => simp [membersUtf8]
  | cons member members ih => rw [membersUtf8, ih, List.forall_mem_cons, and_assoc]

theorem membersOrdered_iff {members : List (Bytes × Value F)} :
    membersOrdered members ↔ ∀ member ∈ members, member.2.Ordered := by
  induction members with
  | nil => simp [membersOrdered]
  | cons member members ih => rw [membersOrdered, ih, List.forall_mem_cons]

mutual

/-- A value has the strings of its text, and its objects are in order. -/
theorem value_wellFormed {text : Text} {value : Value F} (means : text.value floats = some value)
    (strings : ∀ s, .valueString s ∈ text.tokens → Valid s) : value.Utf8 ∧ value.Ordered := by
  cases text with
  | null | boolean | integer | unsigned =>
      cases means
      exact ⟨trivial, trivial⟩
  | float lexeme =>
      rw [Text.value] at means
      split at means
      · cases means
        exact ⟨trivial, trivial⟩
      · cases means
  | string text =>
      cases means
      exact ⟨strings text List.mem_cons_self, trivial⟩
  | array items =>
      rw [Text.value] at means
      obtain ⟨values, valued, rfl⟩ := Option.map_eq_some_iff.mp means
      cases items with
      | nil =>
          cases valued
          exact ⟨trivial, trivial⟩
      | cons item items =>
          rw [itemValues] at valued
          split at valued
          · rename_i first others itemMeans itemsMean
            cases valued
            obtain ⟨utf8, ordered⟩ := value_wellFormed itemMeans fun s member =>
              strings s (by simp [Text.tokens, member])
            obtain ⟨utf8', ordered'⟩ := itemValues_wellFormed itemsMean fun s member =>
              strings s (by simp [Text.tokens, member])
            exact ⟨⟨utf8, utf8'⟩, ordered, ordered'⟩
          · cases valued
  | object members =>
      rw [Text.value] at means
      obtain ⟨values, valued, rfl⟩ := Option.map_eq_some_iff.mp means
      have fine : ∀ member ∈ values, Valid member.1 ∧ member.2.Utf8 ∧ member.2.Ordered := by
        cases members with
        | nil =>
            cases valued
            exact List.forall_mem_nil _
        | cons member members =>
            rw [memberValues] at valued
            split at valued
            · rename_i first others memberMeans membersMean
              cases valued
              refine List.forall_mem_cons.mpr ⟨⟨strings member.1 (by simp [Text.tokens]), ?_⟩, ?_⟩
              · exact value_wellFormed memberMeans fun s inside =>
                  strings s (by simp [Text.tokens, inside])
              · exact memberValues_wellFormed membersMean fun s inside =>
                  strings s (by simp [Text.tokens, inside])
            · cases valued
      have collected := @SortedMap.forall_collect Bytes (Value F) _ Valid
        (fun value => value.Utf8 ∧ value.Ordered) values fine
      exact ⟨membersUtf8_iff.mpr fun member inside =>
          ⟨(collected member inside).1, (collected member inside).2.1⟩,
        SortedMap.sorted_collect values,
        membersOrdered_iff.mpr fun member inside => (collected member inside).2.2⟩

theorem itemValues_wellFormed {items : List Text} {values : List (Value F)}
    (mean : itemValues floats items = some values)
    (strings : ∀ s, .valueString s ∈ moreItems items → Valid s) :
    itemsUtf8 values ∧ itemsOrdered values := by
  cases items with
  | nil =>
      cases mean
      exact ⟨trivial, trivial⟩
  | cons item items =>
      rw [itemValues] at mean
      split at mean
      · rename_i first others itemMeans itemsMean
        cases mean
        obtain ⟨utf8, ordered⟩ := value_wellFormed itemMeans fun s member =>
          strings s (by simp [moreItems, member])
        obtain ⟨utf8', ordered'⟩ := itemValues_wellFormed itemsMean fun s member =>
          strings s (by simp [moreItems, member])
        exact ⟨⟨utf8, utf8'⟩, ordered, ordered'⟩
      · cases mean

theorem memberValues_wellFormed {members : List (Bytes × Text)}
    {values : List (Bytes × Value F)} (mean : memberValues floats members = some values)
    (strings : ∀ s, .valueString s ∈ moreMembers members → Valid s) :
    ∀ member ∈ values, Valid member.1 ∧ member.2.Utf8 ∧ member.2.Ordered := by
  cases members with
  | nil =>
      cases mean
      exact List.forall_mem_nil _
  | cons member members =>
      rw [memberValues] at mean
      split at mean
      · rename_i first others memberMeans membersMean
        cases mean
        refine List.forall_mem_cons.mpr ⟨⟨strings member.1 (by simp [moreMembers]), ?_⟩, ?_⟩
        · exact value_wellFormed memberMeans fun s inside =>
            strings s (by simp [moreMembers, inside])
        · exact memberValues_wellFormed membersMean fun s inside =>
            strings s (by simp [moreMembers, inside])
      · cases mean

end

/-- **What is parsed is UTF-8 throughout, and in order.** -/
theorem parse_wellFormed {input : Bytes} {value : Value F} (parsed : parse floats input = .ok value) :
    value.Utf8 ∧ value.Ordered := by
  obtain ⟨text, rest, toks, means⟩ := parse_reads parsed
  refine value_wellFormed means fun s member => @lex_valid input s ?_
  rw [toks]
  exact List.mem_append_left _ member

theorem dump_utf8 {value : Value F} (utf8 : value.Utf8) :
    dump floats value = .ok (value.written floats) := by
  rcases @dump_dumps F floats value with ⟨-, done⟩ | ⟨invalid, -⟩
  · exact done
  · exact absurd utf8 invalid

/-- **No value that was parsed makes `dump` throw.** -/
theorem dump_of_parse {input : Bytes} {value : Value F} (parsed : parse floats input = .ok value) :
    dump floats value = .ok (value.written floats) :=
  dump_utf8 (parse_wellFormed parsed).1

theorem dump_of_parse_sample :
    dump halfFloats (sample.settled halfFloats) =
      .ok ((sample.settled halfFloats).written halfFloats) :=
  dump_of_parse (parse_written half_exact sample_utf8 sample_ordered)

mutual

/-- A value that was read back is written as before. -/
theorem written_settled (value : Value F) :
    (value.settled floats).written floats = value.written floats := by
  cases value with
  | null | boolean | numberUnsigned | string => rfl
  | numberInteger x =>
      rw [Value.settled]
      split_ifs with negative
      · rfl
      · rw [Value.written, Value.written, if_neg negative, toNat_toUInt64 negative]
        rfl
  | numberFloat x =>
      rw [Value.settled]
      split_ifs with finite
      · rfl
      · rw [Value.written, Value.written, dumpFloat, if_neg finite]
  | array items =>
      cases items with
      | nil => rfl
      | cons item items =>
          simp only [Value.settled, itemsSettled, Value.written, written_settled item,
            moreItemsWritten_settled items]
  | object members =>
      cases members with
      | nil => rfl
      | cons member members =>
          simp only [Value.settled, membersSettled, Value.written, written_settled member.2,
            moreMembersWritten_settled members]

theorem moreItemsWritten_settled (items : List (Value F)) :
    moreItemsWritten floats (itemsSettled floats items) = moreItemsWritten floats items := by
  cases items with
  | nil => rfl
  | cons item items =>
      simp only [itemsSettled, moreItemsWritten, written_settled item,
        moreItemsWritten_settled items]

theorem moreMembersWritten_settled (members : List (Bytes × Value F)) :
    moreMembersWritten floats (membersSettled floats members) =
      moreMembersWritten floats members := by
  cases members with
  | nil => rfl
  | cons member members =>
      simp only [membersSettled, moreMembersWritten, written_settled member.2,
        moreMembersWritten_settled members]

end

/-- **Two values have one text exactly when they are read back as one value.** -/
theorem written_eq_iff (exact : floats.Exact) {value value' : Value F} (utf8 : value.Utf8)
    (ordered : value.Ordered) (utf8' : value'.Utf8) (ordered' : value'.Ordered) :
    value.written floats = value'.written floats ↔
      value.settled floats = value'.settled floats := by
  constructor
  · intro same
    have read := parse_written exact utf8 ordered
    rw [same, parse_written exact utf8' ordered'] at read
    exact (Except.ok.inj read).symm
  · intro same
    rw [← written_settled value, same, written_settled]

/-- **A text normalised once is normal**: dumped, parsed and dumped again, what was parsed has
the text it had. -/
theorem dump_parse_dump (exact : floats.Exact) {input : Bytes} {value : Value F}
    (parsed : parse floats input = .ok value) :
    ∃ text again, dump floats value = .ok text ∧ parse floats text = .ok again ∧
      dump floats again = .ok text := by
  obtain ⟨utf8, ordered⟩ := parse_wellFormed parsed
  have again := parse_written exact utf8 ordered
  refine ⟨_, _, dump_utf8 utf8, again, ?_⟩
  rw [dump_utf8 (parse_wellFormed again).1, written_settled]

theorem dump_parse_dump_sample :
    ∃ text again, dump halfFloats (sample.settled halfFloats) = .ok text ∧
      parse halfFloats text = .ok again ∧ dump halfFloats again = .ok text :=
  dump_parse_dump half_exact (parse_written half_exact sample_utf8 sample_ordered)

theorem clean_quoted {s : Bytes} (valid : Valid s) : Clean (quoted s) :=
  clean_cons (by decide) (clean_append (clean_escaped valid) (clean_literal rfl))

theorem clean_numeral (n : Nat) : Clean (numeral n) := by
  obtain ⟨d, digits, same, small, -, all⟩ := numeral_cons n
  rw [same]
  exact clean_plain (List.forall_mem_cons.mpr
    ⟨digit_plain (isDigit_digit small), fun b member => digit_plain (all b member)⟩)

theorem clean_float {text : Bytes} (float : FloatText text) : Clean text := by
  obtain ⟨current, rest, rfl, begins, scanned⟩ := float
  refine clean_plain (List.forall_mem_cons.mpr ⟨?_, ?_⟩)
  · rcases begins with rfl | digital
    · decide
    · exact digit_plain digital
  · rw [scanNumber] at scanned
    split at scanned
    · rename_i type buffer rest' taken
      cases (Prod.mk.inj scanned).2
      split_ifs at taken <;>
        · obtain ⟨all, same, -, plain⟩ := scanNumberFrom_taken taken
          rw [List.append_nil] at same
          exact same ▸ plain
    · cases scanned

mutual

/-- **The text of a value is UTF-8 without control characters**, so it holds no line break. -/
theorem clean_written (exact : floats.Exact) (value : Value F) (utf8 : value.Utf8) :
    Clean (value.written floats) := by
  cases value with
  | null => exact clean_literal rfl
  | boolean flag => cases flag <;> exact clean_literal rfl
  | numberInteger x =>
      refine clean_append ?_ (clean_numeral _)
      split <;> exact clean_literal rfl
  | numberUnsigned x => exact clean_numeral _
  | numberFloat x =>
      rw [Value.written, dumpFloat]
      split_ifs with finite
      · exact clean_float (exact x finite).1
      · exact clean_literal rfl
  | string text => exact clean_quoted utf8
  | array items =>
      cases items with
      | nil => exact clean_literal rfl
      | cons item items =>
          exact clean_cons (by decide) (clean_append (clean_written exact item utf8.1)
            (clean_moreItems exact items utf8.2))
  | object members =>
      cases members with
      | nil => exact clean_literal rfl
      | cons member members =>
          exact clean_cons (by decide) (clean_append (clean_quoted utf8.1)
            (clean_cons (by decide) (clean_append (clean_written exact member.2 utf8.2.1)
              (clean_moreMembers exact members utf8.2.2))))

theorem clean_moreItems (exact : floats.Exact) (items : List (Value F)) (utf8 : itemsUtf8 items) :
    Clean (moreItemsWritten floats items) := by
  cases items with
  | nil => exact clean_literal rfl
  | cons item items =>
      exact clean_cons (by decide) (clean_append (clean_written exact item utf8.1)
        (clean_moreItems exact items utf8.2))

theorem clean_moreMembers (exact : floats.Exact) (members : List (Bytes × Value F))
    (utf8 : membersUtf8 members) : Clean (moreMembersWritten floats members) := by
  cases members with
  | nil => exact clean_literal rfl
  | cons member members =>
      exact clean_cons (by decide) (clean_append (clean_quoted utf8.1)
        (clean_cons (by decide) (clean_append (clean_written exact member.2 utf8.2.1)
          (clean_moreMembers exact members utf8.2.2))))

end

/-- **What `dump` writes is UTF-8 without control characters.** -/
theorem dump_clean (exact : floats.Exact) {value : Value F} {text : Bytes}
    (dumped : dump floats value = .ok text) : Clean text := by
  rcases @dump_dumps F floats value with ⟨utf8, done⟩ | ⟨-, refused⟩
  · cases dumped.symm.trans done
    exact clean_written exact value utf8
  · cases dumped.symm.trans refused

theorem dump_clean_sample : Clean (sample.written halfFloats) :=
  dump_clean half_exact (dump_utf8 sample_utf8)

end Reading

end GameServer.Nlohmann
