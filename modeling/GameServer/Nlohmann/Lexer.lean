/-
# Nlohmann.Lexer -- `detail::lexer` of `json.hpp`

`scan` reads one token off the front of the input.  What the lexer remembers between
two tokens is the input that is left: a number gives back the byte that ended it, the
token buffer starts anew with each string and number.

Positions and messages of errors are left out, and comments, which `parse` asks it not
to ignore.  The locale's decimal point is `.`; `strtod` is a parameter of whoever
takes the tokens.
-/
import Mathlib.Data.List.Basic
import GameServer.Wire.MessageBuffer

namespace GameServer.Nlohmann

set_option autoImplicit false

open Wire (Bytes)

/-! ## Tokens -/

inductive Token where
  | literalTrue
  | literalFalse
  | literalNull
  | valueString (text : Bytes)
  | valueUnsigned (value : UInt64)
  | valueInteger (value : Int64)
  /-- The text `strtod` is given. -/
  | valueFloat (text : Bytes)
  | beginArray
  | beginObject
  | endArray
  | endObject
  | nameSeparator
  | valueSeparator
  | parseError
  | endOfInput
deriving DecidableEq, Repr

/-! ## Strings -/

/-- What the byte after a backslash stands for, `u` apart. -/
def simpleEscape (e : UInt8) : Option UInt8 :=
  if e = 0x22 then some 0x22
  else if e = 0x5C then some 0x5C
  else if e = 0x2F then some 0x2F
  else if e = 0x62 then some 0x08
  else if e = 0x66 then some 0x0C
  else if e = 0x6E then some 0x0A
  else if e = 0x72 then some 0x0D
  else if e = 0x74 then some 0x09
  else none

def hexDigit (b : UInt8) : Option Nat :=
  if 0x30 ≤ b ∧ b ≤ 0x39 then some (b.toNat - 0x30)
  else if 0x41 ≤ b ∧ b ≤ 0x46 then some (b.toNat - 0x37)
  else if 0x61 ≤ b ∧ b ≤ 0x66 then some (b.toNat - 0x57)
  else none

/-- `get_codepoint`, on the four bytes it reads. -/
def getCodepoint (a b c d : UInt8) : Option Nat :=
  match hexDigit a, hexDigit b, hexDigit c, hexDigit d with
  | some a, some b, some c, some d => some (a <<< 12 + b <<< 8 + c <<< 4 + d)
  | _, _, _, _ => none

/-- The bytes added for a code point. -/
def codepointBytes (codepoint : Nat) : Bytes :=
  if codepoint < 0x80 then [UInt8.ofNat codepoint]
  else if codepoint ≤ 0x7FF then
    [UInt8.ofNat (0xC0 ||| (codepoint >>> 6)), UInt8.ofNat (0x80 ||| (codepoint &&& 0x3F))]
  else if codepoint ≤ 0xFFFF then
    [UInt8.ofNat (0xE0 ||| (codepoint >>> 12)),
      UInt8.ofNat (0x80 ||| ((codepoint >>> 6) &&& 0x3F)),
      UInt8.ofNat (0x80 ||| (codepoint &&& 0x3F))]
  else
    [UInt8.ofNat (0xF0 ||| (codepoint >>> 18)),
      UInt8.ofNat (0x80 ||| ((codepoint >>> 12) &&& 0x3F)),
      UInt8.ofNat (0x80 ||| ((codepoint >>> 6) &&& 0x3F)),
      UInt8.ofNat (0x80 ||| (codepoint &&& 0x3F))]

/-- What a byte that stands for itself asks of those behind it, as `next_byte_in_range`
is called; the control characters and the bytes no character starts with are refused. -/
def leadRanges (b : UInt8) : Option (List (UInt8 × UInt8)) :=
  if b < 0x20 then none
  else if b ≤ 0x7F then some []
  else if 0xC2 ≤ b ∧ b ≤ 0xDF then some [(0x80, 0xBF)]
  else if b = 0xE0 then some [(0xA0, 0xBF), (0x80, 0xBF)]
  else if (0xE1 ≤ b ∧ b ≤ 0xEC) ∨ b = 0xEE ∨ b = 0xEF then some [(0x80, 0xBF), (0x80, 0xBF)]
  else if b = 0xED then some [(0x80, 0x9F), (0x80, 0xBF)]
  else if b = 0xF0 then some [(0x90, 0xBF), (0x80, 0xBF), (0x80, 0xBF)]
  else if 0xF1 ≤ b ∧ b ≤ 0xF3 then some [(0x80, 0xBF), (0x80, 0xBF), (0x80, 0xBF)]
  else if b = 0xF4 then some [(0x80, 0x8F), (0x80, 0xBF), (0x80, 0xBF)]
  else none

def isHighSurrogate (codepoint : Nat) : Bool := 0xD800 ≤ codepoint && codepoint ≤ 0xDBFF

def isLowSurrogate (codepoint : Nat) : Bool := 0xDC00 ≤ codepoint && codepoint ≤ 0xDFFF

/-- `scan_string`, behind the opening quote: the token buffer and what is left of the
input, or `none` for an error.  The first argument holds the ranges that
`next_byte_in_range` has still to see. -/
def scanString : List (UInt8 × UInt8) → Bytes → Bytes → Option (Bytes × Bytes)
  | _, _, [] => none
  | (low, high) :: ranges, buffer, b :: rest =>
      if low ≤ b ∧ b ≤ high then scanString ranges (buffer ++ [b]) rest else none
  | [], buffer, b :: rest =>
      if b = 0x22 then some (buffer, rest)
      else if b = 0x5C then
        match rest with
        | [] => none
        | e :: rest =>
            match simpleEscape e with
            | some c => scanString [] (buffer ++ [c]) rest
            | none =>
                if e = 0x75 then
                  match rest with
                  | a :: b :: c :: d :: rest =>
                      match getCodepoint a b c d with
                      | none => none
                      | some codepoint1 =>
                          if isHighSurrogate codepoint1 then
                            match rest with
                            | slash :: u :: a :: b :: c :: d :: rest =>
                                if slash = 0x5C ∧ u = 0x75 then
                                  match getCodepoint a b c d with
                                  | none => none
                                  | some codepoint2 =>
                                      if isLowSurrogate codepoint2 then
                                        scanString [] (buffer ++ codepointBytes
                                          (codepoint1 <<< 10 + codepoint2 - 0x35FDC00)) rest
                                      else none
                                else none
                            | _ => none
                          else if isLowSurrogate codepoint1 then none
                          else scanString [] (buffer ++ codepointBytes codepoint1) rest
                  | _ => none
                else none
      else
        match leadRanges b with
        | some ranges => scanString ranges (buffer ++ [b]) rest
        | none => none

/-! ## Numbers -/

/-- The labels of `scan_number`. -/
inductive NumberState where
  | minus
  | zero
  | any1
  | decimal1
  | decimal2
  | exponent
  | sign
  | any2
deriving DecidableEq, Repr

/-- What a label does with a byte. -/
inductive NumberMove where
  | goto (state : NumberState)
  | done
  | error
deriving DecidableEq, Repr

def isDigit (b : UInt8) : Bool := 0x30 ≤ b && b ≤ 0x39

def isExponent (b : UInt8) : Bool := b = 0x65 || b = 0x45

namespace NumberState

def next : NumberState → UInt8 → NumberMove
  | .minus, b => if b = 0x30 then .goto .zero else if isDigit b then .goto .any1 else .error
  | .zero, b =>
      if b = 0x2E then .goto .decimal1 else if isExponent b then .goto .exponent else .done
  | .any1, b =>
      if isDigit b then .goto .any1
      else if b = 0x2E then .goto .decimal1
      else if isExponent b then .goto .exponent
      else .done
  | .decimal1, b => if isDigit b then .goto .decimal2 else .error
  | .decimal2, b =>
      if isDigit b then .goto .decimal2 else if isExponent b then .goto .exponent else .done
  | .exponent, b =>
      if b = 0x2B ∨ b = 0x2D then .goto .sign else if isDigit b then .goto .any2 else .error
  | .sign, b => if isDigit b then .goto .any2 else .error
  | .any2, b => if isDigit b then .goto .any2 else .done

/-- What a label does at the end of the input. -/
def atEnd : NumberState → NumberMove
  | .zero | .any1 | .decimal2 | .any2 => .done
  | .minus | .decimal1 | .exponent | .sign => .error

end NumberState

inductive NumberType where
  | unsigned
  | integer
  | float
deriving DecidableEq, Repr

/-- `number_type`, as set behind a label. -/
def NumberType.at (type : NumberType) : NumberState → NumberType
  | .minus => .integer
  | .decimal1 | .exponent => .float
  | .zero | .any1 | .decimal2 | .sign | .any2 => type

/-- From a label to `scan_number_done`: the type, the token buffer, and the input from
the byte that is given back. -/
def scanNumberFrom (state : NumberState) (type : NumberType) (buffer : Bytes) :
    Bytes → Option (NumberType × Bytes × Bytes)
  | [] =>
      match state.atEnd with
      | .done => some (type, buffer, [])
      | _ => none
  | b :: rest =>
      match state.next b with
      | .goto state => scanNumberFrom state (type.at state) (buffer ++ [b]) rest
      | .done => some (type, buffer, b :: rest)
      | .error => none

/-- The value of a run of digits. -/
def digitsValue (digits : Bytes) : Nat :=
  digits.foldl (fun value b => value * 10 + (b.toNat - 0x30)) 0

/-- `strtoull`, `none` for `ERANGE`. -/
def strtoull (text : Bytes) : Option UInt64 :=
  if digitsValue text < 2 ^ 64 then some (UInt64.ofNat (digitsValue text)) else none

/-- `strtoll` of a text with a minus in front. -/
def strtoll (text : Bytes) : Option Int64 :=
  if digitsValue text.tail ≤ 2 ^ 63 then some (Int64.ofInt (-(digitsValue text.tail : Int))) else none

/-- `scan_number_done`. -/
def numberToken (type : NumberType) (buffer : Bytes) : Token :=
  match type with
  | .unsigned =>
      match strtoull buffer with
      | some value => .valueUnsigned value
      | none => .valueFloat buffer
  | .integer =>
      match strtoll buffer with
      | some value => .valueInteger value
      | none => .valueFloat buffer
  | .float => .valueFloat buffer

/-- `scan_number`, from the byte that began the number. -/
def scanNumber (current : UInt8) (rest : Bytes) : Token × Bytes :=
  let scanned :=
    if current = 0x2D then scanNumberFrom .minus .integer [current] rest
    else if current = 0x30 then scanNumberFrom .zero .unsigned [current] rest
    else scanNumberFrom .any1 .unsigned [current] rest
  match scanned with
  | some (type, buffer, rest) => (numberToken type buffer, rest)
  | none => (.parseError, rest)

/-! ## The scanner -/

/-- `scan_literal`, behind the first letter. -/
def scanLiteral : Bytes → Token → Bytes → Token × Bytes
  | [], token, input => (token, input)
  | c :: text, token, b :: rest => if b = c then scanLiteral text token rest else (.parseError, rest)
  | _ :: _, _, [] => (.parseError, [])

def isWhitespace (b : UInt8) : Bool := b = 0x20 || b = 0x09 || b = 0x0A || b = 0x0D

/-- `skip_whitespace`, up to the byte it stops at. -/
def skipWhitespace (input : Bytes) : Bytes := input.dropWhile isWhitespace

/-- The switch of `scan`. -/
def scanToken (current : UInt8) (rest : Bytes) : Token × Bytes :=
  if current = 0x5B then (.beginArray, rest)
  else if current = 0x5D then (.endArray, rest)
  else if current = 0x7B then (.beginObject, rest)
  else if current = 0x7D then (.endObject, rest)
  else if current = 0x3A then (.nameSeparator, rest)
  else if current = 0x2C then (.valueSeparator, rest)
  else if current = 0x74 then scanLiteral [0x72, 0x75, 0x65] .literalTrue rest
  else if current = 0x66 then scanLiteral [0x61, 0x6C, 0x73, 0x65] .literalFalse rest
  else if current = 0x6E then scanLiteral [0x75, 0x6C, 0x6C] .literalNull rest
  else if current = 0x22 then
    match scanString [] [] rest with
    | some (text, rest) => (.valueString text, rest)
    | none => (.parseError, rest)
  else if current = 0x2D ∨ isDigit current then scanNumber current rest
  else if current = 0x00 then (.endOfInput, rest)
  else (.parseError, rest)

def scan (input : Bytes) : Token × Bytes :=
  match skipWhitespace input with
  | [] => (.endOfInput, [])
  | current :: rest => scanToken current rest

/-- `skip_bom`, before the first token. -/
def skipBom (input : Bytes) : Option Bytes :=
  match input with
  | [] => some []
  | b :: rest =>
      if b = 0xEF then
        match rest with
        | b' :: b'' :: rest => if b' = 0xBB ∧ b'' = 0xBF then some rest else none
        | _ => none
      else some input

def Token.last : Token → Bool
  | .parseError | .endOfInput => true
  | _ => false

/-- The tokens of the input, up to its end or an error; one byte at least makes a token. -/
def tokensFrom : Nat → Bytes → List Token
  | 0, _ => []
  | fuel + 1, input =>
      match scan input with
      | (token, rest) => if token.last then [token] else token :: tokensFrom fuel rest

def tokens (input : Bytes) : List Token := tokensFrom (input.length + 1) input

/-- What `get_token` gives, call after call.  No token depends on what the parser
makes of those before it. -/
def lex (input : Bytes) : List Token :=
  match skipBom input with
  | some rest => tokens rest
  | none => [.parseError]

end GameServer.Nlohmann
