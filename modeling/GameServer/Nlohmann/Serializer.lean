/-
# Nlohmann.Serializer -- `detail::serializer` of `json.hpp`

`dump()` without arguments: no indentation, no `ensure_ascii`, and a `type_error` for a
string that is not UTF-8.  Strings are decoded byte by byte with a table and escaped
through a buffer of 512 bytes, integers are written backwards into one of 64.  A write
beyond a buffer is told apart from what the code throws: it is `overrun`.
-/
import GameServer.Nlohmann.Parser

namespace GameServer.Nlohmann

set_option autoImplicit false

open Wire (Bytes)

inductive DumpError where
  /-- `type_error.316`. -/
  | typeError
  /-- A write beyond a buffer, which the code does not check for. -/
  | overrun
deriving DecidableEq, Repr

/-! ## The decoder -/

/-- The table of `decode`: the classes of the bytes, and behind them the transitions, 16 a
state. -/
def utf8d : List Nat :=
  [0, 0, 0, 0, 0, 0, 0, 0, 0, 0, 0, 0, 0, 0, 0, 0, 0, 0, 0, 0, 0, 0, 0, 0, 0, 0, 0, 0, 0, 0, 0, 0,
    0, 0, 0, 0, 0, 0, 0, 0, 0, 0, 0, 0, 0, 0, 0, 0, 0, 0, 0, 0, 0, 0, 0, 0, 0, 0, 0, 0, 0, 0, 0, 0,
    0, 0, 0, 0, 0, 0, 0, 0, 0, 0, 0, 0, 0, 0, 0, 0, 0, 0, 0, 0, 0, 0, 0, 0, 0, 0, 0, 0, 0, 0, 0, 0,
    0, 0, 0, 0, 0, 0, 0, 0, 0, 0, 0, 0, 0, 0, 0, 0, 0, 0, 0, 0, 0, 0, 0, 0, 0, 0, 0, 0, 0, 0, 0, 0,
    1, 1, 1, 1, 1, 1, 1, 1, 1, 1, 1, 1, 1, 1, 1, 1, 9, 9, 9, 9, 9, 9, 9, 9, 9, 9, 9, 9, 9, 9, 9, 9,
    7, 7, 7, 7, 7, 7, 7, 7, 7, 7, 7, 7, 7, 7, 7, 7, 7, 7, 7, 7, 7, 7, 7, 7, 7, 7, 7, 7, 7, 7, 7, 7,
    8, 8, 2, 2, 2, 2, 2, 2, 2, 2, 2, 2, 2, 2, 2, 2, 2, 2, 2, 2, 2, 2, 2, 2, 2, 2, 2, 2, 2, 2, 2, 2,
    0xA, 0x3, 0x3, 0x3, 0x3, 0x3, 0x3, 0x3, 0x3, 0x3, 0x3, 0x3, 0x3, 0x4, 0x3, 0x3,
    0xB, 0x6, 0x6, 0x6, 0x5, 0x8, 0x8, 0x8, 0x8, 0x8, 0x8, 0x8, 0x8, 0x8, 0x8, 0x8,
    0x0, 0x1, 0x2, 0x3, 0x5, 0x8, 0x7, 0x1, 0x1, 0x1, 0x4, 0x6, 0x1, 0x1, 0x1, 0x1,
    1, 1, 1, 1, 1, 1, 1, 1, 1, 1, 1, 1, 1, 1, 1, 1, 1, 0, 1, 1, 1, 1, 1, 0, 1, 0, 1, 1, 1, 1, 1, 1,
    1, 2, 1, 1, 1, 1, 1, 2, 1, 2, 1, 1, 1, 1, 1, 1, 1, 1, 1, 1, 1, 1, 1, 2, 1, 1, 1, 1, 1, 1, 1, 1,
    1, 2, 1, 1, 1, 1, 1, 1, 1, 2, 1, 1, 1, 1, 1, 1, 1, 1, 1, 1, 1, 1, 1, 3, 1, 3, 1, 1, 1, 1, 1, 1,
    1, 3, 1, 1, 1, 1, 1, 3, 1, 3, 1, 1, 1, 1, 1, 1, 1, 3, 1, 1, 1, 1, 1, 1, 1, 1, 1, 1, 1, 1, 1, 1]

def utf8Accept : Nat := 0

def utf8Reject : Nat := 1

/-- `decode`: the next state and code point. -/
def decode (state codep : Nat) (byte : UInt8) : Nat × Nat :=
  let type := utf8d.getD byte.toNat 0
  (utf8d.getD (256 + state * 16 + type) utf8Reject,
    if state ≠ utf8Accept then (byte.toNat &&& 0x3F) ||| (codep <<< 6)
    else (0xFF >>> type) &&& byte.toNat)

/-! ## Strings -/

def stringBufferSize : Nat := 512

/-- What was written to the output, and the first bytes of `string_buffer`, as many as are
in use. -/
structure StringBuffer where
  output : Bytes := []
  pending : Bytes := []

namespace StringBuffer

/-- `string_buffer[bytes++]`, for each of these. -/
def push (buffer : StringBuffer) (given : Bytes) : Except DumpError StringBuffer :=
  if buffer.pending.length + given.length ≤ stringBufferSize then
    .ok { buffer with pending := buffer.pending ++ given }
  else .error .overrun

/-- `snprintf`, which writes a zero behind the text. -/
def print (buffer : StringBuffer) (given : Bytes) : Except DumpError StringBuffer :=
  if buffer.pending.length + given.length + 1 ≤ stringBufferSize then
    .ok { buffer with pending := buffer.pending ++ given }
  else .error .overrun

/-- The buffer is written out when an escape might not fit any more. -/
def flush (buffer : StringBuffer) : StringBuffer :=
  if stringBufferSize - buffer.pending.length < 13 then
    { output := buffer.output ++ buffer.pending, pending := [] }
  else buffer

end StringBuffer

/-- The byte after the backslash, where there is a short escape. -/
def shortEscape (codepoint : Nat) : Option UInt8 :=
  if codepoint = 0x08 then some 0x62
  else if codepoint = 0x09 then some 0x74
  else if codepoint = 0x0A then some 0x6E
  else if codepoint = 0x0C then some 0x66
  else if codepoint = 0x0D then some 0x72
  else if codepoint = 0x22 then some 0x22
  else if codepoint = 0x5C then some 0x5C
  else none

/-- A digit of `%x`. -/
def hexChar (digit : Nat) : UInt8 := UInt8.ofNat (if digit < 10 then 0x30 + digit else 0x57 + digit)

/-- `"\\u%04x"`. -/
def unicodeEscape (codepoint : Nat) : Bytes :=
  [0x5C, 0x75, hexChar (codepoint / 4096 % 16), hexChar (codepoint / 256 % 16),
    hexChar (codepoint / 16 % 16), hexChar (codepoint % 16)]

/-- The state of `decode`, with the code point, and the buffer. -/
structure Escaping where
  state : Nat := utf8Accept
  codepoint : Nat := 0
  buffer : StringBuffer := {}

/-- What is put into the buffer for a code point that ends with this byte. -/
def putCodepoint (buffer : StringBuffer) (codepoint : Nat) (byte : UInt8) :
    Except DumpError StringBuffer :=
  match shortEscape codepoint with
  | some letter => buffer.push [0x5C, letter]
  | none =>
      if codepoint ≤ 0x1F then buffer.print (unicodeEscape codepoint) else buffer.push [byte]

/-- One turn of the loop of `dump_escaped`. -/
def escapeByte (e : Escaping) (byte : UInt8) : Except DumpError Escaping :=
  let (state, codepoint) := decode e.state e.codepoint byte
  if state = utf8Accept then
    match putCodepoint e.buffer codepoint byte with
    | .ok buffer => .ok ⟨state, codepoint, buffer.flush⟩
    | .error error => .error error
  else if state = utf8Reject then .error .typeError
  else
    match e.buffer.push [byte] with
    | .ok buffer => .ok ⟨state, codepoint, buffer⟩
    | .error error => .error error

def escapeFrom (e : Escaping) : Bytes → Except DumpError Escaping
  | [] => .ok e
  | byte :: bytes =>
      match escapeByte e byte with
      | .ok e => escapeFrom e bytes
      | .error error => .error error

/-- `dump_escaped`: what it writes. -/
def dumpEscaped (s : Bytes) : Except DumpError Bytes :=
  match escapeFrom {} s with
  | .ok e =>
      if e.state = utf8Accept then .ok (e.buffer.output ++ e.buffer.pending) else .error .typeError
  | .error error => .error error

/-! ## Integers -/

def numberBufferSize : Nat := 64

/-- `count_digits`; a `number_unsigned_t` is through after five rounds. -/
def countDigitsFrom : Nat → Nat → Nat → Nat
  | 0, _, digits => digits
  | fuel + 1, x, digits =>
      if x < 10 then digits
      else if x < 100 then digits + 1
      else if x < 1000 then digits + 2
      else if x < 10000 then digits + 3
      else countDigitsFrom fuel (x / 10000) (digits + 4)

def countDigits (x : UInt64) : Nat := countDigitsFrom 6 x.toNat 1

/-- `digits_to_99`. -/
def digitsTo99 (index : Nat) : UInt8 × UInt8 :=
  (UInt8.ofNat (0x30 + index / 10), UInt8.ofNat (0x30 + index % 10))

/-- `number_buffer`, and how far `buffer_ptr` is from its front. -/
structure NumberBuffer where
  bytes : Bytes
  ptr : Nat

/-- `*(--buffer_ptr) = c`. -/
def NumberBuffer.put (buffer : NumberBuffer) (c : UInt8) : Except DumpError NumberBuffer :=
  if 0 < buffer.ptr ∧ buffer.ptr ≤ buffer.bytes.length then
    .ok ⟨buffer.bytes.set (buffer.ptr - 1) c, buffer.ptr - 1⟩
  else .error .overrun

/-- Two digits, the last one first. -/
def NumberBuffer.putPair (buffer : NumberBuffer) (index : Nat) : Except DumpError NumberBuffer :=
  match buffer.put (digitsTo99 index).2 with
  | .ok buffer => buffer.put (digitsTo99 index).1
  | .error error => .error error

/-- The digits, two at a time as long as there are three or more. -/
def fillDigits : Nat → Nat → NumberBuffer → Except DumpError NumberBuffer
  | 0, _, buffer => .ok buffer
  | fuel + 1, x, buffer =>
      if 100 ≤ x then
        match buffer.putPair (x % 100) with
        | .ok buffer => fillDigits fuel (x / 100) buffer
        | .error error => .error error
      else if 10 ≤ x then buffer.putPair x
      else buffer.put (UInt8.ofNat (0x30 + x))

/-- `remove_sign`. -/
def removeSign (x : Int64) : UInt64 := (-(x + 1)).toUInt64 + 1

/-- `dump_integer` of a sign and an absolute value, in a buffer as the number before
left it. -/
def dumpAbs (bytes : Bytes) (negative : Bool) (value : UInt64) : Except DumpError Bytes :=
  if value = 0 then .ok [0x30]
  else
    let bytes := if negative then bytes.set 0 0x2D else bytes
    let chars := negative.toNat + countDigits value
    match fillDigits 10 value.toNat ⟨bytes, chars⟩ with
    | .ok buffer => .ok (buffer.bytes.take chars)
    | .error error => .error error

/-- `dump_integer` of a `number_integer_t`. -/
def dumpInteger (bytes : Bytes) (x : Int64) : Except DumpError Bytes :=
  if x < 0 then dumpAbs bytes true (removeSign x) else dumpAbs bytes false x.toUInt64

/-- `dump_integer` of a `number_unsigned_t`. -/
def dumpUnsigned (bytes : Bytes) (x : UInt64) : Except DumpError Bytes := dumpAbs bytes false x

def freshBuffer : Bytes := List.replicate numberBufferSize 0

/-! ## Values -/

section Dump

variable {F : Type} (floats : Floats F)

/-- `dump_float`. -/
def dumpFloat (x : F) : Bytes :=
  if floats.isFinite x then floats.toChars x else [0x6E, 0x75, 0x6C, 0x6C]

/-- A string or key in its quotes. -/
def dumpQuoted (s : Bytes) : Except DumpError Bytes :=
  match dumpEscaped s with
  | .ok escaped => .ok (0x22 :: escaped ++ [0x22])
  | .error error => .error error

/-- One piece after another, unless one throws. -/
def follow (first second : Except DumpError Bytes) : Except DumpError Bytes :=
  match first, second with
  | .ok first, .ok second => .ok (first ++ second)
  | .error error, _ => .error error
  | _, .error error => .error error

mutual

/-- `dump`. -/
def dump : Value F → Except DumpError Bytes
  | .object [] => .ok [0x7B, 0x7D]
  | .object ((key, value) :: members) =>
      follow (.ok [0x7B]) (follow (dumpQuoted key) (follow (.ok [0x3A])
        (follow (dump value) (dumpMembers members))))
  | .array [] => .ok [0x5B, 0x5D]
  | .array (item :: items) => follow (.ok [0x5B]) (follow (dump item) (dumpItems items))
  | .string text => dumpQuoted text
  | .boolean true => .ok [0x74, 0x72, 0x75, 0x65]
  | .boolean false => .ok [0x66, 0x61, 0x6C, 0x73, 0x65]
  | .numberInteger x => dumpInteger freshBuffer x
  | .numberUnsigned x => dumpUnsigned freshBuffer x
  | .numberFloat x => .ok (dumpFloat floats x)
  | .null => .ok [0x6E, 0x75, 0x6C, 0x6C]

/-- The items behind one, and the bracket. -/
def dumpItems : List (Value F) → Except DumpError Bytes
  | [] => .ok [0x5D]
  | item :: items => follow (.ok [0x2C]) (follow (dump item) (dumpItems items))

/-- The members behind one, and the brace. -/
def dumpMembers : List (Bytes × Value F) → Except DumpError Bytes
  | [] => .ok [0x7D]
  | (key, value) :: members =>
      follow (.ok [0x2C]) (follow (dumpQuoted key) (follow (.ok [0x3A])
        (follow (dump value) (dumpMembers members))))

end

end Dump

end GameServer.Nlohmann
