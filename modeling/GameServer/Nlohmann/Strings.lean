/-
# Nlohmann.Strings -- strings, written and read

The lexer and the serializer decode UTF-8 in two ways, ranges in the one and a table in
the other, and both are held here to `Theory.Utf8`.

* `scanString_continues` -- what the lexer takes for a string is UTF-8, whatever escapes
  it is made of;
* `decode_cases` -- the table asks for the bytes that UTF-8 asks for;
* `dumpEscaped_cases` -- the serializer escapes the strings that are UTF-8, throws for all
  others, and stays within its buffer;
* `scanString_escaped` -- what is escaped is read back.
-/
import GameServer.Nlohmann.Serializer
import GameServer.Theory.Utf8
import Mathlib.Tactic.SplitIfs

namespace GameServer.Nlohmann

set_option autoImplicit false

open Wire (Bytes)
open Theory.Utf8

/-! ## What the lexer takes -/

/-- The lexer's ranges are UTF-8's, but for the control characters. -/
theorem leadRanges_eq (b : UInt8) : leadRanges b = if b < 0x20 then none else following b := by
  simp only [leadRanges, following, UInt8.le_iff_toNat_le, UInt8.lt_iff_toNat_lt, ← UInt8.toNat_inj,
    UInt8.reduceToNat]
  split_ifs <;> first | rfl | omega

/-- The marks of a byte and the bits below them. -/
theorem or_marks (i marks n : Nat) (low : n < 2 ^ i) : 2 ^ i * marks ||| n = n + 2 ^ i * marks := by
  rw [← Nat.two_pow_add_eq_or_of_lt low, Nat.add_comm]

theorem tail_bits (n : Nat) : 0x80 ||| (n &&& 0x3F) = n % 64 + 0x80 := by
  rw [Nat.and_two_pow_sub_one_eq_mod n 6]
  exact or_marks 6 2 (n % 64) (Nat.mod_lt n (by decide))

/-- The lexer's arithmetic is UTF-8. -/
theorem codepointBytes_eq (letter : Char) :
    codepointBytes letter.val.toNat = String.utf8EncodeChar letter := by
  have high := val_le letter
  rw [codepointBytes]
  split_ifs with one two three
  · rw [encode_one (by omega)]
  · have top : 0xC0 ||| letter.val.toNat / 64 = letter.val.toNat / 64 + 0xC0 :=
      or_marks 5 6 _ (by omega)
    simp only [encode_two (Nat.lt_of_not_le (by omega)) two, Nat.shiftRight_eq_div_pow, tail_bits,
      Nat.reducePow, top]
  · have top : 0xE0 ||| letter.val.toNat / 4096 = letter.val.toNat / 4096 + 0xE0 :=
      or_marks 4 14 _ (by omega)
    simp only [encode_three (Nat.lt_of_not_le two) three, Nat.shiftRight_eq_div_pow, tail_bits,
      Nat.reducePow, top]
  · have top : 0xF0 ||| letter.val.toNat / 262144 = letter.val.toNat / 262144 + 0xF0 :=
      or_marks 3 30 _ (by omega)
    simp only [encode_four (Nat.lt_of_not_le three), Nat.shiftRight_eq_div_pow, tail_bits,
      Nat.reducePow, top]

theorem hexDigit_lt {b : UInt8} {digit : Nat} (read : hexDigit b = some digit) : digit < 16 := by
  simp only [hexDigit, UInt8.le_iff_toNat_le, UInt8.reduceToNat] at read
  split_ifs at read <;> cases read <;> omega

/-- The code point of four digits. -/
theorem getCodepoint_lt {a b c d : UInt8} {codepoint : Nat}
    (read : getCodepoint a b c d = some codepoint) : codepoint < 0x10000 := by
  rw [getCodepoint] at read
  split at read
  · rename_i first second third fourth
    cases read
    have := hexDigit_lt first
    have := hexDigit_lt second
    have := hexDigit_lt third
    have := hexDigit_lt fourth
    simp only [Nat.shiftLeft_eq]
    omega
  · cases read

theorem codepointBytes_valid {codepoint : Nat} (scalar : codepoint.isValidChar) {rest : Bytes}
    (valid : Valid rest) : Valid (codepointBytes codepoint ++ rest) :=
  valid_at scalar (fun letter same => same ▸ (codepointBytes_eq letter).symm) valid

/-- A simple escape stands for an ASCII character. -/
theorem simpleEscape_valid {e c : UInt8} (read : simpleEscape e = some c) {rest : Bytes}
    (valid : Valid rest) : Valid (c :: rest) := by
  refine valid_one ?_ valid
  rw [simpleEscape] at read
  split_ifs at read <;> cases read <;> decide

/-- A pair of surrogates stands for a character beyond the first 65536. -/
theorem surrogates_scalar {codepoint1 codepoint2 : Nat} (high : isHighSurrogate codepoint1 = true)
    (low : isLowSurrogate codepoint2 = true) :
    (codepoint1 <<< 10 + codepoint2 - 0x35FDC00).isValidChar := by
  simp only [isHighSurrogate, isLowSurrogate, Bool.and_eq_true, decide_eq_true_eq] at high low
  rw [Nat.shiftLeft_eq]
  exact .inr ⟨by omega, by omega⟩

theorem codepoint_scalar {codepoint : Nat} (small : codepoint < 0x10000)
    (high : ¬ isHighSurrogate codepoint = true) (low : ¬ isLowSurrogate codepoint = true) :
    codepoint.isValidChar := by
  simp only [isHighSurrogate, isLowSurrogate, Bool.and_eq_true, decide_eq_true_eq] at high low
  by_cases below : codepoint < 0xD800
  · exact .inl below
  · exact .inr ⟨by omega, by omega⟩

/-- **What the lexer takes for a string is UTF-8**, whatever bytes and escapes it is made of. -/
theorem scanString_continues {ranges : List (UInt8 × UInt8)} {buffer input text rest : Bytes}
    (scanned : scanString ranges buffer input = some (text, rest)) :
    ∃ added, text = buffer ++ added ∧ Continues ranges added := by
  fun_induction scanString ranges buffer input
  case case2 low high ranges buffer b input within ih =>
    obtain ⟨added, rfl, continued⟩ := ih scanned
    exact ⟨b :: added, by simp, within.1, within.2, continued⟩
  case case4 buffer input =>
    cases scanned
    exact ⟨[], by simp, valid_nil⟩
  case case6 buffer e input c read _ ih =>
    obtain ⟨added, rfl, valid⟩ := ih scanned
    exact ⟨c :: added, by simp, simpleEscape_valid read valid⟩
  case case9 buffer a b c d codepoint1 first high slash u a' b' c' d' input escape codepoint2 second low
      _ _ ih =>
    obtain ⟨added, rfl, valid⟩ := ih scanned
    exact ⟨_, List.append_assoc _ _ _,
      codepointBytes_valid (surrogates_scalar high low) valid⟩
  case case14 buffer a b c d input codepoint first high low _ _ ih =>
    obtain ⟨added, rfl, valid⟩ := ih scanned
    exact ⟨_, List.append_assoc _ _ _,
      codepointBytes_valid (codepoint_scalar (getCodepoint_lt first) high low) valid⟩
  case case17 buffer b input _ _ ranges begun ih =>
    obtain ⟨added, rfl, continued⟩ := ih scanned
    rw [leadRanges_eq] at begun
    split_ifs at begun
    exact ⟨b :: added, by simp, valid_cons.mpr ⟨ranges, begun, continued⟩⟩
  all_goals cases scanned

theorem scanString_valid {input text rest : Bytes}
    (scanned : scanString [] [] input = some (text, rest)) : Valid text := by
  obtain ⟨added, rfl, valid⟩ := scanString_continues scanned
  exact valid

theorem scanString_shorter {ranges : List (UInt8 × UInt8)} {buffer input text rest : Bytes}
    (scanned : scanString ranges buffer input = some (text, rest)) :
    rest.length < input.length := by
  fun_induction scanString ranges buffer input
  case case4 buffer input =>
    cases scanned
    exact Nat.lt_succ_self _
  case case2 ih | case6 ih | case9 ih | case14 ih | case17 ih =>
    have less := ih scanned
    simp only [List.length_cons]
    omega
  all_goals cases scanned

/-! ## The decoder's table -/

/-- The states `decode` is in as long as nothing was wrong. -/
def decoderStates : List Nat := [0, 2, 3, 4, 5, 6, 7, 8]

/-- What a state asks for. -/
def awaited : Nat → List (UInt8 × UInt8)
  | 2 => [(0x80, 0xBF)]
  | 3 => [(0x80, 0xBF), (0x80, 0xBF)]
  | 4 => [(0xA0, 0xBF), (0x80, 0xBF)]
  | 5 => [(0x80, 0x9F), (0x80, 0xBF)]
  | 6 => [(0x90, 0xBF), (0x80, 0xBF), (0x80, 0xBF)]
  | 7 => [(0x80, 0xBF), (0x80, 0xBF), (0x80, 0xBF)]
  | 8 => [(0x80, 0x8F), (0x80, 0xBF), (0x80, 0xBF)]
  | _ => []

/-- The least code point a state can have come to. -/
def leastCodepoint : Nat → Nat
  | 2 => 2
  | 3 | 5 | 7 | 8 => 1
  | _ => 0

theorem decode_state (state codep codep' : Nat) (b : UInt8) :
    (decode state codep b).1 = (decode state codep' b).1 := rfl

/-- Behind a first byte the code point does not depend on what was there. -/
theorem decode_first (codep codep' : Nat) (b : UInt8) :
    decode utf8Accept codep b = decode utf8Accept codep' b := rfl

/-- A further byte adds its bits. -/
theorem decode_more {state : Nat} (inside : state ≠ utf8Accept) (codep : Nat) (b : UInt8) :
    (decode state codep b).2 = (b.toNat % 64 ||| codep * 64) := by
  rw [decode, if_pos inside, Nat.shiftLeft_eq]
  exact congrArg (· ||| codep * 64) (Nat.and_two_pow_sub_one_eq_mod b.toNat 6)

/-- **The table tells what the bytes so far ask for.** -/
theorem table_next : ∀ state ∈ decoderStates, ∀ n < 256,
    (decode state 0 (UInt8.ofNat n)).1 ∈ decoderStates ∧
        next (awaited state) (UInt8.ofNat n) =
          some (awaited (decode state 0 (UInt8.ofNat n)).1) ∨
      (decode state 0 (UInt8.ofNat n)).1 = utf8Reject ∧
        next (awaited state) (UInt8.ofNat n) = none := by
  decide +kernel

theorem table_first : ∀ n < 256, (decode utf8Accept 0 (UInt8.ofNat n)).1 ∈ decoderStates →
    leastCodepoint (decode utf8Accept 0 (UInt8.ofNat n)).1 ≤
        (decode utf8Accept 0 (UInt8.ofNat n)).2 ∧
      ((decode utf8Accept 0 (UInt8.ofNat n)).1 = utf8Accept ∧
          (decode utf8Accept 0 (UInt8.ofNat n)).2 = n ∨
        (decode utf8Accept 0 (UInt8.ofNat n)).1 ≠ utf8Accept ∧ 0x80 ≤ n) := by
  decide +kernel

theorem table_more : ∀ state ∈ decoderStates, state ≠ utf8Accept → ∀ n < 256,
    (decode state 0 (UInt8.ofNat n)).1 ∈ decoderStates → 0x80 ≤ n ∧
      (leastCodepoint (decode state 0 (UInt8.ofNat n)).1 ≤ n % 64 ∨
        leastCodepoint (decode state 0 (UInt8.ofNat n)).1 ≤ leastCodepoint state * 64) ∧
      ((decode state 0 (UInt8.ofNat n)).1 = utf8Accept → 0x80 ≤ leastCodepoint state * 64) := by
  decide +kernel

/-- A step of the decoder: the byte is one that is asked for, and then the code point is an
ASCII character's own byte or that of a character beyond, or it is not. -/
theorem decode_cases {state codep : Nat} (inside : state ∈ decoderStates)
    (least : leastCodepoint state ≤ codep) (b : UInt8) :
    ((decode state codep b).1 ∈ decoderStates ∧
        next (awaited state) b = some (awaited (decode state codep b).1) ∧
        leastCodepoint (decode state codep b).1 ≤ (decode state codep b).2 ∧
        ((decode state codep b).1 = utf8Accept ∧ (decode state codep b).2 = b.toNat ∨
          0x80 ≤ b.toNat ∧ ((decode state codep b).1 = utf8Accept →
            0x80 ≤ (decode state codep b).2))) ∨
      ((decode state codep b).1 = utf8Reject ∧ next (awaited state) b = none) := by
  have whole : UInt8.ofNat b.toNat = b := UInt8.ofNat_toNat
  have told := table_next state inside b.toNat b.toNat_lt
  rw [whole, decode_state state 0 codep b] at told
  refine told.imp_left fun ⟨inside', asked⟩ => ⟨inside', asked, ?_⟩
  by_cases first : state = utf8Accept
  · subst first
    have known := table_first b.toNat b.toNat_lt
    rw [whole, decode_first 0 codep b] at known
    obtain ⟨least', ascii | ⟨further, high⟩⟩ := known inside'
    · exact ⟨least', .inl ascii⟩
    · exact ⟨least', .inr ⟨high, fun accepted => absurd accepted further⟩⟩
  · have known := table_more state inside first b.toNat b.toNat_lt
    rw [whole, decode_state state 0 codep b] at known
    obtain ⟨high, least', beyond⟩ := known inside'
    rw [decode_more first]
    have bits : b.toNat % 64 ≤ (b.toNat % 64 ||| codep * 64) := Nat.left_le_or
    have moved : codep * 64 ≤ (b.toNat % 64 ||| codep * 64) := Nat.right_le_or
    exact ⟨by omega, .inr ⟨high, fun accepted => by have := beyond accepted; omega⟩⟩

/-! ## Escaping -/

/-- What stands in the output for a byte. -/
def escapeOf (b : UInt8) : Bytes :=
  match shortEscape b.toNat with
  | some letter => [0x5C, letter]
  | none => if b.toNat ≤ 0x1F then unicodeEscape b.toNat else [b]

def escaped (s : Bytes) : Bytes := s.flatMap escapeOf

/-- What was written so far. -/
def StringBuffer.contents (buffer : StringBuffer) : Bytes := buffer.output ++ buffer.pending

theorem shortEscape_large {codepoint : Nat} (large : 0x80 ≤ codepoint) :
    shortEscape codepoint = none := by
  unfold shortEscape
  split_ifs <;> first | rfl | omega

theorem escapeOf_large {b : UInt8} (large : 0x80 ≤ b.toNat) : escapeOf b = [b] := by
  rw [escapeOf, shortEscape_large large]
  exact if_neg (by omega)

theorem contents_flush (buffer : StringBuffer) : buffer.flush.contents = buffer.contents := by
  rw [StringBuffer.flush]
  split
  · simp [StringBuffer.contents]
  · rfl

theorem flush_room (buffer : StringBuffer) : buffer.flush.pending.length ≤ 499 := by
  rw [StringBuffer.flush]
  split
  · exact Nat.zero_le _
  · rename_i room
    rw [stringBufferSize] at room
    omega

theorem push_eq {buffer : StringBuffer} {given : Bytes}
    (room : buffer.pending.length + given.length ≤ 512) :
    buffer.push given = .ok { buffer with pending := buffer.pending ++ given } := if_pos room

theorem print_eq {buffer : StringBuffer} {given : Bytes}
    (room : buffer.pending.length + given.length + 1 ≤ 512) :
    buffer.print given = .ok { buffer with pending := buffer.pending ++ given } := if_pos room

/-- A character's last byte is put in as what stands for it. -/
theorem putCodepoint_eq {buffer : StringBuffer} {codepoint : Nat} {b : UInt8}
    (room : buffer.pending.length ≤ 505)
    (own : codepoint = b.toNat ∨ 0x80 ≤ b.toNat ∧ 0x80 ≤ codepoint) :
    putCodepoint buffer codepoint b =
      .ok { buffer with pending := buffer.pending ++ escapeOf b } := by
  have one : buffer.pending.length + [b].length ≤ 512 := by
    rw [List.length_singleton]
    omega
  rcases own with rfl | ⟨large, large'⟩
  · rw [putCodepoint, escapeOf]
    cases shortEscape b.toNat with
    | some letter =>
        refine push_eq ?_
        simp only [List.length_cons, List.length_nil]
        omega
    | none =>
        by_cases control : b.toNat ≤ 0x1F
        · simp only [if_pos control]
          refine print_eq ?_
          simp only [unicodeEscape, List.length_cons, List.length_nil]
          omega
        · simp only [if_neg control]
          exact push_eq one
  · rw [putCodepoint, shortEscape_large large', escapeOf_large large]
    exact (if_neg (by omega)).trans (push_eq one)

/-- The state is the decoder's, and the buffer has room for the bytes it asks for and for the
longest escape. -/
structure Escaping.Sane (e : Escaping) : Prop where
  state : e.state ∈ decoderStates
  codepoint : leastCodepoint e.state ≤ e.codepoint
  room : e.buffer.pending.length + (awaited e.state).length ≤ 503
  flushed : e.state = utf8Accept → e.buffer.pending.length ≤ 499

theorem awaited_length : ∀ state ∈ decoderStates, (awaited state).length ≤ 3 := by decide

theorem awaited_accept : ∀ state ∈ decoderStates, awaited state = [] → state = utf8Accept := by
  decide

theorem inside_ne_reject : ∀ state ∈ decoderStates, state ≠ utf8Reject := by decide

/-- A byte that is asked for within a character leaves one less to ask for. -/
theorem awaited_shrinks {state : Nat} (inside : state ∈ decoderStates) (further : state ≠ utf8Accept)
    {b : UInt8} {ranges : List (UInt8 × UInt8)} (asked : next (awaited state) b = some ranges) :
    ranges.length + 1 ≤ (awaited state).length := by
  cases pending : awaited state with
  | nil => exact absurd (awaited_accept state inside pending) further
  | cons range rest =>
      rw [pending, next] at asked
      split at asked
      · cases asked
        exact Nat.le_refl _
      · cases asked

/-- One turn: the byte is escaped if it is asked for, and the string is refused if not. -/
theorem escapeByte_cases {e : Escaping} (sane : e.Sane) (b : UInt8) :
    (∃ e', escapeByte e b = .ok e' ∧ e'.Sane ∧ next (awaited e.state) b = some (awaited e'.state) ∧
        e'.buffer.contents = e.buffer.contents ++ escapeOf b) ∨
      (escapeByte e b = .error .typeError ∧ next (awaited e.state) b = none) := by
  have room := sane.room
  have flushed := sane.flushed
  rw [escapeByte]
  rcases decode_cases sane.state sane.codepoint b with
    ⟨inside, asked, least, own⟩ | ⟨rejected, unasked⟩
  · have few := awaited_length _ inside
    have fewer : e.state ≠ utf8Accept →
        (awaited (decode e.state e.codepoint b).1).length + 1 ≤ (awaited e.state).length :=
      fun further => awaited_shrinks sane.state further asked
    generalize decode e.state e.codepoint b = decoded at *
    obtain ⟨state, codepoint⟩ := decoded
    left
    by_cases accepted : state = utf8Accept
    · have own' : codepoint = b.toNat ∨ 0x80 ≤ b.toNat ∧ 0x80 ≤ codepoint :=
        own.imp And.right fun further => ⟨further.1, further.2 accepted⟩
      have put := @putCodepoint_eq e.buffer codepoint b (by omega) own'
      simp only [if_pos accepted, put]
      refine ⟨_, rfl, ⟨inside, least, ?_, fun _ => flush_room _⟩, asked, ?_⟩
      · have roomy := flush_room ⟨e.buffer.output, e.buffer.pending ++ escapeOf b⟩
        simp only at few ⊢
        omega
      · rw [contents_flush]
        simp [StringBuffer.contents]
    · have large : 0x80 ≤ b.toNat := by
        rcases own with ⟨accepted', -⟩ | ⟨large, -⟩
        · exact absurd accepted' accepted
        · exact large
      have kept : state ≠ utf8Reject := inside_ne_reject state inside
      have put : e.buffer.push [b] = _ := push_eq (by rw [List.length_singleton]; omega)
      simp only [if_neg accepted, if_neg kept, put]
      refine ⟨_, rfl, ⟨inside, least, ?_, fun accepted' => absurd accepted' accepted⟩, asked, ?_⟩
      · simp only [List.length_append, List.length_singleton]
        by_cases first : e.state = utf8Accept
        · have := flushed first
          simp only at few
          omega
        · have := fewer first
          simp only at this
          omega
      · simp [StringBuffer.contents, escapeOf_large large]
  · right
    simp only [rejected]
    exact ⟨rfl, unasked⟩

/-- The whole loop. -/
theorem escapeFrom_cases (s : Bytes) {e : Escaping} (sane : e.Sane) :
    (∃ e', escapeFrom e s = .ok e' ∧ e'.buffer.contents = e.buffer.contents ++ escaped s ∧
        (e'.state = utf8Accept ↔ Continues (awaited e.state) s)) ∨
      (escapeFrom e s = .error .typeError ∧ ¬ Continues (awaited e.state) s) := by
  induction s generalizing e with
  | nil =>
      refine .inl ⟨e, rfl, by simp [escaped], ?_⟩
      rw [continues_empty]
      constructor
      · rintro accepted
        rw [accepted]
        rfl
      · exact awaited_accept e.state sane.state
  | cons b s ih =>
      rw [escapeFrom, continues_cons]
      rcases escapeByte_cases sane b with ⟨e', turned, sane', asked, wrote⟩ | ⟨refused, unasked⟩
      · simp only [turned, asked, Option.some.injEq, exists_eq_left']
        refine (ih sane').imp_left fun ⟨e'', run, wrote', ends⟩ => ⟨e'', run, ?_, ends⟩
        rw [wrote', wrote, List.append_assoc]
        rfl
      · simp [refused, unasked]

theorem escaping_sane : ({} : Escaping).Sane :=
  ⟨by decide, by decide, by decide, fun _ => by decide⟩

/-- A string that is UTF-8 is written. -/
theorem dumpEscaped_valid {s : Bytes} (valid : Valid s) : dumpEscaped s = .ok (escaped s) := by
  rw [← continues_nil] at valid
  rw [dumpEscaped]
  rcases escapeFrom_cases s escaping_sane with ⟨e, run, wrote, ends⟩ | ⟨-, unasked⟩
  · rw [StringBuffer.contents] at wrote
    simp only [run, if_pos (ends.mpr valid), wrote]
    rfl
  · exact absurd valid unasked

/-- For a string that is not, `dump_escaped` throws. -/
theorem dumpEscaped_invalid {s : Bytes} (invalid : ¬ Valid s) :
    dumpEscaped s = .error .typeError := by
  rw [← continues_nil] at invalid
  rw [dumpEscaped]
  rcases escapeFrom_cases s escaping_sane with ⟨e, run, -, ends⟩ | ⟨refused, -⟩
  · have unfinished : ¬ e.state = utf8Accept := fun accepted => invalid (ends.mp accepted)
    simp only [run, if_neg unfinished]
  · rw [refused]

/-- **What `dump_escaped` does**: a string that is UTF-8 is written with each of its control
characters, quotes and backslashes escaped; for any other it throws.  Nothing is ever written
beyond `string_buffer`. -/
theorem dumpEscaped_cases (s : Bytes) :
    (Valid s ∧ dumpEscaped s = .ok (escaped s)) ∨
      (¬ Valid s ∧ dumpEscaped s = .error .typeError) := by
  by_cases valid : Valid s
  · exact .inl ⟨valid, dumpEscaped_valid valid⟩
  · exact .inr ⟨valid, dumpEscaped_invalid valid⟩

/-! ## Read back -/

theorem hexDigit_hexChar : ∀ digit < 16, hexDigit (hexChar digit) = some digit := by decide

/-- The four digits of an escape are those of its code point. -/
theorem getCodepoint_hexChar {n : Nat} (small : n < 0x10000) :
    getCodepoint (hexChar (n / 4096 % 16)) (hexChar (n / 256 % 16)) (hexChar (n / 16 % 16))
      (hexChar (n % 16)) = some n := by
  have digit : ∀ m, hexDigit (hexChar (m % 16)) = some (m % 16) :=
    fun m => hexDigit_hexChar _ (Nat.mod_lt _ (by decide))
  simp only [getCodepoint, digit, Nat.shiftLeft_eq]
  congr 1
  omega

theorem scanString_close (buffer input : Bytes) :
    scanString [] buffer (0x22 :: input) = some (buffer, input) := by
  rw [scanString.eq_def]
  exact if_pos rfl

theorem scanString_plain {b : UInt8} {ranges : List (UInt8 × UInt8)}
    (begun : leadRanges b = some ranges) (quote : b ≠ 0x22) (slash : b ≠ 0x5C)
    (buffer input : Bytes) :
    scanString [] buffer (b :: input) = scanString ranges (buffer ++ [b]) input := by
  rw [scanString.eq_def]
  dsimp only
  rw [if_neg quote, if_neg slash]
  simp only [begun]

theorem scanString_within {range : UInt8 × UInt8} {b : UInt8} (within : range.1 ≤ b ∧ b ≤ range.2)
    (ranges : List (UInt8 × UInt8)) (buffer input : Bytes) :
    scanString (range :: ranges) buffer (b :: input) = scanString ranges (buffer ++ [b]) input := by
  rw [scanString.eq_def]
  exact if_pos within

theorem scanString_simple {e c : UInt8} (read : simpleEscape e = some c) (buffer input : Bytes) :
    scanString [] buffer (0x5C :: e :: input) = scanString [] (buffer ++ [c]) input := by
  rw [scanString.eq_def]
  dsimp only
  rw [if_neg (by decide), if_pos rfl]
  simp only [read]

theorem scanString_unicode {a b c d : UInt8} {codepoint : Nat}
    (read : getCodepoint a b c d = some codepoint) (below : codepoint < 0xD800)
    (buffer input : Bytes) :
    scanString [] buffer (0x5C :: 0x75 :: a :: b :: c :: d :: input) =
      scanString [] (buffer ++ codepointBytes codepoint) input := by
  have long : simpleEscape 0x75 = none := rfl
  have high : isHighSurrogate codepoint = false := by
    rw [isHighSurrogate, decide_eq_false (by omega), Bool.false_and]
  have low : isLowSurrogate codepoint = false := by
    rw [isLowSurrogate, decide_eq_false (by omega), Bool.false_and]
  rw [scanString.eq_def]
  dsimp only
  rw [if_neg (by decide), if_pos rfl]
  simp only [long, if_true, read, high, low, Bool.false_eq_true, if_false]

/-- The short escapes are undone. -/
theorem simpleEscape_shortEscape {b letter : UInt8} (short : shortEscape b.toNat = some letter) :
    simpleEscape letter = some b := by
  have whole : UInt8.ofNat b.toNat = b := UInt8.ofNat_toNat
  rw [shortEscape] at short
  split_ifs at short with own own own own own own own <;> cases short <;> rw [← whole, own] <;> rfl

/-- A character's escape is read as the character. -/
theorem scanString_escapeOf {b : UInt8} (ascii : b.toNat < 0x80) (buffer input : Bytes) :
    scanString [] buffer (escapeOf b ++ input) = scanString [] (buffer ++ [b]) input := by
  rw [escapeOf]
  cases short : shortEscape b.toNat with
  | some letter => exact scanString_simple (simpleEscape_shortEscape short) buffer input
  | none =>
      by_cases control : b.toNat ≤ 0x1F
      · have byte : codepointBytes b.toNat = [b] := by
          rw [codepointBytes, if_pos ascii, UInt8.ofNat_toNat]
        simp only [if_pos control]
        rw [← byte]
        exact scanString_unicode (getCodepoint_hexChar (by omega)) (by omega) buffer input
      · have begun : leadRanges b = some [] := by
          rw [leadRanges_eq, if_neg, following, if_pos]
          · exact UInt8.le_iff_toNat_le.mpr (Nat.le_of_lt_succ ascii)
          · rw [UInt8.lt_iff_toNat_lt]
            exact Nat.not_lt.mpr (Nat.not_le.mp control)
        have quote : b ≠ 0x22 := by
          rintro rfl
          cases short
        have slash : b ≠ 0x5C := by
          rintro rfl
          cases short
        simp only [if_neg control]
        exact scanString_plain begun quote slash buffer input

/-- What is asked for within a character is no ASCII. -/
def Beyond (ranges : List (UInt8 × UInt8)) : Prop := ∀ range ∈ ranges, 0x80 ≤ range.1.toNat

theorem following_beyond {b : UInt8} {ranges : List (UInt8 × UInt8)}
    (begun : following b = some ranges) : Beyond ranges ∧ (b.toNat < 0x80 → ranges = []) := by
  simp only [following, UInt8.le_iff_toNat_le, ← UInt8.toNat_inj, UInt8.reduceToNat] at begun
  split_ifs at begun <;> cases begun <;>
    exact ⟨by simp [Beyond], fun small => by first | rfl | omega⟩

/-- **What is escaped is read back**, up to the closing quote. -/
theorem scanString_escaped_within {ranges : List (UInt8 × UInt8)} {s : Bytes}
    (continued : Continues ranges s) (beyond : Beyond ranges) (buffer input : Bytes) :
    scanString ranges buffer (escaped s ++ 0x22 :: input) = some (buffer ++ s, input) := by
  induction s generalizing ranges buffer with
  | nil =>
      rw [continues_empty] at continued
      subst continued
      rw [List.append_nil]
      exact scanString_close buffer input
  | cons b s ih =>
      have split : escaped (b :: s) ++ 0x22 :: input =
          escapeOf b ++ (escaped s ++ 0x22 :: input) := by
        rw [escaped, List.flatMap_cons, List.append_assoc]
        rfl
      have joined : buffer ++ b :: s = buffer ++ [b] ++ s := by simp
      rw [split, joined]
      cases ranges with
      | nil =>
          rw [continues_nil] at continued
          obtain ⟨ranges, begun, continued⟩ := valid_cons.mp continued
          obtain ⟨beyond, alone⟩ := following_beyond begun
          by_cases ascii : b.toNat < 0x80
          · cases alone ascii
            rw [scanString_escapeOf ascii]
            exact ih continued beyond _
          · have lead : leadRanges b = some ranges := by
              rw [leadRanges_eq, if_neg, begun]
              rw [UInt8.lt_iff_toNat_lt]
              simp only [UInt8.reduceToNat]
              omega
            have quote : b ≠ 0x22 := by
              rintro rfl
              exact ascii (by decide)
            have slash : b ≠ 0x5C := by
              rintro rfl
              exact ascii (by decide)
            rw [escapeOf_large (Nat.not_lt.mp ascii)]
            exact (scanString_plain lead quote slash _ _).trans (ih continued beyond _)
      | cons range ranges =>
          obtain ⟨low, high, continued⟩ := continued
          have large : 0x80 ≤ b.toNat :=
            Nat.le_trans (beyond range List.mem_cons_self) (UInt8.le_iff_toNat_le.mp low)
          rw [escapeOf_large large]
          exact (scanString_within ⟨low, high⟩ _ _ _).trans
            (ih continued (fun other member => beyond other (List.mem_cons_of_mem _ member)) _)

theorem scanString_escaped {s : Bytes} (valid : Valid s) (input : Bytes) :
    scanString [] [] (escaped s ++ 0x22 :: input) = some (s, input) :=
  scanString_escaped_within ((continues_nil s).mpr valid) (fun _ member => by cases member) [] input

/-- ASCII, and no control character but the last. -/
def Plain (b : UInt8) : Prop := 0x20 ≤ b.toNat ∧ b.toNat < 0x80

instance (b : UInt8) : Decidable (Plain b) :=
  inferInstanceAs (Decidable (0x20 ≤ b.toNat ∧ b.toNat < 0x80))

theorem valid_plain {front rest : Bytes} (plain : ∀ b ∈ front, Plain b) (valid : Valid rest) :
    Valid (front ++ rest) := by
  induction front with
  | nil => exact valid
  | cons b front ih =>
      obtain ⟨first, others⟩ := List.forall_mem_cons.mp plain
      exact valid_one (Nat.le_of_lt_succ first.2) (ih others)

/-- An ASCII character's escape is ASCII, with the control characters gone. -/
theorem escapeOf_plain {b : UInt8} (ascii : b.toNat < 0x80) : ∀ c ∈ escapeOf b, Plain c := by
  have digits : ∀ digit < 16, Plain (hexChar digit) := by decide
  have digit : ∀ n, Plain (hexChar (n % 16)) := fun n => digits (n % 16) (Nat.mod_lt _ (by decide))
  rw [escapeOf]
  cases short : shortEscape b.toNat with
  | some letter =>
      have visible : Plain letter := by
        rw [shortEscape] at short
        split_ifs at short <;> cases short <;> decide
      exact List.forall_mem_cons.mpr ⟨by decide, by simpa using visible⟩
  | none =>
      by_cases control : b.toNat ≤ 0x1F
      · simp only [if_pos control, unicodeEscape, List.forall_mem_cons]
        exact ⟨by decide, by decide, digit _, digit _, digit _, digit _, List.forall_mem_nil _⟩
      · simp only [if_neg control, List.forall_mem_singleton]
        exact ⟨by omega, ascii⟩

/-- Escapes change no byte beyond ASCII. -/
theorem escaped_continues {ranges : List (UInt8 × UInt8)} {s : Bytes}
    (continued : Continues ranges s) (beyond : Beyond ranges) : Continues ranges (escaped s) := by
  induction s generalizing ranges with
  | nil => exact continued
  | cons b s ih =>
      have split : escaped (b :: s) = escapeOf b ++ escaped s := List.flatMap_cons
      rw [split]
      cases ranges with
      | nil =>
          rw [continues_nil] at continued ⊢
          obtain ⟨ranges, begun, continued⟩ := valid_cons.mp continued
          obtain ⟨beyond, alone⟩ := following_beyond begun
          by_cases ascii : b.toNat < 0x80
          · cases alone ascii
            exact valid_plain (escapeOf_plain ascii) (ih continued beyond)
          · rw [escapeOf_large (Nat.not_lt.mp ascii)]
            exact valid_cons.mpr ⟨ranges, begun, ih continued beyond⟩
      | cons range ranges =>
          obtain ⟨low, high, continued⟩ := continued
          have large : 0x80 ≤ b.toNat :=
            Nat.le_trans (beyond range List.mem_cons_self) (UInt8.le_iff_toNat_le.mp low)
          rw [escapeOf_large large]
          exact ⟨low, high,
            ih continued fun other member => beyond other (List.mem_cons_of_mem _ member)⟩

/-- UTF-8 without control characters. -/
structure Clean (text : Bytes) : Prop where
  valid : Valid text
  printable : ∀ b ∈ text, 0x20 ≤ b.toNat

theorem clean_plain {text : Bytes} (plain : ∀ b ∈ text, Plain b) : Clean text := by
  refine ⟨?_, fun b member => (plain b member).1⟩
  have valid := valid_plain plain valid_nil
  rwa [List.append_nil] at valid

theorem clean_literal {text : Bytes} (plain : text.all (fun b => decide (Plain b)) = true) :
    Clean text :=
  clean_plain fun b member => of_decide_eq_true (List.all_eq_true.mp plain b member)

theorem clean_append {text text' : Bytes} (one : Clean text) (other : Clean text') :
    Clean (text ++ text') := by
  refine ⟨valid_append one.valid other.valid, fun b member => ?_⟩
  rcases List.mem_append.mp member with first | second
  · exact one.printable b first
  · exact other.printable b second

theorem clean_cons {b : UInt8} {text : Bytes} (one : Plain b) (other : Clean text) :
    Clean (b :: text) :=
  clean_append (clean_plain (List.forall_mem_singleton.mpr one)) other

/-- **What is escaped is UTF-8 without control characters.** -/
theorem clean_escaped {s : Bytes} (valid : Valid s) : Clean (escaped s) := by
  refine ⟨?_, fun b member => ?_⟩
  · exact escaped_continues ((continues_nil s).mpr valid) fun _ member => by cases member
  · obtain ⟨c, -, inside⟩ := List.mem_flatMap.mp member
    by_cases ascii : c.toNat < 0x80
    · exact (escapeOf_plain ascii b inside).1
    · rw [escapeOf_large (Nat.not_lt.mp ascii), List.mem_singleton] at inside
      subst inside
      omega

end GameServer.Nlohmann
