/-
# Theory.Utf8 -- texts as bytes

A list of bytes is valid when it is the encoding of a list of characters, each by
`String.utf8EncodeChar`.

* `decode_eq_some_iff` -- a text is decoded from exactly its own bytes;
* `valid_iff_decodes` -- the valid lists are those with a text;
* `valid_append` -- valid lists, one behind the other, are valid;
* `valid_cons`, `continues_cons` -- whether a list is valid, told byte by byte.
-/
import Mathlib.Data.List.Basic
import Mathlib.Tactic.SplitIfs

namespace GameServer.Theory.Utf8

set_option autoImplicit false

/-- The bytes of a text. -/
def encode (text : String) : List UInt8 := text.toByteArray.data.toList

/-- The text of these bytes, if there is one. -/
def decode (bytes : List UInt8) : Option String := String.fromUTF8? bytes.toByteArray

/-- These bytes are the encoding of some characters. -/
def Valid (bytes : List UInt8) : Prop :=
  ∃ text : List Char, text.flatMap String.utf8EncodeChar = bytes

theorem toByteArray_data (bytes : ByteArray) : bytes.data.toList.toByteArray = bytes := by
  apply ByteArray.ext
  rw [List.data_toByteArray, Array.toArray_toList]

theorem encode_ofList (text : List Char) :
    encode (String.ofList text) = text.flatMap String.utf8EncodeChar := by
  rw [encode, String.toByteArray_ofList, List.utf8Encode, List.toList_data_toByteArray]

theorem encode_eq (text : String) : encode text = text.toList.flatMap String.utf8EncodeChar := by
  rw [← encode_ofList, String.ofList_toList]

theorem encode_injective {text text' : String} (same : encode text = encode text') :
    text = text' := by
  apply String.toByteArray_inj.mp
  rw [← toByteArray_data text.toByteArray, ← toByteArray_data text'.toByteArray]
  exact congrArg List.toByteArray same

theorem encode_valid (text : String) : Valid (encode text) := ⟨text.toList, (encode_eq text).symm⟩

/-- **A text is decoded from exactly its own bytes.** -/
theorem decode_eq_some_iff {bytes : List UInt8} {text : String} :
    decode bytes = some text ↔ encode text = bytes := by
  rw [decode, String.fromUTF8?]
  constructor
  · intro decoded
    split at decoded
    · cases decoded
      exact List.toList_data_toByteArray
    · cases decoded
  · rintro rfl
    have whole : (encode text).toByteArray = text.toByteArray := toByteArray_data _
    have valid : (encode text).toByteArray.IsValidUTF8 := whole ▸ text.isValidUTF8
    rw [dif_pos valid, Option.some.injEq]
    exact String.toByteArray_inj.mp whole

theorem decode_encode (text : String) : decode (encode text) = some text :=
  decode_eq_some_iff.mpr rfl

theorem toList_loop (bytes : ByteArray) (i : Nat) (read : List UInt8) :
    ByteArray.toList.loop bytes i read = read.reverse ++ bytes.data.toList.drop i := by
  fun_induction ByteArray.toList.loop bytes i read with
  | case1 i read less ih =>
      have inside : i < bytes.data.toList.length := less
      have byte : bytes.get! i = bytes.data.toList[i] := by
        rw [Array.getElem_toList]
        exact getElem!_pos bytes.data i less
      rw [ih, List.reverse_cons, List.append_assoc, List.singleton_append, byte,
        ← List.drop_eq_getElem_cons inside]
  | case2 i read more =>
      rw [List.drop_of_length_le (Nat.not_lt.mp more), List.append_nil]

/-- `ByteArray.toList` goes through the bytes one by one. -/
theorem toUTF8_toList (text : String) : text.toUTF8.toList = encode text :=
  toList_loop text.toUTF8 0 []

theorem valid_iff_decodes {bytes : List UInt8} :
    Valid bytes ↔ ∃ text, decode bytes = some text := by
  constructor
  · rintro ⟨text, rfl⟩
    exact ⟨String.ofList text, decode_eq_some_iff.mpr (encode_ofList text)⟩
  · rintro ⟨text, decoded⟩
    rw [← decode_eq_some_iff.mp decoded]
    exact encode_valid text

@[simp] theorem valid_nil : Valid [] := ⟨[], rfl⟩

theorem valid_char (letter : Char) : Valid (String.utf8EncodeChar letter) := ⟨[letter], by simp⟩

theorem valid_append {front back : List UInt8} (first : Valid front) (second : Valid back) :
    Valid (front ++ back) := by
  obtain ⟨text, rfl⟩ := first
  obtain ⟨text', rfl⟩ := second
  exact ⟨text ++ text', List.flatMap_append⟩

/-! ## Byte by byte -/

/-- What the first byte of a character asks of those behind it, a range for each; `none` for
a byte that no character begins with. -/
def following (b : UInt8) : Option (List (UInt8 × UInt8)) :=
  if b ≤ 0x7F then some []
  else if 0xC2 ≤ b ∧ b ≤ 0xDF then some [(0x80, 0xBF)]
  else if b = 0xE0 then some [(0xA0, 0xBF), (0x80, 0xBF)]
  else if b = 0xED then some [(0x80, 0x9F), (0x80, 0xBF)]
  else if 0xE1 ≤ b ∧ b ≤ 0xEF then some [(0x80, 0xBF), (0x80, 0xBF)]
  else if b = 0xF0 then some [(0x90, 0xBF), (0x80, 0xBF), (0x80, 0xBF)]
  else if 0xF1 ≤ b ∧ b ≤ 0xF3 then some [(0x80, 0xBF), (0x80, 0xBF), (0x80, 0xBF)]
  else if b = 0xF4 then some [(0x80, 0x8F), (0x80, 0xBF), (0x80, 0xBF)]
  else none

/-- Valid bytes behind some that are asked for. -/
def Continues : List (UInt8 × UInt8) → List UInt8 → Prop
  | [], bytes => Valid bytes
  | _ :: _, [] => False
  | range :: ranges, b :: bytes => range.1 ≤ b ∧ b ≤ range.2 ∧ Continues ranges bytes

@[simp] theorem continues_nil (bytes : List UInt8) : Continues [] bytes ↔ Valid bytes := by
  rw [Continues]

@[simp] theorem continues_cons_nil (range : UInt8 × UInt8) (ranges : List (UInt8 × UInt8)) :
    ¬ Continues (range :: ranges) [] := id

@[simp] theorem continues_cons_cons (range : UInt8 × UInt8) (ranges : List (UInt8 × UInt8))
    (b : UInt8) (bytes : List UInt8) :
    Continues (range :: ranges) (b :: bytes) ↔
      range.1 ≤ b ∧ b ≤ range.2 ∧ Continues ranges bytes := Iff.rfl

theorem ofNat_eq {n : Nat} {b : UInt8} (same : n = b.toNat) : UInt8.ofNat n = b := by
  rw [same, UInt8.ofNat_toNat]

theorem encode_one {letter : Char} (small : letter.val.toNat ≤ 0x7F) :
    String.utf8EncodeChar letter = [UInt8.ofNat letter.val.toNat] := if_pos small

theorem encode_two {letter : Char} (low : 0x7F < letter.val.toNat)
    (high : letter.val.toNat ≤ 0x7FF) :
    String.utf8EncodeChar letter =
      [UInt8.ofNat (letter.val.toNat / 64 + 0xC0), UInt8.ofNat (letter.val.toNat % 64 + 0x80)] := by
  have top : letter.val.toNat / 64 % 32 = letter.val.toNat / 64 := Nat.mod_eq_of_lt (by omega)
  rw [String.utf8EncodeChar, if_neg (by omega), if_pos high, top]

theorem encode_three {letter : Char} (low : 0x7FF < letter.val.toNat)
    (high : letter.val.toNat ≤ 0xFFFF) :
    String.utf8EncodeChar letter =
      [UInt8.ofNat (letter.val.toNat / 4096 + 0xE0),
        UInt8.ofNat (letter.val.toNat / 64 % 64 + 0x80),
        UInt8.ofNat (letter.val.toNat % 64 + 0x80)] := by
  have top : letter.val.toNat / 4096 % 16 = letter.val.toNat / 4096 := Nat.mod_eq_of_lt (by omega)
  rw [String.utf8EncodeChar, if_neg (by omega), if_neg (by omega), if_pos high, top]

theorem val_le (letter : Char) : letter.val.toNat ≤ 0x10FFFF := by
  rcases letter.valid with below | ⟨_, above⟩ <;> omega

theorem encode_four {letter : Char} (low : 0xFFFF < letter.val.toNat) :
    String.utf8EncodeChar letter =
      [UInt8.ofNat (letter.val.toNat / 262144 + 0xF0),
        UInt8.ofNat (letter.val.toNat / 4096 % 64 + 0x80),
        UInt8.ofNat (letter.val.toNat / 64 % 64 + 0x80),
        UInt8.ofNat (letter.val.toNat % 64 + 0x80)] := by
  have top : letter.val.toNat / 262144 % 8 = letter.val.toNat / 262144 :=
    Nat.mod_eq_of_lt (by have := val_le letter; omega)
  rw [String.utf8EncodeChar, if_neg (by omega), if_neg (by omega), if_neg (by omega), top]

/-- A character at a scalar value, in front of valid bytes. -/
theorem valid_at {value : Nat} (scalar : value.isValidChar) {bytes rest : List UInt8}
    (units : ∀ letter : Char, letter.val.toNat = value → String.utf8EncodeChar letter = bytes)
    (valid : Valid rest) : Valid (bytes ++ rest) := by
  rw [← units (Char.ofNatAux value scalar) rfl]
  exact valid_append (valid_char _) valid

theorem valid_one {b : UInt8} {rest : List UInt8} (small : b.toNat ≤ 0x7F) (valid : Valid rest) :
    Valid (b :: rest) := by
  refine @valid_at b.toNat (.inl (by omega)) [b] rest (fun letter same => ?_) valid
  rw [encode_one (by omega), ofNat_eq same]

theorem valid_two {b x : UInt8} {rest : List UInt8} (low : 0xC2 ≤ b.toNat) (high : b.toNat ≤ 0xDF)
    (low' : 0x80 ≤ x.toNat) (high' : x.toNat ≤ 0xBF) (valid : Valid rest) :
    Valid (b :: x :: rest) := by
  refine @valid_at ((b.toNat - 0xC0) * 64 + (x.toNat - 0x80)) (.inl (by omega)) [b, x] rest
    (fun letter same => ?_) valid
  rw [encode_two (by omega) (by omega), @ofNat_eq _ b (by omega), @ofNat_eq _ x (by omega)]

theorem valid_three {b x y : UInt8} {rest : List UInt8} (low : 0xE0 ≤ b.toNat)
    (high : b.toNat ≤ 0xEF) (low' : 0x80 ≤ x.toNat) (high' : x.toNat ≤ 0xBF)
    (low'' : 0x80 ≤ y.toNat) (high'' : y.toNat ≤ 0xBF)
    (long : b.toNat = 0xE0 → 0xA0 ≤ x.toNat) (scalar : b.toNat = 0xED → x.toNat ≤ 0x9F)
    (valid : Valid rest) : Valid (b :: x :: y :: rest) := by
  refine @valid_at ((b.toNat - 0xE0) * 4096 + (x.toNat - 0x80) * 64 + (y.toNat - 0x80))
    ?_ [b, x, y] rest (fun letter same => ?_) valid
  · by_cases surrogates : b.toNat ≤ 0xED
    · exact .inl (by omega)
    · exact .inr ⟨by omega, by omega⟩
  · rw [encode_three (by omega) (by omega), @ofNat_eq _ b (by omega), @ofNat_eq _ x (by omega),
      @ofNat_eq _ y (by omega)]

theorem valid_four {b x y z : UInt8} {rest : List UInt8} (low : 0xF0 ≤ b.toNat)
    (high : b.toNat ≤ 0xF4) (low' : 0x80 ≤ x.toNat) (high' : x.toNat ≤ 0xBF)
    (low'' : 0x80 ≤ y.toNat) (high'' : y.toNat ≤ 0xBF) (lowest : 0x80 ≤ z.toNat)
    (highest : z.toNat ≤ 0xBF)
    (long : b.toNat = 0xF0 → 0x90 ≤ x.toNat) (scalar : b.toNat = 0xF4 → x.toNat ≤ 0x8F)
    (valid : Valid rest) : Valid (b :: x :: y :: z :: rest) := by
  refine @valid_at ((b.toNat - 0xF0) * 262144 + (x.toNat - 0x80) * 4096 + (y.toNat - 0x80) * 64 +
    (z.toNat - 0x80)) (.inr ⟨by omega, by omega⟩) [b, x, y, z] rest (fun letter same => ?_) valid
  rw [encode_four (by omega), @ofNat_eq _ b (by omega), @ofNat_eq _ x (by omega),
    @ofNat_eq _ y (by omega), @ofNat_eq _ z (by omega)]
/-- The byte that is asked for. -/
theorem continues_split {range : UInt8 × UInt8} {ranges : List (UInt8 × UInt8)}
    {bytes : List UInt8} (continued : Continues (range :: ranges) bytes) :
    ∃ b rest, bytes = b :: rest ∧ range.1.toNat ≤ b.toNat ∧ b.toNat ≤ range.2.toNat ∧
      Continues ranges rest := by
  cases bytes with
  | nil => exact continued.elim
  | cons b rest =>
      obtain ⟨low, high, continued⟩ := continued
      exact ⟨b, rest, rfl, UInt8.le_iff_toNat_le.mp low, UInt8.le_iff_toNat_le.mp high, continued⟩

/-- The bytes asked for make a character. -/
theorem valid_of_following {b : UInt8} {ranges : List (UInt8 × UInt8)} {bytes : List UInt8}
    (begun : following b = some ranges) (continued : Continues ranges bytes) :
    Valid (b :: bytes) := by
  simp only [following, UInt8.le_iff_toNat_le, ← UInt8.toNat_inj, UInt8.reduceToNat] at begun
  split_ifs at begun with one two three three' three'' four four' four'' <;> cases begun
  case pos => exact valid_one one continued
  case pos =>
    obtain ⟨x, rest, rfl, low, high, valid⟩ := continues_split continued
    exact valid_two two.1 two.2 low high valid
  case pos | pos | pos =>
    obtain ⟨x, rest, rfl, low, high, continued⟩ := continues_split continued
    obtain ⟨y, rest, rfl, low', high', valid⟩ := continues_split continued
    simp only [UInt8.reduceToNat] at low high low' high'
    exact valid_three (by omega) (by omega) (by omega) (by omega) low' high' (by omega)
      (by omega) valid
  case pos | pos | pos =>
    obtain ⟨x, rest, rfl, low, high, continued⟩ := continues_split continued
    obtain ⟨y, rest, rfl, low', high', continued⟩ := continues_split continued
    obtain ⟨z, rest, rfl, low'', high'', valid⟩ := continues_split continued
    simp only [UInt8.reduceToNat] at low high low' high' low'' high''
    exact valid_four (by omega) (by omega) (by omega) (by omega) low' high' low'' high''
      (by omega) (by omega) valid

theorem toNat_ofNat {n : Nat} (small : n < 256) : (UInt8.ofNat n).toNat = n := by
  rw [UInt8.toNat_ofNat', Nat.mod_eq_of_lt small]

/-- A byte within its range. -/
theorem continues_ofNat {low high : UInt8} {ranges : List (UInt8 × UInt8)} {n : Nat}
    {bytes : List UInt8} (above : low.toNat ≤ n) (below : n ≤ high.toNat)
    (continued : Continues ranges bytes) :
    Continues ((low, high) :: ranges) (UInt8.ofNat n :: bytes) := by
  have small : n < 256 := Nat.lt_of_le_of_lt below high.toNat_lt
  refine ⟨UInt8.le_iff_toNat_le.mpr ?_, UInt8.le_iff_toNat_le.mpr ?_, continued⟩
  · rwa [toNat_ofNat small]
  · rwa [toNat_ofNat small]

/-- A byte behind the second one. -/
theorem continues_tail {ranges : List (UInt8 × UInt8)} {n : Nat} {bytes : List UInt8}
    (small : n < 64) (continued : Continues ranges bytes) :
    Continues ((0x80, 0xBF) :: ranges) (UInt8.ofNat (n + 0x80) :: bytes) := by
  refine continues_ofNat ?_ ?_ continued
  · exact Nat.le_add_left _ _
  · simp only [UInt8.reduceToNat]
    omega

theorem following_two {n : Nat} (low : 2 ≤ n) (high : n < 32) :
    following (UInt8.ofNat (n + 0xC0)) = some [(0x80, 0xBF)] := by
  simp only [following, UInt8.le_iff_toNat_le, UInt8.reduceToNat]
  rw [toNat_ofNat (by omega), if_neg (by omega), if_pos (by omega)]

/-- The second byte of three: no more than needed, and no surrogates. -/
theorem following_three {top next : Nat} (small : top < 16) (small' : next < 64)
    (long : top = 0 → 32 ≤ next) (scalar : top = 13 → next < 32) :
    ∃ low high : UInt8, following (UInt8.ofNat (top + 0xE0)) = some [(low, high), (0x80, 0xBF)] ∧
      low.toNat ≤ next + 0x80 ∧ next + 0x80 ≤ high.toNat := by
  by_cases first : top = 0
  · subst first
    exact ⟨0xA0, 0xBF, rfl, by simp only [UInt8.reduceToNat]; omega,
      by simp only [UInt8.reduceToNat]; omega⟩
  by_cases surrogates : top = 13
  · subst surrogates
    exact ⟨0x80, 0x9F, rfl, by simp only [UInt8.reduceToNat]; omega,
      by simp only [UInt8.reduceToNat]; omega⟩
  refine ⟨0x80, 0xBF, ?_, by simp only [UInt8.reduceToNat]; omega,
    by simp only [UInt8.reduceToNat]; omega⟩
  simp only [following, UInt8.le_iff_toNat_le, ← UInt8.toNat_inj, UInt8.reduceToNat]
  rw [toNat_ofNat (by omega), if_neg (by omega), if_neg (by omega), if_neg (by omega),
    if_neg (by omega), if_pos (by omega)]

/-- The second byte of four: no more than needed, and nothing above the last scalar. -/
theorem following_four {top next : Nat} (small : top ≤ 4) (small' : next < 64)
    (long : top = 0 → 16 ≤ next) (scalar : top = 4 → next < 16) :
    ∃ low high : UInt8,
      following (UInt8.ofNat (top + 0xF0)) = some [(low, high), (0x80, 0xBF), (0x80, 0xBF)] ∧
        low.toNat ≤ next + 0x80 ∧ next + 0x80 ≤ high.toNat := by
  by_cases first : top = 0
  · subst first
    exact ⟨0x90, 0xBF, rfl, by simp only [UInt8.reduceToNat]; omega,
      by simp only [UInt8.reduceToNat]; omega⟩
  by_cases last : top = 4
  · subst last
    exact ⟨0x80, 0x8F, rfl, by simp only [UInt8.reduceToNat]; omega,
      by simp only [UInt8.reduceToNat]; omega⟩
  refine ⟨0x80, 0xBF, ?_, by simp only [UInt8.reduceToNat]; omega,
    by simp only [UInt8.reduceToNat]; omega⟩
  simp only [following, UInt8.le_iff_toNat_le, ← UInt8.toNat_inj, UInt8.reduceToNat]
  rw [toNat_ofNat (by omega), if_neg (by omega), if_neg (by omega), if_neg (by omega),
    if_neg (by omega), if_neg (by omega), if_neg (by omega), if_pos (by omega)]

/-- The bytes of a character are those its first byte asks for. -/
theorem following_of_char (letter : Char) {rest : List UInt8} (valid : Valid rest) :
    ∃ b bytes ranges, String.utf8EncodeChar letter ++ rest = b :: bytes ∧
      following b = some ranges ∧ Continues ranges bytes := by
  have scalar : letter.val.toNat < 0xD800 ∨
      0xDFFF < letter.val.toNat ∧ letter.val.toNat < 0x110000 := letter.valid
  have last := @continues_tail [] (letter.val.toNat % 64) rest (Nat.mod_lt _ (by decide)) valid
  have third := continues_tail (Nat.mod_lt (letter.val.toNat / 64) (by decide : 64 > 0)) last
  by_cases one : letter.val.toNat ≤ 0x7F
  · rw [encode_one one]
    refine ⟨_, rest, [], rfl, ?_, valid⟩
    rw [following, if_pos]
    rwa [UInt8.le_iff_toNat_le, toNat_ofNat (by omega)]
  by_cases two : letter.val.toNat ≤ 0x7FF
  · rw [encode_two (by omega) (by omega)]
    exact ⟨_, _, _, rfl, following_two (by omega) (by omega), last⟩
  by_cases three : letter.val.toNat ≤ 0xFFFF
  · rw [encode_three (by omega) (by omega)]
    obtain ⟨low, high, begun, above, below⟩ :=
      @following_three (letter.val.toNat / 4096) (letter.val.toNat / 64 % 64) (by omega) (by omega)
        (by omega) (by omega)
    exact ⟨_, _, _, rfl, begun, continues_ofNat above below last⟩
  · rw [encode_four (by omega)]
    obtain ⟨low, high, begun, above, below⟩ :=
      @following_four (letter.val.toNat / 262144) (letter.val.toNat / 4096 % 64) (by omega)
        (by omega) (by omega) (by omega)
    exact ⟨_, _, _, rfl, begun, continues_ofNat above below third⟩

/-- **Valid bytes, byte by byte.** -/
theorem valid_cons {b : UInt8} {bytes : List UInt8} :
    Valid (b :: bytes) ↔ ∃ ranges, following b = some ranges ∧ Continues ranges bytes := by
  constructor
  · rintro ⟨text, encoded⟩
    cases text with
    | nil => cases encoded
    | cons letter text =>
        obtain ⟨b', bytes', ranges, split, begun, continued⟩ :=
          following_of_char letter (⟨text, rfl⟩ : Valid (text.flatMap String.utf8EncodeChar))
        cases encoded.symm.trans (List.flatMap_cons.trans split)
        exact ⟨ranges, begun, continued⟩
  · rintro ⟨ranges, begun, continued⟩
    exact valid_of_following begun continued

/-- What is asked for behind one byte more. -/
def next : List (UInt8 × UInt8) → UInt8 → Option (List (UInt8 × UInt8))
  | [], b => following b
  | range :: ranges, b => if range.1 ≤ b ∧ b ≤ range.2 then some ranges else none

theorem continues_empty {ranges : List (UInt8 × UInt8)} : Continues ranges [] ↔ ranges = [] := by
  cases ranges with
  | nil => simp
  | cons range ranges => simp

/-- **A decoder's step**: what is asked for says all that counts of the bytes so far. -/
theorem continues_cons {ranges : List (UInt8 × UInt8)} {b : UInt8} {bytes : List UInt8} :
    Continues ranges (b :: bytes) ↔
      ∃ ranges', next ranges b = some ranges' ∧ Continues ranges' bytes := by
  cases ranges with
  | nil => rw [continues_nil, valid_cons, next]
  | cons range ranges =>
      rw [continues_cons_cons, next]
      constructor
      · rintro ⟨low, high, continued⟩
        exact ⟨ranges, if_pos ⟨low, high⟩, continued⟩
      · rintro ⟨ranges', within, continued⟩
        split at within
        · rename_i inside
          cases within
          exact ⟨inside.1, inside.2, continued⟩
        · cases within

end GameServer.Theory.Utf8
