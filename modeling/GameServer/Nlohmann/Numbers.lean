/-
# Nlohmann.Numbers -- numbers, written and read

The serializer counts the digits first and then writes them backwards, two at a time; the
lexer goes from label to label and leaves the value to `strtoull` and `strtoll`.

* `dumpInteger_eq`, `dumpUnsigned_eq` -- what is written is the numeral, for every number
  of 64 bits and whatever the buffer held before;
* `scan_numeral`, `scan_minus` -- a numeral is read as its number, if nothing follows that
  would go on with it;
* `scan_float` -- and so is the text of a floating-point number.
-/
import Mathlib.Data.Nat.Digits.Defs
import GameServer.Nlohmann.Strings

namespace GameServer.Nlohmann

set_option autoImplicit false

open Wire (Bytes)

/-! ## Numerals -/

def digit (d : Nat) : UInt8 := UInt8.ofNat (0x30 + d)

/-- A number in decimal. -/
def numeral (n : Nat) : Bytes :=
  if n = 0 then [digit 0] else (Nat.digits 10 n).reverse.map digit

theorem numeral_small {n : Nat} (small : n < 10) : numeral n = [digit n] := by
  rw [numeral]
  split
  · rename_i zero
    rw [zero]
  · rename_i positive
    rw [Nat.digits_of_lt 10 n positive small]
    rfl

theorem numeral_step {n : Nat} (large : 10 ≤ n) :
    numeral n = numeral (n / 10) ++ [digit (n % 10)] := by
  have positive : n ≠ 0 := by omega
  have positive' : n / 10 ≠ 0 := by omega
  rw [numeral, numeral, if_neg positive, if_neg positive',
    Nat.digits_def' (by decide) (Nat.pos_of_ne_zero positive), List.reverse_cons, List.map_append]
  rfl

theorem toNat_digit {d : Nat} (small : d < 10) : (digit d).toNat = 0x30 + d := by
  rw [digit, UInt8.toNat_ofNat', Nat.mod_eq_of_lt (by omega)]

theorem digit_plain {b : UInt8} (digital : isDigit b = true) : Plain b := by
  simp only [isDigit, Bool.and_eq_true, decide_eq_true_eq, UInt8.le_iff_toNat_le,
    UInt8.reduceToNat] at digital
  exact ⟨by omega, by omega⟩

theorem isDigit_digit : ∀ {d : Nat}, d < 10 → isDigit (digit d) = true := by decide

/-- A numeral is a first digit, which is zero for zero alone, and more of them. -/
theorem numeral_cons (n : Nat) :
    ∃ d digits, numeral n = digit d :: digits ∧ d < 10 ∧ (d = 0 → n = 0 ∧ digits = []) ∧
      ∀ b ∈ digits, isDigit b = true := by
  induction n using Nat.strongRecOn with
  | _ n ih =>
      by_cases small : n < 10
      · exact ⟨n, [], numeral_small small, small, fun zero => ⟨zero, rfl⟩,
          fun _ member => by cases member⟩
      · obtain ⟨d, digits, first, digitSmall, zero, rest⟩ := ih (n / 10) (by omega)
        refine ⟨d, digits ++ [digit (n % 10)], ?_, digitSmall, ?_, ?_⟩
        · rw [numeral_step (Nat.not_lt.mp small), first]
          rfl
        · intro nought
          have := (zero nought).1
          omega
        · intro b member
          rcases List.mem_append.mp member with inside | last
          · exact rest b inside
          · rw [List.mem_singleton] at last
            subst last
            exact isDigit_digit (Nat.mod_lt n (by decide))

theorem digitsValue_append (digits : Bytes) (b : UInt8) :
    digitsValue (digits ++ [b]) = digitsValue digits * 10 + (b.toNat - 0x30) := by
  rw [digitsValue, List.foldl_append]
  rfl

/-- A numeral's value is the number. -/
theorem digitsValue_numeral (n : Nat) : digitsValue (numeral n) = n := by
  induction n using Nat.strongRecOn with
  | _ n ih =>
      by_cases small : n < 10
      · rw [numeral_small small]
        change 0 * 10 + ((digit n).toNat - 0x30) = n
        rw [toNat_digit small]
        omega
      · rw [numeral_step (Nat.not_lt.mp small), digitsValue_append, ih (n / 10) (by omega),
          toNat_digit (Nat.mod_lt n (by decide))]
        omega

theorem numeral_length_small {n : Nat} (small : n < 10) : (numeral n).length = 1 := by
  rw [numeral_small small, List.length_singleton]

theorem numeral_length_step {n : Nat} (large : 10 ≤ n) :
    (numeral n).length = (numeral (n / 10)).length + 1 := by
  rw [numeral_step large, List.length_append, List.length_singleton]

theorem numeral_length_le {n k : Nat} (positive : 0 < k) (small : n < 10 ^ k) :
    (numeral n).length ≤ k := by
  induction k generalizing n with
  | zero => cases positive
  | succ k ih =>
      by_cases below : n < 10
      · rw [numeral_length_small below]
        omega
      · rw [numeral_length_step (Nat.not_lt.mp below)]
        have shorter : n / 10 < 10 ^ k := Nat.div_lt_of_lt_mul (by rwa [Nat.pow_succ, Nat.mul_comm] at small)
        cases k with
        | zero => simp at shorter; omega
        | succ k => exact Nat.succ_le_succ (ih (Nat.succ_pos k) shorter)

/-! ## What is written -/

theorem countDigitsFrom_eq (fuel x digits : Nat) (enough : x < 10 ^ (4 * fuel)) :
    countDigitsFrom fuel x digits + 1 = digits + (numeral x).length := by
  induction fuel generalizing x digits with
  | zero =>
      have zero : x = 0 := by simpa using enough
      subst zero
      rfl
  | succ fuel ih =>
      rw [countDigitsFrom]
      split_ifs with one two three four
      · rw [numeral_length_small one]
      · rw [numeral_length_step (by omega), numeral_length_small (by omega)]
      · rw [numeral_length_step (by omega), numeral_length_step (by omega),
          numeral_length_small (by omega)]
      · rw [numeral_length_step (by omega), numeral_length_step (by omega),
          numeral_length_step (by omega), numeral_length_small (by omega)]
      · have less : x / 10000 < 10 ^ (4 * fuel) := by
          apply Nat.div_lt_of_lt_mul
          calc x < 10 ^ (4 * (fuel + 1)) := enough
            _ = 10000 * 10 ^ (4 * fuel) := by rw [Nat.mul_succ, Nat.pow_add]; omega
        have long : (numeral x).length = (numeral (x / 10000)).length + 4 := by
          rw [numeral_length_step (by omega), numeral_length_step (by omega),
            numeral_length_step (by omega), numeral_length_step (by omega)]
          simp only [Nat.div_div_eq_div_mul]
        have counted := ih (x / 10000) (digits + 4) less
        omega

theorem countDigits_eq (x : UInt64) : countDigits x = (numeral x.toNat).length := by
  have counted := countDigitsFrom_eq 6 x.toNat 1 (Nat.lt_trans x.toNat_lt (by decide))
  rw [countDigits]
  omega

theorem put_eq (front back : Bytes) (old c : UInt8) :
    (⟨front ++ old :: back, front.length + 1⟩ : NumberBuffer).put c =
      .ok ⟨front ++ c :: back, front.length⟩ := by
  have inside : 0 < front.length + 1 ∧ front.length + 1 ≤ (front ++ old :: back).length := by
    simp only [List.length_append, List.length_cons]
    omega
  rw [NumberBuffer.put, if_pos inside]
  simp

theorem putPair_eq (front back : Bytes) (old old' : UInt8) (index : Nat) :
    (⟨front ++ old :: old' :: back, front.length + 2⟩ : NumberBuffer).putPair index =
      .ok ⟨front ++ digit (index / 10) :: digit (index % 10) :: back, front.length⟩ := by
  have last := put_eq (front ++ [old]) back old' (digitsTo99 index).2
  simp only [List.append_assoc, List.singleton_append, List.length_append,
    List.length_singleton] at last
  rw [NumberBuffer.putPair, last]
  exact put_eq front ((digitsTo99 index).2 :: back) old (digitsTo99 index).1

theorem split_length {bytes : Bytes} {m n : Nat} (size : bytes.length = m + n) :
    ∃ front back, bytes = front ++ back ∧ front.length = m ∧ back.length = n := by
  refine ⟨bytes.take m, bytes.drop m, (List.take_append_drop m bytes).symm, ?_, ?_⟩
  · rw [List.length_take]
    omega
  · rw [List.length_drop]
    omega

/-- The last two digits are those of the number modulo 100. -/
theorem numeral_pair {n : Nat} (large : 100 ≤ n) :
    numeral n = numeral (n / 100) ++ [digit (n % 100 / 10), digit (n % 100 % 10)] := by
  have ten : n / 10 % 10 = n % 100 / 10 := by omega
  have one : n % 10 = n % 100 % 10 := by omega
  rw [numeral_step (by omega), @numeral_step (n / 10) (by omega), Nat.div_div_eq_div_mul, ten, one,
    List.append_assoc]
  rfl

/-- The digits are written over whatever was in their place, and nowhere else. -/
theorem fillDigits_eq (fuel x : Nat) (enough : x < 100 ^ fuel) (positive : 0 < x)
    (front gap back : Bytes) (fits : gap.length = (numeral x).length) :
    fillDigits fuel x ⟨front ++ (gap ++ back), front.length + gap.length⟩ =
      .ok ⟨front ++ (numeral x ++ back), front.length⟩ := by
  induction fuel generalizing x gap back with
  | zero =>
      simp only [Nat.pow_zero] at enough
      omega
  | succ fuel ih =>
      rw [fillDigits]
      split_ifs with two one
      · rw [numeral_pair two, List.length_append] at fits
        obtain ⟨gap, pair, rfl, gapFits, pairFits⟩ := split_length fits
        obtain ⟨old, old', rfl⟩ := List.length_eq_two.mp pairFits
        have put := putPair_eq (front ++ gap) back old old' (x % 100)
        have filled := ih (x / 100) (Nat.div_lt_of_lt_mul (by rwa [Nat.pow_succ'] at enough))
          (by omega) gap (digit (x % 100 / 10) :: digit (x % 100 % 10) :: back) gapFits
        simp only [List.append_assoc, List.length_append, List.cons_append, List.nil_append,
          List.length_cons, List.length_nil, ← Nat.add_assoc] at put filled ⊢
        rw [put, numeral_pair two]
        simp only [List.append_assoc, List.cons_append, List.nil_append, filled]
      · have long : (numeral x).length = 2 := by
          rw [numeral_length_step (Nat.not_lt.mp (by omega)), numeral_length_small (by omega)]
        obtain ⟨old, old', rfl⟩ := List.length_eq_two.mp (fits.trans long)
        have written : numeral x = [digit (x / 10), digit (x % 10)] := by
          rw [numeral_step one, numeral_small (by omega)]
          rfl
        rw [written]
        exact putPair_eq front back old old' x
      · obtain ⟨old, rfl⟩ := List.length_eq_one_iff.mp (fits.trans (numeral_length_small (by omega)))
        rw [numeral_small (by omega)]
        exact put_eq front back old (digit x)

/-- **`dump_integer`**: the sign and the numeral, whatever the number before left in the
buffer, and nothing is written beyond it. -/
theorem dumpAbs_eq (bytes : Bytes) (size : bytes.length = numberBufferSize) (negative : Bool)
    (value : UInt64) (signed : negative = true → value ≠ 0) :
    dumpAbs bytes negative value =
      .ok ((if negative then [0x2D] else []) ++ numeral value.toNat) := by
  by_cases zero : value = 0
  · subst zero
    cases negative with
    | true => exact absurd rfl (signed rfl)
    | false => rfl
  · have positive : 0 < value.toNat := by
      rw [Nat.pos_iff_ne_zero]
      exact fun nought => zero (UInt64.toNat_inj.mp nought)
    have short : (numeral value.toNat).length ≤ 20 :=
      numeral_length_le (by decide) (Nat.lt_trans value.toNat_lt (by decide))
    obtain ⟨sign, gap, back, same, signLength, gapLength⟩ :
        ∃ sign gap back : Bytes, bytes = sign ++ (gap ++ back) ∧ sign.length = negative.toNat ∧
          gap.length = (numeral value.toNat).length := by
      have few : negative.toNat ≤ 1 := Bool.toNat_le negative
      rw [numberBufferSize] at size
      obtain ⟨sign, rest, rfl, signLength, restLength⟩ :=
        @split_length bytes negative.toNat (64 - negative.toNat) (by omega)
      obtain ⟨gap, back, rfl, gapLength, -⟩ :=
        @split_length rest (numeral value.toNat).length (rest.length - (numeral value.toNat).length)
          (by omega)
      exact ⟨sign, gap, back, rfl, signLength, gapLength⟩
    have begun : (if negative then bytes.set 0 0x2D else bytes) =
        (if negative then [0x2D] else []) ++ (gap ++ back) := by
      subst same
      cases negative with
      | false =>
          rw [List.length_eq_zero_iff.mp signLength]
          rfl
      | true =>
          obtain ⟨old, rfl⟩ := List.length_eq_one_iff.mp signLength
          rfl
    have signSize : (if negative then [0x2D] else [] : Bytes).length = negative.toNat := by
      cases negative <;> rfl
    have written := fillDigits_eq 10 value.toNat (Nat.lt_trans value.toNat_lt (by decide)) positive
      (if negative then [0x2D] else []) gap back gapLength
    rw [signSize, gapLength, ← begun, ← countDigits_eq] at written
    rw [dumpAbs, if_neg zero]
    simp only [written]
    rw [countDigits_eq, ← List.append_assoc, ← signSize, ← List.length_append, List.take_left]

/-- A number and its two's complement. -/
theorem toInt_eq (x : Int64) :
    x.toInt = if 2 * x.toUInt64.toNat < 2 ^ 64 then (x.toUInt64.toNat : Int)
      else x.toUInt64.toNat - 2 ^ 64 := by
  rw [← Int64.toNat_toBitVec]
  exact BitVec.toInt_eq_toNat_cond x.toBitVec

/-- `remove_sign` is right for the least number too. -/
theorem removeSign_toNat {x : Int64} (negative : x < 0) :
    ((removeSign x).toNat : Int) = -x.toInt := by
  have below : x.toInt < 0 := Int64.lt_iff_toInt_lt.mp negative
  have size := x.toUInt64.toNat_lt
  have one : (Int64.toUInt64 1).toNat = 1 := rfl
  rw [removeSign, Int64.toUInt64_neg, Int64.toUInt64_add, UInt64.toNat_add, UInt64.toNat_neg,
    UInt64.toNat_add]
  rw [toInt_eq] at below ⊢
  simp only [one, UInt64.reduceToNat, UInt64.size] at *
  split_ifs at below ⊢ <;> omega

theorem toNat_toUInt64 {x : Int64} (negative : ¬ x < 0) : x.toUInt64.toNat = x.toInt.natAbs := by
  have above : 0 ≤ x.toInt := Int64.le_iff_toInt_le.mp (Int64.not_lt.mp negative)
  have small := x.toUInt64.toNat_lt
  rw [toInt_eq] at above ⊢
  split_ifs at above ⊢ <;> omega

section Written

variable {bytes : Bytes} (size : bytes.length = numberBufferSize)
include size

theorem dumpInteger_negative {x : Int64} (negative : x < 0) :
    dumpInteger bytes x = .ok (0x2D :: numeral x.toInt.natAbs) := by
  have value := removeSign_toNat negative
  have below : x.toInt < 0 := Int64.lt_iff_toInt_lt.mp negative
  have signed : removeSign x ≠ 0 := by
    intro zero
    rw [zero] at value
    simp only [UInt64.reduceToNat] at value
    omega
  have same : (removeSign x).toNat = x.toInt.natAbs := by omega
  rw [dumpInteger, if_pos negative, dumpAbs_eq bytes size true _ fun _ => signed, same, if_pos rfl]
  rfl

theorem dumpInteger_natural {x : Int64} (natural : ¬ x < 0) :
    dumpInteger bytes x = .ok (numeral x.toInt.natAbs) := by
  rw [dumpInteger, if_neg natural,
    dumpAbs_eq bytes size false _ (fun positive => by cases positive), toNat_toUInt64 natural]
  rfl

end Written

/-- **What is written for a `number_integer_t`**, from the least to the largest. -/
theorem dumpInteger_eq (bytes : Bytes) (size : bytes.length = numberBufferSize) (x : Int64) :
    dumpInteger bytes x =
      .ok ((if x < 0 then [0x2D] else []) ++ numeral x.toInt.natAbs) := by
  split_ifs with negative
  · exact dumpInteger_negative size negative
  · exact dumpInteger_natural size negative

theorem dumpInteger_eq_least :
    dumpInteger freshBuffer Int64.minValue =
      .ok ((if Int64.minValue < 0 then [0x2D] else []) ++ numeral Int64.minValue.toInt.natAbs) :=
  dumpInteger_eq freshBuffer rfl Int64.minValue

/-- **What is written for a `number_unsigned_t`.** -/
theorem dumpUnsigned_eq (bytes : Bytes) (size : bytes.length = numberBufferSize) (x : UInt64) :
    dumpUnsigned bytes x = .ok (numeral x.toNat) := by
  rw [dumpUnsigned, dumpAbs_eq bytes size false _ fun negative => by cases negative]
  rfl

/-! ## Read back -/

/-- What is behind a number: nothing that would go on with it. -/
def Stops (input : Bytes) : Prop :=
  ∀ b ∈ input.head?, isDigit b = false ∧ b ≠ 0x2E ∧ isExponent b = false

/-- From the first digit of an integer to what ends it. -/
theorem scanNumberFrom_digits (type : NumberType) (buffer digits input : Bytes)
    (all : ∀ b ∈ digits, isDigit b = true) (stops : Stops input) :
    scanNumberFrom .any1 type buffer (digits ++ input) = some (type, buffer ++ digits, input) := by
  induction digits generalizing buffer with
  | nil =>
      rw [List.nil_append, List.append_nil]
      cases input with
      | nil => rfl
      | cons b input =>
          obtain ⟨noDigit, noPoint, noExponent⟩ := stops b rfl
          have ends : NumberState.any1.next b = .done := by
            simp [NumberState.next, noDigit, noPoint, noExponent]
          simp only [scanNumberFrom, ends]
  | cons b digits ih =>
      have more : NumberState.any1.next b = .goto .any1 := by
        simp [NumberState.next, all b List.mem_cons_self]
      rw [List.cons_append, scanNumberFrom]
      simp only [more, NumberType.at]
      rw [ih (buffer ++ [b]) fun c member => all c (List.mem_cons_of_mem _ member)]
      simp

/-- Behind a zero the number ends. -/
theorem scanNumberFrom_zero (type : NumberType) (buffer : Bytes) {input : Bytes}
    (stops : Stops input) :
    scanNumberFrom .zero type buffer input = some (type, buffer, input) := by
  cases input with
  | nil => rfl
  | cons b input =>
      obtain ⟨-, noPoint, noExponent⟩ := stops b rfl
      have ends : NumberState.zero.next b = .done := by
        simp [NumberState.next, noPoint, noExponent]
      simp only [scanNumberFrom, ends]

theorem digit_eq_zero : ∀ d < 10, (digit d = 0x30 ↔ d = 0) := by decide

/-- Behind the first digit, by the label of zero or of any other digit. -/
theorem scanNumberFrom_numeral {d : Nat} {digits : Bytes} (small : d < 10)
    (alone : d = 0 → digits = []) (all : ∀ b ∈ digits, isDigit b = true) (type : NumberType)
    (buffer : Bytes) {input : Bytes} (stops : Stops input) :
    (if digit d = 0x30 then scanNumberFrom .zero type buffer (digits ++ input)
      else scanNumberFrom .any1 type buffer (digits ++ input)) =
      some (type, buffer ++ digits, input) := by
  by_cases zero : d = 0
  · rw [if_pos ((digit_eq_zero d small).mpr zero), alone zero, List.nil_append, List.append_nil]
    exact scanNumberFrom_zero type buffer stops
  · rw [if_neg (mt (digit_eq_zero d small).mp zero)]
    exact scanNumberFrom_digits type buffer digits input all stops

/-- A byte that begins a number begins no other token. -/
theorem scan_number {current : UInt8} (begins : current = 0x2D ∨ isDigit current = true)
    (input : Bytes) : scan (current :: input) = scanNumber current input := by
  have range : 0x2D ≤ current.toNat ∧ current.toNat ≤ 0x39 := by
    rcases begins with rfl | digital
    · decide
    · simp only [isDigit, Bool.and_eq_true, decide_eq_true_eq, UInt8.le_iff_toNat_le,
        UInt8.reduceToNat] at digital
      omega
  have other : ∀ c : UInt8, c.toNat < 0x2D ∨ 0x39 < c.toNat → current ≠ c := by
    rintro c outside rfl
    omega
  have visible : isWhitespace current = false := by simp [isWhitespace, other]
  rw [scan, skipWhitespace, List.dropWhile_cons_of_neg (by rw [visible]; decide)]
  simp [scanToken, other, begins]

/-- A numeral is read as the number. -/
theorem scan_numeral (x : UInt64) {input : Bytes} (stops : Stops input) :
    scan (numeral x.toNat ++ input) = (.valueUnsigned x, input) := by
  have value := digitsValue_numeral x.toNat
  obtain ⟨d, digits, same, small, alone, all⟩ := numeral_cons x.toNat
  have minus : ∀ d < 10, digit d ≠ 0x2D := by decide
  rw [same] at value ⊢
  rw [List.cons_append, scan_number (.inr (isDigit_digit small)), scanNumber, if_neg (minus d small),
    scanNumberFrom_numeral small (fun zero => (alone zero).2) all .unsigned [digit d] stops]
  simp only [numberToken, strtoull, List.singleton_append, value, x.toNat_lt, if_true,
    UInt64.ofNat_toNat]

/-- A numeral with a minus is read as the negative number. -/
theorem scan_minus {x : Int64} (negative : x < 0) {input : Bytes} (stops : Stops input) :
    scan (0x2D :: numeral x.toInt.natAbs ++ input) = (.valueInteger x, input) := by
  have below : x.toInt < 0 := Int64.lt_iff_toInt_lt.mp negative
  have least : -2 ^ 63 ≤ x.toInt := Int64.le_toInt x
  have value := digitsValue_numeral x.toInt.natAbs
  obtain ⟨d, digits, same, small, alone, all⟩ := numeral_cons x.toInt.natAbs
  have digital : isDigit (digit d) = true := isDigit_digit small
  have scanned := scanNumberFrom_numeral small (fun zero => (alone zero).2) all .integer
    [0x2D, digit d] stops
  have first : scanNumber 0x2D (digit d :: digits ++ input) =
      (numberToken .integer (0x2D :: digit d :: digits), input) := by
    rw [scanNumber, if_pos rfl, List.cons_append, scanNumberFrom, NumberState.next]
    by_cases zero : digit d = 0x30
    · rw [if_pos zero] at scanned
      simp only [if_pos zero, NumberType.at, List.singleton_append, scanned]
      rfl
    · rw [if_neg zero] at scanned
      simp only [if_neg zero, digital, if_true, NumberType.at, List.singleton_append, scanned]
      rfl
  have restored : Int64.ofInt (-(x.toInt.natAbs : Int)) = x := by
    have same : -(x.toInt.natAbs : Int) = x.toInt := by omega
    rw [same, Int64.ofInt_toInt]
  rw [same] at value ⊢
  rw [List.cons_append, scan_number (.inl rfl), first]
  simp only [numberToken, strtoll, List.tail_cons, value]
  rw [if_pos (by omega), restored]

/-! ## Floating-point numbers -/

/-- A text that the lexer takes whole, as a floating-point number. -/
def FloatText (text : Bytes) : Prop :=
  ∃ current rest, text = current :: rest ∧ (current = 0x2D ∨ isDigit current = true) ∧
    scanNumber current rest = (.valueFloat text, [])

/-- A number that ended with the input ends with whatever stops it, too. -/
theorem scanNumberFrom_stops {state : NumberState} {type type' : NumberType}
    {buffer buffer' rest input : Bytes}
    (scanned : scanNumberFrom state type buffer rest = some (type', buffer', []))
    (stops : Stops input) :
    scanNumberFrom state type buffer (rest ++ input) = some (type', buffer', input) := by
  induction rest generalizing state type buffer with
  | nil =>
      rw [scanNumberFrom] at scanned
      cases input with
      | nil => exact scanned
      | cons b input =>
          obtain ⟨noDigit, noPoint, noExponent⟩ := stops b rfl
          cases state <;> cases scanned <;>
            simp [scanNumberFrom, NumberState.next, noDigit, noPoint, noExponent]
  | cons b rest ih =>
      rw [List.cons_append, scanNumberFrom]
      rw [scanNumberFrom] at scanned
      cases move : state.next b with
      | goto state =>
          simp only [move] at scanned ⊢
          exact ih scanned
      | done =>
          simp only [move] at scanned
          cases scanned
      | error =>
          simp only [move] at scanned
          cases scanned

/-- The text of a floating-point number is read as one. -/
theorem scan_float {text input : Bytes} (float : FloatText text) (stops : Stops input) :
    scan (text ++ input) = (.valueFloat text, input) := by
  obtain ⟨current, rest, rfl, begins, scanned⟩ := float
  rw [List.cons_append, scan_number begins]
  rw [scanNumber] at scanned ⊢
  split_ifs at scanned ⊢
  all_goals
    split at scanned
    · rename_i type buffer rest' taken
      rw [Prod.mk.injEq] at scanned
      obtain ⟨same, rfl⟩ := scanned
      simp only [scanNumberFrom_stops taken stops, same]
    · cases scanned

theorem goto_plain (state state' : NumberState) (b : UInt8)
    (move : state.next b = .goto state') : Plain b := by
  by_contra outside
  have other : ∀ c, Plain c → b ≠ c := by
    rintro c plain rfl
    exact outside plain
  have noDigit : isDigit b = false := by
    by_contra digital
    rw [Bool.not_eq_false] at digital
    exact outside (digit_plain digital)
  have noExponent : isExponent b = false := by
    simp only [isExponent, Bool.or_eq_false_iff, decide_eq_false_iff_not]
    exact ⟨other _ (by decide), other _ (by decide)⟩
  have noPoint : b ≠ 0x2E := other _ (by decide)
  have noPlus : b ≠ 0x2B := other _ (by decide)
  have noMinus : b ≠ 0x2D := other _ (by decide)
  have noZero : b ≠ 0x30 := other _ (by decide)
  cases state <;>
    simp [NumberState.next, noDigit, noExponent, noPoint, noPlus, noMinus, noZero] at move

/-- What a number takes off the input. -/
theorem scanNumberFrom_taken {state : NumberState} {type type' : NumberType}
    {buffer buffer' rest rest' : Bytes}
    (scanned : scanNumberFrom state type buffer rest = some (type', buffer', rest')) :
    ∃ taken, rest = taken ++ rest' ∧ buffer' = buffer ++ taken ∧ ∀ b ∈ taken, Plain b := by
  induction rest generalizing state type buffer with
  | nil =>
      rw [scanNumberFrom] at scanned
      split at scanned
      · cases scanned
        exact ⟨[], rfl, (List.append_nil _).symm, fun _ member => by cases member⟩
      · cases scanned
  | cons b rest ih =>
      rw [scanNumberFrom] at scanned
      cases move : state.next b with
      | goto state' =>
          simp only [move] at scanned
          obtain ⟨taken, rfl, rfl, visible⟩ := ih scanned
          refine ⟨b :: taken, rfl, by simp, ?_⟩
          intro c member
          rcases List.mem_cons.mp member with rfl | later
          · exact goto_plain state state' c move
          · exact visible c later
      | done =>
          simp only [move] at scanned
          cases scanned
          exact ⟨[], rfl, (List.append_nil _).symm, fun _ member => by cases member⟩
      | error =>
          simp only [move] at scanned
          cases scanned

end GameServer.Nlohmann
