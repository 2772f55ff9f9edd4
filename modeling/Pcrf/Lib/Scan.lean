import Pcrf.Lib.Decimal

/-!
Reading a text from its front, as `sscanf` reads it: unsigned numbers and literal characters, and
numbers that were written with a given count of digits.
-/

namespace Lib

/-! ### Conversions -/

/-- White space in the C locale. -/
def isBlank (c : Char) : Bool := c = ' ' || 9 ≤ c.toNat && c.toNat ≤ 13

def skipBlanks (text : List Char) : List Char := text.dropWhile isBlank

/-- A sign, and what stands behind it. -/
def scanSign : List Char → Bool × List Char
  | '-' :: text => (true, text)
  | '+' :: text => (false, text)
  | text => (false, text)

/-- `%u`, for numbers that fit into 64 bits: a sign may stand before the digits. -/
def scanUnsigned (text : List Char) : Option (UInt32 × List Char) :=
  let (negative, text) := scanSign (skipBlanks text)
  let digits := text.takeWhile Char.isDigit
  if digits = [] then none
  else
    let n := UInt32.ofNat (Nat.ofDigitChars 10 digits 0)
    -- with a minus the number is negated as an unsigned one
    some (if negative then -n else n, text.dropWhile Char.isDigit)

example : scanUnsigned [' ', '0', '7', '.'] = some (7, ['.']) := by decide

/-- A character that is not white space. -/
def scanChar (c : Char) : List Char → Option (List Char)
  | [] => none
  | x :: text => if x = c then some text else none

theorem scanChar_cons (c : Char) (text : List Char) : scanChar c (c :: text) = some text :=
  if_pos rfl

/-- The text does not go on with a digit. -/
def DigitsEnd (text : List Char) : Prop := text.takeWhile Char.isDigit = []

theorem digitsEnd_nil : DigitsEnd [] := rfl

theorem digitsEnd_cons {c : Char} (h : c.isDigit = false) (text : List Char) :
    DigitsEnd (c :: text) := by
  simp [DigitsEnd, h]

theorem not_isBlank_of_isDigit {c : Char} (h : c.isDigit = true) : isBlank c = false := by
  have bounds : 48 ≤ c.toNat ∧ c.toNat ≤ 57 := by
    simpa [Char.isDigit, UInt32.le_iff_toNat_le] using h
  have space : c ≠ ' ' := by
    rintro rfl
    exact absurd bounds (by decide)
  have control : ¬ c.toNat ≤ 13 := by omega
  simp [isBlank, space, control]

theorem scanSign_of_isDigit {c : Char} (h : c.isDigit = true) (text : List Char) :
    scanSign (c :: text) = (false, c :: text) := by
  unfold scanSign
  split
  next heq =>
    cases heq
    exact absurd h (by decide)
  next heq =>
    cases heq
    exact absurd h (by decide)
  next => rfl

theorem skipBlanks_digits {digits : List Char} (hdigits : ∀ c ∈ digits, c.isDigit = true)
    (hne : digits ≠ []) (text : List Char) : skipBlanks (digits ++ text) = digits ++ text := by
  obtain ⟨c, more, rfl⟩ := List.exists_cons_of_ne_nil hne
  rw [List.cons_append, skipBlanks, List.dropWhile_cons_of_neg]
  rw [not_isBlank_of_isDigit (hdigits c List.mem_cons_self)]
  exact Bool.false_ne_true

/-- Digits are read up to where they end. -/
theorem scanUnsigned_digits {digits text : List Char} (hdigits : ∀ c ∈ digits, c.isDigit = true)
    (hne : digits ≠ []) (hend : DigitsEnd text) :
    scanUnsigned (digits ++ text) =
      some (UInt32.ofNat (Nat.ofDigitChars 10 digits 0), text) := by
  -- the first digit is neither white space nor a sign
  have kept := skipBlanks_digits hdigits hne text
  obtain ⟨c, more, rfl⟩ := List.exists_cons_of_ne_nil hne
  have first : c.isDigit = true := hdigits c List.mem_cons_self
  have rest : text.dropWhile Char.isDigit = text := by
    have whole := List.takeWhile_append_dropWhile (p := Char.isDigit) (l := text)
    rwa [hend, List.nil_append] at whole
  have taken : (c :: more ++ text).takeWhile Char.isDigit = c :: more := by
    rw [List.takeWhile_append_of_pos hdigits, hend, List.append_nil]
  have dropped : (c :: more ++ text).dropWhile Char.isDigit = text := by
    rw [List.dropWhile_append_of_pos hdigits, rest]
  unfold scanUnsigned
  rw [kept, List.cons_append, scanSign_of_isDigit first, ← List.cons_append]
  simp only [taken, dropped]
  rfl

/-! ### Numbers of a given length -/

/-- The last digits of a number, with zeros in front. -/
def paddedDigits : Nat → Nat → List Char
  | 0, _ => []
  | count + 1, n => paddedDigits count (n / 10) ++ [Nat.digitChar (n % 10)]

example : paddedDigits 2 7 = ['0', '7'] := by decide

theorem length_paddedDigits (count n : Nat) : (paddedDigits count n).length = count := by
  induction count generalizing n with
  | zero => rfl
  | succ count ih => rw [paddedDigits, List.length_append, ih, List.length_singleton]

theorem isDigit_digitChar {d : Nat} (h : d < 10) : (Nat.digitChar d).isDigit = true := by
  have all : ∀ d < 10, (Nat.digitChar d).isDigit = true := by decide
  exact all d h

theorem isDigit_of_mem_paddedDigits {count n : Nat} {c : Char} (h : c ∈ paddedDigits count n) :
    c.isDigit = true := by
  induction count generalizing n with
  | zero => exact absurd h List.not_mem_nil
  | succ count ih =>
    rcases List.mem_append.mp h with h | h
    · exact ih h
    · rw [List.mem_singleton.mp h]
      exact isDigit_digitChar (Nat.mod_lt n (by decide))

theorem ofDigitChars_paddedDigits {count n : Nat} (h : n < 10 ^ count) :
    Nat.ofDigitChars 10 (paddedDigits count n) 0 = n := by
  induction count generalizing n with
  | zero => rw [paddedDigits, Nat.ofDigitChars_nil, Nat.lt_one_iff.mp h]
  | succ count ih =>
    -- the last digit is the remainder, and those before it are the digits of the quotient
    have front : n / 10 < 10 ^ count := Nat.div_lt_of_lt_mul (by rwa [← Nat.pow_succ'])
    rw [paddedDigits, Nat.ofDigitChars_append, ih front,
      Nat.ofDigitChars_cons_digitChar_of_lt_ten (Nat.mod_lt n (by decide)),
      Nat.ofDigitChars_nil, Nat.div_add_mod]

theorem paddedDigits_ne_nil {count : Nat} (h : 0 < count) (n : Nat) :
    paddedDigits count n ≠ [] := by
  rw [← List.length_pos_iff, length_paddedDigits]
  exact h

/-- What was written with a given count of digits is read back. -/
theorem scanUnsigned_paddedDigits {count n : Nat} (hcount : 0 < count) (h : n < 10 ^ count)
    {text : List Char} (hend : DigitsEnd text) :
    scanUnsigned (paddedDigits count n ++ text) = some (UInt32.ofNat n, text) := by
  rw [scanUnsigned_digits (fun _ => isDigit_of_mem_paddedDigits) (paddedDigits_ne_nil hcount n)
    hend, ofDigitChars_paddedDigits h]

/-- White space in front of it does not matter. -/
theorem skipBlanks_paddedDigits {count : Nat} (h : 0 < count) (n : Nat) (text : List Char) :
    skipBlanks (' ' :: (paddedDigits count n ++ text)) = paddedDigits count n ++ text :=
  skipBlanks_digits (fun _ => isDigit_of_mem_paddedDigits) (paddedDigits_ne_nil h n) text

end Lib
