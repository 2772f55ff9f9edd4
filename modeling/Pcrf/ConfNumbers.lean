import Mathlib.Tactic.Ring
import Pcrf.Lib.Munch
import Pcrf.Lib.Rounding
import Pcrf.Lib.Scan

/-!
The numbers of a configuration: what `sscanf` makes of their digits, the casts of the actions, and
the digits that a number is written with.
-/

namespace Pcrf

open Lib

/-! ### Whole numbers -/

/-- `sscanf` with `%i`: a number that begins with a zero is octal, and ends before the first digit
that is not. What is too large for a `long` becomes the largest one, of which the `int` has the low
bits. -/
def readInteger (digits : List Char) : Int32 :=
  let number :=
    if digits.head? = some '0' then Nat.ofDigitChars 8 (digits.takeWhile (· < '8')) 0
    else Nat.ofDigitChars 10 digits 0
  Int32.ofNat (min number (2 ^ 63 - 1))

example : readInteger "0108".toList = 8 ∧ readInteger "4294967300".toList = 4 := by decide

theorem readInteger_toDigits {value : Int32} (h : 0 ≤ value) :
    readInteger (Nat.toDigits 10 value.toNatClampNeg) = value := by
  have small := value.toNatClampNeg_lt
  have number : (if (Nat.toDigits 10 value.toNatClampNeg).head? = some '0' then
      Nat.ofDigitChars 8 ((Nat.toDigits 10 value.toNatClampNeg).takeWhile (· < '8')) 0
      else Nat.ofDigitChars 10 (Nat.toDigits 10 value.toNatClampNeg) 0) =
      value.toNatClampNeg := by
    rcases Nat.eq_zero_or_pos value.toNatClampNeg with zero | positive
    · rw [zero]
      rfl
    · rw [if_neg (head?_toDigits positive), Nat.ofDigitChars_ten_toDigits]
  rw [readInteger, number, Nat.min_eq_left (by omega), Int32.ofNat_toNatClampNeg value h]

/-! ### Numbers with a fraction -/

/-- A `double` that is not negative. It has 52 digits behind the first one, and is a multiple of
`2 ^ -1074`. There is no largest one here, as no number above it fits into an `unsigned int`. -/
abbrev Double := Rounded 52

/-- One is `2 ^ Double.scale` units. -/
def Double.scale : Nat := 1074

/-- `sscanf` with `%lf`, for digits with a point between them. -/
def readDouble (text : List Char) : Double :=
  let integral := text.takeWhile Char.isDigit
  let fraction := text.drop (integral.length + 1)
  .nearest (Nat.ofDigitChars 10 (integral ++ fraction) 0 * 2 ^ Double.scale)
    (10 ^ fraction.length)

namespace Double

/-- The product with a whole number. -/
def times (x : Double) (n : Nat) : Double := .nearest (x.units * n) 1

/-- The cast to `unsigned int`: a machine of 64 bits converts to 64 bits, with zeros in the low half
for a number that does not fit, and takes the low half. -/
def toUnsigned (x : Double) : UInt32 :=
  let integral := x.units / 2 ^ scale
  if integral < 2 ^ 63 then UInt32.ofNat integral else 0

/-- The integral part that `modf` gives, as an `unsigned int`. -/
def seconds (x : Double) : UInt32 := toUnsigned (x.integralPart scale)

/-- The fraction that `modf` returns, times a million, as an `unsigned int`. -/
def microseconds (x : Double) : UInt32 := toUnsigned (times (x.fractionPart scale) 1000000)

-- three tenths behind a two are a little less
example : (readDouble "2.3".toList).seconds = 2 ∧
    (readDouble "2.3".toList).microseconds = 299999 := by decide +kernel

theorem toUnsigned_le (x : Double) : x.toUnsigned.toNat ≤ x.units / 2 ^ scale := by
  rw [toUnsigned]
  split
  · rw [UInt32.toNat_ofNat']
    exact Nat.mod_le _ _
  · exact Nat.zero_le _

/-- The fraction stays less than one when it is multiplied and rounded. -/
theorem microseconds_lt (x : Double) : x.microseconds.toNat < 1000000 := by
  have short := x.fractionPart_units_le scale (by decide)
  simp only [Nat.sub_sub, Nat.reduceAdd] at short
  have rounded : 2 * (times (x.fractionPart scale) 1000000).units ≤ _ :=
    Rounded.two_mul_nearest_le ((x.fractionPart scale).units * 1000000)
  have one : 2 ^ scale = 2 ^ 53 * 2 ^ (scale - 53) := by
    rw [← Nat.pow_add, Nat.add_sub_cancel' (by decide)]
  have positive : 0 < 2 ^ (scale - 53) := Nat.two_pow_pos _
  -- the product is below `2 ^ 20`, so that its step is `2 ^ -33` at most
  have step : spacing 52 ((x.fractionPart scale).units * 1000000) ≤
      2 ^ 20 * 2 ^ (scale - 53) := by
    have product : (x.fractionPart scale).units * 1000000 < 2 ^ (scale + 19 + 1) := by
      rw [Nat.pow_add, Nat.pow_add]
      omega
    refine (spacing_le product).trans_eq ?_
    rw [← Nat.pow_add]
    exact congrArg (2 ^ ·) (by decide)
  refine Nat.lt_of_le_of_lt (toUnsigned_le _) (Nat.div_lt_of_lt_mul ?_)
  omega

/-- The decimal digits of a number are finitely many. -/
def written (x : Double) : List Char :=
  Nat.toDigits 10 (x.units / 2 ^ scale) ++
    '.' :: paddedDigits scale (x.units % 2 ^ scale * 5 ^ scale)

end Double

/-- The digits of a binary fraction tell what it is. -/
theorem ofDigitChars_binary (units scale : Nat) :
    Nat.ofDigitChars 10 (Nat.toDigits 10 (units / 2 ^ scale) ++
      paddedDigits scale (units % 2 ^ scale * 5 ^ scale)) 0 * 2 ^ scale = units * 10 ^ scale := by
  have ten : 10 ^ scale = 2 ^ scale * 5 ^ scale := Nat.mul_pow 2 5 scale
  have small : units % 2 ^ scale * 5 ^ scale < 10 ^ scale := by
    rw [ten]
    exact Nat.mul_lt_mul_of_pos_right (Nat.mod_lt _ (Nat.two_pow_pos _)) (Nat.pow_pos (by decide))
  rw [Nat.ofDigitChars_append, Nat.ofDigitChars_ten_toDigits,
    Nat.ofDigitChars_eq_ofDigitChars_zero, ofDigitChars_paddedDigits small, length_paddedDigits]
  calc (10 ^ scale * (units / 2 ^ scale) + units % 2 ^ scale * 5 ^ scale) * 2 ^ scale
      = (2 ^ scale * (units / 2 ^ scale) + units % 2 ^ scale) * 10 ^ scale := by rw [ten]; ring
    _ = units * 10 ^ scale := by rw [Nat.div_add_mod]

theorem readDouble_written (x : Double) : readDouble x.written = x := by
  have digits : ∀ c ∈ Nat.toDigits 10 (x.units / 2 ^ Double.scale), c.isDigit = true := fun c mem =>
    Nat.isDigit_of_mem_toDigits (by decide) (by decide) mem
  rw [readDouble, Double.written, takeWhile_append_cons digits (by decide)]
  simp only [List.drop_length_add_append, List.drop_succ_cons, List.drop_zero,
    ofDigitChars_binary, length_paddedDigits]
  exact Rounded.nearest_units_mul (Nat.pow_pos (by decide)) x

end Pcrf
