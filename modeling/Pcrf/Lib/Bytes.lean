import Mathlib.Algebra.Order.Ring.Nat
import Mathlib.Data.List.Basic

/-!
Numbers as little-endian bytes in memory. A byte is a character below 256.
-/

namespace Lib

/-- The `width` lowest bytes of `n`, the lowest first. -/
def toBytes : Nat → Nat → List Char
  | 0, _ => []
  | width + 1, n => Char.ofNat (n % 256) :: toBytes width (n / 256)

/-- The number that the bytes are. -/
def ofBytes : List Char → Nat
  | [] => 0
  | c :: bytes => c.toNat + 256 * ofBytes bytes

@[simp] theorem length_toBytes (width n : Nat) : (toBytes width n).length = width := by
  induction width generalizing n with
  | zero => rfl
  | succ width ih => simp [toBytes, ih]

theorem toNat_ofNat {n : Nat} (h : n < 256) : (Char.ofNat n).toNat = n := by
  have valid : n.isValidChar := .inl (by omega)
  rw [Char.ofNat, dif_pos valid]
  rfl

/-- Reading back what was written, when it fits. -/
theorem ofBytes_toBytes {width n : Nat} (h : n < 256 ^ width) : ofBytes (toBytes width n) = n := by
  induction width generalizing n with
  | zero =>
    rw [Nat.pow_zero] at h
    simp only [toBytes, ofBytes]
    omega
  | succ width ih =>
    have quotient : n / 256 < 256 ^ width := by
      rw [Nat.div_lt_iff_lt_mul (by decide), ← Nat.pow_succ]
      exact h
    rw [toBytes, ofBytes, ih quotient, toNat_ofNat (Nat.mod_lt _ (by decide))]
    omega

/-- The `width` bytes at `offset`, as a number; `none` when they are not all in memory. -/
def readBytes (memory : List Char) (offset width : Nat) : Option Nat :=
  if offset + width ≤ memory.length then some (ofBytes ((memory.drop offset).take width))
  else none

/-- A number written between two parts is read back at the length of the first. -/
theorem readBytes_append {before after : List Char} {width n : Nat} (h : n < 256 ^ width) :
    readBytes (before ++ toBytes width n ++ after) before.length width = some n := by
  have taken : (toBytes width n ++ after).take width = toBytes width n := by
    rw [List.take_append_of_le_length (by simp), List.take_of_length_le (by simp)]
  simp [readBytes, taken, ofBytes_toBytes h]

end Lib
