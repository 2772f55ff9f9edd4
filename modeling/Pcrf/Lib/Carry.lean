import Mathlib.Algebra.Order.Ring.Defs
import Mathlib.Tactic.Ring
import Mathlib.Tactic.Linarith

/-!
A quantity written in two places, as a time is in seconds and parts of a second, and the carry
from the low place to the high one.
-/

namespace Lib

variable {α : Type} [CommRing α] [LinearOrder α] [IsStrictOrderedRing α]

/-- What is denoted when `base` units of the low place make one of the high place. -/
def placeValue (base : α) (places : α × α) : α := places.1 * base + places.2

/-- The low place holds less than one unit of the high one. -/
def WithinPlace (base low : α) : Prop := 0 ≤ low ∧ low < base

/-- A single carry. -/
def carryOnce (base : α) (places : α × α) : α × α :=
  if places.2 < base then places else (places.1 + 1, places.2 - base)

omit [IsStrictOrderedRing α] in
theorem placeValue_carryOnce (base : α) (places : α × α) :
    placeValue base (carryOnce base places) = placeValue base places := by
  unfold carryOnce
  split
  · rfl
  · simp only [placeValue]
    ring

omit [LinearOrder α] [IsStrictOrderedRing α] in
/-- The low place may be counted in smaller units. -/
theorem placeValue_mul (unit base high low : α) :
    placeValue (unit * base) (high, unit * low) = unit * placeValue base (high, low) := by
  simp only [placeValue]
  ring

theorem carryOnce_nonneg {base : α} {places : α × α} (low : 0 ≤ places.2) :
    0 ≤ (carryOnce base places).2 := by
  unfold carryOnce
  split
  next => exact low
  next large => exact sub_nonneg.mpr (not_lt.mp large)

/-- One carry is enough exactly below two units of the high place. -/
theorem withinPlace_carryOnce_iff {base : α} {places : α × α} (positive : 0 < base)
    (low : 0 ≤ places.2) :
    WithinPlace base (carryOnce base places).2 ↔ places.2 < 2 * base := by
  have nonneg : 0 ≤ (carryOnce base places).2 := carryOnce_nonneg low
  rw [WithinPlace, and_iff_right nonneg, carryOnce]
  split
  next small =>
    have double : places.2 < 2 * base := by linarith
    exact iff_of_true small double
  next => rw [sub_lt_iff_lt_add, two_mul]

theorem withinPlace_mul_iff {unit base low : α} (positive : 0 < unit) :
    WithinPlace (unit * base) (unit * low) ↔ WithinPlace base low := by
  rw [WithinPlace, WithinPlace, mul_nonneg_iff_of_pos_left positive,
    mul_lt_mul_iff_right₀ positive]

end Lib
