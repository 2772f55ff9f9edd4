import Mathlib.Algebra.Order.Ring.Nat
import Mathlib.Data.Nat.Log

/-!
Numbers of a given count of binary digits, with zeros behind them: the nearest one to a quotient,
the even one of two, and the parts before and behind the binary point. A number is counted in
units of the least step.
-/

namespace Lib

/-! ### The step -/

section Spacing

variable {fraction : Nat}

/-- The step from a number to the next one, with so many digits behind the first. -/
def spacing (fraction n : Nat) : Nat := 2 ^ (n.log2 - fraction)

theorem spacing_pos (n : Nat) : 0 < spacing fraction n := Nat.two_pow_pos _

theorem spacing_dvd_spacing {m n : Nat} (h : m ≤ n) :
    spacing fraction m ∣ spacing fraction n := by
  have hlog : m.log2 ≤ n.log2 := by
    rw [Nat.log2_eq_log_two, Nat.log2_eq_log_two]
    exact Nat.log_mono_right h
  exact Nat.pow_dvd_pow 2 (Nat.sub_le_sub_right hlog fraction)

theorem spacing_le {n e : Nat} (h : n < 2 ^ (e + 1)) : spacing fraction n ≤ 2 ^ (e - fraction) := by
  refine Nat.pow_le_pow_right (by decide) (Nat.sub_le_sub_right ?_ fraction)
  rcases Nat.eq_zero_or_pos n with rfl | hn
  · exact Nat.zero_le e
  · exact Nat.lt_succ_iff.mp ((Nat.log2_lt hn.ne').mpr h)

/-- All digits fit before the step. -/
theorem lt_mul_spacing (n : Nat) : n < 2 ^ (fraction + 1) * spacing fraction n := by
  rw [spacing, ← Nat.pow_add]
  calc n < 2 ^ (n.log2 + 1) := Nat.lt_log2_self
    _ ≤ 2 ^ (fraction + 1 + (n.log2 - fraction)) := Nat.pow_le_pow_right (by decide) (by omega)

/-- A number with so many digits before its zeros is a multiple of its step. -/
theorem spacing_dvd_mul {m e : Nat} (h : m ≤ 2 ^ (fraction + 1)) :
    spacing fraction (m * 2 ^ e) ∣ m * 2 ^ e := by
  rcases Nat.lt_or_eq_of_le h with hlt | rfl
  · rcases Nat.eq_zero_or_pos m with rfl | hm
    · simp
    have hlog : (m * 2 ^ e).log2 < fraction + 1 + e := by
      refine (Nat.log2_lt (Nat.mul_pos hm (Nat.two_pow_pos e)).ne').mpr ?_
      rw [Nat.pow_add]
      exact Nat.mul_lt_mul_of_pos_right hlt (Nat.two_pow_pos e)
    exact Nat.dvd_mul_left_of_dvd (Nat.pow_dvd_pow 2 (by omega)) m
  · rw [← Nat.pow_add, spacing, Nat.log2_two_pow]
    exact Nat.pow_dvd_pow 2 (by omega)

end Spacing

/-! ### Quotients -/

/-- The nearest number to a quotient, the even one of two. -/
def divEven (p q : Nat) : Nat :=
  if 2 * (p % q) < q ∨ 2 * (p % q) = q ∧ p / q % 2 = 0 then p / q else p / q + 1

theorem divEven_le (p q : Nat) : divEven p q ≤ p / q + 1 := by
  unfold divEven
  split <;> omega

theorem two_mul_divEven_mul_le (p q : Nat) : 2 * (divEven p q * q) ≤ 2 * p + q := by
  have hdiv : q * (p / q) + p % q = p := Nat.div_add_mod p q
  unfold divEven
  split
  · rw [Nat.mul_comm (p / q)]
    omega
  · rw [Nat.add_mul, Nat.one_mul, Nat.mul_comm (p / q)]
    omega

theorem divEven_mul {q : Nat} (hq : 0 < q) (m : Nat) : divEven (m * q) q = m := by
  simp [divEven, hq]

/-! ### Rounded numbers -/

/-- A number that is a multiple of its step. -/
@[ext]
structure Rounded (fraction : Nat) where
  units : Nat
  exact : spacing fraction units ∣ units
  deriving DecidableEq

namespace Rounded

variable {fraction : Nat}

theorem exact_of_le {m n : Nat} (hle : m ≤ n) (hdvd : spacing fraction n ∣ m) :
    spacing fraction m ∣ m :=
  Nat.dvd_trans (spacing_dvd_spacing hle) hdvd

/-- The nearest number to a quotient. -/
def nearest (p q : Nat) : Rounded fraction where
  units := divEven p (q * spacing fraction (p / q)) * spacing fraction (p / q)
  exact := by
    -- rounding up may add a digit, but then all digits behind the first are zeros
    refine spacing_dvd_mul ((divEven_le _ _).trans ?_)
    rw [← Nat.div_div_eq_div_mul]
    exact Nat.div_lt_of_lt_mul ((lt_mul_spacing _).trans_eq (Nat.mul_comm _ _))

/-- It is at most half a step too large. -/
theorem two_mul_nearest_le (p : Nat) :
    2 * (nearest p 1 : Rounded fraction).units ≤ 2 * p + spacing fraction p := by
  have h := two_mul_divEven_mul_le p (1 * spacing fraction (p / 1))
  simpa only [nearest, Nat.one_mul, Nat.div_one] using h

/-- What is a rounded number stays it. -/
theorem nearest_units_mul {q : Nat} (hq : 0 < q) (x : Rounded fraction) :
    nearest (x.units * q) q = x := by
  obtain ⟨m, hm⟩ := x.exact
  have hstep : 0 < q * spacing fraction x.units := Nat.mul_pos hq (spacing_pos x.units)
  have hquotient : x.units * q = m * (q * spacing fraction x.units) := by
    rw [Nat.mul_left_comm, Nat.mul_comm m, ← hm, Nat.mul_comm]
  refine Rounded.ext ?_
  simp only [nearest, Nat.mul_div_left x.units hq]
  rw [hquotient, divEven_mul hstep, Nat.mul_comm m]
  exact hm.symm

/-! ### Parts -/

section Parts

variable (scale : Nat) (x : Rounded fraction)

theorem spacing_dvd_mod : spacing fraction x.units ∣ x.units % 2 ^ scale := by
  rcases Nat.le_total (x.units.log2 - fraction) scale with hle | hle
  · exact (Nat.dvd_mod_iff (Nat.pow_dvd_pow 2 hle)).mpr x.exact
  · have hzero : x.units % 2 ^ scale = 0 :=
      Nat.mod_eq_zero_of_dvd (Nat.dvd_trans (Nat.pow_dvd_pow 2 hle) x.exact)
    rw [hzero]
    exact Nat.dvd_zero _

/-- The part before the point, where `2 ^ scale` units are one. -/
def integralPart : Rounded fraction where
  units := x.units - x.units % 2 ^ scale
  exact := exact_of_le (Nat.sub_le _ _) (Nat.dvd_sub x.exact (spacing_dvd_mod scale x))

/-- The part behind the point. -/
def fractionPart : Rounded fraction where
  units := x.units % 2 ^ scale
  exact := exact_of_le (Nat.mod_le _ _) (spacing_dvd_mod scale x)

/-- The part behind the point is short of one by a step at least. -/
theorem fractionPart_units_le (hscale : fraction < scale) :
    (x.fractionPart scale).units + 2 ^ (scale - 1 - fraction) ≤ 2 ^ scale := by
  have hlt : (x.fractionPart scale).units < 2 ^ scale := Nat.mod_lt _ (Nat.two_pow_pos _)
  have hexact := (x.fractionPart scale).exact
  generalize (x.fractionPart scale).units = units at hlt hexact
  by_cases hhalf : units < 2 ^ (scale - 1)
  · -- below one half there is room for half a unit
    have hdouble : 2 ^ scale = 2 ^ (scale - 1) + 2 ^ (scale - 1) := by
      rw [← Nat.two_pow_succ, Nat.sub_add_cancel (by omega)]
    have hstep : 2 ^ (scale - 1 - fraction) ≤ 2 ^ (scale - 1) :=
      Nat.pow_le_pow_right (by decide) (Nat.sub_le _ _)
    omega
  · -- from there on the number and one are both multiples of the step
    have hle := Nat.not_lt.mp hhalf
    have hpos : 0 < 2 ^ (scale - 1) := Nat.two_pow_pos _
    have hlog : scale - 1 ≤ units.log2 := (Nat.le_log2 (by omega)).mpr hle
    obtain ⟨a, ha⟩ : 2 ^ (scale - 1 - fraction) ∣ units :=
      Nat.dvd_trans (Nat.pow_dvd_pow 2 (Nat.sub_le_sub_right hlog fraction)) hexact
    obtain ⟨b, hb⟩ : 2 ^ (scale - 1 - fraction) ∣ 2 ^ scale := Nat.pow_dvd_pow 2 (by omega)
    rw [ha, hb] at hlt ⊢
    rw [← Nat.mul_succ]
    exact Nat.mul_le_mul_left _ (Nat.lt_of_mul_lt_mul_left hlt)

end Parts

end Rounded

end Lib
