import Mathlib.Data.String.Basic

/-!
Numbers in decimal notation: the text tells the number, it has digits only, and the last digit is
the remainder of a division by ten.
-/

namespace Lib

/-- Some digits, and nothing else. -/
def IsDecimal (text : String) : Prop := text ≠ "" ∧ ∀ c ∈ text.toList, c.isDigit = true

instance (text : String) : Decidable (IsDecimal text) :=
  inferInstanceAs (Decidable (_ ∧ _))

theorem toString_inj {m n : Nat} : toString m = toString n ↔ m = n := by
  constructor
  · intro h
    have digits := congrArg (fun text : String => Nat.ofDigitChars 10 text.toList 0) h
    simpa [Nat.toString_eq_ofList_toDigits] using digits
  · intro h
    rw [h]

theorem isDecimal_toString (n : Nat) : IsDecimal (toString n) := by
  rw [Nat.toString_eq_ofList_toDigits]
  constructor
  · intro h
    exact Nat.toDigits_ne_nil (String.ofList_eq_empty_iff.mp h)
  · intro c hc
    rw [String.toList_ofList] at hc
    exact Nat.isDigit_of_mem_toDigits (by decide) (by decide) hc

theorem dash_notMem_toString (n : Nat) : '-' ∉ (toString n).toList := by
  intro hmem
  exact absurd ((isDecimal_toString n).2 _ hmem) (by decide)

theorem toList_toString_of_lt {d : Nat} (h : d < 10) :
    (toString d).toList = [Nat.digitChar d] := by
  rw [Nat.toString_eq_ofList_toDigits, String.toList_ofList, Nat.toDigits_of_lt_base h]

theorem digitChar_inj {d d' : Nat} (h : d < 10) (h' : d' < 10) :
    Nat.digitChar d = Nat.digitChar d' ↔ d = d' := by
  have all : ∀ d < 10, ∀ d' < 10, Nat.digitChar d = Nat.digitChar d' ↔ d = d' := by decide
  exact all d h d' h'

/-- The last digit comes off the end. -/
theorem toString_of_le {n : Nat} (h : 10 ≤ n) :
    toString n = toString (n / 10) ++ toString (n % 10) := by
  simp only [Nat.toString_eq_ofList_toDigits, ← String.ofList_append]
  rw [Nat.toDigits_of_base_le (by decide) h, Nat.toDigits_of_lt_base (Nat.mod_lt n (by decide))]

/-- A number that is not zero does not begin with a zero. -/
theorem head?_toDigits {n : Nat} (h : 0 < n) : (Nat.toDigits 10 n).head? ≠ some '0' := by
  induction n using Nat.strong_induction_on with
  | _ n ih =>
    by_cases one : n < 10
    · have all : ∀ d < 10, 0 < d → Nat.digitChar d ≠ '0' := by decide
      rw [Nat.toDigits_of_lt_base one, List.head?_cons]
      exact fun same => all n one h (Option.some.inj same)
    · have more : 10 ≤ n := Nat.not_lt.mp one
      rw [Nat.toDigits_of_base_le (by decide) more,
        List.head?_append_of_ne_nil _ Nat.toDigits_ne_nil]
      exact ih (n / 10) (Nat.div_lt_self h (by decide)) (Nat.div_pos more (by decide))

/-- All digits of a number but the last one. -/
def frontDigits (n : Nat) : String := if n < 10 then "" else toString (n / 10)

theorem toString_eq_front (n : Nat) : toString n = frontDigits n ++ toString (n % 10) := by
  unfold frontDigits
  split
  next h => rw [Nat.mod_eq_of_lt h, String.empty_append]
  next h => exact toString_of_le (Nat.not_lt.mp h)

theorem frontDigits_eq_iff {m n : Nat} : frontDigits m = frontDigits n ↔ m / 10 = n / 10 := by
  constructor
  · intro h
    unfold frontDigits at h
    split at h <;> split at h
    · omega
    · exact absurd h.symm (isDecimal_toString _).1
    · exact absurd h (isDecimal_toString _).1
    · exact toString_inj.mp h
  · intro h
    have hlt : m < 10 ↔ n < 10 := by omega
    simp only [frontDigits, hlt, h]

theorem dash_notMem_frontDigits (n : Nat) : '-' ∉ (frontDigits n).toList := by
  unfold frontDigits
  split
  · exact List.not_mem_nil
  · exact dash_notMem_toString _

theorem length_toString_le {n k : Nat} (hk : 0 < k) (h : n < 10 ^ k) :
    (toString n).length ≤ k := by
  rw [Nat.toString_eq_ofList_toDigits, String.length_ofList]
  exact (Nat.length_toDigits_le_iff (by decide) hk).mpr h

/-- A separator tells where the part before it ends. -/
theorem append_cons_inj {α : Type*} {c : α} {xs ys zs ws : List α} (hx : c ∉ xs) (hy : c ∉ ys) :
    xs ++ c :: zs = ys ++ c :: ws ↔ xs = ys ∧ zs = ws := by
  induction xs generalizing ys with
  | nil =>
    cases ys with
    | nil => simp
    | cons y ys =>
      have hne : c ≠ y := fun h => hy (h ▸ List.mem_cons_self)
      simp [hne]
  | cons x xs ih =>
    obtain ⟨hne, hx⟩ := not_or.mp (List.mem_cons.not.mp hx)
    cases ys with
    | nil => simp [Ne.symm hne]
    | cons y ys =>
      obtain ⟨-, hy⟩ := not_or.mp (List.mem_cons.not.mp hy)
      simp only [List.cons_append, List.cons.injEq, ih hx hy, and_assoc]

end Lib
