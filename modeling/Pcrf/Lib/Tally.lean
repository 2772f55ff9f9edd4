import Mathlib.Algebra.Order.Ring.Nat
import Mathlib.Data.List.Basic
import Mathlib.Data.List.Perm.Subperm

/-!
Weights summed over a list, and how the sum changes when one entry does. Counts of the members
of a group that are in some state are sums of weights 0 and 1.
-/

namespace Lib

variable {α : Type*}

/-- The sum of the weights of the entries. -/
def tally (weight : α → Nat) (l : List α) : Nat := (l.map weight).sum

@[simp] theorem tally_nil (weight : α → Nat) : tally weight [] = 0 := rfl

@[simp] theorem tally_cons (weight : α → Nat) (x : α) (l : List α) :
    tally weight (x :: l) = weight x + tally weight l := by
  simp [tally]

theorem tally_replicate (weight : α → Nat) (n : Nat) (x : α) :
    tally weight (List.replicate n x) = n * weight x := by
  simp [tally]

theorem tally_append (weight : α → Nat) (l more : List α) :
    tally weight (l ++ more) = tally weight l + tally weight more := by
  simp [tally]

/-- What one entry gives up and takes on is what the sum does. -/
theorem tally_set (weight : α → Nat) {l : List α} {i : Nat} {x : α} (h : l[i]? = some x) (y : α) :
    tally weight (l.set i y) + weight x = tally weight l + weight y := by
  induction l generalizing i with
  | nil => simp at h
  | cons z l ih =>
    cases i with
    | zero =>
      simp only [List.getElem?_cons_zero, Option.some.injEq] at h
      simp only [List.set_cons_zero, tally_cons, h]
      omega
    | succ i =>
      simp only [List.getElem?_cons_succ] at h
      simp only [List.set_cons_succ, tally_cons]
      have := ih h
      omega

/-- The same for the entries from `q` on. -/
theorem tally_drop_set (weight : α → Nat) {l : List α} {i : Nat} {x : α} (h : l[i]? = some x)
    (y : α) (q : Nat) :
    tally weight ((l.set i y).drop q) + (if q ≤ i then weight x else 0) =
      tally weight (l.drop q) + (if q ≤ i then weight y else 0) := by
  rw [List.drop_set]
  by_cases inside : q ≤ i
  · have there : (l.drop q)[i - q]? = some x := by
      rw [List.getElem?_drop, Nat.add_sub_cancel' inside, h]
    simpa [inside, Nat.not_lt.mpr inside] using tally_set weight there y
  · simp [inside, Nat.not_le.mp inside]

theorem tally_le_of_mem {weight more : α → Nat} {l : List α} (h : ∀ x ∈ l, weight x ≤ more x) :
    tally weight l ≤ tally more l := by
  induction l with
  | nil => exact Nat.le_refl _
  | cons x l ih =>
    have head := h x List.mem_cons_self
    have rest := ih fun y mem => h y (List.mem_cons_of_mem _ mem)
    simp only [tally_cons]
    omega

theorem tally_mono {weight more : α → Nat} (h : ∀ x, weight x ≤ more x) {l : List α} :
    tally weight l ≤ tally more l :=
  tally_le_of_mem fun x _ => h x

theorem tally_congr {weight other : α → Nat} {l : List α} (h : ∀ x ∈ l, weight x = other x) :
    tally weight l = tally other l :=
  Nat.le_antisymm (tally_le_of_mem fun x mem => (h x mem).le)
    (tally_le_of_mem fun x mem => (h x mem).ge)

theorem le_tally (weight : α → Nat) {l : List α} {x : α} (h : x ∈ l) :
    weight x ≤ tally weight l := by
  induction l with
  | nil => simp at h
  | cons y l ih =>
    rw [tally_cons]
    rcases List.mem_cons.mp h with rfl | mem
    · omega
    · have := ih mem
      omega

/-- A positive sum has a positive summand. -/
theorem exists_of_tally_pos {weight : α → Nat} {l : List α} (h : 0 < tally weight l) :
    ∃ x ∈ l, 0 < weight x := by
  induction l with
  | nil => simp at h
  | cons x l ih =>
    by_cases hx : 0 < weight x
    · exact ⟨x, List.mem_cons_self, hx⟩
    · obtain ⟨y, mem, hy⟩ := ih (by rw [tally_cons] at h; omega)
      exact ⟨y, List.mem_cons_of_mem _ mem, hy⟩

/-- Two different entries weigh no more than all together. -/
theorem add_le_tally (weight : α → Nat) {l : List α} {i j : Nat} {x y : α}
    (hi : l[i]? = some x) (hj : l[j]? = some y) (ne : i ≠ j) :
    weight x + weight y ≤ tally weight l := by
  -- one of the two stands at the head, or both in the rest
  induction l generalizing i j with
  | nil => simp at hi
  | cons z l ih =>
    rw [tally_cons]
    cases i with
    | zero =>
      cases j with
      | zero => exact absurd rfl ne
      | succ j =>
        simp only [List.getElem?_cons_zero, Option.some.injEq, List.getElem?_cons_succ] at hi hj
        have := le_tally weight (List.mem_of_getElem? hj)
        rw [hi]
        omega
    | succ i =>
      cases j with
      | zero =>
        simp only [List.getElem?_cons_zero, Option.some.injEq, List.getElem?_cons_succ] at hi hj
        have := le_tally weight (List.mem_of_getElem? hi)
        rw [hj]
        omega
      | succ j =>
        have := ih hi hj fun h => ne (by rw [h])
        omega

/-- Lists of one entry at most that contain every number below `n` are at least `n`. -/
theorem le_length_of_covers {f : α → List Nat} {l : List α} {n : Nat}
    (covers : ∀ k < n, ∃ x ∈ l, k ∈ f x) (short : ∀ x ∈ l, (f x).length ≤ 1) : n ≤ l.length := by
  have inside : List.range n ⊆ l.flatMap f := by
    intro k mem
    exact List.mem_flatMap.mpr (covers k (List.mem_range.mp mem))
  have bound : (l.flatMap f).length ≤ l.length := by
    rw [List.length_flatMap]
    have counts : tally (fun x => (f x).length) l ≤ tally (fun _ => 1) l := tally_le_of_mem short
    simpa [tally] using counts
  simpa using (List.nodup_range.subperm inside).length_le.trans bound

end Lib
