import Mathlib.Data.List.Sort

/-!
Ordered multimaps: entries sorted by key, entries with equal keys in the order they came.
-/

namespace Lib

/-- The entries of an ordered multimap; that they are sorted is part of the type. -/
structure Multimap (κ ν : Type*) [LinearOrder κ] where
  entries : List (κ × ν)
  sorted : entries.Pairwise (fun a b => a.1 ≤ b.1)

namespace Multimap

variable {κ ν : Type*} [LinearOrder κ]

def empty : Multimap κ ν := ⟨[], .nil⟩

/-- Put an entry behind all entries whose key is not greater. -/
def insertEntry (k : κ) (v : ν) : List (κ × ν) → List (κ × ν)
  | [] => [(k, v)]
  | e :: l => if e.1 ≤ k then e :: insertEntry k v l else (k, v) :: e :: l

theorem insertEntry_perm (k : κ) (v : ν) (l : List (κ × ν)) :
    List.Perm (insertEntry k v l) ((k, v) :: l) := by
  induction l with
  | nil => exact .refl _
  | cons e l ih =>
    unfold insertEntry
    split
    · exact (ih.cons e).trans (.swap ..)
    · exact .refl _

theorem insertEntry_sorted (k : κ) (v : ν) {l : List (κ × ν)}
    (h : l.Pairwise (fun a b => a.1 ≤ b.1)) :
    (insertEntry k v l).Pairwise (fun a b => a.1 ≤ b.1) := by
  induction l with
  | nil => exact List.pairwise_singleton ..
  | cons e l ih =>
    rw [List.pairwise_cons] at h
    unfold insertEntry
    split
    next hle =>
      -- the new entry goes somewhere behind `e`, whose key is not greater
      refine List.pairwise_cons.mpr ⟨fun x hx => ?_, ih h.2⟩
      rcases List.mem_cons.mp ((insertEntry_perm k v l).mem_iff.mp hx) with rfl | hx
      · exact hle
      · exact h.1 x hx
    next hlt =>
      have hke : k ≤ e.1 := (not_le.mp hlt).le
      refine List.pairwise_cons.mpr ⟨fun x hx => ?_, List.pairwise_cons.mpr h⟩
      rcases List.mem_cons.mp hx with rfl | hx
      · exact hke
      · exact hke.trans (h.1 x hx)

def insert (m : Multimap κ ν) (k : κ) (v : ν) : Multimap κ ν :=
  ⟨insertEntry k v m.entries, insertEntry_sorted k v m.sorted⟩

/-- The entries in front of `upper_bound(k)`. -/
def upTo (m : Multimap κ ν) (k : κ) : List (κ × ν) := m.entries.takeWhile (·.1 ≤ k)

/-- What is left when the entries in front of `upper_bound(k)` are erased. -/
def eraseUpTo (m : Multimap κ ν) (k : κ) : Multimap κ ν :=
  ⟨m.entries.dropWhile (·.1 ≤ k), m.sorted.sublist (List.dropWhile_sublist _)⟩

@[simp] theorem entries_empty : (empty : Multimap κ ν).entries = [] := rfl

theorem entries_insert_perm (m : Multimap κ ν) (k : κ) (v : ν) :
    List.Perm (m.insert k v).entries ((k, v) :: m.entries) :=
  insertEntry_perm k v m.entries

/-- In a sorted list the front with keys up to `k` is all of them. -/
theorem upTo_eq_filter (m : Multimap κ ν) (k : κ) :
    m.upTo k = m.entries.filter (·.1 ≤ k) := by
  obtain ⟨l, h⟩ := m
  unfold upTo
  induction l with
  | nil => rfl
  | cons e l ih =>
    rw [List.pairwise_cons] at h
    by_cases he : e.1 ≤ k
    · simp only [List.takeWhile_cons, List.filter_cons, he, decide_true, if_true]
      rw [ih h.2]
    · -- the first key that is too great ends the front, and all later keys are greater still
      have hl : l.filter (·.1 ≤ k) = [] :=
        List.filter_eq_nil_iff.mpr fun x hx => by
          have hgt := lt_of_lt_of_le (not_le.mp he) (h.1 x hx)
          simpa using hgt
      simp [he, hl]

theorem eraseUpTo_eq_filter (m : Multimap κ ν) (k : κ) :
    (m.eraseUpTo k).entries = m.entries.filter (k < ·.1) := by
  have hrest : (m.eraseUpTo k).entries.filter (k < ·.1) = (m.eraseUpTo k).entries := by
    obtain ⟨l, h⟩ := m
    unfold eraseUpTo
    induction l with
    | nil => rfl
    | cons e l ih =>
      rw [List.pairwise_cons] at h
      by_cases he : e.1 ≤ k
      · simpa [he] using ih h.2
      · -- the first key that is too great, and all keys behind it
        have hall : ∀ x ∈ e :: l, k < x.1 := by
          rintro x (_ | ⟨_, hx⟩)
          · exact not_le.mp he
          · exact lt_of_lt_of_le (not_le.mp he) (h.1 x hx)
        simpa [he] using hall
  have hsplit : m.upTo k ++ (m.eraseUpTo k).entries = m.entries :=
    List.takeWhile_append_dropWhile
  have hfront : (m.upTo k).filter (k < ·.1) = [] := by
    refine List.filter_eq_nil_iff.mpr fun e he => ?_
    rw [upTo_eq_filter] at he
    simpa using (List.mem_filter.mp he).2
  rw [← hsplit, List.filter_append, hfront, List.nil_append, hrest]

end Multimap

end Lib
