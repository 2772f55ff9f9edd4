import Mathlib.Data.List.Basic

/-!
Bringing a list of things that are held to a list of things that are wanted: what is removed,
what is added and what is held afterwards. Both lists may name a thing several times.
-/

namespace Lib.Reconcile

variable {α : Type*} [DecidableEq α]

/-- What is held and not wanted. -/
def removed (held wanted : List α) : List α := held.filter (· ∉ wanted)

/-- What is wanted and not held. -/
def added (held wanted : List α) : List α := wanted.filter (· ∉ held)

/-- What is held after the removal and the addition. -/
def outcome (held wanted : List α) : List α :=
  held.filter (· ∉ removed held wanted) ++ added held wanted

@[simp] theorem mem_removed {held wanted : List α} {x : α} :
    x ∈ removed held wanted ↔ x ∈ held ∧ x ∉ wanted := by
  simp [removed]

@[simp] theorem mem_added {held wanted : List α} {x : α} :
    x ∈ added held wanted ↔ x ∈ wanted ∧ x ∉ held := by
  simp [added]

/-- Afterwards exactly the wanted things are held. -/
theorem mem_outcome {held wanted : List α} {x : α} :
    x ∈ outcome held wanted ↔ x ∈ wanted := by
  simp only [outcome, List.mem_append, List.mem_filter, mem_removed, mem_added, decide_eq_true_eq]
  constructor
  · rintro (⟨hheld, hkept⟩ | ⟨hwanted, -⟩)
    · -- a held thing that is not removed must be wanted
      exact not_not.mp fun hno => hkept ⟨hheld, hno⟩
    · exact hwanted
  · intro hwanted
    by_cases hheld : x ∈ held
    · exact .inl ⟨hheld, fun hremoved => hremoved.2 hwanted⟩
    · exact .inr ⟨hwanted, hheld⟩

theorem removed_eq_nil {held wanted : List α} : removed held wanted = [] ↔ held ⊆ wanted := by
  simp [removed, List.filter_eq_nil_iff, List.subset_def]

theorem added_eq_nil {held wanted : List α} : added held wanted = [] ↔ wanted ⊆ held := by
  simp [added, List.filter_eq_nil_iff, List.subset_def]

/-- There is something to do exactly when the two lists differ as sets. -/
theorem changes_iff {held wanted : List α} :
    (removed held wanted ≠ [] ∨ added held wanted ≠ []) ↔
      ¬ ∀ x, x ∈ held ↔ x ∈ wanted := by
  rw [Ne, Ne, removed_eq_nil, added_eq_nil, ← not_and_or, not_iff_not]
  exact ⟨fun h x => ⟨fun hx => h.1 hx, fun hx => h.2 hx⟩,
    fun h => ⟨fun x hx => (h x).mp hx, fun x hx => (h x).mpr hx⟩⟩

end Lib.Reconcile
