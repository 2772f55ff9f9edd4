import Pcrf.Lib.Traces

/-!
Records that several writers write together, and what is observed of the state that the record
makes. When the entries about a key all come from one writer, what is observed under the key does
not depend on how the records of the writers were merged.
-/

namespace Lib

variable {α ι σ ω : Type*}

section Observation

variable {act : α → σ → σ} {effect : α → ω → ω} {obs : σ → ω}

/-- When each entry changes the observation by what was observed before, so does the record. -/
theorem observe_replay {l : List α} (observes : ∀ a ∈ l, ∀ s, obs (act a s) = effect a (obs s))
    (s : σ) : obs (replay act s l) = replay effect (obs s) l := by
  induction l generalizing s with
  | nil => rfl
  | cons a l ih =>
    have rest := ih (fun b mem => observes b (List.mem_cons_of_mem _ mem)) (act a s)
    rw [observes a List.mem_cons_self] at rest
    exact rest

end Observation

section Writers

variable [DecidableEq ι]

/-- The entries of one writer, in a record that tells who wrote what. -/
def entriesOf (i : ι) (record : List (ι × α)) : List α :=
  (record.filter fun entry => entry.1 = i).map Prod.snd

theorem entriesOf_append (i : ι) (record more : List (ι × α)) :
    entriesOf i (record ++ more) = entriesOf i record ++ entriesOf i more := by
  simp [entriesOf]

/-- Entries that `j` adds. -/
theorem entriesOf_written (i j : ι) (added : List α) :
    entriesOf i (added.map (j, ·)) = if j = i then added else [] := by
  by_cases same : j = i
  · simp [entriesOf, same, List.filter_map, Function.comp_def]
  · simp [entriesOf, same, List.filter_map, Function.comp_def]

/-- If only `i` writes entries that `p` selects, they are among those of `i`. -/
theorem filter_entriesOf {p : α → Bool} {i : ι} {record : List (ι × α)}
    (own : ∀ entry ∈ record, p entry.2 = true → entry.1 = i) :
    (entriesOf i record).filter p = (record.map Prod.snd).filter p := by
  induction record with
  | nil => rfl
  | cons entry record ih =>
    have rest := ih fun other mem => own other (List.mem_cons_of_mem _ mem)
    simp only [entriesOf] at rest ⊢
    -- an entry of another writer is not selected, so leaving it out does no harm
    by_cases writer : entry.1 = i
    · rw [List.filter_cons_of_pos (by simpa using writer), List.map_cons, List.map_cons,
        List.filter_cons, List.filter_cons, rest]
    · have unselected : p entry.2 = false := by
        by_contra selected
        exact writer (own entry List.mem_cons_self (by simpa using selected))
      rw [List.filter_cons_of_neg (by simpa using writer), List.map_cons,
        List.filter_cons_of_neg (by simp [unselected]), rest]

end Writers

end Lib
