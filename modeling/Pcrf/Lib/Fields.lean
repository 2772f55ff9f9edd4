import Mathlib.Data.List.Basic

/-!
Lists of fields written with a separator, between them or behind each of them, and read back by
splitting.
-/

namespace Lib

variable {α : Type*}

/-- Nothing but the separators comes to the fields. -/
theorem mem_intercalate_iff {sep x : α} (hx : x ≠ sep) (fields : List (List α)) :
    x ∈ [sep].intercalate fields ↔ ∃ field ∈ fields, x ∈ field := by
  induction fields with
  | nil => simp
  | cons field fields ih =>
    cases fields with
    | nil => simp
    | cons next rest =>
      rw [List.intercalate_cons_cons, List.append_assoc, List.mem_append, List.mem_append, ih,
        List.mem_singleton, or_iff_right hx]
      exact (List.exists_mem_cons_iff (x ∈ ·) field _).symm

variable [BEq α] [LawfulBEq α] {sep : α}

/-- No piece has the separator. -/
theorem notMem_of_mem_splitOn {text piece : List α} (h : piece ∈ text.splitOn sep) :
    sep ∉ piece := by
  induction text generalizing piece with
  | nil =>
    rw [List.splitOn_nil, List.mem_singleton] at h
    rw [h]
    exact List.not_mem_nil
  | cons x text ih =>
    rw [List.splitOn_cons_eq_if_modifyHead] at h
    obtain ⟨first, rest, hsplit⟩ := List.exists_cons_of_ne_nil (List.splitOn_ne_nil sep text)
    rw [hsplit] at h ih
    -- a separator begins a piece, anything else goes to the first one
    split at h
    next hx =>
      rcases List.mem_cons.mp h with rfl | h
      · exact List.not_mem_nil
      · exact ih h
    next hx =>
      rw [List.modifyHead_cons] at h
      rcases List.mem_cons.mp h with rfl | h
      · have hne : x ≠ sep := by simpa using hx
        rw [List.mem_cons, not_or]
        exact ⟨hne.symm, ih (.head _)⟩
      · exact ih (.tail _ h)

/-- Lines that are ended one by one leave nothing behind the last end. -/
theorem splitOn_lines {lines : List (List α)} (h : ∀ line ∈ lines, sep ∉ line) :
    (lines.flatMap fun line => line ++ [sep]).splitOn sep = lines ++ [[]] := by
  induction lines with
  | nil => rw [List.flatMap_nil, List.splitOn_nil, List.nil_append]
  | cons line lines ih =>
    obtain ⟨hline, hlines⟩ := List.forall_mem_cons.mp h
    rw [List.flatMap_cons, List.append_assoc, List.singleton_append,
      List.splitOn_append_cons_self_of_not_mem hline, ih hlines, List.cons_append]

end Lib
