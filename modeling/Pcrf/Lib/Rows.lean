import Mathlib.Data.List.Basic
import Pcrf.Lib.LastWrite

/-!
Tables as lists of rows. An update changes the rows that it chooses; the lemmas say what is
selected of the table after it.
-/

namespace Lib

variable {α : Type*} {selected chosen : α → Bool} {change : α → α}

/-- `update … set change where chosen` -/
def updateRows (chosen : α → Bool) (change : α → α) (rows : List α) : List α :=
  rows.map fun row => if chosen row then change row else row

/-- Rows that the update takes out of the selection. -/
theorem filter_updateRows_gone (gone : ∀ row, chosen row = true → selected (change row) = false)
    (rows : List α) :
    (updateRows chosen change rows).filter selected =
      rows.filter fun row => selected row && !chosen row := by
  induction rows with
  | nil => rfl
  | cons row rows ih =>
    simp only [updateRows, List.map_cons] at ih ⊢
    cases hchosen : chosen row with
    | true =>
      rw [if_pos rfl, List.filter_cons_of_neg (by simp [gone row hchosen]), ih,
        List.filter_cons_of_neg (by simp [hchosen])]
    | false =>
      rw [if_neg (by simp), List.filter_cons, List.filter_cons, ih, hchosen, Bool.not_false,
        Bool.and_true]

/-- An update of rows that are not selected, and are not selected afterwards. -/
theorem filter_updateRows_other (gone : ∀ row, chosen row = true → selected (change row) = false)
    (other : ∀ row, selected row = true → chosen row = false) (rows : List α) :
    (updateRows chosen change rows).filter selected = rows.filter selected := by
  rw [filter_updateRows_gone gone]
  refine List.filter_congr fun row _ => ?_
  cases h : selected row with
  | true => rw [other row h, Bool.not_false, Bool.and_true]
  | false => rfl

/-- An update that leaves the selection as it is. -/
theorem filter_updateRows_kept
    (kept : ∀ row, chosen row = true → selected (change row) = selected row) (rows : List α) :
    (updateRows chosen change rows).filter selected =
      updateRows chosen change (rows.filter selected) := by
  rw [updateRows, List.filter_map]
  congr 1
  refine List.filter_congr fun row _ => ?_
  cases h : chosen row with
  | true => rw [Function.comp_apply, h, if_pos rfl, kept row h]
  | false => rw [Function.comp_apply, h, if_neg (by simp)]

/-- An update that chooses no row. -/
theorem updateRows_of_none {rows : List α} (none : ∀ row ∈ rows, chosen row = false) :
    updateRows chosen change rows = rows := by
  refine (List.map_congr_left fun row mem => ?_).trans (List.map_id _)
  rw [none row mem]
  rfl

/-- An update that chooses every row. -/
theorem updateRows_of_all {rows : List α} (all : ∀ row ∈ rows, chosen row = true) :
    updateRows chosen change rows = rows.map change :=
  List.map_congr_left fun row mem => by rw [all row mem, if_pos rfl]

/-! ### Rows that are appended, and written all at once -/

section PushOrSet

variable {ι : Type*}

/-- An item appends a row, or writes what all rows say, or does neither. -/
def pushOrSet (pushes sets : ι → Option α) (rows : List α) (item : ι) : List α :=
  match pushes item, sets item with
  | some row, _ => rows ++ [row]
  | none, some row => rows.map fun _ => row
  | none, none => rows

variable {pushes sets : ι → Option α}

/-- There is one row for each item that appends one. -/
theorem length_foldl_pushOrSet (pushes sets : ι → Option α) (items : List ι) :
    (items.foldl (pushOrSet pushes sets) []).length = (items.filterMap pushes).length := by
  induction items using List.reverseRecOn with
  | nil => rfl
  | append_singleton items item ih =>
    rw [List.foldl_append, List.filterMap_append, List.length_append, ← ih, List.foldl_cons,
      List.foldl_nil]
    generalize items.foldl (pushOrSet pushes sets) [] = rows
    cases push : pushes item <;> cases set : sets item <;> simp [pushOrSet, push, set]

/-- A row says what was written last after it was appended. -/
theorem getElem?_foldl_pushOrSet {before after : List ι} {item : ι} {row : α}
    (pushed : pushes item = some row)
    (apart : ∀ later ∈ after, (pushes later).isSome → sets later = none) :
    ((before ++ item :: after).foldl (pushOrSet pushes sets) [])[
        (before.filterMap pushes).length]? = some ((lastWrite sets after).getD row) := by
  induction after using List.reverseRecOn with
  | nil =>
    rw [List.foldl_append, List.foldl_cons, List.foldl_nil, pushOrSet, pushed]
    have length := length_foldl_pushOrSet pushes sets before
    rw [List.getElem?_append_right (Nat.le_of_eq length), length, Nat.sub_self]
    rfl
  | append_singleton after later ih =>
    have ih := ih fun other mem => apart other (List.mem_append_left _ mem)
    have last := apart later (List.mem_append_right _ (List.mem_singleton_self _))
    rw [← List.cons_append, ← List.append_assoc, List.foldl_append, lastWrite_snoc,
      List.foldl_cons, List.foldl_nil]
    generalize (before ++ item :: after).foldl (pushOrSet pushes sets) [] = rows at ih
    cases push : pushes later with
    | some other =>
      -- a row that is appended later leaves this one where it is
      have inside := (List.getElem?_eq_some_iff.mp ih).1
      rw [pushOrSet, push, last (by rw [push]; rfl), Option.none_or,
        List.getElem?_append_left inside, ih]
    | none =>
      cases set : sets later with
      | some written => rw [pushOrSet, push, set, List.getElem?_map, ih]; rfl
      | none => rw [pushOrSet, push, set, Option.none_or, ih]

end PushOrSet

end Lib
