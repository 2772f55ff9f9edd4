import Mathlib.Data.List.Induction

/-!
The last write wins: what a run of items leaves of a value that some of them write.
-/

namespace Lib

variable {α β σ : Type*}

/-- The last value that the items write, if one of them writes. -/
def lastWrite (writes : α → Option β) (items : List α) : Option β :=
  items.foldl (fun last item => (writes item).or last) none

section

variable {writes : α → Option β}

@[simp] theorem lastWrite_nil : lastWrite writes [] = none := rfl

theorem lastWrite_snoc (items : List α) (item : α) :
    lastWrite writes (items ++ [item]) = (writes item).or (lastWrite writes items) :=
  List.foldl_append ..

/-- What every step leaves or switches on or off is as it was switched last. -/
theorem foldl_iff_lastWrite {step : σ → α → σ} {switches : α → Option Bool} (view : σ → Prop)
    (h : ∀ s item,
      view (step s item) ↔ switches item = some true ∨ switches item = none ∧ view s)
    (s : σ) (items : List α) :
    view (items.foldl step s) ↔
      lastWrite switches items = some true ∨ lastWrite switches items = none ∧ view s := by
  -- on the last item, since it decides
  induction items using List.reverseRecOn with
  | nil => simp
  | append_singleton items item ih =>
    rw [List.foldl_append, List.foldl_cons, List.foldl_nil, h, ih, lastWrite_snoc]
    cases switches item <;> simp

theorem lastWrite_eq_none_iff {items : List α} :
    lastWrite writes items = none ↔ ∀ item ∈ items, writes item = none := by
  induction items using List.reverseRecOn with
  | nil => simp
  | append_singleton items item ih =>
    rw [lastWrite_snoc, Option.or_eq_none_iff, ih]
    simp only [List.mem_append, List.mem_singleton, or_imp, forall_and, forall_eq, and_comm]

theorem lastWrite_eq_some_iff {items : List α} {b : β} :
    lastWrite writes items = some b ↔
      ∃ front item rest, items = front ++ item :: rest ∧ writes item = some b ∧
        ∀ later ∈ rest, writes later = none := by
  induction items using List.reverseRecOn with
  | nil => simp
  | append_singleton items last ih =>
    rw [lastWrite_snoc]
    constructor
    · intro h
      cases hlast : writes last with
      | some c =>
        rw [hlast, Option.some_or] at h
        exact ⟨items, last, [], rfl, hlast.trans h, by simp⟩
      | none =>
        rw [hlast, Option.none_or] at h
        obtain ⟨front, item, rest, rfl, hitem, hrest⟩ := ih.mp h
        refine ⟨front, item, rest ++ [last], by simp, hitem, ?_⟩
        simp only [List.mem_append, List.mem_singleton]
        rintro later (hlater | rfl)
        · exact hrest later hlater
        · exact hlast
    · rintro ⟨front, item, rest, heq, hitem, hrest⟩
      cases rest using List.reverseRecOn with
      | nil =>
        obtain ⟨-, rfl⟩ := List.append_inj' heq rfl |>.imp id List.singleton_inj.mp
        rw [hitem, Option.some_or]
      | append_singleton rest later =>
        have split : items ++ [last] = (front ++ item :: rest) ++ [later] := by simpa using heq
        obtain ⟨rfl, hlater⟩ := List.append_inj' split rfl
        obtain rfl := List.singleton_inj.mp hlater
        rw [hrest last (by simp), Option.none_or]
        exact ih.mpr ⟨front, item, rest, rfl, hitem, fun l hl => hrest l (by simp [hl])⟩

theorem mem_of_lastWrite {items : List α} {b : β} (h : lastWrite writes items = some b) :
    ∃ item ∈ items, writes item = some b := by
  obtain ⟨front, item, rest, rfl, hitem, -⟩ := lastWrite_eq_some_iff.mp h
  exact ⟨item, by simp, hitem⟩

/-- What the later items write counts, unless they write nothing. -/
theorem lastWrite_append (items later : List α) :
    lastWrite writes (items ++ later) = (lastWrite writes later).or (lastWrite writes items) := by
  induction later using List.reverseRecOn with
  | nil => simp
  | append_singleton later item ih =>
    rw [← List.append_assoc, lastWrite_snoc, lastWrite_snoc, ih, Option.or_assoc]

theorem lastWrite_map {γ : Type*} (f : β → γ) (items : List α) :
    lastWrite (fun item => (writes item).map f) items = (lastWrite writes items).map f := by
  induction items using List.reverseRecOn with
  | nil => rfl
  | append_singleton items item ih =>
    rw [lastWrite_snoc, lastWrite_snoc, ih]
    cases writes item <;> rfl

end

end Lib
