import Mathlib.Data.List.Basic

/-!
Lists of items that are parsed one after another from the front of the tokens, where an item is
known by the tokens that it is written with.
-/

namespace Lib

variable {τ σ : Type}

/-- So many items at the most, and what is left. -/
def itemsUpTo (item : List τ → Option (σ × List τ)) : Nat → List τ → List σ × List τ
  | 0, tokens => ([], tokens)
  | fuel + 1, tokens =>
    match item tokens with
    | none => ([], tokens)
    | some (first, rest) =>
      let (more, rest) := itemsUpTo item fuel rest
      (first :: more, rest)

/-- The items at the front of the tokens, and what is left where no other one begins. -/
def items (item : List τ → Option (σ × List τ)) (tokens : List τ) : List σ × List τ :=
  itemsUpTo item tokens.length tokens

/-- An item is parsed just where it is written, and is not written with nothing. -/
structure Parses (item : List τ → Option (σ × List τ)) (written : σ → List τ) : Prop where
  item_iff : ∀ {tokens first rest},
    item tokens = some (first, rest) ↔ tokens = written first ++ rest
  nonempty : ∀ first, written first ≠ []

variable {item : List τ → Option (σ × List τ)} {written : σ → List τ}

namespace Parses

theorem item_written (parses : Parses item written) (first : σ) (rest : List τ) :
    item (written first ++ rest) = some (first, rest) :=
  parses.item_iff.mpr rfl

/-- An item takes tokens away. -/
theorem length_lt (parses : Parses item written) {tokens rest : List τ} {first : σ}
    (h : item tokens = some (first, rest)) : rest.length < tokens.length := by
  rw [parses.item_iff.mp h, List.length_append]
  exact Nat.lt_add_of_pos_left (List.length_pos_iff.mpr (parses.nonempty first))

theorem item_nil (parses : Parses item written) : item [] = none := by
  cases h : item [] with
  | none => rfl
  | some parsed => exact absurd (parses.length_lt h) (Nat.not_lt_zero _)

theorem itemsUpTo_written (parses : Parses item written) (list : List σ) {fuel : Nat}
    {rest : List τ} (enough : (list.flatMap written ++ rest).length ≤ fuel)
    (ends : item rest = none) :
    itemsUpTo item fuel (list.flatMap written ++ rest) = (list, rest) := by
  induction list generalizing fuel with
  | nil => cases fuel <;> simp [itemsUpTo, ends]
  | cons first list ih =>
    have split_ : (first :: list).flatMap written ++ rest =
        written first ++ (list.flatMap written ++ rest) := by
      rw [List.flatMap_cons, List.append_assoc]
    have shorter := parses.length_lt (parses.item_written first (list.flatMap written ++ rest))
    rw [split_] at enough ⊢
    cases fuel with
    | zero => omega
    | succ fuel =>
      rw [itemsUpTo, parses.item_written]
      simp only [ih (Nat.le_of_lt_succ (Nat.lt_of_lt_of_le shorter enough))]

theorem of_itemsUpTo (parses : Parses item written) {fuel : Nat} {tokens rest : List τ}
    {list : List σ} (enough : tokens.length ≤ fuel)
    (h : itemsUpTo item fuel tokens = (list, rest)) :
    tokens = list.flatMap written ++ rest ∧ item rest = none := by
  induction fuel generalizing tokens list with
  | zero =>
    obtain rfl := List.length_eq_zero_iff.mp (Nat.le_zero.mp enough)
    obtain ⟨rfl, rfl⟩ := Prod.mk.inj h
    exact ⟨rfl, parses.item_nil⟩
  | succ fuel ih =>
    rw [itemsUpTo] at h
    cases found : item tokens with
    | none =>
      rw [found] at h
      obtain ⟨rfl, rfl⟩ := Prod.mk.inj h
      exact ⟨rfl, found⟩
    | some parsed =>
      obtain ⟨first, behind⟩ := parsed
      rw [found] at h
      have shorter := parses.length_lt found
      obtain ⟨rfl, rfl⟩ := Prod.mk.inj h
      obtain ⟨rest_, ends⟩ := ih (by omega) (rfl : itemsUpTo item fuel behind = (_, _))
      refine ⟨?_, ends⟩
      rw [List.flatMap_cons, List.append_assoc, ← rest_]
      exact parses.item_iff.mp found

/-- The items are those that are written, one after another, as far as one begins. -/
theorem items_iff (parses : Parses item written) {tokens rest : List τ} {list : List σ} :
    items item tokens = (list, rest) ↔
      tokens = list.flatMap written ++ rest ∧ item rest = none := by
  constructor
  · exact parses.of_itemsUpTo (Nat.le_refl _)
  · rintro ⟨rfl, ends⟩
    exact parses.itemsUpTo_written list (Nat.le_refl _) ends

end Parses

end Lib
