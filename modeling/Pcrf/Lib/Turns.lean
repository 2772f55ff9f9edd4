import Pcrf.Lib.Machine
import Pcrf.Lib.Writers

/-!
Writers that write their blocks to one record, item by item, and that may do so at the same time.
When the blocks of a key are written one after another, what is recorded of the key is a prefix of
its blocks put together, whatever the writers of other keys do meanwhile.
-/

namespace Lib

variable {κ α ω : Type}

/-- An element is replaced by one that stands in the relation wherever it did. -/
theorem pairwise_set {β : Type*} {R : β → β → Prop} {l : List β} (h : l.Pairwise R) {i : Nat}
    {a b : β} (there : l[i]? = some a) (before : ∀ x, R x a → R x b)
    (later : ∀ y, R a y → R b y) : (l.set i b).Pairwise R := by
  obtain ⟨inside, at_⟩ := List.getElem?_eq_some_iff.mp there
  rw [List.pairwise_iff_getElem] at h ⊢
  intro j k hj hk less
  rw [List.length_set] at hj hk
  have old := h j k hj hk less
  simp only [List.getElem_set]
  by_cases first : i = j
  · subst first
    rw [if_pos rfl, if_neg (Nat.ne_of_lt less)]
    exact later _ (at_ ▸ old)
  · rw [if_neg first]
    split
    next second =>
      subst second
      exact before _ (at_ ▸ old)
    next => exact old

/-- The writers with what each has still to write, the record, and the blocks begun so far. -/
structure Turns (κ α : Type) where
  writers : List (κ × List α) := []
  record : List (κ × α) := []
  begun : List (κ × List α) := []
  deriving Repr, DecidableEq

namespace Turns

/-- A writer starts with a block. -/
def start (t : Turns κ α) (key : κ) (block : List α) : Turns κ α :=
  { t with writers := t.writers ++ [(key, block)], begun := t.begun ++ [(key, block)] }

/-- What writer `i` writes next. -/
def next (t : Turns κ α) (i : Nat) : Option (κ × α) :=
  match t.writers[i]? with
  | some (key, a :: _) => some (key, a)
  | _ => none

/-- Writer `i` writes its next item. -/
def goOn (t : Turns κ α) (i : Nat) : Turns κ α :=
  match t.writers[i]? with
  | some (key, a :: rest) =>
    { t with writers := t.writers.set i (key, rest), record := t.record ++ [(key, a)] }
  | _ => t

theorem record_goOn {t : Turns κ α} {i : Nat} {key : κ} {a : α} (h : t.next i = some (key, a)) :
    (t.goOn i).record = t.record ++ [(key, a)] := by
  unfold next at h
  unfold goOn
  split at h
  · next there =>
    obtain ⟨rfl, rfl⟩ := Prod.mk.inj (Option.some.inj h)
    rfl
  · cases h

@[simp] theorem begun_goOn (t : Turns κ α) (i : Nat) : (t.goOn i).begun = t.begun := by
  unfold goOn
  split <;> rfl

/-- Of two writers of one key, one has nothing left to write. -/
def Alone (writers : List (κ × List α)) : Prop :=
  writers.Pairwise fun w later => w.1 = later.1 → w.2 = [] ∨ later.2 = []

/-- To have less left does no harm. -/
theorem Alone.less {front back : List (κ × List α)} {key : κ} {a : α} {rest : List α}
    (alone : Alone (front ++ (key, a :: rest) :: back)) :
    Alone (front ++ (key, rest) :: back) := by
  obtain ⟨before, later, first⟩ := List.pairwise_append.mp alone
  refine List.pairwise_append.mpr ⟨before, ?_, ?_⟩
  · refine List.pairwise_cons.mpr ⟨fun w mem same => ?_, List.Pairwise.of_cons later⟩
    exact .inr ((List.rel_of_pairwise_cons later mem same).resolve_left (by simp))
  · intro w mem other last
    rcases List.mem_cons.mp last with rfl | old
    · intro same
      exact .inl ((first w mem _ List.mem_cons_self same).resolve_right (by simp))
    · exact first w mem other (List.mem_cons_of_mem _ old)

section Keys

variable [DecidableEq κ]

/-- What the writers of a key have still to write. -/
def pendingOf (t : Turns κ α) (key : κ) : List α := (entriesOf key t.writers).flatten

/-- No writer of the key has anything left. -/
theorem pendingOf_eq_nil_iff {t : Turns κ α} {key : κ} :
    t.pendingOf key = [] ↔ ∀ w ∈ t.writers, w.1 = key → w.2 = [] := by
  simp only [pendingOf, List.flatten_eq_nil_iff, entriesOf, List.mem_map, List.mem_filter,
    decide_eq_true_eq, forall_exists_index, and_imp]
  constructor
  · exact fun h w mem same => h w.2 w mem same rfl
  · rintro h _ w mem same rfl
    exact h w mem same

/-- The record and what is still to be written make up the blocks. -/
structure InTurn (t : Turns κ α) : Prop where
  alone : Alone t.writers
  whole : ∀ key, entriesOf key t.record ++ t.pendingOf key = (entriesOf key t.begun).flatten

theorem InTurn.init : InTurn ({} : Turns κ α) where
  alone := List.Pairwise.nil
  whole _ := rfl

theorem InTurn.start {t : Turns κ α} (h : t.InTurn) {key : κ} (free : t.pendingOf key = [])
    (block : List α) : (t.start key block).InTurn where
  alone := by
    refine List.pairwise_append.mpr ⟨h.alone, List.pairwise_singleton .., ?_⟩
    intro w mem later last same
    obtain rfl := List.mem_singleton.mp last
    exact .inl (pendingOf_eq_nil_iff.mp free w mem same)
  whole other := by
    have before := h.whole other
    simp only [pendingOf, Turns.start, entriesOf_append, List.flatten_append] at before ⊢
    rw [← before, List.append_assoc]

/-- Beside a writer that has something left, the others of its key have nothing. -/
theorem others_done {front back : List (κ × List α)} {key : κ} {a : α} {rest : List α}
    (alone : Alone (front ++ (key, a :: rest) :: back)) :
    (entriesOf key front).flatten = [] ∧ (entriesOf key back).flatten = [] := by
  obtain ⟨-, later, first⟩ := List.pairwise_append.mp alone
  constructor
  · refine pendingOf_eq_nil_iff (t := { writers := front }).mpr fun w mem same => ?_
    exact (first w mem _ List.mem_cons_self same).resolve_right (by simp)
  · refine pendingOf_eq_nil_iff (t := { writers := back }).mpr fun w mem same => ?_
    exact (List.rel_of_pairwise_cons later mem same.symm).resolve_left (by simp)

theorem InTurn.goOn {t : Turns κ α} (h : t.InTurn) (i : Nat) : (t.goOn i).InTurn := by
  unfold Turns.goOn
  split
  · next key a rest there =>
    obtain ⟨inside, at_⟩ := List.getElem?_eq_some_iff.mp there
    -- the writers in front of it and behind it stay as they are
    have parts : t.writers = t.writers.take i ++ (key, a :: rest) :: t.writers.drop (i + 1) := by
      rw [← at_, ← List.drop_eq_getElem_cons inside, List.take_append_drop]
    have changed : t.writers.set i (key, rest) =
        t.writers.take i ++ (key, rest) :: t.writers.drop (i + 1) :=
      List.set_eq_take_append_cons_drop.trans (if_pos inside)
    have alone := h.alone
    rw [parts] at alone
    obtain ⟨frontDone, backDone⟩ := others_done alone
    constructor
    case alone => exact changed ▸ alone.less
    case whole =>
      intro other
      have before := h.whole other
      simp only [pendingOf] at before ⊢
      rw [parts, entriesOf_append] at before
      rw [changed, entriesOf_append, entriesOf_append]
      by_cases own : key = other
      · subst own
        rw [← before]
        simp only [entriesOf] at frontDone backDone ⊢
        simp [frontDone, backDone]
      · rw [← before]
        simp [entriesOf, own]
  · exact h

/-- What is recorded of a key is a part of its blocks, from their beginning on. -/
theorem InTurn.recorded {t : Turns κ α} (h : t.InTurn) (key : κ) :
    entriesOf key t.record <+: (entriesOf key t.begun).flatten :=
  ⟨_, h.whole key⟩

/-- What a writer writes next is in one of the blocks of the key. -/
theorem InTurn.mem_begun {t : Turns κ α} (h : t.InTurn) {i : Nat} {key : κ} {a : α}
    (next : t.next i = some (key, a)) : ∃ block, (key, block) ∈ t.begun ∧ a ∈ block := by
  have recorded : a ∈ entriesOf key (t.goOn i).record := by
    simp [record_goOn next, entriesOf]
  have mem := ((h.goOn i).recorded key).subset recorded
  rw [begun_goOn] at mem
  obtain ⟨block, listed, inside⟩ := List.mem_flatten.mp mem
  obtain ⟨⟨own, block⟩, found, rfl⟩ := List.mem_map.mp listed
  obtain ⟨found, same⟩ := List.mem_filter.mp found
  exact ⟨block, of_decide_eq_true same ▸ found, inside⟩

/-- When nothing is left to be written, all of it is recorded. -/
theorem InTurn.complete {t : Turns κ α} (h : t.InTurn) {key : κ} (free : t.pendingOf key = []) :
    entriesOf key t.record = (entriesOf key t.begun).flatten := by
  rw [← h.whole key, free, List.append_nil]

end Keys

end Turns

/-! ### Blocks that are applied -/

/-- The invariant holds before the items, after each of them and between them. -/
def HoldsAlong (effect : α → ω → ω) (I : ω → Prop) : ω → List α → Prop
  | w, [] => I w
  | w, a :: items => I w ∧ HoldsAlong effect I (effect a w) items

section Along

variable {effect : α → ω → ω} {I : ω → Prop}

theorem HoldsAlong.start {w : ω} {items : List α} (h : HoldsAlong effect I w items) : I w := by
  cases items with
  | nil => exact h
  | cons a items => exact h.1

theorem holdsAlong_append {w : ω} {items more : List α} :
    HoldsAlong effect I w (items ++ more) ↔
      HoldsAlong effect I w items ∧ HoldsAlong effect I (replay effect w items) more := by
  induction items generalizing w with
  | nil => exact ⟨fun h => ⟨h.start, h⟩, fun h => h.2⟩
  | cons a items ih =>
    rw [List.cons_append, HoldsAlong, HoldsAlong, ih, and_assoc]
    rfl

/-- It holds after any part of the items. -/
theorem HoldsAlong.of_initial {w : ω} {items part : List α} (h : HoldsAlong effect I w items)
    (before : part <+: items) : I (replay effect w part) := by
  obtain ⟨more, rfl⟩ := before
  exact (holdsAlong_append.mp h).2.start

/-- An invariant that holds along each block holds along all of them. -/
theorem holdsAlong_flatten {blocks : List (List α)}
    (along : ∀ block ∈ blocks, ∀ w, I w → HoldsAlong effect I w block) {w : ω} (start : I w) :
    HoldsAlong effect I w blocks.flatten := by
  induction blocks generalizing w with
  | nil => exact start
  | cons block blocks ih =>
    have own := along block List.mem_cons_self w start
    rw [List.flatten_cons, holdsAlong_append]
    exact ⟨own, ih (fun other mem => along other (List.mem_cons_of_mem _ mem))
      (own.of_initial List.prefix_rfl)⟩

end Along

/-- Blocks that do what one step each does. -/
theorem replay_flatten {β : Type} {effect : α → ω → ω} {step : ω → β → ω} {items : β → List α}
    {steps : List β} (does : ∀ b ∈ steps, ∀ w, replay effect w (items b) = step w b) (w : ω) :
    replay effect w (steps.map items).flatten = steps.foldl step w := by
  induction steps generalizing w with
  | nil => rfl
  | cons b steps ih =>
    rw [List.map_cons, List.flatten_cons, replay, List.foldl_append, List.foldl_cons]
    have own := does b List.mem_cons_self w
    rw [replay] at own
    rw [own]
    exact ih (fun other mem => does other (List.mem_cons_of_mem _ mem)) (step w b)

end Lib
