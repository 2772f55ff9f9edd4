import Mathlib.Data.List.Basic
import Mathlib.Logic.Function.Basic

/-!
Blocks of memory that are allocated and freed, and variables each of which owns a block of its own.
-/

namespace Lib

/-- What was allocated, one block after another; nothing is left in a block that was freed. -/
structure Blocks (α : Type) where
  contents : List (Option α) := []

variable {α κ : Type}

namespace Blocks

/-- Where the next block will be. -/
def next (blocks : Blocks α) : Nat := blocks.contents.length

def malloc (blocks : Blocks α) (value : α) : Blocks α := ⟨blocks.contents ++ [some value]⟩

def read (blocks : Blocks α) (p : Nat) : Option α := (blocks.contents[p]?).join

/-- Nothing happens with a null pointer. None when the block is not allocated any more. -/
def free (blocks : Blocks α) : Option Nat → Option (Blocks α)
  | none => some blocks
  | some p => if (blocks.read p).isSome then some ⟨blocks.contents.set p none⟩ else none

variable {blocks : Blocks α} {value : α} {p : Nat}

theorem lt_next_of_read (h : blocks.read p = some value) : p < blocks.next := by
  rw [read, Option.join_eq_some_iff] at h
  exact (List.getElem?_eq_some_iff.mp h).1

theorem read_next : blocks.read blocks.next = none := by
  simp [read, next]

theorem read_malloc_next : (blocks.malloc value).read blocks.next = some value := by
  simp [read, malloc, next]

/-- The blocks that are there stay as they are. -/
theorem read_malloc {old : α} (h : blocks.read p = some old) :
    (blocks.malloc value).read p = some old := by
  rw [read, malloc, List.getElem?_append_left (lt_next_of_read h)]
  exact h

theorem of_read_malloc {content : α} (h : (blocks.malloc value).read p = some content) :
    content = value ∨ blocks.read p = some content := by
  rcases Nat.lt_trichotomy p blocks.next with less | rfl | more
  · rw [read, malloc, List.getElem?_append_left less] at h
    exact .inr h
  · rw [read_malloc_next] at h
    exact .inl (Option.some.inj h).symm
  · have beyond : (blocks.malloc value).next ≤ p := by
      simp only [next, malloc, List.length_append, List.length_singleton] at more ⊢
      exact more
    rw [read, List.getElem?_eq_none beyond] at h
    cases h

theorem free_of_read {old : α} (h : blocks.read p = some old) :
    blocks.free (some p) = some ⟨blocks.contents.set p none⟩ := by
  simp [free, h]

theorem free_of_read_none (h : blocks.read p = none) : blocks.free (some p) = none := by
  simp [free, h]

/-- What is read after a block was freed. -/
theorem read_of_free {freed : Option Nat} {blocks' : Blocks α}
    (h : blocks.free freed = some blocks') :
    blocks'.read p = if freed = some p then none else blocks.read p := by
  cases freed with
  | none =>
    obtain rfl := Option.some.inj h
    rfl
  | some q =>
    rw [free] at h
    split at h
    next =>
      obtain rfl := Option.some.inj h
      simp only [read, List.getElem?_set, Option.some.injEq]
      split
      next same =>
        subst same
        split <;> rfl
      next => rfl
    next => cases h

theorem next_of_free {freed : Option Nat} {blocks' : Blocks α}
    (h : blocks.free freed = some blocks') : blocks'.next = blocks.next := by
  cases freed with
  | none =>
    obtain rfl := Option.some.inj h
    rfl
  | some q =>
    rw [free] at h
    split at h
    next =>
      obtain rfl := Option.some.inj h
      exact List.length_set
    next => cases h

/-- A block that was freed. -/
structure Gone (blocks : Blocks α) (p : Nat) : Prop where
  was : p < blocks.next
  gone : blocks.read p = none

/-- It does not come back. -/
theorem Gone.malloc (h : blocks.Gone p) (value : α) : (blocks.malloc value).Gone p := by
  constructor
  · rw [next, Blocks.malloc, List.length_append]
    exact Nat.lt_add_right _ h.was
  · rw [read, Blocks.malloc, List.getElem?_append_left h.was]
    exact h.gone

theorem Gone.free {freed : Option Nat} {blocks' : Blocks α} (h : blocks.Gone p)
    (free_ : blocks.free freed = some blocks') : blocks'.Gone p := by
  constructor
  · rw [next_of_free free_]
    exact h.was
  · rw [read_of_free free_, h.gone, ite_self]

theorem gone_of_free {blocks' : Blocks α} (free_ : blocks.free (some p) = some blocks') :
    blocks'.Gone p := by
  constructor
  · rw [next_of_free free_]
    cases read : blocks.read p with
    | none =>
      rw [free_of_read_none read] at free_
      cases free_
    | some value => exact lt_next_of_read read
  · rw [read_of_free free_, if_pos rfl]

end Blocks

/-! ### Owners -/

/-- Every variable that points to a block has one that is allocated, for itself. -/
structure Owned (pointer : κ → Option Nat) (blocks : Blocks α) : Prop where
  live : ∀ {k p}, pointer k = some p → ∃ value, blocks.read p = some value
  own : ∀ {k k' p}, pointer k = some p → pointer k' = some p → k = k'

/-- What a variable points to. -/
def held (pointer : κ → Option Nat) (blocks : Blocks α) (k : κ) : Option α :=
  (pointer k).bind blocks.read

/-- One more variable that points to a block. -/
def besides (p : Nat) (pointer : κ → Option Nat) : Option κ → Option Nat
  | none => some p
  | some k => pointer k

theorem besides_none (p : Nat) (pointer : κ → Option Nat) : besides p pointer none = some p := rfl

theorem besides_some (p : Nat) (pointer : κ → Option Nat) (k : κ) :
    besides p pointer (some k) = pointer k := rfl

namespace Owned

variable {pointer : κ → Option Nat} {blocks : Blocks α}

theorem ne_next (owned : Owned pointer blocks) (k : κ) : pointer k ≠ some blocks.next := by
  intro same
  obtain ⟨value, read⟩ := owned.live same
  rw [Blocks.read_next] at read
  cases read

theorem held_eq_none_iff (owned : Owned pointer blocks) {k : κ} :
    held pointer blocks k = none ↔ pointer k = none := by
  cases points : pointer k with
  | none => simp [held, points]
  | some p =>
    obtain ⟨value, read⟩ := owned.live points
    simp [held, points, read]

/-- A new block has an owner besides those that are there. -/
theorem acquire (owned : Owned pointer blocks) (value : α) :
    Owned (besides blocks.next pointer) (blocks.malloc value) ∧
      held pointer (blocks.malloc value) = held pointer blocks := by
  refine ⟨⟨fun {k p} points => ?_, fun {k₁ k₂ p} points points' => ?_⟩, funext fun k => ?_⟩
  · cases k with
    | none => exact ⟨value, Option.some.inj points ▸ Blocks.read_malloc_next⟩
    | some k =>
      obtain ⟨old, read⟩ := owned.live points
      exact ⟨old, Blocks.read_malloc read⟩
  · cases k₁ with
    | none =>
      cases k₂ with
      | none => rfl
      | some k₂ => exact absurd (Eq.trans points' points.symm) (owned.ne_next k₂)
    | some k₁ =>
      cases k₂ with
      | none => exact absurd (Eq.trans points points'.symm) (owned.ne_next k₁)
      | some k₂ => exact congrArg some (owned.own points points')
  · cases points : pointer k with
    | none => simp [held, points]
    | some p =>
      obtain ⟨old, read⟩ := owned.live points
      simp only [held, points, Option.bind_some, read, Blocks.read_malloc read]

theorem of_besides {p : Nat} (owned : Owned (besides p pointer) blocks) :
    Owned pointer blocks := by
  constructor
  · intro k q points
    exact owned.live ((besides_some p pointer k).trans points)
  · intro k k' q points points'
    exact Option.some.inj (owned.own ((besides_some p pointer k).trans points)
      ((besides_some p pointer k').trans points'))

/-- Its block is freed, and the others stay. -/
theorem release {p : Nat} (owned : Owned (besides p pointer) blocks) :
    ∃ blocks', blocks.free (some p) = some blocks' ∧ Owned pointer blocks' ∧
      held pointer blocks' = held pointer blocks := by
  obtain ⟨value, read⟩ := owned.live (besides_none p pointer)
  have freed := Blocks.free_of_read read
  have kept {k : κ} {q : Nat} (points : pointer k = some q) :
      Blocks.read ⟨blocks.contents.set p none⟩ q = blocks.read q := by
    rw [Blocks.read_of_free freed, if_neg]
    rintro same
    cases owned.own ((besides_none p pointer).trans same)
      ((besides_some p pointer k).trans points)
  refine ⟨_, freed, ⟨fun points => ?_, owned.of_besides.own⟩, funext fun k => ?_⟩
  · obtain ⟨old, read⟩ := owned.of_besides.live points
    exact ⟨old, (kept points).trans read⟩
  · cases points : pointer k with
    | none => simp [held, points]
    | some q => simp only [held, points, Option.bind_some, kept points]

/-- A block that is used for a while only. -/
theorem discard (owned : Owned pointer blocks) (value : α) :
    ∃ blocks', (blocks.malloc value).free (some blocks.next) = some blocks' ∧
      Owned pointer blocks' ∧ held pointer blocks' = held pointer blocks := by
  obtain ⟨acquired, same⟩ := owned.acquire value
  obtain ⟨blocks', freed, released, same'⟩ := acquired.release
  exact ⟨blocks', freed, released, same'.trans same⟩

/-- A variable gets a new block; its old one is freed, or is lost when nothing is freed. -/
theorem replace [DecidableEq κ] (owned : Owned pointer blocks) (k : κ) (value : α)
    {freed : Option Nat} (old : freed = pointer k ∨ freed = none) :
    ∃ blocks', (blocks.malloc value).free freed = some blocks' ∧
      Owned (Function.update pointer k (some blocks.next)) blocks' ∧
      held (Function.update pointer k (some blocks.next)) blocks' =
        Function.update (held pointer blocks) k (some value) := by
  obtain ⟨blocks', free_⟩ : ∃ blocks', (blocks.malloc value).free freed = some blocks' := by
    cases freed with
    | none => exact ⟨_, rfl⟩
    | some p =>
      obtain ⟨before, read⟩ := owned.live (old.resolve_right (Option.some_ne_none p)).symm
      exact ⟨_, Blocks.free_of_read (Blocks.read_malloc read)⟩
  have new : blocks'.read blocks.next = some value := by
    rw [Blocks.read_of_free free_, if_neg, Blocks.read_malloc_next]
    rintro rfl
    exact owned.ne_next k (old.resolve_right (Option.some_ne_none _)).symm
  -- no other variable points to what is freed
  have kept {k' : κ} {p : Nat} (other : k' ≠ k) (points : pointer k' = some p) :
      blocks'.read p = blocks.read p := by
    obtain ⟨before, read⟩ := owned.live points
    rw [Blocks.read_of_free free_, if_neg, Blocks.read_malloc read, read]
    rintro rfl
    exact other (owned.own points (old.resolve_right (Option.some_ne_none _)).symm)
  refine ⟨blocks', free_, ⟨fun {k' p} points => ?_, fun {k₁ k₂ p} points points' => ?_⟩, ?_⟩
  · by_cases same : k' = k
    · subst same
      rw [Function.update_self] at points
      exact ⟨value, Option.some.inj points ▸ new⟩
    · rw [Function.update_of_ne same] at points
      obtain ⟨before, read⟩ := owned.live points
      exact ⟨before, (kept same points).trans read⟩
  · by_cases same : k₁ = k <;> by_cases same' : k₂ = k
    · exact same.trans same'.symm
    · subst same
      rw [Function.update_self] at points
      rw [Function.update_of_ne same'] at points'
      exact absurd (points'.trans points.symm) (owned.ne_next k₂)
    · subst same'
      rw [Function.update_self] at points'
      rw [Function.update_of_ne same] at points
      exact absurd (points.trans points'.symm) (owned.ne_next k₁)
    · rw [Function.update_of_ne same] at points
      rw [Function.update_of_ne same'] at points'
      exact owned.own points points'
  · funext k'
    by_cases same : k' = k
    · subst same
      simp only [held, Function.update_self, Option.bind_some, new]
    · rw [Function.update_of_ne same]
      simp only [held, Function.update_of_ne same]
      cases points : pointer k' with
      | none => rfl
      | some p => exact kept same points

end Owned

end Lib
