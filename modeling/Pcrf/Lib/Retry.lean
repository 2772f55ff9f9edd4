import Mathlib.Data.List.Basic

/-!
Operations that an exception can end, and that are repeated when the connection comes back.
What an attempt has done before it failed stays done: undoing it is up to the attempt itself.
While an operation is being made others can see a part of its state, the view, change.
-/

namespace Lib

/-- An exception: its code, and whether the connection was restored after it. -/
structure Failure where
  code : Int
  restored : Bool
  deriving Repr, DecidableEq

/-- One attempt: the state it leaves, and the exception that ended it. -/
def Attempt (σ : Type*) := σ → σ × Option Failure

namespace Attempt

variable {σ α : Type*}

/-- End with the exception, if there is one. -/
def throwing (failure : Option Failure) : Attempt σ := fun s => (s, failure)

/-- Go on only when the first part has not failed. -/
def andThen (first second : Attempt σ) : Attempt σ := fun s =>
  match first s with
  | (s', none) => second s'
  | (s', some failure) => (s', some failure)

/-- A step for each item, up to the first failure. -/
def forEach (step : α → Attempt σ) : List α → Attempt σ
  | [] => throwing none
  | item :: items => (step item).andThen (forEach step items)

/-- Make attempts from the `k`-th on, repeating at most `budget` times. -/
def repeatFrom (attempts : Nat → Attempt σ) : (budget k : Nat) → Attempt σ
  | 0, k => attempts k
  | budget + 1, k => fun s =>
    match attempts k s with
    | (s', none) => (s', none)
    | (s', some failure) =>
      -- the next attempt starts from what this one has left behind
      if failure.restored then repeatFrom attempts budget (k + 1) s' else (s', some failure)

/-- The attempt, repeated once if the connection came back. -/
def repeatOnce (attempts : Nat → Attempt σ) : Attempt σ := repeatFrom attempts 1 0

/-- The code of the exception that was not overcome, 0 when there is none. -/
def code (outcome : σ × Option Failure) : Int :=
  match outcome.2 with
  | none => 0
  | some failure => failure.code

theorem andThen_of_none {first second : Attempt σ} {s s' : σ} (h : first s = (s', none)) :
    first.andThen second s = second s' := by
  simp only [andThen, h]

/-- The second attempt decides when the connection came back after the first. -/
theorem repeatOnce_eq (attempts : Nat → Attempt σ) (s : σ) :
    repeatOnce attempts s =
      if (attempts 0 s).2.any (·.restored) then attempts 1 (attempts 0 s).1
      else attempts 0 s := by
  simp only [repeatOnce, repeatFrom]
  split
  next s' h => simp [h]
  next s' failure h =>
    cases hr : failure.restored with
    | true => simp [h, hr]
    | false => simp [h, hr]

/-- What every attempt keeps is kept, however often the attempt is made. -/
theorem repeatOnce_keeps {attempts : Nat → Attempt σ} {P : σ → Prop}
    (h : ∀ k s, P s → P (attempts k s).1) {s : σ} (start : P s) :
    P (repeatOnce attempts s).1 := by
  rw [repeatOnce_eq]
  split
  · exact h 1 _ (h 0 s start)
  · exact h 0 s start

/-- A part of the state that each attempt treats like another operation. -/
theorem repeatOnce_part {τ : Type*} {attempts : Nat → Attempt σ} {others : Nat → Attempt τ}
    {part : σ → τ}
    (h : ∀ k s, others k (part s) = (part (attempts k s).1, (attempts k s).2)) (s : σ) :
    repeatOnce others (part s) =
      (part (repeatOnce attempts s).1, (repeatOnce attempts s).2) := by
  rw [repeatOnce_eq, repeatOnce_eq, h]
  split
  · exact h 1 _
  · rfl

/-- Steps that never fail are a fold. -/
theorem forEach_of_none {step : α → Attempt σ} {next : σ → α → σ}
    (h : ∀ item s, step item s = (next s item, none)) (items : List α) (s : σ) :
    forEach step items s = (items.foldl next s, none) := by
  induction items generalizing s with
  | nil => rfl
  | cons item items ih =>
    rw [forEach, andThen_of_none (h item s), ih]
    rfl

/-! ### Attempts that append what they read -/

section

variable {β : Type*}

/-- Reads that fail after some rows, the connection coming back, and then reach the end. -/
def failingAfter (rows : List α) (n : Nat) (code : Int) : Nat → List α × Option Failure
  | 0 => (rows.take n, some ⟨code, true⟩)
  | _ + 1 => (rows, none)

/-- Reads that meet no failure. -/
def reading (rows : List α) : Nat → List α × Option Failure := fun _ => (rows, none)

/-- Reads whose first attempt may fail after some rows, and what that attempt has read. -/
def readingAgain (rows : List α) : Option (Nat × Int) → Nat → List α × Option Failure
  | none => reading rows
  | some (n, code) => failingAfter rows n code

def leftBehind (rows : List α) : Option (Nat × Int) → List α
  | none => []
  | some (n, _) => rows.take n

/-- Append what the rows that an attempt reads give to a list. -/
def appendRows (items : α → List β) (reads : Nat → List α × Option Failure) (k : Nat) :
    Attempt (List β) :=
  fun list => (list ++ (reads k).1.flatMap items, (reads k).2)

theorem appendRows_reading (items : α → List β) (rows : List α) (list : List β) :
    repeatOnce (appendRows items (reading rows)) list = (list ++ rows.flatMap items, none) := by
  rw [repeatOnce_eq]
  rfl

/-- What was appended before the failure stays in front of what the repetition appends. -/
theorem appendRows_failingAfter (items : α → List β) (rows : List α) (n : Nat) (code : Int)
    (list : List β) :
    repeatOnce (appendRows items (failingAfter rows n code)) list =
      (list ++ (rows.take n).flatMap items ++ rows.flatMap items, none) := by
  rw [repeatOnce_eq]
  rfl

theorem appendRows_readingAgain (items : α → List β) (rows : List α) (failed : Option (Nat × Int))
    (list : List β) :
    repeatOnce (appendRows items (readingAgain rows failed)) list =
      (list ++ (leftBehind rows failed).flatMap items ++ rows.flatMap items, none) := by
  cases failed with
  | none =>
    rw [leftBehind, List.flatMap_nil, List.append_nil]
    exact appendRows_reading items rows list
  | some failed => exact appendRows_failingAfter items rows failed.1 failed.2 list

/-- The failure is not seen in the list when nothing had been appended. -/
theorem appendRows_once_iff (items : α → List β) (rows : List α) (n : Nat) (code : Int)
    (list : List β) :
    (repeatOnce (appendRows items (failingAfter rows n code)) list).1 =
        (repeatOnce (appendRows items (reading rows)) list).1 ↔
      ∀ row ∈ rows.take n, items row = [] := by
  rw [appendRows_failingAfter, appendRows_reading, ← List.flatMap_eq_nil_iff]
  constructor
  · intro h
    have lengths := congrArg List.length h
    simp only [List.length_append] at lengths
    exact List.eq_nil_of_length_eq_zero (by omega)
  · intro h
    rw [h, List.append_nil]

end

/-! ### Views of an attempt that is being made -/

/-- The views in the course of the steps, when `seen` has those in the course of one. -/
def forEachSeen {β : Type*} (step : α → Attempt σ) (seen : α → σ → List β) :
    List α → σ → List β
  | [], _ => []
  | item :: items, s =>
    seen item s ++
      match step item s with
      | (s', none) => forEachSeen step seen items s'
      | (_, some _) => []

/-- The views in the course of an attempt that is repeated once. -/
def repeatOnceSeen {β : Type*} (attempts : Nat → Attempt σ) (seen : Nat → σ → List β) (s : σ) :
    List β :=
  seen 0 s ++ if (attempts 0 s).2.any (·.restored) then seen 1 (attempts 0 s).1 else []

/-- The last view is that of the state which the attempt leaves. -/
def Shows {β : Type*} (view : σ → β) (seen : σ → List β) (attempt : Attempt σ) : Prop :=
  ∀ s, (seen s).getLastD (view s) = view (attempt s).1

section

variable {β : Type*} {view : σ → β} {P : β → Prop}

theorem getLastD_append (first second : List β) (b : β) :
    (first ++ second).getLastD b = second.getLastD (first.getLastD b) := by
  cases second with
  | nil => simp
  | cons c second => simp [List.getLast?_append]

theorem Shows.forEach {step : α → Attempt σ} {seen : α → σ → List β}
    (h : ∀ item, Shows view (seen item) (step item)) (items : List α) :
    Shows view (forEachSeen step seen items) (forEach step items) := by
  induction items with
  | nil => exact fun s => rfl
  | cons item items ih =>
    intro s
    have hitem := h item s
    simp only [forEachSeen, Attempt.forEach, andThen, getLastD_append, hitem]
    split
    next s' hstep => simpa only [hstep] using ih s'
    next hstep => simp [hstep]

theorem Shows.repeatOnce {attempts : Nat → Attempt σ} {seen : Nat → σ → List β}
    (h : ∀ k, Shows view (seen k) (attempts k)) :
    Shows view (repeatOnceSeen attempts seen) (repeatOnce attempts) := by
  intro s
  rw [repeatOnceSeen, getLastD_append, repeatOnce_eq, h 0 s]
  split
  · exact h 1 _
  · rfl

/-- What holds of every view holds of the last one. -/
theorem Shows.last {seen : σ → List β} {attempt : Attempt σ} (h : Shows view seen attempt)
    {s : σ} (start : P (view s)) (all : ∀ b ∈ seen s, P b) : P (view (attempt s).1) := by
  rw [← h s]
  have hlast : (seen s).getLastD (view s) ∈ view s :: seen s := List.getLastD_mem_cons
  rcases List.mem_cons.mp hlast with hlast | hlast
  · rw [hlast]
    exact start
  · exact all _ hlast

theorem forall_forEachSeen {step : α → Attempt σ} {seen : α → σ → List β}
    (h : ∀ item, Shows view (seen item) (step item))
    (keeps : ∀ item s, P (view s) → ∀ b ∈ seen item s, P b) {items : List α} {s : σ}
    (start : P (view s)) : ∀ b ∈ forEachSeen step seen items s, P b := by
  induction items generalizing s with
  | nil => exact fun b hb => absurd hb List.not_mem_nil
  | cons item items ih =>
    intro b hb
    rcases List.mem_append.mp hb with hb | hb
    · exact keeps item s start b hb
    · -- the steps that follow begin with the last view of this one
      have hnext := (h item).last start (keeps item s start)
      revert hb
      split
      next s' hstep =>
        rw [hstep] at hnext
        exact ih hnext b
      next => exact fun hb => absurd hb List.not_mem_nil

theorem forall_repeatOnceSeen {attempts : Nat → Attempt σ} {seen : Nat → σ → List β}
    (h : ∀ k, Shows view (seen k) (attempts k))
    (keeps : ∀ k s, P (view s) → ∀ b ∈ seen k s, P b) {s : σ} (start : P (view s)) :
    ∀ b ∈ repeatOnceSeen attempts seen s, P b := by
  intro b hb
  rcases List.mem_append.mp hb with hb | hb
  · exact keeps 0 s start b hb
  · revert hb
    split
    next => exact keeps 1 _ ((h 0).last start (keeps 0 s start)) b
    next => exact fun hb => absurd hb List.not_mem_nil

end

end Attempt

end Lib
