import Pcrf.Lib.Retry

/-!
Reading the rows of a query one after another. An exception can come when the query is opened,
before any of its rows and when it is closed; what was stored before it stays stored. A flag
that is looked at before each row can end the reading early, without an exception.
-/

namespace Lib

/-- The exceptions that a query meets. Each carries a code other than 0. -/
structure StreamFaults where
  opening : Option Failure := none
  reading : Nat → Option Failure := fun _ => none
  closing : Option Failure := none
  openingCoded : ∀ failure ∈ opening, failure.code ≠ 0 := by simp
  readingCoded : ∀ k, ∀ failure ∈ reading k, failure.code ≠ 0 := by simp
  closingCoded : ∀ failure ∈ closing, failure.code ≠ 0 := by simp

namespace StreamFaults

/-- No exception comes. -/
def none : StreamFaults := {}

/-- The query cannot be opened. -/
def atOpening (failure : Failure) (coded : failure.code ≠ 0) : StreamFaults where
  opening := some failure
  openingCoded := by simpa using coded

variable {α σ : Type*}

/-- Store the rows from place `k` on while the flag allows it. -/
def readFrom (faults : StreamFaults) (goOn : Nat → Bool) (store : Nat → α → σ → σ) :
    Nat → List α → Attempt σ
  | _, [] => Attempt.throwing .none
  | k, row :: rest =>
    if goOn k then
      (Attempt.throwing (faults.reading k)).andThen fun s =>
        readFrom faults goOn store (k + 1) rest (store k row s)
    else Attempt.throwing .none

/-- Open the query, read it and close it. -/
def read (faults : StreamFaults) (goOn : Nat → Bool) (store : Nat → α → σ → σ)
    (rows : List α) : Attempt σ :=
  (Attempt.throwing faults.opening).andThen
    ((faults.readFrom goOn store 0 rows).andThen (Attempt.throwing faults.closing))

/-- The rows from place `k` on before which the flag allows to go on. -/
def reachedFrom (goOn : Nat → Bool) : Nat → List α → List α
  | _, [] => []
  | k, row :: rest => if goOn k then row :: reachedFrom goOn (k + 1) rest else []

def reached (goOn : Nat → Bool) (rows : List α) : List α := reachedFrom goOn 0 rows

/-- Store rows, the first of which stands at place `k`. -/
def storeFrom (store : Nat → α → σ → σ) : Nat → List α → σ → σ
  | _, [], s => s
  | k, row :: rest, s => storeFrom store (k + 1) rest (store k row s)

theorem reachedFrom_eq_self {goOn : Nat → Bool} (h : ∀ k, goOn k = true) (k : Nat)
    (rows : List α) : reachedFrom goOn k rows = rows := by
  induction rows generalizing k with
  | nil => rfl
  | cons row rest ih =>
    unfold reachedFrom
    rw [if_pos (h k), ih]

@[simp] theorem reached_eq_self {goOn : Nat → Bool} (h : ∀ k, goOn k = true) (rows : List α) :
    reached goOn rows = rows := reachedFrom_eq_self h 0 rows

/-- Whatever happens, a front of the rows that were reached is stored, and all of them when no
exception comes. -/
theorem readFrom_spec (faults : StreamFaults) (goOn : Nat → Bool) (store : Nat → α → σ → σ)
    (k : Nat) (rows : List α) (s : σ) :
    ∃ front, front <+: reachedFrom goOn k rows ∧
      (faults.readFrom goOn store k rows s).1 = storeFrom store k front s ∧
      ((faults.readFrom goOn store k rows s).2 = .none → front = reachedFrom goOn k rows) := by
  -- the state that the rest starts from is that with this row stored, so it is generalised
  induction rows generalizing k s with
  | nil => exact ⟨[], List.prefix_rfl, rfl, fun _ => rfl⟩
  | cons row rest ih =>
    unfold readFrom reachedFrom
    split
    next =>
      cases hFault : faults.reading k with
      | some failure =>
        -- the exception comes before this row
        exact ⟨[], List.nil_prefix, rfl, fun hNone => absurd hNone (Option.some_ne_none _)⟩
      | none =>
        obtain ⟨front, hFront, hState, hAll⟩ := ih (k + 1) (store k row s)
        refine ⟨row :: front, ?_, hState, ?_⟩
        · exact (List.prefix_cons_inj row).mpr hFront
        · intro hNone
          rw [hAll hNone]
    next => exact ⟨[], List.prefix_rfl, rfl, fun _ => rfl⟩

theorem read_spec (faults : StreamFaults) (goOn : Nat → Bool) (store : Nat → α → σ → σ)
    (rows : List α) (s : σ) :
    ∃ front, front <+: reached goOn rows ∧
      (faults.read goOn store rows s).1 = storeFrom store 0 front s ∧
      ((faults.read goOn store rows s).2 = .none → front = reached goOn rows) := by
  unfold read
  cases hOpen : faults.opening with
  | some failure =>
    exact ⟨[], List.nil_prefix, rfl, fun hNone => absurd hNone (Option.some_ne_none _)⟩
  | none =>
    obtain ⟨front, hFront, hState, hAll⟩ := faults.readFrom_spec goOn store 0 rows s
    refine ⟨front, hFront, ?_, ?_⟩
    · -- closing the query changes nothing that is stored
      rw [← hState]
      simp only [Attempt.andThen, Attempt.throwing]
      split <;> simp_all
    · intro hNone
      apply hAll
      revert hNone
      simp only [Attempt.andThen, Attempt.throwing]
      split <;> simp_all

theorem readFrom_coded (faults : StreamFaults) (goOn : Nat → Bool) (store : Nat → α → σ → σ)
    (k : Nat) (rows : List α) (s : σ) :
    ∀ failure ∈ (faults.readFrom goOn store k rows s).2, failure.code ≠ 0 := by
  induction rows generalizing k s with
  | nil =>
    intro failure hFailure
    exact absurd hFailure (Option.not_mem_none failure)
  | cons row rest ih =>
    unfold readFrom
    split
    next =>
      cases hFault : faults.reading k with
      | some first =>
        intro failure hFailure
        exact faults.readingCoded k failure (hFault ▸ hFailure)
      | none => exact ih (k + 1) (store k row s)
    next =>
      intro failure hFailure
      exact absurd hFailure (Option.not_mem_none failure)

/-- The exception that ends a reading has a code other than 0. -/
theorem read_coded (faults : StreamFaults) (goOn : Nat → Bool) (store : Nat → α → σ → σ)
    (rows : List α) (s : σ) :
    ∀ failure ∈ (faults.read goOn store rows s).2, failure.code ≠ 0 := by
  unfold read
  cases hOpen : faults.opening with
  | some first =>
    intro failure hFailure
    exact faults.openingCoded failure (hOpen ▸ hFailure)
  | none =>
    have hRead := faults.readFrom_coded goOn store 0 rows s
    simp only [Attempt.andThen, Attempt.throwing]
    -- either the reading goes on to the closing, or its own exception ends it
    split
    next => exact faults.closingCoded
    next s' failure hEq =>
      rw [hEq] at hRead
      exact hRead

/-! ### Collecting the rows -/

/-- Append each row to a list. -/
def collect (_ : Nat) (row : α) (list : List α) : List α := list ++ [row]

theorem storeFrom_collect (k : Nat) (rows list : List α) :
    storeFrom collect k rows list = list ++ rows := by
  induction rows generalizing k list with
  | nil => simp [storeFrom]
  | cons row rest ih =>
    unfold storeFrom
    rw [ih, collect, List.append_assoc]
    rfl

/-- A list that is collected row by row is a front of the rows, and all of them when no
exception comes. -/
theorem read_collect (faults : StreamFaults) (rows : List α) :
    (faults.read (fun _ => true) collect rows []).1 <+: rows ∧
      ((faults.read (fun _ => true) collect rows []).2 = .none →
        (faults.read (fun _ => true) collect rows []).1 = rows) := by
  obtain ⟨front, hFront, hState, hAll⟩ := faults.read_spec (fun _ => true) collect rows []
  rw [reached_eq_self (fun _ => rfl)] at hFront hAll
  rw [storeFrom_collect, List.nil_append] at hState
  rw [hState]
  exact ⟨hFront, hAll⟩

end StreamFaults

end Lib
