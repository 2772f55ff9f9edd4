import Mathlib.Data.List.Basic

/-!
Programs that call into a library whose calls may fail. What the calls will answer is part of
the state, so that a statement about every pattern of failures is one about every state.
A failing call abandons the program; what it has done to the rest of the state stays done.
-/

namespace Lib

/-- A state together with the answers of the calls still to be made. -/
structure Answering (σ : Type) where
  answers : Nat → Bool
  state : σ

/-- No call will fail. -/
def Answering.AllSucceed {σ : Type} (s : Answering σ) : Prop := s.answers = fun _ => true

/-- A program: its result, unless a call failed, and the state it leaves. -/
def CallM (σ α : Type) := Answering σ → Option α × Answering σ

/-- The next `n` calls succeed. -/
def Answering.Succeed {σ : Type} (s : Answering σ) (n : Nat) : Prop :=
  ∀ i < n, s.answers i = true

instance {σ : Type} (s : Answering σ) (n : Nat) : Decidable (s.Succeed n) :=
  inferInstanceAs (Decidable (∀ i < n, s.answers i = true))

/-- The state with `n` answers used up. -/
def Answering.after {σ : Type} (s : Answering σ) (n : Nat) : Answering σ :=
  { s with answers := fun i => s.answers (n + i) }

theorem Answering.succeed_add {σ : Type} (s : Answering σ) (m n : Nat) :
    s.Succeed (m + n) ↔ s.Succeed m ∧ (s.after m).Succeed n := by
  constructor
  · intro h
    exact ⟨fun i hi => h i (by omega), fun i hi => h (m + i) (by omega)⟩
  · rintro ⟨hFirst, hThen⟩ i hi
    by_cases him : i < m
    · exact hFirst i him
    · obtain ⟨j, rfl⟩ := Nat.exists_eq_add_of_le (Nat.le_of_not_lt him)
      exact hThen j (by omega)

namespace CallM

variable {σ α β : Type}

/-- Run a program on a state. -/
def exec (x : CallM σ α) (s : Answering σ) : Option α × Answering σ := x s

instance : Monad (CallM σ) where
  pure a := fun s => (some a, s)
  bind x f := fun s =>
    match exec x s with
    | (some a, s') => exec (f a) s'
    | (none, s') => (none, s')

/-- One call: it uses up an answer and abandons the program when the answer is no. -/
def call : CallM σ Unit := fun s =>
  (if s.answers 0 then some () else none, { s with answers := fun n => s.answers (n + 1) })

/-- Several calls in a row. -/
def calls : Nat → CallM σ Unit
  | 0 => return ()
  | n + 1 => do
    call
    calls n

/-- An operation on the state that cannot fail. -/
def update (f : σ → σ) : CallM σ Unit := fun s => (some (), { s with state := f s.state })

/-- Turn the failure of a part of a program into a missing result. -/
def attempt (x : CallM σ α) : CallM σ (Option α) := fun s => (some (exec x s).1, (exec x s).2)

/-- Go on when a part of a program has failed. -/
def tolerate (x : CallM σ Unit) : CallM σ Unit := fun s => (some (), (exec x s).2)

@[simp] theorem exec_pure (a : α) (s : Answering σ) :
    exec (pure a : CallM σ α) s = (some a, s) := rfl

theorem exec_bind (x : CallM σ α) (f : α → CallM σ β) (s : Answering σ) :
    exec (x >>= f) s =
      match exec x s with
      | (some a, s') => exec (f a) s'
      | (none, s') => (none, s') := rfl

theorem exec_bind_some {x : CallM σ α} {f : α → CallM σ β} {s s' : Answering σ} {a : α}
    (h : exec x s = (some a, s')) : exec (x >>= f) s = exec (f a) s' := by
  rw [exec_bind, h]

theorem exec_call {s : Answering σ} (h : s.AllSucceed) : exec call s = (some (), s) := by
  obtain ⟨answers, state⟩ := s
  obtain rfl : answers = fun _ => true := h
  rfl

theorem exec_calls (n : Nat) {s : Answering σ} (h : s.AllSucceed) :
    exec (calls n) s = (some (), s) := by
  induction n with
  | zero => rfl
  | succ n ih => rw [calls, exec_bind_some (exec_call h), ih]

theorem exec_call_of_yes {s : Answering σ} (h : s.answers 0 = true) :
    exec call s = (some (), s.after 1) := by
  have hNext : (fun i => s.answers (i + 1)) = (s.after 1).answers := by
    funext i
    simp only [Answering.after, Nat.add_comm]
  simp only [exec, call, h, hNext, if_true]
  rfl

theorem exec_call_of_no {s : Answering σ} (h : s.answers 0 = false) :
    exec call s = (none, s.after 1) := by
  have hNext : (fun i => s.answers (i + 1)) = (s.after 1).answers := by
    funext i
    simp only [Answering.after, Nat.add_comm]
  simp only [exec, call, h, hNext]
  rfl

/-- Several calls succeed exactly when each of them does, and change no state. -/
theorem exec_calls_iff (n : Nat) (s : Answering σ) :
    (s.Succeed n → exec (calls n) s = (some (), s.after n)) ∧
      (¬ s.Succeed n → (exec (calls n) s).1 = none ∧ (exec (calls n) s).2.state = s.state) := by
  induction n generalizing s with
  | zero =>
    refine ⟨fun _ => ?_, fun hNot => absurd (fun i hi => absurd hi (Nat.not_lt_zero i)) hNot⟩
    simp [calls, Answering.after]
  | succ n ih =>
    obtain ⟨hAll, hSome⟩ := ih (s.after 1)
    -- all calls succeed exactly if the first and all others do
    have hSplit := s.succeed_add 1 n
    rw [Nat.add_comm 1 n] at hSplit
    cases hFirst : s.answers 0 with
    | true =>
      have hOne : s.Succeed 1 := by
        intro i hi
        obtain rfl : i = 0 := by omega
        exact hFirst
      rw [calls, exec_bind_some (exec_call_of_yes hFirst), hSplit]
      constructor
      · intro h
        rw [hAll h.2]
        simp only [Answering.after, Nat.add_comm n 1, Nat.add_assoc]
      · intro hNot
        exact hSome fun h => hNot ⟨hOne, h⟩
    | false =>
      constructor
      · intro h
        exact absurd (h 0 (Nat.succ_pos n)) (by simp [hFirst])
      · intro _
        rw [calls, exec_bind, exec_call_of_no hFirst]
        exact ⟨rfl, rfl⟩

@[simp] theorem exec_update (f : σ → σ) (s : Answering σ) :
    exec (update f) s = (some (), { s with state := f s.state }) := rfl

theorem exec_attempt (x : CallM σ α) (s : Answering σ) :
    exec (attempt x) s = (some (exec x s).1, (exec x s).2) := rfl

/-- A part that succeeds gives its result. -/
theorem exec_attempt_some {x : CallM σ α} {s s' : Answering σ} {a : α}
    (h : exec x s = (some a, s')) : exec (attempt x) s = (some (some a), s') := by
  rw [exec_attempt, h]

theorem exec_tolerate (x : CallM σ Unit) (s : Answering σ) :
    exec (tolerate x) s = (some (), (exec x s).2) := rfl

/-- When no call fails, the step adds something to the end of a list and changes no state. -/
def Appends (step : List α → CallM σ (List α)) : Prop :=
  ∀ s : Answering σ, s.AllSucceed → ∀ l, ∃ more, exec (step l) s = (some (l ++ more), s)

theorem Appends.pure : Appends (fun l => pure l : List α → CallM σ (List α)) :=
  fun s _ l => ⟨[], by simp⟩

theorem Appends.comp {step step' : List α → CallM σ (List α)} (h : Appends step)
    (h' : Appends step') : Appends (fun l => step l >>= step') := by
  intro s hs l
  obtain ⟨more, hmore⟩ := h s hs l
  obtain ⟨more', hmore'⟩ := h' s hs (l ++ more)
  exact ⟨more ++ more', by rw [exec_bind_some hmore, hmore', List.append_assoc]⟩

/-- Run the steps one after another. -/
def runAll (steps : List (List α → CallM σ (List α))) (l : List α) : CallM σ (List α) :=
  steps.foldlM (fun l step => step l) l

theorem Appends.runAll {steps : List (List α → CallM σ (List α))}
    (h : ∀ step ∈ steps, Appends step) : Appends (CallM.runAll steps) := by
  induction steps with
  | nil => exact Appends.pure
  | cons step steps ih =>
    have hstep := h step (List.mem_cons_self ..)
    have hsteps := ih fun step' hmem => h step' (List.mem_cons_of_mem _ hmem)
    exact hstep.comp hsteps

/-- What is made of the list at the end is made of the given one with something added. -/
theorem exec_runAll_map {steps : List (List α → CallM σ (List α))}
    (h : ∀ step ∈ steps, Appends step) {s : Answering σ} (hs : s.AllSucceed) {l : List α}
    {make : List α → β} : ∃ more,
      exec (do let made ← runAll steps l; return make made) s =
        (some (make (l ++ more)), s) := by
  obtain ⟨more, hmore⟩ := Appends.runAll h s hs l
  exact ⟨more, by rw [exec_bind_some hmore, exec_pure]⟩

theorem exec_runAll_append (steps steps' : List (List α → CallM σ (List α))) (l : List α)
    (s : Answering σ) :
    exec (runAll (steps ++ steps') l) s = exec (runAll steps l >>= runAll steps') s := by
  induction steps generalizing l s with
  | nil => rfl
  | cons step steps ih =>
    have hrun (rest : List (List α → CallM σ (List α))) :
        runAll (step :: rest) l = step l >>= runAll rest := rfl
    rw [List.cons_append, hrun, hrun, exec_bind, exec_bind, exec_bind]
    cases exec (step l) s with
    | mk result s' =>
      cases result with
      | none => rfl
      | some l' => exact (ih l' s').trans (exec_bind ..)

/-- When no call fails, the step adds just this to the end of a list. -/
def AppendsJust (more : List α) (step : List α → CallM σ (List α)) : Prop :=
  ∀ s : Answering σ, s.AllSucceed → ∀ l, exec (step l) s = (some (l ++ more), s)

namespace AppendsJust

variable {more more' : List α} {step : List α → CallM σ (List α)}
  {steps steps' : List (List α → CallM σ (List α))}

theorem pure : AppendsJust [] (fun l => pure l : List α → CallM σ (List α)) :=
  fun s _ l => by rw [exec_pure, List.append_nil]

theorem cons (h : AppendsJust more step) (hsteps : AppendsJust more' (runAll steps)) :
    AppendsJust (more ++ more') (runAll (step :: steps)) := by
  intro s hs l
  have hrun : runAll (step :: steps) l = step l >>= runAll steps := rfl
  rw [hrun, exec_bind_some (h s hs l), hsteps s hs, List.append_assoc]

theorem singleton (h : AppendsJust more step) : AppendsJust more (runAll [step]) :=
  fun s hs l => (h.cons pure s hs l).trans (by rw [List.append_nil])

theorem append (h : AppendsJust more (runAll steps)) (h' : AppendsJust more' (runAll steps')) :
    AppendsJust (more ++ more') (runAll (steps ++ steps')) := by
  intro s hs l
  rw [exec_runAll_append, exec_bind_some (h s hs l), h' s hs, List.append_assoc]

end AppendsJust

/-! ### Programs that make a fixed number of calls -/

section Makes

variable {υ : Type} {view : σ → υ}

/-- The program makes `n` calls. When they succeed it changes the state by `f`; when one of them
fails it is abandoned, and a part of the state, the view, is as before. -/
structure Makes (view : σ → υ) (n : Nat) (f : σ → σ) (x : CallM σ Unit) : Prop where
  succeeds : ∀ s : Answering σ, s.Succeed n →
    exec x s = (some (), { s.after n with state := f s.state })
  fails : ∀ s : Answering σ, ¬ s.Succeed n →
    (exec x s).1 = none ∧ view (exec x s).2.state = view s.state

theorem Makes.update (f : σ → σ) : Makes view 0 f (CallM.update f) where
  succeeds s _ := by simp [Answering.after]
  fails s h := absurd (fun i hi => absurd hi (Nat.not_lt_zero i)) h

theorem Makes.calls (n : Nat) : Makes view n id (CallM.calls n) where
  succeeds s h := (exec_calls_iff n s).1 h
  fails s h :=
    have hFails := (exec_calls_iff n s).2 h
    ⟨hFails.1, congrArg view hFails.2⟩

theorem Makes.call : Makes view 1 id CallM.call where
  succeeds s h := exec_call_of_yes (h 0 Nat.one_pos)
  fails s h := by
    have hNo : s.answers 0 = false := by
      by_contra hYes
      apply h
      intro i hi
      obtain rfl : i = 0 := by omega
      simpa using hYes
    rw [exec_call_of_no hNo]
    exact ⟨rfl, rfl⟩

/-- One after the other, when the first keeps the view. -/
theorem Makes.bind {m n : Nat} {f g : σ → σ} {x y : CallM σ Unit} (hx : Makes view m f x)
    (keeps : ∀ a, view (f a) = view a) (hy : Makes view n g y) :
    Makes view (m + n) (fun a => g (f a)) (x >>= fun _ => y) where
  succeeds s h := by
    obtain ⟨hFirst, hThen⟩ := (s.succeed_add m n).mp h
    have hSecond := hy.succeeds { s.after m with state := f s.state } hThen
    refine (exec_bind_some (hx.succeeds s hFirst)).trans (hSecond.trans ?_)
    simp only [Answering.after, Nat.add_assoc]
  fails s h := by
    by_cases hFirst : s.Succeed m
    · have hThen : ¬ Answering.Succeed { s.after m with state := f s.state } n :=
        fun hThen => h ((s.succeed_add m n).mpr ⟨hFirst, hThen⟩)
      rw [exec_bind_some (hx.succeeds s hFirst)]
      obtain ⟨hNone, hView⟩ := hy.fails _ hThen
      exact ⟨hNone, hView.trans (keeps s.state)⟩
    · obtain ⟨hNone, hView⟩ := hx.fails s hFirst
      rw [exec_bind]
      split
      next h' =>
        rw [h'] at hNone
        exact absurd hNone (Option.some_ne_none _)
      next h' =>
        rw [h'] at hView
        exact ⟨rfl, hView⟩

end Makes

end CallM

end Lib
