import Pcrf.Lib.Machine

/-!
Programs that run side by side on a shared state. At some points a program reads the state and
goes on as it finds it, at others it makes a step; between two points the others may go on.
-/

namespace Lib

/-- What a program has still to do. -/
inductive Program (σ ι : Type) where
  | done
  | read (next : σ → Program σ ι)
  | make (a : ι) (next : Program σ ι)

namespace Program

variable {σ ι : Type}

/-- Make steps one after another and go on. -/
def makes : List ι → Program σ ι → Program σ ι
  | [], next => next
  | a :: steps, next => .make a (makes steps next)

def isDone : Program σ ι → Bool
  | done => true
  | _ => false

/-- Whatever the program reads, all its steps have the property. -/
def All (p : ι → Prop) : Program σ ι → Prop
  | done => True
  | read next => ∀ s, (next s).All p
  | make a next => p a ∧ next.All p

/-- Whatever the program reads, it makes this step before it is done. -/
def WillMake (a : ι) : Program σ ι → Prop
  | done => False
  | read next => ∀ s, (next s).WillMake a
  | make b next => b = a ∨ next.WillMake a

theorem all_makes {p : ι → Prop} {steps : List ι} {next : Program σ ι}
    (h : ∀ a ∈ steps, p a) (hnext : next.All p) : (makes steps next).All p := by
  induction steps with
  | nil => exact hnext
  | cons a steps ih =>
    exact ⟨h a (List.mem_cons_self ..), ih fun b mem => h b (List.mem_cons_of_mem _ mem)⟩

theorem willMake_makes {a : ι} {steps : List ι} (h : a ∈ steps) (next : Program σ ι) :
    (makes steps next).WillMake a := by
  induction steps with
  | nil => cases h
  | cons b steps ih =>
    cases List.mem_cons.mp h with
    | inl same => exact .inl same.symm
    | inr later => exact .inr (ih later)

/-- The state that a program leaves when nothing goes on beside it. -/
def alone (perform : σ → ι → σ) : Program σ ι → σ → σ
  | done, s => s
  | read next, s => (next s).alone perform s
  | make a next, s => next.alone perform (perform s a)

theorem alone_makes (perform : σ → ι → σ) (steps : List ι) (next : Program σ ι) (s : σ) :
    (makes steps next).alone perform s = next.alone perform (steps.foldl perform s) := by
  induction steps generalizing s with
  | nil => rfl
  | cons a steps ih => exact ih (perform s a)

end Program

/-- Programs with the state they share, and the steps made so far. -/
structure SideBySide (σ ι : Type) where
  state : σ
  programs : List (Program σ ι)
  history : List ι := []

namespace SideBySide

variable {σ ι : Type}

/-- Program `i` goes on to its next point. -/
def advance (perform : σ → ι → σ) (s : SideBySide σ ι) (i : Nat) : SideBySide σ ι :=
  match s.programs[i]? with
  | some (.read next) => { s with programs := s.programs.set i (next s.state) }
  | some (.make a next) =>
    { state := perform s.state a
      programs := s.programs.set i next
      history := s.history ++ [a] }
  | _ => s

/-- The programs, taking turns in any order. -/
def machine (perform : σ → ι → σ) (state : σ) (programs : List (Program σ ι)) :
    Machine (SideBySide σ ι) Nat where
  init := { state, programs }
  step := advance perform

/-- The step that program `i` makes next. -/
def nextStep (s : SideBySide σ ι) (i : Nat) : Option ι :=
  match s.programs[i]? with
  | some (.make a _) => some a
  | _ => none

/-- A step is made only when it meets `cond`. -/
def MakesOnly (cond : σ → List ι → ι → Prop) (s : SideBySide σ ι) (i : Nat) : Prop :=
  ∀ a ∈ s.nextStep i, cond s.state s.history a

/-- What a program is after one of them went on. -/
theorem of_mem_set {programs : List (Program σ ι)} {i : Nat} {next : Program σ ι}
    {P : Program σ ι → Prop} (h : ∀ q ∈ programs, P q) (hnext : P next) :
    ∀ q ∈ programs.set i next, P q := by
  intro q mem
  cases List.mem_or_eq_of_mem_set mem with
  | inl old => exact h q old
  | inr new => exact new ▸ hnext

/-- Whatever happens, the steps still to be made have the property that all had. -/
theorem advance_all {perform : σ → ι → σ} {p : ι → Prop} {s : SideBySide σ ι} {i : Nat}
    (h : ∀ q ∈ s.programs, q.All p) : ∀ q ∈ (s.advance perform i).programs, q.All p := by
  unfold advance
  split
  next next hi => exact of_mem_set h (h _ (List.mem_of_getElem? hi) s.state)
  next a next hi => exact of_mem_set h (h _ (List.mem_of_getElem? hi)).2
  next => exact h

/-- A step that program `i` is to make is made, or still to be made. -/
theorem advance_willMake {perform : σ → ι → σ} {a : ι} {i : Nat} {s : SideBySide σ ι} (j : Nat)
    (h : a ∈ s.history ∨ ∃ q, s.programs[i]? = some q ∧ q.WillMake a) :
    a ∈ (s.advance perform j).history ∨
      ∃ q, (s.advance perform j).programs[i]? = some q ∧ q.WillMake a := by
  -- what the other programs do leaves program `i` as it is
  have others {next : Program σ ι} (hij : i ≠ j) :
      (s.programs.set j next)[i]? = s.programs[i]? := List.getElem?_set_ne (Ne.symm hij)
  have own {next q : Program σ ι} (hi : s.programs[i]? = some q) :
      (s.programs.set i next)[i]? = some next :=
    List.getElem?_set_self (List.getElem?_eq_some_iff.mp hi).1
  unfold advance
  split
  next next hj =>
    refine h.imp_right fun ⟨q, hi, will⟩ => ?_
    by_cases hij : i = j
    · subst hij
      obtain rfl := Option.some.inj (hi.symm.trans hj)
      exact ⟨next s.state, own hi, will s.state⟩
    · exact ⟨q, (others hij).trans hi, will⟩
  next b next hj =>
    cases h with
    | inl made => exact .inl (List.mem_append_left _ made)
    | inr still =>
      obtain ⟨q, hi, will⟩ := still
      by_cases hij : i = j
      · subst hij
        obtain rfl := Option.some.inj (hi.symm.trans hj)
        cases will with
        | inl now => exact .inl (by simp [now])
        | inr later => exact .inr ⟨next, own hi, later⟩
      · exact .inr ⟨q, (others hij).trans hi, will⟩
  next => exact h

/-- An invariant of the state and the steps made so far, kept by each step that meets the
condition. -/
theorem inv_of_makesOnly {perform : σ → ι → σ} {state : σ} {programs : List (Program σ ι)}
    {p : ι → Prop} {cond : σ → List ι → ι → Prop} {I : σ → List ι → Prop}
    (all : ∀ q ∈ programs, q.All p) (start : I state [])
    (keeps : ∀ state history a, I state history → p a → cond state history a →
      I (perform state a) (history ++ [a]))
    {turns : List Nat} (meets : (machine perform state programs).Meets (MakesOnly cond) turns) :
    I ((machine perform state programs).run turns).state
      ((machine perform state programs).run turns).history := by
  have inv := (machine perform state programs).inv_of_meets
    (I := fun s : SideBySide σ ι => (∀ q ∈ s.programs, q.All p) ∧ I s.state s.history)
    ⟨all, start⟩ ?_ meets
  · exact inv.2
  intro s i h only
  refine ⟨advance_all h.1, ?_⟩
  change I (s.advance perform i).state (s.advance perform i).history
  unfold advance
  split
  next => exact h.2
  next a next hi =>
    have is_next : s.nextStep i = some a := by simp [nextStep, hi]
    exact keeps s.state s.history a h.2 (h.1 _ (List.mem_of_getElem? hi)).1 (only a is_next)
  next => exact h.2

/-- When all programs are done, each has made the steps that it was to make. -/
theorem made_of_done {perform : σ → ι → σ} {state : σ} {programs : List (Program σ ι)} {a : ι}
    {q : Program σ ι} (mem : q ∈ programs) (will : q.WillMake a) {turns : List Nat}
    (done : ∀ q ∈ ((machine perform state programs).run turns).programs, q.isDone = true) :
    a ∈ ((machine perform state programs).run turns).history := by
  obtain ⟨i, hi⟩ := List.getElem?_of_mem mem
  have inv := (machine perform state programs).inv_run
    (I := fun s : SideBySide σ ι => a ∈ s.history ∨ ∃ q, s.programs[i]? = some q ∧ q.WillMake a)
    (.inr ⟨q, hi, will⟩) (fun s j h => advance_willMake j h) turns
  refine inv.resolve_right fun ⟨r, hr, still⟩ => ?_
  have is_done := done r (List.mem_of_getElem? hr)
  cases r with
  | done => exact still
  | read next => cases is_done
  | make b next => cases is_done

end SideBySide

end Lib
