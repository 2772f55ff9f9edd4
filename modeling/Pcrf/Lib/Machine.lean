import Mathlib.Data.List.Induction

/-!
Machines that take one operation after another, and the two induction rules used for them:
an invariant that every step keeps, and one that is kept by the steps that meet a condition.
The trace of a run is what its steps do, where the states do not tell it.
-/

namespace Lib

/-- A deterministic machine: a start state and the effect of one operation. -/
structure Machine (σ ι : Type*) where
  init : σ
  step : σ → ι → σ

namespace Machine

variable {σ ι : Type*} (m : Machine σ ι)

/-- The state reached from `s` by the operations `ops`, in order. -/
def runFrom (s : σ) (ops : List ι) : σ := ops.foldl m.step s

/-- The state reached from the start. -/
def run (ops : List ι) : σ := m.runFrom m.init ops

/-- Every operation of the run meets `cond` in the state it is applied to. -/
def MeetsFrom (cond : σ → ι → Prop) : σ → List ι → Prop
  | _, [] => True
  | s, o :: ops => cond s o ∧ MeetsFrom cond (m.step s o) ops

/-- The same for a run from the start. -/
def Meets (cond : σ → ι → Prop) (ops : List ι) : Prop := m.MeetsFrom cond m.init ops

instance decidableMeetsFrom (cond : σ → ι → Prop) [∀ s o, Decidable (cond s o)] :
    ∀ (s : σ) (ops : List ι), Decidable (m.MeetsFrom cond s ops)
  | _, [] => .isTrue trivial
  | s, o :: ops =>
    have := decidableMeetsFrom cond (m.step s o) ops
    inferInstanceAs (Decidable (cond s o ∧ m.MeetsFrom cond (m.step s o) ops))

instance decidableMeets (cond : σ → ι → Prop) [∀ s o, Decidable (cond s o)] (ops : List ι) :
    Decidable (m.Meets cond ops) :=
  inferInstanceAs (Decidable (m.MeetsFrom cond m.init ops))

theorem runFrom_append (s : σ) (ops more : List ι) :
    m.runFrom s (ops ++ more) = m.runFrom (m.runFrom s ops) more :=
  List.foldl_append ..

theorem run_snoc (ops : List ι) (o : ι) : m.run (ops ++ [o]) = m.step (m.run ops) o :=
  m.runFrom_append m.init ops [o]

theorem meetsFrom_append (cond : σ → ι → Prop) (s : σ) (ops more : List ι) :
    m.MeetsFrom cond s (ops ++ more) ↔
      m.MeetsFrom cond s ops ∧ m.MeetsFrom cond (m.runFrom s ops) more := by
  induction ops generalizing s with
  | nil => simp [MeetsFrom, runFrom]
  | cons o ops ih => simp only [List.cons_append, MeetsFrom, ih, and_assoc]; rfl

/-- An invariant kept by the steps that meet `cond` holds after a run of such steps. -/
theorem inv_runFrom {I : σ → Prop} {cond : σ → ι → Prop}
    (keeps : ∀ s o, I s → cond s o → I (m.step s o)) {s : σ} (hs : I s)
    {ops : List ι} (meets : m.MeetsFrom cond s ops) : I (m.runFrom s ops) := by
  induction ops generalizing s with
  | nil => exact hs
  | cons o ops ih => exact ih (keeps s o hs meets.1) meets.2

/-- The rule for runs from the start. -/
theorem inv_of_meets {I : σ → Prop} {cond : σ → ι → Prop} (start : I m.init)
    (keeps : ∀ s o, I s → cond s o → I (m.step s o))
    {ops : List ι} (meets : m.Meets cond ops) : I (m.run ops) :=
  m.inv_runFrom keeps start meets

theorem meetsFrom_true (s : σ) (ops : List ι) : m.MeetsFrom (fun _ _ => True) s ops := by
  induction ops generalizing s with
  | nil => trivial
  | cons o ops ih => exact ⟨trivial, ih _⟩

/-- An invariant kept by every step holds in every state reached. -/
theorem inv_run {I : σ → Prop} (start : I m.init)
    (keeps : ∀ s o, I s → I (m.step s o)) (ops : List ι) : I (m.run ops) :=
  m.inv_of_meets start (fun s o hs _ => keeps s o hs) (m.meetsFrom_true m.init ops)

/-- A run meets what every state with an invariant meets. -/
theorem meets_of_inv {I : σ → Prop} {cond : σ → ι → Prop} (start : I m.init)
    (keeps : ∀ s o, I s → I (m.step s o)) (meets : ∀ s o, I s → cond s o) (ops : List ι) :
    m.Meets cond ops := by
  induction ops using List.reverseRecOn with
  | nil => trivial
  | append_singleton ops o ih =>
    exact (m.meetsFrom_append cond m.init ops [o]).mpr
      ⟨ih, meets _ o (m.inv_run start keeps ops), trivial⟩

/-- When the steps of the operations in question keep the invariant exactly if they meet `cond`,
the invariant holds all along a run of such operations exactly if every step of it meets `cond`. -/
theorem always_iff_meets_of {I : σ → Prop} {cond : σ → ι → Prop} {among : ι → Prop}
    (start : I m.init) (keeps : ∀ s o, among o → I s → (I (m.step s o) ↔ cond s o))
    {ops : List ι} (hops : ∀ o ∈ ops, among o) :
    (∀ pre, pre <+: ops → I (m.run pre)) ↔ m.Meets cond ops := by
  induction ops using List.reverseRecOn with
  | nil =>
    refine iff_of_true (fun pre hpre => ?_) trivial
    rw [List.prefix_nil.mp hpre]
    exact start
  | append_singleton ops o ih =>
    rw [List.forall_mem_append, List.forall_mem_singleton] at hops
    rw [Meets, m.meetsFrom_append, ← Meets, ← ih hops.1]
    constructor
    · intro always
      have before := always ops (List.prefix_append ..)
      have after := always (ops ++ [o]) List.prefix_rfl
      rw [run_snoc] at after
      -- the last step keeps the invariant, so it meets the condition
      refine ⟨fun pre hpre => ?_, (keeps _ o hops.2 before).mp after, trivial⟩
      exact always pre (hpre.trans (List.prefix_append ..))
    · rintro ⟨always, last, -⟩ pre hpre
      rcases List.prefix_concat_iff.mp hpre with rfl | hpre
      · rw [run_snoc]
        exact (keeps _ o hops.2 (always ops List.prefix_rfl)).mpr last
      · exact always pre hpre

/-- When a step keeps the invariant exactly if it meets `cond`, the invariant holds all along
a run exactly if every step of the run meets `cond`. -/
theorem always_iff_meets {I : σ → Prop} {cond : σ → ι → Prop} (start : I m.init)
    (keeps : ∀ s o, I s → (I (m.step s o) ↔ cond s o)) (ops : List ι) :
    (∀ pre, pre <+: ops → I (m.run pre)) ↔ m.Meets cond ops :=
  m.always_iff_meets_of start (fun s o _ => keeps s o) fun _ _ => trivial

/-- Two conditions that agree where an invariant holds are met by the same runs, when the steps
that meet the first one keep the invariant. -/
theorem meets_congr_of_inv {I : σ → Prop} {P Q : σ → ι → Prop} (start : I m.init)
    (same : ∀ s o, I s → (P s o ↔ Q s o)) (keeps : ∀ s o, I s → P s o → I (m.step s o))
    (ops : List ι) : m.Meets P ops ↔ m.Meets Q ops := by
  have from_state (s : σ) (hs : I s) : m.MeetsFrom P s ops ↔ m.MeetsFrom Q s ops := by
    induction ops generalizing s with
    | nil => exact Iff.rfl
    | cons o ops ih =>
      constructor
      · rintro ⟨hP, rest⟩
        exact ⟨(same s o hs).mp hP, (ih _ (keeps s o hs hP)).mp rest⟩
      · rintro ⟨hQ, rest⟩
        have hP := (same s o hs).mpr hQ
        exact ⟨hP, (ih _ (keeps s o hs hP)).mpr rest⟩
  exact from_state m.init start

/-! ### What the steps of a run do -/

/-- What happens in a run, when `does` tells what a step does. -/
def traceFrom {ε : Type*} (does : σ → ι → List ε) : σ → List ι → List ε
  | _, [] => []
  | s, o :: ops => does s o ++ traceFrom does (m.step s o) ops

/-- The same for a run from the start. -/
def trace {ε : Type*} (does : σ → ι → List ε) (ops : List ι) : List ε :=
  m.traceFrom does m.init ops

theorem traceFrom_append {ε : Type*} (does : σ → ι → List ε) (s : σ) (ops more : List ι) :
    m.traceFrom does s (ops ++ more) =
      m.traceFrom does s ops ++ m.traceFrom does (m.runFrom s ops) more := by
  induction ops generalizing s with
  | nil => rfl
  | cons o ops ih =>
    rw [List.cons_append, traceFrom, ih, traceFrom, List.append_assoc]
    rfl

theorem trace_snoc {ε : Type*} (does : σ → ι → List ε) (ops : List ι) (o : ι) :
    m.trace does (ops ++ [o]) = m.trace does ops ++ does (m.run ops) o := by
  rw [trace, traceFrom_append, traceFrom, traceFrom, List.append_nil]
  rfl

/-- A longer run only adds to what has happened. -/
theorem prefix_trace {ε : Type*} (does : σ → ι → List ε) {pre ops : List ι} (h : pre <+: ops) :
    m.trace does pre <+: m.trace does ops := by
  obtain ⟨more, rfl⟩ := h
  rw [trace, trace, traceFrom_append]
  exact List.prefix_append ..

end Machine

/-! ### Steps that may fail -/

section Fallible

variable {σ ι ε : Type*} {step : σ → ι → Except ε σ} {P Q : σ → ι → Prop}

/-- Every operation meets the condition in the state it is applied to. A step that fails ends the
run. -/
def Along (step : σ → ι → Except ε σ) (P : σ → ι → Prop) : σ → List ι → Prop
  | _, [] => True
  | s, o :: ops => P s o ∧ ∀ s', step s o = .ok s' → Along step P s' ops

/-- Two conditions that agree where an invariant holds agree along every run, when the steps that
meet the first one keep the invariant. -/
theorem Along.congr_of_inv {I : σ → Prop} (same : ∀ s o, I s → (P s o ↔ Q s o))
    (keeps : ∀ s o s', I s → P s o → step s o = .ok s' → I s') (ops : List ι) {s : σ}
    (hs : I s) : Along step P s ops ↔ Along step Q s ops := by
  induction ops generalizing s with
  | nil => exact Iff.rfl
  | cons o ops ih =>
    constructor
    · rintro ⟨hP, rest⟩
      exact ⟨(same s o hs).mp hP, fun s' next => (ih (keeps s o s' hs hP next)).mp (rest s' next)⟩
    · rintro ⟨hQ, rest⟩
      have hP := (same s o hs).mpr hQ
      exact ⟨hP, fun s' next => (ih (keeps s o s' hs hP next)).mpr (rest s' next)⟩

end Fallible

end Lib
