import Pcrf.Lib.Calls

/-!
What programs leave as it is, whatever their calls answer: frames, which leave a part of the
state alone and fail no call that would have succeeded, and invariants.
-/

namespace Lib.CallM

variable {σ τ α β : Type}

/-- The program leaves the part `p` of the state as it is. -/
structure Frame (p : σ → τ) (x : CallM σ α) : Prop where
  keeps : ∀ s, p (exec x s).2.state = p s.state
  succeeds : ∀ s : Answering σ, s.AllSucceed → (exec x s).2.AllSucceed

namespace Frame

variable {p : σ → τ}

theorem pure (a : α) : Frame p (return a : CallM σ α) := ⟨fun _ => rfl, fun _ hs => hs⟩

/-- In any case no call fails that would have succeeded. -/
theorem forget {x : CallM σ α} (hx : Frame p x) : Frame (fun _ => ()) x :=
  ⟨fun _ => rfl, hx.succeeds⟩

theorem call : Frame p (CallM.call : CallM σ Unit) where
  keeps _ := rfl
  succeeds s hs := by
    rw [exec_call hs]
    exact hs

theorem update {f : σ → σ} (h : ∀ st, p (f st) = p st) : Frame p (CallM.update f) :=
  ⟨fun s => h s.state, fun _ hs => hs⟩

/-- What follows needs the frame for the results only that the first part gives. -/
theorem bindOf {Q : α → Prop} {x : CallM σ α} {f : α → CallM σ β} (hx : Frame p x)
    (hq : ∀ s a, (exec x s).1 = some a → Q a) (hf : ∀ a, Q a → Frame p (f a)) :
    Frame p (x >>= f) := by
  -- the state at the end is the one of `x`, or the one that some `f a` makes of it
  have hexec (s : Answering σ) : (exec (x >>= f) s).2 = (exec x s).2 ∨
      ∃ a, Q a ∧ (exec (x >>= f) s).2 = (exec (f a) (exec x s).2).2 := by
    have hresult := hq s
    rw [exec_bind]
    cases h : exec x s with
    | mk result s' =>
      rw [h] at hresult
      cases result with
      | none => exact .inl rfl
      | some a => exact .inr ⟨a, hresult a rfl, rfl⟩
  constructor
  · intro s
    rcases hexec s with h | ⟨a, ha, h⟩
    · rw [h, hx.keeps]
    · rw [h, (hf a ha).keeps, hx.keeps]
  · intro s hs
    rcases hexec s with h | ⟨a, ha, h⟩
    · exact h ▸ hx.succeeds s hs
    · exact h ▸ (hf a ha).succeeds _ (hx.succeeds s hs)

theorem bind {x : CallM σ α} {f : α → CallM σ β} (hx : Frame p x) (hf : ∀ a, Frame p (f a)) :
    Frame p (x >>= f) :=
  hx.bindOf (fun _ _ _ => trivial) fun a _ => hf a

theorem attempt {x : CallM σ α} (hx : Frame p x) : Frame p (CallM.attempt x) :=
  ⟨hx.keeps, hx.succeeds⟩

theorem tolerate {x : CallM σ Unit} (hx : Frame p x) : Frame p (CallM.tolerate x) :=
  ⟨hx.keeps, hx.succeeds⟩

theorem calls (n : Nat) : Frame p (CallM.calls n : CallM σ Unit) := by
  induction n with
  | zero => exact pure ()
  | succ n ih => exact call.bind fun _ => ih

theorem runAll {steps : List (List α → CallM σ (List α))}
    (h : ∀ step ∈ steps, ∀ l, Frame p (step l)) (l : List α) :
    Frame p (CallM.runAll steps l) := by
  induction steps generalizing l with
  | nil => exact pure l
  | cons step steps ih =>
    have hsteps := ih fun step' hmem => h step' (List.mem_cons_of_mem _ hmem)
    exact (h step (List.mem_cons_self ..) l).bind fun l' => hsteps l'

end Frame

/-- The program keeps the invariant `I`, also when it is abandoned; its result, if it has one,
has the property `Q`. -/
structure Maintains (I : σ → Prop) (Q : α → Prop) (x : CallM σ α) : Prop where
  keeps : ∀ s, I s.state → I (exec x s).2.state
  gives : ∀ s, I s.state → ∀ a, (exec x s).1 = some a → Q a

/-- A program that changes nothing keeps every invariant. -/
theorem Frame.maintains {I : σ → Prop} {Q : α → Prop} {x : CallM σ α} (hx : Frame id x)
    (hq : Maintains (fun _ => True) Q x) : Maintains I Q x where
  keeps s hs := by
    rw [show (exec x s).2.state = s.state from hx.keeps s]
    exact hs
  gives s _ := hq.gives s trivial

/-- A program that changes nothing is abandoned, or gives one of its results. -/
theorem Frame.exec_cases {Q : α → Prop} {x : CallM σ α} (hx : Frame id x)
    (hq : Maintains (fun _ => True) Q x) (s : Answering σ) :
    (∃ s', exec x s = (none, s') ∧ s'.state = s.state) ∨
      ∃ a s', exec x s = (some a, s') ∧ s'.state = s.state ∧ Q a := by
  have same : (exec x s).2.state = s.state := hx.keeps s
  cases h : exec x s with
  | mk result s' =>
    rw [h] at same
    cases result with
    | none => exact .inl ⟨s', rfl, same⟩
    | some a => exact .inr ⟨a, s', rfl, same, hq.gives s trivial a (by rw [h])⟩

namespace Maintains

variable {I : σ → Prop} {Q : α → Prop} {Q' : β → Prop}

theorem any (x : CallM σ α) : Maintains (fun _ => True) (fun _ => True) x :=
  ⟨fun _ _ => trivial, fun _ _ _ _ => trivial⟩

theorem pure {a : α} (h : Q a) : Maintains I Q (return a : CallM σ α) :=
  ⟨fun _ hs => hs, fun _ _ _ ha => Option.some.inj ha ▸ h⟩

theorem call : Maintains I (fun _ => True) (CallM.call : CallM σ Unit) :=
  Frame.call.maintains (any _)

theorem update {f : σ → σ} (h : ∀ st, I st → I (f st)) :
    Maintains I (fun _ => True) (CallM.update f) :=
  ⟨fun s hs => h s.state hs, fun _ _ _ _ => trivial⟩

theorem bind {x : CallM σ α} {f : α → CallM σ β} (hx : Maintains I Q x)
    (hf : ∀ a, Q a → Maintains I Q' (f a)) : Maintains I Q' (x >>= f) := by
  -- either `x` is abandoned, or what it gives is handed on
  have hexec (s : Answering σ) (hs : I s.state) :
      exec (x >>= f) s = (none, (exec x s).2) ∨
        ∃ a, Q a ∧ exec (x >>= f) s = exec (f a) (exec x s).2 := by
    have hresult := hx.gives s hs
    rw [exec_bind]
    cases h : exec x s with
    | mk result s' =>
      cases result with
      | none => exact .inl rfl
      | some a => exact .inr ⟨a, hresult a (by rw [h]), rfl⟩
  constructor
  · intro s hs
    rcases hexec s hs with h | ⟨a, ha, h⟩
    · rw [h]
      exact hx.keeps s hs
    · rw [h]
      exact (hf a ha).keeps _ (hx.keeps s hs)
  · intro s hs b hb
    rcases hexec s hs with h | ⟨a, ha, h⟩
    · rw [h] at hb
      exact absurd hb (Option.some_ne_none b).symm
    · rw [h] at hb
      exact (hf a ha).gives _ (hx.keeps s hs) b hb

/-- A part that fails gives no result, and there is nothing to say about it. -/
theorem attempt {x : CallM σ α} (hx : Maintains I Q x) :
    Maintains I (fun result => ∀ a, result = some a → Q a) (CallM.attempt x) :=
  ⟨hx.keeps, fun s hs _ hresult a ha => hx.gives s hs a ((Option.some.inj hresult).trans ha)⟩

theorem tolerate {x : CallM σ Unit} (hx : Maintains I (fun _ => True) x) :
    Maintains I (fun _ => True) (CallM.tolerate x) :=
  ⟨hx.keeps, fun _ _ _ _ => trivial⟩

end Maintains

end Lib.CallM
