import Pcrf.Lib.Machine

/-!
Endless runs of a machine. A goal is reached when a rank falls: in every state some operation
helps, it stays the one that helps until it comes, and a fair schedule lets it come.
-/

namespace Lib

variable {σ ι : Type*}

/-- The first `n` operations of an endless schedule. -/
def firstOf (schedule : ℕ → ι) (n : ℕ) : List ι := (List.range n).map schedule

theorem firstOf_succ (schedule : ℕ → ι) (n : ℕ) :
    firstOf schedule (n + 1) = firstOf schedule n ++ [schedule n] := by
  rw [firstOf, firstOf, List.range_succ, List.map_append]
  rfl

theorem prefix_firstOf (schedule : ℕ → ι) {n m : ℕ} (h : n ≤ m) :
    firstOf schedule n <+: firstOf schedule m := by
  induction h with
  | refl => exact List.prefix_rfl
  | step _ ih =>
    rw [firstOf_succ]
    exact ih.trans (List.prefix_append ..)

/-- The operation comes again and again. -/
def ComesAlways (schedule : ℕ → ι) (o : ι) : Prop := ∀ n, ∃ m, n ≤ m ∧ schedule m = o

/-- Of a property that may be lost only when the goal is reached, a fair operation is awaited. -/
theorem awaits {schedule : ℕ → ι} {o : ι} (fair : ComesAlways schedule o)
    {P G : ℕ → Prop} (stays : ∀ n, P n → schedule n ≠ o → G (n + 1) ∨ P (n + 1))
    {n : ℕ} (start : P n) :
    ∃ m, n ≤ m ∧ ((P m ∧ schedule m = o) ∨ G m) := by
  obtain ⟨last, hLast, hComes⟩ := fair n
  -- by induction on how long the operation is still away
  induction hAway : last - n generalizing n with
  | zero =>
    obtain rfl : last = n := by omega
    exact ⟨last, Nat.le_refl _, .inl ⟨start, hComes⟩⟩
  | succ away ih =>
    by_cases hNow : schedule n = o
    · exact ⟨n, Nat.le_refl _, .inl ⟨start, hNow⟩⟩
    · rcases stays n start hNow with goal | next
      · exact ⟨n + 1, by omega, .inr goal⟩
      · obtain ⟨m, hm, found⟩ := ih next (by omega) (by omega)
        exact ⟨m, by omega, found⟩

/-- A step goes on to a smaller rank, or changes neither the rank nor what helps, and is not the
operation that helps. -/
def Approaches (rank : σ → ℕ) (helpful : σ → ι) (s : σ) (o : ι) (s' : σ) : Prop :=
  rank s' < rank s ∨ (rank s' = rank s ∧ helpful s' = helpful s ∧ o ≠ helpful s)

/-- Under a fair schedule the goal is reached. -/
theorem eventually_of_rank (schedule : ℕ → ι) (state : ℕ → σ) (rank : σ → ℕ) (helpful : σ → ι)
    {P G : ℕ → Prop} (fair : ∀ n, P n → ComesAlways schedule (helpful (state n)))
    (step : ∀ n, P n → G (n + 1) ∨
      (P (n + 1) ∧ Approaches rank helpful (state n) (schedule n) (state (n + 1))))
    {n : ℕ} (start : P n) : ∃ m, n ≤ m ∧ G m := by
  induction hRank : rank (state n) using Nat.strongRecOn generalizing n with
  | _ r ih =>
    -- until the operation that helps comes, the rank stays, or the goal or a smaller rank is there
    have waiting := awaits (fair n start)
      (P := fun k => n ≤ k ∧ P k ∧ rank (state k) = r ∧ helpful (state k) = helpful (state n))
      (G := fun k => n ≤ k ∧ (G k ∨ (P k ∧ rank (state k) < r)))
      (fun k hk hNot => by
        obtain ⟨hLe, hP, hSame, hHelp⟩ := hk
        rcases step k hP with goal | ⟨next, smaller | ⟨same, help, -⟩⟩
        · exact .inl ⟨by omega, .inl goal⟩
        · exact .inl ⟨by omega, .inr ⟨next, by omega⟩⟩
        · exact .inr ⟨by omega, next, same.trans hSame, help.trans hHelp⟩)
      (n := n) ⟨Nat.le_refl _, start, hRank, rfl⟩
    obtain ⟨m, hLe, ⟨⟨-, hP, hSame, hHelp⟩, hComes⟩ | ⟨-, goal | ⟨hP, smaller⟩⟩⟩ := waiting
    · -- the operation that helps has come: its step cannot leave the rank as it is
      rcases step m hP with goal | ⟨next, approaches⟩
      · exact ⟨m + 1, by omega, goal⟩
      · rcases approaches with smaller | ⟨-, -, hNot⟩
        · obtain ⟨k, hk, goal⟩ := ih _ (by omega) next rfl
          exact ⟨k, by omega, goal⟩
        · exact absurd (hComes.trans hHelp.symm) hNot
    · exact ⟨m, hLe, goal⟩
    · obtain ⟨k, hk, goal⟩ := ih _ smaller hP rfl
      exact ⟨k, by omega, goal⟩

end Lib
