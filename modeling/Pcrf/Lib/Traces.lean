import Mathlib.Data.List.Nodup
import Mathlib.Data.List.Perm.Basic

/-!
Two records of the same events. A run of actions ends in the same state in either order of the
record, as long as two actions that do not commute stand in one order in both. `InStep` is what
is kept of that while the two records are still being written.
-/

namespace Lib

/-- The order in which the two are applied makes no difference. -/
def Commutes {σ : Type*} (f g : σ → σ) : Prop := ∀ s, f (g s) = g (f s)

theorem Commutes.symm {σ : Type*} {f g : σ → σ} (h : Commutes f g) : Commutes g f :=
  fun s => (h s).symm

section Records

variable {ι : Type*}

/-- `a` stands before `b` in the record. -/
def Before (l : List ι) (a b : ι) : Prop := [a, b].Sublist l

theorem Before.mem_left {l : List ι} {a b : ι} (h : Before l a b) : a ∈ l := h.subset (by simp)

theorem Before.mem_right {l : List ι} {a b : ι} (h : Before l a b) : b ∈ l := h.subset (by simp)

theorem before_snoc {l : List ι} {a b c : ι} :
    Before (l ++ [c]) a b ↔ Before l a b ∨ (a ∈ l ∧ b = c) := by
  constructor
  · intro h
    obtain ⟨front, back, heq, hfront, hback⟩ := List.sublist_append_iff.mp h
    cases List.sublist_singleton.mp hback with
    | inl nothing =>
      subst nothing
      rw [List.append_nil] at heq
      subst heq
      exact .inl hfront
    | inr last =>
      subst last
      obtain ⟨rfl, hb⟩ := List.append_inj' (show [a] ++ [b] = front ++ [c] from heq) rfl
      exact .inr ⟨List.singleton_sublist.mp hfront, List.singleton_inj.mp hb⟩
  · rintro (h | ⟨ha, rfl⟩)
    · exact h.trans (List.sublist_append_left ..)
    · exact (List.singleton_sublist.mpr ha).append_right [b]

/-- In a record without repetition two events stand in one order only. -/
theorem Before.asymm {l : List ι} (nodup : l.Nodup) {a b : ι} (h : Before l a b) :
    ¬ Before l b a := by
  induction l with
  | nil => cases h
  | cons x l ih =>
    rw [List.nodup_cons] at nodup
    intro h'
    cases h with
    | cons _ h =>
      cases h' with
      | cons _ h' => exact ih nodup.2 h h'
      | cons_cons _ h' => exact nodup.1 (Before.mem_right h)
    | cons_cons _ h =>
      cases h' with
      | cons _ h' => exact nodup.1 (Before.mem_right h')
      | cons_cons _ h' => exact nodup.1 (List.singleton_sublist.mp h)

/-! ### Runs in two orders -/

section Runs

variable {σ : Type*} (act : ι → σ → σ)

/-- Apply the actions of a record, in its order. -/
def replay (s : σ) (l : List ι) : σ := l.foldl (fun s a => act a s) s

variable {act}

theorem replay_snoc (s : σ) (l : List ι) (a : ι) :
    replay act s (l ++ [a]) = act a (replay act s l) :=
  List.foldl_append ..

/-- An action that commutes with all before it may be applied first. -/
theorem replay_move {a : ι} {l r : List ι} (commutes : ∀ b ∈ l, Commutes (act a) (act b)) (s : σ) :
    replay act s (l ++ a :: r) = replay act (act a s) (l ++ r) := by
  induction l generalizing s with
  | nil => rfl
  | cons b l ih =>
    have swap : act a (act b s) = act b (act a s) := commutes b (by simp) s
    calc replay act s (b :: l ++ a :: r)
        = replay act (act b s) (l ++ a :: r) := rfl
      _ = replay act (act a (act b s)) (l ++ r) := ih (fun c hc => commutes c (by simp [hc])) _
      _ = replay act (act b (act a s)) (l ++ r) := by rw [swap]

/-- Two records of the same events that agree on the order of those that do not commute. -/
theorem replay_eq {X Y : List ι} (perm : X.Perm Y) (nodup : X.Nodup)
    (agree : ∀ a b, ¬ Commutes (act a) (act b) → Before X a b → ¬ Before Y b a) (s : σ) :
    replay act s X = replay act s Y := by
  induction X generalizing Y s with
  | nil => rw [List.nil_perm.mp perm]
  | cons x X ih =>
    rw [List.nodup_cons] at nodup
    obtain ⟨front, back, rfl⟩ := List.append_of_mem (perm.subset (List.mem_cons_self ..))
    have rest : X.Perm (front ++ back) :=
      (perm.trans List.perm_middle).cons_inv
    -- whatever the second record has before `x` commutes with it
    have commutes : ∀ y ∈ front, Commutes (act x) (act y) := by
      intro y hy
      by_contra conflict
      have later : y ∈ X := rest.mem_iff.mpr (List.mem_append_left _ hy)
      refine agree x y conflict ((List.singleton_sublist.mpr later).cons_cons x) ?_
      exact (List.singleton_sublist.mpr hy).append (List.singleton_sublist.mpr (by simp))
    rw [replay_move commutes]
    refine ih rest nodup.2 (fun a b conflict first second => ?_) (act x s)
    have whole : (front ++ back).Sublist (front ++ x :: back) :=
      (List.Sublist.refl front).append (List.sublist_cons_self ..)
    exact agree a b conflict (first.trans (List.sublist_cons_self ..)) (second.trans whole)

/-- Actions that change nothing may be left out. -/
theorem replay_filter {p : ι → Bool} (idle : ∀ a, p a = false → ∀ s, act a s = s) (s : σ)
    (l : List ι) : replay act s (l.filter p) = replay act s l := by
  induction l generalizing s with
  | nil => rfl
  | cons a l ih =>
    cases ha : p a with
    | true =>
      rw [List.filter_cons_of_pos (by simpa using ha)]
      exact ih (act a s)
    | false =>
      rw [List.filter_cons_of_neg (by simp [ha]), ih]
      exact (congrArg (replay act · l) (idle a ha s)).symm

/-! ### Steps that may fail -/

/-- A step after others, which may have failed. -/
def attempt (f : σ → Option σ) (s : Option σ) : Option σ := s.bind f

theorem commutes_attempt {f g : σ → Option σ} :
    Commutes (attempt f) (attempt g) ↔ ∀ s, (g s).bind f = (f s).bind g := by
  constructor
  · intro h s
    exact h (some s)
  · intro h s
    cases s with
    | none => rfl
    | some s => exact h s

theorem commutes_of_fails {f : σ → Option σ} (h : ∀ s, f s = none) (g : σ → Option σ) :
    Commutes (attempt f) (attempt g) := by
  refine commutes_attempt.mpr fun s => ?_
  rw [h s, Option.bind_none]
  exact Option.bind_eq_none_iff.mpr fun s' _ => h s'

theorem commutes_of_idle {f : σ → Option σ} (h : ∀ s, f s = some s) (g : σ → Option σ) :
    Commutes (attempt f) (attempt g) := by
  refine commutes_attempt.mpr fun s => ?_
  rw [h s, Option.bind_some, show f = some from funext h, Option.bind_fun_some]

theorem commutes_of_edits {f g : σ → Option σ} {edit edit' : σ → σ} (hf : ∀ s, f s = some (edit s))
    (hg : ∀ s, g s = some (edit' s)) (h : Commutes edit edit') :
    Commutes (attempt f) (attempt g) := by
  refine commutes_attempt.mpr fun s => ?_
  rw [hf s, hg s, Option.bind_some, Option.bind_some, hf, hg, h s]

/-- Once a step has failed, the others change nothing. -/
theorem replay_none {f : ι → σ → Option σ} (l : List ι) :
    replay (fun a => attempt (f a)) none l = none := by
  induction l with
  | nil => rfl
  | cons a l ih => exact ih

theorem foldlM_eq_replay {f : ι → σ → Option σ} (s : σ) (l : List ι) :
    l.foldlM (fun s a => f a s) s = replay (fun a => attempt (f a)) (some s) l := by
  induction l generalizing s with
  | nil => rfl
  | cons a l ih =>
    rw [List.foldlM_cons]
    change (f a s).bind _ = replay _ (f a s) l
    cases f a s with
    | none => exact (replay_none l).symm
    | some s' => exact ih s'

end Runs

/-! ### Records being written -/

/-- No two conflicting events stand in different orders in the two records, and none will have to:
an event that only one record has stands there after those that the other one has. -/
structure InStep (conflict : ι → ι → Prop) (X Y : List ι) : Prop where
  agree : ∀ a b, conflict a b → Before X a b → ¬ Before Y b a
  left : ∀ a b, conflict a b → a ∈ X → b ∈ Y → b ∉ X → Before Y a b
  right : ∀ a b, conflict a b → a ∈ Y → b ∈ X → b ∉ Y → Before X a b

/-- The event may be written to `X` next: a conflicting one that stands in `Y` stands in `X` too,
or has this one before it. -/
def Admits (conflict : ι → ι → Prop) (X Y : List ι) (a : ι) : Prop :=
  ∀ b, conflict a b → b ∈ Y → b ∈ X ∨ Before Y a b

variable {conflict : ι → ι → Prop} {X Y : List ι}

theorem InStep.nil : InStep conflict [] [] where
  agree _ _ _ h := by cases h
  left _ _ _ h := by cases h
  right _ _ _ h := by cases h

theorem InStep.symm (symm : ∀ a b, conflict a b → conflict b a) (h : InStep conflict X Y) :
    InStep conflict Y X where
  agree a b hc hY hX := h.agree b a (symm a b hc) hX hY
  left := h.right
  right := h.left

theorem InStep.snoc (symm : ∀ a b, conflict a b → conflict b a) (h : InStep conflict X Y)
    (nodup : Y.Nodup) {a : ι} (new : a ∉ X) (admits : Admits conflict X Y a) :
    InStep conflict (X ++ [a]) Y where
  agree c d hc first second := by
    cases before_snoc.mp first with
    | inl first => exact h.agree c d hc first second
    | inr last =>
      obtain ⟨hcX, rfl⟩ := last
      -- the one that `Y` alone had so far already stood behind the other there
      exact second.asymm nodup (h.left c d hc hcX second.mem_left new)
  left c d hc hcX hdY hdX := by
    have old : d ∉ X := fun mem => hdX (List.mem_append_left _ mem)
    cases List.mem_append.mp hcX with
    | inl hcX => exact h.left c d hc hcX hdY old
    | inr last =>
      obtain rfl := List.mem_singleton.mp last
      exact (admits d hc hdY).resolve_left old
  right c d hc hcY hdX hdY := by
    cases List.mem_append.mp hdX with
    | inl hdX => exact (h.right c d hc hcY hdX hdY).trans (List.sublist_append_left ..)
    | inr last =>
      obtain rfl := List.mem_singleton.mp last
      cases admits c (symm c d hc) hcY with
      | inl hcX => exact before_snoc.mpr (.inr ⟨hcX, rfl⟩)
      | inr first => exact absurd first.mem_left hdY

end Records

end Lib
