import Mathlib.Data.List.Nodup
import Mathlib.Logic.Function.Basic

/-!
Jobs that arrive one after another and are given to workers, each of which performs the steps of
one job at a time. Whatever the workers do, each job is performed once, its steps in order; the
order between jobs is kept for those steps that no worker performs ahead of an earlier job.
-/

namespace Lib

/-- The jobs so far, each with its steps; whether the last of them has still to be given to a
worker; what each worker has left of which job; and the steps performed, with the numbers of
their jobs. -/
structure Dispatch (α : Type*) where
  jobs : List (List α) := []
  waiting : Bool := false
  workers : Nat → Option (Nat × List α) := fun _ => none
  history : List (Nat × α) := []

namespace Dispatch

variable {α : Type*}

/-- What can happen next. A step that is performed is labelled with its worker. -/
inductive Step : Dispatch α → Option Nat → Dispatch α → Prop
  | arrive (d : Dispatch α) (job : List α) (ready : d.waiting = false) :
    Step d none { d with jobs := d.jobs ++ [job], waiting := true }
  | give (d : Dispatch α) (k : Nat) (job : List α) (waits : d.waiting = true)
    (last : d.jobs[d.jobs.length - 1]? = some job) (idle : d.workers k = none) :
    Step d none
      { d with
        waiting := false
        workers := Function.update d.workers k (some (d.jobs.length - 1, job)) }
  | perform (d : Dispatch α) (k n : Nat) (a : α) (rest : List α)
    (next : d.workers k = some (n, a :: rest)) :
    Step d (some k)
      { d with
        workers := Function.update d.workers k (some (n, rest))
        history := d.history ++ [(n, a)] }
  | finish (d : Dispatch α) (k n : Nat) (done : d.workers k = some (n, [])) :
    Step d none { d with workers := Function.update d.workers k none }

/-- The steps performed of a job. -/
def made (d : Dispatch α) (i : Nat) : List α := (d.history.filter fun a => a.1 = i).map Prod.snd

/-- Every job waits, or is with one worker, or is done. -/
structure Accounted (d : Dispatch α) : Prop where
  unmade : d.waiting = true → d.jobs ≠ [] ∧ d.made (d.jobs.length - 1) = []
  apart : d.waiting = true → ∀ k n l, d.workers k = some (n, l) → n ≠ d.jobs.length - 1
  holds : ∀ k n l, d.workers k = some (n, l) →
    ∃ job, d.jobs[n]? = some job ∧ d.made n ++ l = job
  distinct : ∀ k k' n l l', d.workers k = some (n, l) → d.workers k' = some (n, l') → k = k'
  complete : ∀ i job, d.jobs[i]? = some job → (d.waiting = true → i ≠ d.jobs.length - 1) →
    (∀ k n l, d.workers k = some (n, l) → n ≠ i) → d.made i = job
  known : ∀ a ∈ d.history, a.1 < d.jobs.length

theorem Accounted.start : Accounted ({} : Dispatch α) where
  unmade h := by cases h
  apart h := by cases h
  holds _ _ _ h := by cases h
  distinct _ _ _ _ _ h := by cases h
  complete _ _ h := by simp at h
  known _ h := by cases h

theorem made_snoc (history : List (Nat × α)) (n : Nat) (a : α) (i : Nat) :
    ((history ++ [(n, a)]).filter fun a => a.1 = i).map Prod.snd =
      (history.filter fun a => a.1 = i).map Prod.snd ++ if n = i then [a] else [] := by
  by_cases h : n = i <;> simp [h]

/-- The numbers that workers have are those of jobs. -/
theorem Accounted.lt_length {d : Dispatch α} (h : Accounted d) {k n : Nat} {l : List α}
    (hk : d.workers k = some (n, l)) : n < d.jobs.length := by
  obtain ⟨job, hjob, -⟩ := h.holds k n l hk
  exact (List.getElem?_eq_some_iff.mp hjob).1

/-- What a worker has after the update of one of them. -/
theorem workers_update {workers : Nat → Option (Nat × List α)} {k k' : Nat}
    {w w' : Option (Nat × List α)} (h : Function.update workers k w k' = w') :
    (k' = k ∧ w = w') ∨ (k' ≠ k ∧ workers k' = w') := by
  by_cases hk : k' = k
  · subst hk
    exact .inl ⟨rfl, by simpa using h⟩
  · exact .inr ⟨hk, by simpa [hk] using h⟩

theorem Accounted.arrive {d : Dispatch α} (h : Accounted d) (job : List α)
    (ready : d.waiting = false) :
    Accounted { d with jobs := d.jobs ++ [job], waiting := true } where
  unmade _ := by
    refine ⟨by simp, ?_⟩
    -- no step can have the number of a job that has not come yet
    have none_made : d.history.filter (fun a => a.1 = d.jobs.length) = [] :=
      List.filter_eq_nil_iff.mpr fun a mem => by
        have := h.known a mem
        simp only [decide_eq_true_eq]
        omega
    simp [made, none_made]
  apart _ k n l hk := by
    have := h.lt_length hk
    simp only [List.length_append, List.length_singleton]
    omega
  holds k n l hk := by
    obtain ⟨job', hjob, whole⟩ := h.holds k n l hk
    exact ⟨job', by rw [List.getElem?_append_left (h.lt_length hk)]; exact hjob, whole⟩
  distinct := h.distinct
  complete i job' hjob later others := by
    have ne : i ≠ d.jobs.length := by simpa using later rfl
    have lt : i < (d.jobs ++ [job]).length := (List.getElem?_eq_some_iff.mp hjob).1
    rw [List.length_append, List.length_singleton] at lt
    simp only [List.getElem?_append_left (show i < d.jobs.length by omega)] at hjob
    exact h.complete i job' hjob (fun waits => by simp [ready] at waits) others
  known a mem := by
    have := h.known a mem
    simp only [List.length_append, List.length_singleton]
    omega

theorem Accounted.give {d : Dispatch α} (h : Accounted d) {k : Nat} {job : List α}
    (waits : d.waiting = true) (last : d.jobs[d.jobs.length - 1]? = some job)
    (idle : d.workers k = none) :
    Accounted
      { d with
        waiting := false
        workers := Function.update d.workers k (some (d.jobs.length - 1, job)) } where
  unmade h := by cases h
  apart h := by cases h
  holds k' n l hk := by
    cases workers_update hk with
    | inl new =>
      obtain ⟨-, same⟩ := new
      obtain ⟨rfl, rfl⟩ := Prod.mk.inj (Option.some.inj same)
      exact ⟨job, last, congrArg (· ++ job) (h.unmade waits).2⟩
    | inr old => exact h.holds k' n l old.2
  -- the job that waited is new to all workers
  distinct k₁ k₂ n l l' h₁ h₂ := by
    cases workers_update h₁ with
    | inl new₁ =>
      cases workers_update h₂ with
      | inl new₂ => exact new₁.1.trans new₂.1.symm
      | inr old₂ =>
        obtain ⟨rfl, -⟩ := Prod.mk.inj (Option.some.inj new₁.2)
        exact absurd rfl (h.apart waits k₂ _ l' old₂.2)
    | inr old₁ =>
      cases workers_update h₂ with
      | inl new₂ =>
        obtain ⟨rfl, -⟩ := Prod.mk.inj (Option.some.inj new₂.2)
        exact absurd rfl (h.apart waits k₁ _ l old₁.2)
      | inr old₂ => exact h.distinct k₁ k₂ n l l' old₁.2 old₂.2
  complete i job' hjob _ others := by
    -- the job that is given is not complete, so `i` is another
    have ne : d.jobs.length - 1 ≠ i := others k _ job (Function.update_self ..)
    refine h.complete i job' hjob (fun _ => ne.symm) fun k' n l hk => others k' n l ?_
    have hne : k' ≠ k := by
      rintro rfl
      cases idle.symm.trans hk
    exact (Function.update_of_ne hne ..).trans hk
  known := h.known

theorem Accounted.perform {d : Dispatch α} (h : Accounted d) {k n : Nat} {a : α} {rest : List α}
    (next : d.workers k = some (n, a :: rest)) :
    Accounted
      { d with
        workers := Function.update d.workers k (some (n, rest))
        history := d.history ++ [(n, a)] } where
  unmade waits := by
    refine ⟨(h.unmade waits).1, ?_⟩
    rw [made, made_snoc, if_neg (h.apart waits k n _ next), List.append_nil]
    exact (h.unmade waits).2
  apart waits k' n' l hk := by
    cases workers_update hk with
    | inl new =>
      obtain ⟨rfl, -⟩ := Prod.mk.inj (Option.some.inj new.2)
      exact h.apart waits k n _ next
    | inr old => exact h.apart waits k' n' l old.2
  holds k' n' l hk := by
    rw [made, made_snoc]
    cases workers_update hk with
    | inl new =>
      obtain ⟨rfl, rfl⟩ := Prod.mk.inj (Option.some.inj new.2)
      obtain ⟨job, hjob, whole⟩ := h.holds k n _ next
      exact ⟨job, hjob, by rw [if_pos rfl, List.append_assoc]; exact whole⟩
    | inr old =>
      -- the step belongs to the job of one worker only
      have ne : n ≠ n' := fun same =>
        old.1 (h.distinct k' k n' l (a :: rest) old.2 (same ▸ next))
      rw [if_neg ne, List.append_nil]
      exact h.holds k' n' l old.2
  distinct k₁ k₂ m l l' h₁ h₂ := by
    -- the worker has the same job as before
    have before : ∀ k' l, Function.update d.workers k (some (n, rest)) k' = some (m, l) →
        ∃ l', d.workers k' = some (m, l') := by
      intro k' l hk
      cases workers_update hk with
      | inl new =>
        obtain ⟨rfl, -⟩ := Prod.mk.inj (Option.some.inj new.2)
        exact ⟨a :: rest, new.1 ▸ next⟩
      | inr old => exact ⟨l, old.2⟩
    obtain ⟨l₁, h₁⟩ := before k₁ l h₁
    obtain ⟨l₂, h₂⟩ := before k₂ l' h₂
    exact h.distinct k₁ k₂ m l₁ l₂ h₁ h₂
  complete i job hjob later others := by
    have ne : n ≠ i := others k n rest (Function.update_self ..)
    rw [made, made_snoc, if_neg ne, List.append_nil]
    refine h.complete i job hjob later fun k' n' l hk => ?_
    by_cases hk' : k' = k
    · subst hk'
      obtain ⟨rfl, -⟩ := Prod.mk.inj (Option.some.inj (next.symm.trans hk))
      exact ne
    · exact others k' n' l ((Function.update_of_ne hk' ..).trans hk)
  known b mem := by
    cases List.mem_append.mp mem with
    | inl old => exact h.known b old
    | inr new =>
      obtain rfl := List.mem_singleton.mp new
      exact h.lt_length next

theorem Accounted.finish {d : Dispatch α} (h : Accounted d) {k n : Nat}
    (done : d.workers k = some (n, [])) :
    Accounted { d with workers := Function.update d.workers k none } where
  unmade := h.unmade
  apart waits k' n' l hk := by
    cases workers_update hk with
    | inl new => cases new.2
    | inr old => exact h.apart waits k' n' l old.2
  holds k' n' l hk := by
    cases workers_update hk with
    | inl new => cases new.2
    | inr old => exact h.holds k' n' l old.2
  distinct k₁ k₂ m l l' h₁ h₂ := by
    cases workers_update h₁ with
    | inl new₁ => cases new₁.2
    | inr old₁ =>
      cases workers_update h₂ with
      | inl new₂ => cases new₂.2
      | inr old₂ => exact h.distinct k₁ k₂ m l l' old₁.2 old₂.2
  complete i job hjob later others := by
    -- a job whose worker has nothing left is complete
    by_cases same : n = i
    · subst same
      obtain ⟨job', hjob', whole⟩ := h.holds k n [] done
      obtain rfl := Option.some.inj (hjob'.symm.trans hjob)
      exact (List.append_nil _).symm.trans whole
    · refine h.complete i job hjob later fun k' n' l hk => ?_
      by_cases hk' : k' = k
      · subst hk'
        obtain ⟨rfl, -⟩ := Prod.mk.inj (Option.some.inj (done.symm.trans hk))
        exact same
      · exact others k' n' l ((Function.update_of_ne hk' ..).trans hk)
  known := h.known

theorem Accounted.step {d d' : Dispatch α} {worker : Option Nat} (h : Accounted d)
    (step : Step d worker d') : Accounted d' := by
  cases step with
  | arrive job ready => exact h.arrive job ready
  | give k job waits last idle => exact h.give waits last idle
  | perform k n a rest next => exact h.perform next
  | finish k n done => exact h.finish done

/-! ### The order between jobs -/

section Order

variable {κ : Type*} (key : α → κ)

/-- Steps with one key are performed in the order of their jobs. -/
def InOrder (history : List (Nat × α)) : Prop :=
  history.Pairwise fun a b => key a.2 = key b.2 → a.1 ≤ b.1

instance [DecidableEq κ] (history : List (Nat × α)) : Decidable (InOrder key history) :=
  inferInstanceAs (Decidable (history.Pairwise fun a b => key a.2 = key b.2 → a.1 ≤ b.1))

/-- Worker `k` performs its next step while no other worker has a step with the same key left of
an earlier job. -/
def Waits (d : Dispatch α) (k : Nat) : Prop :=
  ∀ n a rest, d.workers k = some (n, a :: rest) → ∀ k' n' l, k' ≠ k →
    d.workers k' = some (n', l) → n' < n → ∀ b ∈ l, key b ≠ key a

/-- Steps are in order so far, and no worker has a step left that is already late. -/
structure Ordered (d : Dispatch α) : Prop where
  inOrder : InOrder key d.history
  ahead : ∀ k n l, d.workers k = some (n, l) → ∀ b ∈ l, ∀ a ∈ d.history,
    key a.2 = key b → a.1 ≤ n

variable {key}

theorem Ordered.start : Ordered key ({} : Dispatch α) where
  inOrder := List.Pairwise.nil
  ahead _ _ _ h := by cases h

theorem Ordered.give {d : Dispatch α} (h : Ordered key d) (accounted : Accounted d) {k : Nat}
    {job : List α} :
    Ordered key
      { d with
        waiting := false
        workers := Function.update d.workers k (some (d.jobs.length - 1, job)) } where
  inOrder := h.inOrder
  ahead k' n l hk b hb a ha same := by
    cases workers_update hk with
    | inl new =>
      -- the last job is behind all others
      obtain ⟨rfl, -⟩ := Prod.mk.inj (Option.some.inj new.2)
      have := accounted.known a ha
      omega
    | inr old => exact h.ahead k' n l old.2 b hb a ha same

theorem Ordered.perform {d : Dispatch α} (h : Ordered key d) {k n : Nat} {a : α} {rest : List α}
    (next : d.workers k = some (n, a :: rest)) (waits : Waits key d k) :
    Ordered key
      { d with
        workers := Function.update d.workers k (some (n, rest))
        history := d.history ++ [(n, a)] } where
  inOrder := by
    -- the new step is the last, and no step before it belongs to a later job
    refine List.pairwise_append.mpr ⟨h.inOrder, List.pairwise_singleton .., ?_⟩
    intro b hb c hc same
    obtain rfl := List.mem_singleton.mp hc
    exact h.ahead k n _ next a (List.mem_cons_self ..) b hb same
  ahead k' n' l hk b hb c hc same := by
    cases workers_update hk with
    | inl new =>
      obtain ⟨rfl, rfl⟩ := Prod.mk.inj (Option.some.inj new.2)
      cases List.mem_append.mp hc with
      | inl old => exact h.ahead k n _ next b (List.mem_cons_of_mem _ hb) c old same
      | inr new =>
        obtain rfl := List.mem_singleton.mp new
        exact Nat.le_refl _
    | inr old =>
      cases List.mem_append.mp hc with
      | inl before => exact h.ahead k' n' l old.2 b hb c before same
      | inr new =>
        obtain rfl := List.mem_singleton.mp new
        -- a step that is now late was left of an earlier job
        by_contra late
        exact waits n a rest next k' n' l old.1 old.2 (Nat.lt_of_not_le late) b hb same.symm

theorem Ordered.finish {d : Dispatch α} (h : Ordered key d) {k : Nat} :
    Ordered key { d with workers := Function.update d.workers k none } where
  inOrder := h.inOrder
  ahead k' n' l hk := by
    cases workers_update hk with
    | inl new => cases new.2
    | inr old => exact h.ahead k' n' l old.2

theorem Ordered.step {d d' : Dispatch α} {worker : Option Nat} (h : Ordered key d)
    (accounted : Accounted d) (step : Step d worker d')
    (waits : ∀ k, worker = some k → Waits key d k) : Ordered key d' := by
  cases step with
  | arrive job ready => exact ⟨h.inOrder, h.ahead⟩
  | give k job => exact h.give accounted
  | perform k n a rest next => exact h.perform next (waits k rfl)
  | finish k n => exact h.finish

variable [DecidableEq κ]

/-- In a list that is sorted by number up to `n`, those with number `n` come last. -/
theorem sorted_split {l : List (Nat × α)} {n : Nat}
    (sorted : l.Pairwise fun a b => a.1 ≤ b.1) (last : ∀ a ∈ l, a.1 ≤ n) :
    ∃ before, l = before ++ l.filter fun a => a.1 = n := by
  induction l with
  | nil => exact ⟨[], rfl⟩
  | cons a l ih =>
    rw [List.pairwise_cons] at sorted
    -- from the first with number `n` on, all have it
    by_cases ha : a.1 = n
    · refine ⟨[], ?_⟩
      rw [List.nil_append, eq_comm, List.filter_eq_self]
      intro b hb
      rw [decide_eq_true_eq]
      cases List.mem_cons.mp hb with
      | inl same => exact same ▸ ha
      | inr later =>
        have := sorted.1 b later
        have := last b hb
        omega
    · obtain ⟨before, heq⟩ := ih sorted.2 fun b hb => last b (List.mem_cons_of_mem _ hb)
      refine ⟨a :: before, ?_⟩
      rw [List.filter_cons_of_neg (by simpa using ha), List.cons_append, ← heq]

/-- When nothing is left to do, the steps with a key end with those of the last job that has
any. -/
theorem Ordered.last {d : Dispatch α} (h : Ordered key d) (accounted : Accounted d)
    (ready : d.waiting = false) (idle : ∀ k, d.workers k = none) {x : κ} {n : Nat} {job : List α}
    (hjob : d.jobs[n]? = some job) (about : ∀ a ∈ job, key a = x)
    (none_later : ∀ i later, n < i → d.jobs[i]? = some later → ∀ a ∈ later, key a ≠ x) :
    ∃ before, (d.history.map Prod.snd).filter (fun a => key a = x) = before ++ job := by
  have done : ∀ i job, d.jobs[i]? = some job → d.made i = job := fun i job hjob =>
    accounted.complete i job hjob (fun waits => by simp [ready] at waits)
      fun k n l hk => by simp [idle k] at hk
  have sorted : (d.history.filter fun a => key a.2 = x).Pairwise fun a b => a.1 ≤ b.1 := by
    refine List.Pairwise.imp_of_mem ?_ (h.inOrder.filter _)
    intro a b ha hb le
    have ha := of_decide_eq_true (List.mem_filter.mp ha).2
    have hb := of_decide_eq_true (List.mem_filter.mp hb).2
    exact le (ha.trans hb.symm)
  -- no job after `n` has a step with the key
  have upTo : ∀ a ∈ d.history.filter fun a => key a.2 = x, a.1 ≤ n := by
    intro a ha
    rw [List.mem_filter, decide_eq_true_eq] at ha
    by_contra later
    have lt := accounted.known a ha.1
    have own : a.2 ∈ d.made a.1 :=
      List.mem_map.mpr ⟨a, List.mem_filter.mpr ⟨ha.1, by simp⟩, rfl⟩
    rw [done a.1 _ (List.getElem?_eq_getElem lt)] at own
    exact none_later a.1 _ (Nat.lt_of_not_le later) (List.getElem?_eq_getElem lt) a.2 own ha.2
  obtain ⟨before, split⟩ := sorted_split sorted upTo
  refine ⟨before.map Prod.snd, ?_⟩
  have ofJob : ((d.history.filter fun a => key a.2 = x).filter fun a => a.1 = n).map Prod.snd =
      job := by
    rw [List.filter_filter, ← done n job hjob, made]
    refine congrArg (List.map Prod.snd) (List.filter_congr fun a ha => ?_)
    by_cases hn : a.1 = n
    · have own : a.2 ∈ job := by
        rw [← done n job hjob]
        exact List.mem_map.mpr ⟨a, List.mem_filter.mpr ⟨ha, by simpa using hn⟩, rfl⟩
      simp [hn, about a.2 own]
    · simp [hn]
  rw [List.filter_map, ← ofJob, ← List.map_append, ← split]
  rfl

end Order

end Dispatch

end Lib
