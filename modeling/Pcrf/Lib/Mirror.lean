import Mathlib.Data.List.Basic

/-!
Entries that are kept at a far end by updates which arrive in the order they were sent, and the
sender's own record of them. The far end may lose entries, and the sender forgets some: what the
two know of each other, whatever is still on the way.
-/

namespace Lib

variable {α : Type*}

/-! ### Updates -/

/-- What one message takes away, and what it then adds. -/
structure Update (α : Type*) where
  removed : List α
  added : List α
  deriving Repr, DecidableEq

/-- The message is about the entry. -/
def Update.Mentions (u : Update α) (x : α) : Prop := x ∈ u.removed ∨ x ∈ u.added

section Updates

variable [DecidableEq α] {x : α} {u : Update α} {us : List (Update α)} {held held' : List α}

instance (u : Update α) (x : α) : Decidable (u.Mentions x) :=
  inferInstanceAs (Decidable (x ∈ u.removed ∨ x ∈ u.added))

def Update.apply (held : List α) (u : Update α) : List α :=
  held.filter (· ∉ u.removed) ++ u.added

theorem Update.mem_apply : x ∈ u.apply held ↔ x ∈ held ∧ x ∉ u.removed ∨ x ∈ u.added := by
  simp [Update.apply]

theorem Update.mem_apply_of_not_mentions (h : ¬ u.Mentions x) :
    x ∈ u.apply held ↔ x ∈ held := by
  obtain ⟨hremoved, hadded⟩ := not_or.mp h
  simp [Update.mem_apply, hremoved, hadded]

/-- What is held when all the updates have been applied. -/
def applyAll (held : List α) (us : List (Update α)) : List α := us.foldl Update.apply held

end Updates

/-! ### The far end -/

/-- What the far end has, the updates on the way to it, and what it has lost since it was last
told of it. -/
structure FarEnd (α : Type*) where
  held : List α
  inFlight : List (Update α)
  lost : List α
  parted : ∀ x ∈ lost, x ∉ held

namespace FarEnd

def empty : FarEnd α where
  held := []
  inFlight := []
  lost := []
  parted := by simp

variable {x y : α} {u : Update α} (far : FarEnd α)

def send (u : Update α) : FarEnd α := { far with inFlight := far.inFlight ++ [u] }

/-- The entry is lost for good: no message on the way is about it. -/
def Lacks (x : α) : Prop := x ∈ far.lost ∧ ∀ u ∈ far.inFlight, ¬ u.Mentions x

theorem Lacks.send {far : FarEnd α} (h : far.Lacks x) (hu : ¬ u.Mentions x) :
    (far.send u).Lacks x := by
  refine ⟨h.1, fun v hv => ?_⟩
  rcases List.mem_append.mp hv with hv | hv
  · exact h.2 v hv
  · rw [List.mem_singleton.mp hv]
    exact hu

variable [DecidableEq α]

/-- What it will have when everything has arrived. -/
def settled : List α := applyAll far.held far.inFlight

/-- The first message arrives. -/
def deliver : FarEnd α :=
  match far.inFlight with
  | [] => far
  | u :: inFlight =>
    { held := u.apply far.held
      inFlight
      lost := far.lost.filter fun x => ¬ u.Mentions x
      parted := by
        intro x hx hheld
        obtain ⟨hlost, hmentions⟩ := List.mem_filter.mp hx
        have hnot := of_decide_eq_true hmentions
        exact far.parted x hlost ((Update.mem_apply_of_not_mentions hnot).mp hheld) }

/-- An entry that the far end has is lost. -/
def lose (x : α) : FarEnd α :=
  if x ∈ far.held then
    { far with
      held := far.held.filter (· ≠ x)
      lost := far.lost ++ [x]
      parted := by
        intro y hy hheld
        obtain ⟨hbefore, hne⟩ := List.mem_filter.mp hheld
        rcases List.mem_append.mp hy with hlost | hlast
        · exact far.parted y hlost hbefore
        · exact of_decide_eq_true hne (List.mem_singleton.mp hlast) }
  else far

instance (far : FarEnd α) (x : α) : Decidable (far.Lacks x) :=
  inferInstanceAs (Decidable (x ∈ far.lost ∧ ∀ u ∈ far.inFlight, ¬ u.Mentions x))

variable {far}

theorem Lacks.deliver (h : far.Lacks x) : far.deliver.Lacks x := by
  obtain ⟨held, inFlight, lost⟩ := far
  cases inFlight with
  | nil => exact h
  | cons u inFlight =>
    obtain ⟨hlost, hfirst, hrest⟩ := And.imp_right List.forall_mem_cons.mp h
    exact ⟨List.mem_filter.mpr ⟨hlost, by simpa using hfirst⟩, hrest⟩

theorem Lacks.lose (h : far.Lacks x) : (far.lose y).Lacks x := by
  unfold FarEnd.lose
  split
  · exact ⟨List.mem_append_left _ h.1, h.2⟩
  · exact h

end FarEnd

/-! ### The record -/

/-- The sender's record and the far end. -/
structure Mirror (α : Type*) where
  record : List α
  far : FarEnd α

/-- What happens at either end, or between them. -/
inductive MirrorStep (α : Type*) where
  | send (u : Update α)
  | forget (gone : List α)
  | deliver
  | lose (x : α)

namespace Mirror

variable [DecidableEq α] {m : Mirror α}

/-- The sender changes its record as the message will change what the far end has. -/
def step (m : Mirror α) : MirrorStep α → Mirror α
  | .send u => ⟨u.apply m.record, m.far.send u⟩
  | .forget gone => { m with record := m.record.filter (· ∉ gone) }
  | .deliver => { m with far := m.far.deliver }
  | .lose x => { m with far := m.far.lose x }

/-- All that the far end will have is recorded. -/
def Recorded (m : Mirror α) : Prop := ∀ x ∈ m.far.settled, x ∈ m.record

/-- The far end will have all that is recorded, but for what it has lost. -/
def Accounted (m : Mirror α) : Prop := ∀ x ∈ m.record, x ∈ m.far.settled ∨ m.far.Lacks x

/-- The step forgets nothing that the far end will have. -/
def Spares (m : Mirror α) : MirrorStep α → Prop
  | .forget gone => ∀ x ∈ gone, x ∉ m.far.settled
  | _ => True

end Mirror

end Lib
