import Mathlib.Data.List.Nodup

/-!
A state seen as cells, each with a key: what a run of writes to different cells leaves in each of
them, in whatever order the writes are made.
-/

namespace Lib

section Cells

variable {σ κ δ ν : Type*} {get : κ → σ → ν} {put : κ → σ → δ → σ}

/-- Apply writes one after another. -/
def putAll (put : κ → σ → δ → σ) (s : σ) (writes : List (κ × δ)) : σ :=
  writes.foldl (fun s w => put w.1 s w.2) s

/-- Writes of other cells leave a cell as it is. -/
theorem get_putAll_of_notMem {k : κ} (other : ∀ k' s d, k' ≠ k → get k (put k' s d) = get k s)
    {writes : List (κ × δ)} (h : k ∉ writes.map Prod.fst) (s : σ) :
    get k (putAll put s writes) = get k s := by
  induction writes generalizing s with
  | nil => rfl
  | cons w writes ih =>
    rw [List.map_cons, List.mem_cons, not_or] at h
    exact (ih h.2 (put w.1 s w.2)).trans (other w.1 s w.2 (Ne.symm h.1))

/-- When no cell is written twice, each holds what its one write leaves in a cell that still is
as it was at the start. -/
theorem get_putAll_of_mem {k : κ} (other : ∀ k' s d, k' ≠ k → get k (put k' s d) = get k s)
    {writes : List (κ × δ)} (nodup : (writes.map Prod.fst).Nodup) {d : δ} (mem : (k, d) ∈ writes)
    {v : ν} {s : σ} (written : ∀ s', get k s' = get k s → get k (put k s' d) = v) :
    get k (putAll put s writes) = v := by
  induction writes generalizing s with
  | nil => cases mem
  | cons w writes ih =>
    rw [List.map_cons, List.nodup_cons] at nodup
    cases List.mem_cons.mp mem with
    | inl first =>
      -- the rest of the writes are of other cells
      subst first
      exact (get_putAll_of_notMem other nodup.1 _).trans (written s rfl)
    | inr later =>
      have hw : w.1 ≠ k := fun h => nodup.1 (h ▸ List.mem_map_of_mem later)
      have unchanged : get k (put w.1 s w.2) = get k s := other w.1 s w.2 hw
      exact ih nodup.2 later fun s' hs' => written s' (hs'.trans unchanged)

/-! ### Cells to fill -/

/-- The writes that fill those cells of a table that have a value. -/
def filled (cells : List (κ × Option δ)) : List (κ × δ) :=
  cells.filterMap fun c => c.2.map fun d => (c.1, d)

theorem mem_filled {cells : List (κ × Option δ)} {k : κ} {d : δ} :
    (k, d) ∈ filled cells ↔ (k, some d) ∈ cells := by
  simp [filled]

theorem nodup_keys_filled {cells : List (κ × Option δ)} (nodup : (cells.map Prod.fst).Nodup) :
    ((filled cells).map Prod.fst).Nodup := by
  induction cells with
  | nil => exact List.nodup_nil
  | cons c cells ih =>
    rw [List.map_cons, List.nodup_cons] at nodup
    obtain ⟨k, value⟩ := c
    cases value with
    | none => exact ih nodup.2
    | some d =>
      refine List.nodup_cons.mpr ⟨fun mem => nodup.1 ?_, ih nodup.2⟩
      obtain ⟨⟨k', d'⟩, later, same⟩ := List.mem_map.mp mem
      exact List.mem_map.mpr ⟨_, mem_filled.mp later, same⟩

/-- A cell without a value is not written. -/
theorem notMem_keys_filled {cells : List (κ × Option δ)} (nodup : (cells.map Prod.fst).Nodup)
    {k : κ} (h : (k, none) ∈ cells) : k ∉ (filled cells).map Prod.fst := by
  intro mem
  obtain ⟨⟨k', d⟩, written, hk⟩ := List.mem_map.mp mem
  have same : ((k, none) : κ × Option δ) = (k', some d) :=
    List.inj_on_of_nodup_map nodup h (mem_filled.mp written) hk.symm
  cases same

end Cells

end Lib
