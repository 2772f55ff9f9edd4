import Mathlib.Data.List.Basic
import Mathlib.Logic.Function.Basic
import Mathlib.Order.Nat

/-!
Files that are only appended to: their contents, the names that lead to them, and the descriptors
that are open.
-/

namespace Lib

structure AppendFiles (ν α : Type) where
  contents : List (List α)
  links : ν → Option Nat
  /-- `none` is not open, `some none` is open for something that is none of the files. -/
  descriptors : Nat → Option (Option Nat)
  link_lt : ∀ name i, links name = some i → i < contents.length
  descriptor_lt : ∀ d i, descriptors d = some (some i) → i < contents.length

namespace AppendFiles

/-- No files, and nothing is open. -/
def empty {ν α : Type} : AppendFiles ν α where
  contents := []
  links _ := none
  descriptors _ := none
  link_lt _ i link := absurd link.symm (Option.some_ne_none i)
  descriptor_lt _ i leads := absurd leads.symm (Option.some_ne_none (some i))

variable {ν α : Type} (files : AppendFiles ν α)

/-- What is in a file, nothing where there is none. -/
def content (i : Nat) : List α := (files.contents[i]?).getD []

/-- `write` on a descriptor. -/
def write (d : Nat) (piece : List α) : AppendFiles ν α :=
  match files.descriptors d with
  | some (some i) =>
    { files with
      contents := files.contents.modify i (· ++ piece)
      link_lt := fun name i link => by simpa using files.link_lt name i link
      descriptor_lt := fun d i leads => by simpa using files.descriptor_lt d i leads }
  | _ => files

def close (d : Nat) : AppendFiles ν α where
  contents := files.contents
  links := files.links
  descriptors := Function.update files.descriptors d none
  link_lt := files.link_lt
  descriptor_lt d' i leads := by
    rw [Function.update_apply] at leads
    split at leads
    · cases leads
    · exact files.descriptor_lt d' i leads

/-- Something else is opened. -/
def openOther (d : Nat) : AppendFiles ν α where
  contents := files.contents
  links := files.links
  descriptors := Function.update files.descriptors d (some none)
  link_lt := files.link_lt
  descriptor_lt d' i leads := by
    rw [Function.update_apply] at leads
    split at leads
    · cases leads
    · exact files.descriptor_lt d' i leads

/-- Every file has a name, and no two. -/
def Linked : Prop := ∀ i < files.contents.length, ∃! name, files.links name = some i

/-- The file that a name leads to once it is opened. -/
def fileAt (name : ν) : Nat := (files.links name).getD files.contents.length

/-- The contents once a name is opened. -/
def contentsWith (name : ν) : List (List α) :=
  if (files.links name).isSome then files.contents else files.contents ++ [[]]

variable {files} {name old new : ν} {d i : Nat} {piece : List α}

theorem length_le_contentsWith : files.contents.length ≤ (files.contentsWith name).length := by
  unfold contentsWith
  split
  · exact le_rfl
  · simp

theorem fileAt_lt : files.fileAt name < (files.contentsWith name).length := by
  unfold fileAt contentsWith
  cases link : files.links name with
  | none => simp
  | some i => simpa using files.link_lt name i link

section Names

variable [DecidableEq ν]

variable (files name d) in
/-- `open` with `O_CREAT | O_APPEND`, which gives the descriptor `d`. -/
def openFile : AppendFiles ν α where
  contents := files.contentsWith name
  links := Function.update files.links name (some (files.fileAt name))
  descriptors := Function.update files.descriptors d (some (some (files.fileAt name)))
  link_lt other i link := by
    rw [Function.update_apply] at link
    split at link
    · exact Option.some.inj link ▸ fileAt_lt
    · exact (files.link_lt other i link).trans_le length_le_contentsWith
  descriptor_lt d' i leads := by
    rw [Function.update_apply] at leads
    split at leads
    · exact Option.some.inj (Option.some.inj leads) ▸ fileAt_lt
    · exact (files.descriptor_lt d' i leads).trans_le length_le_contentsWith

variable (files old new) in
/-- `rename` takes the name from the file that had it. It does nothing when there is no such file,
or when both names lead to it already. -/
def rename : AppendFiles ν α :=
  if files.links old = none ∨ files.links new = files.links old then files
  else
    { files with
      links := Function.update (Function.update files.links new (files.links old)) old none
      link_lt := fun other i link => by
        rw [Function.update_apply, Function.update_apply] at link
        split at link
        · cases link
        · split at link
          · exact files.link_lt old i link
          · exact files.link_lt other i link }

/-! ### The contents -/

@[simp] theorem content_openFile : (files.openFile name d).content i = files.content i := by
  simp only [content, openFile, contentsWith]
  split
  · rfl
  · rcases Nat.lt_trichotomy i files.contents.length with less | rfl | more
    · rw [List.getElem?_append_left less]
    · simp
    · have beyond : (files.contents ++ [[]]).length ≤ i := by simpa using Nat.succ_le_of_lt more
      rw [List.getElem?_eq_none beyond, List.getElem?_eq_none more.le]

@[simp] theorem content_rename : (files.rename old new).content i = files.content i := by
  unfold rename
  split <;> rfl

@[simp] theorem descriptors_rename :
    (files.rename old new).descriptors = files.descriptors := by
  unfold rename
  split <;> rfl

end Names

@[simp] theorem content_close : (files.close d).content i = files.content i := rfl

@[simp] theorem content_openOther : (files.openOther d).content i = files.content i := rfl

@[simp] theorem links_write : (files.write d piece).links = files.links := by
  unfold write
  split <;> rfl

@[simp] theorem descriptors_write : (files.write d piece).descriptors = files.descriptors := by
  unfold write
  split <;> rfl

@[simp] theorem length_write :
    (files.write d piece).contents.length = files.contents.length := by
  unfold write
  split <;> simp

/-- A piece goes to the file that the descriptor leads to, and to no other. -/
theorem content_write : (files.write d piece).content i =
    files.content i ++ if files.descriptors d = some (some i) then piece else [] := by
  unfold write
  cases leads : files.descriptors d with
  | none => simp
  | some file =>
    cases file with
    | none => simp
    | some j =>
      have inside := files.descriptor_lt d j leads
      by_cases same : j = i
      · subst same
        simp [content, inside]
      · simp [content, same]

/-! ### The names -/

theorem linked_congr {files' : AppendFiles ν α} (links : files'.links = files.links)
    (length : files'.contents.length = files.contents.length) :
    files'.Linked ↔ files.Linked := by
  rw [Linked, Linked, links, length]

theorem Linked.name_inj (linked : files.Linked) (first : files.links old = some i)
    (second : files.links new = some i) : old = new :=
  (linked i (files.link_lt old i first)).unique first second

variable [DecidableEq ν]

theorem Linked.openFile (linked : files.Linked) : (files.openFile name d).Linked := by
  cases link : files.links name with
  | some i =>
    have same : Function.update files.links name (some (files.fileAt name)) = files.links := by
      rw [fileAt, link, Option.getD_some, ← link]
      exact Function.update_eq_self name files.links
    refine (linked_congr same ?_).mpr linked
    simp [AppendFiles.openFile, contentsWith, link]
  | none =>
    have fresh : files.fileAt name = files.contents.length := by rw [fileAt, link, Option.getD_none]
    intro i inside
    simp only [AppendFiles.openFile, contentsWith, link, Option.isSome_none, Bool.false_eq_true,
      if_false, List.length_append, List.length_singleton] at inside
    simp only [AppendFiles.openFile, fresh, Function.update_apply]
    rcases Nat.lt_succ_iff_lt_or_eq.mp inside with inside | rfl
    · obtain ⟨known, link', only⟩ := linked i inside
      have ne : known ≠ name := by
        rintro rfl
        rw [link] at link'
        cases link'
      refine ⟨known, by simpa only [if_neg ne] using link', fun other leads => ?_⟩
      beta_reduce at leads
      split at leads
      · exact absurd (Option.some.inj leads) inside.ne'
      · exact only other leads
    · refine ⟨name, if_pos rfl, fun other leads => ?_⟩
      by_contra ne
      beta_reduce at leads
      rw [if_neg ne] at leads
      exact absurd (files.link_lt other _ leads) (lt_irrefl _)

/-- The names stay right unless a file loses its own to another. -/
theorem linked_rename_iff (linked : files.Linked) : (files.rename old new).Linked ↔
    ∀ i, files.links old = some i → ∀ j, files.links new = some j → j = i := by
  unfold rename
  split_ifs with nothing
  · refine iff_of_true linked fun i first j second => ?_
    rw [first] at nothing
    rcases nothing with nothing | same
    · cases nothing
    · exact Option.some.inj (second.symm.trans same)
  · obtain ⟨here, differ⟩ := not_or.mp nothing
    obtain ⟨i, first⟩ := Option.ne_none_iff_exists'.mp here
    rw [first] at differ
    have ne : new ≠ old := by
      rintro rfl
      exact differ first
    constructor
    · intro linked' i' first' j second
      by_contra other
      obtain ⟨name, leads, -⟩ := linked' j (files.link_lt new j second)
      simp only [Function.update_apply] at leads
      split_ifs at leads with isOld isNew
      · exact other (Option.some.inj (leads.symm.trans first'))
      · exact isNew (linked.name_inj leads second)
    · intro noOther j inside
      have unlinked : files.links new = none := by
        cases second : files.links new with
        | none => rfl
        | some k => exact absurd (noOther i first k second ▸ second) differ
      simp only [Function.update_apply, first]
      by_cases same : j = i
      · subst same
        refine ⟨new, by simp [ne], fun name leads => ?_⟩
        beta_reduce at leads
        split_ifs at leads with isOld isNew
        · exact isNew
        · exact absurd (linked.name_inj leads first) isOld
      · obtain ⟨known, link, only⟩ := linked j inside
        have notOld : known ≠ old := by
          rintro rfl
          exact same (Option.some.inj (link.symm.trans first))
        have notNew : known ≠ new := by
          rintro rfl
          rw [unlinked] at link
          cases link
        refine ⟨known, by simpa [notOld, notNew] using link, fun name leads => ?_⟩
        beta_reduce at leads
        split_ifs at leads with isOld isNew
        · exact absurd (Option.some.inj leads).symm same
        · exact only name leads

end AppendFiles

end Lib
