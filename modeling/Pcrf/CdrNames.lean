import Pcrf.CdrFiles

/-!
The names of the files that records are written to. A file that is completed gets the name that the
mask gives; it may be the name of another file, which has none then.
-/

namespace Pcrf

open Lib

namespace CdrNode

/-- The name that a file gets when it is completed. -/
def completedName (strftime : String → Nat → Option String) (conf : CdrConf) (tmTm : Nat) :
    Option String :=
  conf.pszCDRComplDir.bind fun pszCDRComplDir =>
    (pcrfCdrMakeFilename strftime pszCDRComplDir conf.pszCDRMask 1024 tmTm).toOption

/-- A file that is completed does not take its name from another file. -/
def SparesNames (strftime : String → Nat → Option String) (conf : CdrConf) (node : CdrNode) :
    CdrAction → Prop
  | .complete moved => moved = true → ∀ mcFileName iTmpFile mcNewFileName,
    node.timer = .swapped mcFileName iTmpFile →
    completedName strftime conf node.now = some mcNewFileName →
    ∀ i, node.files.links node.mcFileName = some i →
      ∀ j, node.files.links mcNewFileName = some j → j = i
  | _ => True

/-- The mask gives every second a name of its own, which is none that a file is opened with, and
none that is there already. -/
structure DistinctNames (strftime : String → Nat → Option String) (conf : CdrConf)
    (before : CdrFileSystem) (start : Nat) : Prop where
  once : ∀ {t t' stamp}, strftime conf.pszCDRMask t = some stamp →
    strftime conf.pszCDRMask t' = some stamp → t = t'
  apart : ∀ {dir}, conf.pszCDRComplDir = some dir → ∀ {t t' stamp stamp'},
    strftime conf.pszCDRMask t = some stamp → strftime cdrInitialName t' = some stamp' →
    dir ++ stamp ≠ conf.pszCDRDir ++ stamp'
  unused : ∀ {dir}, conf.pszCDRComplDir = some dir → ∀ {t stamp}, start ≤ t →
    strftime conf.pszCDRMask t = some stamp → before.links (dir ++ stamp) = none

/-- Before which time the files must have been completed that are. -/
def bound (now : Nat) : CdrTimer → Nat
  | .waiting soTimeSpec _ => soTimeSpec
  | .completed _ _ | .exited => now + 1
  | _ => now

/-- Every name that the mask gives, and that is in use, is of the time before. -/
def Dated (strftime : String → Nat → Option String) (conf : CdrConf) (node : CdrNode) : Prop :=
  ∀ dir, conf.pszCDRComplDir = some dir → ∀ t stamp, strftime conf.pszCDRMask t = some stamp →
    node.files.links (dir ++ stamp) ≠ none → t < bound node.now node.timer

section Names

variable {strftime : String → Nat → Option String} {conf : CdrConf} {before : CdrFileSystem}
  {node : CdrNode} {start : Nat}

theorem pcrfCdrMakeFilename_eq {pszDir pszFileMask pszFileName : String} {stSize tmTm : Nat}
    (h : pcrfCdrMakeFilename strftime pszDir pszFileMask stSize tmTm = .ok pszFileName) :
    ∃ stamp, strftime pszFileMask tmTm = some stamp ∧ pszFileName = pszDir ++ stamp := by
  unfold pcrfCdrMakeFilename pcrfCdrMakeTimestamp at h
  cases stamp_ : strftime pszFileMask tmTm with
  | none =>
    rw [stamp_] at h
    cases h
  | some stamp =>
    rw [stamp_] at h
    simp only [bind, Except.bind] at h
    split_ifs at h
    exact ⟨stamp, rfl, (Except.ok.inj h).symm⟩

theorem completedName_eq {tmTm : Nat} {mcNewFileName : String}
    (h : completedName strftime conf tmTm = some mcNewFileName) :
    ∃ dir stamp, conf.pszCDRComplDir = some dir ∧
      strftime conf.pszCDRMask tmTm = some stamp ∧ mcNewFileName = dir ++ stamp := by
  obtain ⟨dir, complDir, made⟩ := Option.bind_eq_some_iff.mp h
  cases made_ : pcrfCdrMakeFilename strftime dir conf.pszCDRMask 1024 tmTm with
  | error code =>
    rw [made_] at made
    cases made
  | ok name =>
    rw [made_] at made
    obtain rfl := Option.some.inj made
    obtain ⟨stamp, at_, eq⟩ := pcrfCdrMakeFilename_eq made_
    exact ⟨dir, stamp, complDir, at_, eq⟩

theorem fileCompleted_eq {files : CdrFileSystem} {pszFileName : String} {tmTm : Nat}
    {moved : Bool} : pcrfCdrFileCompleted strftime conf files pszFileName tmTm moved =
      (completedName strftime conf tmTm).elim files fun mcNewFileName =>
        if moved then files.rename pszFileName mcNewFileName else files := by
  unfold pcrfCdrFileCompleted completedName
  cases conf.pszCDRComplDir with
  | none => rfl
  | some dir =>
    simp only [Option.bind_some]
    cases pcrfCdrMakeFilename strftime dir conf.pszCDRMask 1024 tmTm <;> rfl

theorem linked_fileCompleted_iff (linked : node.files.Linked) {mcFileName : String}
    {iTmpFile : Nat} (timer : node.timer = .swapped mcFileName iTmpFile) (moved : Bool) :
    (pcrfCdrFileCompleted strftime conf node.files node.mcFileName node.now moved).Linked ↔
      node.SparesNames strftime conf (.complete moved) := by
  rw [fileCompleted_eq]
  simp only [SparesNames, timer, CdrTimer.swapped.injEq]
  cases completedName strftime conf node.now with
  | none => simp [linked]
  | some mcNewFileName =>
    cases moved with
    | false => simp [linked]
    | true =>
      simp only [Option.elim_some, if_true, AppendFiles.linked_rename_iff linked]
      simp

theorem linked_createFile (linked : node.files.Linked) (d : Option Nat) :
    (node.createFile strftime conf d).files.Linked := by
  unfold createFile
  split
  · split_ifs
    · exact linked.openFile
    · exact linked
  · exact linked

theorem linked_recreateFile_iff (linked : node.files.Linked) (action : CdrAction) :
    (node.recreateFile strftime conf node.timer action).files.Linked ↔
      node.SparesNames strftime conf action := by
  unfold recreateFile
  split
  case h_2 soTimeSpec iTmpFile timer =>
    refine iff_of_true ?_ trivial
    split
    · cases iTmpFile <;> exact linked
    · exact linked
  case h_3 d timer => exact iff_of_true (linked_createFile linked d) trivial
  case h_5 mcFileName iTmpFile moved timer => exact linked_fileCompleted_iff linked timer moved
  case h_7 swapped_ _ =>
    refine iff_of_true linked ?_
    unfold SparesNames
    split
    · rintro - mcFileName iTmpFile - timer
      exact (swapped_ mcFileName iTmpFile _ timer rfl).elim
    · trivial
  all_goals exact iff_of_true linked trivial

theorem linked_step_iff (linked : node.files.Linked) (action : CdrAction) :
    (node.step strftime conf action).files.Linked ↔ node.SparesNames strftime conf action := by
  cases action with
  | tick | begin => exact iff_of_true linked trivial
  | write i soTV count =>
    refine iff_of_true ?_ trivial
    simp only [step, writeCdr]
    split
    · unfold pcrfCdrWriteRecord
      split
      · exact (AppendFiles.linked_congr AppendFiles.links_write AppendFiles.length_write).mpr linked
      · exact linked
    · exact linked
  | openOther | closeOther =>
    refine iff_of_true ?_ trivial
    simp only [step]
    split_ifs <;> exact linked
  | _ => exact linked_recreateFile_iff linked _

/-- No new names are in use, and time goes on. -/
theorem Dated.mono (dated : node.Dated strftime conf) {node' : CdrNode}
    (used : ∀ dir, conf.pszCDRComplDir = some dir → ∀ t stamp,
      strftime conf.pszCDRMask t = some stamp → node'.files.links (dir ++ stamp) ≠ none →
      node.files.links (dir ++ stamp) ≠ none)
    (le : bound node.now node.timer ≤ bound node'.now node'.timer) :
    node'.Dated strftime conf := by
  intro dir complDir t stamp at_ link
  exact (dated dir complDir t stamp at_ (used dir complDir t stamp at_ link)).trans_le le

/-- A file that is opened has none of the names that the mask gives. -/
theorem DistinctNames.links_openFile (distinct : DistinctNames strftime conf before start)
    {files : CdrFileSystem} {mcFileName dir stamp : String} {stSize tmTm t d : Nat}
    (made : pcrfCdrMakeFilename strftime conf.pszCDRDir cdrInitialName stSize tmTm =
      .ok mcFileName)
    (complDir : conf.pszCDRComplDir = some dir) (at_ : strftime conf.pszCDRMask t = some stamp) :
    (files.openFile mcFileName d).links (dir ++ stamp) = files.links (dir ++ stamp) := by
  obtain ⟨stamp', at', rfl⟩ := pcrfCdrMakeFilename_eq made
  exact Function.update_of_ne (distinct.apart complDir at_ at') ..

theorem Dated.createFile (distinct : DistinctNames strftime conf before start)
    (dated : node.Dated strftime conf) (timer : node.timer = .closed) (d : Option Nat) :
    (node.createFile strftime conf d).Dated strftime conf := by
  unfold CdrNode.createFile
  split
  · rename_i made
    split_ifs
    · refine dated.mono (fun dir complDir t stamp at_ link => ?_) (by rw [timer]; exact le_rfl)
      rwa [distinct.links_openFile made complDir at_] at link
    · exact dated
  · exact dated.mono (fun _ _ _ _ _ link => link) (by rw [timer]; exact Nat.le_succ _)

/-- The name that a completed file gets is of the present second. -/
theorem Dated.complete (distinct : DistinctNames strftime conf before start)
    (dated : node.Dated strftime conf) {mcFileName : String} {iTmpFile : Nat}
    (timer : node.timer = .swapped mcFileName iTmpFile) (moved : Bool) :
    Dated strftime conf { node with
      files := pcrfCdrFileCompleted strftime conf node.files node.mcFileName node.now moved
      timer := .completed mcFileName iTmpFile } := by
  intro dir complDir t stamp at_ link
  have earlier (link : node.files.links (dir ++ stamp) ≠ none) : t < node.now + 1 := by
    have less := dated dir complDir t stamp at_ link
    rw [timer] at less
    exact Nat.lt_succ_of_lt less
  rw [fileCompleted_eq] at link
  cases completed : completedName strftime conf node.now with
  | none =>
    rw [completed] at link
    exact earlier link
  | some mcNewFileName =>
    obtain ⟨dir', stamp', complDir', at', rfl⟩ := completedName_eq completed
    obtain rfl := Option.some.inj (complDir.symm.trans complDir')
    rw [completed, Option.elim_some] at link
    by_cases same : stamp = stamp'
    · subst same
      exact Nat.lt_succ_of_le (distinct.once at_ at').le
    · have ne : dir ++ stamp ≠ dir ++ stamp' := (String.append_right_inj dir).not.mpr same
      split at link
      · unfold AppendFiles.rename at link
        split at link
        · exact earlier link
        · refine earlier fun none_ => link ?_
          simp only [Function.update_apply, if_neg ne, none_, ite_self]
      · exact earlier link

theorem Dated.recreateFile (distinct : DistinctNames strftime conf before start)
    (dated : node.Dated strftime conf) (action : CdrAction) :
    (node.recreateFile strftime conf node.timer action).Dated strftime conf := by
  have same (files : CdrFileSystem) (links : files.links = node.files.links) :
      ∀ dir, conf.pszCDRComplDir = some dir → ∀ t stamp,
        strftime conf.pszCDRMask t = some stamp → files.links (dir ++ stamp) ≠ none →
        node.files.links (dir ++ stamp) ≠ none := by
    rintro dir - t stamp - link
    rwa [links] at link
  unfold CdrNode.recreateFile
  split
  case h_1 timer =>
    exact dated.mono (same _ rfl) (by rw [timer]; exact Nat.le_add_right ..)
  case h_2 soTimeSpec iTmpFile timer =>
    split
    · refine dated.mono (same _ (by cases iTmpFile <;> rfl)) ?_
      rw [timer]
      assumption
    · exact dated
  case h_3 d timer => exact dated.createFile distinct timer d
  case h_4 mcFileName iNewFile file timer =>
    exact dated.mono (same _ rfl) (by rw [timer]; exact le_rfl)
  case h_5 mcFileName iTmpFile moved timer => exact dated.complete distinct timer moved
  case h_6 mcFileName iTmpFile timer =>
    refine dated.mono (same _ rfl) ?_
    rw [timer]
    exact lt_nextSoTimeSpec conf node.now
  case h_7 => exact dated

theorem dated_step (distinct : DistinctNames strftime conf before start)
    (dated : node.Dated strftime conf) (action : CdrAction) :
    (node.step strftime conf action).Dated strftime conf := by
  cases action with
  | tick =>
    refine dated.mono (fun _ _ _ _ _ link => link) ?_
    change bound node.now node.timer ≤ bound (node.now + 1) node.timer
    cases node.timer <;> simp [bound]
  | begin => exact dated
  | write i soTV count =>
    simp only [step, writeCdr]
    split
    · refine dated.mono (fun dir _ t stamp _ link => ?_) le_rfl
      unfold pcrfCdrWriteRecord at link
      split at link
      · rwa [AppendFiles.links_write] at link
      · exact link
    · exact dated
  | openOther | closeOther =>
    simp only [step]
    split_ifs <;> exact dated
  | _ => exact dated.recreateFile distinct _

/-- As no name is dated in the present second yet, a completed file takes none away. -/
theorem Dated.sparesNames (dated : node.Dated strftime conf) (action : CdrAction) :
    node.SparesNames strftime conf action := by
  unfold SparesNames
  split
  · rintro - mcFileName iTmpFile mcNewFileName timer completed i - j link
    obtain ⟨dir, stamp, complDir, at_, rfl⟩ := completedName_eq completed
    have less := dated dir complDir node.now stamp at_ (by simp [link])
    rw [timer] at less
    exact absurd less (lt_irrefl _)
  · trivial

end Names

end CdrNode

/-! ### Runs of the module -/

section Runs

open CdrNode

variable {strftime : String → Nat → Option String} {conf : CdrConf} {before : CdrFileSystem}
  {tmTm d : Nat} {node : CdrNode}

theorem dated_pcrfCdrInit (distinct : DistinctNames strftime conf before tmTm)
    (h : pcrfCdrInit strftime conf before tmTm d = .ok node) : node.Dated strftime conf := by
  obtain ⟨mcFileName, made, rfl⟩ := of_pcrfCdrInit h
  intro dir complDir t stamp at_ link
  rw [distinct.links_openFile made complDir at_] at link
  by_contra later
  exact link (distinct.unused complDir (not_lt.mp later) at_)

theorem linked_pcrfCdrInit (h : pcrfCdrInit strftime conf before tmTm d = .ok node)
    (linked : before.Linked) : node.files.Linked := by
  obtain ⟨mcFileName, -, rfl⟩ := of_pcrfCdrInit h
  exact linked.openFile

/-- With a name of its own for every second, no file loses its name or has a second one. -/
theorem linked_run_of_distinct (h : pcrfCdrInit strftime conf before tmTm d = .ok node)
    (linked : before.Linked) (distinct : DistinctNames strftime conf before tmTm)
    (actions : List CdrAction) : ((node.machine strftime conf).run actions).files.Linked := by
  have both := (node.machine strftime conf).inv_run
    (I := fun node => node.Dated strftime conf ∧ node.files.Linked)
    ⟨dated_pcrfCdrInit distinct h, linked_pcrfCdrInit h linked⟩
    (fun node action inv => ⟨dated_step distinct inv.1 action,
      (linked_step_iff inv.2 action).mpr (inv.1.sparesNames action)⟩) actions
  exact both.2

/-- All along a run every file has one name exactly if no file that was completed took its name
from another. That is so when the mask gives every second a name of its own. -/
theorem files_linked (h : pcrfCdrInit strftime conf before tmTm d = .ok node)
    (linked : before.Linked) (actions : List CdrAction) :
    ((∀ pre, pre <+: actions → ((node.machine strftime conf).run pre).files.Linked) ↔
        (node.machine strftime conf).Meets (SparesNames strftime conf) actions) ∧
      (DistinctNames strftime conf before tmTm →
        ((node.machine strftime conf).run actions).files.Linked) := by
  refine ⟨?_, fun distinct => linked_run_of_distinct h linked distinct actions⟩
  exact (node.machine strftime conf).always_iff_meets (I := fun node => node.files.Linked)
    (linked_pcrfCdrInit h linked) (fun node action linked => linked_step_iff linked action) actions

end Runs

theorem distinctNames_everySecond : CdrNode.DistinctNames firstDay everySecond .empty 30 where
  once first second := by
    have same := (Option.some.inj first).trans (Option.some.inj second).symm
    exact toString_inj.mp same
  apart complDir := by
    obtain rfl := Option.some.inj complDir
    intro t t' stamp stamp' _ _ same
    -- the directories differ in the tenth character
    have tenth := congrArg (·.toList[9]?) same
    simp [everySecond] at tenth
  unused _ := fun _ _ => rfl

theorem linked_empty : AppendFiles.Linked (.empty : CdrFileSystem) :=
  fun i inside => absurd inside (Nat.not_lt_zero i)

theorem files_linked_everySecond :
    ((everySecondNode.machine firstDay everySecond).run changedMeanwhile).files.Linked :=
  (files_linked init_everySecond linked_empty changedMeanwhile).2 distinctNames_everySecond

end Pcrf
