import Pcrf.CdrNames

/-!
When a file is final: once it has its completed name and is no longer open, no step of the module
changes it.
-/

namespace Pcrf

open Lib

namespace CdrNode

/-- A name that a file may be opened with. -/
def Opens (strftime : String → Nat → Option String) (conf : CdrConf) (name : String) : Prop :=
  ∃ t stamp, strftime cdrInitialName t = some stamp ∧ name = conf.pszCDRDir ++ stamp

/-- The name of the file that the thread has opened last. -/
def openedName : CdrTimer → Option String
  | .opened mcFileName _ _ | .swapped mcFileName _ | .completed mcFileName _ => some mcFileName
  | _ => none

/-- The descriptors that the thread has. -/
def heldBy : CdrTimer → Option Nat
  | .waiting _ iTmpFile => iTmpFile
  | .opened _ d _ | .swapped _ d | .completed _ d => some d
  | _ => none

/-- The files are opened by the thread and by nobody else. -/
structure Owns (strftime : String → Nat → Option String) (conf : CdrConf) (node : CdrNode) :
    Prop where
  mcFileName : Opens strftime conf node.mcFileName
  opened : ∀ name ∈ openedName node.timer, Opens strftime conf name
  descriptors : ∀ d i, node.files.descriptors d = some (some i) →
    d = node.iFile ∨ d ∈ heldBy node.timer

/-- A file that is not open and has none of the names that files are opened with. -/
structure Settled (strftime : String → Nat → Option String) (conf : CdrConf)
    (files : CdrFileSystem) (i : Nat) : Prop where
  inside : i < files.contents.length
  closed : ∀ d, files.descriptors d ≠ some (some i)
  moved : ∀ name, Opens strftime conf name → files.links name ≠ some i

section Settled

variable {strftime : String → Nat → Option String} {conf : CdrConf} {node : CdrNode}
  {files files' : CdrFileSystem} {i d : Nat} {name new : String}

theorem opens_of_made {stSize tmTm : Nat}
    (made : pcrfCdrMakeFilename strftime conf.pszCDRDir cdrInitialName stSize tmTm = .ok name) :
    Opens strftime conf name := by
  obtain ⟨stamp, at_, eq⟩ := pcrfCdrMakeFilename_eq made
  exact ⟨tmTm, stamp, at_, eq⟩

theorem opened_none {timer : CdrTimer} (none_ : openedName timer = none) :
    ∀ name ∈ openedName timer, Opens strftime conf name := by
  intro name mem
  rw [none_] at mem
  exact absurd mem (Option.not_mem_none name)

theorem Settled.openFile (settled : Settled strftime conf files i)
    (opens : Opens strftime conf name) : Settled strftime conf (files.openFile name d) i := by
  have other : files.fileAt name ≠ i := by
    intro same
    cases link : files.links name with
    | none =>
      rw [AppendFiles.fileAt, link, Option.getD_none] at same
      exact settled.inside.ne' same
    | some j =>
      rw [AppendFiles.fileAt, link, Option.getD_some] at same
      exact settled.moved name opens (same ▸ link)
  refine ⟨settled.inside.trans_le AppendFiles.length_le_contentsWith, fun d' leads => ?_,
    fun name' opens' link => ?_⟩
  · simp only [AppendFiles.openFile, Function.update_apply] at leads
    split_ifs at leads
    · exact other (Option.some.inj (Option.some.inj leads))
    · exact settled.closed d' leads
  · simp only [AppendFiles.openFile, Function.update_apply] at link
    split_ifs at link
    · exact other (Option.some.inj link)
    · exact settled.moved name' opens' link

theorem Settled.rename (settled : Settled strftime conf files i)
    (opens : Opens strftime conf name) : Settled strftime conf (files.rename name new) i := by
  unfold AppendFiles.rename
  split
  · exact settled
  · refine ⟨settled.inside, settled.closed, fun name' opens' link => ?_⟩
    simp only [Function.update_apply] at link
    split_ifs at link
    · exact settled.moved name opens link
    · exact settled.moved name' opens' link

theorem Settled.update (settled : Settled strftime conf files i) (value : Option (Option Nat))
    (other : value ≠ some (some i)) (contents : files'.contents = files.contents)
    (links : files'.links = files.links)
    (descriptors : files'.descriptors = Function.update files.descriptors d value) :
    Settled strftime conf files' i := by
  refine ⟨contents ▸ settled.inside, fun d' leads => ?_, fun name opens => ?_⟩
  · rw [descriptors, Function.update_apply] at leads
    split_ifs at leads
    · exact other leads
    · exact settled.closed d' leads
  · rw [links]
    exact settled.moved name opens

theorem Settled.writeRecord (settled : Settled strftime conf files i) {strData : String}
    {count : Nat} : Settled strftime conf (pcrfCdrWriteRecord files strData d count) i := by
  unfold pcrfCdrWriteRecord
  split
  · refine ⟨?_, ?_, ?_⟩
    · simpa using settled.inside
    · simpa using settled.closed
    · simpa using settled.moved
  · exact settled

/-- No step opens the file again. -/
theorem Settled.step (owns : node.Owns strftime conf) (settled : Settled strftime conf node.files i)
    (action : CdrAction) : Settled strftime conf (node.step strftime conf action).files i := by
  have recreate : Settled strftime conf
      (node.recreateFile strftime conf node.timer action).files i := by
    unfold recreateFile
    split
    case h_2 soTimeSpec iTmpFile timer =>
      split
      · cases iTmpFile with
        | none => exact settled
        | some d => exact settled.update (d := d) none (by simp) rfl rfl rfl
      · exact settled
    case h_3 d timer =>
      unfold createFile
      split
      · rename_i made
        split_ifs
        · exact settled.openFile (opens_of_made made)
        · exact settled
      · exact settled
    case h_5 mcFileName iTmpFile moved timer =>
      change Settled strftime conf (pcrfCdrFileCompleted ..) i
      rw [fileCompleted_eq]
      cases completedName strftime conf node.now with
      | none => exact settled
      | some mcNewFileName =>
        cases moved with
        | true => exact settled.rename owns.mcFileName
        | false => exact settled
    all_goals exact settled
  cases action with
  | tick | begin => exact settled
  | write =>
    simp only [CdrNode.step, writeCdr]
    split
    · exact settled.writeRecord
    · exact settled
  | openOther d =>
    simp only [CdrNode.step]
    split_ifs
    · exact settled.update (d := d) (some none) (by simp) rfl rfl rfl
    · exact settled
  | closeOther d =>
    simp only [CdrNode.step]
    split_ifs
    · exact settled.update (d := d) none (by simp) rfl rfl rfl
    · exact settled
  | _ => exact recreate

/-- Nothing is written to the file. -/
theorem Settled.content_step (settled : Settled strftime conf node.files i) (action : CdrAction) :
    (node.step strftime conf action).files.content i = node.files.content i := by
  cases action with
  | tick | begin => rfl
  | write =>
    simp only [CdrNode.step, writeCdr]
    split
    · simp only [content_writeRecord, if_neg (settled.closed _), List.append_nil]
    · rfl
  | openOther | closeOther =>
    simp only [CdrNode.step]
    split_ifs <;> rfl
  | _ => exact (content_recreateFile node.timer _).1

/-- Nothing but what is not open for a file is opened or closed elsewhere. -/
theorem Owns.update (owns : node.Owns strftime conf) (value : Option (Option Nat))
    (other : ∀ i, value ≠ some (some i))
    (descriptors : files'.descriptors = Function.update node.files.descriptors d value) :
    Owns strftime conf { node with files := files' } := by
  refine ⟨owns.mcFileName, owns.opened, fun d' i leads => ?_⟩
  simp only [descriptors, Function.update_apply] at leads
  split_ifs at leads
  · exact absurd leads (other i)
  · exact owns.descriptors d' i leads

theorem Owns.createFile (owns : node.Owns strftime conf) (timer : node.timer = .closed)
    (d : Option Nat) : (node.createFile strftime conf d).Owns strftime conf := by
  have only (d' i : Nat) (leads : node.files.descriptors d' = some (some i)) :
      d' = node.iFile := by
    have held := owns.descriptors d' i leads
    rw [timer] at held
    exact held.resolve_right (Option.not_mem_none d')
  unfold CdrNode.createFile
  split
  · rename_i mcFileName d made
    split_ifs
    · refine ⟨owns.mcFileName, fun name mem => ?_, fun d' i leads => ?_⟩
      · obtain rfl := Option.some.inj mem
        exact opens_of_made made
      · simp only [AppendFiles.openFile, Function.update_apply] at leads
        split_ifs at leads with same
        · exact .inr (congrArg some same.symm)
        · exact .inl (only d' i leads)
    · exact owns
  · exact ⟨owns.mcFileName, opened_none rfl, fun d' i leads => .inl (only d' i leads)⟩

theorem Owns.recreateFile (owns : node.Owns strftime conf) (action : CdrAction) :
    (node.recreateFile strftime conf node.timer action).Owns strftime conf := by
  obtain ⟨initial, opened, descriptors⟩ := owns
  unfold CdrNode.recreateFile
  split
  case h_1 timer =>
    rw [timer] at descriptors
    exact ⟨initial, opened_none rfl, descriptors⟩
  case h_2 soTimeSpec iTmpFile timer =>
    split
    · rw [timer] at descriptors
      refine ⟨initial, opened_none rfl, fun d i leads => ?_⟩
      cases iTmpFile with
      | none => exact descriptors d i leads
      | some d' =>
        simp only [Option.elim_some, AppendFiles.close, Function.update_apply] at leads
        split_ifs at leads with same
        exact .inl ((descriptors d i leads).resolve_right fun held =>
          same (Option.some.inj held).symm)
    · exact ⟨initial, opened, descriptors⟩
  case h_3 d timer => exact Owns.createFile ⟨initial, opened, descriptors⟩ timer d
  case h_4 mcFileName iNewFile file timer =>
    rw [timer] at opened descriptors
    refine ⟨initial, opened, fun d i leads => ?_⟩
    rcases descriptors d i leads with rfl | held
    · exact .inr rfl
    · exact .inl (Option.some.inj held).symm
  case h_5 mcFileName iTmpFile moved timer =>
    rw [timer] at opened descriptors
    refine ⟨initial, opened, fun d i leads => descriptors d i ?_⟩
    rwa [descriptors_fileCompleted] at leads
  case h_6 mcFileName iTmpFile timer =>
    rw [timer] at opened descriptors
    exact ⟨opened mcFileName rfl, opened_none rfl, descriptors⟩
  case h_7 => exact ⟨initial, opened, descriptors⟩

theorem owns_step (owns : node.Owns strftime conf) (action : CdrAction) :
    (node.step strftime conf action).Owns strftime conf := by
  cases action with
  | tick | begin => exact ⟨owns.mcFileName, owns.opened, owns.descriptors⟩
  | write =>
    simp only [CdrNode.step, writeCdr]
    split
    · refine ⟨owns.mcFileName, owns.opened, fun d i leads => owns.descriptors d i ?_⟩
      unfold pcrfCdrWriteRecord at leads
      split at leads
      · rwa [AppendFiles.descriptors_write] at leads
      · exact leads
    · exact owns
  | openOther d =>
    simp only [CdrNode.step]
    split_ifs
    · exact owns.update (d := d) (some none) (by simp) rfl
    · exact owns
  | closeOther d =>
    simp only [CdrNode.step]
    split_ifs
    · exact owns.update (d := d) none (by simp) rfl
    · exact owns
  | _ => exact owns.recreateFile _

end Settled

end CdrNode

/-! ### Runs of the module -/

section Runs

open CdrNode

variable {strftime : String → Nat → Option String} {conf : CdrConf} {before : CdrFileSystem}
  {tmTm d : Nat} {node : CdrNode}

theorem owns_pcrfCdrInit (closed : ∀ d i, before.descriptors d ≠ some (some i))
    (h : pcrfCdrInit strftime conf before tmTm d = .ok node) : node.Owns strftime conf := by
  obtain ⟨mcFileName, made, rfl⟩ := of_pcrfCdrInit h
  refine ⟨opens_of_made made, opened_none rfl, fun d' i leads => ?_⟩
  simp only [AppendFiles.openFile, Function.update_apply] at leads
  split_ifs at leads with same
  · exact .inl same
  · exact absurd leads (closed d' i)

/-- A file with the name of a completed one never changes again once it is neither the one that
`g_iFile` is open for nor the one before, that the thread still has open. -/
theorem completed_final (h : pcrfCdrInit strftime conf before tmTm d = .ok node)
    (linked : before.Linked) (closed : ∀ d i, before.descriptors d ≠ some (some i))
    (distinct : DistinctNames strftime conf before tmTm) (actions more : List CdrAction) :
    let node' := (node.machine strftime conf).run actions
    ∀ dir, conf.pszCDRComplDir = some dir → ∀ t stamp, strftime conf.pszCDRMask t = some stamp →
      ∀ i, node'.files.links (dir ++ stamp) = some i → i ≠ node'.current →
        (∀ d ∈ heldBy node'.timer, node'.files.descriptors d ≠ some (some i)) →
        ((node.machine strftime conf).run (actions ++ more)).files.content i =
          node'.files.content i := by
  intro node' dir complDir t stamp at_ i link notCurrent notHeld
  have owns : node'.Owns strftime conf :=
    (node.machine strftime conf).inv_run (owns_pcrfCdrInit closed h)
      (fun node action owns => owns_step owns action) actions
  have sound : node'.Sound :=
    (node.machine strftime conf).inv_run (sound_pcrfCdrInit h)
      (fun node action sound => sound_step sound action) actions
  have names : node'.files.Linked := linked_run_of_distinct h linked distinct actions
  have settled : Settled strftime conf node'.files i := by
    refine ⟨node'.files.link_lt _ i link, fun d' leads => ?_, fun name opens link' => ?_⟩
    · rcases owns.descriptors d' i leads with rfl | held
      · rw [sound.current] at leads
        exact notCurrent (Option.some.inj (Option.some.inj leads)).symm
      · exact notHeld d' held leads
    · obtain ⟨t', stamp', at', rfl⟩ := opens
      exact distinct.apart complDir at_ at' (names.name_inj link link')
  rw [Machine.run, Machine.runFrom_append]
  have final := (node.machine strftime conf).inv_runFrom
    (I := fun after => after.Owns strftime conf ∧ Settled strftime conf after.files i ∧
      after.files.content i = node'.files.content i)
    (fun after action inv _ => ⟨owns_step inv.1 action, inv.2.1.step inv.1 action,
      (inv.2.1.content_step action).trans inv.2.2⟩)
    ⟨owns, settled, rfl⟩ ((node.machine strftime conf).meetsFrom_true node' more)
  exact final.2.2

end Runs

/-- The file of the first second is final once the next second is over. -/
theorem completed_final_everySecond :
    ((everySecondNode.machine firstDay everySecond).run
      (changedMeanwhile ++ [.tick, .timeout] ++
        [.create (some 5), .swap, .complete true])).files.content 0 =
      ((everySecondNode.machine firstDay everySecond).run
        (changedMeanwhile ++ [.tick, .timeout])).files.content 0 := by
  have closed (d i : Nat) : (.empty : CdrFileSystem).descriptors d ≠ some (some i) :=
    (Option.some_ne_none (some i)).symm
  refine completed_final init_everySecond linked_empty closed distinctNames_everySecond _ _
    "/var/cdr/done/" rfl 31 "31" rfl 0 ?_ ?_ ?_
  · decide
  · decide
  · exact fun d held => absurd held (Option.not_mem_none d)

end Pcrf
