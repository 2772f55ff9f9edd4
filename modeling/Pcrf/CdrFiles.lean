import Pcrf.Cdr
import Pcrf.Lib.AppendFiles
import Pcrf.Lib.Machine

/-!
`pcrf_cdr.cpp`: handlers write their records to the file that `g_iFile` is open for, while the
thread `pcrf_cdr_recreate_file` opens a new one at the end of every interval, moves the old one away
and closes the one before.
-/

namespace Pcrf

open Lib

abbrev CdrFileSystem := AppendFiles String Char

/-- `g_psoConf`, as far as `pcrf_cdr_init` goes on with it: there are a mask and a directory. -/
structure CdrConf where
  pszCDRMask : String
  pszCDRDir : String
  pszCDRComplDir : Option String := none
  iCDRInterval : Nat := 0

/-- What 0 stands for in `pcrf_cdr_recreate_file`. -/
def CdrConf.interval (conf : CdrConf) : Nat :=
  if conf.iCDRInterval = 0 then 60 else conf.iCDRInterval

/-- `CDR_INITIAL_NAME` -/
def cdrInitialName : String := "%Y%m%d%H%M%S_cdr.txt"

/-! ### Names -/

section Names

-- `strftime` of what `localtime_r` makes of a time, none where it fails
variable (strftime : String → Nat → Option String)

def pcrfCdrMakeTimestamp (pszFormat : String) (tmTm : Nat) : Except Int String :=
  match strftime pszFormat tmTm with
  | some mcTimeStamp => .ok mcTimeStamp
  | none => .error (-1)

def pcrfCdrMakeFilename (pszDir pszFileMask : String) (stSize tmTm : Nat) :
    Except Int String := do
  let mcTimeStamp ← pcrfCdrMakeTimestamp strftime pszFileMask tmTm
  let pszFileName := pszDir ++ mcTimeStamp
  if 0 < pszFileName.length then
    if pszFileName.length < stSize then .ok pszFileName else .error EINVAL
  else .error (-1)

/-- `rename` may fail, for instance where there is no such directory. -/
def pcrfCdrFileCompleted (conf : CdrConf) (files : CdrFileSystem) (pszFileName : String)
    (tmTm : Nat) (moved : Bool) : CdrFileSystem :=
  match conf.pszCDRComplDir with
  | some pszCDRComplDir =>
    match pcrfCdrMakeFilename strftime pszCDRComplDir conf.pszCDRMask 1024 tmTm with
    | .ok mcNewFileName => if moved then files.rename pszFileName mcNewFileName else files
    | .error _ => files
  | none => files

end Names

/-! ### The threads -/

/-- A handler in `pcrf_cdr_write_cdr`. -/
structure CdrHandler where
  soReqData : ExtractedData
  iFile : Nat
  /-- The file that was current when the handler began, and when that was, for the statements
  only. -/
  file : Nat
  began : Nat

/-- How far `pcrf_cdr_recreate_file` is, with its variables. -/
inductive CdrTimer where
  | starting
  | waiting (soTimeSpec : Nat) (iTmpFile : Option Nat)
  | closed
  | opened (mcFileName : String) (iNewFile file : Nat)
  | swapped (mcFileName : String) (iTmpFile : Nat)
  | completed (mcFileName : String) (iTmpFile : Nat)
  | exited

structure CdrNode where
  files : CdrFileSystem
  /-- What `time` and `gettimeofday` give, in seconds. -/
  now : Nat
  iFile : Nat
  mcFileName : String
  timer : CdrTimer := .starting
  handlers : List CdrHandler := []
  /-- The file that `g_iFile` is open for, and the records that handlers have made for a file, for
  the statements only. -/
  current : Nat
  written : List (Nat × List Char) := []

inductive CdrAction where
  | tick
  | begin (soReqData : ExtractedData)
  | write (i : Nat) (soTV : Option Timeval) (count : Nat)
  | timeout
  | create (d : Option Nat)
  | swap
  | complete (moved : Bool)
  | prepare
  | openOther (d : Nat)
  | closeOther (d : Nat)

/-- `pcrf_cdr_init` with what is in the directories already; `open` gives the descriptor `d`. -/
def pcrfCdrInit (strftime : String → Nat → Option String) (conf : CdrConf) (before : CdrFileSystem)
    (tmTm d : Nat) : Except Int CdrNode := do
  let mcFileName ← pcrfCdrMakeFilename strftime conf.pszCDRDir cdrInitialName 4096 tmTm
  pure
    { files := before.openFile mcFileName d
      now := tmTm
      iFile := d
      mcFileName := mcFileName
      current := before.fileAt mcFileName }

/-- `pcrf_cdr_write_record`, where `write` takes no more than `count` characters. -/
def pcrfCdrWriteRecord (files : CdrFileSystem) (strData : String) (iFile count : Nat) :
    CdrFileSystem :=
  if 0 < strData.length then files.write iFile (strData.toList.take count) else files

/-- The first multiple of the interval that is still to come. -/
def nextSoTimeSpec (conf : CdrConf) (now : Nat) : Nat :=
  let tvSec := now + conf.interval
  if tvSec % conf.interval ≠ 0 then tvSec / conf.interval * conf.interval else tvSec

namespace CdrNode

variable (strftime : String → Nat → Option String) (conf : CdrConf) (node : CdrNode)

/-- `pcrf_cdr_write_cdr` after `g_iFile` was read. -/
def writeCdr (i : Nat) (soTV : Option Timeval) (count : Nat) : CdrNode :=
  match node.handlers[i]? with
  | some handler =>
    let strRecCont := pcrfCdrMakeRecord soTV handler.soReqData
    { node with
      files := pcrfCdrWriteRecord node.files strRecCont handler.iFile count
      handlers := node.handlers.eraseIdx i
      written := node.written ++ [(handler.file, strRecCont.toList)] }
  | none => node

/-- The name is made and opened; where that fails the thread is at its end. -/
def createFile (d : Option Nat) : CdrNode :=
  match pcrfCdrMakeFilename strftime conf.pszCDRDir cdrInitialName 1024 node.now, d with
  | .ok mcFileName, some d =>
    if node.files.descriptors d = none then
      { node with
        files := node.files.openFile mcFileName d
        timer := .opened mcFileName d (node.files.fileAt mcFileName) }
    else node
  | _, _ => { node with timer := .exited }

/-- The steps of `pcrf_cdr_recreate_file`. -/
def recreateFile : CdrTimer → CdrAction → CdrNode
  | .starting, .prepare =>
    { node with timer := .waiting (node.now + conf.interval) none }
  | .waiting soTimeSpec iTmpFile, .timeout =>
    if soTimeSpec ≤ node.now then
      { node with files := iTmpFile.elim node.files node.files.close, timer := .closed }
    else node
  | .closed, .create d => node.createFile strftime conf d
  | .opened mcFileName iNewFile file, .swap =>
    { node with iFile := iNewFile, current := file, timer := .swapped mcFileName node.iFile }
  | .swapped mcFileName iTmpFile, .complete moved =>
    { node with
      files := pcrfCdrFileCompleted strftime conf node.files node.mcFileName node.now moved
      timer := .completed mcFileName iTmpFile }
  | .completed mcFileName iTmpFile, .prepare =>
    { node with
      mcFileName := mcFileName
      timer := .waiting (nextSoTimeSpec conf node.now) (some iTmpFile) }
  | _, _ => node

def step : CdrAction → CdrNode
  | .tick => { node with now := node.now + 1 }
  | .begin soReqData =>
    { node with handlers := node.handlers ++ [⟨soReqData, node.iFile, node.current, node.now⟩] }
  | .write i soTV count => node.writeCdr i soTV count
  | .openOther d =>
    if node.files.descriptors d = none then { node with files := node.files.openOther d } else node
  | .closeOther d =>
    if node.files.descriptors d = some none then { node with files := node.files.close d }
    else node
  | action => node.recreateFile strftime conf node.timer action

/-- Runs of the module once it is initialized. -/
def machine : Machine CdrNode CdrAction where
  init := node
  step := step strftime conf

end CdrNode

/-! ### The records -/

namespace CdrNode

/-- The records that were made for a file, in the order in which they were written. -/
def recordsFor (node : CdrNode) (i : Nat) : List Char :=
  (node.written.filter (·.1 = i)).flatMap (·.2)

/-- Every file has what was in it before, and then just the records that were made for it. -/
def Kept (before : CdrFileSystem) (node : CdrNode) : Prop :=
  ∀ i, node.files.content i = before.content i ++ node.recordsFor i

/-- A record is written in full, by a descriptor that is still open for the file that was current
when the handler began. -/
def WritesWhole (node : CdrNode) : CdrAction → Prop
  | .write i soTV count => ∀ handler, node.handlers[i]? = some handler →
    pcrfCdrMakeRecord soTV handler.soReqData = "" ∨
      node.files.descriptors handler.iFile = some (some handler.file) ∧
        (pcrfCdrMakeRecord soTV handler.soReqData).length ≤ count
  | _ => True

section Records

variable {strftime : String → Nat → Option String} {conf : CdrConf} {before : CdrFileSystem}
  {node : CdrNode} {i d : Nat}

theorem content_createFile {d : Option Nat} :
    (node.createFile strftime conf d).files.content i = node.files.content i ∧
      (node.createFile strftime conf d).written = node.written := by
  unfold createFile
  split
  · split
    · exact ⟨AppendFiles.content_openFile, rfl⟩
    · exact ⟨rfl, rfl⟩
  · exact ⟨rfl, rfl⟩

theorem content_fileCompleted {files : CdrFileSystem} {pszFileName : String} {tmTm : Nat}
    {moved : Bool} :
    (pcrfCdrFileCompleted strftime conf files pszFileName tmTm moved).content i =
      files.content i := by
  unfold pcrfCdrFileCompleted
  split
  · split
    · split
      · exact AppendFiles.content_rename
      · rfl
    · rfl
  · rfl

theorem content_recreateFile (timer : CdrTimer) (action : CdrAction) :
    (node.recreateFile strftime conf timer action).files.content i = node.files.content i ∧
      (node.recreateFile strftime conf timer action).written = node.written := by
  unfold recreateFile
  split
  case h_2 soTimeSpec iTmpFile =>
    split
    · cases iTmpFile <;> exact ⟨rfl, rfl⟩
    · exact ⟨rfl, rfl⟩
  case h_3 => exact content_createFile
  case h_5 => exact ⟨content_fileCompleted, rfl⟩
  all_goals exact ⟨rfl, rfl⟩

theorem kept_congr {node' : CdrNode} (content : ∀ i, node'.files.content i = node.files.content i)
    (written : node'.written = node.written) : node'.Kept before ↔ node.Kept before := by
  simp only [Kept, recordsFor, content, written]

/-- What a write puts into the files. -/
theorem content_writeRecord {files : CdrFileSystem} {strData : String} {count : Nat} :
    (pcrfCdrWriteRecord files strData d count).content i = files.content i ++
      if files.descriptors d = some (some i) then strData.toList.take count else [] := by
  unfold pcrfCdrWriteRecord
  split
  · exact AppendFiles.content_write
  · have empty : strData = "" := by simpa using ‹¬ 0 < strData.length›
    simp [empty]

/-- The same piece is missing and there only when the record is whole in its own file. -/
theorem piece_iff {strData : String} {count file : Nat} {leads : Option (Option Nat)} :
    (∀ i, (if leads = some (some i) then strData.toList.take count else []) =
        if file = i then strData.toList else []) ↔
      strData = "" ∨ leads = some (some file) ∧ strData.length ≤ count := by
  constructor
  · intro same
    have own := same file
    rw [if_pos rfl] at own
    split_ifs at own with right
    · have length := congrArg List.length own
      rw [List.length_take, String.length_toList] at length
      exact .inr ⟨right, min_eq_right_iff.mp length⟩
    · exact .inl (by simpa using own.symm)
  · rintro (rfl | ⟨rfl, long⟩) i
    · simp
    · have whole : strData.toList.take count = strData.toList :=
        List.take_of_length_le (String.length_toList.trans_le long)
      simp only [whole, Option.some.injEq]

theorem kept_writeCdr_iff {soTV : Option Timeval} {count : Nat} (kept : node.Kept before) :
    (node.writeCdr i soTV count).Kept before ↔ node.WritesWhole (.write i soTV count) := by
  unfold writeCdr
  cases at_ : node.handlers[i]? with
  | none => simp [WritesWhole, at_, kept]
  | some handler =>
    have records (i : Nat) : ((node.written ++ [(handler.file,
        (pcrfCdrMakeRecord soTV handler.soReqData).toList)]).filter (·.1 = i)).flatMap (·.2) =
        node.recordsFor i ++ if handler.file = i then
          (pcrfCdrMakeRecord soTV handler.soReqData).toList else [] := by
      by_cases same : handler.file = i <;> simp [recordsFor, List.filter_append, same]
    simp only [WritesWhole, at_, Option.some.injEq, forall_eq', ← piece_iff, Kept]
    refine forall_congr' fun j => ?_
    simp only [recordsFor, records, content_writeRecord, kept j, List.append_assoc]
    simp

theorem kept_step_iff (kept : node.Kept before) (action : CdrAction) :
    (node.step strftime conf action).Kept before ↔ node.WritesWhole action := by
  cases action with
  | write i soTV count => exact kept_writeCdr_iff kept
  | openOther d =>
    refine iff_of_true ?_ trivial
    rw [step]
    split <;> exact kept
  | closeOther d =>
    refine iff_of_true ?_ trivial
    rw [step]
    split <;> exact kept
  | tick | begin => exact iff_of_true kept trivial
  | _ =>
    refine iff_of_true ((kept_congr (fun i => ?_) ?_).mpr kept) trivial
    · exact (content_recreateFile node.timer _).1
    · exact (content_recreateFile (i := 0) node.timer _).2

end Records

/-! ### The descriptors -/

/-- Another descriptor than `g_iFile`, which is open for a file. -/
def OpenApart (node : CdrNode) (d : Nat) : Prop :=
  d ≠ node.iFile ∧ ∃ file, node.files.descriptors d = some (some file)

/-- What the thread has open. When its time comes, the handlers that began with the file before
have begun earlier. -/
def Has (node : CdrNode) : CdrTimer → Prop
  | .waiting soTimeSpec iTmpFile => ∀ d ∈ iTmpFile, node.OpenApart d ∧
    ∀ handler ∈ node.handlers, handler.iFile = d → handler.began < soTimeSpec
  | .opened _ iNewFile file =>
    iNewFile ≠ node.iFile ∧ node.files.descriptors iNewFile = some (some file)
  | .swapped _ iTmpFile | .completed _ iTmpFile => node.OpenApart iTmpFile
  | _ => True

/-- In the second in which a handler begins its descriptor stays open for its file. -/
def InTime (node : CdrNode) (handler : CdrHandler) : Prop :=
  handler.began ≤ node.now ∧ (handler.began < node.now ∨
    node.files.descriptors handler.iFile = some (some handler.file))

structure Sound (node : CdrNode) : Prop where
  current : node.files.descriptors node.iFile = some (some node.current)
  timer : node.Has node.timer
  handlers : ∀ handler ∈ node.handlers, node.InTime handler

/-- A handler writes in full, in the second in which it has read `g_iFile`. -/
def Prompt (node : CdrNode) : CdrAction → Prop
  | .write i soTV count => ∀ handler, node.handlers[i]? = some handler →
    node.now = handler.began ∧ (pcrfCdrMakeRecord soTV handler.soReqData).length ≤ count
  | _ => True

section Descriptors

variable {strftime : String → Nat → Option String} {conf : CdrConf} {node : CdrNode} {d : Nat}

theorem Sound.writesWhole (sound : node.Sound) {action : CdrAction} (prompt : node.Prompt action) :
    node.WritesWhole action := by
  cases action with
  | write i soTV count =>
    intro handler at_
    obtain ⟨now, long⟩ := prompt handler at_
    rcases (sound.handlers handler (List.mem_of_getElem? at_)).2 with earlier | leads
    · exact absurd now earlier.ne'
    · exact .inr ⟨leads, long⟩
  | _ => trivial

theorem lt_nextSoTimeSpec (conf : CdrConf) (now : Nat) : now < nextSoTimeSpec conf now := by
  have positive : 0 < conf.interval := by
    unfold CdrConf.interval
    split <;> omega
  unfold nextSoTimeSpec
  have split := Nat.div_add_mod (now + conf.interval) conf.interval
  have less := Nat.mod_lt (now + conf.interval) positive
  rw [Nat.mul_comm] at split
  dsimp only
  split_ifs <;> omega

/-- A descriptor that no handler in its second has is opened or closed. -/
theorem inTime_update {files : CdrFileSystem} {value : Option (Option Nat)}
    (inTime : ∀ handler ∈ node.handlers, node.InTime handler)
    (descriptors : files.descriptors = Function.update node.files.descriptors d value)
    (unused : ∀ handler ∈ node.handlers, handler.iFile = d → handler.began < node.now) :
    ∀ handler ∈ node.handlers, InTime { node with files := files } handler := by
  intro handler mem
  refine ⟨(inTime handler mem).1, ?_⟩
  by_cases same : handler.iFile = d
  · exact .inl (unused handler mem same)
  · refine (inTime handler mem).2.imp_right fun leads => ?_
    simpa only [descriptors, Function.update_of_ne same] using leads

/-- A descriptor that is not open for a file is none that a handler in its second has. -/
theorem Sound.unused (sound : node.Sound)
    (other : ∀ file, node.files.descriptors d ≠ some (some file)) :
    ∀ handler ∈ node.handlers, handler.iFile = d → handler.began < node.now := by
  rintro handler mem rfl
  exact (sound.handlers handler mem).2.resolve_right (other _)

theorem Sound.setTimer (sound : node.Sound) {timer : CdrTimer} (has : node.Has timer) :
    Sound { node with timer := timer } :=
  ⟨sound.current, by cases timer <;> exact has, sound.handlers⟩

theorem OpenApart.update {files : CdrFileSystem} {value : Option (Option Nat)} {d' : Nat}
    (apart : node.OpenApart d') (ne : d' ≠ d)
    (descriptors : files.descriptors = Function.update node.files.descriptors d value) :
    OpenApart { node with files := files } d' := by
  obtain ⟨ne', file, leads⟩ := apart
  exact ⟨ne', file, by simpa only [descriptors, Function.update_of_ne ne] using leads⟩

/-- What else the process opens and closes does not matter. -/
theorem Sound.update (sound : node.Sound) {files : CdrFileSystem} {value : Option (Option Nat)}
    (other : ∀ file, node.files.descriptors d ≠ some (some file))
    (descriptors : files.descriptors = Function.update node.files.descriptors d value) :
    Sound { node with files := files } := by
  have ne {d' file : Nat} (leads : node.files.descriptors d' = some (some file)) : d' ≠ d := by
    rintro rfl
    exact other file leads
  have keeps {d' : Nat} (apart : node.OpenApart d') :
      OpenApart { node with files := files } d' := by
    obtain ⟨file, leads⟩ := apart.2
    exact apart.update (ne leads) descriptors
  have handlers := inTime_update sound.handlers descriptors (sound.unused other)
  refine ⟨?_, ?_, handlers⟩
  · simpa only [descriptors, Function.update_of_ne (ne sound.current)] using sound.current
  · have timer := sound.timer
    change Has { node with files := files } node.timer
    cases timer_ : node.timer with
    | waiting soTimeSpec iTmpFile =>
      rw [timer_] at timer
      exact fun d' mem => ⟨keeps (timer d' mem).1, (timer d' mem).2⟩
    | opened mcFileName iNewFile file =>
      rw [timer_] at timer
      refine ⟨timer.1, ?_⟩
      simpa only [descriptors, Function.update_of_ne (ne timer.2)] using timer.2
    | swapped mcFileName iTmpFile | completed mcFileName iTmpFile =>
      rw [timer_] at timer
      exact keeps timer
    | starting | closed | exited => trivial

/-- Only the descriptors, the handlers and the clock matter. -/
theorem Sound.setHandlers (sound : node.Sound) {files : CdrFileSystem}
    {handlers : List CdrHandler} {written : List (Nat × List Char)}
    (descriptors : files.descriptors = node.files.descriptors)
    (subset : handlers ⊆ node.handlers) :
    Sound { node with files := files, handlers := handlers, written := written } := by
  refine ⟨?_, ?_, fun handler mem => ?_⟩
  · simpa only [descriptors] using sound.current
  · have timer := sound.timer
    change Has { node with files := files, handlers := handlers, written := written } node.timer
    cases timer_ : node.timer with
    | waiting soTimeSpec iTmpFile =>
      rw [timer_] at timer
      refine fun d mem => ⟨?_, fun handler mem' => (timer d mem).2 handler (subset mem')⟩
      simpa only [OpenApart, descriptors] using (timer d mem).1
    | opened | swapped | completed =>
      rw [timer_] at timer
      simpa only [Has, OpenApart, descriptors] using timer
    | starting | closed | exited => trivial
  · simpa only [InTime, descriptors] using sound.handlers handler (subset mem)

theorem Sound.tick (sound : node.Sound) : Sound { node with now := node.now + 1 } := by
  refine ⟨sound.current, ?_, fun handler mem => ?_⟩
  · have timer := sound.timer
    change Has { node with now := node.now + 1 } node.timer
    cases timer_ : node.timer <;> rw [timer_] at timer <;> exact timer
  · have began := (sound.handlers handler mem).1
    exact ⟨Nat.le_succ_of_le began, .inl (Nat.lt_succ_of_le began)⟩

theorem Sound.begin (sound : node.Sound) (soReqData : ExtractedData) :
    Sound { node with handlers :=
      node.handlers ++ [⟨soReqData, node.iFile, node.current, node.now⟩] } := by
  refine ⟨sound.current, ?_, fun handler mem => ?_⟩
  · have timer := sound.timer
    change Has { node with handlers := _ } node.timer
    cases timer_ : node.timer with
    | waiting soTimeSpec iTmpFile =>
      rw [timer_] at timer
      refine fun d mem => ⟨(timer d mem).1, fun handler mem' same => ?_⟩
      rcases List.mem_append.mp mem' with old | new
      · exact (timer d mem).2 handler old same
      · obtain rfl := List.mem_singleton.mp new
        exact absurd same.symm (timer d mem).1.1
    | opened | swapped | completed =>
      rw [timer_] at timer
      exact timer
    | starting | closed | exited => trivial
  · rcases List.mem_append.mp mem with old | new
    · exact sound.handlers handler old
    · obtain rfl := List.mem_singleton.mp new
      exact ⟨le_rfl, .inr sound.current⟩

theorem Sound.createFile (sound : node.Sound) (d : Option Nat) :
    (node.createFile strftime conf d).Sound := by
  unfold CdrNode.createFile
  split
  · rename_i mcFileName d _
    split_ifs with free
    · have other (file : Nat) : node.files.descriptors d ≠ some (some file) := by
        rw [free]
        exact (Option.some_ne_none _).symm
      have apart : d ≠ node.iFile := by
        rintro rfl
        exact other _ sound.current
      have opened : Sound { node with files := node.files.openFile mcFileName d } :=
        sound.update other rfl
      exact opened.setTimer ⟨apart, Function.update_self ..⟩
    · exact sound
  · exact sound.setTimer trivial

theorem descriptors_fileCompleted {files : CdrFileSystem} {pszFileName : String} {tmTm : Nat}
    {moved : Bool} :
    (pcrfCdrFileCompleted strftime conf files pszFileName tmTm moved).descriptors =
      files.descriptors := by
  unfold pcrfCdrFileCompleted
  split
  · split
    · split
      · exact AppendFiles.descriptors_rename
      · rfl
    · rfl
  · rfl

/-- The file before is closed when its time has come. -/
theorem Sound.timeout (sound : node.Sound) {soTimeSpec : Nat} {iTmpFile : Option Nat}
    (timer : node.timer = .waiting soTimeSpec iTmpFile) (time : soTimeSpec ≤ node.now) :
    Sound { node with
      files := iTmpFile.elim node.files node.files.close, timer := .closed } := by
  cases iTmpFile with
  | none => exact sound.setTimer trivial
  | some d =>
    have has := sound.timer
    rw [timer] at has
    obtain ⟨apart, earlier⟩ := has d rfl
    have closed : (node.files.close d).descriptors =
        Function.update node.files.descriptors d none := rfl
    have handlers := inTime_update sound.handlers closed fun handler mem same =>
      (earlier handler mem same).trans_le time
    refine ⟨?_, trivial, handlers⟩
    change (node.files.close d).descriptors node.iFile = _
    rw [closed, Function.update_of_ne apart.1.symm]
    exact sound.current

theorem Sound.recreateFile (sound : node.Sound) (action : CdrAction) :
    (node.recreateFile strftime conf node.timer action).Sound := by
  have has := sound.timer
  unfold CdrNode.recreateFile
  split
  case h_1 timer => exact sound.setTimer fun d mem => absurd mem (Option.not_mem_none d)
  case h_2 soTimeSpec iTmpFile timer =>
    split
    · exact sound.timeout timer ‹_›
    · exact sound
  case h_3 d timer => exact sound.createFile d
  case h_4 mcFileName iNewFile file timer =>
    rw [timer] at has
    exact ⟨has.2, ⟨has.1.symm, node.current, sound.current⟩, sound.handlers⟩
  case h_5 mcFileName iTmpFile moved timer =>
    rw [timer] at has
    have same : Sound { node with
        files := pcrfCdrFileCompleted strftime conf node.files node.mcFileName node.now moved } :=
      sound.setHandlers descriptors_fileCompleted (List.Subset.refl node.handlers)
    refine same.setTimer ?_
    simpa only [Has, OpenApart, descriptors_fileCompleted] using has
  case h_6 mcFileName iTmpFile timer =>
    rw [timer] at has
    refine ⟨sound.current, fun d mem => ?_, sound.handlers⟩
    obtain rfl := Option.some.inj mem
    exact ⟨has, fun handler mem' _ =>
      (sound.handlers handler mem').1.trans_lt (lt_nextSoTimeSpec conf node.now)⟩
  case h_7 => exact sound

theorem sound_step (sound : node.Sound) (action : CdrAction) :
    (node.step strftime conf action).Sound := by
  cases action with
  | tick => exact sound.tick
  | begin soReqData => exact sound.begin soReqData
  | write i soTV count =>
    simp only [step, writeCdr]
    split
    · refine sound.setHandlers ?_ (List.eraseIdx_subset ..)
      unfold pcrfCdrWriteRecord
      split
      · exact AppendFiles.descriptors_write
      · rfl
    · exact sound
  | openOther d =>
    simp only [step]
    split_ifs with free
    · exact sound.update (d := d) (by simp [free]) rfl
    · exact sound
  | closeOther d =>
    simp only [step]
    split_ifs with other
    · exact sound.update (d := d) (by simp [other]) rfl
    · exact sound
  | _ => exact sound.recreateFile _

end Descriptors

end CdrNode

/-! ### Runs of the module -/

section Runs

open CdrNode

variable {strftime : String → Nat → Option String} {conf : CdrConf} {before : CdrFileSystem}
  {tmTm d : Nat} {node : CdrNode}

theorem of_pcrfCdrInit (h : pcrfCdrInit strftime conf before tmTm d = .ok node) :
    ∃ mcFileName, pcrfCdrMakeFilename strftime conf.pszCDRDir cdrInitialName 4096 tmTm =
        .ok mcFileName ∧
      node = ⟨before.openFile mcFileName d, tmTm, d, mcFileName, .starting, [],
        before.fileAt mcFileName, []⟩ := by
  unfold pcrfCdrInit at h
  cases made : pcrfCdrMakeFilename strftime conf.pszCDRDir cdrInitialName 4096 tmTm with
  | error code =>
    rw [made] at h
    cases h
  | ok mcFileName =>
    rw [made] at h
    exact ⟨mcFileName, rfl, (Except.ok.inj h).symm⟩

theorem kept_pcrfCdrInit (h : pcrfCdrInit strftime conf before tmTm d = .ok node) :
    node.Kept before := by
  obtain ⟨mcFileName, -, rfl⟩ := of_pcrfCdrInit h
  intro i
  simp [recordsFor]

theorem sound_pcrfCdrInit (h : pcrfCdrInit strftime conf before tmTm d = .ok node) :
    node.Sound := by
  obtain ⟨mcFileName, -, rfl⟩ := of_pcrfCdrInit h
  exact ⟨Function.update_self .., trivial, fun _ mem => absurd mem List.not_mem_nil⟩

/-- All along a run every file has just the records of the handlers that began while it was the
current one, in the order in which they were written, exactly if every record was written in full
by a descriptor that was still open for its file. That is so when the handlers write in the second
in which they have begun, however the thread changes the files meanwhile. -/
theorem records_kept (h : pcrfCdrInit strftime conf before tmTm d = .ok node)
    (actions : List CdrAction) :
    ((∀ pre, pre <+: actions → ((node.machine strftime conf).run pre).Kept before) ↔
        (node.machine strftime conf).Meets WritesWhole actions) ∧
      ((node.machine strftime conf).Meets Prompt actions →
        ((node.machine strftime conf).run actions).Kept before) := by
  have start := kept_pcrfCdrInit h
  constructor
  · exact (node.machine strftime conf).always_iff_meets start
      (fun node action kept => kept_step_iff kept action) actions
  · intro prompt
    have both : ((node.machine strftime conf).run actions).Sound ∧
        ((node.machine strftime conf).run actions).Kept before := by
      refine (node.machine strftime conf).inv_of_meets
        (I := fun node => node.Sound ∧ node.Kept before) ⟨sound_pcrfCdrInit h, start⟩ ?_ prompt
      rintro node action ⟨sound, kept⟩ prompt
      exact ⟨sound_step sound action, (kept_step_iff kept action).mpr (sound.writesWhole prompt)⟩
    exact both.2

end Runs

/-! ### A handler between the files -/

/-- What `strftime` gives for the second since 1970 and, on the first day of 1970, for the name of a
new file. -/
def firstDay (pszFormat : String) (tmTm : Nat) : Option String :=
  let digits (n : Nat) : String := toString (n / 10) ++ toString (n % 10)
  if pszFormat = "%s" then some (toString tmTm)
  else some ("19700101" ++ digits (tmTm / 3600) ++ digits (tmTm / 60 % 60) ++ digits (tmTm % 60) ++
    "_cdr.txt")

/-- A new file every second. -/
def everySecond : CdrConf where
  pszCDRMask := "%s"
  pszCDRDir := "/var/cdr/new/"
  pszCDRComplDir := some "/var/cdr/done/"
  iCDRInterval := 1

/-- The files are changed while a session ends, whose record is written after its file has got its
new name. -/
def changedMeanwhile : List CdrAction :=
  [.prepare, .tick, .timeout, .create (some 6), .begin (({} : ExtractedData).forCdr false none),
    .swap, .complete true, .write 0 none 100, .prepare]

/-- The module, initialized in an empty directory. -/
def everySecondNode : CdrNode where
  files := AppendFiles.empty.openFile "/var/cdr/new/19700101000030_cdr.txt" 5
  now := 30
  iFile := 5
  mcFileName := "/var/cdr/new/19700101000030_cdr.txt"
  current := 0

theorem init_everySecond :
    pcrfCdrInit firstDay everySecond .empty 30 5 = .ok everySecondNode := rfl

theorem records_kept_everySecond :
    ((everySecondNode.machine firstDay everySecond).run changedMeanwhile).Kept .empty := by
  refine (records_kept init_everySecond changedMeanwhile).2 ?_
  refine ⟨trivial, trivial, trivial, trivial, trivial, trivial, trivial, ?_, trivial, trivial⟩
  intro handler at_
  obtain rfl := Option.some.inj at_
  exact ⟨rfl, by decide⟩

end Pcrf
