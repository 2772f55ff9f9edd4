import Pcrf.ConfLayout
import Pcrf.ConfMeaning
import Pcrf.Timeouts

/-!
`app_pcrf_conf_handle`: which configuration files are accepted, and that every configuration can be
written down.
-/

namespace Pcrf

open Lib

/-- What is returned: 0, `EINVAL`, or the error of `fopen`. -/
inductive ConfReturn where
  | ok
  | einval
  | notOpened
  deriving Repr, DecidableEq

/-- The code that is returned, and what the actions leave. -/
def appPcrfConfHandle (files : ConfFiles) (name : String) :
    ConfReturn × Option ConfState :=
  match files.fopen name with
  | none => (.notOpened, some {})
  | some text =>
    let (statements, rest) := conffile (confTokens files text).tokens
    (if rest.isEmpty then .ok else .einval, ConfState.statements statements)

/-! ### Errors of the scanner -/

/-- A result without a start condition shows its error. -/
def ShowsError (result : LexResult) : Prop :=
  result.condition = none → .lexError ∈ result.tokens

theorem showsError_error : ShowsError .error := fun _ => List.mem_cons_self

theorem showsError_push {result : LexResult} (shows : ShowsError result)
    (tokens : List ConfToken) : ShowsError (result.push tokens) := fun none_ =>
  List.mem_append_right tokens (shows none_)

theorem showsError_scanText {included : String → LexResult}
    (shows : ∀ pattern, ShowsError (included pattern)) (fuel : Nat) (condition : StartCondition)
    (text : List Char) : ShowsError (scanText included fuel condition text) := by
  induction fuel generalizing condition text with
  | zero => exact fun none_ => absurd none_ (Option.some_ne_none condition)
  | succ fuel ih =>
    rw [scanText]
    split
    next => exact fun none_ => absurd none_ (Option.some_ne_none condition)
    next rule taken =>
      simp only
      split
      next => exact ih _ _
      next => exact ih _ _
      next => exact showsError_push (ih _ _) _
      next =>
        split
        next => exact showsError_push (ih _ _) _
        next tokens files => exact fun none_ => files ▸ shows _ (files ▸ none_)
      next => exact showsError_error

theorem showsError_scanFiles {files : ConfFiles} {included : String → LexResult}
    (shows : ∀ pattern, ShowsError (included pattern)) (condition : StartCondition)
    (names : List String) : ShowsError (scanFiles files included condition names) := by
  induction names generalizing condition with
  | nil => exact fun none_ => absurd none_ (Option.some_ne_none condition)
  | cons name names ih =>
    rw [scanFiles]
    split
    next => exact showsError_error
    next text opened =>
      have scanned := showsError_scanText shows text.length condition text.toList
      split
      next => exact showsError_push (ih _) _
      next tokens same => exact fun none_ => same ▸ scanned (same ▸ none_)

theorem showsError_includeFiles (files : ConfFiles) (levels : Nat) (pattern : String) :
    ShowsError (includeFiles files levels pattern) := by
  induction levels generalizing pattern with
  | zero => exact showsError_error
  | succ levels ih =>
    rw [includeFiles]
    split
    next => exact fun none_ => absurd none_ (Option.some_ne_none _)
    next => exact showsError_error
    next => exact showsError_scanFiles ih .initial _

/-- No production has the token of an error. -/
theorem lexError_notMem (list : List ConfStatement) :
    .lexError ∉ list.flatMap ConfStatement.tokens := by
  intro mem
  obtain ⟨statement, -, mem⟩ := List.mem_flatMap.mp mem
  cases statement with
  | tracer params =>
    simp only [ConfStatement.tokens, block, List.mem_append, List.mem_cons, List.mem_flatMap,
      reduceCtorEq, List.not_mem_nil, or_false, false_or] at mem
    obtain ⟨param, -, mem⟩ := mem
    cases param <;> simp [TracerParam.tokens, assignment] at mem
  | defaultRule rule =>
    simp only [ConfStatement.tokens, block, List.mem_append, List.mem_cons, List.mem_flatMap,
      reduceCtorEq, List.not_mem_nil, or_false, false_or] at mem
    obtain ⟨condition, -, mem⟩ := mem
    simp [selectorTokens, assignment] at mem
  | text key value => simp [ConfStatement.tokens, assignment] at mem
  | integer key value => simp [ConfStatement.tokens, assignment] at mem
  | ccaTimeout value => simp [ConfStatement.tokens, assignment] at mem
  | selectorParam param => simp [ConfStatement.tokens] at mem

/-! ### What is accepted -/

section Handling

variable {files : ConfFiles} {name text : String}

/-- A text is parsed without an error just when it is laid out for the statements. -/
theorem conffile_confTokens_iff {list : List ConfStatement} :
    conffile (confTokens files text).tokens = (list, []) ↔
      ∃ final, Reads (includeFiles files maxNestedConfFiles) .initial text.toList
        (list.flatMap ConfStatement.tokens) final := by
  simp only [conffile_iff, List.append_nil, ← confTokens_iff]
  constructor
  · rintro ⟨tokens, -⟩
    cases scanned : confTokens files text with
    | mk tokens' condition =>
      rw [scanned] at tokens
      cases condition with
      | some final => exact ⟨final, by rw [← tokens]⟩
      | none =>
        have shows := showsError_scanText (showsError_includeFiles files maxNestedConfFiles)
          text.length .initial text.toList
        rw [ShowsError, show scanText _ _ _ _ = _ from scanned] at shows
        exact absurd (tokens ▸ shows rfl) (lexError_notMem list)
  · rintro ⟨final, scanned⟩
    rw [scanned]
    exact ⟨rfl, rfl⟩

variable {state : Option ConfState} {list : List ConfStatement} {final : StartCondition}

theorem handle_of_reads (opened : files.fopen name = some text)
    (reads : Reads (includeFiles files maxNestedConfFiles) .initial text.toList
      (list.flatMap ConfStatement.tokens) final) :
    appPcrfConfHandle files name = (.ok, ConfState.statements list) := by
  have parsed := conffile_confTokens_iff.mpr ⟨final, reads⟩
  simp only [appPcrfConfHandle, opened, parsed]
  rfl

theorem reads_of_handle (accepted : appPcrfConfHandle files name = (.ok, state)) :
    ∃ text list final, files.fopen name = some text ∧
      Reads (includeFiles files maxNestedConfFiles) .initial text.toList
        (list.flatMap ConfStatement.tokens) final ∧
      state = ConfState.statements list := by
  cases opened : files.fopen name with
  | none => simp [appPcrfConfHandle, opened] at accepted
  | some text =>
    simp only [appPcrfConfHandle, opened] at accepted
    cases parsed : conffile (confTokens files text).tokens with
    | mk list rest =>
      simp only [parsed] at accepted
      obtain ⟨code, rfl⟩ := Prod.mk.inj accepted
      cases rest with
      | cons token rest => cases code
      | nil =>
        obtain ⟨final, reads⟩ := conffile_confTokens_iff.mp parsed
        exact ⟨text, list, final, rfl, reads, rfl⟩

/-- A file is accepted just when it is laid out for statements, whose actions are then done. -/
theorem appPcrfConfHandle_ok_iff {state : Option ConfState} :
    appPcrfConfHandle files name = (.ok, state) ↔
      ∃ text list final, files.fopen name = some text ∧
        Reads (includeFiles files maxNestedConfFiles) .initial text.toList
          (list.flatMap ConfStatement.tokens) final ∧
        state = ConfState.statements list := by
  refine ⟨reads_of_handle, ?_⟩
  rintro ⟨text, list, final, opened, reads, rfl⟩
  exact handle_of_reads opened reads

end Handling

/-! ### The waits -/

/-- The waits of a program that has its configuration from a file end at the time that is meant. -/
theorem waits_of_accepted {files : ConfFiles} {name : String} {state : ConfState}
    (accepted : appPcrfConfHandle files name = (.ok, some state)) (memory : state.InMemory) :
    ∃ conf : WaitConf, conf.iDBReqInterval = state.psoConf.iDBReqInterval ∧
      conf.uiCCATimeoutSec = state.psoConf.uiCCATimeoutSec ∧
      conf.uiCCATimeoutUSec = state.psoConf.uiCCATimeoutUSec ∧
      ∀ (wait : TimedWait) (now : TimeOfDay),
        now.MakesTimeout (wait.timeout conf).1 (wait.timeout conf).2 ↔
          now.HasDeadline (wait.timeout conf).1 (wait.timeout conf).2 := by
  obtain ⟨text, list, final, -, -, run⟩ := reads_of_handle accepted
  have configured := configured_of_inMemory run.symm memory
  refine ⟨⟨state.psoConf.iDBReqInterval, state.psoConf.uiCCATimeoutSec,
    state.psoConf.uiCCATimeoutUSec, configured.usec_lt⟩, rfl, rfl, rfl, fun wait now => ?_⟩
  exact wait.makesTimeout_iff_hasDeadline _ now

/-! ### How a configuration is written -/

namespace ConfToken

def written : ConfToken → List Char
  | .keyword key => key.text.toList
  | qstring text => '"' :: text.text.toList ++ ['"']
  | integer value => Nat.toDigits 10 value.toNatClampNeg
  | double value => value.written
  | single c => [c]
  | lexError => []

/-- The values that can be written. -/
def Writable : ConfToken → Prop
  | keyword _ => True
  | qstring text => ∀ c ∈ text.text.toList, c ≠ '"' ∧ c ≠ '\n'
  | integer value => 0 ≤ value
  | double _ => True
  | single c => isSingle c = true
  | lexError => False

end ConfToken

/-- Tokens with a blank behind each of them. -/
def writtenTokens (tokens : List ConfToken) : List Char :=
  tokens.flatMap fun token => token.written ++ [' ']

section Writing

variable {included : String → LexResult} {rest : List Char} {tokens : List ConfToken}
  {final : StartCondition}

theorem doubleLength_of_blank {digits : List Char} (all : ∀ c ∈ digits, c.isDigit = true) :
    doubleLength (digits ++ ' ' :: rest) = 0 := by
  have run : runLength Char.isDigit (digits ++ ' ' :: rest) = digits.length :=
    runLength_append all (by simp)
  simp only [doubleLength, run, List.drop_left]
  split
  next same => exact absurd (List.cons.inj same).1 (by decide)
  next => rfl

theorem copied_toList (text : QString) : QString.copied text.text.toList = text := by
  obtain ⟨text, ended⟩ := text
  simp only [QString.copied, String.ofList_toList, cStr_eq_self ended]

/-- A token that is written before a blank is read. -/
theorem reads_written {token : ConfToken} (writable : token.Writable)
    (reads : Reads included .initial rest tokens final) :
    Reads included .initial (token.written ++ ' ' :: rest) (token :: tokens) final := by
  have blank : Reads included .initial (' ' :: rest) tokens final := .blank (by decide) reads
  cases token with
  | keyword keyword =>
    exact .keyword keyword keyword.text.toList rfl (runLength_le _ (by decide) rest) blank
  | qstring text =>
    have read := Reads.qstring text.text.toList writable blank
    rw [copied_toList] at read
    simpa [ConfToken.written] using read
  | integer value =>
    have digits : ∀ c ∈ Nat.toDigits 10 value.toNatClampNeg, c.isDigit = true := fun c mem =>
      Nat.isDigit_of_mem_toDigits (by decide) (by decide) mem
    have read := Reads.integer _ Nat.toDigits_ne_nil digits
      (by simp [isAlnum]) (doubleLength_of_blank digits) blank
    rwa [readInteger_toDigits writable] at read
  | double value =>
    have integral : ∀ c ∈ Nat.toDigits 10 (value.units / 2 ^ Double.scale), c.isDigit = true :=
      fun c mem => Nat.isDigit_of_mem_toDigits (by decide) (by decide) mem
    have fraction : paddedDigits Double.scale
        (value.units % 2 ^ Double.scale * 5 ^ Double.scale) ≠ [] :=
      paddedDigits_ne_nil (by decide) _
    have read := Reads.double _ _ Nat.toDigits_ne_nil fraction integral
      (fun c => isDigit_of_mem_paddedDigits) (by simp) blank
    rwa [← Double.written, readDouble_written] at read
  | single c => exact .single writable blank
  | lexError => cases writable

theorem reads_writtenTokens (writable : ∀ token ∈ tokens, token.Writable) :
    Reads included .initial (writtenTokens tokens) tokens .initial := by
  induction tokens with
  | nil => exact .done .initial
  | cons token tokens ih =>
    rw [List.forall_mem_cons] at writable
    have split_ : writtenTokens (token :: tokens) =
        token.written ++ ' ' :: writtenTokens tokens := by
      simp [writtenTokens]
    rw [split_]
    exact reads_written writable.1 (ih writable.2)

/-- Statements that are written to a file are what is configured by it, when the directories are
in order. -/
theorem configured_of_written {files : ConfFiles} {name : String}
    {list : List ConfStatement}
    (writable : ∀ token ∈ list.flatMap ConfStatement.tokens, token.Writable)
    (order : DirectoriesInOrder list)
    (file : files.fopen name =
      some (String.ofList (writtenTokens (list.flatMap ConfStatement.tokens)))) :
    ∃ state, appPcrfConfHandle files name = (.ok, some state) ∧
      Configured list state := by
  obtain ⟨state, run, configured⟩ := exists_configured order
  refine ⟨state, ?_, configured⟩
  rw [← run]
  refine handle_of_reads file (?_ : Reads _ _ _ _ .initial)
  rw [String.toList_ofList]
  exact reads_writtenTokens writable

/-- A pool of four connections, with CDRs that are completed every minute. -/
def writtenStatements : List ConfStatement :=
  [.text .dbServer ⟨"pcrf", by decide⟩, .integer .dbPoolSize 4,
    .ccaTimeout (readDouble "0.5".toList), .text .cdrDir ⟨"/cdr", by decide⟩,
    .text .cdrCmplDir ⟨"/cdr/done", by decide⟩, .integer .cdrInterval 60]

theorem configured_writtenStatements :
    ∃ state, appPcrfConfHandle
        ⟨fun _ => some (String.ofList
          (writtenTokens (writtenStatements.flatMap ConfStatement.tokens))), fun _ => .noMatch⟩
        "pcrf.conf" = (.ok, some state) ∧
      Configured writtenStatements state := by
  refine configured_of_written ?_ ?_ rfl
  · simp [writtenStatements, ConfStatement.tokens, assignment, ConfToken.Writable, isSingle]
  · simp [DirectoriesInOrder, writtenStatements, ConfStatement.textFor]

end Writing

end Pcrf
