import Pcrf.ConfNumbers
import Pcrf.DefaultSelector

/-!
`app_pcrf_conf.l`: the scanner of the configuration, rule by rule, with the files that are included.
A text is one of C, which has no null in it.
-/

namespace Pcrf

open Lib

/-! ### Tokens -/

instance : DecidableEq QString := fun first second =>
  decidable_of_iff (first.text = second.text)
    ⟨fun same => by cases first; cases second; cases same; rfl, congrArg QString.text⟩

/-- `strdup` -/
def QString.copied (text : List Char) : QString where
  text := cStr (String.ofList text)
  ended := by
    intro mem
    rw [cStr, String.toList_ofList] at mem
    exact absurd (List.mem_takeWhile_imp mem) (by decide)

inductive ConfKeyword where
  | dbServer | dbUser | dbPswd | dbDummyRequest | dbPoolSize | dbPoolWait | dbReqInterval
  | operateRefreshQueue | look4stalledsession | logFileMask | traceReq | genCdr | cdrMask | cdrDir
  | cdrCmplDir | cdrInterval | tracer | endUserImsi | endUserE164 | applicationId | apn
  | ccaTimeout | maxCcrHandlers | defaultRule | ratType | ipCanType | sgsnAddress | peerDialect
  | defaultQuota | refreshDefRuleIn
  deriving Repr, DecidableEq

namespace ConfKeyword

/-- The keywords in the order of their rules. -/
def all : List ConfKeyword :=
  [dbServer, dbUser, dbPswd, dbDummyRequest, dbPoolSize, dbPoolWait, dbReqInterval,
    operateRefreshQueue, look4stalledsession, logFileMask, traceReq, genCdr, cdrMask, cdrDir,
    cdrCmplDir, cdrInterval, tracer, endUserImsi, endUserE164, applicationId, apn, ccaTimeout,
    maxCcrHandlers, defaultRule, ratType, ipCanType, sgsnAddress, peerDialect, defaultQuota,
    refreshDefRuleIn]

def text : ConfKeyword → String
  | dbServer => "db_server"
  | dbUser => "db_user"
  | dbPswd => "db_pswd"
  | dbDummyRequest => "db_dummy_request"
  | dbPoolSize => "db_pool_size"
  | dbPoolWait => "db_pool_wait"
  | dbReqInterval => "db_req_interval"
  | operateRefreshQueue => "operate_refresh_queue"
  | look4stalledsession => "look4stalledsession"
  | logFileMask => "log_file_mask"
  | traceReq => "trace_req"
  | genCdr => "generate_cdr"
  | cdrMask => "cdr_mask"
  | cdrDir => "cdr_dir"
  | cdrCmplDir => "cdr_completed_dir"
  | cdrInterval => "cdr_interval"
  | tracer => "tracer"
  | endUserImsi => "EndUserIMSI"
  | endUserE164 => "EndUserE164"
  | applicationId => "ApplicationId"
  | apn => "CalledStationId"
  | ccaTimeout => "CCATimeout"
  | maxCcrHandlers => "maxCCRHandlers"
  | defaultRule => "defaultRule"
  | ratType => "RAT_TYPE"
  | ipCanType => "IP_CAN_TYPE"
  | sgsnAddress => "SGSN_ADDRESS"
  | peerDialect => "PEER_DIALECT"
  | defaultQuota => "defaultQuota"
  | refreshDefRuleIn => "refreshDefRuleIn"

end ConfKeyword

/-- A token with its value. -/
inductive ConfToken where
  | keyword (keyword : ConfKeyword)
  | qstring (text : QString)
  | integer (value : Int32)
  | double (value : Double)
  | single (c : Char)
  | lexError
  deriving DecidableEq

/-! ### The rules -/

/-- The start condition: `INITIAL`, or `in_include` behind the word `include`. -/
inductive StartCondition where
  | initial
  | inInclude
  deriving Repr, DecidableEq

/-- What a rule does with the text that it matches. -/
inductive LexAction where
  | eat
  | beginInclude
  | includeName
  | token (f : List Char → ConfToken)
  | error

/-- `[[:alnum:]]` in the C locale. -/
def isAlnum (c : Char) : Bool := c.isAlpha || c.isDigit

/-- `"[^"\n]*"` -/
def qstringLength : List Char → Nat
  | '"' :: text =>
    let inside := text.takeWhile fun c => c ≠ '"' && c ≠ '\n'
    if text[inside.length]? = some '"' then inside.length + 2 else 0
  | _ => 0

/-- The text between the quotes. -/
def unquoted (text : List Char) : QString := QString.copied (text.tail.take (text.length - 2))

/-- `#.*$`, which a newline has to follow. -/
def commentLength : List Char → Nat
  | '#' :: text =>
    let inside := text.takeWhile (· ≠ '\n')
    if text[inside.length]? = some '\n' then inside.length + 1 else 0
  | _ => 0

/-- `[0-9]+\.[0-9]+` -/
def doubleLength (text : List Char) : Nat :=
  let integral := runLength Char.isDigit text
  match text.drop integral with
  | '.' :: rest =>
    let fraction := runLength Char.isDigit rest
    if 0 < integral ∧ 0 < fraction then integral + 1 + fraction else 0
  | _ => 0

/-- One character with the property. -/
def oneLength (p : Char → Bool) : List Char → Nat
  | c :: _ => if p c then 1 else 0
  | [] => 0

def isSingle (c : Char) : Bool := c ∈ ['=', ',', ':', ';', '{', '}']

namespace ConfRule

def newline : ScanRule LexAction := ⟨oneLength (· = '\n'), .eat⟩

def blanks : ScanRule LexAction := ⟨runLength fun c => isBlank c && c ≠ '\n', .eat⟩

def comment : ScanRule LexAction := ⟨commentLength, .eat⟩

/-- The word `include`, in this case only. -/
def include_ : ScanRule LexAction :=
  ⟨fun text => if text.take 7 = "include".toList then 7 else 0, .beginInclude⟩

def includeName : ScanRule LexAction := ⟨qstringLength, .includeName⟩

def qstring : ScanRule LexAction := ⟨qstringLength, .token fun text => .qstring (unquoted text)⟩

def integer : ScanRule LexAction :=
  ⟨runLength Char.isDigit, .token fun text => .integer (readInteger text)⟩

def double : ScanRule LexAction :=
  ⟨doubleLength, .token fun text => .double (readDouble text)⟩

def keyword (keyword : ConfKeyword) : ScanRule LexAction :=
  ⟨wordLength keyword.text.toList, .token fun _ => .keyword keyword⟩

def single : ScanRule LexAction :=
  ⟨oneLength isSingle, .token fun text => .single (text.headD ' ')⟩

def unrecognizedWord : ScanRule LexAction := ⟨runLength isAlnum, .error⟩

def unrecognized : ScanRule LexAction := ⟨oneLength (· ≠ '\n'), .error⟩

end ConfRule

/-- The rules that are active, in their order. -/
def confRules : StartCondition → List (ScanRule LexAction)
  | .initial =>
    [ConfRule.newline, ConfRule.blanks, ConfRule.comment, ConfRule.include_, ConfRule.qstring,
      ConfRule.integer, ConfRule.double] ++ ConfKeyword.all.map ConfRule.keyword ++
      [ConfRule.single, ConfRule.unrecognizedWord, ConfRule.unrecognized]
  | .inInclude =>
    [ConfRule.newline, ConfRule.blanks, ConfRule.comment, ConfRule.includeName, ConfRule.single,
      ConfRule.unrecognizedWord, ConfRule.unrecognized]

/-! ### The scanner -/

/-- The tokens, and the start condition at the end of the file; none after an error, with which the
tokens end. -/
structure LexResult where
  tokens : List ConfToken
  condition : Option StartCondition
  deriving DecidableEq

def LexResult.error : LexResult := ⟨[.lexError], none⟩

def LexResult.push (tokens : List ConfToken) (result : LexResult) : LexResult :=
  { result with tokens := tokens ++ result.tokens }

/-- The scanner on one text. `included` is what a directive inserts. The fuel is the length of the
text. -/
def scanText (included : String → LexResult) :
    Nat → StartCondition → List Char → LexResult
  | 0, condition, _ => ⟨[], some condition⟩
  | fuel + 1, condition, text =>
    match munch text (confRules condition) with
    | none => ⟨[], some condition⟩
    | some rule =>
      let matched := text.take (rule.len text)
      let rest := text.drop (rule.len text)
      match rule.action with
      | .eat => scanText included fuel condition rest
      | .beginInclude => scanText included fuel .inInclude rest
      | .token f => (scanText included fuel condition rest).push [f matched]
      | .includeName =>
        match included (unquoted matched).text with
        | ⟨tokens, some condition⟩ => (scanText included fuel condition rest).push tokens
        | ⟨tokens, none⟩ => ⟨tokens, none⟩
      | .error => .error

/-- `glob` -/
inductive GlobResult where
  | noMatch
  | failed
  | found (names : List String)

/-- The file system as the scanner sees it. -/
structure ConfFiles where
  fopen : String → Option String
  glob : String → GlobResult

/-- `MAX_NESTED_CONF_FILES` -/
def maxNestedConfFiles : Nat := 5

/-- The included files, one after another, each in the start condition that the one before it ends
in. -/
def scanFiles (files : ConfFiles) (included : String → LexResult) :
    StartCondition → List String → LexResult
  | condition, [] => ⟨[], some condition⟩
  | condition, name :: names =>
    match files.fopen name with
    | none => .error
    | some text =>
      match scanText included text.length condition text.toList with
      | ⟨tokens, some condition⟩ => (scanFiles files included condition names).push tokens
      | ⟨tokens, none⟩ => ⟨tokens, none⟩

/-- A directive where so many levels may still be entered. -/
def includeFiles (files : ConfFiles) : Nat → String → LexResult
  | 0, _ => .error
  | levels + 1, pattern =>
    match files.glob pattern with
    | .noMatch => ⟨[], some .initial⟩
    | .failed => .error
    | .found names => scanFiles files (includeFiles files levels) .initial names

/-- The tokens of a configuration file. -/
def confTokens (files : ConfFiles) (text : String) : LexResult :=
  scanText (includeFiles files maxNestedConfFiles) text.length .initial text.toList

end Pcrf
