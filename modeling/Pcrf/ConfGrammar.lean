import Pcrf.ConfScanner
import Pcrf.Lib.Items

/-!
`app_pcrf_conf.y`: the statements of a configuration, their tokens, and the parser for them.
-/

namespace Pcrf

open Lib

/-! ### Statements -/

/-- What a statement gives a text for. -/
inductive TextKey where
  | dbServer | dbUser | dbPswd | dbDummyRequest | logFileMask | cdrMask | cdrDir | cdrCmplDir
  deriving Repr, DecidableEq

/-- What a statement gives a number for. -/
inductive IntegerKey where
  | dbPoolSize | dbPoolWait | dbReqInterval | operateRefreshQueue | look4stalledsession | traceReq
  | genCdr | cdrInterval | maxCcrHandlers | defaultQuota | refreshDefRuleIn
  deriving Repr, DecidableEq

def TextKey.keyword : TextKey → ConfKeyword
  | dbServer => .dbServer
  | dbUser => .dbUser
  | dbPswd => .dbPswd
  | dbDummyRequest => .dbDummyRequest
  | logFileMask => .logFileMask
  | cdrMask => .cdrMask
  | cdrDir => .cdrDir
  | cdrCmplDir => .cdrCmplDir

def IntegerKey.keyword : IntegerKey → ConfKeyword
  | dbPoolSize => .dbPoolSize
  | dbPoolWait => .dbPoolWait
  | dbReqInterval => .dbReqInterval
  | operateRefreshQueue => .operateRefreshQueue
  | look4stalledsession => .look4stalledsession
  | traceReq => .traceReq
  | genCdr => .genCdr
  | cdrInterval => .cdrInterval
  | maxCcrHandlers => .maxCcrHandlers
  | defaultQuota => .defaultQuota
  | refreshDefRuleIn => .refreshDefRuleIn

def SelectorParam.keyword : SelectorParam → ConfKeyword
  | ratType => .ratType
  | ipCanType => .ipCanType
  | sgsnAddress => .sgsnAddress
  | peerDialect => .peerDialect

/-- A parameter of the `tracer` block. -/
inductive TracerParam where
  | endUserImsi (value : QString)
  | endUserE164 (value : QString)
  | applicationId (value : Int32)
  | apn (value : QString)
  deriving DecidableEq

/-- A parameter of a default rule stands outside of any rule, too, and does nothing there. -/
inductive ConfStatement where
  | text (key : TextKey) (value : QString)
  | integer (key : IntegerKey) (value : Int32)
  | ccaTimeout (value : Double)
  | tracer (tracerparams : List TracerParam)
  | defaultRule (statement : DefaultRuleStatement)
  | selectorParam (param : SelectorParam)

/-! ### The productions -/

/-- `KEYWORD '=' value ';'` -/
def assignment (keyword : ConfKeyword) (value : ConfToken) : List ConfToken :=
  [.keyword keyword, .single '=', value, .single ';']

def TracerParam.tokens : TracerParam → List ConfToken
  | endUserImsi value => assignment .endUserImsi (.qstring value)
  | endUserE164 value => assignment .endUserE164 (.qstring value)
  | applicationId value => assignment .applicationId (.integer value)
  | apn value => assignment .apn (.qstring value)

def selectorTokens (condition : SelectorParam × QString) : List ConfToken :=
  assignment condition.1.keyword (.qstring condition.2)

/-- `'{' parameters '}' ';'` -/
def block (tokens : List ConfToken) : List ConfToken :=
  .single '{' :: tokens ++ [.single '}', .single ';']

def ConfStatement.tokens : ConfStatement → List ConfToken
  | text key value => assignment key.keyword (.qstring value)
  | integer key value => assignment key.keyword (.integer value)
  | ccaTimeout value => assignment .ccaTimeout (.double value)
  | tracer tracerparams =>
    [.keyword .tracer, .single '='] ++ block (tracerparams.flatMap TracerParam.tokens)
  | defaultRule statement =>
    [.keyword .defaultRule, .single '=', .qstring statement.strRuleName] ++
      block (statement.defaultRuleInfo.flatMap selectorTokens)
  | selectorParam param => [.keyword param.keyword]

/-! ### The parser -/

/-- `'=' value ';'` -/
def assigned {α : Type} (value : ConfToken → Option α) :
    List ConfToken → Option (α × List ConfToken)
  | .single '=' :: token :: .single ';' :: rest => (value token).map (·, rest)
  | _ => none

def ConfToken.asQstring : ConfToken → Option QString
  | qstring value => some value
  | _ => none

def ConfToken.asInteger : ConfToken → Option Int32
  | integer value => some value
  | _ => none

def ConfToken.asDouble : ConfToken → Option Double
  | double value => some value
  | _ => none

/-- `'{' parameters '}' ';'`, where the parameters are read by `param`. -/
def braced {α : Type} (param : List ConfToken → Option (α × List ConfToken)) :
    List ConfToken → Option (List α × List ConfToken)
  | .single '{' :: tokens =>
    match items param tokens with
    | (params, .single '}' :: .single ';' :: rest) => some (params, rest)
    | _ => none
  | _ => none

def tracerparam : List ConfToken → Option (TracerParam × List ConfToken)
  | .keyword .endUserImsi :: rest =>
    (assigned ConfToken.asQstring rest).map (Prod.map .endUserImsi id)
  | .keyword .endUserE164 :: rest =>
    (assigned ConfToken.asQstring rest).map (Prod.map .endUserE164 id)
  | .keyword .applicationId :: rest =>
    (assigned ConfToken.asInteger rest).map (Prod.map .applicationId id)
  | .keyword .apn :: rest => (assigned ConfToken.asQstring rest).map (Prod.map .apn id)
  | _ => none

/-- The parameter of a default rule that a keyword stands for. -/
def ConfKeyword.selectorParam : ConfKeyword → Option SelectorParam
  | ratType => some .ratType
  | ipCanType => some .ipCanType
  | sgsnAddress => some .sgsnAddress
  | peerDialect => some .peerDialect
  | _ => none

def defaultRuleInfoParam : List ConfToken → Option ((SelectorParam × QString) × List ConfToken)
  | .keyword keyword :: rest =>
    match keyword.selectorParam with
    | some param => (assigned ConfToken.asQstring rest).map (Prod.map (param, ·) id)
    | none => none
  | _ => none

/-- What a keyword begins outside of the blocks. -/
inductive Production where
  | text (key : TextKey)
  | integer (key : IntegerKey)
  | ccaTimeout
  | tracer
  | defaultRule
  | selectorParam (param : SelectorParam)
  | nothing
  deriving Repr, DecidableEq

def ConfKeyword.production : ConfKeyword → Production
  | dbServer => .text .dbServer
  | dbUser => .text .dbUser
  | dbPswd => .text .dbPswd
  | dbDummyRequest => .text .dbDummyRequest
  | dbPoolSize => .integer .dbPoolSize
  | dbPoolWait => .integer .dbPoolWait
  | dbReqInterval => .integer .dbReqInterval
  | operateRefreshQueue => .integer .operateRefreshQueue
  | look4stalledsession => .integer .look4stalledsession
  | logFileMask => .text .logFileMask
  | traceReq => .integer .traceReq
  | genCdr => .integer .genCdr
  | cdrMask => .text .cdrMask
  | cdrDir => .text .cdrDir
  | cdrCmplDir => .text .cdrCmplDir
  | cdrInterval => .integer .cdrInterval
  | tracer => .tracer
  | ccaTimeout => .ccaTimeout
  | maxCcrHandlers => .integer .maxCcrHandlers
  | defaultRule => .defaultRule
  | ratType => .selectorParam .ratType
  | ipCanType => .selectorParam .ipCanType
  | sgsnAddress => .selectorParam .sgsnAddress
  | peerDialect => .selectorParam .peerDialect
  | defaultQuota => .integer .defaultQuota
  | refreshDefRuleIn => .integer .refreshDefRuleIn
  | endUserImsi | endUserE164 | applicationId | apn => .nothing

/-- `DEFAULT_RULE '=' QSTRING '{' … '}' ';'`, behind the keyword. -/
def defaultRule : List ConfToken → Option (DefaultRuleStatement × List ConfToken)
  | .single '=' :: .qstring name :: rest =>
    (braced defaultRuleInfoParam rest).map (Prod.map (DefaultRuleStatement.mk name) id)
  | _ => none

/-- `TRACER '=' '{' … '}' ';'`, behind the keyword. -/
def tracer : List ConfToken → Option (List TracerParam × List ConfToken)
  | .single '=' :: rest => braced tracerparam rest
  | _ => none

def confStatement : List ConfToken → Option (ConfStatement × List ConfToken)
  | .keyword keyword :: rest =>
    match keyword.production with
    | .text key => (assigned ConfToken.asQstring rest).map (Prod.map (.text key) id)
    | .integer key => (assigned ConfToken.asInteger rest).map (Prod.map (.integer key) id)
    | .ccaTimeout => (assigned ConfToken.asDouble rest).map (Prod.map .ccaTimeout id)
    | .tracer => (tracer rest).map (Prod.map .tracer id)
    | .defaultRule => (defaultRule rest).map (Prod.map .defaultRule id)
    | .selectorParam param => some (.selectorParam param, rest)
    | .nothing => none
  | _ => none

/-- The statements that are reduced, and the tokens at which the parser is left. -/
def conffile (tokens : List ConfToken) : List ConfStatement × List ConfToken :=
  items confStatement tokens

/-! ### The parser reads what the productions write -/

section Parsing

variable {rest tokens : List ConfToken}

theorem assigned_iff {α : Type} {value : ConfToken → Option α} {written : α → ConfToken}
    (value_iff : ∀ token first, value token = some first ↔ token = written first) {first : α} :
    assigned value tokens = some (first, rest) ↔
      tokens = .single '=' :: written first :: .single ';' :: rest := by
  constructor
  · intro h
    unfold assigned at h
    split at h
    next token behind =>
      obtain ⟨found, same, pair⟩ := Option.map_eq_some_iff.mp h
      obtain ⟨rfl, rfl⟩ := Prod.mk.inj pair
      rw [(value_iff token found).mp same]
    next => cases h
  · rintro rfl
    simp only [assigned, (value_iff _ first).mpr rfl, Option.map_some]

theorem asQstring_iff (token : ConfToken) (first : QString) :
    token.asQstring = some first ↔ token = .qstring first := by
  cases token <;> simp [ConfToken.asQstring]

theorem asInteger_iff (token : ConfToken) (first : Int32) :
    token.asInteger = some first ↔ token = .integer first := by
  cases token <;> simp [ConfToken.asInteger]

theorem asDouble_iff (token : ConfToken) (first : Double) :
    token.asDouble = some first ↔ token = .double first := by
  cases token <;> simp [ConfToken.asDouble]

/-- A parser behind the one for what it is built from. -/
theorem map_parsed_iff {α β : Type} {f : α → β} {parsed : Option (α × List ConfToken)} {b : β} :
    parsed.map (Prod.map f id) = some (b, rest) ↔ ∃ a, parsed = some (a, rest) ∧ f a = b := by
  cases parsed with
  | none => simp
  | some pair => simp [Prod.ext_iff, and_comm]

theorem assignment_append (keyword : ConfKeyword) (value : ConfToken) :
    assignment keyword value ++ rest =
      .keyword keyword :: .single '=' :: value :: .single ';' :: rest := rfl

/-- An assignment behind its keyword. -/
theorem map_assigned_iff {α β : Type} {value : ConfToken → Option α} {written : α → ConfToken}
    (value_iff : ∀ token first, value token = some first ↔ token = written first)
    (keyword : ConfKeyword) {f : α → β} {b : β} :
    (assigned value tokens).map (Prod.map f id) = some (b, rest) ↔
      ∃ a, f a = b ∧ .keyword keyword :: tokens = assignment keyword (written a) ++ rest := by
  rw [map_parsed_iff]
  simp only [assigned_iff value_iff, assignment_append, List.cons.injEq, true_and, and_comm]

theorem braced_iff {α : Type} {param : List ConfToken → Option (α × List ConfToken)}
    {written : α → List ConfToken} (parses : Parses param written)
    (stops : ∀ rest, param (.single '}' :: rest) = none) {params : List α} :
    braced param tokens = some (params, rest) ↔
      tokens = block (params.flatMap written) ++ rest := by
  have block_append : block (params.flatMap written) ++ rest =
      .single '{' :: (params.flatMap written ++ .single '}' :: .single ';' :: rest) := by
    simp [block]
  rw [block_append]
  constructor
  · intro h
    unfold braced at h
    split at h
    next inner =>
      split at h
      next found behind parsed =>
        obtain ⟨rfl, rfl⟩ := Prod.mk.inj (Option.some.inj h)
        rw [(parses.items_iff.mp parsed).1]
      next => cases h
    next => cases h
  · rintro rfl
    simp only [braced, parses.items_iff.mpr ⟨rfl, stops _⟩]

theorem parses_tracerparam : Parses tracerparam TracerParam.tokens where
  item_iff := by
    intro tokens first rest
    constructor
    · intro h
      unfold tracerparam at h
      split at h
      next behind =>
        obtain ⟨value, rfl, same⟩ := (map_assigned_iff asQstring_iff .endUserImsi).mp h
        exact same
      next behind =>
        obtain ⟨value, rfl, same⟩ := (map_assigned_iff asQstring_iff .endUserE164).mp h
        exact same
      next behind =>
        obtain ⟨value, rfl, same⟩ := (map_assigned_iff asInteger_iff .applicationId).mp h
        exact same
      next behind =>
        obtain ⟨value, rfl, same⟩ := (map_assigned_iff asQstring_iff .apn).mp h
        exact same
      next => cases h
    · rintro rfl
      cases first <;> rfl
  nonempty := by
    intro first
    cases first <;> exact List.cons_ne_nil _ _

theorem selectorParam_iff (keyword : ConfKeyword) (param : SelectorParam) :
    keyword.selectorParam = some param ↔ keyword = param.keyword := by
  cases keyword <;> cases param <;> decide

theorem parses_defaultRuleInfoParam : Parses defaultRuleInfoParam selectorTokens where
  item_iff := by
    intro tokens first rest
    constructor
    · intro h
      unfold defaultRuleInfoParam at h
      split at h
      next keyword behind =>
        split at h
        next param found =>
          obtain rfl := (selectorParam_iff keyword param).mp found
          obtain ⟨value, rfl, same⟩ := (map_assigned_iff asQstring_iff param.keyword).mp h
          exact same
        next => cases h
      next => cases h
    · rintro rfl
      obtain ⟨param, value⟩ := first
      have found : param.keyword.selectorParam = some param := (selectorParam_iff _ param).mpr rfl
      simp only [selectorTokens, assignment_append, defaultRuleInfoParam, found]
      rfl
  nonempty := fun _ => List.cons_ne_nil _ _

/-- The keyword that begins what it begins. -/
def Production.keyword : Production → Option ConfKeyword
  | text key => some key.keyword
  | integer key => some key.keyword
  | ccaTimeout => some .ccaTimeout
  | tracer => some .tracer
  | defaultRule => some .defaultRule
  | selectorParam param => some param.keyword
  | nothing => none

theorem keyword_of_production {keyword keyword' : ConfKeyword} {production : Production}
    (found : keyword.production = production) (some_ : production.keyword = some keyword') :
    keyword = keyword' := by
  subst found
  cases keyword <;> first | exact Option.some.inj some_ | cases some_

theorem tracer_iff {params : List TracerParam} :
    tracer tokens = some (params, rest) ↔
      .keyword .tracer :: tokens = (ConfStatement.tracer params).tokens ++ rest := by
  have stops (rest : List ConfToken) : tracerparam (.single '}' :: rest) = none := rfl
  constructor
  · intro h
    unfold tracer at h
    split at h
    next behind =>
      rw [(braced_iff parses_tracerparam stops).mp h]
      rfl
    next => cases h
  · intro h
    obtain rfl := (List.cons.inj h).2
    exact (braced_iff parses_tracerparam stops).mpr rfl

theorem defaultRule_iff {statement : DefaultRuleStatement} :
    defaultRule tokens = some (statement, rest) ↔
      .keyword .defaultRule :: tokens = (ConfStatement.defaultRule statement).tokens ++ rest := by
  have stops (rest : List ConfToken) : defaultRuleInfoParam (.single '}' :: rest) = none := rfl
  constructor
  · intro h
    unfold defaultRule at h
    split at h
    next name behind =>
      obtain ⟨info, parsed, rfl⟩ := map_parsed_iff.mp h
      rw [(braced_iff parses_defaultRuleInfoParam stops).mp parsed]
      rfl
    next => cases h
  · intro h
    obtain rfl := (List.cons.inj h).2
    exact map_parsed_iff.mpr ⟨_, (braced_iff parses_defaultRuleInfoParam stops).mpr rfl, rfl⟩

/-- A statement is parsed where it is written as its production says. -/
theorem parses_confStatement : Parses confStatement ConfStatement.tokens where
  item_iff := by
    intro tokens first rest
    constructor
    · intro h
      unfold confStatement at h
      split at h
      next keyword behind =>
        split at h
        next key found =>
          obtain rfl := keyword_of_production found rfl
          obtain ⟨value, rfl, same⟩ := (map_assigned_iff asQstring_iff key.keyword).mp h
          exact same
        next key found =>
          obtain rfl := keyword_of_production found rfl
          obtain ⟨value, rfl, same⟩ := (map_assigned_iff asInteger_iff key.keyword).mp h
          exact same
        next found =>
          obtain rfl := keyword_of_production found rfl
          obtain ⟨value, rfl, same⟩ := (map_assigned_iff asDouble_iff .ccaTimeout).mp h
          exact same
        next found =>
          obtain rfl := keyword_of_production found rfl
          obtain ⟨params, parsed, rfl⟩ := map_parsed_iff.mp h
          exact tracer_iff.mp parsed
        next found =>
          obtain rfl := keyword_of_production found rfl
          obtain ⟨statement, parsed, rfl⟩ := map_parsed_iff.mp h
          exact defaultRule_iff.mp parsed
        next param found =>
          obtain rfl := keyword_of_production found rfl
          obtain ⟨rfl, rfl⟩ := Prod.mk.inj (Option.some.inj h)
          rfl
        next => cases h
      next => cases h
    · rintro rfl
      cases first with
      | text key value => cases key <;> rfl
      | integer key value => cases key <;> rfl
      | ccaTimeout value => rfl
      | tracer params => exact map_parsed_iff.mpr ⟨params, tracer_iff.mpr rfl, rfl⟩
      | defaultRule statement => exact map_parsed_iff.mpr ⟨statement, defaultRule_iff.mpr rfl, rfl⟩
      | selectorParam param => cases param <;> rfl
  nonempty := by
    intro first
    cases first <;> exact List.cons_ne_nil _ _

/-- The statements of a file are those that its tokens write, up to what is no statement. -/
theorem conffile_iff {statements : List ConfStatement} :
    conffile tokens = (statements, rest) ↔
      tokens = statements.flatMap ConfStatement.tokens ++ rest ∧ confStatement rest = none :=
  parses_confStatement.items_iff

end Parsing

end Pcrf
