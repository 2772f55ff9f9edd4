import Pcrf.ConfActions

/-!
What a configuration means: every field has what the last statement for it says. The memory of the
texts is kept in order just when no `cdr_dir` stands behind a `cdr_completed_dir`.
-/

namespace Pcrf

open Lib

/-! ### What the statements say -/

namespace ConfStatement

def textFor (key : TextKey) : ConfStatement → Option QString
  | text key' value => if key' = key then some value else none
  | _ => none

def numberFor (key : IntegerKey) : ConfStatement → Option Int
  | integer key' value => if key' = key then some (key.assigned value) else none
  | _ => none

def timeout : ConfStatement → Option (UInt32 × UInt32)
  | ccaTimeout value => some (value.seconds, value.microseconds)
  | _ => none

def traced : ConfStatement → List TracerParam
  | tracer tracerparams => tracerparams
  | _ => []

def rule : ConfStatement → Option DefaultRuleStatement
  | defaultRule statement => some statement
  | _ => none

end ConfStatement

/-- The directory for CDRs is given before the one for the completed ones, if both are. -/
def DirectoriesInOrder (list : List ConfStatement) : Prop :=
  list.Pairwise fun earlier later =>
    ¬ ((earlier.textFor .cdrCmplDir).isSome ∧ (later.textFor .cdrDir).isSome)

/-- What the texts of the configuration are. -/
def ConfState.textOf (state : ConfState) : TextKey → Option QString :=
  held state.psoConf.pointer state.blocks

/-- Every text is in a block that is allocated, no two in the same one. -/
def ConfState.InMemory (state : ConfState) : Prop := Owned state.psoConf.pointer state.blocks

/-- The state is what the statements say. -/
structure Configured (list : List ConfStatement) (state : ConfState) : Prop where
  memory : state.InMemory
  text : ∀ key, state.textOf key = lastWrite (ConfStatement.textFor key) list
  number : ∀ key,
    state.psoConf.number key = (lastWrite (ConfStatement.numberFor key) list).getD 0
  timeout : (state.psoConf.uiCCATimeoutSec, state.psoConf.uiCCATimeoutUSec) =
    (lastWrite ConfStatement.timeout list).getD (0, 0)
  tracer : ∀ condition, state.tracer.Holds condition ↔
    ∃ param ∈ list.flatMap ConfStatement.traced, param.condition = condition
  rules : state.selectors = SelectorParser.parse (list.filterMap ConfStatement.rule)

/-- The microseconds of the timeout are less than a second. -/
theorem Configured.usec_lt {list : List ConfStatement} {state : ConfState}
    (configured : Configured list state) : state.psoConf.uiCCATimeoutUSec.toNat < 1000000 := by
  have timeout := congrArg Prod.snd configured.timeout
  simp only at timeout
  rw [timeout]
  cases last : lastWrite ConfStatement.timeout list with
  | none => decide
  | some pair =>
    obtain ⟨_, statement, _, _, given, _⟩ := lastWrite_eq_some_iff.mp last
    cases statement with
    | ccaTimeout value =>
      obtain rfl := Option.some.inj given
      exact value.microseconds_lt
    | _ => cases given

/-! ### The fields -/

section Fields

variable (conf : SAppPCRFConf)

theorem pointer_setPointer (p : Option Nat) (key : TextKey) :
    (conf.setPointer p key).pointer = Function.update conf.pointer key p := by
  funext other
  cases key <;> cases other <;> rfl

theorem number_setPointer (p : Option Nat) (key : TextKey) :
    (conf.setPointer p key).number = conf.number := by
  funext other
  cases key <;> cases other <;> rfl

theorem pointer_setNumber (value : Int32) (key : IntegerKey) :
    (conf.setNumber value key).pointer = conf.pointer := by
  funext other
  cases key <;> cases other <;> rfl

theorem number_setNumber (value : Int32) (key : IntegerKey) :
    (conf.setNumber value key).number = Function.update conf.number key (key.assigned value) := by
  funext other
  cases key <;> cases other <;> rfl

theorem timeout_setPointer (p : Option Nat) (key : TextKey) :
    (conf.setPointer p key).uiCCATimeoutSec = conf.uiCCATimeoutSec ∧
      (conf.setPointer p key).uiCCATimeoutUSec = conf.uiCCATimeoutUSec := by
  cases key <;> exact ⟨rfl, rfl⟩

theorem timeout_setNumber (value : Int32) (key : IntegerKey) :
    (conf.setNumber value key).uiCCATimeoutSec = conf.uiCCATimeoutSec ∧
      (conf.setNumber value key).uiCCATimeoutUSec = conf.uiCCATimeoutUSec := by
  cases key <;> exact ⟨rfl, rfl⟩

end Fields

/-! ### Actions that are done with their blocks -/

/-- The blocks that the pointers lead to are as they were before, and these are the other parts of
the state. -/
structure Leaves {κ : Type} (pointer : κ → Option Nat) (before : ConfState)
    (tracer : TracerState) (selectors : SelectorParser) (state : ConfState) : Prop where
  memory : Owned pointer state.blocks
  same : held pointer state.blocks = held pointer before.blocks
  psoConf : state.psoConf = before.psoConf
  tracer : state.tracer = tracer
  selectors : state.selectors = selectors

section Actions

variable {κ : Type} {pointer : κ → Option Nat} {before state : ConfState} {tracer : TracerState}
  {selectors : SelectorParser}

theorem Leaves.refl (owned : Owned pointer state.blocks) :
    Leaves pointer state state.tracer state.selectors state :=
  ⟨owned, rfl, rfl, rfl, rfl⟩

theorem leaves_usedUp (leaves : Leaves pointer before tracer selectors state) (value : QString) :
    ∃ state', state.usedUp value = some state' ∧
      Leaves pointer before tracer selectors state' := by
  obtain ⟨blocks, freed, kept, same⟩ := leaves.memory.discard value
  refine ⟨{ state with blocks := blocks }, ?_, kept, same.trans leaves.same, leaves.psoConf,
    leaves.tracer, leaves.selectors⟩
  rw [ConfState.usedUp, freed, Option.map_some]

theorem leaves_tracerparam (leaves : Leaves pointer before tracer selectors state)
    (param : TracerParam) :
    ∃ state', state.tracerparam param = some state' ∧
      Leaves pointer before (pcrfTracerSetCondition tracer param.condition) selectors state' := by
  obtain ⟨memory, same, psoConf, rfl, rfl⟩ := leaves
  have set_ : Leaves pointer before (pcrfTracerSetCondition state.tracer param.condition)
      state.selectors
      { state with tracer := pcrfTracerSetCondition state.tracer param.condition } :=
    ⟨memory, same, psoConf, rfl, rfl⟩
  cases param with
  | applicationId value => exact ⟨_, rfl, set_⟩
  | endUserImsi value => exact leaves_usedUp set_ value
  | endUserE164 value => exact leaves_usedUp set_ value
  | apn value => exact leaves_usedUp set_ value

theorem leaves_defaultRuleInfoParam (leaves : Leaves pointer before tracer selectors state)
    (condition : SelectorParam × QString) :
    ∃ state', state.defaultRuleInfoParam condition = some state' ∧
      Leaves pointer before tracer (selectors.defaultRuleInfoParam condition) state' := by
  obtain ⟨memory, same, psoConf, rfl, rfl⟩ := leaves
  have added : Leaves pointer before state.tracer
      (state.selectors.defaultRuleInfoParam condition)
      { state with selectors := state.selectors.defaultRuleInfoParam condition } :=
    ⟨memory, same, psoConf, rfl, rfl⟩
  exact leaves_usedUp added condition.2

/-- Actions that each do their part do all of it one after another. -/
theorem foldlM_of_step {σ α β : Type} {action : σ → α → Option σ} {effect : β → α → β}
    (Rel : β → σ → Prop)
    (step : ∀ {b s}, Rel b s → ∀ item, ∃ s', action s item = some s' ∧ Rel (effect b item) s')
    (items : List α) {b : β} {s : σ} (rel : Rel b s) :
    ∃ s', items.foldlM action s = some s' ∧ Rel (items.foldl effect b) s' := by
  induction items generalizing b s with
  | nil => exact ⟨s, rfl, rel⟩
  | cons item items ih =>
    obtain ⟨s', acted, rel'⟩ := step rel item
    obtain ⟨s'', run, rel''⟩ := ih rel'
    exact ⟨s'', by rw [List.foldlM_cons, acted]; exact run, rel''⟩

theorem leaves_tracer (owned : Owned pointer state.blocks) (params : List TracerParam) :
    ∃ state', params.foldlM ConfState.tracerparam state = some state' ∧
      Leaves pointer state (params.foldl (fun tracer param =>
        pcrfTracerSetCondition tracer param.condition) state.tracer) state.selectors state' :=
  foldlM_of_step (fun tracer state' => Leaves pointer state tracer state.selectors state')
    leaves_tracerparam params (.refl owned)

/-- A default rule leaves what its selector says; its name is given up or lost. -/
theorem leaves_defaultRule (owned : Owned pointer state.blocks) (rule : DefaultRuleStatement) :
    ∃ state', state.defaultRule rule = some state' ∧
      Leaves pointer state state.tracer (state.selectors.defaultRule rule) state' := by
  obtain ⟨acquired, named⟩ := owned.acquire rule.strRuleName
  let start : ConfState := { state with blocks := state.blocks.malloc rule.strRuleName }
  obtain ⟨after, run, leaves⟩ := foldlM_of_step
    (fun selectors state' =>
      Leaves (besides state.blocks.next pointer) start state.tracer selectors state')
    leaves_defaultRuleInfoParam rule.defaultRuleInfo (Leaves.refl acquired)
  obtain ⟨memory, same, psoConf, tracer, selectors⟩ := leaves
  have kept : held pointer after.blocks = held pointer state.blocks :=
    (funext fun k => congrFun same (some k)).trans named
  have run' : state.defaultRule rule = after.addDefaultRule rule state.blocks.next := by
    rw [ConfState.defaultRule, run]
    rfl
  rw [run', ConfState.addDefaultRule, SelectorParser.defaultRule, ← selectors]
  cases after.selectors.psoRuleSelector with
  | none => exact ⟨after, rfl, memory.of_besides, kept, psoConf, tracer, rfl⟩
  | some selector =>
    obtain ⟨blocks, freed, released, same'⟩ := memory.release
    rw [freed]
    exact ⟨_, rfl, released, same'.trans kept, psoConf, tracer, rfl⟩

end Actions

/-! ### Runs in order -/

section Runs

variable {list : List ConfStatement} {state : ConfState}

theorem configured_nil : Configured [] {} where
  memory := by
    have null (key : TextKey) : appPcrfConfInit.pointer key = none := by cases key <;> rfl
    constructor
    · intro key p points
      exact absurd ((null key).symm.trans points) (Option.some_ne_none p).symm
    · intro key key' p points
      exact absurd ((null key).symm.trans points) (Option.some_ne_none p).symm
  text := fun key => by cases key <;> rfl
  number := fun key => by cases key <;> rfl
  timeout := rfl
  tracer := fun condition => by cases condition <;> simp [TracerState.Holds]
  rules := rfl

theorem holds_foldl (params : List TracerParam) (tracer : TracerState)
    (condition : TracerCondition) :
    (params.foldl (fun tracer param =>
      pcrfTracerSetCondition tracer param.condition) tracer).Holds condition ↔
      tracer.Holds condition ∨ ∃ param ∈ params, param.condition = condition := by
  induction params generalizing tracer with
  | nil => simp
  | cons param params ih =>
    rw [List.foldl_cons, ih, holds_setCondition]
    simp only [List.exists_mem_cons_iff, eq_comm (a := condition)]
    tauto

theorem parse_snoc (rules : List DefaultRuleStatement) (rule : DefaultRuleStatement) :
    SelectorParser.parse (rules ++ [rule]) = (SelectorParser.parse rules).defaultRule rule := by
  rw [SelectorParser.parse, List.foldl_append]
  rfl

theorem rules_snoc (list : List ConfStatement) (statement : ConfStatement) :
    (list ++ [statement]).filterMap ConfStatement.rule =
      list.filterMap ConfStatement.rule ++ statement.rule.toList := by
  rw [List.filterMap_append]
  cases rule : statement.rule <;> simp [rule]

theorem traced_snoc (list : List ConfStatement) (statement : ConfStatement)
    (condition : TracerCondition) :
    (∃ param ∈ (list ++ [statement]).flatMap ConfStatement.traced, param.condition = condition) ↔
      (∃ param ∈ list.flatMap ConfStatement.traced, param.condition = condition) ∨
        ∃ param ∈ statement.traced, param.condition = condition := by
  simp only [List.flatMap_append, List.flatMap_singleton, List.mem_append, or_and_right, exists_or]

/-- What neither the tracer nor the selectors see. -/
theorem Configured.unseen (configured : Configured list state) (statement : ConfStatement)
    (untraced : statement.traced = []) (noRule : statement.rule = none) :
    (∀ condition, state.tracer.Holds condition ↔
      ∃ param ∈ (list ++ [statement]).flatMap ConfStatement.traced, param.condition = condition) ∧
      state.selectors =
        SelectorParser.parse ((list ++ [statement]).filterMap ConfStatement.rule) := by
  constructor
  · intro condition
    rw [traced_snoc, untraced, configured.tracer]
    simp
  · rw [rules_snoc, noRule, configured.rules]
    simp

/-- A statement that writes no field of its own. -/
theorem configured_of_leaves (configured : Configured list state) {statement : ConfStatement}
    {after : ConfState} {tracer : TracerState} {selectors : SelectorParser}
    (leaves : Leaves state.psoConf.pointer state tracer selectors after)
    (idle : (∀ key, statement.textFor key = none) ∧ (∀ key, statement.numberFor key = none) ∧
      statement.timeout = none)
    (traced : ∀ condition, tracer.Holds condition ↔ state.tracer.Holds condition ∨
      ∃ param ∈ statement.traced, param.condition = condition)
    (rules : selectors = SelectorParser.parse
      (list.filterMap ConfStatement.rule ++ statement.rule.toList)) :
    Configured (list ++ [statement]) after := by
  obtain ⟨noText, noNumber, noTimeout⟩ := idle
  constructor
  · rw [ConfState.InMemory, leaves.psoConf]
    exact leaves.memory
  · intro key
    rw [lastWrite_snoc, noText, Option.none_or, ← configured.text key, ConfState.textOf,
      leaves.psoConf, leaves.same]
    rfl
  · intro key
    rw [lastWrite_snoc, noNumber, Option.none_or, leaves.psoConf, configured.number]
  · rw [lastWrite_snoc, noTimeout, Option.none_or, leaves.psoConf, configured.timeout]
  · intro condition
    rw [leaves.tracer, traced, configured.tracer, traced_snoc]
  · rw [leaves.selectors, rules, rules_snoc]

theorem text_of_free {key : TextKey} {value : QString} {blocks : Blocks QString}
    (freed : (state.blocks.malloc value).free (state.psoConf.pointer key.freed) = some blocks) :
    state.text key value = some { state with
      blocks := blocks
      psoConf := state.psoConf.setPointer (some state.blocks.next) key } := by
  rw [ConfState.text, freed, Option.map_some]

/-- One more statement, where it frees no text but the one that it replaces. -/
theorem configured_snoc (configured : Configured list state) (statement : ConfStatement)
    (fits : (statement.textFor .cdrDir).isSome →
      lastWrite (ConfStatement.textFor .cdrCmplDir) list = none) :
    ∃ state', state.statement statement = some state' ∧
      Configured (list ++ [statement]) state' := by
  have unchanged := Leaves.refl configured.memory
  cases statement with
  | text key value =>
    have old : state.psoConf.pointer key.freed = state.psoConf.pointer key ∨
        state.psoConf.pointer key.freed = none := by
      by_cases dir : key = .cdrDir
      · subst dir
        refine .inr (configured.memory.held_eq_none_iff.mp ?_)
        exact (configured.text .cdrCmplDir).trans (fits rfl)
      · refine .inl (congrArg state.psoConf.pointer ?_)
        cases key <;> first | rfl | exact absurd rfl dir
    obtain ⟨blocks, freed, owned, holds⟩ := configured.memory.replace key value old
    obtain ⟨traced, rules⟩ := configured.unseen (.text key value) rfl rfl
    refine ⟨_, text_of_free freed, ?_, fun other => ?_, fun other => ?_, ?_, traced, rules⟩
    · rw [ConfState.InMemory, pointer_setPointer]
      exact owned
    · rw [ConfState.textOf, pointer_setPointer, holds, lastWrite_snoc, ← configured.text]
      by_cases same : other = key
      · subst same
        simp [ConfStatement.textFor]
      · simp [ConfStatement.textFor, Function.update_of_ne same, Ne.symm same, ConfState.textOf]
    · rw [number_setPointer, configured.number, lastWrite_snoc]
      rfl
    · obtain ⟨sec, usec⟩ := timeout_setPointer state.psoConf (some state.blocks.next) key
      rw [sec, usec, configured.timeout, lastWrite_snoc]
      rfl
  | integer key value =>
    obtain ⟨traced, rules⟩ := configured.unseen (.integer key value) rfl rfl
    refine ⟨_, rfl, ?_, fun other => ?_, fun other => ?_, ?_, traced, rules⟩
    · rw [ConfState.InMemory, ConfState.integer, pointer_setNumber]
      exact configured.memory
    · rw [ConfState.textOf, ConfState.integer, pointer_setNumber, lastWrite_snoc]
      exact configured.text other
    · rw [ConfState.integer, number_setNumber, lastWrite_snoc]
      by_cases same : other = key
      · subst same
        simp [ConfStatement.numberFor]
      · simp [ConfStatement.numberFor, Function.update_of_ne same, Ne.symm same,
          configured.number]
    · obtain ⟨sec, usec⟩ := timeout_setNumber state.psoConf value key
      rw [ConfState.integer, sec, usec, configured.timeout, lastWrite_snoc]
      rfl
  | ccaTimeout value =>
    obtain ⟨traced, rules⟩ := configured.unseen (.ccaTimeout value) rfl rfl
    refine ⟨_, rfl, configured.memory, fun key => ?_, fun key => ?_, ?_, traced, rules⟩
    · rw [lastWrite_snoc]
      exact configured.text key
    · rw [lastWrite_snoc]
      have kept : (state.ccaTimeout value).psoConf.number key = state.psoConf.number key := by
        cases key <;> rfl
      exact kept.trans (configured.number key)
    · rw [lastWrite_snoc]
      rfl
  | tracer params =>
    obtain ⟨after, run, leaves⟩ := leaves_tracer configured.memory params
    refine ⟨after, run, configured_of_leaves configured leaves ⟨fun _ => rfl, fun _ => rfl, rfl⟩
      (holds_foldl params state.tracer) ?_⟩
    simpa [ConfStatement.rule] using configured.rules
  | defaultRule rule =>
    obtain ⟨after, run, leaves⟩ := leaves_defaultRule configured.memory rule
    refine ⟨after, run, configured_of_leaves configured leaves ⟨fun _ => rfl, fun _ => rfl, rfl⟩
      ?_ ?_⟩
    · simp [ConfStatement.traced]
    · rw [configured.rules]
      exact (parse_snoc _ rule).symm
  | selectorParam param =>
    refine ⟨state, rfl, configured_of_leaves configured unchanged
      ⟨fun _ => rfl, fun _ => rfl, rfl⟩ ?_ ?_⟩
    · simp [ConfStatement.traced]
    · simpa [ConfStatement.rule] using configured.rules

end Runs

/-! ### Runs out of order -/

/-- The directory for completed CDRs is in a block that was freed. -/
def ConfState.Dangling (state : ConfState) : Prop :=
  ∃ p, state.psoConf.pointer .cdrCmplDir = some p ∧ state.blocks.Gone p

section Dangling

variable {list : List ConfStatement} {state state' : ConfState}

theorem not_inMemory_of_dangling (dangling : state.Dangling) : ¬ state.InMemory := by
  intro memory
  obtain ⟨p, points, gone⟩ := dangling
  obtain ⟨value, read⟩ := memory.live points
  rw [gone.gone] at read
  cases read

theorem dangling_usedUp {value : QString} (dangling : state.Dangling)
    (done : state.usedUp value = some state') : state'.Dangling := by
  obtain ⟨p, points, gone⟩ := dangling
  obtain ⟨blocks, freed, rfl⟩ := Option.map_eq_some_iff.mp done
  exact ⟨p, points, (gone.malloc value).free freed⟩

theorem dangling_tracerparam {param : TracerParam} (dangling : state.Dangling)
    (done : state.tracerparam param = some state') : state'.Dangling := by
  have set_ : ({ state with
      tracer := pcrfTracerSetCondition state.tracer param.condition } : ConfState).Dangling :=
    dangling
  cases param with
  | applicationId value =>
    obtain rfl := Option.some.inj done
    exact set_
  | endUserImsi value => exact dangling_usedUp set_ done
  | endUserE164 value => exact dangling_usedUp set_ done
  | apn value => exact dangling_usedUp set_ done

theorem dangling_defaultRuleInfoParam {condition : SelectorParam × QString}
    (dangling : state.Dangling) (done : state.defaultRuleInfoParam condition = some state') :
    state'.Dangling := by
  have added : ({ state with
      selectors := state.selectors.defaultRuleInfoParam condition } : ConfState).Dangling :=
    dangling
  exact dangling_usedUp added done

/-- What every action keeps is kept by all of them. -/
theorem foldlM_keeps {σ α : Type} {action : σ → α → Option σ} {P : σ → Prop}
    (keeps : ∀ {s item s'}, P s → action s item = some s' → P s') {items : List α} {s s' : σ}
    (h : P s) (run : items.foldlM action s = some s') : P s' := by
  induction items generalizing s with
  | nil =>
    obtain rfl := Option.some.inj run
    exact h
  | cons item items ih =>
    rw [List.foldlM_cons] at run
    obtain ⟨next, acted, run⟩ := Option.bind_eq_some_iff.mp run
    exact ih (keeps h acted) run

theorem dangling_defaultRule {rule : DefaultRuleStatement} (dangling : state.Dangling)
    (done : state.defaultRule rule = some state') : state'.Dangling := by
  obtain ⟨p, points, gone⟩ := dangling
  obtain ⟨after, run, done⟩ := Option.bind_eq_some_iff.mp done
  have start : ({ state with
      blocks := state.blocks.malloc rule.strRuleName } : ConfState).Dangling :=
    ⟨p, points, gone.malloc _⟩
  obtain ⟨q, points', gone'⟩ := foldlM_keeps dangling_defaultRuleInfoParam start run
  rw [ConfState.addDefaultRule] at done
  split at done
  next =>
    obtain rfl := Option.some.inj done
    exact ⟨q, points', gone'⟩
  next selector found =>
    obtain ⟨blocks, freed, rfl⟩ := Option.map_eq_some_iff.mp done
    exact ⟨q, points', gone'.free freed⟩

/-- A statement that would free the block once more has no effect that is defined. -/
theorem dangling_text {key : TextKey} {value : QString} (dangling : state.Dangling)
    (done : state.text key value = some state') : state'.Dangling := by
  obtain ⟨p, points, gone⟩ := dangling
  obtain ⟨blocks, freed, rfl⟩ := Option.map_eq_some_iff.mp done
  by_cases again : key.freed = .cdrCmplDir
  · rw [again, points, Blocks.free_of_read_none (gone.malloc value).gone] at freed
    cases freed
  · refine ⟨p, ?_, (gone.malloc value).free freed⟩
    have other : TextKey.cdrCmplDir ≠ key := by
      rintro rfl
      exact again rfl
    rw [pointer_setPointer, Function.update_of_ne other]
    exact points

theorem dangling_statement {statement : ConfStatement} (dangling : state.Dangling)
    (done : state.statement statement = some state') : state'.Dangling := by
  cases statement with
  | text key value => exact dangling_text dangling done
  | integer key value =>
    obtain rfl := Option.some.inj done
    obtain ⟨p, points, gone⟩ := dangling
    exact ⟨p, by rw [ConfState.integer, pointer_setNumber]; exact points, gone⟩
  | ccaTimeout value =>
    obtain rfl := Option.some.inj done
    exact dangling
  | tracer params => exact foldlM_keeps dangling_tracerparam dangling done
  | defaultRule rule => exact dangling_defaultRule dangling done
  | selectorParam param =>
    obtain rfl := Option.some.inj done
    exact dangling

/-- `cdr_dir` frees the directory for completed CDRs, which stays in its field. -/
theorem dangling_of_configured (configured : Configured list state) {value : QString}
    (given : lastWrite (ConfStatement.textFor .cdrCmplDir) list ≠ none)
    (done : state.text .cdrDir value = some state') : state'.Dangling := by
  obtain ⟨blocks, freed, rfl⟩ := Option.map_eq_some_iff.mp done
  rw [← configured.text] at given
  obtain ⟨p, points⟩ := Option.ne_none_iff_exists'.mp
    (mt configured.memory.held_eq_none_iff.mpr given)
  rw [TextKey.freed, points] at freed
  exact ⟨p, points, Blocks.gone_of_free freed⟩

theorem statements_snoc (statement : ConfStatement) :
    ConfState.statements (list ++ [statement]) =
      (ConfState.statements list).bind fun state => state.statement statement := by
  rw [ConfState.statements, List.foldlM_append]
  refine congrArg (Option.bind _) (funext fun state => ?_)
  exact bind_pure _

theorem directoriesInOrder_snoc {statement : ConfStatement} :
    DirectoriesInOrder (list ++ [statement]) ↔ DirectoriesInOrder list ∧
      ((statement.textFor .cdrDir).isSome →
        lastWrite (ConfStatement.textFor .cdrCmplDir) list = none) := by
  rw [DirectoriesInOrder, List.pairwise_append, lastWrite_eq_none_iff]
  simp only [List.pairwise_singleton, List.forall_mem_singleton, true_and]
  refine and_congr_right fun _ => ⟨fun h later earlier mem => ?_, fun h earlier mem both => ?_⟩
  · exact Option.not_isSome_iff_eq_none.mp fun given => h earlier mem ⟨given, later⟩
  · rw [h both.2 earlier mem] at both
    cases both.1

/-- Either the directories are in order and the state is what the statements say, or the directory
for completed CDRs dangles, if nothing worse has happened. -/
theorem statements_cases (list : List ConfStatement) :
    (DirectoriesInOrder list ∧
      ∃ state, ConfState.statements list = some state ∧ Configured list state) ∨
    (¬ DirectoriesInOrder list ∧
      ∀ state, ConfState.statements list = some state → state.Dangling) := by
  induction list using List.reverseRecOn with
  | nil => exact .inl ⟨List.Pairwise.nil, {}, rfl, configured_nil⟩
  | append_singleton list statement ih =>
    rw [directoriesInOrder_snoc, statements_snoc]
    rcases ih with ⟨order, state, run, configured⟩ | ⟨disorder, dangles⟩
    · rw [run, Option.bind_some]
      by_cases fits : (statement.textFor .cdrDir).isSome →
          lastWrite (ConfStatement.textFor .cdrCmplDir) list = none
      · exact .inl ⟨⟨order, fits⟩, configured_snoc configured statement fits⟩
      · refine .inr ⟨fun both => fits both.2, fun state' done => ?_⟩
        obtain ⟨dir, given⟩ := Classical.not_imp.mp fits
        cases statement with
        | text key value =>
          obtain rfl : key = .cdrDir := by
            by_contra other
            simp [ConfStatement.textFor, other] at dir
          exact dangling_of_configured configured given done
        | _ => cases dir
    · refine .inr ⟨fun both => disorder both.1, fun state' done => ?_⟩
      obtain ⟨state, run, done⟩ := Option.bind_eq_some_iff.mp done
      exact dangling_statement (dangles state run) done

theorem exists_configured (order : DirectoriesInOrder list) :
    ∃ state, ConfState.statements list = some state ∧ Configured list state := by
  rcases statements_cases list with ⟨-, done⟩ | ⟨disorder, -⟩
  · exact done
  · exact absurd order disorder

/-- A state whose texts are where they should be is what the statements say. -/
theorem configured_of_inMemory (run : ConfState.statements list = some state)
    (memory : state.InMemory) : Configured list state := by
  rcases statements_cases list with ⟨-, state', run', configured⟩ | ⟨-, dangles⟩
  · obtain rfl := Option.some.inj (run'.symm.trans run)
    exact configured
  · exact absurd memory (not_inMemory_of_dangling (dangles state run))

/-- Just when the directories are in order, the actions free nothing twice and leave every text
where its field points, and the state is then what the statements say. -/
theorem inMemory_iff (list : List ConfStatement) :
    ((∃ state, ConfState.statements list = some state ∧ state.InMemory) ↔
      DirectoriesInOrder list) ∧
    ∀ state, ConfState.statements list = some state → state.InMemory →
      Configured list state := by
  refine ⟨⟨?_, fun order => ?_⟩, fun state => configured_of_inMemory⟩
  · rintro ⟨state, run, memory⟩
    rcases statements_cases list with ⟨order, -⟩ | ⟨-, dangles⟩
    · exact order
    · exact absurd memory (not_inMemory_of_dangling (dangles state run))
  · obtain ⟨state, run, configured⟩ := exists_configured order
    exact ⟨state, run, configured.memory⟩

end Dangling

end Pcrf
