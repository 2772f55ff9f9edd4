import Pcrf.Lib.Frame
import Pcrf.CreditControl

/-!
Building a message leaves the requests that were sent alone, whichever calls into freeDiameter
fail. What builds a single AVP leaves everything alone.
-/

namespace Pcrf

open Lib CallM

/-! ### Building an AVP -/

section

variable {τ : Type} {p : AnswerState → τ}

theorem frame_putLeaf (dict : Dict) (value : AvpValue) (l : List Avp) :
    Frame p (putLeaf dict value l) :=
  Frame.call.bind fun _ => Frame.call.bind fun _ => Frame.call.bind fun _ => Frame.pure _

theorem frame_putValue {α : Type} (o : OtlValue α) (dict : Dict) (value : α → AvpValue)
    (l : List Avp) : Frame p (putValue o dict value l) := by
  simp only [putValue]
  split
  · exact Frame.pure l
  · exact frame_putLeaf ..

theorem frame_putGroup (dict : Dict) {parts : List Part}
    (h : ∀ part ∈ parts, ∀ l, Frame p (part l)) (l : List Avp) :
    Frame p (putGroup dict parts l) :=
  Frame.call.bind fun _ => (Frame.runAll h []).bind fun _ =>
    Frame.call.bind fun _ => Frame.pure _

theorem frame_makeQoSI (reqInfo : Option SRequestInfo) (rule : SDBAbonRule) :
    Frame p (pcrfMakeQoSI reqInfo rule) := by
  refine Frame.call.bind fun _ => (Frame.runAll ?_ []).bind fun _ => Frame.pure _
  simp only [List.forall_mem_cons]
  refine ⟨frame_putValue _ _ _, frame_putValue _ _ _, frame_putValue _ _ _,
    frame_putValue _ _ _, frame_putValue _ _ _, frame_putGroup _ ?_, by simp⟩
  simp only [List.forall_mem_cons]
  exact ⟨frame_putLeaf _ _, frame_putValue _ _ _, frame_putValue _ _ _, by simp⟩

theorem frame_putQoSI (reqInfo : Option SRequestInfo) (rule : SDBAbonRule) (l : List Avp) :
    Frame p (putQoSI reqInfo rule l) := by
  refine (frame_makeQoSI reqInfo rule).attempt.bind fun qosi => ?_
  cases qosi with
  | none => exact Frame.pure l
  | some avp => exact Frame.call.bind fun _ => Frame.pure _

theorem frame_putFlowInformation (flow : SFlowInformation) (l : List Avp) :
    Frame p (putFlowInformation flow l) := by
  refine frame_putGroup _ ?_ l
  simp only [List.forall_mem_cons]
  exact ⟨frame_putValue _ _ _, frame_putValue _ _ _, by simp⟩

theorem frame_putMonitoringKey (rule : SDBAbonRule) (l : List Avp) :
    Frame p (putMonitoringKey rule l) := by
  simp only [putMonitoringKey]
  cases rule.vectMonitKey with
  | nil => exact Frame.pure l
  | cons key keys => exact frame_putLeaf ..

theorem frame_putRedirectServer (rule : SDBAbonRule) (l : List Avp) :
    Frame p (putRedirectServer rule l) := by
  simp only [putRedirectServer]
  split
  · exact Frame.pure l
  · refine frame_putGroup _ ?_ l
    simp only [List.forall_mem_cons]
    exact ⟨frame_putLeaf _ _, frame_putLeaf _ _, by simp⟩

theorem frame_makeCRD (reqInfo : Option SRequestInfo) (rule : SDBAbonRule) :
    Frame p (pcrfMakeCRD reqInfo rule) := by
  simp only [pcrfMakeCRD]
  split
  · refine Frame.call.bind fun _ => (frame_putLeaf ..).bind fun _ =>
      (Frame.runAll ?_ _).bind fun _ => Frame.pure _
    simp only [List.forall_mem_append, List.forall_mem_cons, List.forall_mem_map]
    exact ⟨⟨⟨frame_putValue _ _ _, frame_putValue _ _ _, frame_putValue _ _ _, by simp⟩,
      fun flow _ => frame_putFlowInformation flow⟩, frame_putQoSI _ _, frame_putValue _ _ _,
      frame_putValue _ _ _, frame_putValue _ _ _, frame_putValue _ _ _, frame_putValue _ _ _,
      frame_putMonitoringKey _, frame_putRedirectServer _, by simp⟩
  · exact Frame.call.bind fun _ => Frame.call.bind fun _ => Frame.pure _

theorem frame_putBearerIdentifier (reqInfo : Option SRequestInfo) (l : List Avp) :
    Frame p (putBearerIdentifier reqInfo l) := by
  simp only [putBearerIdentifier]
  split
  · split
    · exact frame_putValue ..
    · exact Frame.pure l
  · exact Frame.pure l

theorem frame_openOnDemand {create : FdM (List Avp)} (h : Frame p create)
    (children : Option (List Avp)) : Frame p (openOnDemand children create) := by
  cases children with
  | none => exact h
  | some l => exact Frame.pure l

theorem frame_putUMI (key : String) (info : SDBMonitoringInfo) (isNeedUMR : Bool)
    (l : List Avp) : Frame p (putUMI key info isNeedUMR l) := by
  refine frame_putGroup _ ?_ l
  simp only [List.forall_mem_append, List.forall_mem_singleton]
  refine ⟨⟨⟨frame_putLeaf _ _, ?_⟩, ?_⟩, frame_putGroup _ ?_⟩
  · split
    · simp
    · exact List.forall_mem_singleton.mpr (frame_putLeaf _ _)
  · split
    · exact List.forall_mem_singleton.mpr (frame_putLeaf _ _)
    · simp
  · simp only [grantedParts]
    split
    · simp only [List.forall_mem_cons]
      exact ⟨frame_putValue _ _ _, frame_putValue _ _ _, by simp⟩
    · exact List.forall_mem_singleton.mpr (frame_putLeaf _ _)

end

/-! ### Building a message -/

/-- The event trigger that an AVP of the message stands for. -/
def Avp.trigger : Avp → Option Int32
  | .leaf .eventTrigger (.i32 trigId) => some trigId
  | _ => none

def triggersIn (avps : List Avp) : List Int32 := avps.filterMap Avp.trigger

/-- A part of the state that neither the rules that are issued nor the AVPs of the message are
of importance to, except for its event triggers. -/
structure Overlooks {τ : Type} (p : AnswerState → τ) : Prop where
  store : ∀ st store, p { st with store } = p st
  answer : ∀ st more, triggersIn more = [] → p { st with answer := st.answer ++ more } = p st

theorem overlooks_sent : Overlooks AnswerState.sent := ⟨fun _ _ => rfl, fun _ _ _ => rfl⟩

theorem overlooks_triggers : Overlooks fun st => triggersIn st.answer where
  store _ _ := rfl
  answer st more h := by
    simp only [triggersIn, List.filterMap_append] at h ⊢
    rw [h, List.append_nil]

section

variable {τ : Type} {p : AnswerState → τ}

theorem Overlooks.append (h : Overlooks p) {more : List Avp} (hmore : triggersIn more = []) :
    Frame p (update fun st => { st with answer := st.answer ++ more }) :=
  Frame.update fun st => h.answer st more hmore

theorem Overlooks.changeRules (h : Overlooks p) (f : RuleStore → RuleStore) :
    Frame p (update fun st => { st with store := f st.store }) :=
  Frame.update fun st => h.store st (f st.store)

/-- The AVP that the program makes, if it makes one, is no trigger. -/
def MakesPlain (make : FdM (Option Avp)) : Prop :=
  Maintains (fun _ => True) (fun made => ∀ avp, made = some avp → avp.trigger = none) make

theorem frame_putMade (h : Overlooks p) {make : FdM (Option Avp)} (hmake : Frame p make)
    (hmade : MakesPlain make) : Frame p (putMade make) := by
  refine hmake.bindOf (fun s => hmade.gives s trivial) fun made hplain => ?_
  cases made with
  | none => exact Frame.pure ()
  | some avp =>
    have hmore : triggersIn [avp] = [] := by simp [triggersIn, hplain avp rfl]
    exact (Frame.call.bind fun _ => h.append hmore).tolerate

theorem putGroup_gives (dict : Dict) (parts : List Part) :
    Maintains (fun _ => True) (fun avps => ∃ children, avps = [.group dict children])
      (putGroup dict parts []) :=
  Maintains.call.bind fun _ _ => (Maintains.any _).bind fun _ _ =>
    Maintains.call.bind fun _ _ => Maintains.pure ⟨_, rfl⟩

theorem makesPlain_none : MakesPlain (return none) :=
  Maintains.pure fun avp heq => absurd heq (Option.some_ne_none avp).symm

theorem makesPlain_group (dict : Dict) (children : List Avp) :
    MakesPlain (return some (.group dict children)) :=
  Maintains.pure fun _ heq => Option.some.inj heq ▸ rfl

/-- Putting in the group that a loop has collected the AVPs of. -/
theorem frame_putCollected (h : Overlooks p) {loop : FdM (Option (List Avp))}
    (hloop : Frame p loop) (dict : Dict) :
    Frame p (putMade do
      match ← attempt loop with
      | some (some children) => return some (.group dict children)
      | _ => return none) := by
  refine frame_putMade h (hloop.attempt.bind fun made => ?_)
    ((Maintains.any _).bind fun made _ => ?_)
  · split <;> exact Frame.pure _
  · split
    · exact makesPlain_group ..
    · exact makesPlain_none

theorem frame_makeUMI (h : Overlooks p) (isNeedUMR : Bool) (mapMonitInfo : MonitInfoMap) :
    Frame p (pcrfMakeUMI isNeedUMR mapMonitInfo) := by
  induction mapMonitInfo with
  | nil => exact Frame.pure ()
  | cons entry rest ih =>
    simp only [pcrfMakeUMI]
    split
    · exact ih
    · refine Frame.bind ?_ fun _ => ih
      refine (frame_putUMI _ _ _ []).bindOf (fun s => (putGroup_gives ..).gives s trivial)
        fun avps havps => ?_
      obtain ⟨children, rfl⟩ := havps
      exact h.append rfl

theorem frame_makeCRRLoop (h : Overlooks p) (sessInfo : SSessionInfo)
    (vectActive : List SDBAbonRule) (crr : Option (List Avp)) :
    Frame p (pcrfMakeCRRLoop sessInfo vectActive crr) := by
  induction vectActive generalizing crr with
  | nil => exact Frame.pure crr
  | cons rule vectActive ih =>
    have hclose := h.changeRules fun store =>
      pcrfDbCloseSessionRule store sessInfo rule.strRuleName none
    have hopen := frame_openOnDemand (p := p) (Frame.call.bind fun _ => Frame.pure []) crr
    simp only [pcrfMakeCRRLoop]
    split
    · exact ih crr
    · -- the three dialects with AVPs, the SCE, and the others
      split
      case h_4 => exact hclose.bind fun _ => ih crr
      case h_5 => exact ih crr
      all_goals
        refine hopen.bind fun l => (frame_putLeaf _ _ l).attempt.bind fun named => ?_
        cases named with
        | none => exact ih _
        | some l => exact hclose.bind fun _ => ih _

theorem frame_putCRR (h : Overlooks p) (sessInfo : SSessionInfo)
    (vectActive : List SDBAbonRule) : Frame p (putMade (pcrfMakeCRR sessInfo vectActive)) := by
  simp only [pcrfMakeCRR]
  split
  · exact frame_putMade h (Frame.pure none) makesPlain_none
  · exact frame_putCollected h (frame_makeCRRLoop h ..) _

theorem frame_putAnswer {α : Type} (h : Overlooks p) (o : OtlValue α) (dict : Dict)
    (value : α → UInt32) : Frame p (putAnswer o dict value) := by
  simp only [putAnswer]
  split
  · exact Frame.pure ()
  · -- its value is no trigger, whatever the AVP
    have hplain : triggersIn [.leaf dict (.u32 (value o.v))] = [] := by
      simp [triggersIn, Avp.trigger]
    exact Frame.call.bind fun _ => Frame.call.bind fun _ => Frame.call.bind fun _ =>
      h.append hplain

theorem frame_putSceRule (h : Overlooks p) (rule : SDBAbonRule) : Frame p (putSceRule rule) :=
  (frame_putAnswer h ..).bind fun _ => (frame_putAnswer h ..).bind fun _ =>
    (frame_putAnswer h ..).bind fun _ => frame_putAnswer h ..

theorem frame_makeCRILoop (h : Overlooks p) (sessInfo : SSessionInfo)
    (reqInfo : Option SRequestInfo) (listAbonRules : List SDBAbonRule)
    (cri : Option (List Avp)) : Frame p (pcrfMakeCRILoop sessInfo reqInfo listAbonRules cri) := by
  induction listAbonRules generalizing cri with
  | nil => exact Frame.pure cri
  | cons rule listAbonRules ih =>
    have hinsert := h.changeRules fun store => pcrfDbInsertRule store sessInfo rule
    have hopen := frame_openOnDemand (p := p)
      (Frame.call.bind fun _ => frame_putBearerIdentifier reqInfo []) cri
    simp only [pcrfMakeCRILoop]
    -- the same five cases
    split
    case h_4 =>
      refine (frame_putSceRule h rule).bind fun _ => ?_
      split
      · exact (Frame.pure ()).bind fun _ => ih cri
      · exact hinsert.bind fun _ => ih cri
    case h_5 => exact ih cri
    all_goals
      split
      · exact ih cri
      · refine hopen.bind fun l => (frame_makeCRD reqInfo rule).attempt.bind fun made => ?_
        cases made with
        | none => exact ih _
        | some crd => exact Frame.call.bind fun _ => hinsert.bind fun _ => ih _

theorem frame_putCRI (h : Overlooks p) (sessInfo : SSessionInfo) (reqInfo : Option SRequestInfo)
    (listAbonRules : List SDBAbonRule) :
    Frame p (putMade (pcrfMakeCRI sessInfo reqInfo listAbonRules)) := by
  simp only [pcrfMakeCRI]
  split
  · exact frame_putMade h (Frame.pure none) makesPlain_none
  · exact frame_putCollected h (frame_makeCRILoop h ..) _

end

/-- Nothing is sent. -/
abbrev Unsent {α : Type} (x : FdM α) : Prop := Frame AnswerState.sent x

theorem unsent_putTriggers (triggers : List Int32) : Unsent (putTriggers triggers) := by
  induction triggers with
  | nil => exact Frame.pure ()
  | cons trigger triggers ih =>
    have hput : Unsent (setEventTrigger trigger) :=
      (frame_putLeaf _ _ []).bind fun _ => Frame.update fun _ => rfl
    exact hput.tolerate.bind fun _ => ih

/-! ### Invariants of a message -/

section

variable {I : AnswerState → Prop}

theorem maintains_putTriggers
    (hput : ∀ trigId st, I st →
      I { st with answer := st.answer ++ [.leaf .eventTrigger (.i32 trigId)] })
    (triggers : List Int32) : Maintains I (fun _ => True) (putTriggers triggers) := by
  induction triggers with
  | nil => exact Maintains.pure trivial
  | cons trigger triggers ih =>
    have hleaf : Maintains (fun _ => True) (· = [.leaf .eventTrigger (.i32 trigger)])
        (putLeaf .eventTrigger (.i32 trigger) []) :=
      (Maintains.any _).bind fun _ _ => (Maintains.any _).bind fun _ _ =>
        (Maintains.any _).bind fun _ _ => Maintains.pure rfl
    have hset : Maintains I (fun _ => True) (setEventTrigger trigger) := by
      refine ((frame_putLeaf _ _ []).maintains hleaf).bind fun avps havps => ?_
      subst havps
      exact Maintains.update fun st hst => hput trigger st hst
    exact hset.tolerate.bind fun _ _ => ih

theorem maintains_makeUMI
    (hput : ∀ children st, I st →
      I { st with answer := st.answer ++ [.group .usageMonitoringInformation children] })
    (isNeedUMR : Bool) (mapMonitInfo : MonitInfoMap) :
    Maintains I (fun _ => True) (pcrfMakeUMI isNeedUMR mapMonitInfo) := by
  induction mapMonitInfo with
  | nil => exact Maintains.pure trivial
  | cons entry rest ih =>
    have hkey : Maintains I (fun _ => True)
        (putMessage (putUMI entry.1 entry.2 isNeedUMR)) := by
      refine ((frame_putUMI _ _ _ []).maintains (putGroup_gives ..)).bind fun avps havps => ?_
      obtain ⟨children, rfl⟩ := havps
      exact Maintains.update (hput children)
    simp only [pcrfMakeUMI]
    split
    · exact ih
    · exact hkey.bind fun _ _ => ih

theorem maintains_putMade {Q : Avp → Prop} {make : FdM (Option Avp)}
    (hput : ∀ avp, Q avp → ∀ st, I st → I { st with answer := st.answer ++ [avp] })
    (hmake : Maintains I (fun made => ∀ avp, made = some avp → Q avp) make) :
    Maintains I (fun _ => True) (putMade make) := by
  refine hmake.bind fun made hmade => ?_
  cases made with
  | none => exact Maintains.pure trivial
  | some avp =>
    exact (Maintains.call.bind fun _ _ => Maintains.update (hput avp (hmade avp rfl))).tolerate

theorem maintains_makeNone {Q : Avp → Prop} :
    Maintains I (fun made => ∀ avp, made = some avp → Q avp) (return none) :=
  Maintains.pure fun avp heq => absurd heq (Option.some_ne_none avp).symm

/-- The group that a loop has collected the AVPs of. -/
theorem maintains_collected {loop : FdM (Option (List Avp))}
    (hloop : Maintains I (fun _ => True) loop) (dict : Dict) :
    Maintains I (fun made => ∀ avp, made = some avp → ∃ children, avp = Avp.group dict children)
      (do
        match ← attempt loop with
        | some (some children) => return some (.group dict children)
        | _ => return none) := by
  refine hloop.attempt.bind fun made _ => ?_
  split
  next => exact Maintains.pure fun avp heq => ⟨_, (Option.some.inj heq).symm⟩
  next => exact maintains_makeNone

/-- `pcrf_make_CRR` changes the rules that are issued, and nothing else. -/
theorem maintains_makeCRR (sessInfo : SSessionInfo) (vectActive : List SDBAbonRule)
    (hclose : ∀ name st, I st →
      I { st with store := pcrfDbCloseSessionRule st.store sessInfo name none }) :
    Maintains I (fun made => ∀ avp, made = some avp →
      ∃ children, avp = .group .chargingRuleRemove children)
      (pcrfMakeCRR sessInfo vectActive) := by
  have hloop (crr : Option (List Avp)) :
      Maintains I (fun _ => True) (pcrfMakeCRRLoop sessInfo vectActive crr) := by
    induction vectActive generalizing crr with
    | nil => exact Maintains.pure trivial
    | cons rule vectActive ih =>
      have hthis : Maintains I (fun _ => True) (update fun st : AnswerState =>
          { st with store := pcrfDbCloseSessionRule st.store sessInfo rule.strRuleName none }) :=
        Maintains.update (hclose rule.strRuleName)
      have hopen : Maintains I (fun _ => True) (openOnDemand crr (do call; return [])) :=
        (frame_openOnDemand (Frame.call.bind fun _ => Frame.pure []) crr).maintains
          (Maintains.any _)
      simp only [pcrfMakeCRRLoop]
      split
      · exact ih crr
      · -- the three dialects with AVPs, the SCE, and the others
        split
        case h_4 => exact hthis.bind fun _ _ => ih crr
        case h_5 => exact ih crr
        all_goals
          refine hopen.bind fun l _ =>
            ((frame_putLeaf _ _ l).maintains (Maintains.any _)).attempt.bind fun named _ => ?_
          cases named with
          | none => exact ih _
          | some l => exact hthis.bind fun _ _ => ih _
  simp only [pcrfMakeCRR]
  split
  · exact maintains_makeNone
  · exact maintains_collected (hloop none) _

theorem maintains_putAnswer
    (hput : ∀ dict value st, I st → I { st with answer := st.answer ++ [.leaf dict (.u32 value)] })
    {α : Type} (o : OtlValue α) (dict : Dict) (value : α → UInt32) :
    Maintains I (fun _ => True) (putAnswer o dict value) := by
  simp only [putAnswer]
  split
  · exact Maintains.pure trivial
  · exact Maintains.call.bind fun _ _ => Maintains.call.bind fun _ _ =>
      Maintains.call.bind fun _ _ => Maintains.update (hput dict (value o.v))

/-- Besides, `pcrf_make_CRI` puts the AVPs of an SCE into the message. -/
theorem maintains_makeCRI (sessInfo : SSessionInfo) (reqInfo : Option SRequestInfo)
    (listAbonRules : List SDBAbonRule)
    (hinsert : ∀ rule st, I st →
      I { st with store := pcrfDbInsertRule st.store sessInfo rule })
    (hput : ∀ dict value st, I st →
      I { st with answer := st.answer ++ [.leaf dict (.u32 value)] }) :
    Maintains I (fun made => ∀ avp, made = some avp →
      ∃ children, avp = .group .chargingRuleInstall children)
      (pcrfMakeCRI sessInfo reqInfo listAbonRules) := by
  have hloop (cri : Option (List Avp)) :
      Maintains I (fun _ => True) (pcrfMakeCRILoop sessInfo reqInfo listAbonRules cri) := by
    induction listAbonRules generalizing cri with
    | nil => exact Maintains.pure trivial
    | cons rule listAbonRules ih =>
      have hthis : Maintains I (fun _ => True) (update fun st : AnswerState =>
          { st with store := pcrfDbInsertRule st.store sessInfo rule }) :=
        Maintains.update (hinsert rule)
      have hopen : Maintains I (fun _ => True)
          (openOnDemand cri (do call; putBearerIdentifier reqInfo [])) :=
        (frame_openOnDemand (Frame.call.bind fun _ => frame_putBearerIdentifier reqInfo [])
          cri).maintains (Maintains.any _)
      have hmake : Maintains I (fun _ => True) (pcrfMakeCRD reqInfo rule) :=
        (frame_makeCRD reqInfo rule).maintains (Maintains.any _)
      have hsce : Maintains I (fun _ => True) (putSceRule rule) :=
        (maintains_putAnswer hput ..).bind fun _ _ => (maintains_putAnswer hput ..).bind fun _ _ =>
          (maintains_putAnswer hput ..).bind fun _ _ => maintains_putAnswer hput ..
      simp only [pcrfMakeCRILoop]
      -- the same five cases
      split
      case h_4 =>
        refine hsce.bind fun _ _ => ?_
        split
        · exact (Maintains.pure (Q := fun _ => True) (a := ()) trivial).bind fun _ _ => ih _
        · exact hthis.bind fun _ _ => ih _
      case h_5 => exact ih cri
      all_goals
        split
        · exact ih cri
        · refine hopen.bind fun l _ => hmake.attempt.bind fun made _ => ?_
          cases made with
          | none => exact ih _
          | some crd => exact Maintains.call.bind fun _ _ => hthis.bind fun _ _ => ih _
  simp only [pcrfMakeCRI]
  split
  · exact maintains_makeNone
  · exact maintains_collected (hloop none) _

/-- Building an answer keeps what is kept by clearing the message and by each part of it. -/
theorem maintains_answer {msg : SMsgDataForDB} {vectActive : List SDBAbonRule}
    {gathered : Gathered} (hclear : ∀ st, I st → I { st with answer := [] })
    (htrigger : ∀ trigId st, I st →
      I { st with answer := st.answer ++ [.leaf .eventTrigger (.i32 trigId)] })
    (hkey : ∀ children st, I st →
      I { st with answer := st.answer ++ [.group .usageMonitoringInformation children] })
    (hremove : Maintains I (fun _ => True) (putMade (pcrfMakeCRR msg.soSessInfo vectActive)))
    (hinstall : Maintains I (fun _ => True)
      (putMade (pcrfMakeCRI msg.soSessInfo (some msg.soReqInfo) gathered.listAbonRules))) :
    Maintains I (fun _ => True) (msg.answer vectActive gathered) := by
  have hnew : Maintains I (fun _ => True) newMessage :=
    Maintains.call.bind fun _ _ => Maintains.update hclear
  have hUMI : Maintains I (fun _ => True) (tolerate (pcrfMakeUMI false gathered.mapMonitInfo)) :=
    (maintains_makeUMI hkey ..).tolerate
  have hnothing : Maintains I (fun _ => True) (return () : FdM Unit) := Maintains.pure trivial
  refine hnew.bind fun _ _ => Maintains.bind (Q := fun _ => True) ?_ fun _ _ => ?_
  · -- a new session, an update with or without rules, and the end of a session
    simp only [SMsgDataForDB.answerRules]
    split
    · exact hUMI.bind fun _ _ => hinstall
    · split
      · exact hremove.bind fun _ _ => hinstall.bind fun _ _ => hUMI
      · exact hnothing.bind fun _ _ => hUMI
    · exact hnothing
  · simp only [SMsgDataForDB.answerTriggers]
    split
    · exact maintains_putTriggers htrigger _
    · exact hnothing

end

end Pcrf
