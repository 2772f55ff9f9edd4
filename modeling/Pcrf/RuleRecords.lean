import Pcrf.RuleReconcile
import Pcrf.MessageFrames

/-!
What the session rule cache and the statements record of the rules that an AVP installs or
removes, whichever calls into freeDiameter fail. A Charging-Rule-Install that is given up has
left its rules recorded.
-/

namespace Pcrf

open Lib CallM

/-! ### A definition names its rule -/

section Names

/-- A step keeps what is there, and adds behind it. -/
def Extends (part : Part) : Prop :=
  ∀ children, Maintains (fun _ => True) (children <+: ·) (part children)

theorem extends_pure : Extends fun children => return children :=
  fun _ => Maintains.pure List.prefix_rfl

theorem extends_putLeaf {dict : Dict} {value : AvpValue} : Extends (putLeaf dict value) :=
  fun _ => (Maintains.any _).bind fun _ _ => (Maintains.any _).bind fun _ _ =>
    (Maintains.any _).bind fun _ _ => Maintains.pure (List.prefix_append ..)

theorem extends_putValue {α : Type} {o : OtlValue α} {dict : Dict} {value : α → AvpValue} :
    Extends (putValue o dict value) := by
  unfold putValue
  split
  · exact extends_pure
  · exact extends_putLeaf

theorem extends_putGroup {dict : Dict} {parts : List Part} : Extends (putGroup dict parts) :=
  fun _ => (Maintains.any _).bind fun _ _ => (Maintains.any _).bind fun _ _ =>
    (Maintains.any _).bind fun _ _ => Maintains.pure (List.prefix_append ..)

theorem extends_putQoSI {reqInfo : Option SRequestInfo} {rule : SDBAbonRule} :
    Extends (putQoSI reqInfo rule) := by
  intro children
  refine (Maintains.any _).bind fun qosi _ => ?_
  cases qosi with
  | none => exact Maintains.pure List.prefix_rfl
  | some avp => exact (Maintains.any _).bind fun _ _ => Maintains.pure (List.prefix_append ..)

theorem extends_putMonitoringKey {rule : SDBAbonRule} : Extends (putMonitoringKey rule) := by
  unfold putMonitoringKey
  split
  · exact extends_pure
  · exact extends_putLeaf

theorem extends_putRedirectServer {rule : SDBAbonRule} : Extends (putRedirectServer rule) := by
  unfold putRedirectServer
  split
  · exact extends_pure
  · exact extends_putGroup

theorem extends_runAll {parts : List Part} (h : ∀ part ∈ parts, Extends part) :
    Extends (runAll parts) := by
  induction parts with
  | nil => exact extends_pure
  | cons part parts ih =>
    intro children
    refine (h part (List.mem_cons_self ..) children).bind fun more hmore => ?_
    have rest := ih (fun part' hmem => h part' (List.mem_cons_of_mem _ hmem)) more
    exact ⟨fun s hs => rest.keeps s hs, fun s hs l hl => hmore.trans (rest.gives s hs l hl)⟩

/-- Whatever is put behind the name, the definition is that of the rule. -/
theorem makeCRD_names (reqInfo : Option SRequestInfo) (rule : SDBAbonRule) :
    Maintains (fun _ => True) (fun crd => crd.definedRule = some rule.strRuleName)
      (pcrfMakeCRD reqInfo rule) := by
  simp only [pcrfMakeCRD]
  split
  · refine (Maintains.any _).bind fun _ _ => Maintains.bind
      (Q := fun named => named = [.leaf .chargingRuleName (.os rule.strRuleName)]) ?_
      fun named hnamed => Maintains.bind (extends_runAll ?_ named)
        fun children hchildren => Maintains.pure ?_
    · exact (Maintains.any _).bind fun _ _ => (Maintains.any _).bind fun _ _ =>
        (Maintains.any _).bind fun _ _ => Maintains.pure rfl
    · simp only [List.forall_mem_append, List.forall_mem_cons, List.forall_mem_map]
      exact ⟨⟨⟨extends_putValue, extends_putValue, extends_putValue, by simp⟩,
        fun _ _ => extends_putGroup⟩, extends_putQoSI, extends_putValue, extends_putValue,
        extends_putValue, extends_putValue, extends_putValue, extends_putMonitoringKey,
        extends_putRedirectServer, by simp⟩
    · -- the name is the first child that names a rule
      obtain ⟨more, rfl⟩ := hchildren
      rw [hnamed]
      rfl
  · exact (Maintains.any _).bind fun _ _ => (Maintains.any _).bind fun _ _ =>
      Maintains.pure (definedRule_nameDict ..)

end Names

/-! ### The attempts of a loop -/

section Attempts

variable (sessInfo : SSessionInfo) (reqInfo : Option SRequestInfo)

/-- A state in which a rule has been issued, or closed. -/
def issued (rule : SDBAbonRule) (s : Answering AnswerState) : Answering AnswerState :=
  withStore s (pcrfDbInsertRule s.state.store sessInfo rule)

def closed (rule : SDBAbonRule) (s : Answering AnswerState) : Answering AnswerState :=
  withStore s (pcrfDbCloseSessionRule s.state.store sessInfo rule.strRuleName none)

/-- The rules whose definition could be made, each with the answer of the call that adds it to
Charging-Rule-Install. -/
def definitionAdds : List SDBAbonRule → Option (List Avp) → Answering AnswerState →
    List (SDBAbonRule × Bool)
  | [], _, _ => []
  | rule :: listAbonRules, cri, s =>
    if rule.isActive then definitionAdds listAbonRules cri s
    else
      match exec (openOnDemand cri (do call; putBearerIdentifier reqInfo [])) s with
      | (none, _) => []
      | (some children, opened) =>
        match exec (pcrfMakeCRD reqInfo rule) opened with
        | (none, left) => definitionAdds listAbonRules (some children) left
        | (some crd, made) =>
          (rule, made.answers 0) ::
            if made.answers 0 then
              definitionAdds listAbonRules (some (children ++ [crd]))
                (issued sessInfo rule (made.after 1))
            else []

/-- The rules that could be named in Charging-Rule-Remove. -/
def namedRemovals : List SDBAbonRule → Option (List Avp) → Answering AnswerState →
    List SDBAbonRule
  | [], _, _ => []
  | rule :: vectActive, crr, s =>
    if rule.isRelevant then namedRemovals vectActive crr s
    else
      match exec (openOnDemand crr (do call; return [])) s with
      | (none, _) => []
      | (some children, opened) =>
        match exec (pcrfSetCRN (nameDict rule) rule.strRuleName children) opened with
        | (none, left) => namedRemovals vectActive (some children) left
        | (some children', named) =>
          rule :: namedRemovals vectActive (some children') (closed sessInfo rule named)

end Attempts

/-- The rules among some attempts that were added. -/
def addedOf (adds : List (SDBAbonRule × Bool)) : List SDBAbonRule :=
  (adds.filter Prod.snd).map Prod.fst

/-- The rules that the children of an AVP are about. -/
def carriedIn (children : Option (List Avp)) : List String :=
  (children.getD []).filterMap Avp.definedRule

/-! ### The loops -/

section Loops

variable {sessInfo : SSessionInfo} {reqInfo : Option SRequestInfo}

/-- What the loop over the wanted rules has done at its end, or where it was given up. -/
structure InstallLoop (sessInfo : SSessionInfo) (cri : Option (List Avp))
    (adds : List (SDBAbonRule × Bool)) (s : Answering AnswerState)
    (result : Option (Option (List Avp)) × Answering AnswerState) : Prop where
  store : result.2.state.store = insertAll sessInfo (addedOf adds) s.state.store
  returned : ∀ cri', result.1 = some cri' →
    (∀ add ∈ adds, add.2 = true) ∧
      carriedIn cri' = carriedIn cri ++ ruleNames (addedOf adds)
  givenUp : result.1 = none → (cri = none ∧ adds = []) ∨ ∃ add ∈ adds, add.2 = false

theorem exec_bind_none {σ α β : Type} {x : CallM σ α} {f : α → CallM σ β} {s s' : Answering σ}
    (h : exec x s = (none, s')) : exec (x >>= f) s = (none, s') := by
  rw [exec_bind, h]

/-- An AVP that does not exist yet has to be created, and is about no rule then. -/
theorem openOnDemand_cases {create : FdM (List Avp)} (keeps : Frame id create)
    (bare : Maintains (fun _ => True) (fun children => carriedIn (some children) = []) create)
    (avp : Option (List Avp)) (s : Answering AnswerState) :
    (∃ s₁, exec (openOnDemand avp create) s = (none, s₁) ∧ s₁.state = s.state ∧ avp = none) ∨
      ∃ children s₁, exec (openOnDemand avp create) s = (some children, s₁) ∧
        s₁.state = s.state ∧ carriedIn (some children) = carriedIn avp := by
  cases avp with
  | some children => exact .inr ⟨children, s, rfl, rfl, rfl⟩
  | none =>
    rcases keeps.exec_cases bare s with ⟨s₁, hopen, same⟩ | ⟨children, s₁, hopen, same, empty⟩
    · exact .inl ⟨s₁, hopen, same, rfl⟩
    · exact .inr ⟨children, s₁, hopen, same, empty⟩

theorem createdCRI_bare (reqInfo : Option SRequestInfo) :
    Maintains (fun _ => True) (fun children => carriedIn (some children) = [])
      (do call; putBearerIdentifier reqInfo [] : FdM (List Avp)) := by
  refine (Maintains.any _).bind fun _ _ => ?_
  cases reqInfo with
  | none => exact Maintains.pure rfl
  | some req =>
    simp only [putBearerIdentifier, putValue]
    split
    · split
      · exact Maintains.pure rfl
      · exact (Maintains.any _).bind fun _ _ => (Maintains.any _).bind fun _ _ =>
          (Maintains.any _).bind fun _ _ => Maintains.pure rfl
    · exact Maintains.pure rfl

section Turns

/-! The turns of the loop over the wanted rules, in the three dialects with the AVP: it cannot be
created, the definition cannot be made, it is not added, or it is. -/

variable {rule : SDBAbonRule} {listAbonRules : List SDBAbonRule} {cri : Option (List Avp)}
  {children : List Avp} {crd : Avp} {s s₁ s₂ : Answering AnswerState}

theorem makeCRILoop_active (hd : sessInfo.uiPeerDialect.takesRules = true)
    (hactive : rule.isActive = true) :
    pcrfMakeCRILoop sessInfo reqInfo (rule :: listAbonRules) cri =
      pcrfMakeCRILoop sessInfo reqInfo listAbonRules cri := by
  rcases takesRules_iff.mp hd with hdialect | hdialect | hdialect
  all_goals simp only [pcrfMakeCRILoop, hdialect, hactive, if_true]

theorem exec_makeCRILoop_unopened (hd : sessInfo.uiPeerDialect.takesRules = true)
    (hactive : ¬ rule.isActive = true)
    (hopen : exec (openOnDemand cri (do call; putBearerIdentifier reqInfo [])) s = (none, s₁)) :
    exec (pcrfMakeCRILoop sessInfo reqInfo (rule :: listAbonRules) cri) s = (none, s₁) := by
  rcases takesRules_iff.mp hd with hdialect | hdialect | hdialect
  all_goals simp only [pcrfMakeCRILoop, hdialect, hactive, if_false, exec_bind_none hopen,
    Bool.false_eq_true]

theorem exec_makeCRILoop_unmade (hd : sessInfo.uiPeerDialect.takesRules = true)
    (hactive : ¬ rule.isActive = true)
    (hopen : exec (openOnDemand cri (do call; putBearerIdentifier reqInfo [])) s =
      (some children, s₁))
    (hmade : exec (pcrfMakeCRD reqInfo rule) s₁ = (none, s₂)) :
    exec (pcrfMakeCRILoop sessInfo reqInfo (rule :: listAbonRules) cri) s =
      exec (pcrfMakeCRILoop sessInfo reqInfo listAbonRules (some children)) s₂ := by
  have hattempt : exec (attempt (pcrfMakeCRD reqInfo rule)) s₁ = (some none, s₂) := by
    rw [exec_attempt, hmade]
  rcases takesRules_iff.mp hd with hdialect | hdialect | hdialect
  all_goals simp only [pcrfMakeCRILoop, hdialect, hactive, if_false, exec_bind_some hopen,
    exec_bind_some hattempt, Bool.false_eq_true]

theorem exec_makeCRILoop_unadded (hd : sessInfo.uiPeerDialect.takesRules = true)
    (hactive : ¬ rule.isActive = true)
    (hopen : exec (openOnDemand cri (do call; putBearerIdentifier reqInfo [])) s =
      (some children, s₁))
    (hmade : exec (pcrfMakeCRD reqInfo rule) s₁ = (some crd, s₂))
    (hadd : s₂.answers 0 = false) :
    exec (pcrfMakeCRILoop sessInfo reqInfo (rule :: listAbonRules) cri) s =
      (none, s₂.after 1) := by
  rcases takesRules_iff.mp hd with hdialect | hdialect | hdialect
  all_goals simp only [pcrfMakeCRILoop, hdialect, hactive, if_false, exec_bind_some hopen,
    exec_bind_some (exec_attempt_some hmade), exec_bind_none (exec_call_of_no hadd),
    Bool.false_eq_true]

theorem exec_makeCRILoop_added (hd : sessInfo.uiPeerDialect.takesRules = true)
    (hactive : ¬ rule.isActive = true)
    (hopen : exec (openOnDemand cri (do call; putBearerIdentifier reqInfo [])) s =
      (some children, s₁))
    (hmade : exec (pcrfMakeCRD reqInfo rule) s₁ = (some crd, s₂))
    (hadd : s₂.answers 0 = true) :
    exec (pcrfMakeCRILoop sessInfo reqInfo (rule :: listAbonRules) cri) s =
      exec (pcrfMakeCRILoop sessInfo reqInfo listAbonRules (some (children ++ [crd])))
        (issued sessInfo rule (s₂.after 1)) := by
  rcases takesRules_iff.mp hd with hdialect | hdialect | hdialect
  all_goals
    simp only [pcrfMakeCRILoop, hdialect, hactive, if_false, exec_bind_some hopen,
      exec_bind_some (exec_attempt_some hmade), exec_bind_some (exec_call_of_yes hadd),
      exec_bind_some (exec_update ..), Bool.false_eq_true]
    rfl

end Turns

namespace InstallLoop

variable {rule : SDBAbonRule} {cri : Option (List Avp)} {children : List Avp} {crd : Avp}
  {adds : List (SDBAbonRule × Bool)} {s s₂ : Answering AnswerState}
  {result : Option (Option (List Avp)) × Answering AnswerState}

/-- A definition that cannot be made leaves no trace. -/
theorem unmade (rest : InstallLoop sessInfo (some children) adds s₂ result)
    (same : s₂.state = s.state) (carries : carriedIn (some children) = carriedIn cri) :
    InstallLoop sessInfo cri adds s result where
  store := rest.store.trans (by rw [same])
  returned cri' h := carries ▸ rest.returned cri' h
  givenUp h := .inr ((rest.givenUp h).resolve_left fun hnone =>
    Option.some_ne_none children hnone.1)

theorem unadded (same : s₂.state = s.state) :
    InstallLoop sessInfo cri [(rule, false)] s (none, s₂.after 1) where
  store := congrArg AnswerState.store same
  returned _ h := by cases h
  givenUp _ := .inr ⟨(rule, false), List.mem_cons_self .., rfl⟩

theorem added (rest : InstallLoop sessInfo (some (children ++ [crd])) adds
      (issued sessInfo rule (s₂.after 1)) result)
    (same : s₂.state = s.state) (carries : carriedIn (some children) = carriedIn cri)
    (hname : crd.definedRule = some rule.strRuleName) :
    InstallLoop sessInfo cri ((rule, true) :: adds) s result := by
  have hissued : (issued sessInfo rule (s₂.after 1)).state.store =
      pcrfDbInsertRule s.state.store sessInfo rule := by
    rw [← same]
    rfl
  refine ⟨?_, fun cri' h => ?_, fun h => ?_⟩
  · rw [rest.store, hissued]
    rfl
  · obtain ⟨all, names⟩ := rest.returned cri' h
    refine ⟨List.forall_mem_cons.mpr ⟨rfl, all⟩, names.trans ?_⟩
    rw [← carries]
    simp [carriedIn, hname, addedOf, ruleNames]
  · obtain ⟨hnone, -⟩ | ⟨add, hmem, hfalse⟩ := rest.givenUp h
    · cases hnone
    · exact .inr ⟨add, List.mem_cons_of_mem _ hmem, hfalse⟩

end InstallLoop

variable (reqInfo) in
theorem exec_installLoop (hd : sessInfo.uiPeerDialect.takesRules = true)
    (listAbonRules : List SDBAbonRule) (cri : Option (List Avp)) (s : Answering AnswerState) :
    InstallLoop sessInfo cri (definitionAdds sessInfo reqInfo listAbonRules cri s) s
      (exec (pcrfMakeCRILoop sessInfo reqInfo listAbonRules cri) s) := by
  induction listAbonRules generalizing cri s with
  | nil =>
    refine ⟨rfl, fun cri' h => ?_, fun h => by cases h⟩
    obtain rfl := Option.some.inj h
    exact ⟨by simp [definitionAdds], by simp [definitionAdds, addedOf, ruleNames]⟩
  | cons rule listAbonRules ih =>
    by_cases hactive : rule.isActive = true
    · rw [makeCRILoop_active hd hactive, definitionAdds, if_pos hactive]
      exact ih cri s
    · simp only [definitionAdds, if_neg hactive]
      rcases openOnDemand_cases (Frame.call.bind fun _ => frame_putBearerIdentifier reqInfo [])
        (createdCRI_bare reqInfo) cri s with
        ⟨s₁, hopen, same, created⟩ | ⟨children, s₁, hopen, same, carries⟩
      · rw [exec_makeCRILoop_unopened hd hactive hopen, hopen]
        exact {
          store := congrArg AnswerState.store same
          returned := fun _ h => by cases h
          givenUp := fun _ => .inl ⟨created, rfl⟩ }
      · rcases (frame_makeCRD reqInfo rule).exec_cases (makeCRD_names reqInfo rule) s₁ with
          ⟨s₂, hmade, same₂⟩ | ⟨crd, s₂, hmade, same₂, hname⟩
        · rw [exec_makeCRILoop_unmade hd hactive hopen hmade]
          simp only [hopen, hmade]
          exact (ih (some children) s₂).unmade (same₂.trans same) carries
        · cases hadd : s₂.answers 0 with
          | false =>
            rw [exec_makeCRILoop_unadded hd hactive hopen hmade hadd]
            simp only [hopen, hmade, hadd]
            exact .unadded (same₂.trans same)
          | true =>
            rw [exec_makeCRILoop_added hd hactive hopen hmade hadd]
            simp only [hopen, hmade, hadd, if_true]
            exact (ih _ _).added (same₂.trans same) carries hname

/-- What the loop over the active rules has done at its end, or where it was given up. -/
structure RemoveLoop (sessInfo : SSessionInfo) (crr : Option (List Avp))
    (removals : List SDBAbonRule) (s : Answering AnswerState)
    (result : Option (Option (List Avp)) × Answering AnswerState) : Prop where
  store : result.2.state.store = closeAll sessInfo (ruleNames removals) s.state.store
  returned : ∀ crr', result.1 = some crr' →
    carriedIn crr' = carriedIn crr ++ ruleNames removals
  givenUp : result.1 = none → crr = none ∧ removals = []

section Turns

variable {rule : SDBAbonRule} {vectActive : List SDBAbonRule} {crr : Option (List Avp)}
  {children named : List Avp} {s s₁ s₂ : Answering AnswerState}

theorem makeCRRLoop_relevant (hrelevant : rule.isRelevant = true) :
    pcrfMakeCRRLoop sessInfo (rule :: vectActive) crr =
      pcrfMakeCRRLoop sessInfo vectActive crr := by
  rw [pcrfMakeCRRLoop, if_pos hrelevant]

theorem exec_makeCRRLoop_unopened (hd : sessInfo.uiPeerDialect.takesRules = true)
    (hrelevant : ¬ rule.isRelevant = true)
    (hopen : exec (openOnDemand crr (do call; return [])) s = (none, s₁)) :
    exec (pcrfMakeCRRLoop sessInfo (rule :: vectActive) crr) s = (none, s₁) := by
  rcases takesRules_iff.mp hd with hdialect | hdialect | hdialect
  all_goals simp only [pcrfMakeCRRLoop, hdialect, hrelevant, if_false, exec_bind_none hopen,
    Bool.false_eq_true]

theorem exec_makeCRRLoop_unset (hd : sessInfo.uiPeerDialect.takesRules = true)
    (hrelevant : ¬ rule.isRelevant = true)
    (hopen : exec (openOnDemand crr (do call; return [])) s = (some children, s₁))
    (hname : exec (pcrfSetCRN (nameDict rule) rule.strRuleName children) s₁ = (none, s₂)) :
    exec (pcrfMakeCRRLoop sessInfo (rule :: vectActive) crr) s =
      exec (pcrfMakeCRRLoop sessInfo vectActive (some children)) s₂ := by
  have hattempt : exec (attempt (pcrfSetCRN (nameDict rule) rule.strRuleName children)) s₁ =
      (some none, s₂) := by
    rw [exec_attempt, hname]
  rcases takesRules_iff.mp hd with hdialect | hdialect | hdialect
  all_goals simp only [pcrfMakeCRRLoop, hdialect, hrelevant, if_false, exec_bind_some hopen,
    exec_bind_some hattempt, Bool.false_eq_true]

theorem exec_makeCRRLoop_named (hd : sessInfo.uiPeerDialect.takesRules = true)
    (hrelevant : ¬ rule.isRelevant = true)
    (hopen : exec (openOnDemand crr (do call; return [])) s = (some children, s₁))
    (hname : exec (pcrfSetCRN (nameDict rule) rule.strRuleName children) s₁ =
      (some named, s₂)) :
    exec (pcrfMakeCRRLoop sessInfo (rule :: vectActive) crr) s =
      exec (pcrfMakeCRRLoop sessInfo vectActive (some named)) (closed sessInfo rule s₂) := by
  rcases takesRules_iff.mp hd with hdialect | hdialect | hdialect
  all_goals
    simp only [pcrfMakeCRRLoop, hdialect, hrelevant, if_false, exec_bind_some hopen,
      exec_bind_some (exec_attempt_some hname), exec_bind_some (exec_update ..),
      Bool.false_eq_true]
    rfl

end Turns

namespace RemoveLoop

variable {rule : SDBAbonRule} {crr : Option (List Avp)} {children children' : List Avp}
  {removals : List SDBAbonRule} {s s₂ : Answering AnswerState}
  {result : Option (Option (List Avp)) × Answering AnswerState}

/-- A rule that cannot be named stays. -/
theorem unset (rest : RemoveLoop sessInfo (some children) removals s₂ result)
    (same : s₂.state = s.state) (carries : carriedIn (some children) = carriedIn crr) :
    RemoveLoop sessInfo crr removals s result where
  store := rest.store.trans (by rw [same])
  returned crr' h := carries ▸ rest.returned crr' h
  givenUp h := absurd (rest.givenUp h).1 (Option.some_ne_none children)

theorem named
    (rest : RemoveLoop sessInfo (some children') removals (closed sessInfo rule s₂) result)
    (same : s₂.state = s.state) (carries : carriedIn (some children) = carriedIn crr)
    (hnamed : children' = children ++ [.leaf (nameDict rule) (.os rule.strRuleName)]) :
    RemoveLoop sessInfo crr (rule :: removals) s result := by
  have hclosed : (closed sessInfo rule s₂).state.store =
      pcrfDbCloseSessionRule s.state.store sessInfo rule.strRuleName none := by
    rw [← same]
    rfl
  refine ⟨?_, fun crr' h => (rest.returned crr' h).trans ?_, fun h => ?_⟩
  · rw [rest.store, hclosed]
    rfl
  · rw [← carries]
    simp [carriedIn, hnamed, definedRule_nameDict, ruleNames]
  · exact absurd (rest.givenUp h).1 (Option.some_ne_none children')

end RemoveLoop

theorem createdCRR_bare :
    Maintains (fun _ => True) (fun children => carriedIn (some children) = [])
      (do call; return [] : FdM (List Avp)) :=
  (Maintains.any _).bind fun _ _ => Maintains.pure rfl

theorem setCRN_names (rule : SDBAbonRule) (children : List Avp) :
    Maintains (fun _ => True)
      (· = children ++ [.leaf (nameDict rule) (.os rule.strRuleName)])
      (pcrfSetCRN (nameDict rule) rule.strRuleName children) :=
  (Maintains.any _).bind fun _ _ => (Maintains.any _).bind fun _ _ =>
    (Maintains.any _).bind fun _ _ => Maintains.pure rfl

theorem exec_removeLoop (hd : sessInfo.uiPeerDialect.takesRules = true)
    (vectActive : List SDBAbonRule) (crr : Option (List Avp)) (s : Answering AnswerState) :
    RemoveLoop sessInfo crr (namedRemovals sessInfo vectActive crr s) s
      (exec (pcrfMakeCRRLoop sessInfo vectActive crr) s) := by
  induction vectActive generalizing crr s with
  | nil =>
    refine ⟨rfl, fun crr' h => ?_, fun h => by cases h⟩
    obtain rfl := Option.some.inj h
    simp [namedRemovals, ruleNames]
  | cons rule vectActive ih =>
    by_cases hrelevant : rule.isRelevant = true
    · rw [makeCRRLoop_relevant hrelevant, namedRemovals, if_pos hrelevant]
      exact ih crr s
    · simp only [namedRemovals, if_neg hrelevant]
      rcases openOnDemand_cases (Frame.call.bind fun _ => Frame.pure []) createdCRR_bare crr s with
        ⟨s₁, hopen, same, created⟩ | ⟨children, s₁, hopen, same, carries⟩
      · rw [exec_makeCRRLoop_unopened hd hrelevant hopen, hopen]
        exact {
          store := congrArg AnswerState.store same
          returned := fun _ h => by cases h
          givenUp := fun _ => ⟨created, rfl⟩ }
      · have nameFrame : Frame id (pcrfSetCRN (nameDict rule) rule.strRuleName children) :=
          frame_putLeaf ..
        rcases nameFrame.exec_cases (setCRN_names rule children) s₁ with
          ⟨s₂, hname, same₂⟩ | ⟨named, s₂, hname, same₂, hnamed⟩
        · rw [exec_makeCRRLoop_unset hd hrelevant hopen hname]
          simp only [hopen, hname]
          exact (ih (some children) s₂).unset (same₂.trans same) carries
        · rw [exec_makeCRRLoop_named hd hrelevant hopen hname]
          simp only [hopen, hname]
          exact (ih _ _).named (same₂.trans same) carries hnamed

end Loops

/-! ### What is recorded -/

/-- The rules that are recorded as issued, in the cache and for the database, are these. -/
structure RuleStore.Records (before after : RuleStore) (sessionId : String)
    (names : List String) : Prop where
  cached : after.rulesOf sessionId = before.rulesOf sessionId ++ names
  others : ∀ s, s ≠ sessionId → after.rulesOf s = before.rulesOf s
  stated : after.sqlQueue = before.sqlQueue ++ names.map (.insertRule sessionId)

/-- The rules that are recorded as closed are these. -/
structure RuleStore.Closes (before after : RuleStore) (sessionId : String)
    (names : List String) : Prop where
  cached : after.rulesOf sessionId = (before.rulesOf sessionId).filter (· ∉ names)
  others : ∀ s, s ≠ sessionId → after.rulesOf s = before.rulesOf s
  stated : after.sqlQueue =
    before.sqlQueue ++ names.map fun name => .closeRule sessionId name none

section Stores

variable {sessInfo : SSessionInfo} {st : RuleStore}

theorem records_insertAll_iff (rules : List SDBAbonRule) (names : List String) :
    st.Records (insertAll sessInfo rules st) sessInfo.strSessionId names ↔
      names = ruleNames rules ∧
        ∀ name ∈ names, 0 < sessInfo.strSessionId.length ∧ 0 < name.length := by
  constructor
  · rintro ⟨cached, -, stated⟩
    rw [sqlQueue_insertAll, List.append_cancel_left_eq] at stated
    have injective : Function.Injective (SqlStatement.insertRule sessInfo.strSessionId) :=
      fun _ _ h => (SqlStatement.insertRule.inj h).2
    have hnames := List.map_injective_iff.mpr injective stated
    rw [rulesOf_insertAll_filed, if_pos rfl, List.append_cancel_left_eq, ← hnames] at cached
    refine ⟨hnames.symm, fun name hname => ?_⟩
    rw [hnames] at cached
    simpa using List.filter_eq_self.mp cached name hname
  · rintro ⟨rfl, named⟩
    constructor
    · rw [rulesOf_insertAll_filed, if_pos rfl, List.filter_eq_self.mpr]
      simpa using named
    · intro s hs
      rw [rulesOf_insertAll_filed, if_neg hs, List.append_nil]
    · exact sqlQueue_insertAll ..

theorem sqlQueue_closeAll (names : List String) :
    (closeAll sessInfo names st).sqlQueue =
      st.sqlQueue ++ names.map fun name => .closeRule sessInfo.strSessionId name none := by
  unfold closeAll
  induction names generalizing st with
  | nil => simp
  | cons name names ih =>
    rw [List.foldl_cons, ih]
    simp [pcrfDbCloseSessionRule]

theorem closes_closeAll_iff (names : List String) :
    st.Closes (closeAll sessInfo names st) sessInfo.strSessionId names ↔
      ∀ name ∈ names, name ∈ st.rulesOf sessInfo.strSessionId →
        0 < sessInfo.strSessionId.length ∧ 0 < name.length := by
  constructor
  · rintro ⟨cached, -, -⟩ name hname hmem
    by_contra hrefused
    -- the rule that the cache refuses to remove would have stayed
    have stays : name ∈ (closeAll sessInfo names st).rulesOf sessInfo.strSessionId := by
      rw [rulesOf_closeAll_guarded, if_pos rfl]
      exact List.mem_filter.mpr ⟨hmem, decide_eq_true fun h => hrefused h.2⟩
    rw [cached] at stays
    simpa [hname] using (List.mem_filter.mp stays).2
  · intro named
    refine ⟨?_, fun s hne => ?_, sqlQueue_closeAll names⟩
    · rw [rulesOf_closeAll_guarded, if_pos rfl]
      refine List.filter_congr fun name hmem => ?_
      by_cases hname : name ∈ names
      · simp [hname, named name hname hmem]
      · simp [hname]
    · rw [rulesOf_closeAll_guarded, if_neg hne]

end Stores

/-! ### The two AVPs -/

section Avps

variable (sessInfo : SSessionInfo) (reqInfo : Option SRequestInfo)
  (listAbonRules vectActive : List SDBAbonRule) (s : Answering AnswerState)

/-- What is recorded as issued is what the returned Charging-Rule-Install defines. -/
def RecordsInstalled : Prop :=
  ∃ cri, (exec (pcrfMakeCRI sessInfo reqInfo listAbonRules) s).1 = some cri ∧
    s.state.store.Records (exec (pcrfMakeCRI sessInfo reqInfo listAbonRules) s).2.state.store
      sessInfo.strSessionId (namesIn .chargingRuleInstall cri.toList)

/-- What is recorded as closed is what the returned Charging-Rule-Remove names. -/
def ClosesRemoved : Prop :=
  ∃ crr, (exec (pcrfMakeCRR sessInfo vectActive) s).1 = some crr ∧
    s.state.store.Closes (exec (pcrfMakeCRR sessInfo vectActive) s).2.state.store
      sessInfo.strSessionId (namesIn .chargingRuleRemove crr.toList)

/-- All definitions are added, for rules and a session with names, or none is. -/
def AddsWhole : Prop :=
  (∀ add ∈ definitionAdds sessInfo reqInfo listAbonRules none s,
    add.2 = true ∧ 0 < sessInfo.strSessionId.length ∧ 0 < add.1.strRuleName.length) ∨
  ∀ add ∈ definitionAdds sessInfo reqInfo listAbonRules none s, add.2 = false

/-- Of the rules that can be named, those in the cache have names, and so has the session. -/
def RemovesNamed : Prop :=
  ∀ rule ∈ namedRemovals sessInfo vectActive none s,
    rule.strRuleName ∈ s.state.store.rulesOf sessInfo.strSessionId →
      0 < sessInfo.strSessionId.length ∧ 0 < rule.strRuleName.length

variable {sessInfo reqInfo listAbonRules vectActive s}

/-- The group that a loop has collected the AVPs of, if it did not fail. -/
theorem exec_collected (loop : FdM (Option (List Avp))) (dict : Dict)
    (s : Answering AnswerState) :
    exec (do
      match ← attempt loop with
      | some (some children) => return some (Avp.group dict children)
      | _ => return none) s =
    (some ((exec loop s).1.join.map (.group dict)), (exec loop s).2) := by
  rw [exec_bind_some (exec_attempt ..)]
  cases (exec loop s).1 with
  | none => rfl
  | some made => cases made <;> rfl

theorem exec_makeCRI_eq : exec (pcrfMakeCRI sessInfo reqInfo listAbonRules) s =
    (some ((exec (pcrfMakeCRILoop sessInfo reqInfo listAbonRules none) s).1.join.map
        (.group .chargingRuleInstall)),
      (exec (pcrfMakeCRILoop sessInfo reqInfo listAbonRules none) s).2) := by
  unfold pcrfMakeCRI
  cases hempty : listAbonRules.isEmpty with
  | true =>
    obtain rfl := List.isEmpty_iff.mp hempty
    rfl
  | false =>
    rw [if_neg Bool.false_ne_true]
    exact exec_collected ..

theorem exec_makeCRR_eq : exec (pcrfMakeCRR sessInfo vectActive) s =
    (some ((exec (pcrfMakeCRRLoop sessInfo vectActive none) s).1.join.map
        (.group .chargingRuleRemove)),
      (exec (pcrfMakeCRRLoop sessInfo vectActive none) s).2) := by
  unfold pcrfMakeCRR
  cases hempty : vectActive.isEmpty with
  | true =>
    obtain rfl := List.isEmpty_iff.mp hempty
    rfl
  | false =>
    rw [if_neg Bool.false_ne_true]
    exact exec_collected ..

theorem namesIn_group (dict : Dict) (children : Option (List Avp)) :
    namesIn dict (children.map (.group dict)).toList = carriedIn children := by
  cases children with
  | none => rfl
  | some l => simp [namesIn, Avp.carried, carriedIn]

theorem recordsInstalled_iff (hd : sessInfo.uiPeerDialect.takesRules = true) :
    RecordsInstalled sessInfo reqInfo listAbonRules s ↔
      AddsWhole sessInfo reqInfo listAbonRules s := by
  have loop := exec_installLoop reqInfo hd listAbonRules none s
  unfold RecordsInstalled AddsWhole
  rw [exec_makeCRI_eq]
  simp only [Option.some.injEq, exists_eq_left', namesIn_group, loop.store,
    records_insertAll_iff]
  generalize definitionAdds sessInfo reqInfo listAbonRules none s = adds at loop
  cases hloop : (exec (pcrfMakeCRILoop sessInfo reqInfo listAbonRules none) s).1 with
  | some cri =>
    obtain ⟨all, names⟩ := loop.returned cri hloop
    have carried : carriedIn (some cri).join = ruleNames (addedOf adds) := names
    have whole : addedOf adds = adds.map Prod.fst := by
      rw [addedOf, List.filter_eq_self.mpr all]
    rw [carried, whole]
    simp only [ruleNames, List.map_map, true_and, List.forall_mem_map, Function.comp_apply]
    constructor
    · exact fun named => .inl fun add hadd => ⟨all add hadd, named add hadd⟩
    · rintro (added | none_added) add hadd
      · exact (added add hadd).2
      · exact absurd (none_added add hadd) (by simp [all add hadd])
  | none =>
    -- nothing is returned, so nothing may be recorded
    have carried : carriedIn (none : Option (Option (List Avp))).join = [] := rfl
    have none_added : [] = ruleNames (addedOf adds) ↔ ∀ add ∈ adds, add.2 = false := by
      rw [eq_comm]
      simp [ruleNames, addedOf]
    rw [carried, none_added]
    simp only [List.not_mem_nil, false_imp_iff, implies_true, and_true]
    constructor
    · exact .inr
    · rintro (added | none_added)
      · obtain ⟨-, rfl⟩ | ⟨add, hadd, hfalse⟩ := loop.givenUp hloop
        · simp
        · exact absurd (added add hadd).1 (by simp [hfalse])
      · exact none_added

theorem closesRemoved_iff (hd : sessInfo.uiPeerDialect.takesRules = true) :
    ClosesRemoved sessInfo vectActive s ↔ RemovesNamed sessInfo vectActive s := by
  have loop := exec_removeLoop hd vectActive none s
  unfold ClosesRemoved RemovesNamed
  rw [exec_makeCRR_eq]
  simp only [Option.some.injEq, exists_eq_left', namesIn_group, loop.store]
  have carried : carriedIn (exec (pcrfMakeCRRLoop sessInfo vectActive none) s).1.join =
      ruleNames (namedRemovals sessInfo vectActive none s) := by
    cases hloop : (exec (pcrfMakeCRRLoop sessInfo vectActive none) s).1 with
    | some crr => exact loop.returned crr hloop
    | none =>
      rw [(loop.givenUp hloop).2]
      rfl
  rw [carried, closes_closeAll_iff]
  simp only [ruleNames, List.forall_mem_map]

end Avps

section Agreement

variable {sessInfo : SSessionInfo}

/-- The records agree with Charging-Rule-Install unless a definition fails to be added behind
others, and with Charging-Rule-Remove in any case, as far as rules have names. -/
theorem records_avps_iff (hd : sessInfo.uiPeerDialect.takesRules = true)
    (reqInfo : Option SRequestInfo) (listAbonRules vectActive : List SDBAbonRule)
    (s : Answering AnswerState) :
    (RecordsInstalled sessInfo reqInfo listAbonRules s ↔
      AddsWhole sessInfo reqInfo listAbonRules s) ∧
    (ClosesRemoved sessInfo vectActive s ↔ RemovesNamed sessInfo vectActive s) :=
  ⟨recordsInstalled_iff hd, closesRemoved_iff hd⟩

end Agreement

/-- A session of a Huawei gateway. -/
def ugwSession : SSessionInfo := { uiPeerDialect := .gxHwUgw, strSessionId := "gx;1" }

theorem records_avps_ugw :
    (RecordsInstalled ugwSession none [{ strRuleName := "a" }] ⟨fun _ => true, {}⟩ ↔
      AddsWhole ugwSession none [{ strRuleName := "a" }] ⟨fun _ => true, {}⟩) ∧
    (ClosesRemoved ugwSession [{ strRuleName := "b" }] ⟨fun _ => true, {}⟩ ↔
      RemovesNamed ugwSession [{ strRuleName := "b" }] ⟨fun _ => true, {}⟩) :=
  records_avps_iff rfl ..

/-- The call that adds the second definition fails: nothing is installed, and the first rule stays
recorded. -/
theorem not_recordsInstalled_secondAdd :
    ¬ ∀ (sessInfo : SSessionInfo), sessInfo.uiPeerDialect.takesRules = true →
      ∀ (reqInfo : Option SRequestInfo) (listAbonRules vectActive : List SDBAbonRule)
        (s : Answering AnswerState), RecordsInstalled sessInfo reqInfo listAbonRules s ∧
          ClosesRemoved sessInfo vectActive s := by
  intro agree
  have installed := (agree ugwSession rfl none [{ strRuleName := "a" }, { strRuleName := "b" }] []
    ⟨fun n => n != 6, {}⟩).1
  obtain ⟨cri, hcri, records⟩ := installed
  obtain rfl : none = cri := Option.some.inj hcri
  exact absurd records.stated (by decide)

end Pcrf
