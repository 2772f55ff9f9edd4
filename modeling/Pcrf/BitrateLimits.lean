import Pcrf.RuleReconcile
import Pcrf.Lib.Frame

/-!
The bitrates in the QoS-Information of a rule, compared with the least of the values that the
rule, the request and the access point have for them.
-/

namespace Pcrf

open Lib CallM

/-! ### Limits -/

section Limits

variable {value rate : UInt32} {limit : OtlValue UInt32}

theorem limitedBy_eq : limitedBy value limit = limit.toOption.toList.foldl min value := by
  cases hnull : limit.null with
  | true => simp [limitedBy, OtlValue.isNull, OtlValue.toOption, hnull]
  | false =>
    simp only [limitedBy, OtlValue.isNull, OtlValue.toOption, hnull, Bool.false_eq_true, if_false,
      Option.toList_some, List.foldl_cons, List.foldl_nil]
    show _ = if value ≤ limit.v then value else limit.v
    simp only [gt_iff_lt, ← UInt32.not_le, ite_not]

/-- A limit is of no effect exactly if it is absent or not below the value. -/
theorem limitedBy_eq_self_iff :
    limitedBy value limit = value ↔ ∀ rate, limit.toOption = some rate → value ≤ rate := by
  rw [limitedBy_eq]
  cases limit.toOption with
  | none => simp
  | some rate =>
    simp only [Option.toList_some, List.foldl_cons, List.foldl_nil, Option.some.injEq,
      forall_eq', Std.min_eq_if]
    split
    next hle => exact iff_of_true rfl hle
    next hnot => exact iff_of_false (fun h => hnot (h ▸ UInt32.le_refl _)) hnot

theorem limitedBy_le_iff :
    limitedBy value limit ≤ rate ↔
      value ≤ rate ∨ ∃ requested, limit.toOption = some requested ∧ requested ≤ rate := by
  rw [limitedBy_eq]
  cases limit.toOption with
  | none => simp
  | some requested =>
    simp only [Option.toList_some, List.foldl_cons, List.foldl_nil, Option.some.injEq,
      exists_eq_left', Std.min_le]

end Limits

/-! ### The four bitrates -/

inductive Bitrate where
  | maxRequestedBandwidthUL | maxRequestedBandwidthDL
  | guaranteedBitrateUL | guaranteedBitrateDL
  deriving Repr, DecidableEq

namespace Bitrate

def dict : Bitrate → Dict
  | maxRequestedBandwidthUL => .maxRequestedBandwidthUL
  | maxRequestedBandwidthDL => .maxRequestedBandwidthDL
  | guaranteedBitrateUL => .guaranteedBitrateUL
  | guaranteedBitrateDL => .guaranteedBitrateDL

def ofRule (rule : SDBAbonRule) : Bitrate → OtlValue UInt32
  | maxRequestedBandwidthUL => rule.coMaxRequestedBandwidthUl
  | maxRequestedBandwidthDL => rule.coMaxRequestedBandwidthDl
  | guaranteedBitrateUL => rule.coGuaranteedBitrateUl
  | guaranteedBitrateDL => rule.coGuaranteedBitrateDl

def ofRequest (req : SRequestInfo) : Bitrate → OtlValue UInt32
  | maxRequestedBandwidthUL => req.coMaxRequestedBandwidthUl
  | maxRequestedBandwidthDL => req.coMaxRequestedBandwidthDl
  | guaranteedBitrateUL => req.coGuaranteedBitrateUl
  | guaranteedBitrateDL => req.coGuaranteedBitrateDl

/-- The aggregate bitrate of the same direction. -/
def ofAPN (qos : SQoSInformation) : Bitrate → OtlValue UInt32
  | maxRequestedBandwidthUL | guaranteedBitrateUL => qos.coAPNAggregateMaxBitrateUL
  | maxRequestedBandwidthDL | guaranteedBitrateDL => qos.coAPNAggregateMaxBitrateDL

variable (b : Bitrate) (reqInfo : Option SRequestInfo) (rule : SDBAbonRule)

/-- The values that the request has for the bitrate. -/
def limits : List UInt32 :=
  reqInfo.toList.flatMap fun req =>
    (b.ofRequest req).toOption.toList ++
      (req.coQoSInformation.toOption.bind fun qos => (b.ofAPN qos).toOption).toList

/-- The least of the values, if the rule has one. -/
def expected : List AvpValue :=
  ((b.ofRule rule).toOption.map fun value =>
    .u32 ((b.limits reqInfo).foldl min value)).toList

end Bitrate

/-- The values of the AVPs of one kind. -/
def leavesOf (dict : Dict) (avps : List Avp) : List AvpValue :=
  avps.filterMap fun
    | .leaf d value => if d = dict then some value else none
    | .group _ _ => none

def Avp.children : Avp → List Avp
  | .leaf _ _ => []
  | .group _ children => children

/-- QoS-Information is made unless a call fails, and each bitrate in it is the least of its
values. -/
structure LimitsBitrates (reqInfo : Option SRequestInfo) (rule : SDBAbonRule) : Prop where
  made : ∀ s : Answering AnswerState, s.AllSucceed →
    ∃ qosi, exec (pcrfMakeQoSI reqInfo rule) s = (some qosi, s)
  limited : ∀ s qosi, (exec (pcrfMakeQoSI reqInfo rule) s).1 = some qosi → ∀ b : Bitrate,
    leavesOf b.dict qosi.children = b.expected reqInfo rule

/-! ### What is put into QoS-Information -/

section Leaves

variable {dict : Dict}

theorem leavesOf_append (avps more : List Avp) :
    leavesOf dict (avps ++ more) = leavesOf dict avps ++ leavesOf dict more :=
  List.filterMap_append

/-- What is added, if it is, are these values of the AVP. -/
def AddsLeaves (dict : Dict) (values : List AvpValue) (part : Part) : Prop :=
  ∀ children, Maintains (fun _ => True)
    (fun avps => leavesOf dict avps = leavesOf dict children ++ values) (part children)

theorem addsLeaves_putLeaf {d : Dict} {value : AvpValue} :
    AddsLeaves dict (if d = dict then [value] else []) (putLeaf d value) := by
  intro children
  refine (Maintains.any _).bind fun _ _ => (Maintains.any _).bind fun _ _ =>
    (Maintains.any _).bind fun _ _ => Maintains.pure ?_
  rw [leavesOf_append]
  by_cases h : d = dict <;> simp [leavesOf, h]

theorem addsLeaves_putValue {α : Type} {o : OtlValue α} {d : Dict} {value : α → AvpValue} :
    AddsLeaves dict (if d = dict then (o.toOption.map value).toList else [])
      (putValue o d value) := by
  cases hnull : o.null with
  | true =>
    intro children
    simp only [putValue, OtlValue.isNull, OtlValue.toOption, hnull, if_true, Option.map_none,
      Option.toList_none, ite_self]
    exact Maintains.pure (List.append_nil _).symm
  | false =>
    simp only [putValue, OtlValue.isNull, OtlValue.toOption, hnull, Bool.false_eq_true, if_false,
      Option.map_some, Option.toList_some]
    exact addsLeaves_putLeaf

theorem addsLeaves_putGroup {d : Dict} {parts : List Part} :
    AddsLeaves dict [] (putGroup d parts) := by
  intro children
  refine (Maintains.any _).bind fun _ _ => (Maintains.any _).bind fun inner _ =>
    (Maintains.any _).bind fun _ _ => Maintains.pure ?_
  rw [leavesOf_append]
  rfl

theorem AddsLeaves.nil : AddsLeaves dict [] (runAll []) :=
  fun _ => Maintains.pure (List.append_nil _).symm

theorem AddsLeaves.cons {values more : List AvpValue} {part : Part} {parts : List Part}
    (h : AddsLeaves dict values part) (hparts : AddsLeaves dict more (runAll parts)) :
    AddsLeaves dict (values ++ more) (runAll (part :: parts)) := by
  intro children
  refine (h children).bind fun avps havps => ?_
  have hmore := hparts avps
  rwa [havps, List.append_assoc] at hmore

end Leaves

section QoSI

variable (reqInfo : Option SRequestInfo) (rule : SDBAbonRule)

/-- The values that `pcrf_make_QoSI` gives a bitrate. -/
def Bitrate.emitted (b : Bitrate) : List AvpValue :=
  let apn : OtlValue UInt32 :=
    match b with
    | guaranteedBitrateDL => apnBitrateOfNull reqInfo (·.coAPNAggregateMaxBitrateDL)
    | b => apnBitrate reqInfo b.ofAPN
  ((b.ofRule rule).toOption.map fun value =>
    .u32 (limitedBy (limitedBy value (requested reqInfo b.ofRequest)) apn)).toList

theorem makeQoSI_leaves (b : Bitrate) : Maintains (fun _ => True)
    (fun qosi => leavesOf b.dict qosi.children = b.emitted reqInfo rule)
    (pcrfMakeQoSI reqInfo rule) := by
  refine (Maintains.any _).bind fun _ _ => Maintains.bind
    (AddsLeaves.cons addsLeaves_putValue (AddsLeaves.cons addsLeaves_putValue
      (AddsLeaves.cons addsLeaves_putValue (AddsLeaves.cons addsLeaves_putValue
        (AddsLeaves.cons addsLeaves_putValue
          (AddsLeaves.cons addsLeaves_putGroup AddsLeaves.nil))))) [])
    fun children hchildren => Maintains.pure (hchildren.trans ?_)
  -- of the AVPs only the one of the bitrate counts
  cases b <;>
    simp only [Bitrate.dict, leavesOf, List.filterMap_nil, reduceCtorEq, if_false, if_true,
      List.append_nil, List.nil_append] <;>
    rfl

variable {reqInfo rule}

theorem limits_foldl (b : Bitrate) (value : UInt32) :
    (b.limits reqInfo).foldl min value =
      limitedBy (limitedBy value (requested reqInfo b.ofRequest)) (apnBitrate reqInfo b.ofAPN) := by
  cases reqInfo with
  | none => rfl
  | some req =>
    simp only [Bitrate.limits, Option.toList_some, List.flatMap_singleton, List.foldl_append,
      limitedBy_eq, requested, apnBitrate, Option.map_some, Option.getD_some]
    cases hnull : req.coQoSInformation.null with
    | true => simp [OtlValue.isNull, OtlValue.toOption, OtlValue.empty, hnull]
    | false => simp [OtlValue.isNull, OtlValue.toOption, hnull]

theorem emitted_of_ne {b : Bitrate} (h : b ≠ .guaranteedBitrateDL) :
    b.emitted reqInfo rule = b.expected reqInfo rule := by
  cases b with
  | guaranteedBitrateDL => exact absurd rfl h
  | maxRequestedBandwidthUL | maxRequestedBandwidthDL | guaranteedBitrateUL =>
    simp only [Bitrate.expected, limits_foldl]
    rfl

/-- Where Guaranteed-Bitrate-DL differs from the others does not matter: the rule does not have
it, or the bitrate of the access point is not below the values of the rule and the request. -/
def DownlinkApart (reqInfo : Option SRequestInfo) (rule : SDBAbonRule) : Prop :=
  ∀ value, rule.coGuaranteedBitrateDl.toOption = some value →
    ∀ req, reqInfo = some req →
      ∀ rate, req.coQoSInformation.v.coAPNAggregateMaxBitrateDL.toOption = some rate →
        value ≤ rate ∨
          ∃ requested, req.coGuaranteedBitrateDl.toOption = some requested ∧ requested ≤ rate

theorem emitted_downlink_iff :
    Bitrate.guaranteedBitrateDL.emitted reqInfo rule =
        Bitrate.guaranteedBitrateDL.expected reqInfo rule ↔
      DownlinkApart reqInfo rule := by
  simp only [Bitrate.emitted, Bitrate.expected, limits_foldl, Bitrate.ofRule]
  cases hrule : rule.coGuaranteedBitrateDl.toOption with
  | none => simp [DownlinkApart, hrule]
  | some value =>
    cases reqInfo with
    | none => simp [DownlinkApart, apnBitrate, apnBitrateOfNull, requested]
    | some req =>
      have apart : DownlinkApart (some req) rule ↔
          limitedBy (limitedBy value req.coGuaranteedBitrateDl)
            req.coQoSInformation.v.coAPNAggregateMaxBitrateDL =
              limitedBy value req.coGuaranteedBitrateDl := by
        simp only [DownlinkApart, hrule, Option.some.injEq, forall_eq', limitedBy_eq_self_iff,
          limitedBy_le_iff]
      have unlimited (v : UInt32) : limitedBy v .empty = v := rfl
      rw [apart]
      simp only [Option.map_some, Option.toList_some, List.cons.injEq, and_true,
        AvpValue.u32.injEq, requested, apnBitrate, apnBitrateOfNull, Option.getD_some,
        Bitrate.ofRequest, Bitrate.ofAPN]
      -- one of the two sides reads the bitrate, the other one nothing
      cases req.coQoSInformation.isNull with
      | true => simp only [if_true, unlimited]
      | false =>
        simp only [Bool.false_eq_true, if_false, unlimited]
        exact eq_comm

end QoSI

section Limited

variable (reqInfo : Option SRequestInfo) (rule : SDBAbonRule)

/-- All bitrates are limited, but for the downlink one that is guaranteed. -/
theorem limitsBitrates_iff : LimitsBitrates reqInfo rule ↔ DownlinkApart reqInfo rule := by
  rw [← emitted_downlink_iff]
  constructor
  · intro limits
    obtain ⟨qosi, hmade⟩ := limits.made ⟨fun _ => true, {}⟩ rfl
    have hsome : (exec (pcrfMakeQoSI reqInfo rule) ⟨fun _ => true, {}⟩).1 = some qosi := by
      rw [hmade]
    rw [← limits.limited _ qosi hsome .guaranteedBitrateDL]
    exact ((makeQoSI_leaves reqInfo rule _).gives _ trivial qosi hsome).symm
  · intro hdownlink
    refine ⟨fun s hs => exec_makeQoSI reqInfo rule hs, fun s qosi hsome b => ?_⟩
    rw [(makeQoSI_leaves reqInfo rule b).gives s trivial qosi hsome]
    by_cases hb : b = .guaranteedBitrateDL
    · rw [hb, hdownlink]
    · exact emitted_of_ne hb

end Limited

/-- A rule for 1000 down, when the access point has 500. -/
theorem not_limitsBitrates_downlink :
    ¬ ∀ (reqInfo : Option SRequestInfo) (rule : SDBAbonRule), LimitsBitrates reqInfo rule := by
  intro limits
  let req : SRequestInfo :=
    { coQoSInformation := .of { coAPNAggregateMaxBitrateDL := .of 500 } }
  let rule : SDBAbonRule := { coGuaranteedBitrateDl := .of 1000 }
  have sent := (limits (some req) rule).limited ⟨fun _ => true, {}⟩ _ rfl .guaranteedBitrateDL
  exact absurd sent (by decide)

end Pcrf
