import Mathlib.Data.List.Induction
import Pcrf.ConfGrammar
import Pcrf.Lib.Blocks
import Pcrf.Lib.LastWrite
import Pcrf.Tracer

/-!
The actions of `app_pcrf_conf.y`: what the statements of a configuration leave in `g_psoConf`, with
the blocks of memory that its texts are in.
-/

namespace Pcrf

open Lib

/-! ### The state -/

/-- A pointer to a text is the block that it is in. -/
structure SAppPCRFConf where
  pszDBServer : Option Nat := none
  pszDBUser : Option Nat := none
  pszDBPswd : Option Nat := none
  pszDBDummyReq : Option Nat := none
  iDBPoolSize : Int32 := 0
  iDBPoolWait : Int32 := 0
  iDBReqInterval : Int32 := 0
  iOperateRefreshQueue : Int32 := 0
  iLook4StalledSession : Int32 := 0
  pszLogFileMask : Option Nat := none
  iTraceReq : Int32 := 0
  iGenerateCDR : Int32 := 0
  pszCDRMask : Option Nat := none
  pszCDRDir : Option Nat := none
  pszCDRComplDir : Option Nat := none
  iCDRInterval : Int32 := 0
  uiCCATimeoutSec : UInt32 := 0
  uiCCATimeoutUSec : UInt32 := 0
  uiMaxCCRHandlers : UInt32 := 0
  uiDefaultQuota : UInt32 := 0
  uiRefreshDefRuleIn : UInt32 := 0

/-- `app_pcrf_conf_init` -/
def appPcrfConfInit : SAppPCRFConf := {}

namespace SAppPCRFConf

def pointer (conf : SAppPCRFConf) : TextKey → Option Nat
  | .dbServer => conf.pszDBServer
  | .dbUser => conf.pszDBUser
  | .dbPswd => conf.pszDBPswd
  | .dbDummyRequest => conf.pszDBDummyReq
  | .logFileMask => conf.pszLogFileMask
  | .cdrMask => conf.pszCDRMask
  | .cdrDir => conf.pszCDRDir
  | .cdrCmplDir => conf.pszCDRComplDir

def setPointer (conf : SAppPCRFConf) (p : Option Nat) : TextKey → SAppPCRFConf
  | .dbServer => { conf with pszDBServer := p }
  | .dbUser => { conf with pszDBUser := p }
  | .dbPswd => { conf with pszDBPswd := p }
  | .dbDummyRequest => { conf with pszDBDummyReq := p }
  | .logFileMask => { conf with pszLogFileMask := p }
  | .cdrMask => { conf with pszCDRMask := p }
  | .cdrDir => { conf with pszCDRDir := p }
  | .cdrCmplDir => { conf with pszCDRComplDir := p }

/-- The number that a field has. -/
def number (conf : SAppPCRFConf) : IntegerKey → Int
  | .dbPoolSize => conf.iDBPoolSize.toInt
  | .dbPoolWait => conf.iDBPoolWait.toInt
  | .dbReqInterval => conf.iDBReqInterval.toInt
  | .operateRefreshQueue => conf.iOperateRefreshQueue.toInt
  | .look4stalledsession => conf.iLook4StalledSession.toInt
  | .traceReq => conf.iTraceReq.toInt
  | .genCdr => conf.iGenerateCDR.toInt
  | .cdrInterval => conf.iCDRInterval.toInt
  | .maxCcrHandlers => conf.uiMaxCCRHandlers.toNat
  | .defaultQuota => conf.uiDefaultQuota.toNat
  | .refreshDefRuleIn => conf.uiRefreshDefRuleIn.toNat

def setNumber (conf : SAppPCRFConf) (value : Int32) : IntegerKey → SAppPCRFConf
  | .dbPoolSize => { conf with iDBPoolSize := value }
  | .dbPoolWait => { conf with iDBPoolWait := value }
  | .dbReqInterval => { conf with iDBReqInterval := value }
  | .operateRefreshQueue => { conf with iOperateRefreshQueue := value }
  | .look4stalledsession => { conf with iLook4StalledSession := value }
  | .traceReq => { conf with iTraceReq := value }
  | .genCdr => { conf with iGenerateCDR := value }
  | .cdrInterval => { conf with iCDRInterval := value }
  | .maxCcrHandlers => { conf with uiMaxCCRHandlers := value.toUInt32 }
  | .defaultQuota => { conf with uiDefaultQuota := value.toUInt32 }
  | .refreshDefRuleIn => { conf with uiRefreshDefRuleIn := value.toUInt32 }

end SAppPCRFConf

/-- What the actions work on. -/
structure ConfState where
  psoConf : SAppPCRFConf := appPcrfConfInit
  blocks : Blocks QString := {}
  tracer : TracerState := {}
  selectors : SelectorParser := {}

/-! ### The actions -/

/-- What a field has when it is assigned an `int`. -/
def IntegerKey.assigned (value : Int32) : IntegerKey → Int
  | maxCcrHandlers | defaultQuota | refreshDefRuleIn => value.toUInt32.toNat
  | _ => value.toInt

/-- Where an action has the text from that it frees: the field that it assigns, but `cdr_dir` frees
that of the other directory. -/
def TextKey.freed : TextKey → TextKey
  | cdrDir => .cdrCmplDir
  | key => key

def TracerParam.condition : TracerParam → TracerCondition
  | endUserImsi value => .imsi value.text
  | endUserE164 value => .e164 value.text
  | applicationId value => .applicationId value.toUInt32
  | apn value => .apn value.text

namespace ConfState

/-- A text that is given up again after it was used. -/
def usedUp (state : ConfState) (value : QString) : Option ConfState :=
  ((state.blocks.malloc value).free (some state.blocks.next)).map
    fun blocks => { state with blocks := blocks }

def text (key : TextKey) (state : ConfState) (value : QString) : Option ConfState :=
  ((state.blocks.malloc value).free (state.psoConf.pointer key.freed)).map fun blocks =>
    { state with
      blocks := blocks
      psoConf := state.psoConf.setPointer (some state.blocks.next) key }

def integer (key : IntegerKey) (state : ConfState) (value : Int32) : ConfState :=
  { state with psoConf := state.psoConf.setNumber value key }

def ccaTimeout (state : ConfState) (value : Double) : ConfState :=
  { state with
    psoConf :=
      { state.psoConf with
        uiCCATimeoutUSec := value.microseconds
        uiCCATimeoutSec := value.seconds } }

def tracerparam (state : ConfState) (param : TracerParam) : Option ConfState :=
  let state := { state with tracer := pcrfTracerSetCondition state.tracer param.condition }
  match param with
  | .endUserImsi value | .endUserE164 value | .apn value => state.usedUp value
  | .applicationId _ => some state

def defaultRuleInfoParam (state : ConfState) (condition : SelectorParam × QString) :
    Option ConfState :=
  { state with selectors := state.selectors.defaultRuleInfoParam condition }.usedUp condition.2

/-- The action behind the conditions. The name is given up when there is a selector. -/
def addDefaultRule (state : ConfState) (statement : DefaultRuleStatement) (name : Nat) :
    Option ConfState :=
  match state.selectors.psoRuleSelector with
  | none => some state
  | some selector =>
    let map := pcrfDrsAddDefaultRule state.selectors.mapDefaultRule selector
      statement.strRuleName.text
    (state.blocks.free (some name)).map fun blocks =>
      { state with blocks := blocks, selectors := ⟨none, map⟩ }

/-- The name is allocated before the conditions are. -/
def defaultRule (state : ConfState) (statement : DefaultRuleStatement) : Option ConfState := do
  let name := state.blocks.next
  let state := { state with blocks := state.blocks.malloc statement.strRuleName }
  let state ← statement.defaultRuleInfo.foldlM defaultRuleInfoParam state
  state.addDefaultRule statement name

/-- None when a block is freed that is not allocated any more. -/
def statement (state : ConfState) : ConfStatement → Option ConfState
  | .text key value => state.text key value
  | .integer key value => some (state.integer key value)
  | .ccaTimeout value => some (state.ccaTimeout value)
  | .tracer tracerparams => tracerparams.foldlM tracerparam state
  | .defaultRule statement => state.defaultRule statement
  | .selectorParam _ => some state

/-- The actions of the statements that are reduced. -/
def statements (list : List ConfStatement) : Option ConfState := list.foldlM statement {}

end ConfState

end Pcrf
