import Pcrf.Lib.Mirror
import Pcrf.Lib.Machine
import Pcrf.RefreshRules

/-!
The rules that the session rule cache lists and the rules that the gateway has, when answers and
Re-Auth-Requests are still on the way to it and it may lose rules by itself: what the two know of
each other in every order of requests, refreshes and deliveries.
-/

namespace Pcrf

open Lib CallM

/-! ### The system -/

/-- What a message tells the gateway about named rules: it removes before it installs. -/
def ruleUpdate (avps : List Avp) : Update String where
  removed := (namesIn .chargingRuleRemove avps).filter (· ≠ "")
  added := (namesIn .chargingRuleInstall avps).filter (· ≠ "")

/-- The issued rules, and for each session what the gateway has of it. -/
structure GxNet where
  store : RuleStore
  gateway : String → FarEnd String

namespace GxNet

def init : GxNet where
  store := {}
  gateway _ := FarEnd.empty

/-- The session rule cache and the gateway on one session. -/
def view (net : GxNet) (s : String) : Mirror String := ⟨net.store.rulesOf s, net.gateway s⟩

/-- The state in which a message is built, when no call will fail. -/
def building (net : GxNet) : Answering AnswerState where
  answers _ := true
  state := { store := net.store }

/-- A message goes to the gateway of its session. -/
def dispatch (gateway : String → FarEnd String) (sessionId : String) (avps : List Avp) :
    String → FarEnd String :=
  Function.update gateway sessionId ((gateway sessionId).send (ruleUpdate avps))

end GxNet

/-- What happens in the system. The active rules of an answer and what was gathered for it are
arbitrary: other requests and refreshes may have been served since they were read. -/
inductive GxAction where
  | store (sessInfo : SSessionInfo) (reqInfo : SRequestInfo)
  | answer (msg : SMsgDataForDB) (vectActive : List SDBAbonRule) (gathered : Gathered)
  | refresh (env : RefreshEnv) (refQueue : SRefQueue) (k : Nat) (sessionId : String)
      (bMKInstalled : Bool)
  | remove (sessionId : String)
  | deliver (sessionId : String)
  | lose (sessionId ruleName : String)

namespace GxNet

/-- The turn of a session in a refresh. -/
def refreshed (net : GxNet) (env : RefreshEnv) (refQueue : SRefQueue) (k : Nat)
    (sessionId : String) (bMKInstalled : Bool) : AnswerState :=
  (env.refreshSession refQueue k sessionId
    { bMKInstalled, answering := net.building }).2.answering.state

def step (net : GxNet) : GxAction → GxNet
  | .store sessInfo reqInfo =>
    { net with store := pcrfServerPolicyDbStore net.store sessInfo reqInfo }
  | .answer msg vectActive gathered =>
    -- the cache changes while the answer is built, before the answer is on its way
    let st := (exec (msg.answer vectActive gathered) net.building).2.state
    { store := st.store
      gateway := dispatch net.gateway msg.soSessInfo.strSessionId st.answer }
  | .refresh env refQueue k sessionId bMKInstalled =>
    let st := net.refreshed env refQueue k sessionId bMKInstalled
    { store := st.store
      gateway := st.sent.foldl (fun gateway rar => dispatch gateway rar.sessionId rar.avps)
        net.gateway }
  | .remove sessionId =>
    -- the session has ended on both sides
    { store :=
        { net.store with
          mapSessRuleLst :=
            pcrfSessionRuleCacheRemoveSessLocal net.store.mapSessRuleLst sessionId }
      gateway := Function.update net.gateway sessionId FarEnd.empty }
  | .deliver sessionId =>
    { net with
      gateway := Function.update net.gateway sessionId (net.gateway sessionId).deliver }
  | .lose sessionId ruleName =>
    { net with
      gateway := Function.update net.gateway sessionId ((net.gateway sessionId).lose ruleName) }

def machine : Machine GxNet GxAction where
  init := init
  step := step

end GxNet

namespace GxAction

/-- A request reports no rule of the session that its gateway will have. -/
def SparesRules (s : String) (net : GxNet) : GxAction → Prop
  | .store sessInfo reqInfo => sessInfo.strSessionId = s →
    ∀ name ∈ reportedRules sessInfo reqInfo, name ∉ (net.gateway s).settled
  | _ => True

end GxAction

/-! ### What a message changes on both sides -/

/-- What is closed for the unwanted rules and issued of the others, for the dialects that name
rules. -/
def changeRules (sessInfo : SSessionInfo) (gone : List String) (rules : List SDBAbonRule) :
    RuleStore → RuleStore :=
  insertAll sessInfo (issuedFor sessInfo.uiPeerDialect rules) ∘
    closeAll sessInfo (closedFor sessInfo.uiPeerDialect gone)

section Steps

variable {s : String} {net : GxNet}

end Steps

/-! ### Runs -/

section Runs

variable {s : String} {actions : List GxAction}

end Runs

/-! ### A session that loses rules -/

end Pcrf
