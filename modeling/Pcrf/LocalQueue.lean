import Pcrf.Lib.Multimap
import Pcrf.SessionIndex

/-!
The local queue of policy refreshes of `pcrf_client.cpp`, and the check for stalled sessions of
`pcrf_server.cpp` that fills it.
-/

namespace Pcrf

open Lib

/-- `g_mmapLocalRefreshQueue`: refreshes by the time they are due. -/
abbrev LocalRefreshQueue := Multimap Int SRefQueue

def pcrfLocalRefreshQueueAdd (mmapLocalRefreshQueue : LocalRefreshQueue) (tmTime : Int)
    (identifier : String) (identifierType action : Option String) : LocalRefreshQueue :=
  mmapLocalRefreshQueue.insert tmTime (.make identifier identifierType action)

/-- Append what is due at the clock value `now` and take it out of the queue. -/
def pcrfClientLoadLocalQueueData (mmapLocalRefreshQueue : LocalRefreshQueue) (now : Int)
    (listQueue : List SRefQueue) : List SRefQueue × LocalRefreshQueue :=
  (listQueue ++ (mmapLocalRefreshQueue.upTo now).map Prod.snd,
    mmapLocalRefreshQueue.eraseUpTo now)

/-- Queue `abort_session`, due at once, for every session found under the request's address;
an absent address is looked up by the value it carries. -/
def pcrfServerLook4stalledsession (mapFramedIPIndex : Index String String)
    (sessInfo : SSessionInfo) (mmapLocalRefreshQueue : LocalRefreshQueue) :
    LocalRefreshQueue :=
  (pcrfSessionCacheIndexFrameIPAddressGetSessionList mapFramedIPIndex
      sessInfo.coFramedIPAddress.v).foldl
    (fun queue sessionId =>
      pcrfLocalRefreshQueueAdd queue 0 sessionId (some "session_id") (some "abort_session"))
    mmapLocalRefreshQueue

/-! ### When a refresh is handed over -/

/-- At `now` one more refresh of this kind is handed over from `after` than from `before`. -/
def HandsOver (before after : LocalRefreshQueue) (refresh : SRefQueue) (now : Int) : Prop :=
  (pcrfClientLoadLocalQueueData before now []).1.count refresh <
    (pcrfClientLoadLocalQueueData after now []).1.count refresh

/-- A refresh that was added is handed over from when it is due. -/
theorem handsOver_add_iff (queue : LocalRefreshQueue) (tmTime : Int) (identifier : String)
    (identifierType action : Option String) (now : Int) :
    HandsOver queue (pcrfLocalRefreshQueueAdd queue tmTime identifier identifierType action)
      (.make identifier identifierType action) now ↔ tmTime ≤ now := by
  have hperm := ((queue.entries_insert_perm tmTime
    (SRefQueue.make identifier identifierType action)).filter fun entry => entry.1 ≤ now).map
      Prod.snd
  simp only [HandsOver, pcrfClientLoadLocalQueueData, pcrfLocalRefreshQueueAdd, List.nil_append,
    Multimap.upTo_eq_filter, hperm.count_eq]
  by_cases hdue : tmTime ≤ now <;> simp [hdue]

end Pcrf
