import Mathlib.Data.Char
import Mathlib.Data.List.Lex
import Pcrf.Lib.Store
import Pcrf.Types

/-!
`pcrf_session_cache_index.cpp`: the index of sessions by Framed-IP-Address, the one by
subscriber-id, and the two maps that link a session to its parent session.
-/

namespace Pcrf

open Lib

/-- The order `std::set<std::string>` keeps its elements in. -/
def stringLe (a b : String) : Prop := a.toList ≤ b.toList

instance : DecidableRel stringLe := fun a b => inferInstanceAs (Decidable (a.toList ≤ b.toList))

/-! ### Framed-IP-Address index -/

def pcrfSessionCacheIndexFrameIPAddressInsertSession (mapFramedIPIndex : Index String String)
    (framedIPAddress sessionId : String) : Index String String :=
  mapFramedIPIndex.push framedIPAddress sessionId

def pcrfSessionCacheIndexFrameIPAddressRemoveSession (mapFramedIPIndex : Index String String)
    (framedIPAddress sessionId : String) : Index String String :=
  mapFramedIPIndex.purge framedIPAddress sessionId

/-- The list is left empty when the address is not found. -/
def pcrfSessionCacheIndexFrameIPAddressGetSessionList (mapFramedIPIndex : Index String String)
    (framedIPAddress : String) : List String :=
  mapFramedIPIndex.entries framedIPAddress

/-! ### subscriber-id index -/

def pcrfSessionCacheIndexSubscriberIdInsertSession (mapSubscriberId : Index String String)
    (subscriberId sessionId : String) : Index String String :=
  mapSubscriberId.insertSet stringLe subscriberId sessionId

def pcrfSessionCacheRmSubscriberSessionId (mapSubscriberId : Index String String)
    (subscriberId sessionId : String) : Index String String :=
  mapSubscriberId.purge subscriberId sessionId

/-- `none` models the code `ENODATA`: the subscriber has no entry at all. -/
def pcrfSessionCacheGetSubscriberSessionId (mapSubscriberId : Index String String)
    (subscriberId : String) : Option (List String) :=
  mapSubscriberId subscriberId

/-! ### Linked sessions -/

/-- `g_mapParent` lists the children of a session, `g_mapChild` names its parent. -/
structure SessionLinks where
  mapParent : Index String String := Store.empty
  mapChild : Store String String := Store.empty

def pcrfSessionCacheMkParent2child (mapParent : Index String String)
    (sessionId parentSessionId : String) : Index String String :=
  mapParent.push parentSessionId sessionId

def pcrfSessionCacheRmParent2childLink (mapParent : Index String String)
    (sessionId parentSessionId : String) : Index String String :=
  mapParent.purge parentSessionId sessionId

def pcrfSessionCacheMkLink2parent (links : SessionLinks) (sessionId : String)
    (parentSessionId : Option String) : SessionLinks :=
  match parentSessionId with
  | none => links
  | some parent =>
    let mapParent := pcrfSessionCacheMkParent2child links.mapParent sessionId parent
    match links.mapChild sessionId with
    | none => { mapParent, mapChild := links.mapChild.set sessionId parent }
    | some previous =>
      if previous = parent then { links with mapParent }
      else
        let mapParent := pcrfSessionCacheRmParent2childLink mapParent sessionId previous
        { mapParent := pcrfSessionCacheMkParent2child mapParent sessionId parent
          mapChild := links.mapChild.set sessionId parent }

/-- Erase the child entries of `children` that point to `sessionId`, one after another. -/
def eraseChildren (sessionId : String) (mapChild : Store String String)
    (children : List String) : Store String String :=
  children.foldl (fun m c => if m c = some sessionId then m.erase c else m) mapChild

def pcrfSessionCacheRemoveLink (links : SessionLinks) (sessionId : String) : SessionLinks :=
  match links.mapParent sessionId with
  -- a session with an entry in `g_mapParent` is never looked up as a child
  | some children =>
    { mapParent := links.mapParent.erase sessionId
      mapChild := eraseChildren sessionId links.mapChild children }
  | none =>
    match links.mapChild sessionId with
    | some parent =>
      { mapParent := pcrfSessionCacheRmParent2childLink links.mapParent sessionId parent
        mapChild := links.mapChild.erase sessionId }
    | none => links

/-- `none` models `ENODATA`; a known parent session may have an empty list. -/
def pcrfSessionCacheGetLinkedChildSessionList (links : SessionLinks) (sessionId : String) :
    Option (List String) :=
  links.mapParent sessionId

def pcrfSessionCacheGetLinkedParentSession (links : SessionLinks) (sessionId : String) :
    Option String :=
  links.mapChild sessionId

end Pcrf
