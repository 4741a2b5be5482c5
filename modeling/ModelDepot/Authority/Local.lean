import ModelDepot.Authority.Call
import ModelDepot.Store

/-!
The authority that is kept in this process: registered topics, and grants under a topic and an id.
-/
namespace ModelDepot

structure Authority where
  topics : IdSet := ∅
  resources : Dict (Dict Grants) := ∅

namespace Authority

/-- The grants under a topic. -/
def grantsOf (a : Authority) (topic : String) : Dict Grants := (a.resources[topic]?).getD ∅

/-- The grants of one resource. -/
def grants? (a : Authority) (topic id : String) : Option Grants := (a.grantsOf topic)[id]?

/-- The ids with a grant under a topic, in order. -/
def ids (a : Authority) (topic : String) : List String := (a.grantsOf topic).keys

def isRegistered (a : Authority) (topic : String) : Bool := a.topics.contains topic

/-- Administrators may do everything with a resource that has grants. -/
def allows (caller : Caller) (permission : Permission) (grants : Grants) : Bool :=
  caller.isAdmin || grants.allowCaller caller permission

/-- The caller has the permission on a resource; nobody has one on a resource without grants. -/
def permits (a : Authority) (caller : Caller) (topic id : String) (permission : Permission) :
    Bool :=
  (a.grants? topic id).any (allows caller permission)

/-- The ids on which the caller has the permission, in order. -/
def accessibleIds (a : Authority) (caller : Caller) (topic : String) (permission : Permission) :
    List String :=
  ((a.grantsOf topic).toList.filter fun entry => allows caller permission entry.2).map (·.1)

def register (a : Authority) (registration : Registration) : Authority :=
  { a with topics := a.topics.insert registration.id }

def setGrants (a : Authority) (topic id : String) (grants : Grants) : Authority :=
  { a with resources := a.resources.insert topic ((a.grantsOf topic).insert id grants) }

def eraseGrants (a : Authority) (topic id : String) : Authority :=
  match a.resources[topic]? with
  | none => a
  | some ofTopic => { a with resources := a.resources.insert topic (ofTopic.erase id) }

/-- The answer to a call, and the state after it. -/
def respond (a : Authority) : (call : AuthorityCall) → Except AuthorityError call.Value × Authority
  | .setTopic registration => (.ok (), a.register registration)
  | .check caller topic id permission => (.ok (a.permits caller topic id permission), a)
  | .checkMany caller topic ids permission =>
    (.ok (ids.foldl (fun d id => d.insert id (a.permits caller topic id permission)) ∅), a)
  | .accessible caller topic page permission =>
    (.ok (page.cut (a.accessibleIds caller topic permission)), a)
  | .adminList topic page =>
    if a.isRegistered topic then (.ok (page.cut (a.ids topic)), a)
    else (.error (.unknownTopic topic), a)
  | .getResource topic id => (.ok (a.grants? topic id), a)
  | .setPermission topic id grants =>
    if a.isRegistered topic then (.ok (), a.setGrants topic id grants)
    else (.error (.unknownTopic topic), a)
  | .removeResource topic id => (.ok (), a.eraseGrants topic id)

end Authority

/-- A local authority whose failures can be arranged: an outage that lasts until it is lifted, or
    a number of calls that fail. -/
structure LocalAuthority where
  state : Authority := {}
  outage : Bool := false
  failuresLeft : Nat := 0

namespace LocalAuthority

/-- A call that is made to fail has no effect. -/
def respond (a : LocalAuthority) (call : AuthorityCall) :
    Except AuthorityError call.Value × LocalAuthority :=
  if a.outage then (.error (.unavailable "injected outage"), a)
  else if 0 < a.failuresLeft then
    (.error (.unavailable "injected failure"), { a with failuresLeft := a.failuresLeft - 1 })
  else
    let (answer, state) := a.state.respond call
    (answer, { a with state := state })

end LocalAuthority
end ModelDepot
