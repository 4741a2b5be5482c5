import ModelDepot.Authority.Call
import ModelDepot.Http.Url
import ModelDepot.Event

/-!
The authority behind an address on the web. A call becomes at most one request; its answer is
read from the status and the body of the response.
-/
namespace ModelDepot

inductive Method where
  | get
  | put
  | delete
  deriving DecidableEq, Repr

structure Request where
  method : Method
  url : Http.Url
  authorization : String
  body : Option String := none
  deriving DecidableEq, Repr

/-- A response; a body that breaks off cannot be read. -/
structure Response where
  status : Nat
  body : Option (List UInt8)
  deriving DecidableEq, Repr

structure RemoteAuthority where
  base : Http.Url
  adminToken : String
  deriving DecidableEq, Repr

namespace RemoteAuthority

/-- The authority at an address below which there can be others. -/
def «at» (url adminToken : String) : Except AuthorityError RemoteAuthority :=
  match Http.Url.parse url with
  | .error problem => .error (.invalidUrl problem.message)
  | .ok base =>
    if base.cannotBeBase then
      .error (.invalidUrl (Json.marked base.render ++ " cannot be used as a base url"))
    else .ok ⟨base, adminToken⟩

/-- The address of a resource below the base. -/
def url (a : RemoteAuthority) (segments : List String) : Http.Url :=
  (a.base.below? segments).getD a.base

/-- The pairs that ask for a page. -/
def pagePairs (page : Page) : List (String × String) :=
  (if 0 < page.limit then [("limit", toString page.limit)] else []) ++
    (if 0 < page.offset then [("offset", toString page.offset)] else [])

/-- The request for a call; a check of no ids needs none. -/
def request? (a : RemoteAuthority) : AuthorityCall → Option Request
  | .setTopic registration =>
    some ⟨.put, a.url ["admin", "topics", registration.id], a.adminToken,
      some (Registration.shape.print registration)⟩
  | .check caller topic id permission =>
    some ⟨.get, a.url ["check", topic, id, permission.code], caller.token, none⟩
  | .checkMany caller topic ids permission =>
    if ids.isEmpty then none
    else
      let pairs := [("ids", ",".intercalate ids), ("permissions", permission.code)]
      some ⟨.get, (a.url ["check", topic]).withPairs pairs, caller.token, none⟩
  | .accessible caller topic page permission =>
    let pairs := pagePairs page ++ [("permissions", permission.code)]
    some ⟨.get, (a.url ["accessible", topic]).withPairs pairs, caller.token, none⟩
  | .adminList topic page =>
    some ⟨.get, (a.url ["admin", "resources", topic]).withPairs (pagePairs page), a.adminToken,
      none⟩
  | .getResource topic id => some ⟨.get, a.url ["manage", topic, id], a.adminToken, none⟩
  | .setPermission topic id grants =>
    some ⟨.put, a.url ["manage", topic, id], a.adminToken, some (Grants.shape.print grants)⟩
  | .removeResource topic id => some ⟨.delete, a.url ["manage", topic, id], a.adminToken, none⟩

def isSuccess (status : Nat) : Bool := 200 ≤ status && status ≤ 299

/-- The largest number of characters of a response that is shown in an error. -/
def maxShown : Nat := 512

def statusError (response : Response) : AuthorityError :=
  let text := match response.body with
    | some bytes => String.ofList ((Text.lossy bytes).toList.take maxShown)
    | none => ""
  .status response.status text

/-- The value in the body of a response; nothing when there is no such resource. -/
def fetched {α : Type} (read : Json.Reader α) (response : Response) :
    Except AuthorityError (Option α) :=
  if response.status = 404 then .ok none
  else if !isSuccess response.status then .error (statusError response)
  else
    match response.body with
    | none => .error .transport
    | some bytes =>
      match read.parse bytes with
      | .ok value => .ok (some value)
      | .error fault => .error (.decode fault.message)

/-- A response from which only success is wanted. -/
def executed (response : Response) (allowMissing : Bool) : Except AuthorityError Unit :=
  if isSuccess response.status || (allowMissing && response.status = 404) then .ok ()
  else .error (statusError response)

/-- The answer to a call in a response. -/
def answer : (call : AuthorityCall) → Response → Except AuthorityError call.Value
  | .setTopic _, response => executed response false
  | .check .., response => return (← fetched Json.Reader.flag response).getD false
  | .checkMany .., response =>
    return (← fetched (Json.Reader.dict Json.Reader.flag) response).getD ∅
  | .accessible .., response =>
    return (← fetched (Json.Reader.sequence Json.Reader.text) response).getD []
  | .adminList topic _, response => do
    match ← fetched (Json.Reader.sequence Json.Reader.text) response with
    | some ids => return ids
    | none => throw (.unknownTopic topic)
  | .getResource .., response => fetched Grants.shape.read response
  | .setPermission .., response => executed response false
  | .removeResource .., response => executed response true

/-- What a call without a request is answered with. -/
def unasked : (call : AuthorityCall) → Except AuthorityError call.Value
  | .checkMany .. => .ok ∅
  | _ => .error .transport

/-- The answer to a call through a network that may not deliver a response. -/
def respond (a : RemoteAuthority) (network : Request → Option Response) (call : AuthorityCall) :
    Except AuthorityError call.Value :=
  match a.request? call with
  | none => unasked call
  | some request =>
    match network request with
    | none => .error .transport
    | some response => answer call response

/-- What is reported before a call. -/
def reportBefore : AuthorityCall → Option Event
  | .setTopic registration =>
    some ⟨.debug, "authority_set_topic", "authority", "start", [("topic", registration.id)]⟩
  | _ => none

end RemoteAuthority
end ModelDepot
