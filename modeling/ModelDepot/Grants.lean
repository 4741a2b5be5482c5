import ModelDepot.Permission

/-!
Who makes a request, and the grants on one resource: rights by user, by group and by role. A caller
may do what any of them allows.
-/
namespace ModelDepot

structure Caller where
  user : String := ""
  token : String := ""
  groups : List String := []
  roles : List String := []
  deriving DecidableEq, Repr

/-- The role that lifts the checks on single resources. -/
def adminRole : String := "admin"

def Caller.isAdmin (caller : Caller) : Bool := caller.roles.contains adminRole

structure Grants where
  users : Dict Rights := ∅
  groups : Dict Rights := ∅
  roles : Dict Rights := ∅
  deriving DecidableEq

namespace Grants

/-- Everything to one user. -/
def forOwner (owner : String) : Grants := { users := (∅ : Dict Rights).insert owner Rights.full }

/-- The subject has the permission in the table. -/
def allowedIn (table : Dict Rights) (permission : Permission) (subject : String) : Bool :=
  match table[subject]? with
  | some rights => rights.allow permission
  | none => false

def allow (grants : Grants) (user : String) (groups roles : List String)
    (permission : Permission) : Bool :=
  allowedIn grants.users permission user ||
    groups.any (allowedIn grants.groups permission) ||
    roles.any (allowedIn grants.roles permission)

/-- The caller is allowed as a user, as a member of a group or in a role. -/
def allowCaller (grants : Grants) (caller : Caller) (permission : Permission) : Bool :=
  grants.allow caller.user caller.groups caller.roles permission

def shape : Json.Shape Grants where
  title := "ResourcePermissions"
  blank := {}
  members := [
    .dict "user_permissions" Rights.shape.read Rights.shape.print (·.users)
      fun d g => { g with users := d },
    .dict "group_permissions" Rights.shape.read Rights.shape.print (·.groups)
      fun d g => { g with groups := d },
    .dict "role_permissions" Rights.shape.read Rights.shape.print (·.roles)
      fun d g => { g with roles := d }]

end Grants

/-- How a topic is made known to the authority. -/
structure Registration where
  id : String
  publishTo : String
  deriving DecidableEq, Repr

namespace Registration

/-- A topic is registered under its own name and published to it. -/
def ofTopic (topic : String) : Registration := ⟨topic, topic⟩

def shape : Json.Shape Registration where
  title := "TopicRegistration"
  blank := ⟨"", ""⟩
  members := [
    (Json.Member.text "id" (·.id) fun s r => { r with id := s }).needed,
    (Json.Member.text "publish_to_kafka_topic" (·.publishTo)
      fun s r => { r with publishTo := s }).needed]

end Registration

/-- A cut of a listing: at most `limit` entries, all of them when it is zero, after the first
    `offset`. -/
structure Page where
  limit : Nat := 0
  offset : Nat := 0
  deriving DecidableEq, Repr

/-- The entries on the page. -/
def Page.cut {α : Type} (page : Page) (entries : List α) : List α :=
  let rest := entries.drop page.offset
  if page.limit = 0 then rest else rest.take page.limit

end ModelDepot
