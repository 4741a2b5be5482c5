import ModelDepot.Publish
import ModelDepot.Materialize
import ModelDepot.Json.Shape

/-!
What callers may do with process documents. Requests read the store and publish commands but
never write to it; applying a command is what writes. Administrators pass the checks on single
resources.
-/
namespace ModelDepot

/-- A request to publish a document or to withdraw it. -/
structure PublishChange where
  publish : Bool := false
  description : String := ""
  deriving DecidableEq, Repr

def PublishChange.shape : Json.Shape PublishChange where
  title := "PublicCommand"
  blank := {}
  members := [
    .flag "publish" (·.publish) fun b c => { c with publish := b },
    .text "description" (·.description) fun s c => { c with description := s }]

inductive ControlError where
  | forbidden
  | notFound (id : String)
  | badRequest (problem : String)
  | validation (problem : ValidationError)
  | store (problem : StoreError)
  | authority (problem : AuthorityError)
  | publish (problem : PublishError)
  deriving DecidableEq, Repr

namespace ControlError

def message : ControlError → String
  | forbidden => "access denied"
  | notFound id => "process " ++ Json.marked id ++ " not found"
  | badRequest problem => problem
  | validation problem => problem.message
  | store problem => problem.message
  | authority problem => problem.message
  | publish problem => problem.message

def causes : ControlError → List String
  | validation problem => [problem.message]
  | store problem => problem.message :: problem.causes
  | authority problem => problem.message :: problem.causes
  | publish problem => problem.message :: problem.causes
  | _ => []

/-- The status of an answer over HTTP. -/
def httpStatus : ControlError → Nat
  | forbidden => 403
  | notFound _ => 404
  | badRequest _ | validation _ => 400
  | store _ | authority _ | publish _ => 500

end ControlError

namespace Control

def askStore (call : StoreCall) : Program ControlError call.Value := Program.store .store call

def askAuthority (call : AuthorityCall) : Program ControlError call.Value :=
  Program.authority .authority call

/-- Makes the topic known to the authority. -/
def registerTopic (topic : String) : Program ControlError Unit := do
  askAuthority (.setTopic (.ofTopic topic))
  Program.report ⟨.info, "topic_register", "service", "ok", [("topic", topic)]⟩

/-- The caller has the permission on the resource. -/
def check (topic : String) (caller : Caller) (id : String) (permission : Permission) :
    Program ControlError Bool :=
  if caller.isAdmin then pure true else askAuthority (.check caller topic id permission)

/-- The document, for a caller with the permission. -/
def read (topic : String) (caller : Caller) (id : String) (permission : Permission) :
    Program ControlError Document := do
  if ← check topic caller id permission then
    match ← askStore (.get id) with
    | some document => return document
    | none => Program.fail (.notFound id)
  else Program.fail .forbidden

/-- The ids among which a caller may list: all for an administrator who names none, else those
    with the permission. -/
def visibleIds (topic : String) (caller : Caller) (ids : Option (List String))
    (permission : Permission) : Program ControlError (Option (List String)) :=
  match ids with
  | none =>
    if caller.isAdmin then pure none
    else some <$> askAuthority (.accessible caller topic {} permission)
  | some ids => do
    let allowed ← askAuthority (.checkMany caller topic ids permission)
    return some ((allowed.toList.filter (·.2)).map (·.1))

/-- The documents that the caller has the permission on. Named ids are listed in full. -/
def list (topic : String) (caller : Caller) (options : ListOptions) (permission : Permission) :
    Program ControlError DocumentPage := do
  let ids ← visibleIds topic caller options.ids permission
  let options := if options.ids.isSome then { options with limit := none, offset := 0 } else options
  askStore (.list { options with ids := ids })

def listPublished : Program ControlError (List Document) := askStore .listPublished

def validated (document : Document) : Program ControlError Unit :=
  Program.ofExcept .validation document.validateForPublish

def publish (channel : Channel) (command : Command) : Program ControlError Unit := do
  let _ ← (channel.publish command).mapError .publish

/-- Publishes a new document of the caller under a fresh id. -/
def create (channel : Channel) (caller : Caller) (document : Document) :
    Program ControlError Document := do
  let id ← Program.freshId
  let document := { document with id := id }
  validated document
  let now ← Program.now
  let document := { document with owner := caller.user, lastUpdated := now }
  publish channel (.put caller.user document)
  Program.report ⟨.debug, "process_create", "service", "ok", [("id", id)]⟩
  return document

/-- The owner of the stored document, or nothing when there is no document. -/
def storedOwner (topic : String) (caller : Caller) (id : String) : Program ControlError String := do
  match ← (read topic caller id .write).attempt with
  | .ok previous => return previous.owner
  | .error (.notFound _) => return ""
  | .error problem => Program.fail problem

/-- Publishes new content of a document, which keeps its owner. -/
def update (channel : Channel) (caller : Caller) (id : String) (document : Document) :
    Program ControlError Document := do
  if document.id ≠ id then Program.fail (.badRequest "path id does not match process id")
  else
    let owner ← storedOwner channel.topic caller id
    let document := { document with owner := if owner = "" then caller.user else owner }
    validated document
    let now ← Program.now
    let document := { document with lastUpdated := now }
    publish channel (.put caller.user document)
    return document

/-- The document after a change of its publication. -/
def changed (document : Document) (change : PublishChange) (now : Int64) : Document :=
  { document with
    publish := change.publish
    publishDate := toString now.toInt
    description := if change.publish then change.description else ""
    lastUpdated := now }

/-- Publishes the stored document with another state of publication. -/
def changePublication (channel : Channel) (caller : Caller) (id : String)
    (change : PublishChange) : Program ControlError Document := do
  let document ← read channel.topic caller id .write
  let now ← Program.now
  let document := changed document change now
  publish channel (.put caller.user document)
  return document

/-- Publishes the removal of a document. -/
def delete (channel : Channel) (caller : Caller) (id : String) : Program ControlError Unit := do
  if ← check channel.topic caller id .administrate then
    publish channel (.delete id caller.user)
  else Program.fail .forbidden

/-- Gives everything to the owner of a resource without grants, and answers whether it had none. -/
def seedGrant (topic owner id : String) : Program ControlError Bool := do
  match ← askAuthority (.getResource topic id) with
  | some _ => return false
  | none =>
    askAuthority (.setPermission topic id (.forOwner owner))
    Program.report ⟨.debug, "grant_seed", "service", "ok", [("id", id)]⟩
    return true

/-- Applies a command. The grant of a document is made sure of before it is stored and again
    after, since it may be taken away in between; that of a removed one is removed first. -/
def apply (topic : String) : Command → Program ControlError ApplyOutcome
  | .put owner document => do
    let _ ← seedGrant topic owner document.id
    (Materialize.upsert document).mapError .store
    if ← seedGrant topic owner document.id then
      Program.report ⟨.warn, "grant_seed", "service", "warn",
        [("id", document.id), ("reason", "removed_before_upsert")]⟩
    return .upserted
  | .delete id _ => do
    askAuthority (.removeResource topic id)
    (Materialize.remove id).mapError .store

end Control

/-- Why a record was not handled. -/
inductive HandlerError where
  | decode (problem : CodecError)
  | apply (problem : ControlError)
  | other (problem : String)
  deriving DecidableEq, Repr

namespace HandlerError

def message : HandlerError → String
  | decode problem => "unable to decode record: " ++ problem.message
  | apply problem => "unable to apply record: " ++ problem.message
  | other problem => "unable to apply record: " ++ problem

def causes : HandlerError → List String
  | decode problem => problem.message :: problem.causes
  | apply problem => problem.message :: problem.causes
  | other problem => [problem]

end HandlerError

/-- Decodes a record and applies its command; changes of rights are passed over. -/
def Control.handle (topic : String) (value : List UInt8) : Program HandlerError Unit := do
  match ← Program.ofExcept HandlerError.decode (Command.decode value) with
  | none =>
    Program.report ⟨.debug, "record_skip", "source", "ok", [("reason", "rights_command")]⟩
  | some command =>
    let outcome ← (Control.apply topic command).mapError .apply
    Program.report ⟨.debug, "command_apply", "source", "ok",
      [("kind", command.kind.label), ("id", command.id), ("outcome", outcome.name)]⟩

end ModelDepot
