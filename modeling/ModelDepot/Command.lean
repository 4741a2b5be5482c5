import ModelDepot.Document

/-!
Commands on process documents and the record of a command in the log. A record with a blank id is
neither written nor accepted, so reading what was written gives the command back.
-/
namespace ModelDepot

inductive CommandKind where
  | put
  | delete
  deriving DecidableEq, Repr

def CommandKind.label : CommandKind → String
  | .put => "PUT"
  | .delete => "DELETE"

/-- Stores a document, or removes one. -/
inductive Command where
  | put (owner : String) (document : Document)
  | delete (id : String) (owner : String)
  deriving DecidableEq, Repr

inductive CodecError where
  | json (fault : Json.Fault)
  | unknownCommand (name : String)
  | missingPayload (id : String)
  | emptyId
  | idMismatch (recordId payloadId : String)
  deriving DecidableEq, Repr

def CodecError.message : CodecError → String
  | .json fault => "malformed command record: " ++ fault.message
  | .unknownCommand name => "unable to handle command " ++ Json.marked name
  | .missingPayload id => "PUT command for " ++ Json.marked id ++ " has no process model"
  | .emptyId => "command record has no resource id"
  | .idMismatch recordId payloadId =>
    "command id " ++ Json.marked recordId ++ " does not match process model id " ++
      Json.marked payloadId

namespace Command

/-- The resource that the command is about. -/
def id : Command → String
  | .put _ document => document.id
  | .delete id _ => id

def owner : Command → String
  | .put owner _ => owner
  | .delete _ owner => owner

def kind : Command → CommandKind
  | .put .. => .put
  | .delete .. => .delete

end Command

/-- The members of a command in the log. -/
structure CommandRecord where
  command : String := ""
  id : String := ""
  owner : String := ""
  document : Option Document := none
  deriving DecidableEq, Repr

namespace CommandRecord

def shape : Json.Shape CommandRecord where
  title := "CommandRecord"
  blank := {}
  members := [
    (Json.Member.text "command" (·.command) fun s r => { r with command := s }).needed,
    .text "id" (·.id) fun s r => { r with id := s },
    .text "owner" (·.owner) fun s r => { r with owner := s },
    (Json.Member.optional "processmodel" Document.shape.read Document.shape.print (·.document)
      fun d r => { r with document := d }).alsoNamed "payload"]

def ofCommand : Command → CommandRecord
  | .put owner document => ⟨CommandKind.put.label, document.id, owner, some document⟩
  | .delete id owner => ⟨CommandKind.delete.label, id, owner, none⟩

/-- The document of a record under one id: a document without id takes that of the record. -/
def identified (record : CommandRecord) (document : Document) : Except CodecError Document :=
  if document.id = "" then .ok { document with id := record.id }
  else if record.id ≠ "" && record.id ≠ document.id then
    .error (.idMismatch record.id document.id)
  else .ok document

/-- The command of a record, or nothing for a change of rights, which is passed over. -/
def toCommand (record : CommandRecord) : Except CodecError (Option Command) :=
  if record.command = CommandKind.put.label then
    match record.document with
    | none => .error (.missingPayload record.id)
    | some document => do
      let document ← record.identified document
      if Text.allBlank document.id then throw .emptyId
      return some (.put record.owner document)
  else if record.command = CommandKind.delete.label then
    if Text.allBlank record.id then .error .emptyId
    else .ok (some (.delete record.id record.owner))
  else if record.command = "RIGHTS" then .ok none
  else .error (.unknownCommand record.command)

end CommandRecord

namespace Command

/-- The bytes of the command in the log. -/
def encode (command : Command) : Except CodecError (List UInt8) :=
  if Text.allBlank command.id then .error .emptyId
  else .ok (Json.utf8 (CommandRecord.shape.print (.ofCommand command)))

/-- The command in the bytes, or nothing for a record that is passed over. -/
def decode (bytes : List UInt8) : Except CodecError (Option Command) :=
  match CommandRecord.shape.parse bytes with
  | .error fault => .error (.json fault)
  | .ok record => record.toCommand

end Command
end ModelDepot
