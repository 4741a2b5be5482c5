import ModelDepot.Program
import ModelDepot.Command

/-!
Publishing: a command is encoded and appended to the log of its topic under its id.
-/
namespace ModelDepot

inductive PublishError where
  | emptyId
  | encode (problem : CodecError)
  | log (problem : LogError)
  deriving DecidableEq, Repr

/-- What lies behind the error, outermost first. -/
def CodecError.causes : CodecError → List String
  | .json fault => [fault.message]
  | _ => []

namespace PublishError

def message : PublishError → String
  | emptyId => "refusing to publish a command without id"
  | encode problem => "unable to encode command: " ++ problem.message
  | log problem => "unable to publish command: " ++ problem.message

def causes : PublishError → List String
  | emptyId => []
  | encode problem => problem.message :: problem.causes
  | log problem => [problem.message]

/-- A command without id is refused in one way, wherever that is found out. -/
def ofCodec : CodecError → PublishError
  | .emptyId => emptyId
  | problem => encode problem

end PublishError

/-- Where commands go, and whether every one is reported. -/
structure Channel where
  topic : String
  debug : Bool := false
  deriving DecidableEq, Repr

/-- The bytes under which a resource is kept in the log. -/
def logKey (id : String) : List UInt8 := Json.utf8 id

namespace Channel

def startEvent (channel : Channel) (command : Command) (bytes : Nat) : Event where
  level := .debug
  name := "command_publish"
  part := "source"
  status := "start"
  details := [("topic", channel.topic), ("kind", command.kind.label), ("id", command.id),
    ("bytes", toString bytes)]

def failureEvent (channel : Channel) (command : Command) (problem : LogError) : Event where
  level := .error
  name := "command_publish"
  part := "source"
  status := "error"
  details := [("topic", channel.topic), ("kind", command.kind.label), ("id", command.id),
    ("error", problem.message)]

/-- Appends a command and answers its partition and offset. -/
def publish (channel : Channel) (command : Command) : Program PublishError (Nat × Nat) := do
  if Text.allBlank command.id then Program.fail .emptyId
  else
    let value ← Program.ofExcept PublishError.ofCodec command.encode
    if channel.debug then Program.report (channel.startEvent command value.length)
    let position ← Program.attempt (Program.append id channel.topic (logKey command.id) value)
    match position with
    | .ok position => return position
    | .error problem =>
      Program.report (channel.failureEvent command problem)
      Program.fail (.log problem)

end Channel
end ModelDepot
