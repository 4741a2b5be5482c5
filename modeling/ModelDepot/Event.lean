/-!
What the service reports while it works: lines of named values with a level.
-/
namespace ModelDepot

inductive Level where
  | error
  | warn
  | info
  | debug
  | trace
  deriving DecidableEq, Repr

namespace Level

/-- The level at the head of a line. -/
def label : Level → String
  | error => "ERROR"
  | warn => "WARN"
  | info => "INFO"
  | debug => "DEBUG"
  | trace => "TRACE"

/-- How far a level is from the most urgent one. -/
def rank : Level → Nat
  | error => 0
  | warn => 1
  | info => 2
  | debug => 3
  | trace => 4

/-- The level in settings. -/
def name : Level → String
  | error => "error"
  | warn => "warn"
  | info => "info"
  | debug => "debug"
  | trace => "trace"

end Level

/-- A line: what happened, in which part of the service, with which outcome, and details. -/
structure Event where
  level : Level
  name : String
  part : String
  status : String
  details : List (String × String) := []
  deriving DecidableEq, Repr

namespace Event

def field (key value : String) : String := key ++ "=" ++ value

/-- The text of the line without its level. -/
def text (e : Event) : String :=
  " ".intercalate
    (field "event" e.name :: field "module" e.part :: field "status" e.status ::
      e.details.map fun d => field d.1 d.2)

/-- The line. -/
def line (e : Event) : String := e.level.label ++ " " ++ e.text

/-- A length of time in milliseconds, which no text depends on. -/
def someDuration : String × String := ("duration_ms", "<n>")

end Event
end ModelDepot
