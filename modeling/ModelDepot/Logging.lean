import ModelDepot.Event
import ModelDepot.Json.Fault
import ModelDepot.Text.Cut

/-!
Where reports go: to the screen, or into a directory, which a path leads to. The level and the
destination are chosen once; choosing them again is accepted only when nothing changes.
-/
namespace ModelDepot

/-! ### Paths as texts -/

namespace Path

def isFromRoot (path : String) : Bool := path.startsWith "/"

/-- The parts of a path between its slashes. -/
def parts (path : String) : List String := (path.splitOn "/").filter (· != "")

/-- The names on a path, without those that mean the place itself. -/
def names (path : String) : List String := (parts path).filter (· != ".")

/-- A path as it is from the root, for a relative one below the given directory. -/
def below (directory path : String) : String :=
  if isFromRoot path then path
  else if directory.endsWith "/" then directory ++ path
  else directory ++ "/" ++ path

end Path

/-! ### Destinations -/

inductive Destination where
  | standardError
  | directory (path : String)
  deriving DecidableEq, Repr

def Destination.shown : Destination → String
  | .standardError => "stderr"
  | .directory path => path

/-- Two paths lead through the same names. -/
def Destination.same : Destination → Destination → Bool
  | .standardError, .standardError => true
  | .directory a, .directory b => Path.names a == Path.names b
  | _, _ => false

inductive LoggingError where
  | unsupportedLevel (level : String)
  | invalidDirectory (problem : String)
  | createDirectory (path problem : String)
  | conflict (active requested : String)
  deriving DecidableEq, Repr

namespace LoggingError

def message : LoggingError → String
  | unsupportedLevel level =>
    "unsupported log level " ++ Json.marked level ++ "; expected trace|debug|info|warn|error"
  | invalidDirectory problem => "invalid log_dir: " ++ problem
  | createDirectory path problem =>
    "unable to create log directory " ++ Json.marked path ++ ": " ++ problem
  | conflict active requested =>
    "logging already initialized as " ++ Json.marked active ++ "; refusing to switch to " ++
      Json.marked requested

def causes : LoggingError → List String
  | createDirectory _ problem => [problem]
  | _ => []

end LoggingError

/-- The levels by name, one of which has two. -/
def Level.choices : List (String × Level) := [("trace", .trace), ("debug", .debug),
  ("info", .info), ("warn", .warn), ("warning", .warn), ("error", .error)]

/-- What was chosen. -/
structure Logging where
  level : Level
  destination : Destination
  deriving DecidableEq, Repr

namespace Logging

/-- The level of a build in which everything is checked. -/
def defaultLevel : Level := .debug

/-- Events of the chosen level and of more urgent ones are written. -/
def admits (l : Logging) (event : Event) : Bool := event.level.rank ≤ l.level.rank

def shown (l : Logging) : String := l.level.name ++ "@" ++ l.destination.shown

def parseLevel (text : String) : Except LoggingError Level :=
  let word := Text.asciiLower (Text.trim text)
  match Level.choices.lookup word with
  | some level => .ok level
  | none => .error (.unsupportedLevel word)

/-- A directory must be given from the root. -/
def parseDirectory (text : String) : Except LoggingError Destination :=
  let path := Text.trim text
  if path = "" then .error (.invalidDirectory "empty path")
  else if Path.isFromRoot path then .ok (.directory path)
  else .error (.invalidDirectory (Json.marked path ++ " is not absolute"))

/-- Makes the choice, unless another one was made before; a directory is made where it is missing,
    which may fail with a problem. -/
def init (active : Option Logging) (level : String) (directory : Option String)
    (makeDirectory : String → Option String) : Except LoggingError Logging := do
  let level ← parseLevel level
  let destination ← match directory with
    | some text => parseDirectory text
    | none => pure .standardError
  let requested : Logging := ⟨level, destination⟩
  match active with
  | some chosen =>
    if chosen.level = level && chosen.destination.same destination then return chosen
    else throw (.conflict chosen.shown requested.shown)
  | none =>
    match destination with
    | .standardError => return requested
    | .directory path =>
      match makeDirectory path with
      | some problem => throw (.createDirectory path problem)
      | none => return requested

/-- The number of characters that are shown of what a crash says. -/
def shownOfCrash : Nat := 160

/-- A text on one line, cut when it is too long. -/
def oneLine (text : String) : String :=
  let flat := text.toList.map fun c => if c = '\n' || c = '\r' then ' ' else c
  let cut := String.ofList (flat.take shownOfCrash)
  if shownOfCrash < flat.length then cut ++ "..." else cut

/-- What is reported of a crash, which may say something. -/
def crashEvent (said : Option String) : Event :=
  ⟨.error, "panic_captured", "core", "error",
    [("payload", oneLine (said.getD "non-string panic payload"))]⟩

end Logging
end ModelDepot
