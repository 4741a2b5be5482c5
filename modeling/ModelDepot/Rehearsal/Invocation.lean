import ModelDepot.CommandLine
import ModelDepot.Rehearsal.Session

/-!
A run of the program from its arguments to its end.
-/
namespace ModelDepot.Rehearsal

structure Invocation where
  args : List String
  env : String → Option String := fun _ => none
  files : Files
  /-- The words for a problem with a file. -/
  fileProblem : FileProblem → String := FileProblem.message
  clock : Int64

/-- What a run leaves behind. -/
structure Report where
  ending : CommandLine.Ending
  /-- The events that were written, and where. -/
  logging : Option Logging := none
  events : List Event := []
  world : World

namespace Invocation

def surroundings (i : Invocation) : CommandLine.Surroundings where
  directory := i.files.directory
  env := i.env
  readFile path := (i.files.read path).mapError i.fileProblem
  makeDirectory path :=
    match i.files.makeDirectory path with
    | .ok _ => none
    | .error problem => some (i.fileProblem problem)

/-- A site that has no database. -/
def idle : Site :=
  { connection := { home := .memory "" }, authority := .inProcess {}, log := Log.new 1 }

/-- The surroundings in which nothing of this run is open yet. -/
def world (i : Invocation) (files : Files) : World :=
  { site := idle, storage := { files := files }, clock := i.clock }

/-- The files with the directory of the log, if it has one. -/
def filesWithLog (i : Invocation) (logging : Logging) : Files :=
  match logging.destination with
  | .directory path => (i.files.makeDirectory path).toOption.getD i.files
  | .standardError => i.files

/-- Runs the service until it is interrupted as soon as it waits, and answers how many consumers
    stopped. -/
def serve (w : World) (settings : Settings) : Except String Nat × World :=
  let name := "service"
  let session : Session := { scene := { world := w }, topic := settings.processTopic }
  match session.startService name settings with
  | (.failed (.start problem), s) => (.error problem.message, s.world)
  | (_, s) =>
    let s := s.pass Session.moment
    let s := s.setWorld (s.world.report ⟨.info, "cli_signal", "cli", "ok", [("signal", "ctrl_c")]⟩)
    match s.stop name .trigger with
    | (.serviceStopped exits _, s) => (.ok exits.length, s.world)
    | (_, s) => (.ok 0, s.world)

/-- Does the work of a job with what the settings name. -/
def work (w : World) (settings : Settings) (job : CommandLine.Job) : Except String String × World :=
  match w.openSite [] settings with
  | (.error problem, w) => (.error problem.message, w)
  | (.ok (), w) =>
    if job = .serve then
      match serve w settings with
      | (.error problem, w) => (.error problem, w)
      | (.ok stopped, w) =>
        (.ok "", w.report ⟨.info, "cli_exit", "cli", "ok",
          [("consumers_stopped", toString stopped)]⟩)
    else w.run (CommandLine.work settings job)

def run (i : Invocation) : Report :=
  match CommandLine.plan i.args i.surroundings with
  | .finish ending => { ending := ending, world := i.world i.files }
  | .work job settings logging =>
    let (result, w) := work (i.world (i.filesWithLog logging)) settings job
    let (ending, events) := CommandLine.conclude result
    let w := w.reportAll events
    { ending := ending
      logging := some logging
      events := w.events.reverse.filter logging.admits
      world := w }

end Invocation

namespace Report

/-- A line without the return in front of its end. -/
def withoutReturn (line : String) : String :=
  if line.endsWith "\r" then (line.dropEnd 1).toString else line

/-- The lines on the standard error. -/
def errorLines (r : Report) : List String :=
  let written := match r.logging with
    | some { destination := .standardError, .. } => r.events.map Event.line
    | _ => []
  (r.ending.complaint.toList ++ written).flatMap fun text =>
    (text.splitOn "\n").map withoutReturn

/-- The ids in the database at the end of a path, in order. -/
def storedIds (r : Report) (path : String) : List String :=
  match r.world.openSite [] { databasePath := path } with
  | (.ok (), w) => ((w.store.map (·.allIds.toList)).toOption).getD []
  | _ => []

end Report
end ModelDepot.Rehearsal
