import ModelDepot.Rehearsal.Task

/-!
The steps of a rehearsal and their outcomes.
-/
namespace ModelDepot.Rehearsal

/-- How a task is stopped. -/
inductive StopKind where
  | trigger
  | abandon
  | wait
  deriving DecidableEq, Repr

/-- What happens while a reader waits. -/
inductive Meanwhile where
  | append (key value : List UInt8)
  | close
  deriving DecidableEq, Repr

inductive Step where
  | upsert (doc : Document)
  | upsertMany (doc : Document) (first last : Nat)
  | delete (id : String)
  | get (id : String)
  | list (options : ListOptions) (brief : Bool)
  | listPublished (brief : Bool)
  | allIds
  | staleIds (cutoff : Int64)
  | materialize (command : Command)
  | isStored (id : String)
  | storeFaults (faults : Faults) (panics : Bool)
  | dump (brief : Bool)
  | events
  | authority (call : AuthorityCall)
  | listedIds (topic : String) (pageSize : Nat)
  | resourceIds (topic : String)
  | isRegistered (topic : String)
  | outage (value : Bool)
  | failNext (count : Nat)
  | script (change : Script → Script)
  | append (topic : String) (key value : List UInt8)
  | subscribe (reader group topic : String)
  | fetch (reader : String) (meanwhile : Option Meanwhile) (topic : String)
  | commit (reader : String) (partition offset : Option Int) (topic : String)
  | committed (group topic : String) (partition : Int)
  | logLength (topic : String)
  | closeLog
  | dropReader (reader : String)
  | logFaults (change : LogFaults → LogFaults)
  | publish (topic : String) (command : Command)
  | published (topic : String)
  | registerTopic (topic : String)
  | read (topic : String) (caller : Caller) (id : String) (permission : Permission)
  | listFor (topic : String) (caller : Caller) (permission : Permission) (options : ListOptions)
      (brief : Bool)
  | publicDocuments (brief : Bool)
  | create (topic : String) (caller : Caller) (doc : Document)
  | update (topic : String) (caller : Caller) (id : String) (doc : Document)
  | changePublication (topic : String) (caller : Caller) (id : String) (change : PublishChange)
  | deleteAs (topic : String) (caller : Caller) (id : String)
  | apply (topic : String) (command : Command)
  | handle (topic : String) (value : List UInt8)
  | backfill (topic : String)
  | cleanup (cleanup : Cleanup)
  | cleanupOverlap (cleanup : Cleanup)
  | sleep (time : Duration)
  | startConsumer (name : String) (consumer : Consumer) (plan : HandlerPlan)
  | startLoop (name : String) (loop : CleanupLoop)
  | startService (name : String) (settings : Settings)
  | serviceCleanup (name : String)
  | serviceStatus (name : String)
  | stop (name : String) (kind : StopKind)
  | openSite (settings : Settings)
  | openLog (settings : Settings)

inductive Failure where
  | codec (problem : CodecError)
  | store (problem : StoreError)
  | authority (problem : AuthorityError)
  | log (problem : LogError)
  | publish (problem : PublishError)
  | control (problem : ControlError)
  | handler (problem : HandlerError)
  | cleanup (problem : CleanupError)
  | start (problem : StartError)
  /-- There is nothing of that name. -/
  | unknownName

/-- What is left of everything. -/
structure Dump where
  documents : Except StoreError DocumentPage
  brief : Bool
  /-- The ids with a grant, and whether the topic is registered. -/
  grants : Option (List String × Bool)
  /-- The length of the log, and what groups committed of topics. -/
  log : Option (Nat × List ((String × String) × List (Option Nat)))

inductive Outcome where
  | done
  | answer (value : Bool)
  | number (value : Option Nat)
  | document (doc : Option Document)
  | page (page : DocumentPage) (brief : Bool)
  | ids (ids : List String)
  | outcome (value : ApplyOutcome)
  | dump (dump : Dump)
  | events (lines : List Event)
  | grants (grants : Option Grants)
  | allowed (checks : Dict Bool)
  | position (partition offset : Nat)
  | record (record : LogRecord)
  | pending
  | closed
  | length (count : Nat)
  | commands (records : List (Except CodecError (Option Command)))
  | created (doc : Document)
  | backfilled (report : BackfillReport)
  | cleaned (report : CleanupReport)
  | overlapped (first second third : Except CleanupError CleanupReport) (grace : Duration)
  | started (topic : String) (grace : Duration) (stopping : Bool)
  | consumerStopped (exit : Option ConsumerExit) (failures : List ConsumerFailure) (calls : Nat)
  /-- The consumer never ends. -/
  | consumerRunning (failures : List ConsumerFailure) (calls : Nat)
  | loopStopped
  | serviceStopped (exits : List ConsumerExit) (failures : List ConsumerFailure)
  | stillRunning
  | failed (problem : Failure)

end ModelDepot.Rehearsal
