import ModelDepot.Retry
import ModelDepot.Control

/-!
The consumer of a topic. It fetches a record, hands it over until it is handled or given up, and
commits it before it fetches the next one. A consumer is described by what it waits for; each
answer leads to the next wait.
-/
namespace ModelDepot

inductive ConsumerFailure where
  | subscribe (topic : String) (problem : LogError)
  | fetch (topic : String) (problem : LogError)
  | handler (topic : String) (partition offset : Int) (attempts : Nat) (problem : HandlerError)
  deriving DecidableEq, Repr

def ConsumerFailure.message : ConsumerFailure → String
  | .subscribe topic problem =>
    "unable to subscribe to " ++ Json.marked topic ++ ": " ++ problem.message
  | .fetch topic problem => "unable to fetch from " ++ Json.marked topic ++ ": " ++ problem.message
  | .handler topic partition offset attempts problem =>
    "giving up on " ++ Json.marked topic ++ " partition " ++ toString partition ++ " offset " ++
      toString offset ++ " after " ++ toString attempts ++ " attempts: " ++ problem.message

inductive ConsumerExit where
  | closed
  | logClosed
  | fatal
  deriving DecidableEq, Repr

def ConsumerExit.name : ConsumerExit → String
  | .closed => "Closed"
  | .logClosed => "LogClosed"
  | .fatal => "Fatal"

structure Consumer where
  topic : String
  group : String
  policy : RetryPolicy := {}
  debug : Bool := false
  deriving DecidableEq, Repr

/-- A record that is being handled: where its reader stands, when the first attempt began, and how
    many attempts were begun. -/
structure Delivery where
  reader : LogReader
  record : LogRecord
  started : Duration
  attempts : Nat
  deriving DecidableEq, Repr

/-- What a consumer waits for. -/
inductive ConsumerPhase where
  | subscribe
  | fetch (reader : LogReader)
  | handle (delivery : Delivery)
  /-- The end of a wait between attempts. -/
  | rest (delivery : Delivery) (ending : Duration) (lastError : HandlerError)
  | commit (delivery : Delivery)
  | finished (exit : ConsumerExit)
  /-- The time of the next attempt could not be computed. -/
  | crashed
  deriving DecidableEq, Repr

/-- A step of a consumer: the next phase, what is reported, and the failure that ended it. -/
structure ConsumerStep where
  phase : ConsumerPhase
  events : List Event := []
  failure : Option ConsumerFailure := none
  deriving DecidableEq, Repr

namespace Consumer

def place (c : Consumer) : List (String × String) := [("topic", c.topic), ("group", c.group)]

def recordPlace (record : LogRecord) : List (String × String) :=
  [("topic", record.topic), ("partition", toString record.partition),
    ("offset", toString record.offset)]

/-- The end after a failure, which is told to the one who runs the consumer. -/
def escalate (c : Consumer) (failure : ConsumerFailure) : ConsumerStep where
  phase := .finished .fatal
  events := [⟨.error, "consumer_fatal", "source", "error",
    c.place ++ [("error", failure.message)]⟩]
  failure := some failure

/-- The end without a failure. -/
def stop (c : Consumer) (exit : ConsumerExit) : ConsumerStep where
  phase := .finished exit
  events := [⟨.info, "consumer_stop", "source", "ok", c.place ++ [("exit", exit.name)]⟩]

def onSubscribed (c : Consumer) : Except LogError LogReader → ConsumerStep
  | .ok reader =>
    { phase := .fetch reader, events := [⟨.info, "consumer_start", "source", "ok", c.place⟩] }
  | .error problem => c.escalate (.subscribe c.topic problem)

/-- What a fetch found, unless it is still waiting. -/
def onFetched (c : Consumer) (reader : LogReader) (now : Duration) :
    Except LogError Fetched → ConsumerStep
  | .ok .pending => { phase := .fetch reader }
  | .ok .closed => c.stop .logClosed
  | .ok (.record record reader) =>
    { phase := .handle ⟨reader, record, now, 1⟩
      events := if c.debug then
        [⟨.debug, "record_fetch", "source", "ok",
          recordPlace record ++ [("key", record.keyText)]⟩] else [] }
  | .error problem => c.escalate (.fetch c.topic problem)

/-- The result of an attempt that ended now. -/
def onHandled (c : Consumer) (d : Delivery) (now : Duration) :
    Except HandlerError Unit → ConsumerStep
  | .ok () => { phase := .commit d }
  | .error problem =>
    match c.policy.verdict ⟨now.nanos - d.started.nanos⟩ d.attempts with
    | .overflow => { phase := .crashed }
    | .giveUp =>
      c.escalate (.handler d.record.topic d.record.partition d.record.offset d.attempts problem)
    | .retryAfter wait =>
      { phase := .rest d ⟨now.nanos + wait.nanos⟩ problem
        events := [⟨.warn, "retry_scheduled", "source", "error",
          [("attempt", toString d.attempts), ("wait_ms", toString wait.millis),
            ("error", problem.message)]⟩] }

/-- The end of a wait leads to the next attempt. -/
def onRested (d : Delivery) : ConsumerStep :=
  { phase := .handle { d with attempts := min (d.attempts + 1) maxAttempts } }

/-- A shutdown during a wait between attempts abandons the record. -/
def onInterrupted (c : Consumer) (d : Delivery) (lastError : HandlerError) : ConsumerStep :=
  let stopped := c.stop .closed
  { stopped with
    events := ⟨.warn, "record_abandon", "source", "error",
      recordPlace d.record ++ [("error", lastError.message)]⟩ :: stopped.events }

/-- A commit that fails is reported, and the record may be delivered again later. -/
def onCommitted (d : Delivery) : Except LogError Unit → ConsumerStep
  | .ok () => { phase := .fetch d.reader }
  | .error problem =>
    { phase := .fetch d.reader
      events := [⟨.error, "record_commit", "source", "error",
        recordPlace d.record ++ [("error", problem.message)]⟩] }

end Consumer
end ModelDepot
