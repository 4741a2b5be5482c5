import ModelDepot.Cleanup

/-!
Cleanup passes at intervals. The first one is due when an interval has passed; after a late one
the next is due an interval later.
-/
namespace ModelDepot

structure CleanupLoop where
  cleanup : Cleanup
  interval : Duration
  deriving DecidableEq, Repr

namespace CleanupLoop

def startEvent (l : CleanupLoop) : Event :=
  ⟨.info, "cleanup_loop", "service", "start",
    [("topic", l.cleanup.topic), ("interval_secs", toString l.interval.seconds)]⟩

def stopEvent (l : CleanupLoop) : Event :=
  ⟨.info, "cleanup_loop", "service", "ok", [("topic", l.cleanup.topic), ("stopped", "true")]⟩

/-- When the first pass is due, unless that moment is beyond the clock. -/
def firstDue? (l : CleanupLoop) (now : Instant) : Option Instant := now.after? l.interval

/-- When the first pass is due, if the loop can begin at all: it must have an interval, and the
    moment must be within the clock. -/
def begin? (l : CleanupLoop) (now : Instant) : Option Instant :=
  if l.interval = .zero then none else l.firstDue? now

/-- A pass that begins later than this is late. -/
def tolerance : Duration := .ofMillis 5

/-- When the next pass is due after one that was due at some time and begins now. -/
def nextDue (l : CleanupLoop) (due now : Duration) : Duration :=
  if due.nanos + tolerance.nanos < now.nanos then ⟨now.nanos + l.interval.nanos⟩
  else ⟨due.nanos + l.interval.nanos⟩

/-- What is reported of a pass. -/
def passEvent : Except CleanupError CleanupReport → Event
  | .ok report =>
    ⟨.info, "cleanup_pass", "service", "ok", [Event.someDuration,
      ("permissions_removed", toString report.permissionsRemoved),
      ("documents_removed", toString report.documentsRemoved)]⟩
  | .error .inProgress =>
    ⟨.warn, "cleanup_pass", "service", "skipped", [("reason", "in_progress")]⟩
  | .error problem => ⟨.error, "cleanup_pass", "service", "error", [("error", problem.message)]⟩

end CleanupLoop
end ModelDepot
