import ModelDepot.Rehearsal.World

/-!
Background tasks of a rehearsal in virtual time. A task goes on until it waits: for a record, for
a moment, or for the request to stop, which is made by its owner, who makes it too by going away,
and never taken back.
-/
namespace ModelDepot

/-- The state that the owner and the signals share. -/
structure Shutdown where
  requested : Bool := false
  owned : Bool := true
  deriving DecidableEq, Repr

namespace Shutdown

/-- The owner asks to stop; without an owner nothing changes. -/
def trigger (state : Shutdown) : Shutdown :=
  if state.owned then { state with requested := true } else state

/-- The owner goes away. -/
def abandon (state : Shutdown) : Shutdown := { state with owned := false }

/-- What every signal shows. -/
def isRequested (state : Shutdown) : Bool := state.requested || !state.owned

end Shutdown

end ModelDepot

namespace ModelDepot.Rehearsal

/-- A handler around the real one: every call takes some time, the first ones fail, and the real
    handler may be left out. -/
structure HandlerPlan where
  takes : Duration := .zero
  failures : Nat := 0
  inert : Bool := false
  deriving DecidableEq, Repr

structure ConsumerTask where
  consumer : Consumer
  plan : HandlerPlan := {}
  phase : ConsumerPhase := .subscribe
  /-- A fetch was begun and found nothing yet. -/
  fetching : Bool := false
  /-- When the call of the handler that was begun ends. -/
  busyUntil : Option Duration := none
  calls : Nat := 0
  failures : List ConsumerFailure := []

structure LoopTask where
  loop : CleanupLoop
  /-- When the next pass is due, once the loop has begun. -/
  due : Option Duration := none
  ended : Bool := false
  /-- It ended before it began. -/
  crashed : Bool := false

/-- Tasks that stop together: a consumer, cleanup passes at intervals, or both as a service. -/
structure Task where
  name : Option String
  siteNumber : Nat
  shutdown : Shutdown := {}
  consumer : Option ConsumerTask := none
  loop : Option LoopTask := none
  /-- The settings of a service. -/
  settings : Option Settings := none

namespace ConsumerTask

def take (t : ConsumerTask) (w : World) (step : ConsumerStep) : ConsumerTask × World :=
  ({ t with
      phase := step.phase
      fetching := false
      busyUntil := none
      failures := t.failures ++ step.failure.toList },
    w.reportAll step.events)

def exit? (t : ConsumerTask) : Option ConsumerExit :=
  match t.phase with
  | .finished exit => some exit
  | _ => none

/-- The result of the call of the handler that was begun last. -/
def handled (t : ConsumerTask) (w : World) (value : List UInt8) :
    Except HandlerError Unit × World :=
  if t.calls ≤ t.plan.failures then
    (.error (.other ("scripted failure " ++ toString t.calls)), w)
  else if t.plan.inert then (.ok (), w)
  else w.run (Control.handle t.consumer.topic value)

/-- One step of the consumer, unless it waits. -/
def advance? (t : ConsumerTask) (stopping : Bool) (now : Duration) (w : World) :
    Option (ConsumerTask × World) :=
  match t.phase with
  | .subscribe =>
    let (reader, w) := w.subscribe t.consumer.group t.consumer.topic
    some (t.take w (t.consumer.onSubscribed reader))
  | .fetch reader =>
    if stopping then some (t.take w (t.consumer.stop .closed))
    else
      let (problem, w) := if t.fetching then (none, w) else w.beginFetch
      match problem with
      | some problem => some (t.take w (t.consumer.onFetched reader now (.error problem)))
      | none =>
        match reader.fetch w.site.log with
        | .pending => if t.fetching then none else some ({ t with fetching := true }, w)
        | found => some (t.take w (t.consumer.onFetched reader now (.ok found)))
  | .handle d =>
    match t.busyUntil with
    | none =>
      some ({ t with calls := t.calls + 1, busyUntil := some ⟨now.nanos + t.plan.takes.nanos⟩ }, w)
    | some ending =>
      if now < ending then none
      else
        let (result, w) := t.handled w d.record.value
        some (t.take w (t.consumer.onHandled d now result))
  | .rest d ending lastError =>
    if stopping then some (t.take w (t.consumer.onInterrupted d lastError))
    else if now < ending then none
    else some (t.take w (Consumer.onRested d))
  | .commit d =>
    let (result, w) := w.commit d.reader d.record
    some (t.take w (Consumer.onCommitted d result))
  | .finished _ => none
  | .crashed => none

/-- The moment for which the consumer waits. -/
def wake? (t : ConsumerTask) : Option Duration :=
  match t.phase with
  | .handle _ => t.busyUntil
  | .rest _ ending _ => some ending
  | _ => none

end ConsumerTask

namespace LoopTask

/-- The clock was started a day before a rehearsal. -/
def clockReading (now : Duration) : Instant := ⟨(Duration.ofSeconds 86400).nanos + now.nanos⟩

/-- One step of the loop, unless it waits. -/
def advance? (t : LoopTask) (stopping : Bool) (now : Duration) (w : World) :
    Option (LoopTask × World) :=
  if t.ended then none
  else
    match t.due with
    | none =>
      if (t.loop.begin? (clockReading now)).isSome then
        some ({ t with due := some ⟨now.nanos + t.loop.interval.nanos⟩ },
          w.report t.loop.startEvent)
      else some ({ t with ended := true, crashed := true }, w)
    | some due =>
      if stopping then some ({ t with ended := true }, w.report t.loop.stopEvent)
      else if now < due then none
      else
        let (result, w) := w.run t.loop.cleanup.pass
        some ({ t with due := some (t.loop.nextDue due now) },
          w.report (CleanupLoop.passEvent result))

def wake? (t : LoopTask) : Option Duration := if t.ended then none else t.due

end LoopTask

namespace Task

/-- One step of the task, unless all its parts wait. -/
def advance? (t : Task) (now : Duration) (w : World) : Option (Task × World) :=
  let home := w.siteNumber
  let w := w.switch t.siteNumber
  let stopping := t.shutdown.isRequested
  match t.consumer.bind (·.advance? stopping now w) with
  | some (c, w) => some ({ t with consumer := some c }, w.switch home)
  | none =>
    match t.loop.bind (·.advance? stopping now w) with
    | some (l, w) => some ({ t with loop := some l }, w.switch home)
    | none => none

/-- The task without its owner, and so asked to stop. -/
def disown (t : Task) : Task := { t with name := none, shutdown := t.shutdown.abandon }

def isOver (t : Task) : Bool :=
  (t.consumer.all fun c => c.phase matches .finished _ || c.phase matches .crashed) &&
    t.loop.all (·.ended)

/-- The earliest moment for which a part of the task waits. -/
def wake? (t : Task) : Option Duration :=
  match t.consumer.bind (·.wake?), t.loop.bind (·.wake?) with
  | some a, some b => some (if a < b then a else b)
  | some a, none => some a
  | none, b => b

end Task

/-- Tasks and their surroundings at a moment. -/
structure Scene where
  world : World
  tasks : List Task := []
  now : Duration := .zero
  /-- What the clock showed at the beginning, if it goes on meanwhile; else it stands. -/
  clockStart : Option Int64 := none

namespace Scene

/-- The scene when the moment has come. -/
def reach (moment : Duration) (s : Scene) : Scene :=
  let world := match s.clockStart with
    | some start => { s.world with clock := start + Int64.ofNat moment.seconds }
    | none => s.world
  { s with now := moment, world := world }

/-- One step of the first task that does not wait. -/
def stepFrom (done : List Task) (now : Duration) (w : World) :
    List Task → Option (List Task × World)
  | [] => none
  | t :: more =>
    match t.advance? now w with
    | some (t, w) => some (done.reverse ++ t :: more, w)
    | none => stepFrom (t :: done) now w more

/-- Steps until all tasks wait. -/
def settle : Nat → Scene → Scene
  | 0, s => s
  | fuel + 1, s =>
    match stepFrom [] s.now s.world s.tasks with
    | none => s
    | some (tasks, world) => settle fuel { s with tasks := tasks, world := world }

/-- More steps than tasks take in a moment. -/
def enough : Nat := 10000000

/-- The earliest moment for which a task waits. -/
def wake? (s : Scene) : Option Duration :=
  (s.tasks.filterMap (·.wake?)).foldl (fun best d =>
    match best with
    | none => some d
    | some b => some (if d < b then d else b)) none

/-- The scene when `target` has come, with everything done that was due before. -/
def advanceTo (target : Duration) : Nat → Scene → Scene
  | 0, s => s.reach target
  | fuel + 1, s =>
    let s := settle enough s
    match s.wake? with
    | none => s.reach target
    | some wake =>
      if wake < target then
        advanceTo target fuel (s.reach (if s.now < wake then wake else s.now))
      else s.reach target

/-- The scene after some time. -/
def pass (s : Scene) (time : Duration) : Scene :=
  advanceTo ⟨s.now.nanos + time.nanos⟩ enough s

/-- The scene when something is done, or at a time when it is not, and whether it is done. -/
def await (isDone : List Task → Bool) (limit : Duration) : Nat → Scene → Bool × Scene
  | 0, s => (false, s)
  | fuel + 1, s =>
    let s := settle enough s
    if isDone s.tasks then (true, s)
    else
      match s.wake? with
      | none => (false, s.reach limit)
      | some wake =>
        if limit < wake then (false, s.reach limit)
        else await isDone limit fuel (s.reach (if s.now < wake then wake else s.now))

end Scene
end ModelDepot.Rehearsal
