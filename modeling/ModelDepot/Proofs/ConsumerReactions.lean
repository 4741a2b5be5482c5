import ModelDepot.Consumer
import ModelDepot.Proofs.LogOffsets

/-!
A consumer at a log, step by step. In every phase but the last ones it waits for something to
happen, and what happens is open: the log answers or refuses, an attempt of the handler ends with
some result, a wait ends, or a shutdown is requested.

What a step shows outside is its `deeds`, and `does_of_react` says for every step which deeds it
has, which phase it leads to and what it leaves in the log.
-/
namespace ModelDepot

/-- What a consumer waits for in one phase or another. -/
inductive Happening where
  /-- The log does what it is asked for. -/
  | answered
  /-- The log fails, and nothing changes in it. -/
  | refused (problem : LogError)
  /-- An attempt to handle the record ended. -/
  | handled (result : Except HandlerError Unit)
  /-- A wait between attempts is over. -/
  | rested
  /-- A shutdown is requested. -/
  | stopped

/-- What is seen of a consumer from outside. -/
inductive Deed where
  | fetched (record : LogRecord)
  /-- The record is handed to the handler, once for each attempt. -/
  | tried (record : LogRecord)
  | handled (record : LogRecord)
  | committed (record : LogRecord)
  /-- The one who runs the consumer is told of a failure. -/
  | escalated (failure : ConsumerFailure)

namespace Consumer

/-- The step of a consumer, and the log after it, when something happens for which it waits. -/
def react (c : Consumer) (now : Duration) (log : Log) :
    ConsumerPhase → Happening → Option (ConsumerStep × Log)
  | .subscribe, .answered =>
    match log.subscribe c.group c.topic with
    | .ok (reader, log) => some (c.onSubscribed (.ok reader), log)
    | .error problem => some (c.onSubscribed (.error problem), log)
  | .subscribe, .refused problem => some (c.onSubscribed (.error problem), log)
  | .fetch reader, .answered => some (c.onFetched reader now (.ok (reader.fetch log)), log)
  | .fetch reader, .refused problem => some (c.onFetched reader now (.error problem), log)
  | .fetch _, .stopped => some (c.stop .closed, log)
  | .handle d, .handled result => some (c.onHandled d now result, log)
  | .rest d _ _, .rested => some (onRested d, log)
  | .rest d _ lastError, .stopped => some (c.onInterrupted d lastError, log)
  | .commit d, .answered =>
    match log.commit d.reader d.record with
    | .ok log => some (onCommitted d (.ok ()), log)
    | .error problem => some (onCommitted d (.error problem), log)
  | .commit d, .refused problem => some (onCommitted d (.error problem), log)
  | _, _ => none

/-- What a consumer does in a step. -/
def deeds (log : Log) (phase : ConsumerPhase) (happening : Happening) (step : ConsumerStep) : List Deed :=
  (match phase, happening, step.phase with
    | .fetch _, _, .handle d => [.fetched d.record, .tried d.record]
    | .rest _ _ _, _, .handle d => [.tried d.record]
    | .handle d, _, .commit _ => [.handled d.record]
    | .commit d, .answered, _ =>
      match log.commit d.reader d.record with
      | .ok _ => [.committed d.record]
      | .error _ => []
    | _, _, _ => []) ++ step.failure.toList.map .escalated

/-- What a step of a consumer can do: the phase before it, what happens, the deeds, and the phase and the log after
    it. -/
inductive Does (c : Consumer) (now : Duration) (log : Log) :
    ConsumerPhase → Happening → List Deed → ConsumerPhase → Log → Prop
  | subscribed {reader : LogReader} {after : Log} (opened : log.subscribe c.group c.topic = .ok (reader, after)) :
    Does c now log .subscribe .answered [] (.fetch reader) after
  | unsubscribed (happening : Happening) (problem : LogError) :
    Does c now log .subscribe happening [.escalated (.subscribe c.topic problem)] (.finished .fatal) log
  | fetched {reader further : LogReader} {record : LogRecord} (found : reader.fetch log = .record record further) :
    Does c now log (.fetch reader) .answered [.fetched record, .tried record] (.handle ⟨further, record, now, 1⟩) log
  | waiting (reader : LogReader) : Does c now log (.fetch reader) .answered [] (.fetch reader) log
  | unfetched (reader : LogReader) (problem : LogError) :
    Does c now log (.fetch reader) (.refused problem) [.escalated (.fetch c.topic problem)] (.finished .fatal) log
  | stopped (reader : LogReader) (happening : Happening) {exit : ConsumerExit} (calm : exit ≠ .fatal) :
    Does c now log (.fetch reader) happening [] (.finished exit) log
  | handled (d : Delivery) : Does c now log (.handle d) (.handled (.ok ())) [.handled d.record] (.commit d) log
  | failed (d : Delivery) (ending : Duration) (problem : HandlerError) :
    Does c now log (.handle d) (.handled (.error problem)) [] (.rest d ending problem) log
  | gaveUp (d : Delivery) (problem : HandlerError) :
    Does c now log (.handle d) (.handled (.error problem))
      [.escalated (.handler d.record.topic d.record.partition d.record.offset d.attempts problem)]
      (.finished .fatal) log
  | crashed (d : Delivery) (problem : HandlerError) :
    Does c now log (.handle d) (.handled (.error problem)) [] .crashed log
  | retried (d : Delivery) (ending : Duration) (problem : HandlerError) (attempts : Nat) :
    Does c now log (.rest d ending problem) .rested [.tried d.record] (.handle { d with attempts := attempts }) log
  | abandoned (d : Delivery) (ending : Duration) (problem : HandlerError) :
    Does c now log (.rest d ending problem) .stopped [] (.finished .closed) log
  | committed {d : Delivery} {after : Log} (moved : log.commit d.reader d.record = .ok after) :
    Does c now log (.commit d) .answered [.committed d.record] (.fetch d.reader) after
  | uncommitted {d : Delivery} {problem : LogError} (unmoved : log.commit d.reader d.record = .error problem) :
    Does c now log (.commit d) .answered [] (.fetch d.reader) log
  | refused (d : Delivery) (problem : LogError) :
    Does c now log (.commit d) (.refused problem) [] (.fetch d.reader) log

theorem does_of_react {c : Consumer} {now : Duration} {log after : Log} {phase : ConsumerPhase}
    {happening : Happening} {step : ConsumerStep}
    (reacted : c.react now log phase happening = some (step, after)) :
    Does c now log phase happening (deeds log phase happening step) step.phase after := by
  unfold react at reacted
  split at reacted
  · split at reacted
    · rename_i reader further opened
      obtain ⟨rfl, rfl⟩ := Prod.mk.inj (Option.some.inj reacted)
      exact .subscribed opened
    · obtain ⟨rfl, rfl⟩ := Prod.mk.inj (Option.some.inj reacted)
      exact .unsubscribed _ _
  · obtain ⟨rfl, rfl⟩ := Prod.mk.inj (Option.some.inj reacted)
    exact .unsubscribed _ _
  · rename_i reader
    obtain ⟨rfl, rfl⟩ := Prod.mk.inj (Option.some.inj reacted)
    cases found : reader.fetch log with
    | closed => exact .stopped reader _ (by decide)
    | pending => exact .waiting reader
    | record record further => exact .fetched found
  · obtain ⟨rfl, rfl⟩ := Prod.mk.inj (Option.some.inj reacted)
    exact .unfetched _ _
  · obtain ⟨rfl, rfl⟩ := Prod.mk.inj (Option.some.inj reacted)
    exact .stopped _ _ (by decide)
  · rename_i d result
    obtain ⟨rfl, rfl⟩ := Prod.mk.inj (Option.some.inj reacted)
    cases result with
    | ok done => exact .handled d
    | error problem =>
      simp only [onHandled]
      split
      · exact .crashed d problem
      · exact .gaveUp d problem
      · exact .failed d _ problem
  · obtain ⟨rfl, rfl⟩ := Prod.mk.inj (Option.some.inj reacted)
    exact .retried _ _ _ _
  · obtain ⟨rfl, rfl⟩ := Prod.mk.inj (Option.some.inj reacted)
    exact .abandoned _ _ _
  · split at reacted
    · rename_i d _ further moved
      obtain ⟨rfl, rfl⟩ := Prod.mk.inj (Option.some.inj reacted)
      have does : Does c now log (.commit d) .answered [.committed d.record] (.fetch d.reader) further := .committed moved
      simpa [deeds, onCommitted, moved] using does
    · rename_i d _ problem unmoved
      obtain ⟨rfl, rfl⟩ := Prod.mk.inj (Option.some.inj reacted)
      have does : Does c now log (.commit d) .answered [] (.fetch d.reader) log := .uncommitted unmoved
      simpa [deeds, onCommitted, unmoved] using does
  · obtain ⟨rfl, rfl⟩ := Prod.mk.inj (Option.some.inj reacted)
    exact .refused _ _
  · cases reacted

/-- The record whose handling succeeds when something happens. -/
def succeeds : ConsumerPhase → Happening → Option LogRecord
  | .handle d, .handled (.ok ()) => some d.record
  | _, _ => none

/-- What a step comes to where only the handled records count: the phase before it, the record it
    handled, and the phase and the log after it. -/
inductive Reacts (c : Consumer) (now : Duration) (log : Log) :
    ConsumerPhase → Option LogRecord → ConsumerPhase → Log → Prop
  | subscribed {reader : LogReader} {after : Log} (opened : log.subscribe c.group c.topic = .ok (reader, after)) :
    Reacts c now log .subscribe none (.fetch reader) after
  | fetched {reader further : LogReader} {record : LogRecord} (found : reader.fetch log = .record record further) :
    Reacts c now log (.fetch reader) none (.handle ⟨further, record, now, 1⟩) log
  | waiting (reader : LogReader) : Reacts c now log (.fetch reader) none (.fetch reader) log
  | handled (d : Delivery) : Reacts c now log (.handle d) (some d.record) (.commit d) log
  | failed (d : Delivery) (ending : Duration) (problem : HandlerError) :
    Reacts c now log (.handle d) none (.rest d ending problem) log
  | rested (d : Delivery) (ending : Duration) (problem : HandlerError) (attempts : Nat) :
    Reacts c now log (.rest d ending problem) none (.handle { d with attempts := attempts }) log
  | committed {d : Delivery} {after : Log} (moved : log.commit d.reader d.record = .ok after) :
    Reacts c now log (.commit d) none (.fetch d.reader) after
  | uncommitted (d : Delivery) : Reacts c now log (.commit d) none (.fetch d.reader) log
  | ended {phase : ConsumerPhase} (exit : ConsumerExit) : Reacts c now log phase none (.finished exit) log
  | crashed {phase : ConsumerPhase} : Reacts c now log phase none .crashed log

theorem reacts_of_react {c : Consumer} {now : Duration} {log after : Log} {phase : ConsumerPhase}
    {happening : Happening} {step : ConsumerStep}
    (reacted : c.react now log phase happening = some (step, after)) :
    Reacts c now log phase (succeeds phase happening) step.phase after := by
  have does := does_of_react reacted
  generalize deeds log phase happening step = done, step.phase = next at does
  cases does with
  | subscribed opened => exact .subscribed opened
  | fetched found => exact .fetched found
  | waiting reader => exact .waiting reader
  | handled d => exact .handled d
  | failed d ending problem => exact .failed d ending problem
  | retried d ending problem attempts => exact .rested d ending problem attempts
  | committed moved => exact .committed moved
  | uncommitted | refused => exact .uncommitted _
  | crashed => exact .crashed
  | unsubscribed | unfetched | stopped | gaveUp | abandoned => exact .ended _

end Consumer
end ModelDepot
