import ModelDepot.Proofs.Backlog
import ModelDepot.Proofs.ConsumerReactions
import ModelDepot.Proofs.HalfApplied
import ModelDepot.Proofs.Play

/-!
Commands on their way from a log into a depot. They are published at any time, and consumers of one group
that come one after another apply them. A consumer may vanish between any two calls, and then the next one
begins where the group has committed. What every move keeps: the commands that are not committed lead from
the depot as it is to where all commands that were published lead from the start (`Sound`).
-/
namespace ModelDepot

/-- A consumer at work, and what is left of the activity of its handler while it handles a record. -/
structure Worker where
  consumer : Consumer
  phase : ConsumerPhase := .subscribe
  activity : Program HandlerError Unit := .done (.ok ())

/-- A depot with the consumer that is at work there, if any. -/
structure Pipeline where
  depot : Depot
  worker : Option Worker := none

namespace Worker

/-- The consumer in its next phase, which begins to handle a record that it has fetched. -/
def enter (w : Worker) (phase : ConsumerPhase) : Worker where
  consumer := w.consumer
  phase := phase
  activity :=
    match phase with
    | .handle delivery => Control.handle w.consumer.topic delivery.record.value
    | _ => .done (.ok ())

end Worker

namespace Pipeline

inductive Move where
  | publish (channel : Channel) (moment : Moment) (command : Command)
  /-- A consumer comes, when no other is at work. -/
  | start (consumer : Consumer)
  /-- The log answers the consumer. -/
  | answer (now : Duration)
  /-- The next call of the handler, which succeeds. -/
  | call (moment : Moment)
  /-- The handler has ended, and the consumer learns of it. -/
  | conclude (now : Duration)
  /-- A wait of the consumer between attempts is over. -/
  | rest (now : Duration)
  | shutDown (now : Duration)
  /-- The consumer vanishes, whatever it was about to do. -/
  | vanish

/-- Something happens for which a worker waits. -/
def react (w : Worker) (now : Duration) (happening : Happening) (s : Pipeline) : Option Pipeline :=
  (w.consumer.react now s.depot.log w.phase happening).map fun (step, log) =>
    { depot := { s.depot with log := log }, worker := some (w.enter step.phase) }

def act (group topic : String) : Move → Pipeline → Option Pipeline
  | .publish channel moment command, s =>
    if channel.topic = topic then
      some { s with depot := ((channel.publish command).run (Depot.answer moment) s.depot).2 }
    else none
  | .start consumer, s =>
    if s.worker.isNone ∧ consumer.group = group ∧ consumer.topic = topic then
      some { s with worker := some { consumer := consumer } }
    else none
  | .answer now, s => s.worker.bind fun w => react w now .answered s
  | .call moment, s =>
    s.worker.bind fun w =>
      match w.phase with
      | .handle _ =>
        (w.activity.advance moment s.depot).map fun (activity, depot) =>
          { depot := depot, worker := some { w with activity := activity } }
      | _ => none
  | .conclude now, s =>
    s.worker.bind fun w =>
      match w.activity with
      | .done result => react w now (.handled result) s
      | .ask .. => none
  | .rest now, s => s.worker.bind fun w => react w now .rested s
  | .shutDown now, s => s.worker.bind fun w => react w now .stopped s
  | .vanish, s => some { s with worker := none }

/-- The commands that are published in the course of some moves, in their order. -/
def published (moves : List Move) : List Command :=
  moves.filterMap fun
    | .publish _ _ command => some command
    | _ => none

/-! ### The invariant -/

/-- A command that can be published and applied, and puts a document with a stamp if it puts one. -/
structure Fit (store : Store) (command : Command) : Prop where
  named : Text.allBlank command.id = false
  stamped : command.Stamped
  admitted : store.Admits command

/-- The record of the command that is next in its partition was taken, and nothing else that is not committed. -/
structure Delivers (group topic : String) (log : Log) (left : List Command) (delivery : Delivery)
    (before : List Command) (command : Command) (behind : List Command) (p o : Nat) : Prop where
  split : left = before ++ command :: behind
  next : log.NextIn group topic before command p o
  ofGroup : delivery.reader.group = group
  ofTopic : delivery.reader.topic = topic
  positions : delivery.reader.positions = (log.offsets group topic).set p (o + 1)
  partition : delivery.record.partition = p
  offset : delivery.record.offset = o

/-- How far the worker is. A record that is delivered is that of a command which is left, and until the end
    of its handling some part of the command has been applied. -/
def Stands (group topic : String) (time : Int64) (left : List Command) (d : Depot) (w : Worker) : Prop :=
  match w.phase with
  | .fetch reader =>
    reader.group = group ∧ reader.topic = topic ∧ reader.positions = d.log.offsets group topic
  | .handle delivery =>
    ∃ before command behind p o, Delivers group topic d.log left delivery before command behind p o ∧
      ∃ point, w.activity.Follows (ApplyRules topic command) (fun _ => ApplyPoint.Finished command) point ∧
        point.Stands time topic command d
  | .commit delivery =>
    ∃ before command behind p o, Delivers group topic d.log left delivery before command behind p o ∧
      d.applied time topic command = d
  | .rest .. => False
  | .subscribe | .finished _ | .crashed => True

/-- The log carries what was published, and what is left of it leads from here to where all of it leads from
    the start. -/
structure Sound (group topic : String) (time : Int64) (start : Depot) (commands left : List Command)
    (s : Pipeline) : Prop where
  carries : s.depot.log.Carries topic commands
  leaves : s.depot.log.Leaves group topic commands left
  fit : ∀ command ∈ left, Fit start.store command
  effect : s.depot.appliedAll time topic left =
    { start.appliedAll time topic commands with log := s.depot.log }
  worker : ∀ w, s.worker = some w →
    w.consumer.group = group ∧ w.consumer.topic = topic ∧ Stands group topic time left s.depot w

variable {group topic : String} {time : Int64} {start : Depot} {commands left : List Command} {s t : Pipeline}
  {w : Worker} {log : Log}

/-! ### What a log may do meanwhile -/

theorem stands_withLog {command : Command} {point : ApplyPoint} {d : Depot}
    (stands : point.Stands time topic command d) (log : Log) :
    point.Stands time topic command { d with log := log } := by
  have effect : ∀ same : d.applied time topic command = d,
      ({ d with log := log } : Depot).applied time topic command = { d with log := log } := by
    intro same
    rw [Depot.applied_withLog, same]
  cases point with
  | stored document => exact ⟨stands.1, effect stands.2⟩
  | secured document => exact ⟨stands.1, effect stands.2⟩
  | removed => exact effect stands
  | _ => exact stands

/-- The command that is delivered may be applied before all others that are left. -/
theorem Delivers.appliedAll {delivery : Delivery} {before behind : List Command} {command : Command} {p o : Nat}
    (delivers : Delivers group topic log left delivery before command behind p o) (d : Depot) :
    d.appliedAll time topic left = (d.applied time topic command).appliedAll time topic (before ++ behind) := by
  rw [delivers.split]
  exact Depot.appliedAll_first (fun other member =>
    Command.id_ne_of_goesTo delivers.next.here (delivers.next.elsewhere other member)) behind d

/-- More commands may be left, as long as the committed offsets stay. -/
theorem Delivers.more {delivery : Delivery} {before behind : List Command} {command : Command} {p o : Nat} {after : Log}
    (delivers : Delivers group topic log left delivery before command behind p o)
    (partitions : after.partitions = log.partitions) (same : after.offsets group topic = log.offsets group topic)
    (more : List Command) : Delivers group topic after (left ++ more) delivery before command (behind ++ more) p o := by
  obtain ⟨split, ⟨elsewhere, here, committed⟩, ofGroup, ofTopic, positions, partition, offset⟩ := delivers
  refine ⟨?_, ⟨?_, ?_, ?_⟩, ofGroup, ofTopic, ?_, partition, offset⟩
  · rw [split, List.append_assoc, List.cons_append]
  · rw [partitions]
    exact elsewhere
  · rw [partitions]
    exact here
  · rw [same]
    exact committed
  · rw [same]
    exact positions

/-- A reader at the committed offsets takes the record of a command that is next in its partition. -/
theorem delivers_fetched (now : Duration) (carries : log.Carries topic commands)
    (leaves : log.Leaves group topic commands left) {reader further : LogReader} {record : LogRecord}
    (ofGroup : reader.group = group) (ofTopic : reader.topic = topic)
    (positions : reader.positions = log.offsets group topic) (fetched : reader.fetch log = .record record further) :
    ∃ before command behind p o,
      Delivers group topic log left ⟨further, record, now, 1⟩ before command behind p o ∧
        record.value = command.entry.value := by
  obtain ⟨before, command, behind, p, o, split, next, recordIs, furtherIs⟩ :=
    Log.fetch_next carries leaves positions ofTopic fetched
  rw [recordIs, furtherIs]
  refine ⟨before, command, behind, p, o, ⟨split, next, ofGroup, ofTopic, ?_, rfl, rfl⟩, rfl⟩
  apply List.ext_getElem?
  intro q
  rw [LogReader.positions_pass, positions, List.getElem?_set]
  split
  · rename_i same
    rw [← same, next.committed, if_pos (List.getElem?_eq_some_iff.mp next.committed).1]
    rfl
  · rfl

theorem Stands.more {d : Depot} (stands : Stands group topic time left d w) {after : Log}
    (partitions : after.partitions = d.log.partitions) (same : after.offsets group topic = d.log.offsets group topic)
    (more : List Command) : Stands group topic time (left ++ more) { d with log := after } w := by
  unfold Stands at stands ⊢
  split at stands
  · rw [same]
    exact stands
  · obtain ⟨before, command, behind, p, o, delivers, point, follows, within⟩ := stands
    exact ⟨before, command, _, p, o, delivers.more partitions same more, point, follows, stands_withLog within after⟩
  · obtain ⟨before, command, behind, p, o, delivers, done⟩ := stands
    refine ⟨before, command, _, p, o, delivers.more partitions same more, ?_⟩
    rw [Depot.applied_withLog, done]
  · exact stands.elim
  · trivial
  · trivial
  · trivial

/-- Another worker, and a log in which nothing else is stored or committed. -/
theorem Sound.change (sound : Sound group topic time start commands left s) (closed : log.closed = s.depot.log.closed)
    (partitions : log.partitions = s.depot.log.partitions) (records : log.topic topic = s.depot.log.topic topic)
    (offsets : log.offsets group topic = s.depot.log.offsets group topic) {worker : Option Worker}
    (stands : ∀ w, worker = some w → w.consumer.group = group ∧ w.consumer.topic = topic ∧
      Stands group topic time left { s.depot with log := log } w) :
    Sound group topic time start commands left { depot := { s.depot with log := log }, worker := worker } where
  carries := sound.carries.of_eq closed partitions records
  leaves := sound.leaves.of_eq partitions offsets
  fit := sound.fit
  effect := by rw [Depot.appliedAll_withLog, sound.effect]
  worker := stands

theorem sound_publish (sound : Sound group topic time start commands left s) {channel : Channel}
    (at_topic : channel.topic = topic) {command : Command} (fit : Fit start.store command)
    (moment : Moment) :
    Sound group topic time start (commands ++ [command]) (left ++ [command])
      { s with depot := ((channel.publish command).run (Depot.answer moment) s.depot).2 } := by
  obtain ⟨place, after, appended, carries, partitions⟩ := Log.append_entry sound.carries command
  have offsets := Log.offsets_append appended group topic
  rw [Channel.publish_run fit.named (by rw [at_topic]; exact appended)]
  constructor
  · exact carries
  · exact sound.leaves.publish partitions offsets command
  · intro other member
    rcases List.mem_append.mp member with old | new
    · exact sound.fit other old
    · rw [List.mem_singleton.mp new]
      exact fit
  · rw [Depot.appliedAll_withLog, Depot.appliedAll_append, sound.effect, Depot.appliedAll_withLog,
      Depot.appliedAll_append]
  · intro w present
    obtain ⟨ofGroup, ofTopic, stands⟩ := sound.worker w present
    exact ⟨ofGroup, ofTopic, Stands.more stands partitions offsets [command]⟩

/-! ### The steps of a worker -/

section
variable {now : Duration} {step : ConsumerStep}

/-- The worker in its next phase, when nothing else is stored or committed. -/
theorem Sound.enter (sound : Sound group topic time start commands left s) (present : s.worker = some w)
    (closed : log.closed = s.depot.log.closed) (partitions : log.partitions = s.depot.log.partitions)
    (records : log.topic topic = s.depot.log.topic topic)
    (offsets : log.offsets group topic = s.depot.log.offsets group topic) {phase : ConsumerPhase}
    (stands : Stands group topic time left { s.depot with log := log } (w.enter phase)) :
    Sound group topic time start commands left
      { depot := { s.depot with log := log }, worker := some (w.enter phase) } := by
  obtain ⟨ofGroup, ofTopic, -⟩ := sound.worker w present
  refine sound.change closed partitions records offsets ?_
  intro _ same
  obtain rfl := Option.some.inj same
  exact ⟨ofGroup, ofTopic, stands⟩

theorem sound_subscribed (sound : Sound group topic time start commands left s) (present : s.worker = some w)
    (reacted : w.consumer.react now s.depot.log .subscribe .answered = some (step, log)) :
    Sound group topic time start commands left
      { depot := { s.depot with log := log }, worker := some (w.enter step.phase) } := by
  obtain ⟨ofGroup, ofTopic, -⟩ := sound.worker w present
  simp only [Consumer.react, ofGroup, ofTopic] at reacted
  split at reacted
  · rename_i reader after opened
    obtain ⟨rfl, rfl⟩ := Prod.mk.inj (Option.some.inj reacted)
    obtain ⟨readerIs, records, offsets⟩ := Log.subscribe_eq_ok opened
    obtain ⟨closed, partitions⟩ := Log.subscribe_frame opened
    refine sound.enter present closed partitions (records topic) (offsets group topic) ?_
    rw [readerIs]
    exact ⟨rfl, rfl, (offsets group topic).symm⟩
  · obtain ⟨rfl, rfl⟩ := Prod.mk.inj (Option.some.inj reacted)
    exact sound.enter present rfl rfl rfl rfl trivial

theorem sound_fetched (sound : Sound group topic time start commands left s) (present : s.worker = some w)
    {reader : LogReader} (phase : w.phase = .fetch reader)
    (reacted : w.consumer.react now s.depot.log (.fetch reader) .answered = some (step, log)) :
    Sound group topic time start commands left
      { depot := { s.depot with log := log }, worker := some (w.enter step.phase) } := by
  obtain ⟨ofGroup, ofTopic, stands⟩ := sound.worker w present
  unfold Stands at stands
  rw [phase] at stands
  obtain ⟨readerGroup, readerTopic, positions⟩ := stands
  obtain ⟨rfl, rfl⟩ := Prod.mk.inj (Option.some.inj reacted)
  refine sound.enter present rfl rfl rfl rfl ?_
  cases fetched : reader.fetch s.depot.log with
  | closed => trivial
  | pending => exact ⟨readerGroup, readerTopic, positions⟩
  | record record further =>
    obtain ⟨before, command, behind, p, o, delivers, value⟩ :=
      delivers_fetched now sound.carries sound.leaves readerGroup readerTopic positions fetched
    have fit := sound.fit command (by rw [delivers.split]; exact List.mem_append_right _ List.mem_cons_self)
    refine ⟨before, command, behind, p, o, delivers, .begun, ?_, trivial⟩
    show (Control.handle w.consumer.topic record.value).Follows _ _ _
    rw [value, ofTopic]
    exact Control.handle_follows (Command.decode_entry fit.named)

/-- No call of the handler changes where what is left leads. -/
theorem sound_called (sound : Sound group topic time start commands left s) (present : s.worker = some w)
    {delivery : Delivery} (phase : w.phase = .handle delivery) {moment : Moment}
    {activity : Program HandlerError Unit} {after : Depot}
    (moved : w.activity.advance moment s.depot = some (activity, after)) :
    Sound group topic time start commands left { depot := after, worker := some { w with activity := activity } } := by
  obtain ⟨ofGroup, ofTopic, stands⟩ := sound.worker w present
  unfold Stands at stands
  rw [phase] at stands
  obtain ⟨before, command, behind, p, o, delivers, point, follows, within⟩ := stands
  obtain ⟨call, answer, next, rules, onward, calls⟩ := Program.follows_advance follows moved
  have fit := sound.fit command (by rw [delivers.split]; exact List.mem_append_right _ List.mem_cons_self)
  obtain ⟨withinNext, effect, sameLog⟩ := ApplyPoint.stands_call fit.stamped within rules calls
  constructor
  · rw [sameLog]
    exact sound.carries
  · rw [sameLog]
    exact sound.leaves
  · exact sound.fit
  · rw [delivers.appliedAll, effect, ← delivers.appliedAll, sound.effect, sameLog]
  · intro _ same
    obtain rfl := Option.some.inj same
    refine ⟨ofGroup, ofTopic, ?_⟩
    unfold Stands
    rw [phase, sameLog]
    exact ⟨before, command, behind, p, o, delivers, next, onward, withinNext⟩

theorem sound_concluded (sound : Sound group topic time start commands left s) (present : s.worker = some w)
    {result : Except HandlerError Unit} (ended : w.activity = .done result)
    (reacted : w.consumer.react now s.depot.log w.phase (.handled result) = some (step, log)) :
    Sound group topic time start commands left
      { depot := { s.depot with log := log }, worker := some (w.enter step.phase) } := by
  obtain ⟨ofGroup, ofTopic, stands⟩ := sound.worker w present
  unfold Stands at stands
  cases phase : w.phase with
  | handle delivery =>
    rw [phase] at stands reacted
    obtain ⟨before, command, behind, p, o, delivers, point, follows, within⟩ := stands
    rw [ended] at follows
    cases result with
    | error problem => exact follows.elim
    | ok done =>
      obtain ⟨rfl, rfl⟩ := Prod.mk.inj (Option.some.inj reacted)
      refine sound.enter present rfl rfl rfl rfl ⟨before, command, behind, p, o, delivers, ?_⟩
      exact ApplyPoint.applied_of_finished within follows
  | _ =>
    rw [phase] at reacted
    cases reacted

/-- The record is committed, and its command is not left any more. -/
theorem sound_committed (sound : Sound group topic time start commands left s) (present : s.worker = some w)
    {delivery : Delivery} (phase : w.phase = .commit delivery) :
    ∃ after others, s.depot.log.commit delivery.reader delivery.record = .ok after ∧ others.length < left.length ∧
      Sound group topic time start commands others
        { depot := { s.depot with log := after }, worker := some (w.enter (.fetch delivery.reader)) } := by
  obtain ⟨ofGroup, ofTopic, stands⟩ := sound.worker w present
  unfold Stands at stands
  rw [phase] at stands
  obtain ⟨before, command, behind, p, o, delivers, done⟩ := stands
  have others : s.depot.appliedAll time topic (before ++ behind) =
      { start.appliedAll time topic commands with log := s.depot.log } := by
    rw [← sound.effect, delivers.appliedAll, done]
  obtain ⟨split, next, readerGroup, readerTopic, positions, partition, offset⟩ := delivers
  have leaves := sound.leaves
  rw [split] at leaves
  obtain ⟨after, commits, offsets, closed, partitions, records, leavesOthers⟩ :=
    Log.commit_next leaves next readerGroup readerTopic partition offset
  refine ⟨after, before ++ behind, commits, ?_, ?_, leavesOthers, ?_, ?_, ?_⟩
  · rw [split, List.length_append, List.length_append, List.length_cons]
    omega
  · exact sound.carries.of_eq closed partitions records
  · intro other member
    apply sound.fit
    rw [split]
    rcases List.mem_append.mp member with earlier | later
    · exact List.mem_append_left _ earlier
    · exact List.mem_append_right _ (List.mem_cons_of_mem _ later)
  · rw [Depot.appliedAll_withLog, others]
  · intro _ same
    obtain rfl := Option.some.inj same
    exact ⟨ofGroup, ofTopic, readerGroup, readerTopic, positions.trans offsets.symm⟩

/-- The log answers, a wait ends or a shutdown is requested. -/
theorem sound_react (sound : Sound group topic time start commands left s) (present : s.worker = some w)
    {happening : Happening} (outer : happening = .answered ∨ happening = .rested ∨ happening = .stopped)
    (moved : react w now happening s = some t) : ∃ others, Sound group topic time start commands others t := by
  obtain ⟨⟨step, log⟩, reacted, rfl⟩ := Option.map_eq_some_iff.mp moved
  obtain ⟨-, -, stands⟩ := sound.worker w present
  cases phase : w.phase with
  | subscribe =>
    rw [phase] at reacted
    rcases outer with rfl | rfl | rfl
    · exact ⟨left, sound_subscribed sound present reacted⟩
    · cases reacted
    · cases reacted
  | fetch reader =>
    rw [phase] at reacted
    rcases outer with rfl | rfl | rfl
    · exact ⟨left, sound_fetched sound present phase reacted⟩
    · cases reacted
    · obtain ⟨rfl, rfl⟩ := Prod.mk.inj (Option.some.inj reacted)
      exact ⟨left, sound.enter present rfl rfl rfl rfl trivial⟩
  | handle delivery =>
    rw [phase] at reacted
    rcases outer with rfl | rfl | rfl <;> cases reacted
  | rest delivery ending problem =>
    unfold Stands at stands
    rw [phase] at stands
    exact stands.elim
  | commit delivery =>
    rw [phase] at reacted
    rcases outer with rfl | rfl | rfl
    · obtain ⟨after, others, commits, -, kept⟩ := sound_committed sound present phase
      simp only [Consumer.react, commits] at reacted
      obtain ⟨rfl, rfl⟩ := Prod.mk.inj (Option.some.inj reacted)
      exact ⟨others, kept⟩
    · cases reacted
    · cases reacted
  | finished exit =>
    rw [phase] at reacted
    rcases outer with rfl | rfl | rfl <;> cases reacted
  | crashed =>
    rw [phase] at reacted
    rcases outer with rfl | rfl | rfl <;> cases reacted

end

/-! ### Runs -/

theorem sound_act (sound : Sound group topic time start commands left s) {move : Move}
    (fit : ∀ command ∈ published [move], Fit start.store command) (moved : act group topic move s = some t) :
    ∃ others, Sound group topic time start (commands ++ published [move]) others t := by
  have quiet : ∀ others, published [move] = [] → Sound group topic time start commands others t →
      ∃ others, Sound group topic time start (commands ++ published [move]) others t := by
    intro others none kept
    exact ⟨others, by rw [none, List.append_nil]; exact kept⟩
  cases move with
  | publish channel moment command =>
    simp only [act] at moved
    split at moved
    · rename_i at_topic
      obtain rfl := Option.some.inj moved
      exact ⟨left ++ [command], sound_publish sound at_topic (fit command List.mem_cons_self) moment⟩
    · cases moved
  | start consumer =>
    simp only [act] at moved
    split at moved
    · rename_i idle
      obtain rfl := Option.some.inj moved
      refine quiet left rfl (sound.change rfl rfl rfl rfl ?_)
      intro _ same
      obtain rfl := Option.some.inj same
      exact ⟨idle.2.1, idle.2.2, trivial⟩
    · cases moved
  | answer now =>
    obtain ⟨w, present, reacted⟩ := Option.bind_eq_some_iff.mp moved
    obtain ⟨others, kept⟩ := sound_react sound present (.inl rfl) reacted
    exact quiet others rfl kept
  | call moment =>
    obtain ⟨w, present, advanced⟩ := Option.bind_eq_some_iff.mp moved
    split at advanced
    · rename_i delivery phase
      obtain ⟨⟨activity, after⟩, called, rfl⟩ := Option.map_eq_some_iff.mp advanced
      exact quiet left rfl (sound_called sound present phase called)
    · cases advanced
  | conclude now =>
    obtain ⟨w, present, concluded⟩ := Option.bind_eq_some_iff.mp moved
    split at concluded
    · rename_i result ended
      obtain ⟨⟨step, log⟩, reacted, rfl⟩ := Option.map_eq_some_iff.mp concluded
      exact quiet left rfl (sound_concluded sound present ended reacted)
    · cases concluded
  | rest now =>
    obtain ⟨w, present, reacted⟩ := Option.bind_eq_some_iff.mp moved
    obtain ⟨others, kept⟩ := sound_react sound present (.inr (.inl rfl)) reacted
    exact quiet others rfl kept
  | shutDown now =>
    obtain ⟨w, present, reacted⟩ := Option.bind_eq_some_iff.mp moved
    obtain ⟨others, kept⟩ := sound_react sound present (.inr (.inr rfl)) reacted
    exact quiet others rfl kept
  | vanish =>
    obtain rfl := Option.some.inj moved
    refine quiet left rfl (sound.change rfl rfl rfl rfl ?_)
    intro w present
    cases present

theorem sound_play {moves : List Move} (sound : Sound group topic time start commands left s)
    (fit : ∀ command ∈ published moves, Fit start.store command) (played : play (act group topic) moves s = some t) :
    ∃ others, Sound group topic time start (commands ++ published moves) others t := by
  induction moves generalizing s commands left with
  | nil =>
    obtain rfl := Option.some.inj played
    exact ⟨left, by rw [show published [] = [] from rfl, List.append_nil]; exact sound⟩
  | cons move more ih =>
    have parts : published (move :: more) = published [move] ++ published more := by
      simp only [published, ← List.filterMap_append, List.singleton_append]
    rw [parts] at fit ⊢
    obtain ⟨s', moved, rest⟩ := Option.bind_eq_some_iff.mp played
    obtain ⟨others, soundNow⟩ := sound_act sound (fun c member => fit c (List.mem_append_left _ member)) moved
    rw [← List.append_assoc]
    exact ih soundNow (fun c member => fit c (List.mem_append_right _ member)) rest

/-- A fresh log carries nothing. -/
theorem sound_new (time : Int64) (n : Nat) (store : Store) (authority : Authority) (log : Log) :
    Sound group topic time ⟨store, authority, log⟩ [] [] { depot := ⟨store, authority, .new n⟩ } := by
  constructor
  · exact Log.carries_new n topic
  · exact Log.leaves_new n group topic
  · intro command member
    cases member
  · rfl
  · intro w present
    cases present

end Pipeline
end ModelDepot
