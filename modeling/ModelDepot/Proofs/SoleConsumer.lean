import ModelDepot.Proofs.ConsumerReactions
import ModelDepot.Proofs.LogReaders

/-!
A consumer for whose group nobody else commits, from its first step to its end, while others use the log as they
like. Main statement: it takes one record at a time to its end, and when it is over, its group stands behind the
records that it has handled (`obeys_run_law`).
-/
namespace ModelDepot

namespace Deed

def fetched? : Deed → Option LogRecord
  | .fetched record => some record
  | _ => none

def handled? : Deed → Option LogRecord
  | .handled record => some record
  | _ => none

def committed? : Deed → Option LogRecord
  | .committed record => some record
  | _ => none

def escalated? : Deed → Option ConsumerFailure
  | .escalated failure => some failure
  | _ => none

/-- The record that an attempt is due for: the last one fetched, when all before it are handled and committed. -/
def Due (deeds : List Deed) (record : LogRecord) : Prop :=
  deeds.filterMap fetched? = deeds.filterMap handled? ++ [record] ∧
    deeds.filterMap committed? = deeds.filterMap handled?

/-- Every attempt is made when it is due. -/
def InTurn (deeds : List Deed) : Prop :=
  ∀ before record after, deeds = before ++ .tried record :: after → Due before record

variable {deeds : List Deed}

theorem InTurn.concat {deed : Deed} (inTurn : InTurn deeds) (due : ∀ record, deed = .tried record → Due deeds record) :
    InTurn (deeds ++ [deed]) := by
  intro before record after split
  rcases List.eq_nil_or_concat after with rfl | ⟨more, last, rfl⟩
  · obtain ⟨rfl, same⟩ := List.append_inj' split rfl
    exact due record (List.singleton_inj.mp same)
  · rw [List.concat_eq_append, ← List.cons_append, ← List.append_assoc] at split
    exact inTurn before record more (List.append_inj' split rfl).1

end Deed

/-- A consumer at a log, and what it has done so far. -/
structure Solo where
  log : Log
  phase : ConsumerPhase := .subscribe
  deeds : List Deed := []

namespace Solo

inductive Move where
  | append (topic : String) (key value : List UInt8)
  | close
  | subscribe (group topic : String)
  /-- Someone commits for another group or in another topic. -/
  | commit (reader : LogReader) (record : LogRecord)
  /-- Something happens for which the consumer waits. -/
  | react (now : Duration) (happening : Happening)

def act (c : Consumer) : Move → Solo → Option Solo
  | .append topic key value, s =>
    match s.log.append topic key value with
    | .ok (_, log) => some { s with log := log }
    | .error _ => some s
  | .close, s => some { s with log := s.log.close }
  | .subscribe group topic, s =>
    match s.log.subscribe group topic with
    | .ok (_, log) => some { s with log := log }
    | .error _ => some s
  | .commit reader record, s =>
    if reader.group = c.group ∧ reader.topic = c.topic then none
    else
      match s.log.commit reader record with
      | .ok log => some { s with log := log }
      | .error _ => some s
  | .react now happening, s =>
    match s.phase, happening with
    -- Only the log itself answers a commit.
    | .commit _, .refused _ => none
    | phase, happening =>
      (c.react now s.log phase happening).map fun (step, log) =>
        { log := log, phase := step.phase, deeds := s.deeds ++ Consumer.deeds s.log phase happening step }

/-! ### The invariant -/

/-- How far a consumer is with what it has fetched. -/
def Stage : ConsumerPhase → (fetched handled committed : List LogRecord) → Prop
  | .subscribe, fetched, handled, committed => fetched = [] ∧ handled = [] ∧ committed = []
  | .fetch _, fetched, handled, committed => fetched = handled ∧ committed = handled
  | .handle d, fetched, handled, committed | .rest d _ _, fetched, handled, committed =>
    fetched = handled ++ [d.record] ∧ committed = handled
  | .commit d, fetched, handled, committed => fetched = handled ∧ handled = committed ++ [d.record]
  | .finished _, fetched, handled, committed | .crashed, fetched, handled, committed =>
    (fetched = handled ∨ ∃ record, fetched = handled ++ [record]) ∧ committed = handled

/-- The reader that a consumer has in some phases. -/
def readerOf? : ConsumerPhase → Option LogReader
  | .fetch reader => some reader
  | .handle d | .rest d _ _ | .commit d => some d.reader
  | .subscribe | .finished _ | .crashed => none

def fetched (s : Solo) : List LogRecord := s.deeds.filterMap Deed.fetched?
def handled (s : Solo) : List LogRecord := s.deeds.filterMap Deed.handled?
def committed (s : Solo) : List LogRecord := s.deeds.filterMap Deed.committed?
def escalated (s : Solo) : List ConsumerFailure := s.deeds.filterMap Deed.escalated?

/-- The reader of a consumer stands behind what was fetched. -/
def Reads (c : Consumer) (start : Log) (s : Solo) : Prop :=
  ∃ sub : Subscription, sub.reader.group = c.group ∧ sub.reader.topic = c.topic ∧
    sub.start = start.offsets c.group c.topic ∧ sub.fetched = s.fetched ∧ sub.Stands s.log ∧
    ∀ reader, readerOf? s.phase = some reader → reader = sub.reader

/-- The group stands where it began, with what was committed since. -/
def Tallies (c : Consumer) (start log : Log) (committed : List LogRecord) : Prop :=
  ∀ p, (log.offsets c.group c.topic)[p]? =
    (start.offsets c.group c.topic)[p]?.map (· + (LogRecord.ofPartition committed p).length)

/-- A failure of the handler is about the record that was fetched last, and it is not handled. -/
def Blames (s : Solo) : Prop :=
  ∀ (topic : String) (partition offset : Int) (attempts : Nat) (problem : HandlerError),
    .handler topic partition offset attempts problem ∈ s.escalated →
      ∃ record, s.fetched = s.handled ++ [record] ∧ topic = record.topic ∧ partition = record.partition ∧
        offset = record.offset

structure Sound (c : Consumer) (start : Log) (s : Solo) : Prop where
  inTurn : Deed.InTurn s.deeds
  stage : Stage s.phase s.fetched s.handled s.committed
  reads : s.Reads c start
  tallies : Tallies c start s.log s.committed
  escalates : s.escalated.length = if s.phase = .finished .fatal then 1 else 0
  blames : s.Blames

variable {c : Consumer} {start log after : Log} {phase next : ConsumerPhase} {deeds new : List Deed} {now : Duration}
  {happening : Happening} {s t : Solo}

/-! ### One step of the consumer -/

theorem inTurn_does (does : c.Does now log phase happening new next after)
    (stage : Stage phase (deeds.filterMap Deed.fetched?) (deeds.filterMap Deed.handled?) (deeds.filterMap Deed.committed?))
    (inTurn : Deed.InTurn deeds) : Deed.InTurn (deeds ++ new) := by
  have quietly : ∀ {deed : Deed}, (∀ record, deed ≠ .tried record) → Deed.InTurn (deeds ++ [deed]) :=
    fun quiet => inTurn.concat fun record is => (quiet record is).elim
  cases does with
  | @fetched reader further record found =>
    obtain ⟨fetched, committed⟩ := stage
    have first : Deed.InTurn (deeds ++ [.fetched record]) := quietly (by simp)
    rw [show deeds ++ [.fetched record, .tried record] = (deeds ++ [.fetched record]) ++ [.tried record] by simp]
    refine first.concat fun other same => ?_
    obtain rfl := Deed.tried.inj same
    simp [Deed.Due, List.filterMap_append, List.filterMap_cons, Deed.fetched?, Deed.handled?, Deed.committed?, fetched,
      committed]
  | retried d ending problem attempts =>
    refine inTurn.concat fun record same => ?_
    obtain rfl := Deed.tried.inj same
    exact stage
  | _ => first | exact quietly (by simp) | (rw [List.append_nil]; exact inTurn)

theorem stage_does (does : c.Does now log phase happening new next after) {fetched handled committed : List LogRecord}
    (stage : Stage phase fetched handled committed)
    (answered : ∀ d problem, phase = .commit d → happening ≠ .refused problem)
    (commits : ∀ d, phase = .commit d → ∃ after, log.commit d.reader d.record = .ok after) :
    Stage next (fetched ++ new.filterMap Deed.fetched?) (handled ++ new.filterMap Deed.handled?)
      (committed ++ new.filterMap Deed.committed?) := by
  cases does
  all_goals
    simp only [Stage, List.filterMap_cons, List.filterMap_nil, Deed.fetched?, Deed.handled?, Deed.committed?,
      List.append_nil] at stage ⊢
  case subscribed => exact ⟨stage.1.trans stage.2.1.symm, stage.2.2.trans stage.2.1.symm⟩
  case unsubscribed => exact ⟨.inl (stage.1.trans stage.2.1.symm), stage.2.2.trans stage.2.1.symm⟩
  case fetched => exact ⟨by rw [stage.1], stage.2⟩
  case handled => exact ⟨stage.1, by rw [stage.2]⟩
  case committed => exact ⟨stage.1, stage.2.symm⟩
  case uncommitted d problem unmoved =>
    obtain ⟨after, moved⟩ := commits d rfl
    rw [moved] at unmoved
    cases unmoved
  case refused d problem => exact (answered d problem rfl rfl).elim
  case waiting | failed | retried => exact stage
  case unfetched | stopped => exact ⟨.inl stage.1, stage.2⟩
  case gaveUp | crashed | abandoned => exact ⟨.inr ⟨_, stage.1⟩, stage.2⟩

/-- Where the record stands that was fetched last. -/
theorem Reads.place (reads : s.Reads c start) {earlier : List LogRecord} {record : LogRecord}
    (last : s.fetched = earlier ++ [record]) :
    ∃ p first : Nat, (start.offsets c.group c.topic)[p]? = some first ∧ record.topic = c.topic ∧ record.partition = p ∧
      record.offset = ((first + (LogRecord.ofPartition earlier p).length : Nat) : Int) := by
  obtain ⟨sub, -, topic, starts, fetched, stands, -⟩ := reads
  obtain ⟨p, first, begins, ofTopic, at_p, at_o⟩ := stands.place (fetched.trans last)
  exact ⟨p, first, starts ▸ begins, ofTopic.trans topic, at_p, at_o⟩

/-- What was fetched stays in its place while the reader of the consumer, if it has one, and the deeds do. -/
theorem Reads.onward (reads : s.Reads c start) (fetched : t.fetched = s.fetched)
    (readers : ∀ reader, readerOf? t.phase = some reader → readerOf? s.phase = some reader)
    (grown : ∀ p, s.log.stored c.topic p <+: t.log.stored c.topic p) : t.Reads c start := by
  obtain ⟨sub, group, topic, starts, same, stands, mine⟩ := reads
  refine ⟨sub, group, topic, starts, same.trans fetched.symm, stands.grow fun p => ?_, fun reader held =>
    mine reader (readers reader held)⟩
  rw [topic]
  exact grown p

theorem reads_does (does : c.Does now log phase happening new next after) (reads : Reads c start ⟨log, phase, deeds⟩)
    (opening : phase = .subscribe → deeds.filterMap Deed.fetched? = [] ∧
      log.offsets c.group c.topic = start.offsets c.group c.topic) :
    Reads c start ⟨after, next, deeds ++ new⟩ := by
  have unfetched : new.filterMap Deed.fetched? = [] →
      (deeds ++ new).filterMap Deed.fetched? = deeds.filterMap Deed.fetched? := fun none => by
    rw [List.filterMap_append, none, List.append_nil]
  cases does with
  | subscribed opened =>
    obtain ⟨none, same⟩ := opening rfl
    obtain ⟨rfl, -, -⟩ := Log.subscribe_eq_ok opened
    exact ⟨_, rfl, rfl, same, ((unfetched rfl).trans none).symm, Subscription.stands_new _, fun _ held =>
      (Option.some.inj held).symm⟩
  | @fetched reader further record found =>
    obtain ⟨sub, group, topic, starts, same, stands, mine⟩ := reads
    obtain rfl := mine reader rfl
    have kept : further.group = sub.reader.group ∧ further.topic = sub.reader.topic := by
      obtain ⟨_, _, _, -, -, -, rfl⟩ := LogReader.fetch_eq_record found
      exact ⟨rfl, rfl⟩
    refine ⟨sub.receive record further, kept.1.trans group, kept.2.trans topic, starts, ?_, stands.fetch found, fun _ held =>
      (Option.some.inj held).symm⟩
    show sub.fetched ++ [record] = (deeds ++ _).filterMap Deed.fetched?
    rw [same, List.filterMap_append]
    rfl
  | @committed d further moved =>
    refine reads.onward (unfetched rfl) (fun _ held => held) fun p => ?_
    rw [Log.stored_of_topic_eq (Log.topic_commit moved c.topic)]
  | waiting | handled | failed | retried | uncommitted | refused =>
    exact reads.onward (unfetched rfl) (fun _ held => held) fun _ => List.prefix_refl _
  | _ => exact reads.onward (unfetched rfl) (fun _ held => nomatch held) fun _ => List.prefix_refl _

/-- The record after those that are committed is committed without failure. -/
theorem Reads.commits {d : Delivery} (reads : Reads c start ⟨log, .commit d, deeds⟩) {earlier : List LogRecord}
    (last : deeds.filterMap Deed.fetched? = earlier ++ [d.record]) (tallies : Tallies c start log earlier) :
    ∃ p o : Nat, d.record.partition = p ∧ (log.offsets c.group c.topic)[p]? = some o ∧
      log.commit d.reader d.record =
        .ok (log.setOffsets c.group c.topic ((log.offsets c.group c.topic).set p (o + 1))) := by
  obtain ⟨p, first, begins, -, at_p, at_o⟩ := reads.place last
  have inside := tallies p
  rw [begins, Option.map_some] at inside
  obtain ⟨sub, group, topic, -, -, -, mine⟩ := reads
  have ofGroup : d.reader.group = c.group := (congrArg LogReader.group (mine d.reader rfl)).trans group
  have ofTopic : d.reader.topic = c.topic := (congrArg LogReader.topic (mine d.reader rfl)).trans topic
  rw [← ofGroup, ← ofTopic] at inside ⊢
  exact ⟨p, _, at_p, inside, by rw [Log.commit_of_inside at_p at_o inside, Nat.max_eq_right (Nat.le_succ _)]⟩

theorem tallies_committed {committed : List LogRecord} {record : LogRecord} {p o : Nat}
    (tallies : Tallies c start log committed) (at_p : record.partition = p)
    (inside : (log.offsets c.group c.topic)[p]? = some o) :
    Tallies c start (log.setOffsets c.group c.topic ((log.offsets c.group c.topic).set p (o + 1)))
      (committed ++ [record]) := by
  intro q
  rw [Log.offsets_setOffsets, if_pos ⟨rfl, rfl⟩, LogRecord.ofPartition_concat at_p]
  by_cases here : p = q
  · subst here
    have counted := tallies p
    rw [inside] at counted
    obtain ⟨first, begins, rfl⟩ := Option.map_eq_some_iff.mp counted.symm
    rw [List.getElem?_set_self (List.getElem?_eq_some_iff.mp inside).1, if_pos rfl, begins, List.length_append]
    rfl
  · rw [List.getElem?_set_ne here, if_neg here]
    exact tallies q

theorem alarm_does (does : c.Does now log phase happening new next after)
    (stage : Stage phase (deeds.filterMap Deed.fetched?) (deeds.filterMap Deed.handled?) (deeds.filterMap Deed.committed?))
    (none : deeds.filterMap Deed.escalated? = []) :
    (escalated ⟨after, next, deeds ++ new⟩).length = (if next = .finished .fatal then 1 else 0) ∧
      Blames ⟨after, next, deeds ++ new⟩ := by
  have only : escalated ⟨after, next, deeds ++ new⟩ = new.filterMap Deed.escalated? := by
    simp only [escalated, List.filterMap_append, none, List.nil_append]
  have quietly : new.filterMap Deed.escalated? = [] → next ≠ .finished .fatal →
      (escalated ⟨after, next, deeds ++ new⟩).length = (if next = .finished .fatal then 1 else 0) ∧
        Blames ⟨after, next, deeds ++ new⟩ := by
    intro quiet goesOn
    rw [quiet] at only
    rw [only, if_neg goesOn]
    refine ⟨rfl, fun topic partition offset attempts problem member => ?_⟩
    rw [only] at member
    cases member
  cases does with
  | unsubscribed _ problem =>
    refine ⟨by rw [only]; rfl, fun topic partition offset attempts other member => ?_⟩
    rw [only] at member
    cases List.mem_singleton.mp member
  | unfetched reader problem =>
    refine ⟨by rw [only]; rfl, fun topic partition offset attempts other member => ?_⟩
    rw [only] at member
    cases List.mem_singleton.mp member
  | gaveUp d problem =>
    refine ⟨by rw [only]; rfl, fun topic partition offset attempts other member => ?_⟩
    rw [only] at member
    cases List.mem_singleton.mp member
    refine ⟨d.record, ?_, rfl, rfl, rfl⟩
    simp [fetched, handled, List.filterMap_append, List.filterMap_cons, Deed.fetched?, Deed.handled?, stage.1]
  | @stopped reader _ exit calm => exact quietly rfl fun same => calm (ConsumerPhase.finished.inj same)
  | _ => exact quietly rfl nofun

theorem tallies_does (does : c.Does now log phase happening new next after) (reads : Reads c start ⟨log, phase, deeds⟩)
    (stage : Stage phase (deeds.filterMap Deed.fetched?) (deeds.filterMap Deed.handled?) (deeds.filterMap Deed.committed?))
    (tallies : Tallies c start log (deeds.filterMap Deed.committed?)) :
    Tallies c start after ((deeds ++ new).filterMap Deed.committed?) := by
  rw [List.filterMap_append]
  cases does with
  | subscribed opened =>
    intro p
    rw [(Log.subscribe_eq_ok opened).2.2, show List.filterMap Deed.committed? [] = [] from rfl, List.append_nil]
    exact tallies p
  | @committed d further moved =>
    obtain ⟨p, o, at_p, inside, moves⟩ := reads.commits (stage.1.trans stage.2) tallies
    obtain rfl := Except.ok.inj (moved.symm.trans moves)
    exact tallies_committed tallies at_p inside
  | _ => exact (List.append_nil _).symm ▸ tallies

/-- What one step of the consumer keeps. -/
theorem sound_does (sound : s.Sound c start)
    (answered : ∀ d problem, s.phase = .commit d → happening ≠ .refused problem)
    (does : c.Does now s.log s.phase happening new next after) : Sound c start ⟨after, next, s.deeds ++ new⟩ := by
  obtain ⟨log, phase, deeds⟩ := s
  obtain ⟨inTurn, stage, reads, tallies, escalates, blames⟩ := sound
  have commits : ∀ d, phase = .commit d → ∃ further, log.commit d.reader d.record = .ok further := by
    rintro d rfl
    obtain ⟨_, _, _, _, moves⟩ := reads.commits (stage.1.trans stage.2) tallies
    exact ⟨_, moves⟩
  have opening : phase = .subscribe → deeds.filterMap Deed.fetched? = [] ∧
      log.offsets c.group c.topic = start.offsets c.group c.topic := by
    rintro rfl
    obtain ⟨fetched, -, committed⟩ := stage
    refine ⟨fetched, List.ext_getElem? fun p => ?_⟩
    rw [tallies p, committed]
    exact Option.map_id'
  have none : deeds.filterMap Deed.escalated? = [] := by
    have goesOn : phase ≠ .finished .fatal := by cases does <;> nofun
    rw [if_neg goesOn] at escalates
    exact List.length_eq_zero_iff.mp escalates
  obtain ⟨alarms, blames⟩ := alarm_does does stage none
  refine ⟨inTurn_does does stage inTurn, ?_, reads_does does reads opening, tallies_does does reads stage tallies,
    alarms, blames⟩
  simp only [fetched, handled, committed, List.filterMap_append]
  exact stage_does does stage answered commits

/-! ### What others do -/

/-- What others do to a log leaves the records of the topic in their places and the offsets of the group as they are. -/
structure Spared (c : Consumer) (log after : Log) : Prop where
  grown : ∀ p, log.stored c.topic p <+: after.stored c.topic p
  offsets : after.offsets c.group c.topic = log.offsets c.group c.topic

theorem spared_append {name : String} {key value : List UInt8} {place : Nat × Nat}
    (appended : log.append name key value = .ok (place, after)) : Spared c log after :=
  ⟨(Log.grows_append appended).stored c.topic, Log.offsets_append appended c.group c.topic⟩

theorem spared_subscribe {group topic : String} {reader : LogReader}
    (subscribed : log.subscribe group topic = .ok (reader, after)) : Spared c log after := by
  obtain ⟨-, -, offsets⟩ := Log.subscribe_eq_ok subscribed
  exact ⟨(Log.grows_subscribe subscribed).stored c.topic, offsets c.group c.topic⟩

theorem spared_commit {reader : LogReader} {record : LogRecord}
    (elsewhere : ¬ (reader.group = c.group ∧ reader.topic = c.topic))
    (committed : log.commit reader record = .ok after) : Spared c log after := by
  refine ⟨(Log.grows_commit committed).stored c.topic, ?_⟩
  obtain ⟨_, _, rfl⟩ := Log.commit_eq_ok committed
  rw [Log.offsets_setOffsets, if_neg fun mine => elsewhere ⟨mine.1.symm, mine.2.symm⟩]

/-- A move is one of others, or a step of the consumer. -/
theorem act_cases {move : Move} (moved : act c move s = some t) :
    (∃ after, Spared c s.log after ∧ t = { s with log := after }) ∨
      ∃ now happening new next after, (∀ d problem, s.phase = .commit d → happening ≠ .refused problem) ∧
        c.Does now s.log s.phase happening new next after ∧ t = ⟨after, next, s.deeds ++ new⟩ := by
  have unmoved : ∃ after, Spared c s.log after ∧ s = { s with log := after } :=
    ⟨s.log, ⟨fun _ => List.prefix_refl _, rfl⟩, rfl⟩
  cases move with
  | append name key value =>
    simp only [act] at moved
    split at moved
    · rename_i appended
      exact .inl ⟨_, spared_append appended, (Option.some.inj moved).symm⟩
    · exact .inl (Option.some.inj moved ▸ unmoved)
  | close => exact .inl ⟨s.log.close, ⟨fun _ => List.prefix_refl _, rfl⟩, (Option.some.inj moved).symm⟩
  | subscribe group topic =>
    simp only [act] at moved
    split at moved
    · rename_i subscribed
      exact .inl ⟨_, spared_subscribe subscribed, (Option.some.inj moved).symm⟩
    · exact .inl (Option.some.inj moved ▸ unmoved)
  | commit reader record =>
    simp only [act] at moved
    split at moved
    · cases moved
    · rename_i elsewhere
      split at moved
      · rename_i committed
        exact .inl ⟨_, spared_commit elsewhere committed, (Option.some.inj moved).symm⟩
      · exact .inl (Option.some.inj moved ▸ unmoved)
  | react now happening =>
    simp only [act] at moved
    split at moved
    · cases moved
    · rename_i answered
      obtain ⟨⟨step, after⟩, reacted, rfl⟩ := Option.map_eq_some_iff.mp moved
      exact .inr ⟨now, _, _, _, _, answered, Consumer.does_of_react reacted, rfl⟩

theorem sound_spared (sound : s.Sound c start) (spared : Spared c s.log after) : Sound c start { s with log := after } := by
  refine ⟨sound.inTurn, sound.stage, sound.reads.onward rfl (fun _ held => held) spared.grown, fun p => ?_,
    sound.escalates, sound.blames⟩
  rw [spared.offsets]
  exact sound.tallies p

theorem sound_act {move : Move} (sound : s.Sound c start) (moved : act c move s = some t) : t.Sound c start := by
  rcases act_cases moved with ⟨after, spared, rfl⟩ | ⟨now, happening, new, next, after, answered, does, rfl⟩
  · exact sound_spared sound spared
  · exact sound_does sound answered does

theorem sound_new (c : Consumer) (start : Log) : Sound c start { log := start } where
  inTurn before record after split := by cases before <;> cases split
  stage := ⟨rfl, rfl, rfl⟩
  reads := ⟨⟨⟨c.group, c.topic, start.offsets c.group c.topic, 0⟩, start.offsets c.group c.topic, []⟩, rfl, rfl, rfl, rfl,
    Subscription.stands_new _, nofun⟩
  tallies p := Option.map_id'.symm
  escalates := rfl
  blames topic partition offset attempts problem told := (List.not_mem_nil told).elim

/-! ### A whole run -/

/-- The consumer has come to an end, of its own or by a crash. -/
def isOver : ConsumerPhase → Bool
  | .finished _ | .crashed => true
  | _ => false

/-- The law of a run that began at a log. -/
structure RunLaw (c : Consumer) (start : Log) (s : Solo) : Prop where
  /-- A record is handed over only once all that was fetched before it is handled and committed. -/
  inTurn : Deed.InTurn s.deeds
  placed : ∀ record ∈ s.fetched, ∃ p : Nat, record.partition = p
  /-- Records of a partition are fetched and handled at consecutive offsets, from where the group had committed. -/
  fetches : ∀ p, LogRecord.ofPartition s.fetched p <+:
    (s.log.records c.topic p).drop (start.doneWith c.group c.topic p)
  handles : ∀ p, LogRecord.ofPartition s.handled p <+:
    (s.log.records c.topic p).drop (start.doneWith c.group c.topic p)
  /-- Whoever runs the consumer is told of one failure if it ends so, and of none otherwise. -/
  escalates : s.escalated.length = if s.phase = .finished .fatal then 1 else 0
  settles : isOver s.phase → ∀ p, s.log.doneWith c.group c.topic p =
    start.doneWith c.group c.topic p + (LogRecord.ofPartition s.handled p).length
  /-- The group stands at the record that was fetched and is not handled, be it given up or abandoned. -/
  stays : ∀ record : LogRecord, s.fetched = s.handled ++ [record] →
    record.topic = c.topic ∧ ∃ p : Nat, record.partition = p ∧ record.offset = s.log.doneWith c.group c.topic p
  /-- So it does after a failure of the handler. -/
  stuck : ∀ (topic : String) (partition offset : Int) (attempts : Nat) (problem : HandlerError),
    .handler topic partition offset attempts problem ∈ s.escalated →
      topic = c.topic ∧ ∃ p : Nat, partition = p ∧ offset = s.log.doneWith c.group c.topic p

theorem Stage.prefixes {fetched handled committed : List LogRecord} (stage : Stage phase fetched handled committed) :
    committed <+: handled ∧ handled <+: fetched := by
  cases phase with
  | subscribe =>
    obtain ⟨rfl, rfl, rfl⟩ := stage
    exact ⟨List.prefix_refl _, List.prefix_refl _⟩
  | fetch reader =>
    obtain ⟨rfl, rfl⟩ := stage
    exact ⟨List.prefix_refl _, List.prefix_refl _⟩
  | handle d | rest d ending problem =>
    obtain ⟨rfl, rfl⟩ := stage
    exact ⟨List.prefix_refl _, List.prefix_append _ _⟩
  | commit d =>
    obtain ⟨rfl, rfl⟩ := stage
    exact ⟨List.prefix_append _ _, List.prefix_refl _⟩
  | finished exit | crashed =>
    obtain ⟨rfl | ⟨record, rfl⟩, rfl⟩ := stage
    · exact ⟨List.prefix_refl _, List.prefix_refl _⟩
    · exact ⟨List.prefix_refl _, List.prefix_append _ _⟩

/-- The group is done with as many records more as are committed. -/
theorem Sound.doneWith_eq (sound : s.Sound c start) (p : Nat) : s.log.doneWith c.group c.topic p =
    start.doneWith c.group c.topic p + (LogRecord.ofPartition s.committed p).length := by
  rw [Log.doneWith, Log.doneWith, sound.tallies p]
  cases begins : (start.offsets c.group c.topic)[p]? with
  | some first => rfl
  | none =>
    obtain ⟨sub, -, -, starts, fetched, stands, -⟩ := sound.reads
    have nothing : LogRecord.ofPartition s.committed p = [] := by
      rw [LogRecord.ofPartition, List.filter_eq_nil_iff]
      intro record member
      have isFetched := (sound.stage.prefixes.1.trans sound.stage.prefixes.2).subset member
      obtain ⟨q, inside, at_q⟩ := stands.placed record (fetched ▸ isFetched)
      rw [starts] at inside
      have outside := List.getElem?_eq_none_iff.mp begins
      rw [at_q, beq_iff_eq]
      omega
    rw [nothing]
    rfl

/-- A record that is fetched and not handled is the next one after those that are committed. -/
theorem Stage.committed_eq {fetched handled committed : List LogRecord} {record : LogRecord}
    (stage : Stage phase fetched handled committed) (waits : fetched = handled ++ [record]) : committed = handled := by
  cases phase with
  | subscribe => exact stage.2.2.trans stage.2.1.symm
  | fetch reader => exact stage.2
  | handle d | rest d ending problem => exact stage.2
  | commit d => simp [stage.1] at waits
  | finished exit | crashed => exact stage.2

theorem Sound.fetches (sound : s.Sound c start) (p : Nat) : LogRecord.ofPartition s.fetched p <+:
    (s.log.records c.topic p).drop (start.doneWith c.group c.topic p) := by
  obtain ⟨sub, -, topic, starts, fetched, stands, -⟩ := sound.reads
  have taken := stands.taken p
  rw [Subscription.taken, fetched, topic, Subscription.startOf, starts] at taken
  exact taken

theorem Sound.stays (sound : s.Sound c start) {record : LogRecord} (waits : s.fetched = s.handled ++ [record]) :
    record.topic = c.topic ∧ ∃ p : Nat, record.partition = p ∧ record.offset = s.log.doneWith c.group c.topic p := by
  obtain ⟨p, first, begins, ofTopic, at_p, at_o⟩ := sound.reads.place waits
  refine ⟨ofTopic, p, at_p, ?_⟩
  rw [at_o, sound.doneWith_eq, sound.stage.committed_eq waits, Log.doneWith, begins]
  rfl

theorem Sound.runLaw (sound : s.Sound c start) : s.RunLaw c start where
  inTurn := sound.inTurn
  placed record member := by
    obtain ⟨sub, -, -, -, fetched, stands, -⟩ := sound.reads
    obtain ⟨p, -, at_p⟩ := stands.placed record (fetched ▸ member)
    exact ⟨p, at_p⟩
  fetches := sound.fetches
  handles p := (sound.stage.prefixes.2.filter _).trans (sound.fetches p)
  escalates := sound.escalates
  settles ended p := by
    have settled : s.committed = s.handled := by
      have stage := sound.stage
      cases phase : s.phase with
      | finished exit => rw [phase] at stage; exact stage.2
      | crashed => rw [phase] at stage; exact stage.2
      | _ => rw [phase] at ended; cases ended
    rw [sound.doneWith_eq, settled]
  stays _ := sound.stays
  stuck topic partition offset attempts problem told := by
    obtain ⟨record, waits, rfl, rfl, rfl⟩ := sound.blames topic partition offset attempts problem told
    exact sound.stays waits

/-- Once a consumer has come to its end, it does nothing any more, and its group stays where it is. -/
theorem act_over {move : Move} (ended : isOver s.phase) (moved : act c move s = some t) :
    t.phase = s.phase ∧ t.deeds = s.deeds ∧ t.log.offsets c.group c.topic = s.log.offsets c.group c.topic := by
  rcases act_cases moved with ⟨after, spared, rfl⟩ | ⟨now, happening, new, next, after, -, does, rfl⟩
  · exact ⟨rfl, rfl, spared.offsets⟩
  · generalize s.phase = phase at ended does
    cases does <;> cases ended

/-- Whatever happens to a consumer for whose group nobody else commits, from any log on, it obeys the law of its run,
    and once it has come to an end, that is how it stays. -/
theorem obeys_run_law {moves : List Move} (reached : play (act c) moves { log := start } = some s) :
    s.RunLaw c start ∧ ∀ more t, isOver s.phase → play (act c) more s = some t →
      t.phase = s.phase ∧ t.deeds = s.deeds ∧
        ∀ p, t.log.doneWith c.group c.topic p = s.log.doneWith c.group c.topic p := by
  have sound := play_keeps (fun _ _ _ => sound_act) (sound_new c start) reached
  refine ⟨sound.runLaw, fun more t ended played => ?_⟩
  have kept : ∀ move u v, u.phase = s.phase ∧ u.deeds = s.deeds ∧
      u.log.offsets c.group c.topic = s.log.offsets c.group c.topic → act c move u = some v →
      v.phase = s.phase ∧ v.deeds = s.deeds ∧ v.log.offsets c.group c.topic = s.log.offsets c.group c.topic := by
    rintro move u v ⟨phase, deeds, offsets⟩ moved
    obtain ⟨phaseV, deedsV, offsetsV⟩ := act_over (phase ▸ ended) moved
    exact ⟨phaseV.trans phase, deedsV.trans deeds, offsetsV.trans offsets⟩
  obtain ⟨phase, deeds, offsets⟩ := play_keeps kept ⟨rfl, rfl, rfl⟩ played
  exact ⟨phase, deeds, fun p => by rw [Log.doneWith, Log.doneWith, offsets]⟩

/-- The first record is handled in a second attempt, and the other one is given up. -/
def halfway : List Move :=
  let failure : Except HandlerError Unit := .error (.other "down")
  [.react .zero .answered, .append "t" [1] [10], .append "t" [1] [11], .react .zero .answered,
    .react .zero (.handled failure), .react (.ofSeconds 1) .rested, .react (.ofSeconds 1) (.handled (.ok ())),
    .react (.ofSeconds 1) .answered, .react (.ofSeconds 2) .answered, .react (.ofSeconds 900) (.handled failure)]

theorem obeys_run_law_halfway :
    let c : Consumer := { topic := "t", group := "g" }
    ∃ s, play (act c) halfway { log := .new 1 } = some s ∧ s.phase = .finished .fatal ∧
      s.log.doneWith "g" "t" 0 = 1 ∧ s.RunLaw c (.new 1) ∧
      ∀ more t, isOver s.phase → play (act c) more s = some t →
        t.phase = s.phase ∧ t.deeds = s.deeds ∧ ∀ p, t.log.doneWith "g" "t" p = s.log.doneWith "g" "t" p := by
  intro c
  have played : (play (act c) halfway { log := .new 1 }).map (fun s => (s.phase, s.log.doneWith "g" "t" 0)) =
      some (.finished .fatal, 1) := by decide
  obtain ⟨s, reached, ends⟩ := Option.map_eq_some_iff.mp played
  obtain ⟨phase, done⟩ := Prod.mk.inj ends
  obtain ⟨law, stays⟩ := obeys_run_law reached
  exact ⟨s, reached, phase, done, law, stays⟩

end Solo

end ModelDepot
