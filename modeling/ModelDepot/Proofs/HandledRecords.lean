import ModelDepot.Proofs.ConsumerReactions
import ModelDepot.Proofs.Play

/-!
Any number of consumers at one log. Groups share what they have committed, so a commit of one
consumer covers records that only others have seen. Main statement: whatever happens, and in whatever
order, each record before a committed offset was handled by a consumer of the group (`committed_handled`).
-/
namespace ModelDepot

/-- A log with the consumers that came to it, and which records they have handled successfully. -/
structure Crew where
  log : Log
  consumers : List (Consumer × ConsumerPhase) := []
  handled : List (Consumer × LogRecord) := []

namespace Crew

inductive Move where
  | append (topic : String) (key value : List UInt8)
  | close
  /-- One more consumer comes. -/
  | join (consumer : Consumer)
  /-- Something happens for which the consumer with the given number waits. -/
  | react (number : Nat) (now : Duration) (happening : Happening)

def act : Move → Crew → Option Crew
  | .append topic key value, s =>
    match s.log.append topic key value with
    | .ok (_, log) => some { s with log := log }
    | .error _ => some s
  | .close, s => some { s with log := s.log.close }
  | .join consumer, s => some { s with consumers := s.consumers ++ [(consumer, .subscribe)] }
  | .react number now happening, s =>
    match s.consumers[number]? with
    | none => none
    | some (c, phase) =>
      (c.react now s.log phase happening).map fun (step, log) =>
        { log := log
          consumers := s.consumers.set number (c, step.phase)
          handled := ((Consumer.succeeds phase happening).map (c, ·)).toList ++ s.handled }

/-! ### The invariant -/

/-- The record at a place was handled by a consumer of the group at the topic. -/
def Handled (s : Crew) (group topic : String) (p o : Nat) : Prop :=
  ∃ entry, s.log.entryAt? topic p o = some entry ∧
    ∃ c, (c, ⟨topic, p, o, entry.key, entry.value⟩) ∈ s.handled ∧ c.group = group ∧ c.topic = topic

/-- Everything before the positions of a reader was handled, but for one place. -/
def HandledBefore (s : Crew) (reader : LogReader) (but : Option (Nat × Nat)) : Prop :=
  ∀ p position, reader.positions[p]? = some position →
    ∀ o < position, but ≠ some (p, o) → s.Handled reader.group reader.topic p o

/-- The reader of a consumer stands behind the record that is delivered, which was taken from the
    log. -/
structure Delivers (s : Crew) (c : Consumer) (d : Delivery) (p o : Nat) : Prop where
  group : d.reader.group = c.group
  topic : d.reader.topic = c.topic
  behind : d.reader.positions[p]? = some (o + 1)
  taken : ∃ entry, s.log.entryAt? d.reader.topic p o = some entry ∧
    d.record = ⟨d.reader.topic, p, o, entry.key, entry.value⟩

/-- How far a consumer is in each phase. -/
def Stands (s : Crew) (c : Consumer) : ConsumerPhase → Prop
  | .fetch reader => reader.group = c.group ∧ reader.topic = c.topic ∧ s.HandledBefore reader none
  | .handle d | .rest d _ _ => ∃ p o, s.Delivers c d p o ∧ s.HandledBefore d.reader (some (p, o))
  | .commit d => ∃ p o, s.Delivers c d p o ∧ s.HandledBefore d.reader none
  | .subscribe | .finished _ | .crashed => True

/-- Committed records are handled, and so is what consumers have read. -/
structure Sound (s : Crew) : Prop where
  committed : ∀ group topic p, ∀ o < s.log.doneWith group topic p, s.Handled group topic p o
  consumers : ∀ c phase, (c, phase) ∈ s.consumers → s.Stands c phase

/-! ### What moves do not take away -/

/-- The other state knows all that this one knows: its records, and that they were handled. -/
structure Extends (s t : Crew) : Prop where
  entries : ∀ topic p o entry, s.log.entryAt? topic p o = some entry →
    t.log.entryAt? topic p o = some entry
  handled : ∀ item ∈ s.handled, item ∈ t.handled

variable {s t : Crew}

theorem Handled.extend (more : Extends s t) {group topic : String} {p o : Nat}
    (done : s.Handled group topic p o) : t.Handled group topic p o := by
  obtain ⟨entry, stored, c, member, same⟩ := done
  exact ⟨entry, more.entries _ _ _ _ stored, c, more.handled _ member, same⟩

theorem HandledBefore.extend (more : Extends s t) {reader : LogReader} {but : Option (Nat × Nat)}
    (before : s.HandledBefore reader but) : t.HandledBefore reader but := by
  intro p position at_p o below other
  exact (before p position at_p o below other).extend more

theorem Delivers.extend (more : Extends s t) {c : Consumer} {d : Delivery} {p o : Nat}
    (delivers : s.Delivers c d p o) : t.Delivers c d p o := by
  obtain ⟨entry, stored, record⟩ := delivers.taken
  exact { delivers with taken := ⟨entry, more.entries _ _ _ _ stored, record⟩ }

theorem Stands.extend (more : Extends s t) {c : Consumer} {phase : ConsumerPhase}
    (stands : s.Stands c phase) : t.Stands c phase := by
  cases phase with
  | fetch reader => exact ⟨stands.1, stands.2.1, stands.2.2.extend more⟩
  | handle d =>
    obtain ⟨p, o, delivers, before⟩ := stands
    exact ⟨p, o, delivers.extend more, before.extend more⟩
  | rest d ending lastError =>
    obtain ⟨p, o, delivers, before⟩ := stands
    exact ⟨p, o, delivers.extend more, before.extend more⟩
  | commit d =>
    obtain ⟨p, o, delivers, before⟩ := stands
    exact ⟨p, o, delivers.extend more, before.extend more⟩
  | subscribe => trivial
  | finished exit => trivial
  | crashed => trivial

/-- A move that leaves the committed offsets and the consumers alone. -/
theorem Sound.extend (sound : s.Sound) (more : Extends s t)
    (offsets : ∀ group topic p, t.log.doneWith group topic p = s.log.doneWith group topic p)
    (same : ∀ item ∈ t.consumers, item ∈ s.consumers ∨ item.2 = .subscribe) : t.Sound := by
  constructor
  · intro group topic p o below
    rw [offsets] at below
    exact (sound.committed group topic p o below).extend more
  · intro c phase member
    rcases same _ member with old | new
    · exact (sound.consumers c phase old).extend more
    · obtain rfl : phase = .subscribe := new
      trivial

/-! ### One consumer -/

/-- The record that a fetch takes is the one place before the positions that may be open. -/
theorem stands_fetched {c : Consumer} {reader after : LogReader} {record : LogRecord}
    (stands : s.Stands c (.fetch reader)) (fetched : reader.fetch s.log = .record record after)
    (now : Duration) : s.Stands c (.handle ⟨after, record, now, 1⟩) := by
  obtain ⟨group, topic, before⟩ := stands
  obtain ⟨p, o, entry, at_p, stored, recordIs, afterIs⟩ := LogReader.fetch_eq_record fetched
  have positions : ∀ q, after.positions[q]? =
      if p = q then (reader.positions[q]?).map (· + 1) else reader.positions[q]? := by
    intro q
    rw [afterIs]
    exact reader.positions_pass p _ q
  have readerIs : after.group = reader.group ∧ after.topic = reader.topic := by
    rw [afterIs]
    exact ⟨rfl, rfl⟩
  refine ⟨p, o, ⟨readerIs.1.trans group, readerIs.2.trans topic, ?_, entry, ?_, ?_⟩, ?_⟩
  · rw [positions, if_pos rfl, at_p]; rfl
  · rw [readerIs.2]; exact stored
  · rw [recordIs, readerIs.2]
  · intro q position at_q o' below other
    rw [readerIs.1, readerIs.2]
    rw [positions] at at_q
    by_cases here : p = q
    · subst here
      rw [if_pos rfl, at_p] at at_q
      have positionIs : o + 1 = position := Option.some.inj at_q
      have earlier : o' ≠ o := fun same => other (by rw [same])
      exact before p o at_p o' (by omega) (by simp)
    · rw [if_neg here] at at_q
      exact before q position at_q o' below (by simp)

/-- Once the delivered record is handled, nothing before the positions is open. -/
theorem handledBefore_of_delivers {c : Consumer} {d : Delivery} {p o : Nat} (delivers : s.Delivers c d p o)
    (before : s.HandledBefore d.reader (some (p, o))) (member : (c, d.record) ∈ s.handled) :
    s.HandledBefore d.reader none := by
  intro q position at_q o' below _
  by_cases here : (p, o) = (q, o')
  · obtain ⟨rfl, rfl⟩ := Prod.mk.inj here
    obtain ⟨entry, stored, recordIs⟩ := delivers.taken
    exact ⟨entry, stored, c, recordIs ▸ member, delivers.group.symm, delivers.topic.symm⟩
  · exact before q position at_q o' below (fun same => here (Option.some.inj same))

/-- A reader that starts at the committed offsets stands behind handled records. -/
theorem handledBefore_committed (sound : s.Sound) (group topic : String) (turn : Nat) :
    s.HandledBefore ⟨group, topic, s.log.offsets group topic, turn⟩ none := by
  intro p position at_p o below _
  apply sound.committed
  unfold Log.doneWith
  rw [show (s.log.offsets group topic)[p]? = some position from at_p]
  exact below

/-! ### Steps and runs -/

/-- The state after a step of a consumer, which stays as it was itself. -/
def stepped (s : Crew) (c : Consumer) (done : Option LogRecord) (log : Log) : Crew :=
  { s with log := log, handled := (done.map (c, ·)).toList ++ s.handled }

theorem extends_stepped {c : Consumer} {now : Duration} {phase next : ConsumerPhase} {done : Option LogRecord}
    {after : Log} (reacts : c.Reacts now s.log phase done next after) :
    Extends s (s.stepped c done after) := by
  have topics : ∀ topic, after.topic topic = s.log.topic topic ∨ after = s.log := by
    intro topic
    cases reacts with
    | subscribed opened => exact .inl ((Log.subscribe_eq_ok opened).2.1 topic)
    | committed moved => exact .inl (Log.topic_commit moved topic)
    | _ => exact .inr rfl
  constructor
  · intro topic p o entry stored
    unfold Log.entryAt? at stored ⊢
    rcases topics topic with same | same
    · rw [show (s.stepped c done after).log.topic topic = s.log.topic topic from same]
      exact stored
    · rw [show (s.stepped c done after).log = s.log from same]
      exact stored
  · intro item member
    exact List.mem_append_right _ member

/-- A step of a consumer keeps committed records handled, and leads the consumer on. -/
theorem sound_stepped {c : Consumer} {now : Duration} {phase next : ConsumerPhase} {done : Option LogRecord}
    {after : Log} (sound : s.Sound) (stands : s.Stands c phase) (reacts : c.Reacts now s.log phase done next after) :
    (s.stepped c done after).Sound ∧ (s.stepped c done after).Stands c next := by
  have more := extends_stepped reacts
  have unmoved : (∀ group topic p, after.doneWith group topic p = s.log.doneWith group topic p) →
      (s.stepped c done after).Sound := fun offsets => sound.extend more offsets fun _ member => .inl member
  cases reacts with
  | subscribed opened =>
    obtain ⟨rfl, topics, offsets⟩ := Log.subscribe_eq_ok opened
    refine ⟨unmoved fun group topic p => by unfold Log.doneWith; rw [offsets], rfl, rfl, ?_⟩
    exact (handledBefore_committed sound c.group c.topic 0).extend more
  | fetched found => exact ⟨unmoved fun _ _ _ => rfl, (stands_fetched stands found now).extend more⟩
  | waiting reader => exact ⟨unmoved fun _ _ _ => rfl, stands.extend more⟩
  | handled d =>
    obtain ⟨p, o, delivers, before⟩ := stands.extend more
    have member : (c, d.record) ∈ (s.stepped c (some d.record) s.log).handled := List.mem_cons_self
    exact ⟨unmoved fun _ _ _ => rfl, p, o, delivers, handledBefore_of_delivers delivers before member⟩
  | failed d ending problem => exact ⟨unmoved fun _ _ _ => rfl, stands.extend more⟩
  | rested d ending problem attempts =>
    obtain ⟨p, o, delivers, before⟩ := stands.extend more
    exact ⟨unmoved fun _ _ _ => rfl, p, o, { delivers with }, before⟩
  | @committed d after moved =>
    obtain ⟨p, o, delivers, before⟩ := stands
    obtain ⟨entry, stored, recordIs⟩ := delivers.taken
    have counts := Log.doneWith_commit (by rw [recordIs]) (by rw [recordIs]) moved
    refine ⟨⟨?_, ?_⟩, delivers.group, delivers.topic, before.extend more⟩
    · intro group topic q o' below
      apply Handled.extend more
      rw [show (s.stepped c none after).log = after from rfl, counts] at below
      split at below
      · rename_i mine
        obtain ⟨rfl, rfl, rfl⟩ := mine
        -- The commit covers what was committed before and what the reader has behind it.
        rcases Nat.lt_or_ge o' (o + 1) with read | further
        · exact before q (o + 1) delivers.behind o' read (by simp)
        · exact sound.committed d.reader.group d.reader.topic q o' (by omega)
      · exact sound.committed group topic q o' below
    · intro c' phase' member
      exact (sound.consumers c' phase' member).extend more
  | uncommitted d =>
    obtain ⟨p, o, delivers, before⟩ := stands.extend more
    exact ⟨unmoved fun _ _ _ => rfl, delivers.group, delivers.topic, before⟩
  | ended exit => exact ⟨unmoved fun _ _ _ => rfl, trivial⟩
  | crashed => exact ⟨unmoved fun _ _ _ => rfl, trivial⟩

theorem sound_act {move : Move} (sound : s.Sound) (moved : act move s = some t) : t.Sound := by
  cases move with
  | append topic key value =>
    simp only [act] at moved
    split at moved
    · rename_i place log appended
      obtain rfl := Option.some.inj moved
      refine sound.extend ⟨fun _ _ _ _ stored => Log.entryAt?_append appended stored, fun _ member => member⟩ ?_
        fun _ member => .inl member
      intro group topic p
      show log.doneWith group topic p = _
      unfold Log.doneWith
      rw [Log.offsets_append appended]
    · obtain rfl := Option.some.inj moved
      exact sound
  | close =>
    obtain rfl := Option.some.inj moved
    exact sound.extend ⟨fun _ _ _ _ stored => stored, fun _ member => member⟩ (fun _ _ _ => rfl)
      fun _ member => .inl member
  | join consumer =>
    obtain rfl := Option.some.inj moved
    refine sound.extend ⟨fun _ _ _ _ stored => stored, fun _ member => member⟩ (fun _ _ _ => rfl) ?_
    intro item member
    rcases List.mem_append.mp member with old | new
    · exact .inl old
    · exact .inr (by rw [List.mem_singleton.mp new])
  | react number now happening =>
    simp only [act] at moved
    split at moved
    · simp at moved
    · rename_i c phase found
      obtain ⟨⟨step, log⟩, reacted, rfl⟩ := Option.map_eq_some_iff.mp moved
      have stands := sound.consumers c phase (List.mem_of_getElem? found)
      obtain ⟨kept, onward⟩ := sound_stepped sound stands (Consumer.reacts_of_react reacted)
      have same : Extends (s.stepped c (Consumer.succeeds phase happening) log)
          { log := log
            consumers := s.consumers.set number (c, step.phase)
            handled := ((Consumer.succeeds phase happening).map (c, ·)).toList ++ s.handled } :=
        ⟨fun _ _ _ _ stored => stored, fun _ member => member⟩
      refine ⟨kept.committed, ?_⟩
      intro c' phase' member
      rcases List.mem_or_eq_of_mem_set member with old | new
      · exact (kept.consumers c' phase' old).extend same
      · obtain ⟨rfl, rfl⟩ := Prod.mk.inj new
        exact onward.extend same

/-- From a log without commits, whatever is appended and whatever happens to consumers of any groups,
    each record before a committed offset is stored and was handled by a consumer of the group. -/
theorem committed_handled {log : Log}
    (uncommitted : ∀ group topic partition, log.committedOffset? group topic partition = none)
    {moves : List Move} {s : Crew} (reached : play act moves { log := log } = some s)
    {group topic : String} {partition : Int} {count : Nat}
    (committed : s.log.committedOffset? group topic partition = some count) {offset : Nat} (below : offset < count) :
    ∃ entry, s.log.entryAt? topic partition.toNat offset = some entry ∧
      ∃ c, (c, ⟨topic, partition, offset, entry.key, entry.value⟩) ∈ s.handled ∧
        c.group = group ∧ c.topic = topic := by
  have start : Sound { log := log } := by
    constructor
    · intro g n p o before
      have none := uncommitted g n p
      have some : log.committedOffset? g n p = .some (log.doneWith g n p) :=
        Log.committedOffset?_eq_some_iff.mpr ⟨by omega, Nat.zero_lt_of_lt before, rfl⟩
      rw [none] at some
      cases some
    · intro c phase member
      cases member
  have sound := play_keeps (fun _ _ _ => sound_act) start reached
  obtain ⟨natural, _, countIs⟩ := Log.committedOffset?_eq_some_iff.mp committed
  have handled := sound.committed group topic partition.toNat offset (by omega)
  unfold Handled at handled
  rw [Int.toNat_of_nonneg natural] at handled
  exact handled

/-- Two consumers of a group read the same records, and one of them commits both. -/
def relay : List Move :=
  let c : Consumer := { topic := "t", group := "g" }
  [.append "t" [1] [10], .append "t" [2] [20], .join c, .join { c with debug := true },
    .react 0 .zero .answered, .react 1 .zero .answered, .react 0 .zero .answered, .react 1 .zero .answered,
    .react 1 .zero (.handled (.ok ())), .react 0 .zero (.handled (.ok ())), .react 0 .zero .answered,
    .react 0 .zero .answered, .react 0 .zero (.handled (.ok ())), .react 0 .zero .answered]

theorem committed_handled_relay :
    (∀ group topic partition, (Log.new 1).committedOffset? group topic partition = none) ∧
      ∃ s, play act relay { log := Log.new 1 } = some s ∧ s.log.committedOffset? "g" "t" 0 = some 2 ∧
        ∃ entry, s.log.entryAt? "t" 0 1 = some entry ∧
          ∃ c, (c, ⟨"t", 0, 1, entry.key, entry.value⟩) ∈ s.handled ∧ c.group = "g" ∧ c.topic = "t" := by
  have uncommitted : ∀ group topic partition, (Log.new 1).committedOffset? group topic partition = none :=
    fun _ _ _ => by simp [Log.new, Log.committedOffset?]
  have played : (play act relay { log := Log.new 1 }).bind (·.log.committedOffset? "g" "t" 0) = some 2 := by decide
  obtain ⟨s, reached, committed⟩ := Option.bind_eq_some_iff.mp played
  exact ⟨uncommitted, s, reached, committed, committed_handled uncommitted reached committed (by decide)⟩

end Crew
end ModelDepot
