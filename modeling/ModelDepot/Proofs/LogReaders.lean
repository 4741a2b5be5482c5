import Mathlib.Data.List.Infix
import ModelDepot.Proofs.LogOffsets
import ModelDepot.Proofs.Play

/-!
A log and its readers. Anyone appends, readers of any groups come, fetch and commit what they have fetched, and
the log may be closed. Main statement: in whatever order all this happens, partitions hold what was appended to
them, and a reader has fetched a part of each partition without gaps, from where its group stood when it came
(`upholds_contract`).
-/
namespace ModelDepot

/-- What is stored of a record. -/
def LogRecord.entry (record : LogRecord) : Log.Entry := ⟨record.key, record.value⟩

/-- Those of some records that are from one partition. -/
def LogRecord.ofPartition (records : List LogRecord) (p : Nat) : List LogRecord := records.filter (·.partition == p)

theorem LogRecord.ofPartition_concat {record : LogRecord} {p : Nat} (at_p : record.partition = p)
    (records : List LogRecord) (q : Nat) :
    ofPartition (records ++ [record]) q = if p = q then ofPartition records q ++ [record] else ofPartition records q := by
  unfold ofPartition
  rw [List.filter_append]
  split
  · rename_i here
    rw [List.filter_cons_of_pos (by rw [at_p, here]; exact beq_self_eq_true _), List.filter_nil]
  · rename_i elsewhere
    have other : ¬ record.partition = (q : Int) := by omega
    rw [List.filter_cons_of_neg (by simpa using other), List.filter_nil, List.append_nil]

/-- A log in which every topic has all partitions, and every group offsets for them. -/
structure Log.Sized (log : Log) : Prop where
  positive : 0 < log.partitions
  topics : ∀ name, (log.topic name).length = log.partitions
  offsets : ∀ group name, (log.offsets group name).length = log.partitions

namespace Log
variable {log after further : Log} {name : String} {key value : List UInt8}

theorem sized_new (n : Nat) : (Log.new n).Sized where
  positive := Nat.lt_of_lt_of_le Nat.one_pos (Nat.le_max_right n 1)
  topics name := by simp
  offsets group name := by simp

theorem Sized.of_eq (sized : log.Sized) (partitions : after.partitions = log.partitions)
    (topics : ∀ name, after.topic name = log.topic name)
    (offsets : ∀ group name, (after.offsets group name).length = (log.offsets group name).length) : after.Sized where
  positive := partitions ▸ sized.positive
  topics name := by rw [topics, partitions, sized.topics]
  offsets group name := by rw [offsets, partitions, sized.offsets]

theorem Sized.append {place : Nat × Nat} (sized : log.Sized) (appended : log.append name key value = .ok (place, after)) :
    after.Sized := by
  obtain ⟨entries, found, _, _, rfl⟩ := append_eq_ok appended
  refine ⟨sized.positive, fun n => ?_, sized.offsets⟩
  rw [topic_insert]
  split
  · rw [List.length_set, sized.topics]
  · exact sized.topics n

theorem Sized.routed (sized : log.Sized) (name : String) (key : List UInt8) :
    log.partitionFor key < (log.topic name).length := by
  rw [sized.topics]
  exact partitionOf_lt sized.positive key

/-- An open log takes every record, behind those that its partition has. -/
theorem Sized.append_of_open (sized : log.Sized) (isOpen : log.closed = false) (name : String) (key value : List UInt8) :
    ∃ after, log.append name key value =
      .ok ((log.partitionFor key, (log.stored name (log.partitionFor key)).length), after) := by
  simp only [Log.append, Log.stored, isOpen, Bool.false_eq_true, ↓reduceIte,
    List.getElem?_eq_getElem (sized.routed name key)]
  exact ⟨_, rfl⟩

/-- The records of a partition, as they are delivered. -/
def records (log : Log) (name : String) (p : Nat) : List LogRecord :=
  (log.stored name p).mapIdx fun o entry => ⟨name, p, o, entry.key, entry.value⟩

@[simp] theorem getElem?_records (log : Log) (name : String) (p o : Nat) :
    (log.records name p)[o]? =
      (log.entryAt? name p o).map fun entry => ⟨name, p, o, entry.key, entry.value⟩ := by
  rw [records, List.getElem?_mapIdx, getElem?_stored]

theorem map_entry_records (log : Log) (name : String) (p : Nat) :
    (log.records name p).map LogRecord.entry = log.stored name p := by
  apply List.ext_getElem?
  intro o
  rw [List.getElem?_map, getElem?_records, getElem?_stored, Option.map_map]
  exact Option.map_id'

theorem records_prefix (grown : log.stored name p <+: after.stored name p) :
    log.records name p <+: after.records name p := by
  obtain ⟨more, same⟩ := grown
  rw [records, records, ← same, List.mapIdx_append]
  exact List.prefix_append _ _

/-- The second log has all that the first one has, and is closed if that is. -/
structure Grows (log after : Log) : Prop where
  partitions : after.partitions = log.partitions
  stored : ∀ name p, log.stored name p <+: after.stored name p
  closed : log.closed = true → after.closed = true
  sized : log.Sized → after.Sized

theorem grows_of_same (partitions : after.partitions = log.partitions)
    (topics : ∀ name, after.topic name = log.topic name)
    (offsets : ∀ group name, (after.offsets group name).length = (log.offsets group name).length)
    (closed : log.closed = true → after.closed = true) : log.Grows after where
  partitions := partitions
  stored name p := stored_of_topic_eq (topics name) p ▸ List.prefix_refl _
  closed := closed
  sized sized := sized.of_eq partitions topics offsets

theorem Grows.refl (log : Log) : log.Grows log := grows_of_same rfl (fun _ => rfl) (fun _ _ => rfl) id

theorem Grows.trans (first : log.Grows after) (second : after.Grows further) : log.Grows further where
  partitions := second.partitions.trans first.partitions
  stored name p := (first.stored name p).trans (second.stored name p)
  closed closed := second.closed (first.closed closed)
  sized sized := second.sized (first.sized sized)

theorem grows_append {place : Nat × Nat} (appended : log.append name key value = .ok (place, after)) :
    log.Grows after := by
  refine ⟨?_, stored_prefix_append appended, fun closed => ?_, (·.append appended)⟩
  · obtain ⟨_, _, _, _, rfl⟩ := append_eq_ok appended
    rfl
  · obtain ⟨_, _, isOpen, _, _⟩ := append_eq_ok appended
    rw [isOpen] at closed
    cases closed

theorem grows_subscribe {group : String} {reader : LogReader}
    (subscribed : log.subscribe group name = .ok (reader, after)) : log.Grows after := by
  obtain ⟨-, topics, offsets⟩ := subscribe_eq_ok subscribed
  obtain ⟨closed, partitions⟩ := subscribe_frame subscribed
  exact grows_of_same partitions topics (fun g n => congrArg List.length (offsets g n)) closed.trans

theorem grows_commit {reader : LogReader} {record : LogRecord} (committed : log.commit reader record = .ok after) :
    log.Grows after := by
  have frame : after.partitions = log.partitions ∧ after.closed = log.closed := by
    obtain ⟨_, _, rfl⟩ := commit_eq_ok committed
    exact ⟨rfl, rfl⟩
  exact grows_of_same frame.1 (topic_commit committed) (length_offsets_commit committed) frame.2.trans

theorem grows_close (log : Log) : log.Grows log.close := grows_of_same rfl (fun _ => rfl) (fun _ _ => rfl) fun _ => rfl

end Log

/-- A reader with the offsets from which it began, and what it has fetched. -/
structure Subscription where
  reader : LogReader
  start : List Nat
  fetched : List LogRecord := []

namespace Subscription

/-- The offset from which the reader began in a partition. -/
def startOf (sub : Subscription) (p : Nat) : Nat := sub.start[p]?.getD 0

/-- What it has fetched from a partition. -/
def taken (sub : Subscription) (p : Nat) : List LogRecord := LogRecord.ofPartition sub.fetched p

/-- The reader after a fetch. -/
def receive (sub : Subscription) (record : LogRecord) (reader : LogReader) : Subscription :=
  { sub with reader := reader, fetched := sub.fetched ++ [record] }

/-- The reader stands behind what it has fetched, and in each partition that is a part of the stored records from
    its start on. -/
structure Stands (sub : Subscription) (log : Log) : Prop where
  positions : ∀ p, sub.reader.positions[p]? = sub.start[p]?.map (· + (sub.taken p).length)
  taken : ∀ p, sub.taken p <+: (log.records sub.reader.topic p).drop (sub.startOf p)
  placed : ∀ record ∈ sub.fetched, ∃ p < sub.start.length, record.partition = (p : Int)

variable {sub : Subscription} {log after : Log}

/-- A reader that has just come stands at its start. -/
theorem stands_new (reader : LogReader) : Stands { reader := reader, start := reader.positions } log where
  positions p := by simp [taken, LogRecord.ofPartition]
  taken p := by simp [Subscription.taken, LogRecord.ofPartition]
  placed record member := by cases member

theorem Stands.grow (stands : sub.Stands log)
    (grown : ∀ p, log.stored sub.reader.topic p <+: after.stored sub.reader.topic p) : sub.Stands after where
  positions := stands.positions
  taken p := (stands.taken p).trans ((Log.records_prefix (grown p)).drop _)
  placed := stands.placed

/-- A fetched record is one of the log's. -/
theorem Stands.mem_records (stands : sub.Stands log) {record : LogRecord} (member : record ∈ sub.fetched) :
    ∃ p : Nat, record.partition = p ∧ record ∈ log.records sub.reader.topic p := by
  obtain ⟨p, -, at_p⟩ := stands.placed record member
  have mine : record ∈ sub.taken p := List.mem_filter.mpr ⟨member, beq_iff_eq.mpr at_p⟩
  exact ⟨p, at_p, List.mem_of_mem_drop ((stands.taken p).subset mine)⟩

/-- A fetch takes the record that comes next in its partition. -/
theorem Stands.fetch (stands : sub.Stands log) {record : LogRecord} {reader : LogReader}
    (fetched : sub.reader.fetch log = .record record reader) :
    (sub.receive record reader).Stands log := by
  obtain ⟨p, o, entry, at_p, found, recordIs, rfl⟩ := LogReader.fetch_eq_record fetched
  have takes : ∀ q, (sub.receive record (sub.reader.pass p (log.topic sub.reader.topic).length)).taken q =
      if p = q then sub.taken q ++ [record] else sub.taken q :=
    LogRecord.ofPartition_concat (by rw [recordIs]) sub.fetched
  obtain ⟨start, begins, stop⟩ := Option.map_eq_some_iff.mp ((stands.positions p).symm.trans at_p)
  refine ⟨fun q => ?_, fun q => ?_, fun r member => ?_⟩
  · rw [takes]
    refine (sub.reader.positions_pass p _ q).trans ?_
    rw [stands.positions]
    split
    · rw [List.length_append, Option.map_map]
      rfl
    · rfl
  · rw [takes]
    split
    · rename_i here
      subst here
      obtain ⟨rest, split⟩ := stands.taken p
      have next : rest[0]? = some record := by
        have there : (sub.taken p ++ rest)[(sub.taken p).length]? = (log.records sub.reader.topic p)[o]? := by
          rw [split, List.getElem?_drop, startOf, begins, Option.getD_some, stop]
        rw [List.getElem?_append_right (Nat.le_refl _), Nat.sub_self, Log.getElem?_records, found] at there
        rw [there, recordIs]
        rfl
      cases rest with
      | nil => simp at next
      | cons first more =>
        obtain rfl := Option.some.inj next
        exact ⟨more, by rw [List.append_assoc]; exact split⟩
    · exact stands.taken q
  · rcases List.mem_append.mp member with earlier | last
    · exact stands.placed r earlier
    · rw [List.mem_singleton.mp last, recordIs]
      exact ⟨p, (List.getElem?_eq_some_iff.mp begins).1, rfl⟩

/-- The record that was fetched last is the one behind the others that were fetched from its partition. -/
theorem Stands.place (stands : sub.Stands log) {earlier : List LogRecord} {record : LogRecord}
    (last : sub.fetched = earlier ++ [record]) :
    ∃ p first : Nat, sub.start[p]? = some first ∧ record.topic = sub.reader.topic ∧ record.partition = p ∧
      record.offset = ((first + (LogRecord.ofPartition earlier p).length : Nat) : Int) := by
  obtain ⟨p, inside, at_p⟩ := stands.placed record (by rw [last]; exact List.mem_concat_self)
  obtain ⟨rest, split⟩ := stands.taken p
  have taken : sub.taken p = LogRecord.ofPartition earlier p ++ [record] := by
    rw [Subscription.taken, last, LogRecord.ofPartition_concat at_p, if_pos rfl]
  have isLast : ((log.records sub.reader.topic p).drop (sub.startOf p))[(LogRecord.ofPartition earlier p).length]? =
      some record := by
    rw [← split, taken, List.append_assoc, List.getElem?_append_right (Nat.le_refl _), Nat.sub_self]
    rfl
  rw [List.getElem?_drop, Log.getElem?_records] at isLast
  obtain ⟨entry, -, rfl⟩ := Option.map_eq_some_iff.mp isLast
  have begins := List.getElem?_eq_getElem inside
  refine ⟨p, _, begins, rfl, rfl, ?_⟩
  rw [startOf, begins, Option.getD_some]

end Subscription

/-- A log with all that was appended to it, and the readers that came. -/
structure Readership where
  log : Log
  appended : List (String × Log.Entry) := []
  subscriptions : List Subscription := []

namespace Readership

inductive Move where
  | append (topic : String) (key value : List UInt8)
  | subscribe (group topic : String)
  /-- The reader with the given number fetches, if there is something for it. -/
  | fetch (number : Nat)
  /-- It commits a record that it has fetched. -/
  | commit (number : Nat) (record : LogRecord)
  | close

def act : Move → Readership → Option Readership
  | .append topic key value, s =>
    match s.log.append topic key value with
    | .ok (_, log) => some { s with log := log, appended := s.appended ++ [(topic, ⟨key, value⟩)] }
    | .error _ => some s
  | .subscribe group topic, s =>
    match s.log.subscribe group topic with
    | .ok (reader, log) =>
      some { s with
        log := log
        subscriptions := s.subscriptions ++ [{ reader := reader, start := s.log.offsets group topic }] }
    | .error _ => some s
  | .fetch number, s =>
    s.subscriptions[number]?.map fun sub =>
      match sub.reader.fetch s.log with
      | .record record reader =>
        { s with subscriptions := s.subscriptions.set number (sub.receive record reader) }
      | _ => s
  | .commit number record, s =>
    s.subscriptions[number]?.bind fun sub =>
      if record ∈ sub.fetched then
        match s.log.commit sub.reader record with
        | .ok log => some { s with log := log }
        | .error _ => some s
      else none
  | .close, s => some { s with log := s.log.close }

/-- What was appended to a partition. -/
def sent (s : Readership) (topic : String) (p : Nat) : List Log.Entry :=
  (s.appended.filter fun item => item.1 == topic && s.log.partitionFor item.2.key == p).map (·.2)

/-- What was appended to a topic under a key. -/
def sentUnder (s : Readership) (topic : String) (key : List UInt8) : List Log.Entry :=
  (s.appended.filter fun item => item.1 == topic && item.2.key == key).map (·.2)

/-! ### The invariant -/

structure Sound (s : Readership) : Prop where
  sized : s.log.Sized
  stored : ∀ topic p, s.log.stored topic p = s.sent topic p
  committed : ∀ group topic p, s.log.doneWith group topic p ≤ (s.log.stored topic p).length
  subscriptions : ∀ sub ∈ s.subscriptions, sub.Stands s.log
  widths : ∀ sub ∈ s.subscriptions, sub.start.length = s.log.partitions

/-- What later moves leave of a state: nothing that is stored changes or is lost, offsets do not fall, and once the
    log is closed nothing more is stored or fetched. -/
structure Onward (s t : Readership) : Prop where
  kept : ∀ topic p, s.log.stored topic p <+: t.log.stored topic p
  committed : ∀ group topic p, s.log.doneWith group topic p ≤ t.log.doneWith group topic p
  closed : s.log.closed = true → t.log.closed = true ∧
    (∀ topic p, t.log.stored topic p = s.log.stored topic p) ∧ t.subscriptions = s.subscriptions

variable {s t u : Readership}

theorem Onward.refl (s : Readership) : Onward s s :=
  ⟨fun _ _ => List.prefix_refl _, fun _ _ _ => Nat.le_refl _, fun closed => ⟨closed, fun _ _ => rfl, rfl⟩⟩

theorem Onward.trans (first : Onward s t) (second : Onward t u) : Onward s u where
  kept topic p := (first.kept topic p).trans (second.kept topic p)
  committed group topic p := (first.committed group topic p).trans (second.committed group topic p)
  closed closed := by
    obtain ⟨closedT, storedT, sameT⟩ := first.closed closed
    obtain ⟨closedU, storedU, sameU⟩ := second.closed closedT
    exact ⟨closedU, fun topic p => (storedU topic p).trans (storedT topic p), sameU.trans sameT⟩

/-- A move after which the same records are stored. -/
theorem Sound.of_same (sound : s.Sound) (partitions : t.log.partitions = s.log.partitions)
    (topics : ∀ name, t.log.topic name = s.log.topic name)
    (offsets : ∀ group name, (t.log.offsets group name).length = (s.log.offsets group name).length)
    (appended : t.appended = s.appended)
    (committed : ∀ group topic p, t.log.doneWith group topic p ≤ (s.log.stored topic p).length)
    (subscriptions : ∀ sub ∈ t.subscriptions, sub.Stands s.log ∧ sub.start.length = s.log.partitions) : t.Sound := by
  have stored : ∀ topic p, t.log.stored topic p = s.log.stored topic p := fun topic p =>
    Log.stored_of_topic_eq (topics topic) p
  refine ⟨sound.sized.of_eq partitions topics offsets, fun topic p => ?_, fun group topic p => ?_,
    fun sub member => ?_, fun sub member => (subscriptions sub member).2.trans partitions.symm⟩
  · rw [stored, sound.stored]
    simp only [sent, appended, Log.partitionFor, partitions]
  · rw [stored]
    exact committed group topic p
  · exact (subscriptions sub member).1.grow fun p => stored sub.reader.topic p ▸ List.prefix_refl _

theorem onward_of_same (topics : ∀ name, t.log.topic name = s.log.topic name)
    (committed : ∀ group topic p, s.log.doneWith group topic p ≤ t.log.doneWith group topic p)
    (closed : s.log.closed = true → t.log.closed = true ∧ t.subscriptions = s.subscriptions) : Onward s t := by
  have stored : ∀ topic p, t.log.stored topic p = s.log.stored topic p := fun topic p =>
    Log.stored_of_topic_eq (topics topic) p
  exact ⟨fun topic p => stored topic p ▸ List.prefix_refl _, committed,
    fun isClosed => ⟨(closed isClosed).1, stored, (closed isClosed).2⟩⟩

/-! ### One move -/

theorem sent_concat {log : Log} (partitions : log.partitions = s.log.partitions) (topic : String) (entry : Log.Entry)
    (n : String) (p : Nat) :
    sent { s with log := log, appended := s.appended ++ [(topic, entry)] } n p =
      s.sent n p ++ if n = topic ∧ p = s.log.partitionFor entry.key then [entry] else [] := by
  have sameFor : log.partitionFor = s.log.partitionFor := by
    funext key
    rw [Log.partitionFor, Log.partitionFor, partitions]
  have here : (topic == n && s.log.partitionFor entry.key == p) = true ↔ n = topic ∧ p = s.log.partitionFor entry.key := by
    rw [Bool.and_eq_true, beq_iff_eq, beq_iff_eq]
    exact and_congr eq_comm eq_comm
  simp only [sent, sameFor, List.filter_append, List.map_append]
  congr 1
  by_cases mine : n = topic ∧ p = s.log.partitionFor entry.key
  · rw [if_pos mine, List.filter_cons_of_pos (by exact here.mpr mine)]
    rfl
  · rw [if_neg mine, List.filter_cons_of_neg (by exact fun is => mine (here.mp is))]
    rfl

theorem sound_append {topic : String} {key value : List UInt8} {place : Nat × Nat} {log : Log} (sound : s.Sound)
    (appended : s.log.append topic key value = .ok (place, log)) :
    let t := { s with log := log, appended := s.appended ++ [(topic, ⟨key, value⟩)] }
    t.Sound ∧ Onward s t := by
  intro t
  obtain ⟨_, _, isOpen, _, _⟩ := Log.append_eq_ok appended
  have grows := Log.grows_append appended
  have offsets : ∀ group n p, log.doneWith group n p = s.log.doneWith group n p := fun group n p => by
    rw [Log.doneWith, Log.doneWith, Log.offsets_append appended]
  refine ⟨⟨grows.sized sound.sized, fun n p => ?_, fun group n p => ?_, fun sub member => ?_,
    fun sub member => (sound.widths sub member).trans grows.partitions.symm⟩,
    grows.stored, fun group n p => (offsets group n p).ge, fun closed => ?_⟩
  · rw [sent_concat grows.partitions, ← sound.stored]
    show log.stored n p = _
    rw [Log.stored_append appended]
    split
    · rfl
    · rw [List.append_nil]
  · rw [offsets]
    exact (sound.committed group n p).trans (grows.stored n p).length_le
  · exact (sound.subscriptions sub member).grow (grows.stored sub.reader.topic)
  · rw [isOpen] at closed
    cases closed

theorem sound_subscribe {group topic : String} {reader : LogReader} {log : Log} (sound : s.Sound)
    (subscribed : s.log.subscribe group topic = .ok (reader, log)) :
    let t := { s with
      log := log
      subscriptions := s.subscriptions ++ [{ reader := reader, start := s.log.offsets group topic }] }
    t.Sound ∧ Onward s t := by
  intro t
  obtain ⟨rfl, topics, offsets⟩ := Log.subscribe_eq_ok subscribed
  have done : ∀ g n p, log.doneWith g n p = s.log.doneWith g n p := fun g n p => by
    rw [Log.doneWith, Log.doneWith, offsets]
  have lengths : ∀ g n, (log.offsets g n).length = (s.log.offsets g n).length := fun g n =>
    congrArg List.length (offsets g n)
  refine ⟨sound.of_same (Log.grows_subscribe subscribed).partitions topics lengths rfl (fun g n p => ?_)
      fun sub member => ?_,
    onward_of_same topics (fun g n p => (done g n p).ge) fun closed => ?_⟩
  · rw [done]
    exact sound.committed g n p
  · rcases List.mem_append.mp member with earlier | new
    · exact ⟨sound.subscriptions sub earlier, sound.widths sub earlier⟩
    · rw [List.mem_singleton.mp new]
      exact ⟨Subscription.stands_new _, sound.sized.offsets group topic⟩
  · simp [Log.subscribe, closed] at subscribed

theorem sound_fetch {number : Nat} {sub : Subscription} {record : LogRecord} {reader : LogReader} (sound : s.Sound)
    (there : s.subscriptions[number]? = some sub) (fetched : sub.reader.fetch s.log = .record record reader) :
    let t := { s with subscriptions := s.subscriptions.set number (sub.receive record reader) }
    t.Sound ∧ Onward s t := by
  intro t
  refine ⟨sound.of_same rfl (fun _ => rfl) (fun _ _ => rfl) rfl sound.committed fun other member => ?_,
    onward_of_same (fun _ => rfl) (fun _ _ _ => Nat.le_refl _) fun closed => ?_⟩
  · rcases List.mem_or_eq_of_mem_set member with earlier | new
    · exact ⟨sound.subscriptions other earlier, sound.widths other earlier⟩
    · have known := List.mem_of_getElem? there
      rw [new]
      exact ⟨(sound.subscriptions sub known).fetch fetched, sound.widths sub known⟩
  · simp [LogReader.fetch, closed] at fetched

/-- A committed record is one of the partition, so the offset behind it is within. -/
theorem sound_commit {sub : Subscription} {record : LogRecord} {log : Log} (sound : s.Sound)
    (there : sub ∈ s.subscriptions) (member : record ∈ sub.fetched)
    (committed : s.log.commit sub.reader record = .ok log) :
    let t := { s with log := log }
    t.Sound ∧ Onward s t := by
  intro t
  have stands := sound.subscriptions sub there
  obtain ⟨p, at_p, among⟩ := stands.mem_records member
  obtain ⟨o, isAt⟩ := List.mem_iff_getElem?.mp among
  rw [Log.getElem?_records] at isAt
  obtain ⟨entry, found, recordIs⟩ := Option.map_eq_some_iff.mp isAt
  have at_o : record.offset = o := by rw [← recordIs]
  have inside : o < (s.log.stored sub.reader.topic p).length := by
    rw [← Log.getElem?_stored] at found
    exact (List.getElem?_eq_some_iff.mp found).1
  have grows := Log.grows_commit committed
  have topics := Log.topic_commit committed
  refine ⟨sound.of_same grows.partitions topics (Log.length_offsets_commit committed) rfl (fun g n q => ?_)
      fun other member => ⟨sound.subscriptions other member, sound.widths other member⟩,
    onward_of_same topics (fun g n q => ?_) fun closed => ⟨grows.closed closed, rfl⟩⟩
  · have within := sound.committed g n q
    rw [Log.doneWith_commit at_p at_o committed]
    split
    · rename_i here
      obtain ⟨-, rfl, rfl⟩ := here
      omega
    · exact within
  · rw [Log.doneWith_commit at_p at_o committed]
    split <;> omega

theorem sound_close (sound : s.Sound) : let t := { s with log := s.log.close }; t.Sound ∧ Onward s t :=
  ⟨sound.of_same rfl (fun _ => rfl) (fun _ _ => rfl) rfl sound.committed
      fun sub member => ⟨sound.subscriptions sub member, sound.widths sub member⟩,
    onward_of_same (fun _ => rfl) (fun _ _ _ => Nat.le_refl _) fun _ => ⟨rfl, rfl⟩⟩

theorem sound_act {move : Move} (sound : s.Sound) (moved : act move s = some t) : t.Sound ∧ Onward s t := by
  have unmoved : s.Sound ∧ Onward s s := ⟨sound, Onward.refl s⟩
  cases move with
  | append topic key value =>
    simp only [act] at moved
    split at moved
    · rename_i appended
      obtain rfl := Option.some.inj moved
      exact sound_append sound appended
    · exact Option.some.inj moved ▸ unmoved
  | subscribe group topic =>
    simp only [act] at moved
    split at moved
    · rename_i subscribed
      obtain rfl := Option.some.inj moved
      exact sound_subscribe sound subscribed
    · exact Option.some.inj moved ▸ unmoved
  | fetch number =>
    obtain ⟨sub, there, moved⟩ := Option.map_eq_some_iff.mp moved
    split at moved
    · rename_i fetched
      exact moved ▸ sound_fetch sound there fetched
    · exact moved ▸ unmoved
  | commit number record =>
    obtain ⟨sub, there, moved⟩ := Option.bind_eq_some_iff.mp moved
    split at moved
    · rename_i member
      split at moved
      · rename_i committed
        obtain rfl := Option.some.inj moved
        exact sound_commit sound (List.mem_of_getElem? there) member committed
      · exact Option.some.inj moved ▸ unmoved
    · cases moved
  | close =>
    obtain rfl := Option.some.inj moved
    exact sound_close sound

/-! ### Every run -/

theorem sound_new (n : Nat) : Sound { log := Log.new n } where
  sized := Log.sized_new n
  stored topic p := by simp [sent]
  committed group topic p := by simp
  subscriptions sub member := by cases member
  widths sub member := by cases member

theorem sound_play {moves : List Move} (sound : s.Sound) (played : play act moves s = some t) :
    t.Sound ∧ Onward s t := by
  have kept : ∀ move u v, u.Sound ∧ Onward s u → act move u = some v → v.Sound ∧ Onward s v := by
    intro move u v ⟨soundU, sofar⟩ moved
    obtain ⟨soundV, onward⟩ := sound_act soundU moved
    exact ⟨soundV, sofar.trans onward⟩
  exact play_keeps kept ⟨sound, Onward.refl s⟩ played

/-! ### What readers see -/

theorem Sound.routed (sound : s.Sound) {topic : String} {p : Nat} {entry : Log.Entry}
    (member : entry ∈ s.log.stored topic p) : s.log.partitionFor entry.key = p := by
  rw [sound.stored, sent] at member
  obtain ⟨item, among, rfl⟩ := List.mem_map.mp member
  have both := (List.mem_filter.mp among).2
  rw [Bool.and_eq_true, beq_iff_eq, beq_iff_eq] at both
  exact both.2

theorem Sound.sentUnder_eq (sound : s.Sound) (topic : String) (key : List UInt8) :
    s.sentUnder topic key = (s.log.stored topic (s.log.partitionFor key)).filter (·.key == key) := by
  rw [sound.stored, sent, sentUnder, List.filter_map, List.filter_filter]
  congr 1
  apply List.filter_congr
  intro item _
  by_cases same : item.2.key = key
  · simp [same]
  · simp only [Function.comp_apply, beq_eq_false_iff_ne.mpr same, Bool.and_false, Bool.false_and]

/-- All fetched records with one key are from one partition. -/
theorem Sound.fetched_under (sound : s.Sound) {sub : Subscription} (there : sub ∈ s.subscriptions) (key : List UInt8) :
    sub.fetched.filter (·.key == key) = (sub.taken (s.log.partitionFor key)).filter (·.key == key) := by
  rw [Subscription.taken, LogRecord.ofPartition, List.filter_filter]
  apply List.filter_congr
  intro record member
  by_cases same : record.key = key
  · obtain ⟨p, at_p, among⟩ := (sound.subscriptions sub there).mem_records member
    have isStored : record.entry ∈ s.log.stored sub.reader.topic p := by
      rw [← Log.map_entry_records]
      exact List.mem_map_of_mem among
    have routed : s.log.partitionFor key = p := same ▸ sound.routed isStored
    simp [same, routed, at_p]
  · simp [same]

/-- A reader gets the records of a key in the order in which they were appended, from its start on. -/
theorem Sound.keyed (sound : s.Sound) {sub : Subscription} (there : sub ∈ s.subscriptions) (key : List UInt8) :
    ((s.log.stored sub.reader.topic (s.log.partitionFor key)).take (sub.startOf (s.log.partitionFor key))).filter
        (·.key == key) ++ (sub.fetched.filter (·.key == key)).map LogRecord.entry <+:
      s.sentUnder sub.reader.topic key := by
  rw [sound.fetched_under there, sound.sentUnder_eq]
  generalize s.log.partitionFor key = p
  have taken := ((sound.subscriptions sub there).taken p).map LogRecord.entry
  rw [List.map_drop, Log.map_entry_records] at taken
  have under : ((sub.taken p).filter (·.key == key)).map LogRecord.entry =
      ((sub.taken p).map LogRecord.entry).filter (·.key == key) := by
    rw [List.filter_map]
    rfl
  rw [under, ← List.filter_append]
  apply List.IsPrefix.filter
  conv => rhs; rw [← List.take_append_drop (sub.startOf p) (s.log.stored sub.reader.topic p)]
  exact (List.prefix_append_right_inj _).mpr taken

/-- A reader for which there is nothing has fetched all that is stored from its start on. -/
theorem Sound.caught_up (sound : s.Sound) {sub : Subscription} (there : sub ∈ s.subscriptions)
    (pending : sub.reader.fetch s.log = .pending) (p : Nat) :
    sub.taken p = (s.log.records sub.reader.topic p).drop (sub.startOf p) := by
  have stands := sound.subscriptions sub there
  have isOpen : s.log.closed = false := by
    cases closed : s.log.closed with
    | false => rfl
    | true =>
      rw [LogReader.fetch, if_pos closed] at pending
      cases pending
  apply (stands.taken p).eq_of_length_le
  rw [List.length_drop, Log.records, List.length_mapIdx]
  by_contra waits
  rw [Log.stored] at waits
  cases at_p : (s.log.topic sub.reader.topic)[p]? with
  | none => simp [at_p] at waits
  | some entries =>
    rw [at_p, Option.map_some, Option.getD_some, Array.length_toList] at waits
    have inside : p < sub.start.length := by
      rw [sound.widths sub there, ← sound.sized.topics sub.reader.topic]
      exact (List.getElem?_eq_some_iff.mp at_p).1
    have position := stands.positions p
    rw [Subscription.startOf, List.getElem?_eq_getElem inside, Option.getD_some] at waits
    rw [List.getElem?_eq_getElem inside, Option.map_some] at position
    obtain ⟨record, after, fetched⟩ := LogReader.fetch_of_waiting isOpen at_p position (by omega)
    rw [fetched] at pending
    cases pending

theorem refused_of_closed {log : Log} (closed : log.closed = true) :
    (∀ topic key value, log.append topic key value = .error .closed) ∧
      (∀ group topic, log.subscribe group topic = .error .closed) ∧ ∀ reader : LogReader, reader.fetch log = .closed :=
  ⟨fun _ _ _ => if_pos closed, fun _ _ => if_pos closed, fun _ => if_pos closed⟩

/-- What the log owes to its readers and writers, in one state. -/
structure Contract (s : Readership) : Prop where
  /-- The partition of a key is one of every topic, and its number has 32 bits with a sign. -/
  routed : ∀ key, (∀ topic, s.log.partitionFor key < (s.log.topic topic).length) ∧ s.log.partitionFor key < 0x80000000
  appends : s.log.closed = false → ∀ topic key value, ∃ after, s.log.append topic key value =
    .ok ((s.log.partitionFor key, (s.log.stored topic (s.log.partitionFor key)).length), after)
  stored : ∀ topic p, s.log.stored topic p = s.sent topic p
  /-- A reader has fetched records at consecutive offsets of each partition, from its start on, and nothing else. -/
  fetched : ∀ sub ∈ s.subscriptions, ∀ p, sub.taken p <+: (s.log.records sub.reader.topic p).drop (sub.startOf p)
  placed : ∀ sub ∈ s.subscriptions, ∀ record ∈ sub.fetched, ∃ p < sub.start.length, record.partition = (p : Int)
  caught_up : ∀ sub ∈ s.subscriptions, sub.reader.fetch s.log = .pending →
    ∀ p, sub.taken p = (s.log.records sub.reader.topic p).drop (sub.startOf p)
  /-- After those before its start, it has the records of a key in the order in which they were appended. -/
  keyed : ∀ sub ∈ s.subscriptions, ∀ key,
    ((s.log.stored sub.reader.topic (s.log.partitionFor key)).take (sub.startOf (s.log.partitionFor key))).filter
        (·.key == key) ++ (sub.fetched.filter (·.key == key)).map LogRecord.entry <+:
      s.sentUnder sub.reader.topic key
  committed : ∀ group topic p, s.log.doneWith group topic p ≤ (s.log.stored topic p).length
  /-- A closed log takes no record, and nobody comes to it or fetches one. -/
  closed : s.log.closed = true → (∀ topic key value, s.log.append topic key value = .error .closed) ∧
    (∀ group topic, s.log.subscribe group topic = .error .closed) ∧ ∀ reader : LogReader, reader.fetch s.log = .closed

/-- The log was closed for good: what was stored and fetched before is as it was, and nothing has come to it. -/
structure Shut (s t : Readership) : Prop where
  closed : t.log.closed = true
  stored : ∀ topic p, t.log.stored topic p = s.log.stored topic p
  subscriptions : t.subscriptions = s.subscriptions

theorem Sound.contract (sound : s.Sound) : s.Contract where
  routed key := ⟨fun topic => sound.sized.routed topic key, Log.partitionOf_small s.log.partitions key⟩
  appends := sound.sized.append_of_open
  stored := sound.stored
  fetched sub there := (sound.subscriptions sub there).taken
  placed sub there := (sound.subscriptions sub there).placed
  caught_up _ there := sound.caught_up there
  keyed _ there := sound.keyed there
  committed := sound.committed
  closed := refused_of_closed

/-- Whatever is done after a log was closed, it stays so, and nothing more is stored or fetched. -/
theorem Sound.shut (sound : s.Sound) {more : List Move} (played : play act (.close :: more) s = some t) : s.Shut t := by
  obtain ⟨u, closing, rest⟩ := Option.bind_eq_some_iff.mp played
  obtain rfl := Option.some.inj closing
  obtain ⟨stillClosed, stored, same⟩ := (sound_play (sound_close sound).1 rest).2.closed rfl
  exact ⟨stillClosed, stored, same⟩

/-- Whatever is done with a new log, it keeps its contract, and nothing that is done later takes back what it has
    stored or noted as committed. It can be closed at any time, and then it stays as it is. -/
theorem upholds_contract {n : Nat} {moves : List Move} (reached : play act moves { log := Log.new n } = some s) :
    s.Contract ∧ (∀ more t, play act more s = some t → Onward s t) ∧
      (∃ t, act .close s = some t ∧ t.log.closed = true) ∧
      ∀ more t, play act (.close :: more) s = some t → s.Shut t := by
  have sound := (sound_play (sound_new n) reached).1
  exact ⟨sound.contract, fun _ _ played => (sound_play sound played).2, ⟨_, rfl, rfl⟩, fun _ _ => sound.shut⟩

/-- A reader commits the first of two records, and the next one of its group goes on from there. -/
def overlap : List Move :=
  [.append "t" [1] [10], .append "t" [2] [20], .append "t" [1] [11], .subscribe "g" "t", .fetch 0,
    .commit 0 ⟨"t", 0, 0, [1], [10]⟩, .subscribe "g" "t", .fetch 1, .fetch 1, .close, .append "t" [1] [12], .fetch 0]

theorem upholds_contract_overlap :
    ∃ s, play act overlap { log := Log.new 2 } = some s ∧
      s.subscriptions.map (·.fetched.map (·.value)) = [[[10]], [[11], [20]]] ∧
      s.log.closed = true ∧ s.Contract ∧ (∀ more t, play act more s = some t → Onward s t) ∧
      (∃ t, act .close s = some t ∧ t.log.closed = true) ∧
      ∀ more t, play act (.close :: more) s = some t → s.Shut t := by
  have played : (play act overlap { log := Log.new 2 }).map
      (fun s => (s.subscriptions.map (·.fetched.map (·.value)), s.log.closed)) =
        some ([[[10]], [[11], [20]]], true) := by decide
  obtain ⟨s, reached, shown⟩ := Option.map_eq_some_iff.mp played
  obtain ⟨values, closed⟩ := Prod.mk.inj shown
  exact ⟨s, reached, values, closed, upholds_contract reached⟩

end Readership
end ModelDepot
