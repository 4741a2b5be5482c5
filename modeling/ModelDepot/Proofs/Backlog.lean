import ModelDepot.Publish
import ModelDepot.Proofs.Alone
import ModelDepot.Proofs.CommandCodec
import ModelDepot.Proofs.LogOffsets

/-!
Published commands in the log. Each one stands in the partition of its id, behind those that were published
before it there. What a group has not committed are the commands that are left, of which every partition
holds its own in their order.
-/
namespace ModelDepot

/-- The record of a command in the log. -/
def Command.entry (command : Command) : Log.Entry :=
  ⟨logKey command.id, Json.utf8 (CommandRecord.shape.print (.ofCommand command))⟩

/-- The command stands in this one of a number of partitions. -/
def Command.goesTo (partitions p : Nat) (command : Command) : Bool :=
  Log.partitionOf partitions (logKey command.id) == p

theorem Command.goesTo_iff {partitions p : Nat} {command : Command} :
    command.goesTo partitions p ↔ Log.partitionOf partitions (logKey command.id) = p := by
  simp [goesTo]

theorem Command.encode_entry {command : Command} (named : Text.allBlank command.id = false) :
    command.encode = .ok command.entry.value := by
  simp only [encode, named, Bool.false_eq_true, ↓reduceIte, entry]

theorem Command.decode_entry {command : Command} (named : Text.allBlank command.id = false) :
    decode command.entry.value = .ok (some command) := by
  obtain ⟨bytes, encoded, decoded⟩ := decode_encode named
  rw [encode_entry named] at encoded
  rw [Except.ok.inj encoded]
  exact decoded

/-- Commands in different partitions are on different resources. -/
theorem Command.id_ne_of_goesTo {partitions p : Nat} {command other : Command} (here : command.goesTo partitions p)
    (elsewhere : other.goesTo partitions p = false) : other.id ≠ command.id := by
  intro same
  rw [goesTo, same] at elsewhere
  rw [goesTo, elsewhere] at here
  cases here

namespace Log

/-- The open log holds the records of the commands, each in its partition, in their order. -/
structure Carries (topic : String) (commands : List Command) (log : Log) : Prop where
  isOpen : log.closed = false
  positive : 0 < log.partitions
  width : (log.topic topic).length = log.partitions
  stored : ∀ p entries, (log.topic topic)[p]? = some entries →
    entries.toList = (commands.filter (·.goesTo log.partitions p)).map Command.entry

/-- Of the commands, a group has not committed those that are left. -/
structure Leaves (group topic : String) (commands left : List Command) (log : Log) : Prop where
  width : (log.offsets group topic).length = log.partitions
  rest : ∀ p offset, (log.offsets group topic)[p]? = some offset →
    offset ≤ (commands.filter (·.goesTo log.partitions p)).length ∧
      (commands.filter (·.goesTo log.partitions p)).drop offset = left.filter (·.goesTo log.partitions p)

theorem carries_new (n : Nat) (topic : String) : (Log.new n).Carries topic [] where
  isOpen := rfl
  positive := Nat.lt_of_lt_of_le Nat.one_pos (Nat.le_max_right n 1)
  width := by simp
  stored := by
    intro p entries found
    rw [Log.topic_new, List.getElem?_replicate] at found
    split at found
    · obtain rfl := Option.some.inj found
      rfl
    · cases found

theorem leaves_new (n : Nat) (group topic : String) : (Log.new n).Leaves group topic [] [] where
  width := by simp
  rest := by
    intro p offset found
    rw [Log.offsets_new, List.getElem?_replicate] at found
    split at found
    · obtain rfl := Option.some.inj found
      exact ⟨Nat.le_refl 0, rfl⟩
    · cases found

variable {log after : Log} {group topic : String} {commands left : List Command}

/-- Only the partitions, the openness and the records of a log matter for what it carries. -/
theorem Carries.of_eq (carries : log.Carries topic commands) (closed : after.closed = log.closed)
    (partitions : after.partitions = log.partitions) (same : after.topic topic = log.topic topic) :
    after.Carries topic commands := by
  obtain ⟨isOpen, positive, width, stored⟩ := carries
  exact ⟨closed ▸ isOpen, partitions ▸ positive, by rw [same, partitions]; exact width,
    by rw [same, partitions]; exact stored⟩

theorem Leaves.of_eq (leaves : log.Leaves group topic commands left) (partitions : after.partitions = log.partitions)
    (same : after.offsets group topic = log.offsets group topic) : after.Leaves group topic commands left := by
  obtain ⟨width, rest⟩ := leaves
  exact ⟨by rw [same, partitions]; exact width, by rw [same, partitions]; exact rest⟩

/-- Every key has its partition. -/
theorem Carries.partitionFor_lt (carries : log.Carries topic commands) (key : List UInt8) :
    log.partitionFor key < (log.topic topic).length := by
  rw [carries.width]
  exact partitionOf_lt carries.positive key

/-- Whatever is stored is the record of one of the commands. -/
theorem Carries.command_of_entryAt {p o : Nat} {entry : Entry} (carries : log.Carries topic commands)
    (found : log.entryAt? topic p o = some entry) : ∃ command ∈ commands, entry = command.entry := by
  obtain ⟨entries, at_p, at_o⟩ := Option.bind_eq_some_iff.mp found
  have member : entry ∈ entries.toList := Array.mem_toList_iff.mpr (Array.mem_of_getElem? at_o)
  rw [carries.stored p entries at_p] at member
  obtain ⟨command, here, rfl⟩ := List.mem_map.mp member
  exact ⟨command, (List.mem_filter.mp here).1, rfl⟩

/-- The record of each of the commands is stored. -/
theorem Carries.entryAt_of_mem {command : Command} (carries : log.Carries topic commands) (member : command ∈ commands) :
    ∃ p o, log.entryAt? topic p o = some command.entry := by
  have inside := carries.partitionFor_lt command.entry.key
  have at_p := List.getElem?_eq_getElem inside
  have here : command.entry ∈ (log.topic topic)[log.partitionFor command.entry.key].toList := by
    rw [carries.stored _ _ at_p]
    exact List.mem_map_of_mem (List.mem_filter.mpr ⟨member, Command.goesTo_iff.mpr rfl⟩)
  obtain ⟨o, at_o⟩ := List.mem_iff_getElem?.mp here
  refine ⟨log.partitionFor command.entry.key, o, ?_⟩
  rw [entryAt?, at_p, Option.bind_some, ← Array.getElem?_toList]
  exact at_o

/-! ### Publishing -/

/-- The record of a command is appended to a log that carries others. -/
theorem append_entry (carries : log.Carries topic commands) (command : Command) :
    ∃ place after, log.append topic command.entry.key command.entry.value = .ok (place, after) ∧
      after.Carries topic (commands ++ [command]) ∧ after.partitions = log.partitions := by
  have inside := carries.partitionFor_lt command.entry.key
  have found := List.getElem?_eq_getElem inside
  have appends : ∃ place after, log.append topic command.entry.key command.entry.value = .ok (place, after) := by
    simp only [append, carries.isOpen, Bool.false_eq_true, ↓reduceIte, found]
    exact ⟨_, _, rfl⟩
  obtain ⟨place, after, appended⟩ := appends
  obtain ⟨entries, at_p, -, -, rfl⟩ := append_eq_ok appended
  refine ⟨place, _, appended, ⟨carries.isOpen, carries.positive, ?_, ?_⟩, rfl⟩
  · rw [topic_insert, if_pos rfl, List.length_set]
    exact carries.width
  · intro q others at_q
    rw [topic_insert, if_pos rfl] at at_q
    rw [List.filter_append, List.map_append]
    by_cases here : log.partitionFor command.entry.key = q
    · rw [here] at at_q at_p
      rw [List.getElem?_set_self (here ▸ inside)] at at_q
      have mine : command.goesTo log.partitions q := Command.goesTo_iff.mpr here
      rw [← Option.some.inj at_q, Array.toList_push, carries.stored q entries at_p]
      simp only [List.filter_cons, mine, ↓reduceIte, List.filter_nil, List.map_cons, List.map_nil]
    · rw [List.getElem?_set_ne here] at at_q
      have other : ¬ command.goesTo log.partitions q = true := fun mine => here (Command.goesTo_iff.mp mine)
      rw [carries.stored q others at_q]
      simp only [List.filter_cons, other, Bool.false_eq_true, ↓reduceIte, List.filter_nil, List.map_nil,
        List.append_nil]

/-- The log after the record of a command was appended. -/
theorem Carries.append {command : Command} {place : Nat × Nat} (carries : log.Carries topic commands)
    (appended : log.append topic command.entry.key command.entry.value = .ok (place, after)) :
    after.Carries topic (commands ++ [command]) ∧ after.partitions = log.partitions := by
  obtain ⟨place', after', appended', more⟩ := append_entry carries command
  obtain ⟨-, rfl⟩ := Prod.mk.inj (Except.ok.inj (appended.symm.trans appended'))
  exact more

theorem Leaves.publish (leaves : log.Leaves group topic commands left) (partitions : after.partitions = log.partitions)
    (same : after.offsets group topic = log.offsets group topic) (command : Command) :
    after.Leaves group topic (commands ++ [command]) (left ++ [command]) := by
  refine ⟨by rw [same, partitions]; exact leaves.width, ?_⟩
  intro p offset at_p
  rw [same] at at_p
  obtain ⟨within, rest⟩ := leaves.rest p offset at_p
  rw [partitions, List.filter_append, List.filter_append, List.length_append, List.drop_append_of_le_length within,
    rest]
  exact ⟨by omega, rfl⟩

/-! ### Consuming -/

/-- A command is the next one left in a partition, from whose offset on it is stored. -/
structure NextIn (group topic : String) (log : Log) (before : List Command) (command : Command) (p o : Nat) : Prop where
  elsewhere : ∀ other ∈ before, other.goesTo log.partitions p = false
  here : command.goesTo log.partitions p
  committed : (log.offsets group topic)[p]? = some o

/-- A reader at the committed offsets takes the next command of a partition. -/
theorem fetch_next (carries : log.Carries topic commands) (leaves : log.Leaves group topic commands left)
    {reader further : LogReader} {record : LogRecord} (positions : reader.positions = log.offsets group topic)
    (named : reader.topic = topic) (fetched : reader.fetch log = .record record further) :
    ∃ before command behind p o, left = before ++ command :: behind ∧ log.NextIn group topic before command p o ∧
      record = ⟨topic, p, o, command.entry.key, command.entry.value⟩ ∧
      further = reader.pass p (log.topic topic).length := by
  obtain ⟨p, o, entry, at_p, taken, recordIs, furtherIs⟩ := LogReader.fetch_eq_record fetched
  rw [named] at taken recordIs furtherIs
  rw [positions] at at_p
  obtain ⟨entries, found, at_o⟩ := Option.bind_eq_some_iff.mp taken
  obtain ⟨within, rest⟩ := leaves.rest p o at_p
  have stored : ((commands.filter (·.goesTo log.partitions p)).map Command.entry)[o]? = some entry := by
    rw [← carries.stored p entries found, Array.getElem?_toList]
    exact at_o
  obtain ⟨command, at_place, rfl⟩ := Option.map_eq_some_iff.mp ((List.getElem?_map ..).symm.trans stored)
  obtain ⟨inside, same⟩ := List.getElem?_eq_some_iff.mp at_place
  rw [List.drop_eq_getElem_cons inside, same] at rest
  obtain ⟨before, behind, leftIs, elsewhere, here, -⟩ := List.filter_eq_cons_iff.mp rest.symm
  exact ⟨before, command, behind, p, o, leftIs, ⟨fun other member => Bool.eq_false_iff.mpr (elsewhere other member),
    here, at_p⟩, recordIs, furtherIs⟩

/-- A group is not done with the partition of a command that is left. -/
theorem waiting_of_mem (carries : log.Carries topic commands) (leaves : log.Leaves group topic commands left)
    {command : Command} (member : command ∈ left) :
    ∃ (p : Nat) (entries : Array Entry) (offset : Nat), (log.topic topic)[p]? = some entries ∧
      (log.offsets group topic)[p]? = some offset ∧ offset < entries.size := by
  have inside : log.partitionFor (logKey command.id) < log.partitions := partitionOf_lt carries.positive _
  have found := List.getElem?_eq_getElem (carries.width.symm ▸ inside)
  have at_p := List.getElem?_eq_getElem (leaves.width.symm ▸ inside)
  refine ⟨_, _, _, found, at_p, ?_⟩
  have mine : command ∈ left.filter (·.goesTo log.partitions (log.partitionFor (logKey command.id))) :=
    List.mem_filter.mpr ⟨member, Command.goesTo_iff.mpr rfl⟩
  have stored := congrArg List.length (carries.stored _ _ found)
  have counts := congrArg List.length (leaves.rest _ _ at_p).2
  have positive := List.length_pos_of_mem mine
  rw [Array.length_toList, List.length_map] at stored
  rw [List.length_drop] at counts
  omega

/-- As long as commands are left, a reader at the committed offsets takes a record. -/
theorem fetch_waiting (carries : log.Carries topic commands) (leaves : log.Leaves group topic commands left)
    (someLeft : left ≠ []) {reader : LogReader} (positions : reader.positions = log.offsets group topic)
    (named : reader.topic = topic) : ∃ record further, reader.fetch log = .record record further := by
  obtain ⟨command, member⟩ := List.exists_mem_of_ne_nil left someLeft
  obtain ⟨p, entries, offset, found, at_p, waiting⟩ := waiting_of_mem carries leaves member
  rw [← named] at found
  rw [← positions] at at_p
  exact LogReader.fetch_of_waiting carries.isOpen found at_p waiting

/-- Once the next command of a partition is committed, the others are left. -/
theorem commit_next {before behind : List Command} {command : Command} {p o : Nat}
    (leaves : log.Leaves group topic commands (before ++ command :: behind))
    (next : log.NextIn group topic before command p o) {reader : LogReader} {record : LogRecord}
    (ofGroup : reader.group = group) (ofTopic : reader.topic = topic)
    (at_p : record.partition = p) (at_o : record.offset = o) :
    ∃ after, log.commit reader record = .ok after ∧
      after.offsets group topic = (log.offsets group topic).set p (o + 1) ∧
      after.closed = log.closed ∧ after.partitions = log.partitions ∧ after.topic topic = log.topic topic ∧
      after.Leaves group topic commands (before ++ behind) := by
  obtain ⟨within, rest⟩ := leaves.rest p o next.committed
  have gone : before.filter (·.goesTo log.partitions p) = [] :=
    List.filter_eq_nil_iff.mpr fun other member => by simp [next.elsewhere other member]
  have commits : log.commit reader record =
      .ok (log.setOffsets group topic ((log.offsets group topic).set p (o + 1))) := by
    subst ofGroup ofTopic
    rw [commit_of_inside at_p at_o next.committed, Nat.max_eq_right (Nat.le_succ o)]
  have offsets : (log.setOffsets group topic ((log.offsets group topic).set p (o + 1))).offsets group topic =
      (log.offsets group topic).set p (o + 1) := by
    simp
  refine ⟨_, commits, offsets, rfl, rfl, rfl, ?_, ?_⟩
  · rw [offsets, List.length_set]
    exact leaves.width
  · intro q offset at_q
    rw [offsets] at at_q
    show offset ≤ (commands.filter (·.goesTo log.partitions q)).length ∧
      (commands.filter (·.goesTo log.partitions q)).drop offset = (before ++ behind).filter (·.goesTo log.partitions q)
    by_cases same : p = q
    · subst same
      rw [List.filter_append, gone, List.nil_append, List.filter_cons_of_pos next.here] at rest
      rw [List.getElem?_set_self (List.getElem?_eq_some_iff.mp next.committed).1] at at_q
      obtain rfl := Option.some.inj at_q
      have counts := congrArg List.length rest
      rw [List.length_drop, List.length_cons] at counts
      refine ⟨by omega, ?_⟩
      rw [List.filter_append, gone, List.nil_append, ← List.tail_drop, rest]
      rfl
    · rw [List.getElem?_set_ne same] at at_q
      obtain ⟨withinQ, restQ⟩ := leaves.rest q offset at_q
      have other : ¬ command.goesTo log.partitions q = true := fun mine =>
        same ((Command.goesTo_iff.mp next.here).symm.trans (Command.goesTo_iff.mp mine))
      rw [List.filter_append, List.filter_cons_of_neg other, ← List.filter_append] at restQ
      exact ⟨withinQ, restQ⟩

/-- The committed offset of every partition is the number of its records. -/
def Drained (group topic : String) (log : Log) : Prop :=
  ∀ (p : Nat) (inside : p < (log.topic topic).length),
    (log.committedOffset? group topic p).getD 0 = (log.topic topic)[p].size

instance (group topic : String) (log : Log) : Decidable (log.Drained group topic) :=
  inferInstanceAs (Decidable (∀ (p : Nat) (inside : p < (log.topic topic).length),
    (log.committedOffset? group topic p).getD 0 = (log.topic topic)[p].size))

/-- Everything is committed exactly when nothing is left. -/
theorem drained_iff (carries : log.Carries topic commands) (leaves : log.Leaves group topic commands left) :
    log.Drained group topic ↔ left = [] := by
  constructor
  · intro drained
    rw [List.eq_nil_iff_forall_not_mem]
    intro command member
    obtain ⟨p, entries, offset, found, at_p, waiting⟩ := waiting_of_mem carries leaves member
    obtain ⟨inside, same⟩ := List.getElem?_eq_some_iff.mp found
    have finished := drained p inside
    rw [getD_committedOffset?, doneWith, at_p, Option.getD_some, same] at finished
    omega
  · rintro rfl p inside
    have found := List.getElem?_eq_getElem inside
    have at_p := List.getElem?_eq_getElem (leaves.width.symm ▸ carries.width ▸ inside)
    obtain ⟨within, rest⟩ := leaves.rest _ _ at_p
    have stored := congrArg List.length (carries.stored _ _ found)
    rw [Array.length_toList, List.length_map] at stored
    rw [List.filter_nil, List.drop_eq_nil_iff] at rest
    rw [getD_committedOffset?, doneWith, at_p, Option.getD_some]
    omega

end Log

/-- Publishing appends the record of a command that has an id. -/
theorem Channel.publish_completes {channel : Channel} {command : Command} (named : Text.allBlank command.id = false)
    {moment : Moment} {d : Depot} {place : Nat × Nat} {after : Log}
    (appended : d.log.append channel.topic command.entry.key command.entry.value = .ok (place, after)) :
    (channel.publish command).Completes moment (fun position e => position = place ∧ e = { d with log := after }) d := by
  have key : logKey command.id = command.entry.key := rfl
  unfold publish
  rw [named, if_neg Bool.false_ne_true, Command.encode_entry named, key]
  refine Program.completes_noted ?_
  apply Program.completes_bind (Q := fun result e => result = .ok place ∧ e = { d with log := after })
  · exact Program.completes_attempt (Program.completes_append appended ⟨rfl, rfl⟩)
  · rintro _ _ ⟨rfl, rfl⟩
    exact ⟨rfl, rfl⟩

theorem Channel.publish_run {channel : Channel} {command : Command} (named : Text.allBlank command.id = false)
    {moment : Moment} {d : Depot} {place : Nat × Nat} {after : Log}
    (appended : d.log.append channel.topic command.entry.key command.entry.value = .ok (place, after)) :
    (channel.publish command).run (Depot.answer moment) d = (.ok place, { d with log := after }) := by
  obtain ⟨position, e, ran, rfl, rfl⟩ := Program.run_of_completes (publish_completes named appended)
  exact ran

end ModelDepot
