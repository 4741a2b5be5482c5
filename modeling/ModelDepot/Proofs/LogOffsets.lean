import ModelDepot.Log.Basic

/-!
What the operations of a log do to its stored records and to the committed offsets. A stored record
keeps its place forever, a reader starts where its group has committed and takes the record that
comes next in one partition, and a commit moves one offset of one group in one topic.
-/
namespace ModelDepot.Log

/-- The record that is stored at a place of a topic. -/
def entryAt? (log : Log) (name : String) (partition offset : Nat) : Option Entry :=
  (log.topic name)[partition]?.bind (·[offset]?)

/-- The records of a partition, which has none if the topic does not have it. -/
def stored (log : Log) (name : String) (partition : Nat) : List Entry :=
  ((log.topic name)[partition]?.map Array.toList).getD []

/-- How many records of a partition a group is done with. -/
def doneWith (log : Log) (group name : String) (partition : Nat) : Nat :=
  (log.offsets group name)[partition]?.getD 0

@[simp] theorem getElem?_stored (log : Log) (name : String) (partition offset : Nat) :
    (log.stored name partition)[offset]? = log.entryAt? name partition offset := by
  unfold stored entryAt?
  cases (log.topic name)[partition]? with
  | none => rfl
  | some entries => exact Array.getElem?_toList

theorem stored_of_topic_eq {log other : Log} {name : String} (same : other.topic name = log.topic name)
    (partition : Nat) : other.stored name partition = log.stored name partition := by
  unfold stored
  rw [same]

theorem partitionOf_lt {partitions : Nat} (positive : 0 < partitions) (key : List UInt8) :
    partitionOf partitions key < partitions := by
  have below := Nat.mod_lt (hashKey key).toNat positive
  unfold partitionOf
  dsimp only
  split <;> omega

/-- The number of a partition with records has 32 bits with a sign. -/
theorem partitionOf_small (partitions : Nat) (key : List UInt8) : partitionOf partitions key < 0x80000000 := by
  unfold partitionOf
  dsimp only
  split <;> omega

/-! ### A new log -/

@[simp] theorem partitions_new (n : Nat) : (Log.new n).partitions = max n 1 := rfl

@[simp] theorem topic_new (n : Nat) (name : String) : (Log.new n).topic name = List.replicate (max n 1) #[] := by
  simp [Log.new, Log.topic]

@[simp] theorem offsets_new (n : Nat) (group name : String) :
    (Log.new n).offsets group name = List.replicate (max n 1) 0 := by
  simp [Log.new, Log.offsets]

@[simp] theorem stored_new (n : Nat) (name : String) (partition : Nat) : (Log.new n).stored name partition = [] := by
  unfold stored
  rw [topic_new, List.getElem?_replicate]
  split <;> rfl

@[simp] theorem doneWith_new (n : Nat) (group name : String) (partition : Nat) :
    (Log.new n).doneWith group name partition = 0 := by
  unfold doneWith
  rw [offsets_new, List.getElem?_replicate]
  split <;> rfl

/-! ### Committed offsets -/

@[simp] theorem offsets_setOffsets (log : Log) (group name : String) (offsets : List Nat) (g n : String) :
    (log.setOffsets group name offsets).offsets g n =
      if g = group ∧ n = name then offsets else log.offsets g n := by
  unfold Log.setOffsets Log.offsets
  by_cases sameGroup : g = group
  · subst sameGroup
    by_cases sameName : n = name
    · subst sameName; simp
    · have other : ¬ name = n := fun h => sameName h.symm
      cases log.committed[g]? <;> simp [sameName, other, Std.ExtTreeMap.getElem?_insert]
  · have other : ¬ group = g := fun h => sameGroup h.symm
    simp [sameGroup, other, Std.ExtTreeMap.getElem?_insert]

@[simp] theorem topic_setOffsets (log : Log) (group name : String) (offsets : List Nat) (n : String) :
    (log.setOffsets group name offsets).topic n = log.topic n := rfl

/-- A group is known to have committed a partition once it is done with some of its records. -/
theorem committedOffset?_eq_some_iff {log : Log} {group name : String} {partition : Int} {count : Nat} :
    log.committedOffset? group name partition = some count ↔
      0 ≤ partition ∧ 0 < count ∧ log.doneWith group name partition.toNat = count := by
  unfold Log.committedOffset? Log.doneWith Log.offsets
  cases ofGroup : log.committed[group]? with
  | none =>
    simp only [Option.bind_eq_bind, Option.bind_none, Option.getD_none, List.getElem?_replicate]
    split <;> simp <;> omega
  | some topics =>
    simp only [Option.bind_eq_bind, Option.bind_some]
    cases ofTopic : topics[name]? with
    | none =>
      simp only [Option.bind_none, Option.getD_none, List.getElem?_replicate]
      split <;> simp <;> omega
    | some offsets =>
      simp only [Option.bind_some, Option.getD_some]
      by_cases negative : partition < 0
      · simp only [negative, ↓reduceIte]
        constructor
        · intro h; cases h
        · intro h; omega
      · cases at_p : offsets[partition.toNat]? with
        | none => simp only [negative, ↓reduceIte, Option.bind_none, Option.getD_none]; simp; omega
        | some offset =>
          simp only [negative, ↓reduceIte, Option.bind_some, Option.getD_some]
          split <;> simp <;> omega

/-- Where nothing is known to be committed, a group is done with no records. -/
theorem getD_committedOffset? (log : Log) (group name : String) (partition : Nat) :
    (log.committedOffset? group name partition).getD 0 = log.doneWith group name partition := by
  cases known : log.committedOffset? group name partition with
  | some count => exact (committedOffset?_eq_some_iff.mp known).2.2.symm
  | none =>
    rcases Nat.eq_zero_or_pos (log.doneWith group name partition) with zero | positive
    · exact zero.symm
    · have some := committedOffset?_eq_some_iff.mpr ⟨Int.natCast_nonneg partition, positive, rfl⟩
      rw [known] at some
      cases some

/-! ### Operations -/

@[simp] theorem topic_insert (log : Log) (name : String) (partitions : List (Array Entry)) (n : String) :
    Log.topic { log with topics := log.topics.insert name partitions } n =
      if n = name then partitions else log.topic n := by
  unfold Log.topic
  by_cases same : n = name
  · subst same; simp
  · have other : ¬ name = n := fun h => same h.symm
    simp [same, other, Std.ExtTreeMap.getElem?_insert]

/-- What an append that succeeds leaves: one more record at the end of the partition of its key,
    and everything else as it was. -/
theorem append_eq_ok {log after : Log} {name : String} {key value : List UInt8} {place : Nat × Nat}
    (appended : log.append name key value = .ok (place, after)) :
    ∃ entries, (log.topic name)[log.partitionFor key]? = some entries ∧ log.closed = false ∧
      place = (log.partitionFor key, entries.size) ∧
      after = { log with
        topics := log.topics.insert name
          ((log.topic name).set (log.partitionFor key) (entries.push ⟨key, value⟩)) } := by
  unfold Log.append at appended
  split at appended
  · simp at appended
  · rename_i isOpen
    simp only at appended
    split at appended
    · simp at appended
    · rename_i entries found
      obtain ⟨placeIs, afterIs⟩ := Prod.mk.inj (Except.ok.inj appended)
      exact ⟨entries, found, by simpa using isOpen, placeIs.symm, afterIs.symm⟩

/-- An append adds its record at the end of one partition. -/
theorem stored_append {log after : Log} {name : String} {key value : List UInt8} {place : Nat × Nat}
    (appended : log.append name key value = .ok (place, after)) (n : String) (p : Nat) :
    after.stored n p =
      if n = name ∧ p = log.partitionFor key then log.stored n p ++ [⟨key, value⟩] else log.stored n p := by
  obtain ⟨entries, found, _, _, rfl⟩ := append_eq_ok appended
  unfold stored
  rw [topic_insert]
  by_cases same : n = name
  · subst same
    rw [if_pos rfl]
    by_cases here : p = log.partitionFor key
    · subst here
      rw [if_pos ⟨rfl, rfl⟩, found, List.getElem?_set_self (List.getElem?_eq_some_iff.mp found).1]
      exact Array.toList_push
    · rw [if_neg fun both => here both.2, List.getElem?_set_ne fun there => here there.symm]
  · rw [if_neg same, if_neg fun both => same both.1]

theorem stored_prefix_append {log after : Log} {name : String} {key value : List UInt8} {place : Nat × Nat}
    (appended : log.append name key value = .ok (place, after)) (n : String) (p : Nat) :
    log.stored n p <+: after.stored n p := by
  rw [stored_append appended]
  split
  · exact List.prefix_append _ _
  · exact List.prefix_refl _

/-- A record keeps its place when others are appended. -/
theorem entryAt?_append {log after : Log} {name : String} {key value : List UInt8} {place : Nat × Nat}
    (appended : log.append name key value = .ok (place, after)) {n : String} {p o : Nat} {entry : Entry}
    (stored : log.entryAt? n p o = some entry) : after.entryAt? n p o = some entry := by
  rw [← getElem?_stored] at stored ⊢
  obtain ⟨more, grown⟩ := stored_prefix_append appended n p
  rw [← grown, List.getElem?_append_left (List.getElem?_eq_some_iff.mp stored).1]
  exact stored

theorem offsets_append {log after : Log} {name : String} {key value : List UInt8} {place : Nat × Nat}
    (appended : log.append name key value = .ok (place, after)) (g n : String) :
    after.offsets g n = log.offsets g n := by
  obtain ⟨_, _, _, _, rfl⟩ := append_eq_ok appended
  rfl

/-- A new reader starts at the committed offsets, and nothing else is to be seen of it. -/
theorem subscribe_eq_ok {log after : Log} {group name : String} {reader : LogReader}
    (subscribed : log.subscribe group name = .ok (reader, after)) :
    reader = ⟨group, name, log.offsets group name, 0⟩ ∧ (∀ n, after.topic n = log.topic n) ∧
      ∀ g n, after.offsets g n = log.offsets g n := by
  unfold Log.subscribe at subscribed
  split at subscribed
  · simp at subscribed
  · obtain ⟨readerIs, rfl⟩ := Prod.mk.inj (Except.ok.inj subscribed)
    refine ⟨readerIs.symm, ?_, ?_⟩
    · intro n
      rw [topic_setOffsets, topic_insert]
      split
      · rename_i same; rw [same]
      · rfl
    · intro g n
      rw [offsets_setOffsets]
      split
      · rename_i same; rw [same.1, same.2]
      · rfl

theorem subscribe_of_open {log : Log} (isOpen : log.closed = false) (group name : String) :
    ∃ reader after, log.subscribe group name = .ok (reader, after) := by
  unfold Log.subscribe
  rw [isOpen, if_neg Bool.false_ne_true]
  exact ⟨_, _, rfl⟩

theorem subscribe_frame {log after : Log} {group name : String} {reader : LogReader}
    (subscribed : log.subscribe group name = .ok (reader, after)) :
    after.closed = log.closed ∧ after.partitions = log.partitions := by
  unfold Log.subscribe at subscribed
  split at subscribed
  · simp at subscribed
  · obtain ⟨-, rfl⟩ := Prod.mk.inj (Except.ok.inj subscribed)
    exact ⟨rfl, rfl⟩

/-- A commit changes nothing but the offsets of the group of its reader. -/
theorem commit_eq_ok {log after : Log} {reader : LogReader} {record : LogRecord}
    (committed : log.commit reader record = .ok after) :
    ∃ offsets, offsets.length = (log.offsets reader.group reader.topic).length ∧
      after = log.setOffsets reader.group reader.topic offsets := by
  unfold Log.commit at committed
  simp only at committed
  split at committed
  · simp at committed
  · obtain rfl := Except.ok.inj committed
    exact ⟨_, List.length_set, rfl⟩

theorem commit_of_inside {log : Log} {reader : LogReader} {record : LogRecord} {p o done : Nat}
    (at_p : record.partition = p) (at_o : record.offset = o)
    (inside : (log.offsets reader.group reader.topic)[p]? = some done) :
    log.commit reader record = .ok (log.setOffsets reader.group reader.topic
      ((log.offsets reader.group reader.topic).set p (max done (o + 1)))) := by
  have natural : ¬ record.partition < 0 := by omega
  have number : record.partition.toNat = p := by omega
  have next : (record.offset + 1).toNat = o + 1 := by omega
  simp only [commit, natural, ↓reduceIte, number, inside, next]

theorem topic_commit {log after : Log} {reader : LogReader} {record : LogRecord}
    (committed : log.commit reader record = .ok after) (n : String) : after.topic n = log.topic n := by
  obtain ⟨_, _, rfl⟩ := commit_eq_ok committed
  rfl

theorem length_offsets_commit {log after : Log} {reader : LogReader} {record : LogRecord}
    (committed : log.commit reader record = .ok after) (g n : String) :
    (after.offsets g n).length = (log.offsets g n).length := by
  obtain ⟨offsets, same, rfl⟩ := commit_eq_ok committed
  rw [offsets_setOffsets]
  split
  · rename_i mine
    rw [same, mine.1, mine.2]
  · rfl

/-- A commit of the record at a place moves the offset of its partition behind it, unless that is
    further on already. -/
theorem doneWith_commit {log after : Log} {reader : LogReader} {record : LogRecord} {p o : Nat}
    (at_p : record.partition = p) (at_o : record.offset = o)
    (committed : log.commit reader record = .ok after) (g n : String) (q : Nat) :
    after.doneWith g n q =
      if g = reader.group ∧ n = reader.topic ∧ q = p then max (log.doneWith g n q) (o + 1)
      else log.doneWith g n q := by
  unfold Log.commit at committed
  have natural : ¬ record.partition < 0 := by omega
  have number : record.partition.toNat = p := by omega
  have next : (record.offset + 1).toNat = o + 1 := by omega
  simp only [natural, ↓reduceIte, number, next] at committed
  split at committed
  · simp at committed
  · rename_i offset found
    obtain rfl := Except.ok.inj committed
    have inside := (List.getElem?_eq_some_iff.mp found).1
    unfold doneWith
    rw [offsets_setOffsets]
    by_cases mine : g = reader.group ∧ n = reader.topic
    · obtain ⟨rfl, rfl⟩ := mine
      by_cases here : q = p
      · subst here
        rw [if_pos ⟨rfl, rfl⟩, if_pos ⟨rfl, rfl, rfl⟩, List.getElem?_set_self inside, found]
        rfl
      · have other : ¬ p = q := fun h => here h.symm
        simp [here, other]
    · have elsewhere : ¬ (g = reader.group ∧ n = reader.topic ∧ q = p) := fun h => mine ⟨h.1, h.2.1⟩
      rw [if_neg mine, if_neg elsewhere]

end ModelDepot.Log

namespace ModelDepot.LogReader

theorem mem_turns {reader : LogReader} {partitions : List (Array Log.Entry)} {entries : Array Log.Entry}
    {position index : Nat} (member : ((entries, position), index) ∈ reader.turns partitions) :
    partitions[index]? = some entries ∧ reader.positions[index]? = some position := by
  unfold LogReader.turns at member
  have numbered : ((entries, position), index) ∈ (partitions.zip reader.positions).zipIdx := by
    rcases List.mem_append.mp member with later | earlier
    · exact List.mem_of_mem_drop later
    · exact List.mem_of_mem_take earlier
  have paired := List.mem_zipIdx_iff_getElem?.mp numbered
  exact List.getElem?_zip_eq_some.mp paired

/-- What a fetch takes: the record at the position in one partition, behind which it moves. -/
theorem fetch_eq_record {reader after : LogReader} {log : Log} {record : LogRecord}
    (fetched : reader.fetch log = .record record after) :
    ∃ p o entry, reader.positions[p]? = some o ∧ log.entryAt? reader.topic p o = some entry ∧
      record = ⟨reader.topic, p, o, entry.key, entry.value⟩ ∧
      after = reader.pass p (log.topic reader.topic).length := by
  unfold LogReader.fetch at fetched
  split at fetched
  · simp at fetched
  · simp only at fetched
    split at fetched
    · simp at fetched
    · rename_i index found look
      obtain ⟨rfl, rfl⟩ := Fetched.record.inj fetched
      obtain ⟨⟨⟨entries, position⟩, i⟩, member, taken⟩ := List.exists_of_findSome?_eq_some look
      obtain ⟨at_i, positionIs⟩ := mem_turns member
      simp only [next?, Option.map_map, Option.map_eq_some_iff, Function.comp_apply, Prod.mk.injEq] at taken
      obtain ⟨entry, stored, rfl, rfl⟩ := taken
      refine ⟨i, position, entry, positionIs, ?_, rfl, rfl⟩
      unfold Log.entryAt?
      rw [at_i]
      exact stored

/-- A fetch takes a record when there is one behind the position in some partition. -/
theorem fetch_of_waiting {reader : LogReader} {log : Log} (isOpen : log.closed = false) {p position : Nat}
    {entries : Array Log.Entry} (at_p : (log.topic reader.topic)[p]? = some entries)
    (positionIs : reader.positions[p]? = some position) (waiting : position < entries.size) :
    ∃ record after, reader.fetch log = .record record after := by
  have numbered : ((entries, position), p) ∈ ((log.topic reader.topic).zip reader.positions).zipIdx :=
    List.mem_zipIdx_iff_getElem?.mpr (List.getElem?_zip_eq_some.mpr ⟨at_p, positionIs⟩)
  have looked : ((entries, position), p) ∈ reader.turns (log.topic reader.topic) := by
    rw [← List.take_append_drop reader.turn ((log.topic reader.topic).zip reader.positions).zipIdx] at numbered
    rcases List.mem_append.mp numbered with earlier | later
    · exact List.mem_append_right _ earlier
    · exact List.mem_append_left _ later
  unfold LogReader.fetch
  rw [isOpen, if_neg Bool.false_ne_true]
  dsimp only
  split
  · rename_i none
    have nothing := List.findSome?_eq_none_iff.mp none _ looked
    simp [next?, Array.getElem?_eq_getElem waiting] at nothing
  · exact ⟨_, _, rfl⟩

@[simp] theorem topic_pass (reader : LogReader) (p count : Nat) : (reader.pass p count).topic = reader.topic := rfl

@[simp] theorem group_pass (reader : LogReader) (p count : Nat) : (reader.pass p count).group = reader.group := rfl

@[simp] theorem positions_pass (reader : LogReader) (p count q : Nat) :
    (reader.pass p count).positions[q]? =
      if p = q then (reader.positions[q]?).map (· + 1) else reader.positions[q]? := by
  unfold LogReader.pass
  rw [List.getElem?_modify]
  split
  · rfl
  · simp

end ModelDepot.LogReader
