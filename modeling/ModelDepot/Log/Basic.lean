import ModelDepot.Json.Reader
import ModelDepot.Text.Lossy

/-!
The command log: topics of numbered partitions, to which records are appended, and from which
readers of a group fetch them. The partition of a record depends on its key alone, so records
with one key stay in order.
-/
namespace ModelDepot

/-- A record as it is delivered. -/
structure LogRecord where
  topic : String
  partition : Int
  offset : Int
  key : List UInt8
  value : List UInt8
  deriving DecidableEq, Repr

/-- The key for people to read. -/
def LogRecord.keyText (record : LogRecord) : String := Text.lossy record.key

inductive LogError where
  | closed
  | unknownPartition (topic : String) (partition : Int)
  | backend (problem : String)
  | lockPoisoned
  deriving DecidableEq, Repr

def LogError.message : LogError → String
  | .closed => "command log is closed"
  | .unknownPartition topic partition =>
    "topic " ++ Json.marked topic ++ " has no partition " ++ toString partition
  | .backend problem => "command log backend error: " ++ problem
  | .lockPoisoned => "command log state lock poisoned"

namespace Log

/-- A stored record. -/
structure Entry where
  key : List UInt8
  value : List UInt8
  deriving DecidableEq, Repr

/-- One round of the hash of a key. -/
def mix (hash : UInt64) (b : UInt8) : UInt64 := (hash ^^^ b.toUInt64) * 0x100000001b3

def hashKey (key : List UInt8) : UInt64 := key.foldl mix 0xcbf29ce484222325

/-- The number of the partition of a key; numbers beyond 32 bits with a sign become zero. -/
def partitionOf (partitions : Nat) (key : List UInt8) : Nat :=
  let n := (hashKey key).toNat % partitions
  if n < 0x80000000 then n else 0

end Log

/-- The state of a log. `committed` holds for each group and topic how many records of each
    partition the group is done with. -/
structure Log where
  partitions : Nat
  topics : Dict (List (Array Log.Entry)) := ∅
  committed : Dict (Dict (List Nat)) := ∅
  closed : Bool := false

/-- Where a group stands in a topic. The positions are the offsets of the next records to fetch,
    and `turn` is the partition that is looked at first. -/
structure LogReader where
  group : String
  topic : String
  positions : List Nat
  turn : Nat
  deriving DecidableEq, Repr

/-- What a reader finds. -/
inductive Fetched where
  | closed
  | pending
  | record (record : LogRecord) (reader : LogReader)
  deriving DecidableEq, Repr

namespace Log

/-- An empty log with at least one partition. -/
def new (partitions : Nat) : Log := { partitions := max partitions 1 }

/-- The partition of a key in this log. -/
def partitionFor (log : Log) (key : List UInt8) : Nat := partitionOf log.partitions key

/-- The partitions of a topic, which are empty before anything is appended. -/
def topic (log : Log) (name : String) : List (Array Entry) :=
  (log.topics[name]?).getD (List.replicate log.partitions #[])

/-- The number of records of a topic. -/
def length (log : Log) (name : String) : Nat :=
  match log.topics[name]? with
  | some partitions => partitions.foldr (fun entries n => entries.size + n) 0
  | none => 0

/-- The log with one more record, and its partition and offset. -/
def append (log : Log) (name : String) (key value : List UInt8) :
    Except LogError ((Nat × Nat) × Log) :=
  if log.closed then .error .closed
  else
    let index := log.partitionFor key
    let partitions := log.topic name
    match partitions[index]? with
    | none => .error (.unknownPartition name index)
    | some entries =>
      let grown := partitions.set index (entries.push ⟨key, value⟩)
      .ok ((index, entries.size), { log with topics := log.topics.insert name grown })

/-- What a group has committed of a topic. -/
def offsets (log : Log) (group name : String) : List Nat :=
  (log.committed[group]?.bind (·[name]?)).getD (List.replicate log.partitions 0)

/-- The log with other committed offsets. -/
def setOffsets (log : Log) (group name : String) (offsets : List Nat) : Log :=
  let ofGroup := (log.committed[group]?).getD ∅
  { log with committed := log.committed.insert group (ofGroup.insert name offsets) }

/-- A new reader starts at what its group has committed. -/
def subscribe (log : Log) (group name : String) : Except LogError (LogReader × Log) :=
  if log.closed then .error .closed
  else
    let offsets := log.offsets group name
    let opened := { log with topics := log.topics.insert name (log.topic name) }
    .ok (⟨group, name, offsets, 0⟩, opened.setOffsets group name offsets)

def close (log : Log) : Log := { log with closed := true }

/-- The offset that a group commits next to, once it has committed anything. -/
def committedOffset? (log : Log) (group name : String) (partition : Int) : Option Nat := do
  let offsets ← (← log.committed[group]?)[name]?
  if partition < 0 then none
  else
    let offset ← offsets[partition.toNat]?
    if 0 < offset then some offset else none

/-- The offsets that a group commits next to, for all partitions. -/
def committedOffsets (log : Log) (group name : String) : List (Option Nat) :=
  (log.offsets group name).map fun offset => if 0 < offset then some offset else none

/-- The log in which the group of the reader is done with a record and all before it. -/
def commit (log : Log) (reader : LogReader) (record : LogRecord) : Except LogError Log :=
  let offsets := log.offsets reader.group reader.topic
  match if record.partition < 0 then none else offsets[record.partition.toNat]? with
  | none => .error (.unknownPartition record.topic record.partition)
  | some offset =>
    let next := max offset (record.offset + 1).toNat
    .ok (log.setOffsets reader.group reader.topic (offsets.set record.partition.toNat next))

end Log

namespace LogReader

/-- The partitions with the positions in them and their numbers, in the order in which they are
    looked at. -/
def turns (reader : LogReader) (partitions : List (Array Log.Entry)) :
    List ((Array Log.Entry × Nat) × Nat) :=
  let numbered := (partitions.zip reader.positions).zipIdx
  numbered.drop reader.turn ++ numbered.take reader.turn

/-- The next record of one partition, from its position. -/
def next? (reader : LogReader) (entries : Array Log.Entry) (position index : Nat) :
    Option LogRecord :=
  (entries[position]?).map fun entry => ⟨reader.topic, index, position, entry.key, entry.value⟩

/-- The reader after the next record of a partition. -/
def pass (reader : LogReader) (index count : Nat) : LogReader :=
  { reader with
    positions := reader.positions.modify index (· + 1)
    turn := (index + 1) % count }

/-- The next record of the first partition that has one. -/
def fetch (reader : LogReader) (log : Log) : Fetched :=
  if log.closed then .closed
  else
    let partitions := log.topic reader.topic
    let found := (reader.turns partitions).findSome? fun ((entries, position), index) =>
      (reader.next? entries position index).map (index, ·)
    match found with
    | none => .pending
    | some (index, record) => .record record (reader.pass index partitions.length)

end LogReader
end ModelDepot
