import ModelDepot.Proofs.Contents
import ModelDepot.Proofs.Requests

/-!
The requests that publish. Whatever mishaps there are, they change neither documents nor grants; one that
fails leaves no record, and one that succeeds was cleared and leaves the one record of what it answers. Main
statement: `lawful`.
-/
namespace ModelDepot

/-- One log holds one record more than the other, at the end of the partition of the command's resource; it
    reads as the command. -/
structure Log.Gains (topic : String) (command : Command) (log after : Log) : Prop where
  isOpen : log.closed = false
  record : ∃ entries entry, (log.topic topic)[log.partitionFor (logKey command.id)]? = some entries ∧
    entry.key = logKey command.id ∧ Command.decode entry.value = .ok (some command) ∧
    after.topic topic = (log.topic topic).set (log.partitionFor (logKey command.id)) (entries.push entry)
  otherTopics (name : String) (other : name ≠ topic) : after.topic name = log.topic name
  partitions : after.partitions = log.partitions
  committed : after.committed = log.committed
  closed : after.closed = log.closed

theorem Depot.Publishes.gains {channel : Channel} {command : Command} {d e : Depot}
    (published : d.Publishes channel command e) : d.log.Gains channel.topic command e.log := by
  obtain ⟨named, place, after, appended, rfl⟩ := published
  obtain ⟨entries, found, isOpen, -, rfl⟩ := Log.append_eq_ok appended
  exact {
    isOpen := isOpen
    record := by
      refine ⟨entries, command.entry, found, rfl, Command.decode_entry named, ?_⟩
      rw [Log.topic_insert, if_pos rfl]
      rfl
    otherTopics := fun name other => by simp [other]
    partitions := rfl
    committed := rfl
    closed := rfl }

/-- A request that publishes a command. -/
inductive Intent where
  | create (document : Document)
  | update (id : String) (document : Document)
  | changePublication (id : String) (change : PublishChange)
  | delete (id : String)
  deriving DecidableEq, Repr

namespace Intent

/-- What is answered: the document that is published, and nothing for a removal. -/
abbrev Answer : Intent → Type
  | create _ => Document
  | update .. => Document
  | changePublication .. => Document
  | delete _ => Unit

def request (channel : Channel) (caller : Caller) : (intent : Intent) → Program ControlError intent.Answer
  | create document => Control.create channel caller document
  | update id document => Control.update channel caller id document
  | changePublication id change => Control.changePublication channel caller id change
  | delete id => Control.delete channel caller id

/-- The command of an answer. -/
def command (caller : Caller) : (intent : Intent) → intent.Answer → Command
  | create _, made => .put caller.user made
  | update _ _, made => .put caller.user made
  | changePublication _ _, made => .put caller.user made
  | delete id, _ => .delete id caller.user

/-- The resource that the request is about. -/
def id (moment : Moment) : Intent → String
  | create _ => moment.freshId
  | update id _ => id
  | changePublication id _ => id
  | delete id => id

/-- The caller may do this. -/
def Cleared (a : Authority) (caller : Caller) (topic : String) : Intent → Prop
  | create _ => True
  | update id _ => a.Clears caller topic id .write
  | changePublication id _ => a.Clears caller topic id .write
  | delete id => a.Clears caller topic id .administrate

/-- The answer is made of what was asked for, of what was stored, and of the moment. -/
def Fulfilled (moment : Moment) (caller : Caller) (store : Store) : (intent : Intent) → intent.Answer → Prop
  | create document, made =>
    made = { document with id := moment.freshId, owner := caller.user, lastUpdated := moment.time }
  | update id document, made => ∃ found, store.get id = .ok found ∧
    made = { document with owner := Control.keptOwner caller found, lastUpdated := moment.time }
  | changePublication id change, made => ∃ stored, store.get id = .ok (some stored) ∧
    made = Control.changed stored change moment.time
  | delete _, _ => True

/-- What a request may lead to. -/
structure Lawful (channel : Channel) (caller : Caller) (moment : Moment) (intent : Intent) (d : Depot)
    (result : Except ControlError intent.Answer) (e : Depot) : Prop where
  store : e.store = d.store
  authority : e.authority = d.authority
  failed (problem : ControlError) (failure : result = .error problem) : e.log = d.log
  succeeded (answer : intent.Answer) (success : result = .ok answer) :
    intent.Cleared d.authority caller channel.topic ∧ intent.Fulfilled moment caller d.store answer ∧
      (intent.command caller answer).id = intent.id moment ∧
      d.log.Gains channel.topic (intent.command caller answer) e.log

variable {channel : Channel} {caller : Caller} {moment : Moment} {intent : Intent} {d : Depot}

theorem lawful_of_concludes {result : Except ControlError intent.Answer} {e : Depot}
    (concludes : d.Concludes (fun answer e => d.Publishes channel (intent.command caller answer) e ∧
      intent.Cleared d.authority caller channel.topic ∧ intent.Fulfilled moment caller d.store answer ∧
      (intent.command caller answer).id = intent.id moment) result e) :
    intent.Lawful channel caller moment d result e := by
  cases result with
  | error problem =>
    obtain rfl : e = d := concludes
    exact ⟨rfl, rfl, fun _ _ => rfl, nofun⟩
  | ok answer =>
    obtain ⟨published, cleared, fulfilled, own⟩ := concludes
    have gains := published.gains
    obtain ⟨-, place, after, -, rfl⟩ := published
    refine ⟨rfl, rfl, nofun, fun other same => ?_⟩
    obtain rfl := Except.ok.inj same
    exact ⟨cleared, fulfilled, own, gains⟩

theorem request_ensures (coherent : d.store.table.Coherent) (intent : Intent) :
    (intent.request channel caller).Ensures moment (fun _ => True)
      (fun result e => intent.Lawful channel caller moment d result e) d := by
  have weaken : ∀ {fit : Call → Prop} {ending : intent.Answer → Depot → Prop},
      (intent.request channel caller).Ensures moment fit (d.Concludes ending) d →
      (∀ answer e, ending answer e → d.Publishes channel (intent.command caller answer) e ∧
        intent.Cleared d.authority caller channel.topic ∧ intent.Fulfilled moment caller d.store answer ∧
        (intent.command caller answer).id = intent.id moment) →
      (intent.request channel caller).Ensures moment (fun _ => True)
        (fun result e => intent.Lawful channel caller moment d result e) d := by
    intro fit ending ensures stronger
    refine Program.ensures_mono ensures (fun _ _ => trivial) fun result e ended => lawful_of_concludes ?_
    cases result with
    | error problem => exact ended
    | ok answer => exact stronger answer e ended
  cases intent with
  | create document =>
    refine weaken (Control.create_ensures document) ?_
    rintro made e ⟨published, rfl⟩
    exact ⟨published, trivial, rfl, rfl⟩
  | update id document =>
    refine weaken (Control.update_ensures document) ?_
    rintro made e ⟨published, own, clears, found, got, rfl⟩
    exact ⟨published, clears, ⟨found, got, rfl⟩, own⟩
  | changePublication id change =>
    refine weaken (Control.changePublication_ensures change) ?_
    rintro made e ⟨published, clears, stored, got, rfl⟩
    obtain ⟨row, found, isRow⟩ := Store.row_of_get got
    have own : stored.id = id := (Row.content_of_toDocument isRow).1.trans (coherent id row found)
    exact ⟨published, clears, ⟨stored, got, rfl⟩, own⟩
  | delete id =>
    refine weaken Control.delete_ensures ?_
    rintro _ e ⟨published, clears⟩
    exact ⟨published, clears, trivial, rfl⟩

/-- Whichever of its calls fail, a request changes neither documents nor grants; it fails without a trace, or
    it was cleared and has published what it answers. -/
theorem lawful (coherent : d.store.table.Coherent) (mishaps : Nat → Option Mishap) :
    intent.Lawful channel caller moment d ((intent.request channel caller).runAmid mishaps moment d).1
      ((intent.request channel caller).runAmid mishaps moment d).2 :=
  Program.runAmid_of_ensures (request_ensures coherent intent) mishaps

open Control (ann board shelved)

/-- The owner puts a new content under the document. -/
abbrev newContent : Intent := .update "mine" { id := "mine", name := "New" }

theorem lawful_newContent :
    shelved.store.table.Coherent ∧
      ((newContent.request board ann).runAmid (fun _ => none) ⟨9, "x"⟩ shelved).1 =
        .ok ({ id := "mine", name := "New", owner := "ann", lastUpdated := 9 } : Document) ∧
      newContent.Lawful board ann ⟨9, "x"⟩ shelved
        ((newContent.request board ann).runAmid (fun _ => none) ⟨9, "x"⟩ shelved).1
        ((newContent.request board ann).runAmid (fun _ => none) ⟨9, "x"⟩ shelved).2 := by
  have coherent : shelved.store.table.Coherent := Table.Distinct.coherent (by decide)
  exact ⟨coherent, by decide +kernel, lawful coherent fun _ => none⟩

end Intent
end ModelDepot
