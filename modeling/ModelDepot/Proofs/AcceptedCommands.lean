import ModelDepot.Proofs.Backlog
import ModelDepot.Proofs.Trimming

/-!
The commands that the log accepts. An id that is blank is refused wherever a command is written, published or
read and wherever its document is validated, and every other one is accepted there. Main statement: a command
is written exactly if its id is not blank, and is then read back; what is read from any bytes can be written
again, and is accepted by all that ask for an id (`codec_round_trip`).
-/
namespace ModelDepot

namespace Command
variable {command : Command}

theorem trim_id_ne_empty_iff : Text.trim command.id ≠ "" ↔ Text.allBlank command.id = false := by
  rw [ne_eq, Text.trim_eq_empty_iff, Bool.not_eq_true]

theorem encode_iff : (∃ bytes, command.encode = .ok bytes) ↔ Text.allBlank command.id = false := by
  constructor
  · rintro ⟨bytes, encoded⟩
    unfold encode at encoded
    split at encoded
    · cases encoded
    · rename_i named
      exact Bool.eq_false_iff.mpr named
  · exact fun named => ⟨_, encode_entry named⟩

/-- No record leads to a command with a blank id. -/
theorem named_of_toCommand {record : CommandRecord} (accepted : record.toCommand = .ok (some command)) :
    Text.allBlank command.id = false := by
  unfold CommandRecord.toCommand at accepted
  split at accepted
  · split at accepted
    · cases accepted
    · rename_i document _
      cases found : record.identified document with
      | error problem =>
        rw [found] at accepted
        cases accepted
      | ok identified =>
        cases blank : Text.allBlank identified.id with
        | true =>
          simp only [found, bind, Except.bind, blank, ↓reduceIte] at accepted
          cases accepted
        | false =>
          simp only [found, bind, Except.bind, blank] at accepted
          obtain rfl := Option.some.inj (Except.ok.inj accepted)
          exact blank
  · split at accepted
    · split at accepted
      · cases accepted
      · rename_i named
        obtain rfl := Option.some.inj (Except.ok.inj accepted)
        exact Bool.eq_false_iff.mpr named
    · split at accepted
      · cases accepted
      · cases accepted

theorem named_of_decode {bytes : List UInt8} (decoded : decode bytes = .ok (some command)) :
    Text.allBlank command.id = false := by
  unfold decode at decoded
  split at decoded
  · cases decoded
  · exact named_of_toCommand decoded

end Command

/-- Publishing a command with an id ends as the log answers to its record. -/
theorem Channel.publish_answer {channel : Channel} {command : Command} (named : Text.allBlank command.id = false)
    (moment : Moment) (d : Depot) :
    ((channel.publish command).run (Depot.answer moment) d).1 =
      ((d.log.append channel.topic (logKey command.id) command.entry.value).map Prod.fst).mapError .log := by
  cases appended : d.log.append channel.topic (logKey command.id) command.entry.value with
  | ok place =>
    rw [publish_run named appended]
    rfl
  | error problem =>
    unfold publish
    rw [named, if_neg Bool.false_ne_true, Command.encode_entry named]
    cases channel.debug <;>
      simp [Program.bind_eq, Program.bind, Program.ofExcept, Program.report, Program.attempt, Program.append,
        Program.fail, Program.run, Depot.answer, appended, Except.map, Except.mapError]

namespace Command

/-- A command is written exactly if something is left of its id between its blanks, and is then read as it was.
    Whatever bytes a command was read from: it has such an id, it can be written and is then read as it is, it
    is published as the log allows, and a document that it puts is valid. -/
theorem codec_round_trip :
    (∀ command : Command, ((∃ bytes, command.encode = .ok bytes) ↔ Text.trim command.id ≠ "") ∧
        ∀ bytes, command.encode = .ok bytes → decode bytes = .ok (some command)) ∧
      ∀ (bytes : List UInt8) (command : Command), decode bytes = .ok (some command) →
        Text.trim command.id ≠ "" ∧
          (∃ again, command.encode = .ok again ∧ decode again = .ok (some command) ∧
            ∀ (channel : Channel) (moment : Moment) (d : Depot),
              ((channel.publish command).run (Depot.answer moment) d).1 =
                ((d.log.append channel.topic (logKey command.id) again).map Prod.fst).mapError .log) ∧
          ∀ owner document, command = .put owner document → document.validate = .ok () := by
  constructor
  · intro command
    rw [trim_id_ne_empty_iff]
    refine ⟨encode_iff, fun bytes encoded => ?_⟩
    have named := encode_iff.mp ⟨bytes, encoded⟩
    rw [encode_entry named] at encoded
    rw [← Except.ok.inj encoded]
    exact decode_entry named
  · intro bytes command decoded
    have named := named_of_decode decoded
    refine ⟨trim_id_ne_empty_iff.mpr named, ?_, ?_⟩
    · exact ⟨command.entry.value, encode_entry named, decode_entry named,
        fun channel moment d => Channel.publish_answer named moment d⟩
    · rintro owner document rfl
      exact if_neg (Bool.eq_false_iff.mp named)

/-- A record with a blank in its id, whose document has its other name, no id of its own, a character that is
    escaped in two halves, and a member that nobody reads. -/
def paired : List UInt8 :=
  Json.utf8 ("\x7b\"command\":\"PUT\",\"id\":\" p\\t\"," ++
    "\"payload\":\x7b\"name\":\"\\ud83d\\ude00\",\"kind\":[1e999]\x7d\x7d")

theorem codec_round_trip_paired :
    let document : Document := { id := " p\t", name := "😀" }
    decode paired = .ok (some (.put "" document)) ∧ Text.trim document.id ≠ "" ∧ document.validate = .ok () ∧
      ∃ again, (Command.put "" document).encode = .ok again ∧ decode again = .ok (some (.put "" document)) := by
  have decoded : decode paired = .ok (some (.put "" { id := " p\t", name := "😀" })) := by decide +kernel
  obtain ⟨named, ⟨again, encoded, reread, -⟩, valid⟩ := codec_round_trip.2 _ _ decoded
  exact ⟨decoded, named, valid _ _ rfl, again, encoded, reread⟩

end Command
end ModelDepot
