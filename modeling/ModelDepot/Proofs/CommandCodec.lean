import ModelDepot.Command
import ModelDepot.Proofs.Json.Records

/-!
A command with an id is read from the log as it was before it was written there.
-/
namespace ModelDepot

namespace Json

theorem takes_map {α β : Type} {read : Reader α} {bytes : List UInt8} {value : α} (takes : Takes read bytes value)
    (f : α → β) : Takes (f <$> read) bytes (f value) := by
  intro rest ends
  show (read >>= fun value => pure (f value)) (bytes ++ rest) = _
  rw [Reader.bind_run (takes rest ends)]
  rfl

namespace Rereads
variable {σ : Type} {value current final : σ} {more : List (Member σ)} {name : String}

theorem text {get : σ → String} {set : String → σ → σ} (further : Rereads value more (set (get value) current) final) :
    Rereads value (.text name get set :: more) current final :=
  .written rfl (takes_map (takes_text _) set) further

theorem flag {get : σ → Bool} {set : Bool → σ → σ} (further : Rereads value more (set (get value) current) final) :
    Rereads value (.flag name get set :: more) current final :=
  .written rfl (takes_map (takes_flag _) set) further

theorem stamp {get : σ → Int64} {set : Int64 → σ → σ} (further : Rereads value more (set (get value) current) final) :
    Rereads value (.stamp name get set :: more) current final :=
  .written rfl (takes_map (takes_stamp _) set) further

end Rereads

theorem begins_print {σ : Type} (shape : Shape σ) (value : σ) :
    utf8 (shape.print value) = openMap :: memberBytes true (shape.printed value) :=
  utf8_printMembers _

end Json

namespace Document
open Json

theorem takes_print (document : Document) : Takes shape.read (utf8 (shape.print document)) document := by
  refine Shape.takes_print (by unfold Shape.Distinct; decide) ?_
  exact .text <| .text <| .text <| .text <| .text <| .flag <| .text <| .text <| .stamp .nil

end Document

namespace CommandRecord
open Json

theorem takes_print (record : CommandRecord) : Takes shape.read (utf8 (shape.print record)) record := by
  refine Shape.takes_print (by unfold Shape.Distinct; decide) ?_
  refine .written rfl (takes_map (takes_text _) _) <| .text <| .text ?_
  obtain ⟨command, id, owner, document⟩ := record
  cases document with
  | none => exact .absent rfl rfl .nil
  | some document =>
    have taken := takes_nullable_some document.takes_print ⟨openMap, _, begins_print _ _, rfl, by decide⟩
    exact .written rfl (takes_map taken _) .nil

/-- What is parsed where nothing follows. -/
theorem parse_print (record : CommandRecord) : shape.parse (utf8 (shape.print record)) = .ok record := by
  have taken := record.takes_print [] (fun b first => by cases first)
  rw [List.append_nil] at taken
  simp only [Shape.parse, Reader.parse, taken, bind, Except.bind]
  rfl

end CommandRecord

namespace Command

theorem toCommand_ofCommand {command : Command} (named : Text.allBlank command.id = false) :
    (CommandRecord.ofCommand command).toCommand = .ok (some command) := by
  unfold CommandRecord.toCommand
  cases command with
  | put owner document =>
    have present : document.id ≠ "" := by
      intro empty
      rw [id, empty] at named
      revert named
      decide
    have own : (CommandRecord.ofCommand (.put owner document)).identified document = .ok document := by
      simp [CommandRecord.identified, CommandRecord.ofCommand, present]
    have kind : (CommandRecord.ofCommand (.put owner document)).command = CommandKind.put.label := rfl
    have filled : ¬ Text.allBlank document.id = true := Bool.eq_false_iff.mp named
    rw [if_pos kind]
    simp only [CommandRecord.ofCommand] at own ⊢
    rw [own]
    simp only [bind, Except.bind, filled]
    rfl
  | delete id owner =>
    have kind : (CommandRecord.ofCommand (.delete id owner)).command = CommandKind.delete.label := rfl
    have other : (CommandRecord.ofCommand (.delete id owner)).command ≠ CommandKind.put.label := by
      rw [kind]
      decide
    have filled : ¬ Text.allBlank (CommandRecord.ofCommand (.delete id owner)).id = true := Bool.eq_false_iff.mp named
    rw [if_neg other, if_pos kind, if_neg filled]
    rfl

/-- A command with an id is written, and what is written is read as this command. -/
theorem decode_encode {command : Command} (named : Text.allBlank command.id = false) :
    ∃ bytes, command.encode = .ok bytes ∧ decode bytes = .ok (some command) := by
  refine ⟨Json.utf8 (CommandRecord.shape.print (.ofCommand command)), ?_, ?_⟩
  · unfold encode
    rw [if_neg (by rw [named]; exact Bool.false_ne_true)]
  · simp only [decode, CommandRecord.parse_print]
    exact toCommand_ofCommand named

end Command
end ModelDepot
