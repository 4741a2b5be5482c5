import ModelDepot.Command
import ModelDepot.Proofs.Json.Rearranging

/-!
A command is read by the values of its record's known members alone. Main statement: texts that hold the same record up
to the order of members, unknown members and the name of the document are read as the same command, however they are
written (`Command.decode_alike`).
-/
namespace ModelDepot
open Json

namespace Document

/-- The members of a document, with what their values mean. -/
def fields : List (RecordField Document) := [
  .text "id" (·.id) fun s d => { d with id := s },
  .text "name" (·.name) fun s d => { d with name := s },
  .text "owner" (·.owner) fun s d => { d with owner := s },
  .text "bpmn_xml" (·.bpmnXml) fun s d => { d with bpmnXml := s },
  .text "svg_xml" (·.svgXml) fun s d => { d with svgXml := s },
  .flag "publish" (·.publish) fun b d => { d with publish := b },
  .text "publish_date" (·.publishDate) fun s d => { d with publishDate := s },
  .text "description" (·.description) fun s d => { d with description := s },
  .stamp "last_updated_unix" (·.lastUpdated) fun n d => { d with lastUpdated := n }]

def names : List String := fields.map (·.member.name)

theorem denotes : Denotes shape.read (MeansRecord fields {}) := Shape.denotes_record rfl

theorem independent : Independent fields := by
  unfold Independent fields
  simp only [List.pairwise_cons, List.mem_cons, List.not_mem_nil, or_false, forall_eq_or_imp, forall_eq]
  repeat' apply And.intro
  all_goals first
    | exact List.Pairwise.nil
    | exact fun _ isNone => isNone.elim
    | rintro _ _ _ _ ⟨_, _, rfl⟩ ⟨_, _, rfl⟩ _
      rfl

theorem names_known : ∀ field ∈ fields, ∀ name, field.member.answersTo name → name ∈ names := by
  simp [fields, names, RecordField.text, RecordField.flag, RecordField.stamp, Member.text, Member.flag, Member.stamp,
    Member.of, Member.answersTo]

end Document

namespace CommandRecord

def documentField : RecordField CommandRecord :=
  (RecordField.optional Document.denotes "processmodel" Document.shape.print (·.document)
    fun d r => { r with document := d }).alsoNamed "payload"

/-- The members of a record, with what their values mean. -/
def fields : List (RecordField CommandRecord) := [
  (RecordField.text "command" (·.command) fun s r => { r with command := s }).needed,
  .text "id" (·.id) fun s r => { r with id := s },
  .text "owner" (·.owner) fun s r => { r with owner := s },
  documentField]

/-- The names of the document. -/
def documentNames : List String := ["processmodel", "payload"]

def names : List String := ["command", "id", "owner"] ++ documentNames

theorem denotes : Denotes shape.read (MeansRecord fields {}) := Shape.denotes_record rfl

theorem independent : Independent fields := by
  unfold Independent fields
  simp only [List.pairwise_cons, List.mem_cons, List.not_mem_nil, or_false, forall_eq_or_imp, forall_eq]
  repeat' apply And.intro
  all_goals first
    | exact List.Pairwise.nil
    | exact fun _ isNone => isNone.elim
    | rintro _ _ _ _ ⟨_, _, rfl⟩ ⟨_, _, rfl⟩ _
      rfl

theorem names_known : ∀ field ∈ fields, ∀ name, field.member.answersTo name → name ∈ names := by
  simp [fields, documentField, names, documentNames, RecordField.text, RecordField.optional, RecordField.needed,
    RecordField.alsoNamed, Member.text, Member.optional, Member.needed, Member.alsoNamed, Member.of, Member.answersTo]

theorem fieldOf?_document : ∀ name ∈ documentNames, fieldOf? fields name = some documentField := by
  simp [fieldOf?, fields, documentField, documentNames, RecordField.text, RecordField.optional, RecordField.needed,
    RecordField.alsoNamed, Member.text, Member.optional, Member.needed, Member.alsoNamed, Member.of, Member.answersTo]

/-! ### The same record -/

/-- One change of the members of a record that no known member notices. -/
inductive Alters : Members → Members → Prop where
  | rearrange {members members' : Members} (rearranges : Rearranges names members members') : Alters members members'
  | rename {key key' : List Nat} (isKey : textOf? key = some "processmodel") (isKeyToo : textOf? key' = some "payload")
      (document : Value) (members : Members) : Alters ((key, document) :: members) ((key', document) :: members)
  | rearrangeDocument {key : List Nat} {name : String} (isKey : textOf? key = some name) (isDocument : name ∈ documentNames)
      {inner inner' : Members} (rearranges : Rearranges Document.names inner inner') (members : Members) :
      Alters ((key, .map inner) :: members) ((key, .map inner') :: members)

/-- The same record up to changes back and forth. -/
def Same : Members → Members → Prop := Relation.EqvGen Alters

/-- A document may stand under either name, and as anything that stands for the same document. -/
theorem fills_document {key key' : List Nat} {name name' : String} (isKey : textOf? key = some name)
    (isDocument : name ∈ documentNames) (isKeyToo : textOf? key' = some name') (isDocumentToo : name' ∈ documentNames)
    {given given' : Value} (same : ∀ put, documentField.means given put → documentField.means given' put)
    {members : Members} {seen : List String} {value result : CommandRecord}
    (fills : Fills fields ((key, given) :: members) seen value result) :
    Fills fields ((key', given') :: members) seen value result := by
  obtain ⟨other, isName, fills⟩ := fills
  obtain rfl : name = other := Option.some.inj (isKey.symm.trans isName)
  rw [fieldOf?_document name isDocument] at fills
  obtain ⟨isNone, -⟩ | ⟨field, put, isField, unseen, isPut, fills⟩ := fills
  · cases isNone
  · obtain rfl := Option.some.inj isField
    exact ⟨name', isKeyToo, .inr ⟨_, put, fieldOf?_document name' isDocumentToo, unseen, same put isPut, fills⟩⟩

theorem means_document {inner inner' : Members} (rearranges : Rearranges Document.names inner inner')
    (put : CommandRecord → CommandRecord) :
    documentField.means (.map inner) put ↔ documentField.means (.map inner') put := by
  have same (document : Document) : MeansRecord Document.fields {} (.map inner) document ↔
      MeansRecord Document.fields {} (.map inner') document :=
    fills_iff_of_rearranges Document.independent Document.names_known rearranges
  simp [documentField, RecordField.alsoNamed, RecordField.optional, same]

theorem Same.fills_iff {members members' : Members} (same : Same members members') {record : CommandRecord} :
    Fills fields members [] {} record ↔ Fills fields members' [] {} record := by
  induction same with
  | rel members members' alters =>
    cases alters with
    | rearrange rearranges => exact fills_iff_of_rearranges independent names_known rearranges
    | rename isKey isKeyToo document members =>
      have isName : "processmodel" ∈ documentNames := by simp [documentNames]
      have isNameToo : "payload" ∈ documentNames := by simp [documentNames]
      exact ⟨fills_document isKey isName isKeyToo isNameToo fun _ means => means,
        fills_document isKeyToo isNameToo isKey isName fun _ means => means⟩
    | rearrangeDocument isKey isDocument rearranges members =>
      exact ⟨fills_document isKey isDocument isKey isDocument fun put => (means_document rearranges put).mp,
        fills_document isKey isDocument isKey isDocument fun put => (means_document rearranges put).mpr⟩
  | refl => exact Iff.rfl
  | symm _ _ _ ih => exact ih.symm
  | trans _ _ _ _ _ ih ih' => exact ih.trans ih'

end CommandRecord

namespace Command

/-- Texts of the same record are read as the same command, however its values are written. -/
theorem decode_alike {text text' : List UInt8} {members members' : Members} (holds : Holds text (.map members))
    (holdsToo : Holds text' (.map members')) (same : CommandRecord.Same members members')
    (accepted : ∀ fault, decode text ≠ .error (.json fault)) : decode text' = decode text := by
  cases parsed : CommandRecord.shape.parse text with
  | error fault =>
    refine absurd ?_ (accepted fault)
    rw [decode, parsed]
  | ok record =>
    have means := (holds.parse_eq_ok CommandRecord.denotes).mp parsed
    have parsedToo : CommandRecord.shape.parse text' = .ok record :=
      (holdsToo.parse_eq_ok CommandRecord.denotes).mpr (same.fills_iff.mp means)
    rw [decode, decode, parsed, parsedToo]

/-- A text that is spelled by its own bytes. -/
def word (text : String) : Value := .text (units text)

theorem written_word {text : String} (plain : text.toList.all needsNoEscape) :
    Written (.value (word text)) (quoteMark :: (utf8 text ++ [quoteMark])) := .text (spelled_plain plain)

/-- A record that stores a document. -/
def plainRecord : Members :=
  [(units "command", word "PUT"), (units "id", word "p1"), (units "processmodel", .map [(units "name", word "A")])]

/-- The same record with more members, in another order, under the other name of the document. -/
def wordyRecord : Members :=
  [(units "x", .list [.number ⟨true, [0x31], [point, 0x35, 0x65, plus, 0x33]⟩, .text [0xd800]]),
    (units "payload", .map [(units "y", .null), (units "name", word "A")]),
    (units "id", word "p1"), (units "command", word "PUT")]

theorem same_wordyRecord : CommandRecord.Same plainRecord wordyRecord := by
  refine .trans _ _ _ (.rel _ _ (.rearrange (.reorder (List.reverse_perm plainRecord).symm))) ?_
  refine .trans _ _ _ (.rel _ _ (.rename (textOf?_units _) (textOf?_units _) _ _)) ?_
  have inside : Rearranges Document.names [(units "name", word "A")] _ := .add (textOf?_units "y") (by decide) .null _
  refine .trans _ _ _ (.rel _ _ (.rearrangeDocument (textOf?_units _) (by decide) inside _)) ?_
  exact .rel _ _ (.rearrange (.add (textOf?_units "x") (by decide) _ _))

def plainText : List UInt8 :=
  utf8 "\x7b\"command\":\"PUT\",\"id\":\"p1\",\"processmodel\":\x7b\"name\":\"A\"\x7d\x7d"

def wordyText : List UInt8 :=
  utf8 ("\x7b\"x\":[-1.5e+3, \"\\ud800\"],\"payload\" : \x7b\"y\":null,\"name\":\"\\u0041\"\x7d," ++
    "\"i\\u0064\":\"p1\",\"command\":\"PUT\"\x7d ")

theorem holds_plainText : Holds plainText (.map plainRecord) := by
  have document : Written (.value (.map [(units "name", word "A")])) _ :=
    .map (.member blank_nil (spelled_plain (by decide)) blank_nil blank_nil (written_word (by decide)) (.lastMember blank_nil))
  have record : Written (.value (.map plainRecord)) _ :=
    .map <| .member blank_nil (spelled_plain (by decide)) blank_nil blank_nil (written_word (by decide)) <|
      .member separates_comma (spelled_plain (by decide)) blank_nil blank_nil (written_word (by decide)) <|
      .member separates_comma (spelled_plain (by decide)) blank_nil blank_nil document (.lastMember blank_nil)
  exact ⟨[], _, [], blank_nil, record, blank_nil, by decide⟩

theorem holds_wordyText : Holds wordyText (.map wordyRecord) := by
  have space : Blank [0x20] := by simp [Blank, isSpace]
  have commaSpace : Separates false [comma, 0x20] := ⟨[], [0x20], blank_nil, space, rfl⟩
  have digit {b : UInt8} (isDigit : isDigit b) : Digits [b] := ⟨List.cons_ne_nil b [], by simpa using isDigit⟩
  have sound : Number.Sound ⟨true, [0x31], [point, 0x35, 0x65, plus, 0x33]⟩ :=
    { digits := digit rfl
      noZero := by decide
      scale := ⟨[point, 0x35], [0x65, plus, 0x33], .inr ⟨[0x35], digit rfl, rfl⟩,
        .inr ⟨0x65, [plus], [0x33], by decide, .inr (.inl rfl), digit rfl, rfl⟩, rfl⟩ }
  have half : Spelled [0xd800] [backslash, letterU, 0x64, 0x38, 0x30, 0x30] :=
    .hex (h := 13) (i := 8) (j := 0) (k := 0) (by decide) (by decide) (by decide) (by decide) .done
  have letterA : Spelled (units "A") [backslash, letterU, 0x30, 0x30, 0x34, 0x31] :=
    .hex (h := 0) (i := 0) (j := 4) (k := 1) (by decide) (by decide) (by decide) (by decide) .done
  have letterD : Spelled [0x64] [backslash, letterU, 0x30, 0x30, 0x36, 0x34] :=
    .hex (h := 0) (i := 0) (j := 6) (k := 4) (by decide) (by decide) (by decide) (by decide) .done
  have identifier : Spelled (units "id") _ := .plain (c := 'i') (by decide) (by decide) (by decide) letterD
  have list : Written (.value (.list [.number ⟨true, [0x31], [point, 0x35, 0x65, plus, 0x33]⟩, .text [0xd800]])) _ :=
    .list (.item blank_nil (.number sound) (.item commaSpace (.text half) (.lastItem blank_nil)))
  have document : Written (.value (.map [(units "y", .null), (units "name", word "A")])) _ :=
    .map <| .member blank_nil (spelled_plain (by decide)) blank_nil blank_nil .null <|
      .member separates_comma (spelled_plain (by decide)) blank_nil blank_nil (.text letterA) (.lastMember blank_nil)
  have record : Written (.value (.map wordyRecord)) _ :=
    .map <| .member blank_nil (spelled_plain (by decide)) blank_nil blank_nil list <|
      .member separates_comma (spelled_plain (by decide)) space space document <|
      .member separates_comma identifier blank_nil blank_nil (written_word (by decide)) <|
      .member separates_comma (spelled_plain (by decide)) blank_nil blank_nil (written_word (by decide)) (.lastMember blank_nil)
  exact ⟨[], _, [0x20], blank_nil, record, space, by decide⟩

theorem decode_alike_wordy :
    (Holds plainText (.map plainRecord) ∧ Holds wordyText (.map wordyRecord) ∧
      CommandRecord.Same plainRecord wordyRecord ∧ ∀ fault, decode plainText ≠ .error (.json fault)) ∧
    decode wordyText = decode plainText := by
  have stored : decode plainText = .ok (some (.put "" { id := "p1", name := "A" })) := rfl
  have accepted : ∀ fault, decode plainText ≠ .error (.json fault) := by simp [stored]
  exact ⟨⟨holds_plainText, holds_wordyText, same_wordyRecord, accepted⟩,
    decode_alike holds_plainText holds_wordyText same_wordyRecord accepted⟩

end Command
end ModelDepot
