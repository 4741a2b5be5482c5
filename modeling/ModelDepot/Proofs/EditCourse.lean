import ModelDepot.Proofs.RequestCourse

/-!
The course of the requests that change a document. Each one looks at the stored document once, and
what it publishes afterwards is made of what it found there: a new content takes over the owner only,
a change of the publication everything else.
-/
namespace ModelDepot

/-- A request to change a document. -/
inductive Edit where
  | content (document : Document)
  | publication (change : PublishChange)
  deriving DecidableEq, Repr

namespace Edit

def request (channel : Channel) (caller : Caller) (id : String) : Edit → Program ControlError Document
  | .content document => Control.update channel caller id document
  | .publication change => Control.changePublication channel caller id change

/-- What is published at the time by a request that found this document, or none. -/
inductive Yields (id : String) (caller : Caller) (found : Option Document) (time : Int64) :
    Edit → Document → Prop
  | content {document : Document} (own : document.id = id) (owner : String) :
    Yields id caller found time (.content document) { document with owner := owner, lastUpdated := time }
  | publication {change : PublishChange} {document : Document} (stored : found = some document) :
    Yields id caller found time (.publication change) (Control.changed document change time)

end Edit

/-- How far a request is. -/
inductive EditPoint where
  | asked
  /-- The stored document was looked at. -/
  | seen (found : Option Document)
  /-- This is what will be published. -/
  | dated (document : Document)
  | published

/-- The calls of a request. -/
inductive EditRules (channel : Channel) (caller : Caller) (id : String) (edit : Edit) : Rules EditPoint
  | report {point : EditPoint} {event : Event} : EditRules channel caller id edit point (.report event) () point
  | checked {permission : Permission} {allowed : Bool} :
    EditRules channel caller id edit .asked (.authority (.check caller channel.topic id permission)) (.ok allowed)
      .asked
  | seen {found : Option Document} :
    EditRules channel caller id edit .asked (.store (.get id)) (.ok found) (.seen found)
  | dated {found : Option Document} {time : Int64} {document : Document}
    (yields : edit.Yields id caller found time document) :
    EditRules channel caller id edit (.seen found) .now time (.dated document)
  | published {document : Document} {place : Nat × Nat} (named : Text.allBlank document.id = false) :
    EditRules channel caller id edit (.dated document)
      (.append channel.topic (Command.put caller.user document).entry.key
        (Command.put caller.user document).entry.value) (.ok place) .published

namespace Control
variable {channel : Channel} {caller : Caller} {id : String} {edit : Edit}

theorem update_obeys (document : Document) :
    (update channel caller id document).Obeys (EditRules channel caller id (.content document)) (fun _ _ => True)
      .asked := by
  unfold update
  split
  · trivial
  · rename_i own
    apply Program.obeys_bind (storedOwner_obeys_of (fun _ => .checked) fun _ => .seen)
    · intro owner point looked
      obtain ⟨found, rfl, -⟩ := looked owner rfl
      apply Program.obeys_bind validated_obeys_of
      · rintro _ point rfl
        apply Program.obeys_after (Q := fun time point =>
          point = .dated { document with owner := if owner = "" then caller.user else owner, lastUpdated := time })
        · exact Program.follows_now fun _ => ⟨_, .dated (.content (not_not.mp own) _), rfl⟩
        rintro time point rfl
        apply Program.obeys_bind (publish_obeys_of (fun _ => .report) fun named _ => .published named)
        · exact fun _ _ _ => trivial
        · exact fun _ _ _ => trivial
      · exact fun _ _ _ => trivial
    · exact fun _ _ _ => trivial

theorem changePublication_obeys (change : PublishChange) :
    (changePublication channel caller id change).Obeys (EditRules channel caller id (.publication change))
      (fun _ _ => True) .asked := by
  apply Program.obeys_bind (read_obeys_of (fun _ => .checked) fun _ => .seen)
  · rintro document point rfl
    apply Program.obeys_after (Q := fun time point => point = .dated (changed document change time))
    · exact Program.follows_now fun _ => ⟨_, .dated (.publication rfl), rfl⟩
    rintro time point rfl
    apply Program.obeys_bind (publish_obeys_of (fun _ => .report) fun named _ => .published named)
    · exact fun _ _ _ => trivial
    · exact fun _ _ _ => trivial
  · exact fun _ _ _ => trivial

end Control

/-- From its beginning a request keeps to its course. -/
theorem Edit.request_obeys (channel : Channel) (caller : Caller) (id : String) (edit : Edit) :
    (edit.request channel caller id).Obeys (EditRules channel caller id edit) (fun _ _ => True) .asked := by
  cases edit with
  | content document => exact Control.update_obeys document
  | publication change => exact Control.changePublication_obeys change

end ModelDepot
