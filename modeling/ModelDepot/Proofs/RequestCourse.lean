import ModelDepot.Control
import ModelDepot.Proofs.Backlog
import ModelDepot.Proofs.Follows
import ModelDepot.Proofs.Requests

/-!
The course of the requests that publish a document, of whatever kind. The parts that they share keep to any rules that
allow their calls; what is published belongs to the caller unless a document was found.
-/
namespace ModelDepot

namespace Control
variable {γ : Type} {rules : Rules γ} {channel : Channel} {topic : String} {caller : Caller} {id : String}

/-! ### Parts of requests -/

theorem check_follows_of {asked : γ} {permission : Permission}
    (checked : ∀ allowed, rules asked (.authority (.check caller topic id permission)) (.ok allowed) asked) :
    (check topic caller id permission).Follows rules (fun _ point => point = asked) asked := by
  unfold check
  split
  · rfl
  · exact Program.follows_authority fun allowed => ⟨_, checked allowed, rfl⟩

/-- A document was read, or none was found, or the caller was turned away. -/
def Looks (seen : Option Document → γ) (result : Except ControlError Document) (point : γ) : Prop :=
  match result with
  | .ok document => point = seen (some document)
  | .error (.notFound _) => point = seen none
  | .error _ => True

theorem read_obeys_of {asked : γ} {seen : Option Document → γ} {permission : Permission}
    (checked : ∀ allowed, rules asked (.authority (.check caller topic id permission)) (.ok allowed) asked)
    (sees : ∀ found, rules asked (.store (.get id)) (.ok found) (seen found)) :
    (read topic caller id permission).Obeys rules (Looks seen) asked := by
  apply Program.obeys_after (check_follows_of checked)
  rintro (_ | _) point rfl
  · trivial
  · apply Program.obeys_after (Q := fun found point => point = seen found)
    · exact Program.follows_store fun found => ⟨_, sees found, rfl⟩
    rintro (_ | document) point rfl
    · rfl
    · rfl

/-- The owner is that of the document that was found, if there was one and it had any. -/
theorem storedOwner_obeys_of {asked : γ} {seen : Option Document → γ}
    (checked : ∀ allowed, rules asked (.authority (.check caller topic id .write)) (.ok allowed) asked)
    (sees : ∀ found, rules asked (.store (.get id)) (.ok found) (seen found)) :
    (storedOwner topic caller id).Obeys rules
      (fun result point => ∀ owner, result = .ok owner →
        ∃ found, point = seen found ∧ owner = (found.map (·.owner)).getD "") asked := by
  apply Program.obeys_bind
    (Q := fun outcome point => match outcome with
      | .ok result => Looks seen result point
      | .error _ => False)
  · exact Program.obeys_attempt (read_obeys_of checked sees)
  · rintro (problem | document) point looked
    · cases problem with
      | notFound other =>
        rintro _ same
        exact ⟨none, looked, (Except.ok.inj same).symm⟩
      | _ => exact nofun
    · rintro _ same
      exact ⟨some document, looked, (Except.ok.inj same).symm⟩
  · exact fun _ _ impossible => impossible.elim

theorem validated_obeys_of {document : Document} {point : γ} :
    (validated document).Obeys rules (fun _ later => later = point) point := by
  unfold validated
  cases document.validateForPublish <;> rfl

theorem publish_obeys_of {dated published : γ} {command : Command}
    (report : ∀ event, rules dated (.report event) () dated)
    (appends : Text.allBlank command.id = false → ∀ place,
      rules dated (.append channel.topic command.entry.key command.entry.value) (.ok place) published) :
    (publish channel command).Obeys rules (fun _ _ => True) dated := by
  apply Program.obeys_bind (Q := fun _ _ => True)
  · apply Program.obeys_mapError
    unfold Channel.publish
    cases named : Text.allBlank command.id with
    | true => trivial
    | false =>
      rw [if_neg Bool.false_ne_true, Command.encode_entry named]
      refine Program.obeys_noted (report _) ?_
      apply Program.obeys_bind (Q := fun result _ => ∃ place, result = .ok (.ok place))
      · apply Program.obeys_attempt
        intro answer fine
        cases answer with
        | error problem => cases fine
        | ok place => exact ⟨_, appends named place, place, rfl⟩
      · rintro _ point ⟨place, same⟩
        rw [Except.ok.inj same]
        trivial
      · rintro problem point ⟨place, same⟩
        cases same
  · exact fun _ _ _ => trivial
  · exact fun _ _ _ => trivial

end Control

/-- A request that publishes a document. -/
inductive PublishRequest where
  | create (document : Document)
  | update (id : String) (document : Document)
  | changePublication (id : String) (change : PublishChange)
  deriving DecidableEq, Repr

def PublishRequest.program (channel : Channel) (caller : Caller) :
    PublishRequest → Program ControlError Document
  | create document => Control.create channel caller document
  | update id document => Control.update channel caller id document
  | changePublication id change => Control.changePublication channel caller id change

/-- How far a request is. -/
inductive RequestPoint where
  | asked
  /-- This is what is stored under the id. -/
  | seen (id : String) (found : Option Document)
  /-- This is what will be published. -/
  | dated (document : Document)
  | published

/-- The calls of a request. -/
inductive RequestRules (channel : Channel) (caller : Caller) : Rules RequestPoint
  | report {point : RequestPoint} {event : Event} : RequestRules channel caller point (.report event) () point
  | named {id : String} : RequestRules channel caller .asked .freshId id .asked
  | checked {id : String} {permission : Permission} {allowed : Bool} :
    RequestRules channel caller .asked (.authority (.check caller channel.topic id permission)) (.ok allowed) .asked
  | seen {id : String} {found : Option Document} :
    RequestRules channel caller .asked (.store (.get id)) (.ok found) (.seen id found)
  | created {time : Int64} {document : Document} (own : document.owner = caller.user) :
    RequestRules channel caller .asked .now time (.dated document)
  /-- A document that nobody owns yet is the caller's. -/
  | updated {id : String} {found : Option Document} {time : Int64} {document : Document} (same : document.id = id)
    (own : document.owner = Control.keptOwner caller found) :
    RequestRules channel caller (.seen id found) .now time (.dated document)
  | changed {id : String} {stored : Document} {time : Int64} {change : PublishChange} :
    RequestRules channel caller (.seen id (some stored)) .now time (.dated (Control.changed stored change time))
  | published {document : Document} {place : Nat × Nat} (named : Text.allBlank document.id = false) :
    RequestRules channel caller (.dated document)
      (.append channel.topic (Command.put caller.user document).entry.key
        (Command.put caller.user document).entry.value) (.ok place) .published

namespace Control
variable {channel : Channel} {caller : Caller}

theorem put_obeys (document : Document) :
    (publish channel (.put caller.user document)).Obeys (RequestRules channel caller) (fun _ _ => True)
      (.dated document) :=
  publish_obeys_of (fun _ => .report) fun named _ => .published named

theorem create_obeys (document : Document) :
    (create channel caller document).Obeys (RequestRules channel caller) (fun _ _ => True) .asked := by
  apply Program.obeys_after (Q := fun _ point => point = RequestPoint.asked)
  · exact ⟨fun _ _ => ⟨_, .named, rfl⟩, fun _ failed => (failed rfl).elim⟩
  rintro id _ rfl
  apply Program.obeys_bind validated_obeys_of
  · rintro _ point rfl
    apply Program.obeys_after (Q := fun time point =>
      point = RequestPoint.dated { document with id := id, owner := caller.user, lastUpdated := time })
    · exact Program.follows_now fun _ => ⟨_, .created rfl, rfl⟩
    rintro time _ rfl
    apply Program.obeys_bind (put_obeys _)
    · rintro _ point -
      apply Program.obeys_after (Q := fun _ _ => True)
      · exact Program.follows_report ⟨_, .report, trivial⟩
      · exact fun _ _ _ => trivial
    · exact fun _ _ _ => trivial
  · exact fun _ _ _ => trivial

theorem update_obeys_rules (id : String) (document : Document) :
    (update channel caller id document).Obeys (RequestRules channel caller) (fun _ _ => True) .asked := by
  unfold update
  split
  · trivial
  rename_i own
  apply Program.obeys_bind (storedOwner_obeys_of (fun _ => .checked) fun _ => .seen)
  · intro owner point looked
    obtain ⟨found, rfl, kept⟩ := looked owner rfl
    apply Program.obeys_bind validated_obeys_of
    · rintro _ point rfl
      have isKept : (if owner = "" then caller.user else owner) = keptOwner caller found := by
        rw [kept]
        cases found <;> rfl
      let made (time : Int64) : Document := { document with owner := keptOwner caller found, lastUpdated := time }
      apply Program.obeys_after (Q := fun time point => point = RequestPoint.dated (made time))
      · exact Program.follows_now fun time => ⟨.dated (made time), .updated (not_not.mp own) rfl, rfl⟩
      rintro time _ rfl
      rw [isKept]
      apply Program.obeys_bind (put_obeys _)
      · exact fun _ _ _ => trivial
      · exact fun _ _ _ => trivial
    · exact fun _ _ _ => trivial
  · exact fun _ _ _ => trivial

theorem changePublication_obeys_rules (id : String) (change : PublishChange) :
    (changePublication channel caller id change).Obeys (RequestRules channel caller) (fun _ _ => True) .asked := by
  apply Program.obeys_bind (read_obeys_of (fun _ => .checked) fun _ => .seen)
  · rintro document point rfl
    apply Program.obeys_after (Q := fun time point => point = RequestPoint.dated (changed document change time))
    · exact Program.follows_now fun _ => ⟨_, .changed, rfl⟩
    rintro time _ rfl
    apply Program.obeys_bind (put_obeys _)
    · exact fun _ _ _ => trivial
    · exact fun _ _ _ => trivial
  · exact fun _ _ _ => trivial

end Control

/-- From its beginning a request keeps to its course. -/
theorem PublishRequest.obeys (channel : Channel) (caller : Caller) (request : PublishRequest) :
    (request.program channel caller).Obeys (RequestRules channel caller) (fun _ _ => True) .asked := by
  cases request with
  | create document => exact Control.create_obeys document
  | update id document => exact Control.update_obeys_rules id document
  | changePublication id change => exact Control.changePublication_obeys_rules id change

end ModelDepot
