import ModelDepot.Control
import ModelDepot.Proofs.Follows

/-!
The course of applying a command: which calls are made at which point. Whether a document has grants
is asked before it is stored and once more after that, and missing ones are given to the owner.
-/
namespace ModelDepot

/-- How far a command is applied. -/
inductive ApplyPoint where
  | begun
  /-- The document had no grants before it is stored. -/
  | bare
  /-- It had grants before it is stored. -/
  | seeded
  | timed (time : Int64)
  | stored (document : Document)
  /-- The document had no grants after it was stored. -/
  | exposed (document : Document)
  /-- It had grants after it was stored. -/
  | secured (document : Document)
  /-- The grants of a document were removed, which is to be removed itself. -/
  | revoked
  | removed

/-- The command is applied at this point. -/
def ApplyPoint.Finished : Command → ApplyPoint → Prop
  | .put _ _, .secured _ => True
  | .delete _ _, .removed => True
  | _, _ => False

/-- The calls of applying a command. -/
inductive ApplyRules (topic : String) : Command → Rules ApplyPoint
  | report {command : Command} {point : ApplyPoint} {event : Event} :
    ApplyRules topic command point (.report event) () point
  | missing {owner : String} {document : Document} :
    ApplyRules topic (.put owner document) .begun (.authority (.getResource topic document.id)) (.ok none) .bare
  | present {owner : String} {document : Document} {grants : Grants} :
    ApplyRules topic (.put owner document) .begun (.authority (.getResource topic document.id)) (.ok (some grants))
      .seeded
  | seeded {owner : String} {document : Document} {answer : Except AuthorityError Unit} :
    ApplyRules topic (.put owner document) .bare
      (.authority (.setPermission topic document.id (.forOwner owner))) answer .seeded
  | clock {owner : String} {document : Document} {time : Int64} (unstamped : document.isStamped = false) :
    ApplyRules topic (.put owner document) .seeded .now time (.timed time)
  | stored {owner : String} {document : Document} {answer : Except StoreError Unit} (stamped : document.isStamped) :
    ApplyRules topic (.put owner document) .seeded (.store (.upsert document)) answer (.stored document)
  | storedNow {owner : String} {document : Document} {time : Int64} {answer : Except StoreError Unit} :
    ApplyRules topic (.put owner document) (.timed time) (.store (.upsert (document.stampIfUnset time))) answer
      (.stored (document.stampIfUnset time))
  | exposed {owner : String} {document stored : Document} :
    ApplyRules topic (.put owner document) (.stored stored) (.authority (.getResource topic document.id)) (.ok none)
      (.exposed stored)
  | secured {owner : String} {document stored : Document} {grants : Grants} :
    ApplyRules topic (.put owner document) (.stored stored) (.authority (.getResource topic document.id))
      (.ok (some grants)) (.secured stored)
  | reseeded {owner : String} {document stored : Document} {answer : Except AuthorityError Unit} :
    ApplyRules topic (.put owner document) (.exposed stored)
      (.authority (.setPermission topic document.id (.forOwner owner))) answer (.secured stored)
  | revoked {id owner : String} {answer : Except AuthorityError Unit} :
    ApplyRules topic (.delete id owner) .begun (.authority (.removeResource topic id)) answer .revoked
  | removed {id owner : String} {answer : Except StoreError Bool} :
    ApplyRules topic (.delete id owner) .revoked (.store (.delete id)) answer .removed

namespace Control

/-- Making sure of grants, before a document is stored or after. -/
theorem seedGrant_follows {topic owner id : String} {rules : Rules ApplyPoint} {before without after : ApplyPoint}
    (missing : rules before (.authority (.getResource topic id)) (.ok none) without)
    (present : ∀ grants, rules before (.authority (.getResource topic id)) (.ok (some grants)) after)
    (seeded : ∀ answer, rules without (.authority (.setPermission topic id (.forOwner owner))) answer after)
    (report : ∀ event, rules after (.report event) () after) :
    (seedGrant topic owner id).Follows rules (fun _ point => point = after) before := by
  apply Program.follows_bind (Q := fun found point => point = if found.isSome then after else without)
  · apply Program.follows_authority
    rintro (_ | grants)
    · exact ⟨without, missing, rfl⟩
    · exact ⟨after, present grants, rfl⟩
  rintro (_ | grants) point rfl
  · apply Program.follows_bind (Q := fun _ point => point = after)
    · exact Program.follows_authority fun answer => ⟨_, seeded (.ok answer), rfl⟩
    rintro _ point rfl
    apply Program.follows_bind (Q := fun _ later => later = point)
    · exact Program.follows_report ⟨_, report _, rfl⟩
    · exact fun _ _ same => same
  · rfl

theorem upsert_follows (topic owner : String) (document : Document) :
    ((Materialize.upsert document).mapError ControlError.store).Follows (ApplyRules topic (.put owner document))
      (fun _ point => ∃ time, point = .stored (document.stampIfUnset time)) .seeded := by
  apply Program.follows_mapError
  unfold Materialize.upsert
  cases stamped : document.isStamped with
  | true =>
    refine Program.follows_store fun _ => ⟨_, .stored stamped, 0, ?_⟩
    simp only [Document.stampIfUnset, stamped, ↓reduceIte]
  | false =>
    apply Program.follows_bind (Q := fun time point => point = .timed time)
    · exact Program.follows_now fun time => ⟨_, .clock stamped, rfl⟩
    rintro time point rfl
    exact Program.follows_store fun _ => ⟨_, .storedNow, time, rfl⟩

theorem apply_follows (topic : String) (command : Command) :
    (apply topic command).Follows (ApplyRules topic command) (fun _ => ApplyPoint.Finished command) .begun := by
  cases command with
  | put owner document =>
    apply Program.follows_bind
      (seedGrant_follows .missing (fun _ => .present) (fun _ => .seeded) fun _ => .report)
    rintro _ point rfl
    apply Program.follows_bind (upsert_follows topic owner document)
    rintro _ point ⟨time, rfl⟩
    apply Program.follows_bind
      (seedGrant_follows .exposed (fun _ => .secured) (fun _ => .reseeded) fun _ => .report)
    rintro (_ | _) point rfl
    · trivial
    · apply Program.follows_bind (Q := fun _ => ApplyPoint.Finished (.put owner document))
      · exact Program.follows_report ⟨_, .report, trivial⟩
      · exact fun _ _ finished => finished
  | delete id owner =>
    apply Program.follows_bind (Q := fun _ point => point = .revoked)
    · exact Program.follows_authority fun _ => ⟨_, .revoked, rfl⟩
    rintro _ point rfl
    apply Program.follows_mapError
    apply Program.follows_bind (Q := fun _ => ApplyPoint.Finished (.delete id owner))
    · exact Program.follows_store fun _ => ⟨_, .removed, trivial⟩
    · exact fun _ _ finished => finished

end Control
end ModelDepot
