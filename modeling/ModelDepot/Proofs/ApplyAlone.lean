import ModelDepot.Control
import ModelDepot.Proofs.Alone

/-!
What applying a command does to a depot that nobody else changes meanwhile.
-/
namespace ModelDepot

namespace Store

/-- The store with a document under its id, if that can be stored. -/
def holding (document : Document) (store : Store) : Store :=
  match store.upsert document with
  | .ok after => after
  | .error _ => store

/-- The store can take what the command puts into it. -/
def Admits (store : Store) : Command → Prop
  | .put _ document => ∃ after, store.upsert document = .ok after
  | .delete _ _ => True

variable {store : Store}

theorem admits_of_hasKey (key : store.table.HasKey) {command : Command} (named : Text.allBlank command.id = false) :
    store.Admits command := by
  cases command with
  | put owner document => exact upsert_iff.mpr ⟨named, key⟩
  | delete id owner => trivial

theorem find?_holding {document : Document} (key : store.table.HasKey) (named : Text.allBlank document.id = false)
    (id : String) :
    (store.holding document).table.find? id =
      if id = document.id then some (.ofDocument document) else store.table.find? id := by
  obtain ⟨after, done⟩ := upsert_iff.mpr ⟨named, key⟩
  simp only [holding, done]
  exact find?_upsert done id

@[simp]
theorem hasKey_holding {document : Document} : (store.holding document).table.HasKey ↔ store.table.HasKey := by
  unfold holding
  split
  · rename_i after done
    have key := Table.hasKey_of_put (upsert_eq_ok done).2
    obtain ⟨table, put, still⟩ := key.put (.ofDocument document)
    rw [(upsert_eq_ok done).2] at put
    obtain rfl := Except.ok.inj put
    exact ⟨fun _ => key, fun _ => still⟩
  · exact Iff.rfl

theorem keyed_holding (keyed : store.table.Keyed) (document : Document) : (store.holding document).table.Keyed := by
  unfold holding
  split
  · rename_i after done
    exact keyed_upsert keyed done
  · exact keyed

end Store

/-- The authority at which a resource has grants, which are its owner's unless there were others. -/
def Authority.seeded (topic owner id : String) (a : Authority) : Authority :=
  match a.grants? topic id with
  | some _ => a
  | none => a.setGrants topic id (.forOwner owner)

namespace Authority
variable {a : Authority} {topic owner id : String}

@[simp] theorem topics_seeded : (a.seeded topic owner id).topics = a.topics := by
  unfold seeded
  split <;> rfl

@[simp] theorem grants?_seeded :
    (a.seeded topic owner id).grants? topic id = some ((a.grants? topic id).getD (.forOwner owner)) := by
  unfold seeded
  cases granted : a.grants? topic id with
  | some grants => exact granted
  | none => simp

theorem length_ids_seeded_le : ((a.seeded topic owner id).ids topic).length ≤ (a.ids topic).length + 1 := by
  unfold seeded
  split
  · exact Nat.le_succ _
  · exact length_ids_setGrants_le a topic id _

theorem seeded_of_granted {grants : Grants} (granted : a.grants? topic id = some grants) :
    a.seeded topic owner id = a := by
  simp only [seeded, granted]

end Authority

namespace Depot

/-- Calls on a topic and valid documents cannot fail here. -/
structure Serves (topic : String) (d : Depot) : Prop where
  registered : d.authority.isRegistered topic
  keyed : d.store.table.Keyed

/-- The depot after a command that is applied at the time. -/
def applied (time : Int64) (topic : String) : Command → Depot → Depot
  | .put owner document, d =>
    { d with
      authority := d.authority.seeded topic owner document.id
      store := d.store.holding (document.stampIfUnset time) }
  | .delete id _, d =>
    { d with authority := d.authority.eraseGrants topic id, store := (d.store.delete id).2 }

end Depot

namespace Control
variable {moment : Moment} {topic : String} {d : Depot}

theorem seedGrant_completes (registered : d.authority.isRegistered topic) (owner id : String) :
    (seedGrant topic owner id).Completes moment
      (fun _ e => e = { d with authority := d.authority.seeded topic owner id }) d := by
  apply Program.completes_bind (Q := fun found e => e = d ∧ found = d.grants? topic id)
  · exact Program.completes_authority rfl ⟨rfl, rfl⟩
  rintro found d ⟨rfl, rfl⟩
  unfold Authority.seeded
  cases granted : d.grants? topic id with
  | some grants =>
    rw [show d.authority.grants? topic id = some grants from granted]
    rfl
  | none =>
    rw [show d.authority.grants? topic id = none from granted]
    apply Program.completes_bind
      (Q := fun _ e => e = { d with authority := d.authority.setGrants topic id (.forOwner owner) })
    · exact Program.completes_authority (Authority.respond_setPermission registered _ _) rfl
    · rintro _ _ rfl
      exact ⟨rfl, rfl⟩

theorem store_completes {document : Document} (accepted : ∃ after, d.store.upsert document = .ok after) :
    (Materialize.ask (.upsert document)).Completes moment
      (fun _ e => e = { d with store := d.store.holding document }) d := by
  obtain ⟨after, done⟩ := accepted
  refine Program.completes_store (v := ()) (s := after) ?_ ?_
  · simp only [Store.respond, done]
  · simp only [Store.holding, done]

theorem upsert_completes {document : Document} (accepted : ∃ after, d.store.upsert document = .ok after) :
    ((Materialize.upsert document).mapError ControlError.store).Completes moment
      (fun _ e => e = { d with store := d.store.holding (document.stampIfUnset moment.time) }) d := by
  apply Program.completes_mapError
  unfold Materialize.upsert
  cases stamped : document.isStamped with
  | true =>
    rw [Document.stampIfUnset_of_stamped stamped]
    exact store_completes accepted
  | false =>
    obtain ⟨named, key⟩ := Store.upsert_iff.mp accepted
    exact ⟨rfl, store_completes (Store.upsert_iff.mpr ⟨by simpa using named, key⟩)⟩

/-- What is left of putting a document once its grants were made sure of stores it, and does nothing
    else if the grants are still there. -/
theorem apply_resumes (topic owner : String) (document : Document) :
    ∃ rest, apply topic (.put owner document) = seedGrant topic owner document.id >>= rest ∧
      ∀ (moment : Moment) (d : Depot) (seeded : Bool) (grants : Grants), d.authority.isRegistered topic →
        (∃ after, d.store.upsert document = .ok after) → d.grants? topic document.id = some grants →
        (rest seeded).Completes moment
          (fun _ e => e = { d with store := d.store.holding (document.stampIfUnset moment.time) }) d := by
  refine ⟨_, rfl, fun moment d seeded grants registered admitted granted => ?_⟩
  apply Program.completes_bind (upsert_completes admitted)
  rintro _ held isHeld
  have registeredStill : held.authority.isRegistered topic := by rw [isHeld]; exact registered
  have grantedStill : held.authority.grants? topic document.id = some grants := by rw [isHeld]; exact granted
  apply Program.completes_bind (seedGrant_completes registeredStill owner document.id)
  rintro again _ rfl
  rw [Authority.seeded_of_granted grantedStill]
  cases again with
  | false => exact isHeld
  | true => exact ⟨rfl, isHeld⟩

/-- The grants are made sure of first. What is left stores the document, and does nothing else if they are still
there. -/
theorem apply_leads_seeded (registered : d.authority.isRegistered topic) (owner : String) (document : Document) :
    ∃ rest e, Program.Leads moment (apply topic (.put owner document)) d rest e ∧
      e.store = d.store ∧ e.authority.topics = d.authority.topics ∧
      (e.authority.ids topic).length ≤ (d.authority.ids topic).length + 1 ∧
      e.grants? topic document.id = some ((d.grants? topic document.id).getD (.forOwner owner)) ∧
      ∀ (f : Depot) (grants : Grants), f.authority.isRegistered topic →
        (∃ after, f.store.upsert document = .ok after) → f.grants? topic document.id = some grants →
        rest.Completes moment
          (fun _ g => g = { f with store := f.store.holding (document.stampIfUnset moment.time) }) f := by
  obtain ⟨rest, isRest, resumes⟩ := apply_resumes topic owner document
  have seeding : (seedGrant topic owner document.id).Completes moment _ d :=
    seedGrant_completes registered owner document.id
  obtain ⟨seeded, e, leads, isSeeded⟩ := Program.leads_of_completes seeding
  refine ⟨rest seeded, e, isRest ▸ Program.leads_bind leads rest, ?_, ?_, ?_, ?_, fun f => resumes moment f seeded⟩
  all_goals rw [isSeeded]
  · exact Authority.topics_seeded
  · exact Authority.length_ids_seeded_le
  · exact Authority.grants?_seeded

/-- Where no grants are found, what is left gives the owner's, even if there are others by then. -/
theorem apply_leads_bare (owner : String) {document : Document} (ungranted : d.grants? topic document.id = none) :
    ∃ rest, Program.Leads moment (apply topic (.put owner document)) d rest d ∧
      ∀ e : Depot, e.authority.isRegistered topic → (∃ after, e.store.upsert document = .ok after) →
        rest.Completes moment
          (fun _ f => f = { e with
            authority := e.authority.setGrants topic document.id (.forOwner owner)
            store := e.store.holding (document.stampIfUnset moment.time) }) e := by
  obtain ⟨rest, isRest, resumes⟩ := apply_resumes topic owner document
  have reaches : (seedGrant topic owner document.id).Reaches moment
      (fun p e => e = d ∧ ∀ f : Depot, f.authority.isRegistered topic →
        p.Completes moment
          (fun _ g => g = { f with authority := f.authority.setGrants topic document.id (.forOwner owner) }) f) d := by
    apply Program.reaches_after (Q := fun found e => e = d ∧ found = none)
    · exact Program.completes_authority rfl ⟨rfl, ungranted⟩
    rintro _ d ⟨rfl, rfl⟩
    refine ⟨_, d, .still, rfl, fun f registered => ?_⟩
    apply Program.completes_bind
      (Q := fun _ g => g = { f with authority := f.authority.setGrants topic document.id (.forOwner owner) })
    · exact Program.completes_authority (Authority.respond_setPermission registered _ _) rfl
    · rintro _ _ rfl
      exact ⟨rfl, rfl⟩
  obtain ⟨p, d, leads, rfl, gives⟩ := reaches
  refine ⟨p.bind rest, isRest ▸ Program.leads_bind leads rest, fun e registered admitted => ?_⟩
  apply Program.completes_bind (gives e registered)
  rintro seeded _ rfl
  have granted : (e.authority.setGrants topic document.id (.forOwner owner)).grants? topic document.id =
      some (.forOwner owner) := (Authority.grants?_setGrants _ _ _ _ _ _).trans (if_pos ⟨rfl, rfl⟩)
  exact resumes moment { e with authority := e.authority.setGrants topic document.id (.forOwner owner) } seeded _
    registered admitted granted

/-- Where calls cannot fail, applying a command has exactly its effect. -/
theorem apply_completes (registered : d.authority.isRegistered topic) {command : Command}
    (admitted : d.store.Admits command) :
    (apply topic command).Completes moment (fun _ e => e = d.applied moment.time topic command) d := by
  cases command with
  | put owner document =>
    obtain ⟨rest, isRest, resumes⟩ := apply_resumes topic owner document
    rw [isRest]
    apply Program.completes_bind (seedGrant_completes registered owner document.id)
    rintro seeded e isSeeded
    have registeredStill : e.authority.isRegistered topic := by
      simpa [isSeeded, Authority.isRegistered] using registered
    have admittedStill : ∃ after, e.store.upsert document = .ok after := by
      rw [isSeeded]
      exact admitted
    have granted : e.grants? topic document.id = some ((d.grants? topic document.id).getD (.forOwner owner)) := by
      rw [isSeeded]
      exact Authority.grants?_seeded
    refine Program.completes_mono (resumes moment e seeded _ registeredStill admittedStill granted) ?_
    rintro _ f rfl
    rw [isSeeded]
    rfl
  | delete id owner =>
    apply Program.completes_bind (Q := fun _ e => e = { d with authority := d.authority.eraseGrants topic id })
    · exact Program.completes_authority rfl rfl
    rintro _ _ rfl
    apply Program.completes_mapError
    apply Program.completes_bind (Q := fun _ e => e = d.applied moment.time topic (.delete id owner))
    · exact Program.completes_store rfl rfl
    · exact fun _ _ same => same

end Control
end ModelDepot
