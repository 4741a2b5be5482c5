import ModelDepot.Control
import ModelDepot.Proofs.Backlog
import ModelDepot.Proofs.Mishaps
import ModelDepot.Proofs.Permits

/-!
What requests do to a depot, whatever mishaps there are. They look only at documents that the caller is
cleared for (`Call.Discreet`); one that fails leaves everything as it was, and one that succeeds has
published at most one command (`Depot.Publishes`).
-/
namespace ModelDepot

/-- The call asks the store only for documents that the caller is cleared for. -/
def Call.Discreet (a : Authority) (caller : Caller) (topic : String) (permission : Permission) : Call → Prop
  | .store (.get id) => a.Clears caller topic id permission
  | .store (.list options) =>
    caller.isAdmin ∨ ∃ ids, options.ids = some ids ∧ ∀ id ∈ ids, a.permits caller topic id permission
  | .store _ => False
  | _ => True

namespace Depot

/-- A caller who is let through is cleared, and it is not known yet whether there is a document. -/
def Checks (d : Depot) (caller : Caller) (topic id : String) (permission : Permission) :
    Except ControlError Bool → Depot → Prop
  | .ok allowed, e => e = d ∧ (allowed = true → d.authority.Clears caller topic id permission)
  | .error problem, e => e = d ∧ ∀ other, problem ≠ .notFound other

/-- A document was read, or none was found, or the caller was turned away. -/
def Reads (d : Depot) (caller : Caller) (topic id : String) (permission : Permission) :
    Except ControlError Document → Depot → Prop
  | .ok document, e =>
    e = d ∧ d.authority.Clears caller topic id permission ∧ d.store.get id = .ok (some document)
  | .error problem, e =>
    e = d ∧ ∀ other, problem = .notFound other →
      d.authority.Clears caller topic id permission ∧ d.store.get id = .ok none

/-- The command was published, and everything else left as it was. -/
def Publishes (channel : Channel) (command : Command) (d e : Depot) : Prop :=
  Text.allBlank command.id = false ∧ ∃ place after,
    d.log.append channel.topic command.entry.key command.entry.value = .ok (place, after) ∧
      e = { d with log := after }

end Depot

namespace Control
variable {moment : Moment} {d : Depot} {channel : Channel} {caller : Caller} {topic id : String}
  {permission : Permission}

/-! ### Looking at documents -/

theorem check_ensures :
    (check topic caller id permission).Ensures moment (Call.Discreet d.authority caller topic permission)
      (d.Checks caller topic id permission) d := by
  unfold check
  split
  · rename_i isAdmin
    exact ⟨rfl, fun _ => .inl isAdmin⟩
  · refine Program.ensures_authority trivial rfl (fun allowed after answered => ?_) fun _ => ⟨rfl, nofun⟩
    obtain ⟨sameAnswer, rfl⟩ := Prod.mk.inj answered
    exact ⟨rfl, fun isAllowed => Authority.clears_of_permits ((Except.ok.inj sameAnswer).trans isAllowed)⟩

theorem read_ensures :
    (read topic caller id permission).Ensures moment (Call.Discreet d.authority caller topic permission)
      (d.Reads caller topic id permission) d := by
  apply Program.ensures_bind check_ensures
  · rintro allowed d ⟨rfl, clears⟩
    cases allowed with
    | false => exact ⟨rfl, nofun⟩
    | true =>
      apply Program.ensures_bind (Q := fun result e => e = d ∧ match result with
        | .ok found => d.store.get id = .ok found
        | .error problem => ∀ other, problem ≠ .notFound other)
      · refine Program.ensures_store (clears rfl) (fun found after answered => ?_) fun _ => ⟨rfl, nofun⟩
        obtain ⟨sameAnswer, rfl⟩ := Prod.mk.inj answered
        exact ⟨rfl, sameAnswer⟩
      · rintro (_ | document) d ⟨rfl, got⟩
        · exact ⟨rfl, fun _ _ => ⟨clears rfl, got⟩⟩
        · exact ⟨rfl, clears rfl, got⟩
      · rintro problem d ⟨rfl, other⟩
        exact ⟨rfl, fun _ same => absurd same (other _)⟩
  · rintro problem d ⟨rfl, other⟩
    exact ⟨rfl, fun _ same => absurd same (other _)⟩

theorem visibleIds_ensures (ids : Option (List String)) :
    (visibleIds topic caller ids permission).Ensures moment (Call.Discreet d.authority caller topic permission)
      (d.Concludes fun visible e => e = d ∧
        (caller.isAdmin ∨ ∃ ids, visible = some ids ∧ ∀ id ∈ ids, d.authority.permits caller topic id permission))
      d := by
  unfold visibleIds
  split
  · split
    · rename_i isAdmin
      exact ⟨rfl, .inl isAdmin⟩
    · apply Program.ensures_step
        (Q := fun found e => e = d ∧ ∀ id ∈ found, d.authority.permits caller topic id permission)
      · refine Program.ensures_authority trivial rfl (fun found after answered => ?_) fun _ => rfl
        obtain ⟨sameAnswer, rfl⟩ := Prod.mk.inj answered
        obtain rfl := Except.ok.inj sameAnswer
        exact ⟨rfl, fun id member => Authority.mem_accessibleIds.mp (Page.mem_of_cut member)⟩
      · rintro found d ⟨rfl, permitted⟩
        exact ⟨rfl, .inr ⟨found, rfl, permitted⟩⟩
  · rename_i ids
    apply Program.ensures_step
      (Q := fun answers e => e = d ∧ answers = d.authority.answersFor caller topic ids permission)
    · refine Program.ensures_authority trivial rfl (fun answers after answered => ?_) fun _ => rfl
      obtain ⟨sameAnswer, rfl⟩ := Prod.mk.inj answered
      exact ⟨rfl, (Except.ok.inj sameAnswer).symm⟩
    · rintro _ d ⟨rfl, rfl⟩
      exact ⟨rfl, .inr ⟨_, rfl, fun id member => (Authority.mem_allowed_answersFor.mp member).2⟩⟩

theorem list_ensures (options : ListOptions) :
    (list topic caller options permission).Ensures moment (Call.Discreet d.authority caller topic permission)
      (d.Concludes fun _ e => e = d) d := by
  apply Program.ensures_step (visibleIds_ensures options.ids)
  rintro visible d ⟨rfl, discreet⟩
  refine Program.ensures_store ?_ (fun page after answered => ?_) fun _ => rfl
  · exact discreet
  · obtain ⟨-, rfl⟩ := Prod.mk.inj answered
    rfl

/-! ### Publishing -/

theorem validated_ensures {fit : Call → Prop} (document : Document) :
    (validated document).Ensures moment fit (d.Concludes fun _ e => e = d) d := by
  unfold validated
  cases document.validateForPublish <;> rfl

theorem append_ensures (a : Authority) {command : Command} (named : Text.allBlank command.id = false)
    {f : LogError → LogError} :
    (do
      let position ← Program.attempt (Program.append f channel.topic (logKey command.id) command.entry.value)
      match position with
      | .ok position => return position
      | .error problem =>
        Program.report (channel.failureEvent command problem)
        Program.fail (.log problem) : Program PublishError (Nat × Nat)).Ensures moment
      (Call.Discreet a caller topic permission) (d.Concludes fun _ e => d.Publishes channel command e) d := by
  apply Program.ensures_step (Q := fun position e => match position with
    | .ok _ => d.Publishes channel command e
    | .error _ => e = d)
  · apply Program.ensures_attempt
    exact Program.ensures_append trivial (fun place after appended => ⟨named, place, after, appended, rfl⟩)
      fun _ => rfl
  · rintro (problem | place) e ended
    · obtain rfl : e = d := ended
      apply Program.ensures_step (Q := fun _ f => f = e)
      · exact Program.ensures_report trivial rfl
      · exact fun _ _ same => same
    · exact ended

theorem publish_ensures (a : Authority) (command : Command) :
    (publish channel command).Ensures moment (Call.Discreet a caller topic permission)
      (d.Concludes fun _ e => d.Publishes channel command e) d := by
  apply Program.ensures_step (Q := fun _ e => d.Publishes channel command e)
  · apply Program.concludes_mapError
    unfold Channel.publish
    cases named : Text.allBlank command.id with
    | true => rfl
    | false =>
      rw [if_neg Bool.false_ne_true, Command.encode_entry named]
      apply Program.ensures_step (Q := fun value e => value = command.entry.value ∧ e = d)
      · exact ⟨rfl, rfl⟩
      rintro _ d ⟨rfl, rfl⟩
      dsimp only
      split
      · apply Program.ensures_step (Q := fun _ e => e = d)
        · exact Program.ensures_report trivial rfl
        rintro _ d rfl
        exact append_ensures a named
      · exact append_ensures a named
  · exact fun _ _ published => published

/-! ### Requests that publish -/

/-- A new document is published. -/
theorem create_ensures (document : Document) :
    (create channel caller document).Ensures moment (Call.Discreet d.authority caller channel.topic .write)
      (d.Concludes fun made e => d.Publishes channel (.put caller.user made) e ∧
        made = { document with id := moment.freshId, owner := caller.user, lastUpdated := moment.time }) d := by
  apply Program.ensures_step (Q := fun id e => e = d ∧ id = moment.freshId)
  · exact Program.ensures_freshId trivial ⟨rfl, rfl⟩
  rintro _ d ⟨rfl, rfl⟩
  apply Program.ensures_step (validated_ensures _)
  rintro _ d rfl
  apply Program.ensures_step (Q := fun time e => e = d ∧ time = moment.time)
  · exact Program.ensures_now trivial ⟨rfl, rfl⟩
  rintro _ d ⟨rfl, rfl⟩
  apply Program.ensures_step (publish_ensures d.authority _)
  intro _ e published
  apply Program.ensures_bind (Q := fun result f => result = .ok () ∧ f = e)
  · exact Program.ensures_report trivial ⟨rfl, rfl⟩
  · rintro _ e ⟨-, rfl⟩
    exact ⟨published, rfl⟩
  · rintro _ _ ⟨impossible, -⟩
    cases impossible

/-- The owner of the stored document if it has one, or else the caller. -/
def keptOwner (caller : Caller) : Option Document → String
  | some stored => if stored.owner = "" then caller.user else stored.owner
  | none => caller.user

theorem storedOwner_ensures :
    (storedOwner topic caller id).Ensures moment (Call.Discreet d.authority caller topic .write)
      (d.Concludes fun owner e => e = d ∧ d.authority.Clears caller topic id .write ∧
        ∃ found, d.store.get id = .ok found ∧ (if owner = "" then caller.user else owner) = keptOwner caller found)
      d := by
  apply Program.ensures_step (Q := fun result e => d.Reads caller topic id .write result e)
  · exact Program.ensures_attempt read_ensures
  rintro (problem | document) e reads
  · obtain ⟨rfl, missing⟩ := reads
    cases problem with
    | notFound other =>
      obtain ⟨clears, got⟩ := missing other rfl
      exact ⟨rfl, clears, none, got, rfl⟩
    | _ => rfl
  · obtain ⟨rfl, clears, got⟩ := reads
    exact ⟨rfl, clears, some document, got, rfl⟩

/-- The new content is published under the owner that is kept. -/
theorem update_ensures (document : Document) :
    (update channel caller id document).Ensures moment (Call.Discreet d.authority caller channel.topic .write)
      (d.Concludes fun made e => d.Publishes channel (.put caller.user made) e ∧ document.id = id ∧
        d.authority.Clears caller channel.topic id .write ∧ ∃ found, d.store.get id = .ok found ∧
          made = { document with owner := keptOwner caller found, lastUpdated := moment.time }) d := by
  unfold update
  split
  · rfl
  rename_i own
  apply Program.ensures_step storedOwner_ensures
  rintro owner d ⟨rfl, clears, found, got, kept⟩
  dsimp only
  rw [kept]
  apply Program.ensures_step (validated_ensures _)
  rintro _ d rfl
  apply Program.ensures_step (Q := fun time e => e = d ∧ time = moment.time)
  · exact Program.ensures_now trivial ⟨rfl, rfl⟩
  rintro _ d ⟨rfl, rfl⟩
  apply Program.ensures_step (publish_ensures d.authority _)
  intro _ e published
  exact ⟨published, not_not.mp own, clears, found, got, rfl⟩

/-- The stored document is published in another state of publication. -/
theorem changePublication_ensures (change : PublishChange) :
    (changePublication channel caller id change).Ensures moment
      (Call.Discreet d.authority caller channel.topic .write)
      (d.Concludes fun made e => d.Publishes channel (.put caller.user made) e ∧
        d.authority.Clears caller channel.topic id .write ∧
        ∃ stored, d.store.get id = .ok (some stored) ∧ made = changed stored change moment.time) d := by
  apply Program.ensures_bind read_ensures
  · rintro stored d ⟨rfl, clears, got⟩
    apply Program.ensures_step (Q := fun time e => e = d ∧ time = moment.time)
    · exact Program.ensures_now trivial ⟨rfl, rfl⟩
    rintro _ d ⟨rfl, rfl⟩
    apply Program.ensures_step (publish_ensures d.authority _)
    intro _ e published
    exact ⟨published, clears, stored, got, rfl⟩
  · rintro _ _ ⟨rfl, -⟩
    rfl

theorem delete_ensures :
    (delete channel caller id).Ensures moment (Call.Discreet d.authority caller channel.topic .administrate)
      (d.Concludes fun _ e => d.Publishes channel (.delete id caller.user) e ∧
        d.authority.Clears caller channel.topic id .administrate) d := by
  apply Program.ensures_bind check_ensures
  · rintro allowed d ⟨rfl, clears⟩
    cases allowed with
    | false => rfl
    | true =>
      refine Program.ensures_mono (publish_ensures d.authority _) (fun _ fits => fits) ?_
      rintro (problem | _) e ended
      · exact ended
      · exact ⟨ended, clears rfl⟩
  · rintro _ _ ⟨rfl, -⟩
    rfl

/-! ### A depot to look at -/

def ann : Caller := { user := "ann" }

def board : Channel := { topic := "t" }

/-- A stored document of one who may change it. -/
def shelved : Depot where
  store := ⟨{ Table.empty with rows := .keyed ((∅ : Dict Row).insert "mine" { id := "mine", name := "Mine" }) }⟩
  authority := (({} : Authority).register (.ofTopic "t")).setGrants "t" "mine" (.forOwner "ann")
  log := .new 1

theorem shelved_permits {id : String} {permission : Permission}
    (permitted : shelved.authority.permits ann board.topic id permission) : id = "mine" := by
  obtain ⟨grants, granted, -⟩ := Authority.permits_iff.mp permitted
  rw [shelved, Authority.grants?_setGrants] at granted
  split at granted
  · rename_i here
    exact here.2
  · simp [Authority.grants?, Authority.grantsOf, Authority.register] at granted

end Control
end ModelDepot
