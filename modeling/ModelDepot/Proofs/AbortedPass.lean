import ModelDepot.Proofs.DriftRepair
import ModelDepot.Proofs.Mishaps
import ModelDepot.Proofs.Upkeep

/-!
A document is put while a cleanup pass runs that may be aborted by any of its calls. A pass that has
removed a grant looks for the document afterwards and puts the grant back, unless just these calls
fail: then the document stays stored without grants. Main statement: this happens to documents that
were not stored before, and to no other ones (`put_granted_iff`).
-/
namespace ModelDepot

namespace Call

theorem not_succeeded_of_refusal {outage : Outage} {call : Call} {answer : call.Answer}
    (refused : call.refusal outage = some answer) : ¬ call.succeeded answer := by
  cases call with
  | authority call => cases refused; exact Bool.false_ne_true
  | store call => cases refused; exact Bool.false_ne_true
  | append topic key value => cases refused; exact Bool.false_ne_true
  | now => cases refused
  | freshId => cases refused
  | report event => cases refused

/-- There is an answer with which the call did what it was asked for. -/
theorem exists_succeeded (call : Call) : ∃ answer, call.succeeded answer := by
  cases call with
  | authority call => cases call <;> exact ⟨.ok default, rfl⟩
  | store call =>
    cases call with
    | list options => exact ⟨.ok ⟨[], 0⟩, rfl⟩
    | _ => exact ⟨.ok default, rfl⟩
  | append topic key value => exact ⟨.ok (0, 0), rfl⟩
  | now => exact ⟨0, rfl⟩
  | freshId => exact ⟨"", rfl⟩
  | report event => exact ⟨(), rfl⟩

end Call

/-- A command that is applied beside a pass, which may have been aborted by a call. -/
structure AbortedPass where
  depot : Depot
  applying : Program ControlError ApplyOutcome
  passing : Program CleanupError CleanupReport
  refused : Option Call := none

namespace AbortedPass
open Upkeep (owedAt Orderly Owes)

inductive Move where
  /-- The next call of the consumer succeeds. -/
  | consumer (moment : Moment)
  /-- The next call of the pass succeeds. -/
  | pass (moment : Moment)
  /-- The next call of the pass fails, and changes nothing. -/
  | refuse (outage : Outage)

def act : Move → AbortedPass → Option AbortedPass
  | .consumer moment, s =>
    (s.applying.advance moment s.depot).map fun (rest, depot) => { s with depot := depot, applying := rest }
  | .pass moment, s =>
    (s.passing.advance moment s.depot).map fun (rest, depot) => { s with depot := depot, passing := rest }
  | .refuse outage, s =>
    match s.passing with
    | .done _ => none
    | .ask call next =>
      (call.refusal outage).map fun answer => { s with passing := next answer, refused := some call }

/-- Both sides have ended. -/
def finished (s : AbortedPass) : Bool := s.applying.ended && s.passing.ended

def start (c : Cleanup) (owner : String) (document : Document) (d : Depot) : AbortedPass where
  depot := d
  applying := Control.apply c.topic (.put owner document)
  passing := c.pass

/-! ### What a pass knows of the document -/

variable {c : Cleanup} {owner : String} {document : Document} {moment : Moment}

/-- The pass has listed the document, or will list it; it removes the grants of other ids only. -/
def Seen (id : String) (d : Depot) : PassPoint → Prop
  | .listing _ => (d.row? id).isSome
  | .revoking listed => id ∈ listed.documents
  | .found listed other _ => id ∈ listed.documents ∧ id ≠ other
  | .absent listed other _ => id ∈ listed.documents ∧ id ≠ other
  | .revoked listed other _ => id ∈ listed.documents ∧ id ≠ other
  | .arrived listed other _ => id ∈ listed.documents ∧ id ≠ other
  | .dating _ _ => True
  | .deleting _ _ => True
  | .ungranted _ _ _ => True

theorem Seen.not_owed {id : String} {d : Depot} {point : PassPoint} (seen : Seen id d point) :
    owedAt point ≠ some id := by
  intro owed
  cases point with
  | revoked listed other grants => exact seen.2 (Option.some.inj owed).symm
  | arrived listed other grants => exact seen.2 (Option.some.inj owed).symm
  | _ => cases owed

theorem Seen.mono {id : String} {d after : Depot} {point : PassPoint} (seen : Seen id d point)
    (stored : (d.row? id).isSome → (after.row? id).isSome) : Seen id after point := by
  cases point with
  | listing granted => exact stored seen
  | _ => exact seen

section
variable {call : Call} {answer : call.Answer} {d after : Depot} {id : String}

theorem seen_step {point next : PassPoint} (keyed : d.store.table.Keyed) (rule : PassRules c point call answer next)
    (calls : d.Calls moment call answer after) (seen : Seen id d point) : Seen id after next := by
  cases rule with
  | report => exact seen.mono fun stored => (calls.row? id).symm ▸ stored
  | page => exact show (after.row? id).isSome from (calls.row? id).symm ▸ seen
  | @listed granted documents =>
    have all : d.store.allIds = documents := Except.ok.inj (congrArg Prod.fst calls.answered)
    exact all ▸ (Store.mem_allIds keyed).mpr seen
  | vanished => exact seen
  | found granted unlisted => exact ⟨seen, fun same => unlisted (same ▸ seen)⟩
  | kept => exact seen.1
  | absent => exact seen
  | revoked => exact seen
  | settled => exact seen.1
  | arrived => exact seen
  | restored => exact seen.1
  | clock => trivial
  | dated => trivial
  | spared => trivial
  | ungranted => trivial
  | deleted => trivial

/-- Putting a document removes none. -/
theorem stored_step {point next : ApplyPoint}
    (rule : ApplyRules c.topic (.put owner document) point call answer next)
    (calls : d.Calls moment call answer after) (stored : (d.row? id).isSome) : (after.row? id).isSome := by
  rw [calls.row?]
  cases rule with
  | stored =>
    simp only [Call.rowAfter]
    split
    · rfl
    · exact stored
  | storedNow =>
    simp only [Call.rowAfter]
    split
    · rfl
    · exact stored
  | _ => exact stored

end

/-! ### What is owed when a pass is aborted -/

/-- The calls with which a pass makes good for a grant that it removed. -/
def Restoring (topic id : String) (call : Call) : Prop :=
  call = .store (.get id) ∨ ∃ grants, call = .authority (.setPermission topic id grants)

/-- A pass that owes a grant and is refused a call is refused one of these. -/
theorem restoring_of_owes {topic id : String} {call : Call}
    {next : call.Answer → Program CleanupError CleanupReport} {outage : Outage} {answer : call.Answer}
    (owes : Owes topic id (.ask call next)) (refused : call.refusal outage = some answer) :
    Restoring topic id call := by
  obtain ⟨c, point, orderly, rfl, owed⟩ := owes
  obtain ⟨fine, succeeded⟩ := call.exists_succeeded
  obtain ⟨after, rule, _⟩ := orderly.1 fine succeeded
  cases rule with
  | report => cases refused
  | settled => exact .inl (congrArg (fun id => Call.store (.get id)) (Option.some.inj owed))
  | arrived => exact .inl (congrArg (fun id => Call.store (.get id)) (Option.some.inj owed))
  | restored => exact .inr ⟨_, congrArg (fun id => Call.authority (.setPermission _ id _)) (Option.some.inj owed)⟩
  | _ => cases owed

/-- If the document is stored, it has grants. Otherwise it was not known before, and the pass owes
    the grants, or was refused to make good for them. -/
def Vouched (topic id : String) (known : Prop) (s : AbortedPass) : Prop :=
  (s.depot.row? id).isSome →
    (s.depot.grants? topic id).isSome ∨
      ¬ known ∧ (Owes topic id s.passing ∨ ∃ call, s.refused = some call ∧ Restoring topic id call)

structure Kept (c : Cleanup) (owner : String) (document : Document) (known : Prop) (s : AbortedPass) : Prop where
  keyed : s.depot.store.table.Keyed
  /-- The pass runs, or was aborted. -/
  passing :
    s.refused = none ∧ (∃ point, Orderly c s.passing point ∧ (known → Seen document.id s.depot point)) ∨
      ∃ problem, s.passing = .done (.error problem)
  applying :
    ∃ point, s.applying.Follows (ApplyRules c.topic (.put owner document))
        (fun _ => ApplyPoint.Finished (.put owner document)) point ∧
      ∀ stored, point = .secured stored → s.Vouched c.topic document.id known

variable {known : Prop} {s t : AbortedPass}

theorem kept_consumer {rest : Program ControlError ApplyOutcome} {after : Depot}
    (kept : s.Kept c owner document known) (moved : s.applying.advance moment s.depot = some (rest, after)) :
    Kept c owner document known { s with depot := after, applying := rest } := by
  obtain ⟨point, follows, secured⟩ := kept.applying
  obtain ⟨call, answer, next, rule, onward, calls⟩ := Program.follows_advance follows moved
  refine ⟨calls.keyed kept.keyed, ?_, next, onward, fun stored isSecured isStored => ?_⟩
  · refine kept.passing.imp_left fun ⟨running, point, orderly, seen⟩ => ⟨running, point, orderly, ?_⟩
    exact fun isKnown => (seen isKnown).mono (stored_step rule calls)
  rcases Upkeep.secured_step rule calls isSecured with ⟨before, harmless⟩ | granted
  · have sameRow : after.row? document.id = s.depot.row? document.id := by
      rw [calls.row?, Call.rowAfter_harmless harmless]
    have sameGrants : after.grants? c.topic document.id = s.depot.grants? c.topic document.id := by
      rw [calls.grants?, Call.grantsAfter_harmless harmless]
    rcases secured stored before (sameRow ▸ isStored) with granted | owed
    · exact .inl (sameGrants ▸ granted)
    · exact .inr owed
  · exact .inl granted

theorem kept_pass {rest : Program CleanupError CleanupReport} {after : Depot}
    (kept : s.Kept c owner document known) (moved : s.passing.advance moment s.depot = some (rest, after)) :
    Kept c owner document known { s with depot := after, passing := rest } := by
  rcases kept.passing with ⟨running, point, orderly, seen⟩ | ⟨problem, aborted⟩
  · obtain ⟨call, answer, next, rule, onward, calls⟩ := Program.follows_advance orderly moved
    have seenNext : known → Seen document.id after next :=
      fun isKnown => seen_step kept.keyed rule calls (seen isKnown)
    obtain ⟨stage, follows, secured⟩ := kept.applying
    refine ⟨calls.keyed kept.keyed, .inl ⟨running, next, onward, seenNext⟩, stage, follows, ?_⟩
    intro stored isSecured isStored
    have storedBefore : (s.depot.row? document.id).isSome := by
      rcases Upkeep.row_step rule calls document.id with same | gone
      · exact same ▸ isStored
      · rw [show Depot.row? _ document.id = none from gone] at isStored
        cases isStored
    rcases secured stored isSecured storedBefore with granted | ⟨unknown, owes | refused⟩
    · rcases Upkeep.granted_step rule calls granted with granted | ⟨_, owed⟩
      · exact .inl granted
      · exact .inr ⟨fun isKnown => (seenNext isKnown).not_owed owed, .inl ⟨c, next, onward, rfl, owed⟩⟩
    · obtain ⟨c', point', orderly', sameTopic, owed⟩ := owes
      obtain ⟨call', answer', next', rule', onward', calls'⟩ := Program.follows_advance orderly' moved
      rcases Upkeep.owed_step rule' calls' owed with owed | absent | granted
      · exact .inr ⟨unknown, .inl ⟨c', next', onward', sameTopic, owed⟩⟩
      · rw [absent] at storedBefore
        cases storedBefore
      · exact .inl (sameTopic ▸ granted)
    · exact .inr ⟨unknown, .inr refused⟩
  · rw [aborted] at moved
    cases moved

theorem kept_refuse {call : Call} {next : call.Answer → Program CleanupError CleanupReport} {outage : Outage}
    {answer : call.Answer} (kept : s.Kept c owner document known) (passing : s.passing = .ask call next)
    (refused : call.refusal outage = some answer) :
    Kept c owner document known { s with passing := next answer, refused := some call } := by
  rcases kept.passing with ⟨running, point, orderly, _⟩ | ⟨problem, aborted⟩
  · rw [passing] at orderly
    obtain ⟨stage, follows, secured⟩ := kept.applying
    refine ⟨kept.keyed, .inr (orderly.2 answer (Call.not_succeeded_of_refusal refused)), stage, follows, ?_⟩
    intro stored isSecured isStored
    rcases secured stored isSecured isStored with granted | ⟨unknown, owes | ⟨_, already, _⟩⟩
    · exact .inl granted
    · exact .inr ⟨unknown, .inr ⟨call, rfl, restoring_of_owes (passing ▸ owes) refused⟩⟩
    · rw [running] at already
      cases already
  · rw [passing] at aborted
    cases aborted

theorem kept_act {move : Move} (kept : s.Kept c owner document known) (moved : act move s = some t) :
    t.Kept c owner document known := by
  cases move with
  | consumer moment =>
    obtain ⟨⟨rest, after⟩, advanced, rfl⟩ := Option.map_eq_some_iff.mp moved
    exact kept_consumer kept advanced
  | pass moment =>
    obtain ⟨⟨rest, after⟩, advanced, rfl⟩ := Option.map_eq_some_iff.mp moved
    exact kept_pass kept advanced
  | refuse outage =>
    simp only [act] at moved
    split at moved
    · cases moved
    · rename_i call next passing
      obtain ⟨answer, refused, rfl⟩ := Option.map_eq_some_iff.mp moved
      exact kept_refuse kept passing refused

/-- A document is stored without grants only if it was not stored at first, and the pass was refused
    to make good for its grants. -/
theorem granted_or_refused {d : Depot} {moves : List Move} (keyed : d.store.table.Keyed)
    (played : play act moves (start c owner document d) = some s) (finished : s.finished)
    (stored : (s.depot.row? document.id).isSome) :
    (s.depot.grants? c.topic document.id).isSome ∨
      d.row? document.id = none ∧ ∃ call, s.refused = some call ∧ Restoring c.topic document.id call := by
  have begun : Kept c owner document (d.row? document.id).isSome (start c owner document d) := by
    refine ⟨keyed, .inl ⟨rfl, .listing ∅, c.pass_follows, fun isKnown => isKnown⟩, ?_⟩
    exact ⟨.begun, Control.apply_follows c.topic (.put owner document), fun _ isSecured => by cases isSecured⟩
  have kept := play_keeps (fun _ _ _ => kept_act) begun played
  obtain ⟨applied, passed⟩ := Bool.and_eq_true_iff.mp finished
  obtain ⟨result, isApplied⟩ := Program.ended_iff.mp applied
  obtain ⟨outcome, isPassed⟩ := Program.ended_iff.mp passed
  obtain ⟨point, follows, secured⟩ := kept.applying
  rw [isApplied] at follows
  have vouched : s.Vouched c.topic document.id (d.row? document.id).isSome := by
    cases result with
    | error problem => exact follows.elim
    | ok value =>
      cases point with
      | secured held => exact secured held rfl
      | _ => exact follows.elim
  rcases vouched stored with granted | ⟨unknown, owes | refused⟩
  · exact .inl granted
  · obtain ⟨c', point', orderly, _, owed⟩ := owes
    rw [isPassed] at orderly
    cases outcome with
    | error problem => exact orderly.elim
    | ok report =>
      cases point' with
      | deleting listed stale => cases owed
      | _ => exact orderly.elim
  · exact .inr ⟨Option.not_isSome_iff_eq_none.mp unknown, refused⟩

/-! ### A run that leaves a document without grants -/

section
variable {ε α β : Type} {topic id : String} {d : Depot}

/-- The next call removes the grants of an id, and then the document is looked for. -/
def AboutToRevoke (topic id : String) (p : Program ε α) : Prop :=
  ∃ next look, p = .ask (.authority (.removeResource topic id)) next ∧
    next (.ok ()) = .ask (.store (.get id)) look ∧
    ∀ problem, ∃ failed, look (.error problem) = .done (.error failed)

theorem aboutToRevoke_bind {p : Program ε α} (about : AboutToRevoke topic id p) (f : α → Program ε β) :
    AboutToRevoke topic id (p >>= f) := by
  obtain ⟨next, look, rfl, looks, fails⟩ := about
  refine ⟨fun answer => (next answer).bind f, fun answer => (look answer).bind f, rfl, ?_, fun problem => ?_⟩
  · simp only [looks, Program.bind]
  · obtain ⟨failed, ended⟩ := fails problem
    exact ⟨failed, by simp only [ended, Program.bind]⟩

/-- The goal of a run that goes wrong: the grants of an id without a document are about to be removed. -/
def AtTheBrink (topic id : String) (d : Depot) (p : Program ε α) (e : Depot) : Prop :=
  AboutToRevoke topic id p ∧ e.store = d.store ∧ e.authority.topics = d.authority.topics ∧
    (e.grants? topic id).isSome

theorem removeGrant_brink (granted : (d.grants? topic id).isSome) (absent : d.row? id = none) :
    (Cleanup.removeGrant topic id).Reaches moment (AtTheBrink topic id d) d := by
  obtain ⟨grants, isGranted⟩ := Option.isSome_iff_exists.mp granted
  apply Program.reaches_after (Q := fun found e => e = d ∧ found = some grants)
  · exact Program.completes_authority rfl ⟨rfl, isGranted⟩
  rintro _ d ⟨rfl, rfl⟩
  apply Program.reaches_after (Cleanup.stored_completes absent)
  rintro _ d ⟨rfl, rfl⟩
  exact ⟨_, d, .still, ⟨_, _, rfl, rfl, fun _ => ⟨_, rfl⟩⟩, rfl, rfl, granted⟩

/-- A pass that runs alone is about to remove the grants of an id without a document at some time. -/
theorem pass_brink (registered : d.authority.isRegistered c.topic) (keyed : d.store.table.Keyed)
    (countable : (d.authority.ids c.topic).length < UInt64.size) (granted : (d.grants? c.topic id).isSome)
    (absent : d.row? id = none) : c.pass.Reaches moment (AtTheBrink c.topic id d) d := by
  have faces : c.pass.Reaches moment _ d := Cleanup.pass_faces registered keyed.distinct countable granted absent
  obtain ⟨_, e, leads, ⟨more, soFar, rest, rfl, _⟩, sameStore, sameTopics, sameGrants⟩ := faces
  have absentStill : e.row? id = none := (congrArg (·.table.find? id) sameStore).trans absent
  have brink : (Cleanup.removeGrant c.topic id).Reaches moment _ e :=
    removeGrant_brink (sameGrants ▸ granted) absentStill
  obtain ⟨q, f, onward, about, sameStoreStill, sameTopicsStill, grantedStill⟩ := brink
  refine ⟨(q >>= _) >>= rest, f, Program.leads_trans leads (Program.leads_bind (Program.leads_bind onward _) rest),
    aboutToRevoke_bind (aboutToRevoke_bind about _) rest, sameStoreStill.trans sameStore,
    sameTopicsStill.trans sameTopics, grantedStill⟩

end

theorem played_consumer {p q : Program ControlError ApplyOutcome} {d e : Depot}
    (leads : Program.Leads moment p d q e) (passing : Program CleanupError CleanupReport) :
    ∃ moves, play act moves ⟨d, p, passing, none⟩ = some ⟨e, q, passing, none⟩ := by
  induction leads with
  | still => exact ⟨[], rfl⟩
  | call moved _ ih =>
    obtain ⟨moves, played⟩ := ih
    exact ⟨.consumer moment :: moves, by simp only [play, act, moved, Option.map_some, Option.bind_some, played]⟩

theorem played_pass {p q : Program CleanupError CleanupReport} {d e : Depot} (leads : Program.Leads moment p d q e)
    (applying : Program ControlError ApplyOutcome) :
    ∃ moves, play act moves ⟨d, applying, p, none⟩ = some ⟨e, applying, q, none⟩ := by
  induction leads with
  | still => exact ⟨[], rfl⟩
  | call moved _ ih =>
    obtain ⟨moves, played⟩ := ih
    exact ⟨.pass moment :: moves, by simp only [play, act, moved, Option.map_some, Option.bind_some, played]⟩

/-- The command is applied when the grants are about to be removed, and the look after their removal
    fails. -/
theorem stranded_at_brink {topic id : String} {d e : Depot} {passing : Program CleanupError CleanupReport}
    (about : AboutToRevoke topic id passing) {applying : Program ControlError ApplyOutcome} {outcome : ApplyOutcome}
    (lands : Program.Leads moment applying d (.done (.ok outcome)) e) :
    ∃ moves failed, play act moves ⟨d, applying, passing, none⟩ =
      some ⟨{ e with authority := e.authority.eraseGrants topic id }, .done (.ok outcome), .done (.error failed),
        some (.store (.get id))⟩ := by
  obtain ⟨next, look, rfl, looks, fails⟩ := about
  obtain ⟨failed, aborted⟩ := fails .lockPoisoned
  obtain ⟨moves, played⟩ := played_consumer lands (.ask (.authority (.removeResource topic id)) next)
  have removes : (Program.ask (.authority (.removeResource topic id)) next).advance moment e =
      some (next (.ok ()), { e with authority := e.authority.eraseGrants topic id }) := rfl
  let outage : Outage := ⟨.transport, .lockPoisoned, .lockPoisoned⟩
  refine ⟨moves ++ [.pass moment, .refuse outage], failed, ?_⟩
  simp only [play_append, played, play, act, removes, Option.map_some, Option.bind_some, looks, Call.refusal]
  rw [show outage.store = .lockPoisoned from rfl, aborted]

/-- The document is put between the look for it and the removal of its grants, and the next look
    fails. -/
theorem stranded_of_new (owner : String) {d : Depot} (registered : d.authority.isRegistered c.topic)
    (keyed : d.store.table.Keyed) (named : Text.allBlank document.id = false)
    (countable : (d.authority.ids c.topic).length + 1 < UInt64.size) (new : d.row? document.id = none) :
    ∃ moves s, play act moves (start c owner document d) = some s ∧ s.finished ∧
      (s.depot.row? document.id).isSome ∧ s.depot.grants? c.topic document.id = none := by
  let moment : Moment := ⟨0, ""⟩
  -- The grants are made sure of, and the pass gets to their removal.
  have seeding : ∃ rest e, Program.Leads moment (Control.apply c.topic (.put owner document)) d rest e ∧ _ :=
    Control.apply_leads_seeded registered owner document
  obtain ⟨rest, e, seeds, sameStore, sameTopics, fewer, grantedFirst, resumes⟩ := seeding
  have registeredFirst : e.authority.isRegistered c.topic := by
    rw [Authority.isRegistered, sameTopics]
    exact registered
  have passing : c.pass.Reaches moment (AtTheBrink c.topic document.id e) e :=
    pass_brink registeredFirst (sameStore ▸ keyed) (Nat.lt_of_le_of_lt fewer countable)
      (Option.isSome_of_eq_some grantedFirst) (by rw [Depot.row?, sameStore]; exact new)
  obtain ⟨q, f, passes, about, sameStoreStill, sameTopicsStill, granted⟩ := passing
  -- The document is stored, which needs no grants now.
  obtain ⟨grants, isGranted⟩ := Option.isSome_iff_exists.mp granted
  have registeredStill : f.authority.isRegistered c.topic := by
    rw [Authority.isRegistered, sameTopicsStill]
    exact registeredFirst
  have admitted : ∃ after, f.store.upsert document = .ok after := by
    rw [sameStoreStill, sameStore]
    exact Store.upsert_iff.mpr ⟨named, keyed.hasKey⟩
  obtain ⟨outcome, g, lands, isLanded⟩ :=
    Program.leads_of_completes (resumes f grants registeredStill admitted isGranted)
  obtain ⟨first, playedFirst⟩ := played_consumer seeds c.pass
  obtain ⟨second, playedSecond⟩ := played_pass passes rest
  obtain ⟨third, failed, playedThird⟩ := stranded_at_brink about lands
  refine ⟨first ++ (second ++ third),
    ⟨{ g with authority := g.authority.eraseGrants c.topic document.id }, .done (.ok outcome), .done (.error failed),
      some (.store (.get document.id))⟩, ?_, rfl, ?_, ?_⟩
  · rw [start, play_append, playedFirst, Option.bind_some, play_append, playedSecond, Option.bind_some, playedThird]
  · have key : f.store.table.HasKey := by
      rw [sameStoreStill, sameStore]
      exact keyed.hasKey
    have landed : g.row? document.id = some (.ofDocument (document.stampIfUnset moment.time)) := by
      rw [isLanded, Depot.row?, Store.find?_holding key (by simpa using named),
        if_pos (Document.id_stampIfUnset _ _).symm]
    exact Option.isSome_of_eq_some landed
  · simp [Depot.grants?]

/-! ### When a document keeps its grants -/

/-- However the calls of a put and of a pass come after one another, and wherever the pass is aborted:
    a document is left without grants only where the pass was refused the look for it, or the return of
    its grants, after it had removed them. No run does so exactly if the document was stored before. -/
theorem put_granted_iff {c : Cleanup} {owner : String} {document : Document} {d : Depot}
    (registered : d.authority.isRegistered c.topic) (keyed : d.store.table.Keyed)
    (named : Text.allBlank document.id = false) (countable : (d.authority.ids c.topic).length + 1 < UInt64.size) :
    (∀ moves s, play act moves (start c owner document d) = some s → s.finished →
        (s.depot.row? document.id).isSome → s.depot.grants? c.topic document.id = none →
        ∃ call, s.refused = some call ∧ Restoring c.topic document.id call) ∧
      ((∀ moves s, play act moves (start c owner document d) = some s → s.finished →
          (s.depot.row? document.id).isSome → (s.depot.grants? c.topic document.id).isSome) ↔
        (d.row? document.id).isSome) := by
  refine ⟨fun moves s played finished stored ungranted => ?_, fun granted => ?_, fun known => ?_⟩
  · rcases granted_or_refused keyed played finished stored with granted | ⟨_, refused⟩
    · rw [ungranted] at granted
      cases granted
    · exact refused
  · cases new : d.row? document.id with
    | some row => rfl
    | none =>
      obtain ⟨moves, s, played, finished, stored, ungranted⟩ :=
        stranded_of_new owner registered keyed named countable new
      have isGranted := granted moves s played finished stored
      rw [ungranted] at isGranted
      cases isGranted
  · intro moves s played finished stored
    rcases granted_or_refused keyed played finished stored with granted | ⟨new, _⟩
    · exact granted
    · rw [new] at known
      cases known

/-- A new version of a document that is stored. -/
def revised : Document := { id := "kept", name := "new", lastUpdated := 95 }

theorem put_granted_iff_revised :
    (Cleanup.drifted.authority.isRegistered Cleanup.byOnes.topic ∧ Cleanup.drifted.store.table.Keyed ∧
        Text.allBlank revised.id = false ∧
        (Cleanup.drifted.authority.ids Cleanup.byOnes.topic).length + 1 < UInt64.size) ∧
      ∀ moves s, play act moves (start Cleanup.byOnes "ann" revised Cleanup.drifted) = some s → s.finished →
        (s.depot.row? revised.id).isSome → (s.depot.grants? Cleanup.byOnes.topic revised.id).isSome := by
  have registered : Cleanup.drifted.authority.isRegistered Cleanup.byOnes.topic := by decide
  have distinct : Cleanup.drifted.store.table.Distinct := by decide
  have keyed : Cleanup.drifted.store.table.Keyed := ⟨_, rfl, (Table.distinct_keyed rfl).mp distinct⟩
  have named : Text.allBlank revised.id = false := by decide
  have countable : (Cleanup.drifted.authority.ids Cleanup.byOnes.topic).length + 1 < UInt64.size := by decide
  have stored : (Cleanup.drifted.row? revised.id).isSome := by decide
  exact ⟨⟨registered, keyed, named, countable⟩, (put_granted_iff registered keyed named countable).2.mpr stored⟩

/-- The document of a grant arrives just before a pass removes the grant, and the pass cannot look for
    it again. -/
theorem put_stranded :
    ∃ s, play act (List.replicate 4 (.pass ⟨100, "x"⟩) ++ List.replicate 3 (.consumer ⟨100, "x"⟩) ++
          [.pass ⟨100, "x"⟩, .refuse ⟨.transport, .lockPoisoned, .lockPoisoned⟩])
          (start { topic := "t" } "ann" { id := "p", lastUpdated := 90 } Upkeep.orphaned) = some s ∧
        s.finished ∧ (s.depot.row? "p").isSome ∧ s.depot.grants? "t" "p" = none := by
  have played : (play act (List.replicate 4 (.pass ⟨100, "x"⟩) ++ List.replicate 3 (.consumer ⟨100, "x"⟩) ++
      [.pass ⟨100, "x"⟩, .refuse ⟨.transport, .lockPoisoned, .lockPoisoned⟩])
      (start { topic := "t" } "ann" { id := "p", lastUpdated := 90 } Upkeep.orphaned)).any
        (fun s => s.finished && (s.depot.row? "p").isSome && (s.depot.grants? "t" "p").isNone) := by decide
  obtain ⟨s, reached, holds⟩ := (Option.any_eq_true _ _).mp played
  simp only [Bool.and_eq_true, Option.isNone_iff_eq_none] at holds
  obtain ⟨⟨finished, stored⟩, ungranted⟩ := holds
  exact ⟨s, reached, finished, stored, ungranted⟩

end AbortedPass
end ModelDepot
