import ModelDepot.Proofs.AbortedPass
import ModelDepot.Proofs.BackfillRun
import ModelDepot.Proofs.Effects
import ModelDepot.Proofs.Race

/-!
The grants of a stored document are edited while the document is put and a cleanup pass runs, call by
call in any order. A pass gives back the grants that it saw before it removed them, and a consumer gives
the owner's where it saw none: what was edited in between is undone. Main statement: to which documents
this can happen (`edit_stands_iff`).
-/
namespace ModelDepot

/-- A command that is applied beside a pass, and an edit of grants. -/
structure GrantEdit where
  depot : Depot
  applying : Program ControlError ApplyOutcome
  passing : Program CleanupError CleanupReport
  editing : Program AuthorityError Unit
  /-- The consumer has stored the document. -/
  landed : Bool := false
  /-- It had done so when the grants were edited. -/
  late : Bool := false

namespace GrantEdit
open AbortedPass (Seen seen_step stored_step)
open Race (Granted granted_rule)
open Upkeep (Orderly)

/-- Whose call is next. It succeeds. -/
inductive Move where
  | consumer (moment : Moment)
  | pass (moment : Moment)
  | edit (moment : Moment)

/-- The next call stores a document. -/
def stores : Program ControlError ApplyOutcome → Bool
  | .ask (.store (.upsert _)) _ => true
  | _ => false

/-- The grants are edited while a document is stored under the id. -/
def act (id : String) : Move → GrantEdit → Option GrantEdit
  | .consumer moment, s =>
    (s.applying.advance moment s.depot).map fun (rest, depot) =>
      { s with depot := depot, applying := rest, landed := s.landed || stores s.applying }
  | .pass moment, s =>
    (s.passing.advance moment s.depot).map fun (rest, depot) => { s with depot := depot, passing := rest }
  | .edit moment, s =>
    if (s.depot.row? id).isSome then
      (s.editing.advance moment s.depot).map fun (rest, depot) =>
        { s with depot := depot, editing := rest, late := s.landed }
    else none

/-- All three have ended. -/
def finished (s : GrantEdit) : Bool := s.applying.ended && s.passing.ended && s.editing.ended

/-- The call that edits the grants. -/
def setting (topic id : String) (grants : Grants) : Program AuthorityError Unit :=
  Program.authority (fun problem => problem) (.setPermission topic id grants)

def start (c : Cleanup) (owner : String) (document : Document) (grants : Grants) (d : Depot) : GrantEdit where
  depot := d
  applying := Control.apply c.topic (.put owner document)
  passing := c.pass
  editing := setting c.topic document.id grants

/-! ### When the document has landed -/

variable {c : Cleanup} {moment : Moment} {owner : String} {document : Document} {grants : Grants} {s t : GrantEdit}

/-- The consumer keeps to its course, and it is known whether it has stored the document. -/
def Applying (c : Cleanup) (owner : String) (document : Document) (s : GrantEdit) (point : ApplyPoint) : Prop :=
  s.applying.Follows (ApplyRules c.topic (.put owner document)) (fun _ => ApplyPoint.Finished (.put owner document))
      point ∧
    (s.landed ↔ Race.Landed point)

theorem applying_start {d : Depot} : Applying c owner document (start c owner document grants d) .begun :=
  ⟨Control.apply_follows _ _, fun landed => (Bool.false_ne_true landed).elim, False.elim⟩

theorem landed_rule {point next : ApplyPoint} {call : Call} {answer : call.Answer}
    (rule : ApplyRules c.topic (.put owner document) point call answer next)
    (cont : call.Answer → Program ControlError ApplyOutcome) :
    Race.Landed next ↔ Race.Landed point ∨ stores (.ask call cont) := by
  cases rule <;> simp [stores, Race.Landed]

theorem applying_step {point : ApplyPoint} {rest : Program ControlError ApplyOutcome} {after : Depot}
    (applying : s.Applying c owner document point) (moved : s.applying.advance moment s.depot = some (rest, after)) :
    ∃ call answer next,
      ApplyRules c.topic (.put owner document) point call answer next ∧ s.depot.Calls moment call answer after ∧
        Applying c owner document
          { s with depot := after, applying := rest, landed := s.landed || stores s.applying } next := by
  obtain ⟨follows, landed⟩ := applying
  obtain ⟨call, cont, answer, isAsk, isRest, calls⟩ := Program.advance_eq_some.mp moved
  rw [isAsk] at follows
  obtain ⟨next, rule, onward⟩ := follows.1 answer calls.succeeded
  refine ⟨call, answer, next, rule, calls, isRest ▸ onward, ?_⟩
  rw [landed_rule rule cont, ← landed, isAsk]
  exact Bool.or_eq_true_iff

/-- A consumer that has ended has stored the document. -/
theorem Applying.ended {point : ApplyPoint} (applying : s.Applying c owner document point) (ended : s.applying.ended) :
    s.landed ∧ ∃ stored, point = .secured stored := by
  obtain ⟨follows, landed⟩ := applying
  obtain ⟨result, isResult⟩ := Program.ended_iff.mp ended
  rw [isResult] at follows
  cases result with
  | error problem => exact follows.elim
  | ok outcome =>
    cases point with
    | secured stored => exact ⟨landed.mpr trivial, stored, rfl⟩
    | _ => exact follows.elim

/-! ### Edits that stand -/

/-- A pass that has seen the document leaves its grants alone. -/
theorem grants_step {d after : Depot} {point next : PassPoint} {call : Call} {answer : call.Answer} {id : String}
    (rule : PassRules c point call answer next) (calls : d.Calls moment call answer after) (seen : Seen id d point) :
    after.grants? c.topic id = d.grants? c.topic id := by
  rw [calls.grants?]
  cases rule with
  | revoked => exact if_neg fun both => seen.2 both.2
  | restored => exact if_neg fun both => seen.2 both.2
  | _ => rfl

/-- An edit stands that was made after the document was stored, or where there were grants at first. -/
structure Kept (c : Cleanup) (owner : String) (document : Document) (grants : Grants) (known : Prop) (s : GrantEdit) :
    Prop where
  keyed : s.depot.store.table.Keyed
  passing : ∃ point, Orderly c s.passing point ∧ Seen document.id s.depot point
  applying : ∃ point, s.Applying c owner document point ∧ Granted known c.topic document.id s.depot point
  editing : s.editing = setting c.topic document.id grants ∨
    s.editing.ended ∧ (s.late ∨ known → s.depot.grants? c.topic document.id = some grants)
  late : s.late → s.landed

section
variable {known : Prop} {after : Depot}

theorem kept_consumer {rest : Program ControlError ApplyOutcome} (kept : s.Kept c owner document grants known)
    (moved : s.applying.advance moment s.depot = some (rest, after)) :
    Kept c owner document grants known
      { s with depot := after, applying := rest, landed := s.landed || stores s.applying } := by
  obtain ⟨keyed, ⟨passPoint, orderly, seen⟩, ⟨point, applying, granted⟩, editing, late⟩ := kept
  obtain ⟨call, answer, next, rule, calls, onward⟩ := applying_step applying moved
  obtain ⟨grantedNext, changed⟩ := granted_rule rule calls granted
  have same : s.late ∨ known → after.grants? c.topic document.id = s.depot.grants? c.topic document.id := by
    intro sure
    refine changed.resolve_right fun ⟨unknown, unlanded⟩ => ?_
    rcases sure with isLate | isKnown
    · exact unlanded (applying.2.mp (late isLate))
    · exact unknown isKnown
  refine ⟨calls.keyed keyed, ⟨passPoint, orderly, seen.mono (stored_step rule calls)⟩, ⟨next, onward, grantedNext⟩,
    ?_, fun isLate => Bool.or_eq_true_iff.mpr (.inl (late isLate))⟩
  exact editing.imp_right fun ⟨ended, stands⟩ => ⟨ended, fun sure => (same sure).trans (stands sure)⟩

theorem kept_pass {rest : Program CleanupError CleanupReport} (kept : s.Kept c owner document grants known)
    (moved : s.passing.advance moment s.depot = some (rest, after)) :
    Kept c owner document grants known { s with depot := after, passing := rest } := by
  obtain ⟨keyed, ⟨passPoint, orderly, seen⟩, ⟨point, applying, granted⟩, editing, late⟩ := kept
  obtain ⟨call, answer, next, rule, onward, calls⟩ := Program.follows_advance orderly moved
  have same := grants_step rule calls seen
  refine ⟨calls.keyed keyed, ⟨next, onward, seen_step keyed rule calls seen⟩,
    ⟨point, applying, granted.mono fun isGranted => same ▸ isGranted⟩, ?_, late⟩
  exact editing.imp_right fun ⟨ended, stands⟩ => ⟨ended, fun sure => same.trans (stands sure)⟩

theorem kept_edit {rest : Program AuthorityError Unit} (kept : s.Kept c owner document grants known)
    (moved : s.editing.advance moment s.depot = some (rest, after)) :
    Kept c owner document grants known { s with depot := after, editing := rest, late := s.landed } := by
  obtain ⟨keyed, ⟨passPoint, orderly, seen⟩, ⟨point, applying, granted⟩, isSetting | ⟨ended, _⟩, _⟩ := kept
  · rw [isSetting] at moved
    obtain ⟨call, next, answer, isAsk, rfl, calls⟩ := Program.advance_eq_some.mp moved
    obtain ⟨rfl, isNext⟩ := Program.ask.inj isAsk
    obtain rfl := eq_of_heq isNext
    have set : after.grants? c.topic document.id = some grants := (calls.grants? _ _).trans (if_pos ⟨rfl, rfl⟩)
    have sameRow : after.row? document.id = s.depot.row? document.id := calls.row? _
    refine ⟨calls.keyed keyed, ⟨passPoint, orderly, seen.mono fun stored => sameRow ▸ stored⟩,
      ⟨point, applying, granted.mono fun _ => Option.isSome_of_eq_some set⟩, .inr ⟨?_, fun _ => set⟩, id⟩
    cases answer with
    | ok value => rfl
    | error problem => rfl
  · obtain ⟨result, isDone⟩ := Program.ended_iff.mp ended
    rw [isDone] at moved
    cases moved

theorem kept_act {move : Move} (kept : s.Kept c owner document grants known)
    (moved : act document.id move s = some t) : t.Kept c owner document grants known := by
  cases move with
  | consumer moment =>
    obtain ⟨⟨rest, after⟩, advanced, rfl⟩ := Option.map_eq_some_iff.mp moved
    exact kept_consumer kept advanced
  | pass moment =>
    obtain ⟨⟨rest, after⟩, advanced, rfl⟩ := Option.map_eq_some_iff.mp moved
    exact kept_pass kept advanced
  | edit moment =>
    obtain ⟨_, made⟩ := Option.ite_none_right_eq_some.mp moved
    obtain ⟨⟨rest, after⟩, advanced, rfl⟩ := Option.map_eq_some_iff.mp made
    exact kept_edit kept advanced

end

/-- An edit stands if the document was stored at first, and had grants then or is stored again before the edit. -/
theorem edit_stands {d : Depot} {moves : List Move} (keyed : d.store.table.Keyed)
    (stored : (d.row? document.id).isSome)
    (played : play (act document.id) moves (start c owner document grants d) = some s) (finished : s.finished)
    (sure : s.late ∨ (d.grants? c.topic document.id).isSome) :
    s.depot.grants? c.topic document.id = some grants := by
  have begun :
      Kept c owner document grants (d.grants? c.topic document.id).isSome (start c owner document grants d) := by
    refine ⟨keyed, ⟨.listing ∅, c.pass_follows, stored⟩, ⟨.begun, applying_start, id⟩, .inl rfl, fun late => ?_⟩
    cases late
  have kept := play_keeps (fun _ _ _ => kept_act) begun played
  rcases kept.editing with isSetting | ⟨_, stands⟩
  · obtain ⟨_, ended⟩ := Bool.and_eq_true_iff.mp finished
    rw [isSetting] at ended
    cases ended
  · exact stands sure

/-! ### Runs -/

/-- Some moves lead to the state. -/
def Reached (id : String) (s t : GrantEdit) : Prop := ∃ moves, play (act id) moves s = some t

section
variable {id : String} {e : Depot}

theorem Reached.act {u : GrantEdit} {move : Move} (reached : s.Reached id t) (moved : act id move t = some u) :
    s.Reached id u := by
  obtain ⟨moves, played⟩ := reached
  exact ⟨moves ++ [move], by simp only [play_append, played, play, moved, Option.bind_some]⟩

theorem Reached.consumer {q : Program ControlError ApplyOutcome} (reached : s.Reached id t)
    (leads : Program.Leads moment t.applying t.depot q e) :
    ∃ landed, s.Reached id { t with depot := e, applying := q, landed := landed } := by
  generalize isApplying : t.applying = p, isDepot : t.depot = d at leads
  induction leads generalizing t with
  | still =>
    subst isApplying isDepot
    exact ⟨t.landed, reached⟩
  | @call _ rest _ _ after _ moved _ ih =>
    subst isApplying isDepot
    have acted : GrantEdit.act id (.consumer moment) t =
        some { t with depot := after, applying := rest, landed := t.landed || stores t.applying } := by
      simp only [GrantEdit.act, moved, Option.map_some]
    have onward := ih (reached.act acted) rfl rfl
    exact onward

theorem Reached.pass {q : Program CleanupError CleanupReport} (reached : s.Reached id t)
    (leads : Program.Leads moment t.passing t.depot q e) : s.Reached id { t with depot := e, passing := q } := by
  generalize isPassing : t.passing = p, isDepot : t.depot = d at leads
  induction leads generalizing t with
  | still =>
    subst isPassing isDepot
    exact reached
  | @call _ rest _ _ after _ moved _ ih =>
    subst isPassing isDepot
    have acted : GrantEdit.act id (.pass moment) t = some { t with depot := after, passing := rest } := by
      simp only [GrantEdit.act, moved, Option.map_some]
    have onward := ih (reached.act acted) rfl rfl
    exact onward

theorem Reached.edit {topic : String} (reached : s.Reached id t) (editing : t.editing = setting topic id grants)
    (registered : t.depot.authority.isRegistered topic) (stored : (t.depot.row? id).isSome) :
    s.Reached id
      { t with
        depot := { t.depot with authority := t.depot.authority.setGrants topic id grants }
        editing := .done (.ok ())
        late := t.landed } := by
  have answered := Authority.respond_setPermission registered id grants
  have made : t.editing.advance ⟨0, ""⟩ t.depot =
      some (.done (.ok ()), { t.depot with authority := t.depot.authority.setGrants topic id grants }) := by
    simp only [editing, setting, Program.authority, Program.advance, Depot.answer, answered]
    rfl
  have acted : GrantEdit.act id (.edit ⟨0, ""⟩) t =
      some { t with
        depot := { t.depot with authority := t.depot.authority.setGrants topic id grants }
        editing := .done (.ok ())
        late := t.landed } := by
    simp only [GrantEdit.act, stored, made, ↓reduceIte, Option.map_some]
  exact reached.act acted

end

theorem applying_act {id : String} {move : Move} (applying : ∃ point, s.Applying c owner document point)
    (moved : act id move s = some t) : ∃ point, t.Applying c owner document point := by
  obtain ⟨point, applying⟩ := applying
  cases move with
  | consumer moment =>
    obtain ⟨⟨rest, after⟩, advanced, rfl⟩ := Option.map_eq_some_iff.mp moved
    obtain ⟨_, _, next, _, _, onward⟩ := applying_step applying advanced
    exact ⟨next, onward⟩
  | pass moment =>
    obtain ⟨⟨rest, after⟩, advanced, rfl⟩ := Option.map_eq_some_iff.mp moved
    exact ⟨point, applying⟩
  | edit moment =>
    obtain ⟨_, made⟩ := Option.ite_none_right_eq_some.mp moved
    obtain ⟨⟨rest, after⟩, advanced, rfl⟩ := Option.map_eq_some_iff.mp made
    exact ⟨point, applying⟩

/-! ### Edits that are undone -/

section
variable {ε α : Type} {topic id : String} {d : Depot} {store : Store} {old : Grants}

/-- Where the document is found in the store, what is left gives it these grants. -/
def Recalls (moment : Moment) (topic id : String) (store : Store) (old : Grants) (p : Program ε α) : Prop :=
  ∀ e : Depot, e.store = store → e.authority.isRegistered topic →
    p.Completes moment (fun _ f => f.store = store ∧ f.grants? topic id = some old) e

theorem removeGrant_recalls (granted : d.grants? topic id = some old) (absent : d.row? id = none)
    (found : store.get id = .ok (some document)) :
    (Cleanup.removeGrant topic id).Reaches moment (fun p e => e = d ∧ Recalls moment topic id store old p) d := by
  apply Program.reaches_after (Q := fun found e => e = d ∧ found = some old)
  · exact Program.completes_authority rfl ⟨rfl, granted⟩
  rintro _ d ⟨rfl, rfl⟩
  apply Program.reaches_after (Cleanup.stored_completes absent)
  rintro _ d ⟨rfl, rfl⟩
  refine ⟨_, d, .still, rfl, fun e isStore registered => ?_⟩
  apply Program.completes_bind (Q := fun _ f => f.store = store ∧ f.authority.isRegistered topic)
  · refine Program.completes_authority rfl ⟨isStore, ?_⟩
    simpa [Authority.isRegistered] using registered
  rintro _ e ⟨rfl, registered⟩
  apply Program.completes_bind (Cleanup.stored_finds found)
  rintro _ e ⟨rfl, rfl⟩
  apply Program.completes_bind (Q := fun _ f => f.store = e.store ∧ f.grants? topic id = some old)
  · refine Program.completes_authority (Authority.respond_setPermission registered id old) ⟨rfl, ?_⟩
    simp [Depot.grants?]
  rintro _ f given
  exact ⟨rfl, given⟩

/-- It still does so when the grants of ids without a document are removed afterwards. -/
theorem recalls_removeGrants {p : Program CleanupError Bool} (recalls : Recalls moment topic id store old p)
    (found : store.get id = .ok (some document)) {more : List String}
    (spared : ∀ other ∈ more, other = id ∨ store.table.find? other = none) (soFar : Nat) :
    Recalls moment topic id store old
      (p >>= fun gone =>
        if gone then Cleanup.removeGrants topic more (soFar + 1) else Cleanup.removeGrants topic more soFar) := by
  intro e isStore registered
  apply Program.completes_bind (recalls e isStore registered)
  rintro gone f ⟨rfl, given⟩
  have onward : ∀ removed, (Cleanup.removeGrants topic more removed).Completes moment
      (fun _ g => g.store = f.store ∧ g.grants? topic id = some old) f := by
    intro removed
    refine Program.completes_mono (Cleanup.removeGrants_spares found spared removed) ?_
    rintro _ g ⟨sameStore, sameGrants⟩
    exact ⟨sameStore, sameGrants.trans given⟩
  cases gone with
  | false => exact onward soFar
  | true => exact onward (soFar + 1)

/-- A pass that runs alone has read the grants of an id without a document at some time, and is about to remove them. -/
theorem pass_recalls (registered : d.authority.isRegistered c.topic) (keyed : d.store.table.Keyed)
    (countable : (d.authority.ids c.topic).length < UInt64.size) (granted : d.grants? c.topic id = some old)
    (absent : d.row? id = none) (found : store.get id = .ok (some document))
    (others : ∀ other, other ≠ id → d.row? other = none → store.table.find? other = none) :
    c.pass.Reaches moment
      (fun p e => e.store = d.store ∧ e.authority.topics = d.authority.topics ∧ e.grants? c.topic id = some old ∧
        ∀ f : Depot, f.store = store → f.authority.isRegistered c.topic →
          p.Completes moment (fun _ g => (g.row? id).isSome ∧ g.grants? c.topic id = some old) f) d := by
  have faces : c.pass.Reaches moment _ d :=
    Cleanup.pass_faces registered keyed.distinct countable (Option.isSome_of_eq_some granted) absent
  obtain ⟨_, e, leads, ⟨more, soFar, rest, rfl, unstored, ends⟩, sameStore, sameTopics, sameGrants⟩ := faces
  have absentStill : e.row? id = none := (congrArg (·.table.find? id) sameStore).trans absent
  have reaches : (Cleanup.removeGrant c.topic id).Reaches moment _ e :=
    removeGrant_recalls (sameGrants.trans granted) absentStill found
  obtain ⟨p, e, onward, rfl, recalls⟩ := reaches
  refine ⟨_, e, Program.leads_trans leads (Program.leads_bind (Program.leads_bind onward _) rest), sameStore,
    sameTopics, sameGrants.trans granted, fun f isStore registered => ?_⟩
  have spared : ∀ other ∈ more, other = id ∨ store.table.find? other = none := by
    intro other member
    by_cases same : other = id
    · exact .inl same
    · exact .inr (others other same (unstored other member))
  apply Program.completes_bind (recalls_removeGrants recalls found spared soFar f isStore registered)
  rintro removed g ⟨rfl, given⟩
  refine Program.completes_mono (ends removed g) ?_
  rintro _ h ⟨sameAuthority, rows⟩
  have stored : (g.row? id).isSome := (Store.isSome_of_get found).symm
  refine ⟨(rows id (Option.isSome_of_eq_some given)).symm ▸ stored, ?_⟩
  rw [Depot.grants?, sameAuthority]
  exact given

end

/-- There are other grants than these. -/
theorem exists_other (grants : Grants) : ∃ other : Grants, other ≠ grants := by
  by_cases empty : grants = {}
  · exact ⟨.forOwner "", by rw [empty]; decide⟩
  · exact ⟨{}, fun same => empty same.symm⟩

/-- The grants are edited after the document was stored, which the pass had not found when it read them. -/
theorem undone_of_new (owner : String) {d : Depot} (registered : d.authority.isRegistered c.topic)
    (keyed : d.store.table.Keyed) (named : Text.allBlank document.id = false)
    (countable : (d.authority.ids c.topic).length + 1 < UInt64.size) (new : d.row? document.id = none) :
    ∃ grants moves s, play (act document.id) moves (start c owner document grants d) = some s ∧ s.finished ∧ s.late ∧
      (s.depot.row? document.id).isSome ∧ s.depot.grants? c.topic document.id ≠ some grants := by
  let moment : Moment := ⟨0, ""⟩
  let stamped : Document := document.stampIfUnset moment.time
  have sameId : stamped.id = document.id := Document.id_stampIfUnset _ _
  obtain ⟨grants, other⟩ := exists_other ((d.grants? c.topic document.id).getD (.forOwner owner))
  -- The grants are made sure of, and the pass reads them and finds no document.
  have seeding : ∃ rest e, Program.Leads moment (Control.apply c.topic (.put owner document)) d rest e ∧ _ :=
    Control.apply_leads_seeded registered owner document
  obtain ⟨rest, e, seeds, sameStore, sameTopics, fewer, granted, resumes⟩ := seeding
  have registeredFirst : e.authority.isRegistered c.topic := by
    rw [Authority.isRegistered, sameTopics]
    exact registered
  have namedStill : Text.allBlank stamped.id = false := sameId ▸ named
  have found : (d.store.holding stamped).get document.id = .ok (some stamped) := by
    rw [← sameId]
    exact Store.get_holding keyed.hasKey namedStill
  have others : ∀ id, id ≠ document.id → e.row? id = none → (d.store.holding stamped).table.find? id = none := by
    intro id different absent
    rw [Store.find?_holding keyed.hasKey namedStill, if_neg (sameId ▸ different), ← sameStore]
    exact absent
  have passing : c.pass.Reaches moment _ e :=
    pass_recalls registeredFirst (sameStore ▸ keyed) (Nat.lt_of_le_of_lt fewer countable) granted
      (by rw [Depot.row?, sameStore]; exact new) found others
  obtain ⟨q, f, passes, sameStoreStill, sameTopicsStill, grantedStill, recalls⟩ := passing
  -- The document is stored, and the grants are edited.
  have isRegistered : f.authority.isRegistered c.topic := by
    rw [Authority.isRegistered, sameTopicsStill]
    exact registeredFirst
  have admitted : ∃ after, f.store.upsert document = .ok after := by
    rw [sameStoreStill, sameStore]
    exact Store.upsert_iff.mpr ⟨named, keyed.hasKey⟩
  obtain ⟨outcome, g, lands, rfl⟩ := Program.leads_of_completes (resumes f _ isRegistered admitted grantedStill)
  have isStore : f.store.holding stamped = d.store.holding stamped := by rw [sameStoreStill, sameStore]
  have landed : ((f.store.holding stamped).table.find? document.id).isSome := by
    rw [isStore]
    exact (Store.isSome_of_get found).symm
  -- The pass removes the grants, finds the document and gives back what it had read.
  obtain ⟨report, h, gives, stored, given⟩ := Program.leads_of_completes
    (recalls ⟨f.store.holding stamped, f.authority.setGrants c.topic document.id grants, f.log⟩ isStore isRegistered)
  have begun : Reached document.id (start c owner document grants d) (start c owner document grants d) := ⟨[], rfl⟩
  obtain ⟨_, seeded⟩ := begun.consumer seeds
  obtain ⟨_, applied⟩ := (seeded.pass passes).consumer lands
  have edited := applied.edit rfl isRegistered landed
  obtain ⟨moves, played⟩ := edited.pass gives
  obtain ⟨point, applied⟩ := play_keeps (fun _ _ _ => applying_act) ⟨.begun, applying_start⟩ played
  refine ⟨grants, moves, _, played, rfl, (applied.ended rfl).1, stored, ?_⟩
  rw [given]
  exact fun same => other (Option.some.inj same).symm

/-- A pass that runs alone leaves a document with grants as it is. -/
theorem pass_keeps {id : String} {d : Depot} {row : Row} (registered : d.authority.isRegistered c.topic)
    (distinct : d.store.table.Distinct) (countable : (d.authority.ids c.topic).length < UInt64.size)
    (held : d.row? id = some row) (granted : d.grants? c.topic id = some grants) :
    c.pass.Completes moment (fun _ e => e.row? id = some row ∧ e.grants? c.topic id = some grants) d := by
  refine Program.completes_mono (Cleanup.pass_completes registered distinct countable) ?_
  rintro _ _ ⟨rfl, -⟩
  have repairs : c.Repairs moment d (c.swept moment d) := Cleanup.swept_repairs distinct
  exact ⟨(repairs.rows id row).mpr ⟨held, .inl (Option.isSome_of_eq_some granted)⟩,
    (repairs.grants id grants).mpr ⟨granted, Option.isSome_of_eq_some held⟩⟩

/-- The grants are edited when the consumer has found none, and gives the owner's. -/
theorem undone_of_ungranted (owner : String) {d : Depot} (registered : d.authority.isRegistered c.topic)
    (keyed : d.store.table.Keyed) (named : Text.allBlank document.id = false)
    (countable : (d.authority.ids c.topic).length + 1 < UInt64.size) (stored : (d.row? document.id).isSome)
    (ungranted : d.grants? c.topic document.id = none) :
    ∃ grants moves s, play (act document.id) moves (start c owner document grants d) = some s ∧ s.finished ∧
      (s.depot.row? document.id).isSome ∧ s.depot.grants? c.topic document.id ≠ some grants := by
  let moment : Moment := ⟨0, ""⟩
  let stamped : Document := document.stampIfUnset moment.time
  have sameId : stamped.id = document.id := Document.id_stampIfUnset _ _
  obtain ⟨grants, other⟩ := exists_other (.forOwner owner)
  have missing : ∃ rest, Program.Leads moment (Control.apply c.topic (.put owner document)) d rest d ∧ _ :=
    Control.apply_leads_bare owner ungranted
  obtain ⟨rest, looks, gives⟩ := missing
  -- The grants are edited here, and the owner's replace them.
  let edited : Depot := { d with authority := d.authority.setGrants c.topic document.id grants }
  obtain ⟨outcome, e, lands, isLanded⟩ := Program.leads_of_completes
    (gives edited registered (Store.upsert_iff.mpr ⟨named, keyed.hasKey⟩))
  have granted : e.grants? c.topic document.id = some (.forOwner owner) := by
    rw [isLanded]
    simp [Depot.grants?]
  have held : e.row? document.id = some (.ofDocument stamped) := by
    rw [isLanded, Depot.row?, Store.find?_holding keyed.hasKey (sameId ▸ named), if_pos sameId.symm]
  -- The pass finds the document with grants.
  have distinct : e.store.table.Distinct := by
    rw [isLanded]
    exact (Store.keyed_holding keyed _).distinct
  have countableStill : (e.authority.ids c.topic).length < UInt64.size := by
    rw [isLanded]
    refine Nat.lt_of_le_of_lt ?_ countable
    rw [Authority.setGrants_setGrants]
    exact Authority.length_ids_setGrants_le _ _ _ _
  have registeredStill : e.authority.isRegistered c.topic := by
    rw [isLanded]
    exact registered
  have passing : c.pass.Completes moment _ e := pass_keeps registeredStill distinct countableStill held granted
  obtain ⟨report, f, passes, kept, given⟩ := Program.leads_of_completes passing
  have begun : Reached document.id (start c owner document grants d) (start c owner document grants d) := ⟨[], rfl⟩
  obtain ⟨_, looked⟩ := begun.consumer looks
  obtain ⟨_, applied⟩ := (looked.edit rfl registered stored).consumer lands
  obtain ⟨moves, played⟩ := applied.pass passes
  refine ⟨grants, moves, _, played, rfl, Option.isSome_of_eq_some kept, ?_⟩
  rw [given]
  exact fun same => other (Option.some.inj same).symm

/-! ### When edits stand -/

/-- However the calls of a put, of a pass and of an edit come after one another: every edit of the grants of a stored
document stands exactly if the document was stored with grants at first, and every one that is made after the put has
stored the document exactly if it was stored before. -/
theorem edit_stands_iff {c : Cleanup} {owner : String} {document : Document} {d : Depot}
    (registered : d.authority.isRegistered c.topic) (keyed : d.store.table.Keyed)
    (named : Text.allBlank document.id = false) (countable : (d.authority.ids c.topic).length + 1 < UInt64.size) :
    ((∀ grants moves s, play (act document.id) moves (start c owner document grants d) = some s → s.finished →
        (s.depot.row? document.id).isSome → s.depot.grants? c.topic document.id = some grants) ↔
      (d.row? document.id).isSome ∧ (d.grants? c.topic document.id).isSome) ∧
    ((∀ grants moves s, play (act document.id) moves (start c owner document grants d) = some s → s.finished → s.late →
        (s.depot.row? document.id).isSome → s.depot.grants? c.topic document.id = some grants) ↔
      (d.row? document.id).isSome) := by
  have storedFirst : (∀ grants moves s, play (act document.id) moves (start c owner document grants d) = some s →
      s.finished → s.late → (s.depot.row? document.id).isSome →
        s.depot.grants? c.topic document.id = some grants) → (d.row? document.id).isSome := by
    intro stands
    cases new : d.row? document.id with
    | some row => rfl
    | none =>
      obtain ⟨grants, moves, s, played, finished, late, stored, undone⟩ :=
        undone_of_new owner registered keyed named countable new
      exact (undone (stands grants moves s played finished late stored)).elim
  refine ⟨⟨fun stands => ?_, fun ⟨stored, granted⟩ => ?_⟩, storedFirst, fun stored => ?_⟩
  · have stored := storedFirst fun grants moves s played finished _ => stands grants moves s played finished
    refine ⟨stored, ?_⟩
    cases ungranted : d.grants? c.topic document.id with
    | some grants => rfl
    | none =>
      obtain ⟨grants, moves, s, played, finished, storedStill, undone⟩ :=
        undone_of_ungranted owner registered keyed named countable stored ungranted
      exact (undone (stands grants moves s played finished storedStill)).elim
  · exact fun grants moves s played finished _ => edit_stands keyed stored played finished (.inr granted)
  · exact fun grants moves s played finished late _ => edit_stands keyed stored played finished (.inl late)

open AbortedPass (revised) in
theorem edit_stands_iff_revised :
    (Cleanup.drifted.authority.isRegistered Cleanup.byOnes.topic ∧ Cleanup.drifted.store.table.Keyed ∧
        Text.allBlank revised.id = false ∧
        (Cleanup.drifted.authority.ids Cleanup.byOnes.topic).length + 1 < UInt64.size) ∧
      ∀ grants moves s,
        play (act revised.id) moves (start Cleanup.byOnes "ann" revised grants Cleanup.drifted) = some s →
        s.finished → (s.depot.row? revised.id).isSome →
        s.depot.grants? Cleanup.byOnes.topic revised.id = some grants := by
  have registered : Cleanup.drifted.authority.isRegistered Cleanup.byOnes.topic := by decide
  have distinct : Cleanup.drifted.store.table.Distinct := by decide
  have keyed : Cleanup.drifted.store.table.Keyed := ⟨_, rfl, (Table.distinct_keyed rfl).mp distinct⟩
  have named : Text.allBlank revised.id = false := by decide
  have countable : (Cleanup.drifted.authority.ids Cleanup.byOnes.topic).length + 1 < UInt64.size := by decide
  have stored : (Cleanup.drifted.row? revised.id).isSome := by decide
  have granted : (Cleanup.drifted.grants? Cleanup.byOnes.topic revised.id).isSome := by decide
  exact ⟨⟨registered, keyed, named, countable⟩,
    (edit_stands_iff registered keyed named countable).1.mpr ⟨stored, granted⟩⟩

/-- A pass has read the grants and found no document. Then the document is stored and its grants are edited. -/
def overtaken : List Move :=
  let moment : Moment := ⟨100, "x"⟩
  List.replicate 4 (.pass moment) ++ List.replicate 3 (.consumer moment) ++ .edit moment ::
    List.replicate 6 (.pass moment)

/-- The grants that were edited are replaced by those that the pass had read. -/
theorem edit_undone :
    ∃ s, play (act "p") overtaken
          (start { topic := "t" } "ann" { id := "p", lastUpdated := 90 } (.forOwner "carol") Upkeep.orphaned) = some s ∧
        s.finished ∧ s.late ∧ (s.depot.row? "p").isSome ∧ s.depot.grants? "t" "p" ≠ some (.forOwner "carol") := by
  have played : (play (act "p") overtaken
      (start { topic := "t" } "ann" { id := "p", lastUpdated := 90 } (.forOwner "carol") Upkeep.orphaned)).any
        (fun s => s.finished && s.late && (s.depot.row? "p").isSome &&
          decide (s.depot.grants? "t" "p" ≠ some (.forOwner "carol"))) := by decide
  obtain ⟨s, reached, holds⟩ := (Option.any_eq_true _ _).mp played
  simp only [Bool.and_eq_true, decide_eq_true_eq] at holds
  obtain ⟨⟨⟨finished, late⟩, stored⟩, undone⟩ := holds
  exact ⟨s, reached, finished, late, stored, undone⟩

end GrantEdit
end ModelDepot
