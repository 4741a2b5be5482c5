import ModelDepot.Proofs.ApplyCourse
import ModelDepot.Proofs.CleanupAlone
import ModelDepot.Proofs.CleanupCourse
import ModelDepot.Proofs.Play

/-!
A document is put while a cleanup pass runs, call by call in any order. A pass confirms that a
stale document has no grants, and removes it with another call; what is put in between is lost. Main
statement: a document that is put with a recent stamp survives every order of the calls exactly if it
had grants before, or was not stored with an old stamp (`put_survives_iff`).
-/
namespace ModelDepot

structure Race where
  depot : Depot
  applying : Program ControlError ApplyOutcome
  passing : Program CleanupError CleanupReport

namespace Race

/-- Whose turn it is. -/
inductive Side where
  | consumer
  | pass

/-- The next call of one side succeeds. The clock stands still, since it is read at most once. -/
def act (moment : Moment) : Side → Race → Option Race
  | .consumer, s =>
    (s.applying.advance moment s.depot).map fun (rest, depot) => { s with depot := depot, applying := rest }
  | .pass, s =>
    (s.passing.advance moment s.depot).map fun (rest, depot) => { s with depot := depot, passing := rest }

/-- Both sides are done. -/
def finished (s : Race) : Bool := s.applying.ended && s.passing.ended

def start (c : Cleanup) (owner : String) (document : Document) (d : Depot) : Race where
  depot := d
  applying := Control.apply c.topic (.put owner document)
  passing := c.pass

/-! ### What protects a document -/

variable {c : Cleanup} {moment : Moment} {owner : String} {document : Document} {s t : Race}

/-- A pass at this moment takes the document for stale if it is stored like this. -/
def stale (c : Cleanup) (moment : Moment) (row : Row) : Bool := Store.isStale (Cleanup.cutoff c.grace moment.time) row

theorem stale_eq_false {row : Row} :
    stale c moment row = false ↔ row.lastUpdated ≠ 0 ∧ Cleanup.cutoff c.grace moment.time ≤ row.lastUpdated := by
  simp [stale, Store.isStale, Int64.not_lt]

/-- The document has grants, or is not stored with an old stamp. -/
def Safe (c : Cleanup) (moment : Moment) (id : String) (d : Depot) : Prop :=
  (d.grants? c.topic id).isSome ∨ ∀ row, d.row? id = some row → stale c moment row = false

/-- Why a pass will not remove the document. It removes grants of listed ids only, and documents of
    other ones only. -/
def Guarded (c : Cleanup) (moment : Moment) (id : String) (d : Depot) : PassPoint → Prop
  | .listing _ => Safe c moment id d
  | .revoking listed => id ∈ listed.granted ∨ Safe c moment id d
  | .found listed other _ => other ∈ listed.granted ∧ (id ∈ listed.granted ∨ Safe c moment id d)
  | .absent listed other _ => other ∈ listed.granted ∧ (id ∈ listed.granted ∨ Safe c moment id d)
  | .revoked listed _ _ => id ∈ listed.granted ∨ Safe c moment id d
  | .arrived listed _ _ => id ∈ listed.granted ∨ Safe c moment id d
  | .dating listed time => time = moment.time ∧ (id ∈ listed.granted ∨ Safe c moment id d)
  | .deleting listed old => id ∈ listed.granted ∨ (d.grants? c.topic id).isSome ∨ id ∉ old
  | .ungranted listed old other => other ≠ id ∧ (id ∈ listed.granted ∨ (d.grants? c.topic id).isSome ∨ id ∉ old)

theorem Guarded.mono {id : String} {d after : Depot} {point : PassPoint} (guarded : Guarded c moment id d point)
    (grants : (d.grants? c.topic id).isSome → (after.grants? c.topic id).isSome)
    (fresh : (∀ row, d.row? id = some row → stale c moment row = false) →
      ∀ row, after.row? id = some row → stale c moment row = false) : Guarded c moment id after point := by
  have safe : Safe c moment id d → Safe c moment id after := Or.imp grants fresh
  have kept : ∀ {listed old : Prop}, listed ∨ (d.grants? c.topic id).isSome ∨ old →
      listed ∨ (after.grants? c.topic id).isSome ∨ old := Or.imp_right (Or.imp_left grants)
  cases point with
  | listing _ => exact safe guarded
  | revoking _ => exact guarded.imp_right safe
  | found _ _ _ => exact ⟨guarded.1, guarded.2.imp_right safe⟩
  | absent _ _ _ => exact ⟨guarded.1, guarded.2.imp_right safe⟩
  | revoked _ _ _ => exact guarded.imp_right safe
  | arrived _ _ _ => exact guarded.imp_right safe
  | dating _ _ => exact ⟨guarded.1, guarded.2.imp_right safe⟩
  | deleting _ _ => exact kept guarded
  | ungranted _ _ _ => exact ⟨guarded.1, kept guarded.2⟩

/-! ### Steps -/

section
variable {call : Call} {answer : call.Answer} {d after : Depot} {id : String}

/-- A pass leaves the row of a guarded document alone, and the document guarded. -/
theorem guarded_step {point next : PassPoint} (keyed : d.store.table.Keyed) (rule : PassRules c point call answer next)
    (calls : d.Calls moment call answer after) (guarded : Guarded c moment id d point) :
    after.row? id = d.row? id ∧ Guarded c moment id after next := by
  have unchanged : call.Harmless → Guarded c moment id d next →
      after.row? id = d.row? id ∧ Guarded c moment id after next := by
    intro harmless same
    have row : after.row? id = d.row? id := (calls.row? id).trans (Call.rowAfter_harmless harmless id _)
    have grants : after.grants? c.topic id = d.grants? c.topic id :=
      (calls.grants? c.topic id).trans (Call.grantsAfter_harmless harmless c.topic id _)
    exact ⟨row, same.mono (fun granted => grants ▸ granted) (fun fresh => row ▸ fresh)⟩
  cases rule with
  | report => exact unchanged trivial guarded
  | page => exact unchanged trivial guarded
  | listed => exact unchanged trivial (.inr guarded)
  | vanished => exact unchanged trivial guarded
  | found granted => exact unchanged trivial ⟨granted, guarded⟩
  | kept => exact unchanged trivial guarded.2
  | absent => exact unchanged trivial guarded
  | @revoked listed other held =>
    refine ⟨calls.row? id, ?_⟩
    obtain ⟨listedOther, guarded⟩ := guarded
    by_cases same : id = other
    · exact .inl (same ▸ listedOther)
    · have grants : after.grants? c.topic id = d.grants? c.topic id :=
        (calls.grants? c.topic id).trans (if_neg fun both => same both.2)
      have row : after.row? id = d.row? id := calls.row? id
      exact guarded.imp_right (Or.imp (fun granted => grants ▸ granted) (fun fresh => row ▸ fresh))
  | settled => exact unchanged trivial guarded
  | arrived => exact unchanged trivial guarded
  | @restored listed other held =>
    refine ⟨calls.row? id, guarded.imp_right (Or.imp (fun granted => ?_) fun fresh => ?_)⟩
    · rw [calls.grants?]
      simp only [Call.grantsAfter]
      split
      · rfl
      · exact granted
    · rw [show after.row? id = d.row? id from calls.row? id]
      exact fresh
  | clock => exact unchanged trivial ⟨(congrArg Prod.fst calls.answered).symm, guarded⟩
  | @dated listed time old =>
    obtain ⟨rfl, guarded⟩ := guarded
    have isOld : d.store.staleIds (Cleanup.cutoff c.grace moment.time) = old :=
      Except.ok.inj (congrArg Prod.fst calls.answered)
    refine unchanged trivial (guarded.imp_right (Or.imp_right fun fresh member => ?_))
    rw [← isOld, Store.mem_staleIds keyed] at member
    obtain ⟨row, found, old⟩ := member
    rw [show Store.isStale _ row = false from fresh row found] at old
    cases old
  | spared => exact unchanged trivial guarded
  | @ungranted listed old other stored unlisted isOld =>
    refine unchanged trivial ⟨?_, guarded⟩
    rintro rfl
    rcases guarded with granted | granted | recent
    · exact unlisted granted
    · rw [show d.grants? c.topic other = none from calls.grants?_eq] at granted
      cases granted
    · exact recent isOld
  | deleted =>
    obtain ⟨other, guarded⟩ := guarded
    refine ⟨(calls.row? id).trans (if_neg fun same => other same.symm), ?_⟩
    have grants : after.grants? c.topic id = d.grants? c.topic id := calls.grants? c.topic id
    exact guarded.imp_right (Or.imp_left fun granted => grants ▸ granted)

/-- The document is stored from this point on. -/
def Landed : ApplyPoint → Prop
  | .stored _ => True
  | .exposed _ => True
  | .secured _ => True
  | _ => False

/-- Putting a stamped document stores it as it is, and does nothing else to its row. -/
theorem landed_step {point next : ApplyPoint} (stamped : document.isStamped)
    (rule : ApplyRules c.topic (.put owner document) point call answer next)
    (calls : d.Calls moment call answer after) :
    after.row? document.id = d.row? document.id ∧ (Landed next → Landed point) ∨
      after.row? document.id = some (.ofDocument document) := by
  cases rule with
  | report => exact .inl ⟨calls.row? _, fun landed => landed⟩
  | stored => exact .inr ((calls.row? _).trans (if_pos rfl))
  | @storedNow _ _ time =>
    rw [Document.stampIfUnset_of_stamped stamped] at calls
    exact .inr ((calls.row? _).trans (if_pos rfl))
  | exposed => exact .inl ⟨calls.row? _, fun _ => trivial⟩
  | secured => exact .inl ⟨calls.row? _, fun _ => trivial⟩
  | reseeded => exact .inl ⟨calls.row? _, fun _ => trivial⟩
  | _ => exact .inl ⟨calls.row? _, False.elim⟩

/-- Putting a document takes no grants away. -/
theorem granted_step {topic : String} {point next : ApplyPoint}
    (rule : ApplyRules topic (.put owner document) point call answer next) (calls : d.Calls moment call answer after)
    (granted : (d.grants? topic id).isSome) : (after.grants? topic id).isSome := by
  rw [calls.grants?]
  cases rule with
  | seeded => exact Call.isSome_grantsAfter_set granted
  | reseeded => exact Call.isSome_grantsAfter_set granted
  | _ => exact granted

/-- What the grants are while the document is put, if no pass removes them. Those that were there at first are never
    missed, and after the first look at them none are missing. -/
def Granted (known : Prop) (topic id : String) (d : Depot) : ApplyPoint → Prop
  | .begun => known → (d.grants? topic id).isSome
  | .bare => ¬ known
  | .exposed _ => False
  | _ => (d.grants? topic id).isSome

theorem Granted.mono {known : Prop} {topic id : String} {d after : Depot} {point : ApplyPoint}
    (granted : Granted known topic id d point)
    (stays : (d.grants? topic id).isSome → (after.grants? topic id).isSome) : Granted known topic id after point := by
  cases point with
  | begun => exact fun isKnown => stays (granted isKnown)
  | bare => exact granted
  | exposed stored => exact granted
  | _ => exact stays granted

/-- The consumer sets the grants at first only if there were none, and not after it has stored the document. -/
theorem granted_rule {known : Prop} {topic : String} {point next : ApplyPoint}
    (rule : ApplyRules topic (.put owner document) point call answer next) (calls : d.Calls moment call answer after)
    (granted : Granted known topic document.id d point) :
    Granted known topic document.id after next ∧
      (after.grants? topic document.id = d.grants? topic document.id ∨ ¬ known ∧ ¬ Landed point) := by
  have same : (∀ grants, call.grantsAfter topic document.id grants = grants) →
      Granted known topic document.id d next →
      Granted known topic document.id after next ∧
        (after.grants? topic document.id = d.grants? topic document.id ∨ ¬ known ∧ ¬ Landed point) := by
    intro unchanged granted
    have grants : after.grants? topic document.id = d.grants? topic document.id :=
      (calls.grants? _ _).trans (unchanged _)
    exact ⟨granted.mono fun isGranted => grants ▸ isGranted, .inl grants⟩
  have missing : d.grants? topic document.id = none → ¬ (d.grants? topic document.id).isSome := by
    intro none
    rw [none]
    exact Bool.false_ne_true
  cases rule with
  | report => exact same (fun _ => rfl) granted
  | missing => exact same (fun _ => rfl) fun isKnown => missing calls.grants?_eq (granted isKnown)
  | present => exact same (fun _ => rfl) (Option.isSome_of_eq_some calls.grants?_eq)
  | seeded =>
    have given : after.grants? topic document.id = some (.forOwner owner) :=
      (calls.grants? _ _).trans (if_pos ⟨rfl, rfl⟩)
    exact ⟨Option.isSome_of_eq_some given, .inr ⟨granted, not_false⟩⟩
  | clock => exact same (fun _ => rfl) granted
  | stored => exact same (fun _ => rfl) granted
  | storedNow => exact same (fun _ => rfl) granted
  | exposed => exact (missing calls.grants?_eq granted).elim
  | secured => exact same (fun _ => rfl) granted
  | reseeded => exact granted.elim

end

/-! ### Runs in which the document is safe -/

/-- The document is stored once it is put, and the pass will not remove it. -/
structure Guarding (c : Cleanup) (moment : Moment) (owner : String) (document : Document) (s : Race) : Prop where
  keyed : s.depot.store.table.Keyed
  applying : ∃ point, s.applying.Follows (ApplyRules c.topic (.put owner document))
      (fun _ => ApplyPoint.Finished (.put owner document)) point ∧
    (Landed point → s.depot.row? document.id = some (.ofDocument document))
  passing : ∃ point, s.passing.Follows (PassRules c) (fun _ => PassPoint.Finished) point ∧
    Guarded c moment document.id s.depot point

theorem guarding_act {side : Side} (stamped : document.isStamped)
    (fresh : stale c moment (.ofDocument document) = false) (guarding : s.Guarding c moment owner document)
    (moved : act moment side s = some t) :
    t.Guarding c moment owner document := by
  obtain ⟨keyed, ⟨applyPoint, applies, landed⟩, passPoint, passes, guarded⟩ := guarding
  cases side with
  | consumer =>
    obtain ⟨⟨rest, after⟩, advanced, rfl⟩ := Option.map_eq_some_iff.mp moved
    obtain ⟨call, answer, next, rule, onward, calls⟩ := Program.follows_advance applies advanced
    have stored := landed_step stamped rule calls
    refine ⟨calls.keyed keyed, ⟨next, onward, fun landedNext => ?_⟩, passPoint, passes,
      guarded.mono (granted_step rule calls) ?_⟩
    · rcases stored with ⟨same, before⟩ | isDocument
      · exact same.trans (landed (before landedNext))
      · exact isDocument
    · rcases stored with ⟨same, _⟩ | isDocument
      · rw [same]
        exact fun recent => recent
      · intro _ row found
        rw [← Option.some.inj (isDocument.symm.trans found)]
        exact fresh
  | pass =>
    obtain ⟨⟨rest, after⟩, advanced, rfl⟩ := Option.map_eq_some_iff.mp moved
    obtain ⟨call, answer, next, rule, onward, calls⟩ := Program.follows_advance passes advanced
    obtain ⟨row, still⟩ := guarded_step keyed rule calls guarded
    exact ⟨calls.keyed keyed, ⟨applyPoint, applies, fun now => row.trans (landed now)⟩, next, onward, still⟩

theorem survives_of_safe {d : Depot} (keyed : d.store.table.Keyed) (stamped : document.isStamped)
    (fresh : stale c moment (.ofDocument document) = false) (safe : Safe c moment document.id d) {sides : List Side}
    (played : play (act moment) sides (start c owner document d) = some s) (finished : s.finished) :
    s.depot.row? document.id = some (.ofDocument document) := by
  have begun : Guarding c moment owner document (start c owner document d) :=
    ⟨keyed, ⟨.begun, Control.apply_follows c.topic _, False.elim⟩, .listing ∅, c.pass_follows, safe⟩
  obtain ⟨_, ⟨point, applies, landed⟩, _⟩ := play_keeps (fun _ _ _ => guarding_act stamped fresh) begun played
  obtain ⟨result, done⟩ := Program.ended_iff.mp (Bool.and_eq_true_iff.mp finished).1
  rw [done] at applies
  cases result with
  | error problem => exact applies.elim
  | ok outcome =>
    cases point with
    | secured stored => exact landed trivial
    | _ => exact applies.elim

/-! ### A run in which the document is lost -/

section
variable {ε α β : Type} {topic id : String} {d : Depot}

/-- The next call removes the document, and without it the activity comes to its end alone. -/
def Condemned (moment : Moment) (id : String) (p : Program ε α) : Prop :=
  ∃ next, p = .ask (.store (.delete id)) next ∧
    ∀ held d, d.row? id = none → (next (.ok held)).Completes moment (fun _ e => e.row? id = none) d

theorem condemned_bind {p : Program ε α} {f : α → Program ε β} (condemned : Condemned moment id p)
    (rest : ∀ value e, e.row? id = none → (f value).Completes moment (fun _ e => e.row? id = none) e) :
    Condemned moment id (p >>= f) := by
  obtain ⟨next, rfl, onward⟩ := condemned
  exact ⟨_, rfl, fun held d gone => Program.completes_bind (onward held d gone) rest⟩

/-- The goal of a run that goes wrong: a pass is about to remove the document. -/
def AtTheBrink (moment : Moment) (topic id : String) (p : Program ε α) (d : Depot) : Prop :=
  Condemned moment id p ∧ d.Serves topic

theorem removeDocuments_condemned {ids : List String} (member : id ∈ ids) (serves : d.Serves topic)
    (ungranted : d.grants? topic id = none) (removed : Nat) :
    (Cleanup.removeDocuments topic ids removed).Reaches moment (AtTheBrink moment topic id) d := by
  induction ids generalizing d removed with
  | nil => cases member
  | cons head more ih =>
    by_cases here : head = id
    · subst here
      apply Program.reaches_bind (G := AtTheBrink moment topic head)
      · apply Program.reaches_after (Q := fun found e => e = d ∧ found = none)
        · exact Program.completes_authority rfl ⟨rfl, ungranted⟩
        rintro _ _ ⟨rfl, rfl⟩
        exact ⟨_, _, .still, ⟨_, rfl, fun held d gone => gone⟩, serves⟩
      rintro q e ⟨condemned, servesStill⟩
      refine ⟨condemned_bind condemned fun wasRemoved e gone => ?_, servesStill⟩
      have onward : ∀ removed, (Cleanup.removeDocuments topic more removed).Completes moment
          (fun _ f => f.row? head = none) e := by
        intro removed
        refine Program.completes_mono (Cleanup.removeDocuments_completes more removed) fun _ f kept => ?_
        rcases kept.2 head with same | ⟨_, removed⟩
        · exact same.trans gone
        · exact removed
      cases wasRemoved with
      | false => exact onward removed
      | true => exact onward (removed + 1)
    · have later : id ∈ more := (List.mem_cons.mp member).resolve_left fun same => here same.symm
      apply Program.reaches_after (Cleanup.removeDocument_completes head)
      rintro wasRemoved e ⟨-, became⟩
      have still : e.Serves topic ∧ e.grants? topic id = none := by
        rw [became]
        split
        · exact ⟨serves, ungranted⟩
        · exact ⟨⟨serves.registered, serves.keyed.erase head⟩, ungranted⟩
      cases wasRemoved with
      | false => exact ih later still.1 still.2 removed
      | true => exact ih later still.1 still.2 (removed + 1)

/-- A pass that runs alone is about to remove a stale document without grants at some time. -/
theorem pass_condemned (serves : d.Serves c.topic) (ungranted : d.grants? c.topic id = none) {row : Row}
    (found : d.row? id = some row) (old : stale c moment row) :
    c.pass.Reaches moment (AtTheBrink moment c.topic id) d := by
  have stored : id ∈ d.store.allIds := (Store.mem_allIds serves.keyed).mpr (Option.isSome_iff_exists.mpr ⟨row, found⟩)
  have isStale : id ∈ d.store.staleIds (Cleanup.cutoff c.grace moment.time) :=
    (Store.mem_staleIds serves.keyed).mpr ⟨row, found, old⟩
  apply Program.reaches_after
    (Program.completes_mapError (listedIdsFrom_completes serves.registered c.pageSize _ 0 ∅ (by simp)))
  rintro granted d ⟨rfl, listed⟩
  have unlisted : id ∉ granted := by
    intro member
    have some := listed id member
    rw [ungranted] at some
    cases some
  apply Program.reaches_after (Q := fun documents e => e = d ∧ documents = d.store.allIds)
  · exact Program.completes_store rfl ⟨rfl, rfl⟩
  rintro _ d ⟨rfl, rfl⟩
  have absent : ∀ other ∈ Cleanup.without granted d.store.allIds, d.row? other = none := by
    intro other member
    have missing := (Cleanup.mem_without.mp member).2
    rw [Store.mem_allIds serves.keyed] at missing
    exact Option.not_isSome_iff_eq_none.mp missing
  apply Program.reaches_after (Cleanup.removeGrants_completes absent 0)
  rintro permissionsRemoved after ⟨isAfter, -⟩
  have servesAfter : after.Serves c.topic := by
    rw [isAfter]
    refine ⟨?_, serves.keyed⟩
    simpa [Authority.isRegistered] using serves.registered
  have ungrantedAfter : after.grants? c.topic id = none := by
    rw [isAfter, Depot.grants?, Authority.grants?_eraseAll]
    split
    · rfl
    · exact ungranted
  have sameStore : after.store = d.store := by rw [isAfter]
  apply Program.reaches_after (Q := fun time e => e = after ∧ time = moment.time)
  · exact Program.completes_now ⟨rfl, rfl⟩
  rintro _ after ⟨rfl, rfl⟩
  apply Program.reaches_after
    (Q := fun old e => e = after ∧ old = after.store.staleIds (Cleanup.cutoff c.grace moment.time))
  · exact Program.completes_store rfl ⟨rfl, rfl⟩
  rintro _ after ⟨rfl, rfl⟩
  have candidate : id ∈ (Cleanup.without d.store.allIds granted).filter
      (after.store.staleIds (Cleanup.cutoff c.grace moment.time)).contains := by
    rw [sameStore]
    exact List.mem_filter.mpr ⟨Cleanup.mem_without.mpr ⟨stored, unlisted⟩, isStale⟩
  apply Program.reaches_bind (removeDocuments_condemned candidate servesAfter ungrantedAfter 0)
  rintro q e ⟨condemned, serving⟩
  exact ⟨condemned_bind condemned fun _ e gone => gone, serving⟩

end

theorem played_consumer {p q : Program ControlError ApplyOutcome} {d e : Depot} (leads : Program.Leads moment p d q e)
    (passing : Program CleanupError CleanupReport) :
    ∃ sides, play (act moment) sides ⟨d, p, passing⟩ = some ⟨e, q, passing⟩ := by
  induction leads with
  | still => exact ⟨[], rfl⟩
  | call moved _ ih =>
    obtain ⟨sides, played⟩ := ih
    exact ⟨.consumer :: sides, by simp only [play, act, moved, Option.map_some, Option.bind_some, played]⟩

theorem played_pass {p q : Program CleanupError CleanupReport} {d e : Depot} (leads : Program.Leads moment p d q e)
    (applying : Program ControlError ApplyOutcome) :
    ∃ sides, play (act moment) sides ⟨d, applying, p⟩ = some ⟨e, applying, q⟩ := by
  induction leads with
  | still => exact ⟨[], rfl⟩
  | call moved _ ih =>
    obtain ⟨sides, played⟩ := ih
    exact ⟨.pass :: sides, by simp only [play, act, moved, Option.map_some, Option.bind_some, played]⟩

/-- The document is put between the confirmation that it has no grants and its removal. -/
theorem lost_of_exposed {d : Depot} (serves : d.Serves c.topic) (named : Text.allBlank document.id = false)
    (ungranted : d.grants? c.topic document.id = none) {row : Row} (found : d.row? document.id = some row)
    (old : stale c moment row) :
    ∃ sides s, play (act moment) sides (start c owner document d) = some s ∧ s.finished ∧
      s.depot.row? document.id = none := by
  obtain ⟨_, e, confirms, ⟨next, rfl, onward⟩, serving⟩ := pass_condemned serves ungranted found old
  have admitted : e.store.Admits (.put owner document) := Store.admits_of_hasKey serving.keyed.hasKey named
  obtain ⟨outcome, f, applies, _⟩ := Program.leads_of_completes
    (Control.apply_completes serving.registered admitted)
  have removes : (Program.ask (.store (.delete document.id)) next).advance moment f =
      some (next (.ok (f.store.delete document.id).1), { f with store := (f.store.delete document.id).2 }) := rfl
  have gone : Depot.row? { f with store := (f.store.delete document.id).2 } document.id = none := by
    simp [Depot.row?]
  obtain ⟨report, g, ends, goneStill⟩ := Program.leads_of_completes (onward (f.store.delete document.id).1 _ gone)
  obtain ⟨first, playedFirst⟩ := played_pass confirms (Control.apply c.topic (.put owner document))
  obtain ⟨second, playedSecond⟩ := played_consumer applies (.ask (.store (.delete document.id)) next)
  obtain ⟨third, playedThird⟩ := played_pass (.call removes ends) (.done (.ok outcome))
  refine ⟨first ++ (second ++ third), ⟨g, .done (.ok outcome), .done (.ok report)⟩, ?_, rfl, goneStill⟩
  rw [play_append, show play (act moment) first (start c owner document d) = _ from playedFirst, Option.bind_some,
    play_append, playedSecond, Option.bind_some, playedThird]

/-! ### When a document survives -/

/-- A document that is put with a stamp within the grace of a pass is stored at the end of every run,
    whatever the order of the calls, exactly if it had grants at first, or was not stored with an old
    stamp. -/
theorem put_survives_iff {c : Cleanup} {moment : Moment} {owner : String} {document : Document} {d : Depot}
    (registered : d.authority.isRegistered c.topic) (keyed : d.store.table.Keyed)
    (named : Text.allBlank document.id = false) (stamped : document.isStamped)
    (recent : Cleanup.cutoff c.grace moment.time ≤ document.lastUpdated) :
    (∀ sides s, play (act moment) sides (start c owner document d) = some s → s.finished →
        s.depot.row? document.id = some (.ofDocument document)) ↔
      (d.grants? c.topic document.id).isSome ∨
        ∀ row, d.row? document.id = some row →
          row.lastUpdated ≠ 0 ∧ Cleanup.cutoff c.grace moment.time ≤ row.lastUpdated := by
  have fresh : stale c moment (.ofDocument document) = false :=
    stale_eq_false.mpr ⟨by simpa [Document.isStamped, Row.ofDocument] using stamped, recent⟩
  simp only [← stale_eq_false]
  constructor
  · intro survives
    cases granted : d.grants? c.topic document.id with
    | some grants => exact .inl rfl
    | none =>
      refine .inr fun row found => ?_
      cases old : stale c moment row with
      | false => rfl
      | true =>
        obtain ⟨sides, s, played, finished, gone⟩ := lost_of_exposed ⟨registered, keyed⟩ named granted found old
        rw [survives sides s played finished] at gone
        cases gone
  · intro safe sides s played finished
    exact survives_of_safe keyed stamped fresh safe played finished

/-- An old document, with grants or without. -/
def outdated (granted : Bool) : Depot where
  store := ⟨{ Table.empty with rows := .keyed ((∅ : Dict Row).insert "p" { id := "p", lastUpdated := 1 }) }⟩
  authority :=
    let a := ({} : Authority).register (.ofTopic "t")
    if granted then a.setGrants "t" "p" (.forOwner "bob") else a
  log := .new 1

/-- A new version of it. -/
def renewed : Document := { id := "p", name := "new", lastUpdated := 100 }

def sweep : Cleanup := { topic := "t" }

def sweepTime : Moment := ⟨100, "x"⟩

theorem put_survives_iff_granted :
    ((outdated true).authority.isRegistered sweep.topic ∧ (outdated true).store.table.Keyed ∧
        Text.allBlank renewed.id = false ∧ renewed.isStamped ∧
        Cleanup.cutoff sweep.grace sweepTime.time ≤ renewed.lastUpdated) ∧
      ∀ sides s, play (act sweepTime) sides (start sweep "ann" renewed (outdated true)) = some s → s.finished →
        s.depot.row? renewed.id = some (.ofDocument renewed) := by
  have registered : (outdated true).authority.isRegistered sweep.topic := by decide
  have keyed : (outdated true).store.table.Keyed := by
    refine ⟨_, rfl, fun id row found => ?_⟩
    rw [Std.ExtTreeMap.getElem?_insert] at found
    split at found
    · rename_i same
      rw [← Option.some.inj found]
      exact Std.compare_eq_iff_eq.mp same
    · simp at found
  have named : Text.allBlank renewed.id = false := by decide
  have stamped : renewed.isStamped := by decide
  have recent : Cleanup.cutoff sweep.grace sweepTime.time ≤ renewed.lastUpdated := by decide
  have granted : ((outdated true).grants? sweep.topic renewed.id).isSome := by decide
  exact ⟨⟨registered, keyed, named, stamped, recent⟩,
    (put_survives_iff registered keyed named stamped recent).mpr (.inl granted)⟩

/-- A pass has just confirmed that the old version has no grants when the new one is put. -/
theorem put_lost :
    Cleanup.cutoff sweep.grace sweepTime.time ≤ renewed.lastUpdated ∧
      ∃ s, play (act sweepTime) (List.replicate 5 .pass ++ List.replicate 5 .consumer ++ [.pass])
          (start sweep "ann" renewed (outdated false)) = some s ∧
        s.finished ∧ s.depot.row? renewed.id = none := by
  refine ⟨by decide, ?_⟩
  have played : (play (act sweepTime) (List.replicate 5 .pass ++ List.replicate 5 .consumer ++ [.pass])
      (start sweep "ann" renewed (outdated false))).any
        (fun s => s.finished && (s.depot.row? renewed.id).isNone) := by decide
  obtain ⟨s, reached, holds⟩ := (Option.any_eq_true _ _).mp played
  obtain ⟨finished, gone⟩ := Bool.and_eq_true_iff.mp holds
  exact ⟨s, reached, finished, Option.isNone_iff_eq_none.mp gone⟩

end Race
end ModelDepot
