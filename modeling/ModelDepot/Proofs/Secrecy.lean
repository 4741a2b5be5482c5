import ModelDepot.Proofs.Listings
import ModelDepot.Proofs.Requests

/-!
What callers cannot find out. A request looks only at documents that its caller is cleared for, so it runs
alike on stores that hold the same ones among these. Main statement: `unpermitted_hidden`.
-/
namespace ModelDepot

/-- Both stores have the same answer to the call, which changes neither. -/
def Call.Alike (s t : Store) : Call → Prop
  | .store call => ∃ answer, s.respond call = (answer, s) ∧ t.respond call = (answer, t)
  | _ => True

/-- On the second store a call goes as on the first one. -/
theorem Depot.answerAmid_alike {mishaps : Nat → Option Mishap} {moment : Moment} {s t : Store} {call : Call}
    (alike : call.Alike s t) (number : Nat) (d : Depot) :
    ∃ (answer : call.Answer) (after : Depot),
      answerAmid mishaps moment call (number, { d with store := s }) =
          (answer, number + 1, { after with store := s }) ∧
        answerAmid mishaps moment call (number, { d with store := t }) =
          (answer, number + 1, { after with store := t }) := by
  unfold answerAmid
  dsimp only
  cases (mishaps number).bind (·.answer? call) with
  | some answer => exact ⟨answer, d, rfl, rfl⟩
  | none =>
    cases call with
    | store call =>
      obtain ⟨answer, first, second⟩ := alike
      refine ⟨answer, d, ?_, ?_⟩
      · simp only [Depot.answer, first]
      · simp only [Depot.answer, second]
    | append topic key value =>
      simp only [Depot.answer]
      cases d.log.append topic key value with
      | ok placed => exact ⟨.ok placed.1, { d with log := placed.2 }, rfl, rfl⟩
      | error problem => exact ⟨.error problem, d, rfl, rfl⟩
    | authority call =>
      exact ⟨_, { d with authority := (d.authority.respond call).2 }, rfl, rfl⟩
    | _ => exact ⟨_, d, rfl, rfl⟩

namespace Program
variable {ε α : Type} {moment : Moment} {s t : Store} {d : Depot} {p : Program ε α}

/-- On both stores the activity has the same result and the same effects, which leave the stores as they are. -/
def RunsAlike (s t : Store) (mishaps : Nat → Option Mishap) (moment : Moment) (p : Program ε α) (d : Depot) : Prop :=
  ∃ (result : Except ε α) (after : Depot),
    p.runAmid mishaps moment { d with store := s } = (result, { after with store := s }) ∧
      p.runAmid mishaps moment { d with store := t } = (result, { after with store := t })

theorem run_alike {ending : Except ε α → Depot → Prop} {d : Depot}
    (ensures : p.Ensures moment (Call.Alike s t) ending { d with store := s }) (mishaps : Nat → Option Mishap)
    (number : Nat) :
    ∃ (result : Except ε α) (later : Nat) (after : Depot),
      p.run (Depot.answerAmid mishaps moment) (number, { d with store := s }) =
          (result, later, { after with store := s }) ∧
        p.run (Depot.answerAmid mishaps moment) (number, { d with store := t }) =
          (result, later, { after with store := t }) := by
  induction p generalizing d number with
  | done result => exact ⟨result, number, d, rfl, rfl⟩
  | ask call next ih =>
    obtain ⟨answer, after, first, second⟩ := Depot.answerAmid_alike ensures.1 number d
    unfold run
    rw [first, second]
    have may := Depot.may_answerAmid mishaps moment call number { d with store := s }
    rw [first] at may
    exact ih answer (ensures.2 answer { after with store := s } may) (number + 1)

theorem runsAlike_of_ensures {ending : Except ε α → Depot → Prop}
    (ensures : p.Ensures moment (Call.Alike s t) ending { d with store := s }) (mishaps : Nat → Option Mishap) :
    p.RunsAlike s t mishaps moment d := by
  obtain ⟨result, later, after, first, second⟩ := run_alike ensures mishaps 0
  refine ⟨result, after, ?_, ?_⟩
  · simp only [runAmid, first]
  · simp only [runAmid, second]

end Program
namespace Control
variable {mishaps : Nat → Option Mishap} {moment : Moment} {s t : Store} {d : Depot} {channel : Channel}
  {caller : Caller} {topic : String} {permission : Permission}

/-- Where both stores hold the same rows under every permitted id, they answer discreet calls alike. -/
theorem alike_of_discreet (ordinary : caller.isAdmin = false) (coherent : s.table.Coherent)
    (coherentToo : t.table.Coherent)
    (same : ∀ id, d.authority.permits caller topic id permission → s.table.under id = t.table.under id) {call : Call}
    (discreet : call.Discreet d.authority caller topic permission) : call.Alike s t := by
  have unable : ¬ caller.isAdmin := Bool.eq_false_iff.mp ordinary
  cases call with
  | store call =>
    cases call with
    | get id =>
      have permitted := Authority.permits_iff_clears.mpr ⟨discreet, fun isAdmin => absurd isAdmin unable⟩
      have found : s.table.find? id = t.table.find? id := by
        rw [coherent.find?_eq, coherentToo.find?_eq, same id permitted]
      refine ⟨s.get id, rfl, ?_⟩
      rw [Store.respond, Store.get, ← found]
      rfl
    | list options =>
      obtain ⟨ids, named, permitted⟩ := discreet.resolve_left unable
      refine ⟨s.list options, rfl, ?_⟩
      rw [Store.list_eq_of_alike named fun id member => same id (permitted id member)]
      rfl
    | _ => exact discreet.elim
  | _ => trivial

/-- To a caller who is no administrator it makes no difference, in answers, failures and published
    commands, what is stored under ids on which the caller does not have the permission. -/
theorem unpermitted_hidden (ordinary : caller.isAdmin = false) (coherent : s.table.Coherent)
    (coherentToo : t.table.Coherent)
    (same : ∀ id, d.authority.permits caller channel.topic id permission → s.table.under id = t.table.under id) :
    (∀ id, (read channel.topic caller id permission).RunsAlike s t mishaps moment d) ∧
      (∀ options, (list channel.topic caller options permission).RunsAlike s t mishaps moment d) ∧
      (permission = .write → ∀ id,
        (∀ document, (update channel caller id document).RunsAlike s t mishaps moment d) ∧
          ∀ change, (changePublication channel caller id change).RunsAlike s t mishaps moment d) := by
  have alike : ∀ call : Call, call.Discreet d.authority caller channel.topic permission → call.Alike s t :=
    fun call discreet => alike_of_discreet ordinary coherent coherentToo same discreet
  have runsAlike : ∀ {α : Type} {p : Program ControlError α} {ending : Except ControlError α → Depot → Prop},
      p.Ensures moment (Call.Discreet d.authority caller channel.topic permission) ending { d with store := s } →
      p.RunsAlike s t mishaps moment d := fun ensures =>
    Program.runsAlike_of_ensures (Program.ensures_mono ensures alike fun _ _ ended => ended) mishaps
  refine ⟨fun id => runsAlike (read_ensures (d := { d with store := s })), fun options => ?_, ?_⟩
  · exact runsAlike (list_ensures (d := { d with store := s }) options)
  · rintro rfl id
    refine ⟨fun document => ?_, fun change => ?_⟩
    · exact runsAlike (update_ensures (d := { d with store := s }) document)
    · exact runsAlike (changePublication_ensures (d := { d with store := s }) change)

/-- The shelf with a document of somebody else. -/
def fullerShelf : Store := ⟨{ Table.empty with
  rows := .keyed (((∅ : Dict Row).insert "mine" { id := "mine", name := "Mine" }).insert "theirs"
    { id := "theirs", name := "Theirs" }) }⟩

theorem unpermitted_hidden_theirs :
    (ann.isAdmin = false ∧ shelved.store.table.Coherent ∧ fullerShelf.table.Coherent ∧
        ∀ id, shelved.authority.permits ann board.topic id .write →
          shelved.store.table.under id = fullerShelf.table.under id) ∧
      (∀ id, (read board.topic ann id .write).RunsAlike shelved.store fullerShelf (fun _ => none) ⟨1, "x"⟩ shelved) ∧
      (∀ options,
        (list board.topic ann options .write).RunsAlike shelved.store fullerShelf (fun _ => none) ⟨1, "x"⟩ shelved) ∧
      (Permission.write = .write → ∀ id,
        (∀ document,
          (update board ann id document).RunsAlike shelved.store fullerShelf (fun _ => none) ⟨1, "x"⟩ shelved) ∧
        ∀ change, (changePublication board ann id change).RunsAlike shelved.store fullerShelf (fun _ => none) ⟨1, "x"⟩
          shelved) := by
  have ordinary : ann.isAdmin = false := by decide
  have coherent : shelved.store.table.Coherent := Table.Distinct.coherent (by decide)
  have coherentToo : fullerShelf.table.Coherent := Table.Distinct.coherent (by decide)
  have same : ∀ id, shelved.authority.permits ann board.topic id .write →
      shelved.store.table.under id = fullerShelf.table.under id := by
    intro id permitted
    obtain rfl := shelved_permits permitted
    decide
  exact ⟨⟨ordinary, coherent, coherentToo, same⟩, unpermitted_hidden ordinary coherent coherentToo same⟩

/-- Whether there is such a document is not to be seen. -/
example : ((read board.topic ann "theirs" .write).runAmid (fun _ => none) ⟨1, "x"⟩
    { shelved with store := fullerShelf }).1 = .error .forbidden := by
  decide

end Control
end ModelDepot
