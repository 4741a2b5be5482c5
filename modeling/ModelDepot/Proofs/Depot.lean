import ModelDepot.Program
import ModelDepot.Proofs.StoreRows

/-!
The surroundings that activities share: the documents, the grants and the log. Every call is one
atomic step of them. A call that succeeds changes at most the row or the grants of one resource.
-/
namespace ModelDepot

namespace Call

/-- The call did what it was asked for. -/
def succeeded : (call : Call) → call.Answer → Bool
  | .authority _, answer => answer.isOk
  | .store _, answer => answer.isOk
  | .append .., answer => answer.isOk
  | .now, _ => true
  | .freshId, _ => true
  | .report _, _ => true

/-- The row under an id after the call, which had been `row`. -/
def rowAfter (id : String) (row : Option Row) : Call → Option Row
  | .store (.upsert doc) => if id = doc.id then some (.ofDocument doc) else row
  | .store (.delete other) => if id = other then none else row
  | _ => row

/-- The grants of a resource after the call, which had been `grants`. -/
def grantsAfter (topic id : String) (grants : Option Grants) : Call → Option Grants
  | .authority (.setPermission t i given) => if topic = t ∧ id = i then some given else grants
  | .authority (.removeResource t i) => if topic = t ∧ id = i then none else grants
  | _ => grants

/-- A record is appended to the log. -/
def publishes : Call → Bool
  | .append .. => true
  | _ => false

/-- The call changes neither documents nor grants. -/
def Harmless : Call → Prop
  | .store (.upsert _) => False
  | .store (.delete _) => False
  | .authority (.setPermission ..) => False
  | .authority (.removeResource ..) => False
  | _ => True

theorem rowAfter_harmless {call : Call} (harmless : call.Harmless) (id : String) (row : Option Row) :
    call.rowAfter id row = row := by
  unfold rowAfter
  split
  · exact harmless.elim
  · exact harmless.elim
  · rfl

theorem grantsAfter_harmless {call : Call} (harmless : call.Harmless) (topic id : String) (grants : Option Grants) :
    call.grantsAfter topic id grants = grants := by
  unfold grantsAfter
  split
  · exact harmless.elim
  · exact harmless.elim
  · rfl

/-- Where grants are set, none are taken away. -/
theorem isSome_grantsAfter_set {topic id t i : String} {given : Grants} {grants : Option Grants}
    (granted : grants.isSome) : (grantsAfter topic id grants (.authority (.setPermission t i given))).isSome := by
  simp only [grantsAfter]
  split
  · rfl
  · exact granted

end Call

/-- What a call may find that does not depend on what was done before. -/
structure Moment where
  time : Int64
  freshId : String

structure Depot where
  store : Store
  authority : Authority
  log : Log

namespace Depot

def row? (d : Depot) (id : String) : Option Row := d.store.table.find? id

def grants? (d : Depot) (topic id : String) : Option Grants := d.authority.grants? topic id

/-- The answer to a call, and the surroundings after it. -/
def answer (moment : Moment) : (call : Call) → Depot → call.Answer × Depot
  | .authority call, d =>
    ((d.authority.respond call).1, { d with authority := (d.authority.respond call).2 })
  | .store call, d => ((d.store.respond call).1, { d with store := (d.store.respond call).2 })
  | .append topic key value, d =>
    match d.log.append topic key value with
    | .ok (place, log) => (.ok place, { d with log := log })
    | .error problem => (.error problem, d)
  | .now, d => (moment.time, d)
  | .freshId, d => (moment.freshId, d)
  | .report _, d => ((), d)

/-- The call succeeds with this answer, and leaves the surroundings like this. -/
structure Calls (moment : Moment) (d : Depot) (call : Call) (answer : call.Answer) (after : Depot) : Prop where
  answered : d.answer moment call = (answer, after)
  succeeded : call.succeeded answer

variable {moment : Moment} {call : Call} {answer : call.Answer} {d after : Depot}

theorem Calls.row? (calls : d.Calls moment call answer after) (id : String) :
    after.row? id = call.rowAfter id (d.row? id) := by
  obtain ⟨answered, succeeded⟩ := calls
  obtain ⟨rfl, rfl⟩ := Prod.mk.inj answered
  cases call with
  | store call =>
    cases call with
    | upsert doc =>
      cases done : d.store.upsert doc with
      | error problem =>
        simp [Store.respond, done, Call.succeeded, Except.isOk, Except.toBool] at succeeded
      | ok after =>
        simp only [Store.respond, done]
        exact Store.find?_upsert done id
    | delete other => exact Table.find?_erase d.store.table other id
    | get other => rfl
    | list options => rfl
    | listPublished => rfl
    | allIds => rfl
    | staleIds cutoff => rfl
  | append topic key value =>
    dsimp only
    split <;> rfl
  | authority call => rfl
  | now => rfl
  | freshId => rfl
  | report event => rfl

theorem Calls.grants? (calls : d.Calls moment call answer after) (topic id : String) :
    after.grants? topic id = call.grantsAfter topic id (d.grants? topic id) := by
  obtain ⟨answered, succeeded⟩ := calls
  obtain ⟨rfl, rfl⟩ := Prod.mk.inj answered
  cases call with
  | authority call =>
    cases call with
    | setPermission t i given =>
      cases known : d.authority.isRegistered t with
      | false => simp [Authority.respond, known, Call.succeeded, Except.isOk, Except.toBool] at succeeded
      | true =>
        simp only [Authority.respond, known, ↓reduceIte]
        exact Authority.grants?_setGrants d.authority t i given topic id
    | removeResource t i => exact Authority.grants?_eraseGrants d.authority t i topic id
    | adminList t page =>
      simp only [Authority.respond]
      split <;> rfl
    | setTopic registration => rfl
    | check caller t i permission => rfl
    | checkMany caller t ids permission => rfl
    | accessible caller t page permission => rfl
    | getResource t i => rfl
  | append t key value =>
    dsimp only
    split <;> rfl
  | store call => rfl
  | now => rfl
  | freshId => rfl
  | report event => rfl

theorem Calls.keyed (calls : d.Calls moment call answer after) (keyed : d.store.table.Keyed) :
    after.store.table.Keyed := by
  obtain ⟨rfl, rfl⟩ := Prod.mk.inj calls.answered
  cases call with
  | store call =>
    cases call with
    | upsert doc =>
      simp only [Store.respond]
      split
      · rename_i changed done
        exact Store.keyed_upsert keyed done
      · exact keyed
    | delete other => exact keyed.erase other
    | get other => exact keyed
    | list options => exact keyed
    | listPublished => exact keyed
    | allIds => exact keyed
    | staleIds cutoff => exact keyed
  | append topic key value =>
    dsimp only
    split <;> exact keyed
  | authority call => exact keyed
  | now => exact keyed
  | freshId => exact keyed
  | report event => exact keyed

/-- A record is appended by an append only. -/
theorem Calls.log_eq (calls : d.Calls moment call answer after)
    (quiet : call.publishes = false) : after.log = d.log := by
  obtain ⟨rfl, rfl⟩ := Prod.mk.inj calls.answered
  cases call with
  | append topic key value => cases quiet
  | _ => rfl

theorem Calls.appended {topic : String} {key value : List UInt8} {place : Nat × Nat}
    (calls : d.Calls moment (.append topic key value) (.ok place) after) :
    ∃ log, d.log.append topic key value = .ok (place, log) ∧ after = { d with log := log } := by
  have answered := calls.answered
  simp only [Depot.answer] at answered
  split at answered
  · rename_i other log appends
    obtain ⟨same, isAfter⟩ := Prod.mk.inj answered
    cases same
    exact ⟨log, appends, isAfter.symm⟩
  · cases (Prod.mk.inj answered).1

theorem Calls.isSome_row? {id : String} {found : Option Document}
    (calls : d.Calls moment (.store (.get id)) (.ok found) after) : (d.row? id).isSome = found.isSome :=
  (Store.isSome_of_get (congrArg Prod.fst calls.answered)).symm

theorem Calls.grants?_eq {topic id : String} {found : Option Grants}
    (calls : d.Calls moment (.authority (.getResource topic id)) (.ok found) after) : d.grants? topic id = found :=
  Except.ok.inj (congrArg Prod.fst calls.answered)

end Depot

namespace Program
variable {ε α β : Type}

theorem bind_eq (p : Program ε α) (f : α → Program ε β) : p >>= f = p.bind f := rfl

theorem run_bind {σ : Type} (answer : (call : Call) → σ → call.Answer × σ) (p : Program ε α)
    (f : α → Program ε β) (s : σ) :
    (p >>= f).run answer s =
      match (p.run answer s).1 with
      | .ok value => (f value).run answer (p.run answer s).2
      | .error problem => (.error problem, (p.run answer s).2) := by
  rw [bind_eq]
  induction p generalizing s with
  | done result => cases result <;> rfl
  | ask call next ih => exact ih _ _

def ended : Program ε α → Bool
  | .done _ => true
  | .ask .. => false

theorem ended_iff {p : Program ε α} : p.ended ↔ ∃ result, p = .done result := by
  cases p with
  | done result => exact ⟨fun _ => ⟨result, rfl⟩, fun _ => rfl⟩
  | ask call next => exact ⟨nofun, nofun⟩

/-- The next call of an activity, if it succeeds: what is left of the activity, and the surroundings
    after the call. -/
def advance (moment : Moment) : Program ε α → Depot → Option (Program ε α × Depot)
  | .done _, _ => none
  | .ask call next, d =>
    if call.succeeded (d.answer moment call).1 then
      some (next (d.answer moment call).1, (d.answer moment call).2)
    else none

theorem advance_eq_some {moment : Moment} {p q : Program ε α} {d after : Depot} :
    p.advance moment d = some (q, after) ↔
      ∃ call next answer, p = .ask call next ∧ q = next answer ∧ d.Calls moment call answer after := by
  constructor
  · intro moved
    cases p with
    | done result => cases moved
    | ask call next =>
      simp only [advance] at moved
      split at moved
      · rename_i fine
        obtain ⟨rfl, rfl⟩ := Prod.mk.inj (Option.some.inj moved)
        exact ⟨call, next, _, rfl, rfl, rfl, fine⟩
      · cases moved
  · rintro ⟨call, next, answer, rfl, rfl, answered, succeeded⟩
    simp only [advance, answered, succeeded, ↓reduceIte]

end Program
end ModelDepot
