import ModelDepot.Proofs.Depot
import ModelDepot.Proofs.Play

/-!
Activities that run alone for a while, with calls that all succeed. Where an activity leads is put
together from where its parts lead.
-/
namespace ModelDepot.Program
variable {ε δ α β : Type} {moment : Moment}

/-- Some calls of an activity lead to what is left of it. -/
inductive Leads (moment : Moment) : Program ε α → Depot → Program ε α → Depot → Prop
  | still {p : Program ε α} {d : Depot} : Leads moment p d p d
  | call {p q r : Program ε α} {d e f : Depot} (moved : p.advance moment d = some (q, e))
    (onward : Leads moment q e r f) : Leads moment p d r f

/-- Alone, the activity comes to its end, with a value. -/
def Completes (moment : Moment) (ending : α → Depot → Prop) : Program ε α → Depot → Prop
  | .done (.ok value), d => ending value d
  | .done (.error _), _ => False
  | .ask call next, d =>
    call.succeeded (d.answer moment call).1 ∧
      (next (d.answer moment call).1).Completes moment ending (d.answer moment call).2

/-- Alone, the activity comes to a point where something holds of the rest of it. -/
def Reaches (moment : Moment) (goal : Program ε α → Depot → Prop) (p : Program ε α) (d : Depot) : Prop :=
  ∃ q e, Leads moment p d q e ∧ goal q e

theorem leads_trans {p q r : Program ε α} {d e f : Depot} (first : Leads moment p d q e) (rest : Leads moment q e r f) :
    Leads moment p d r f := by
  induction first with
  | still => exact rest
  | call moved _ ih => exact .call moved (ih rest)

theorem leads_bind {p q : Program ε α} {d e : Depot} (leads : Leads moment p d q e) (f : α → Program ε β) :
    Leads moment (p.bind f) d (q.bind f) e := by
  induction leads with
  | still => exact .still
  | @call p q r d e _ moved _ ih =>
    obtain ⟨call, next, answer, rfl, rfl, calls⟩ := advance_eq_some.mp moved
    exact .call (advance_eq_some.mpr ⟨call, _, answer, rfl, rfl, calls⟩) ih

theorem leads_of_completes {ending : α → Depot → Prop} {p : Program ε α} {d : Depot}
    (completes : p.Completes moment ending d) : ∃ value e, Leads moment p d (.done (.ok value)) e ∧ ending value e := by
  induction p generalizing d with
  | done result =>
    cases result with
    | ok value => exact ⟨value, d, .still, completes⟩
    | error problem => exact completes.elim
  | ask call next ih =>
    obtain ⟨fine, rest⟩ := completes
    obtain ⟨value, e, leads, ended⟩ := ih _ rest
    exact ⟨value, e, .call (advance_eq_some.mpr ⟨call, next, _, rfl, rfl, rfl, fine⟩) leads, ended⟩

theorem run_of_completes {ending : α → Depot → Prop} {p : Program ε α} {d : Depot}
    (completes : p.Completes moment ending d) :
    ∃ value e, p.run (Depot.answer moment) d = (.ok value, e) ∧ ending value e := by
  induction p generalizing d with
  | done result =>
    cases result with
    | ok value => exact ⟨value, d, rfl, completes⟩
    | error problem => exact completes.elim
  | ask call next ih => exact ih _ completes.2

theorem completes_mono {P Q : α → Depot → Prop} {p : Program ε α} {d : Depot} (completes : p.Completes moment P d)
    (weaker : ∀ value e, P value e → Q value e) : p.Completes moment Q d := by
  induction p generalizing d with
  | done result =>
    cases result with
    | ok value => exact weaker value d completes
    | error problem => exact completes.elim
  | ask call next ih => exact ⟨completes.1, ih _ completes.2⟩

theorem completes_bind {Q : α → Depot → Prop} {ending : β → Depot → Prop} {p : Program ε α} {f : α → Program ε β}
    {d : Depot} (first : p.Completes moment Q d) (rest : ∀ value e, Q value e → (f value).Completes moment ending e) :
    (p >>= f).Completes moment ending d := by
  rw [bind_eq]
  induction p generalizing d with
  | done result =>
    cases result with
    | ok value => exact rest value d first
    | error problem => exact first.elim
  | ask call next ih => exact ⟨first.1, ih _ first.2⟩

theorem completes_mapError {ending : α → Depot → Prop} {f : δ → ε} {p : Program δ α} {d : Depot}
    (completes : p.Completes moment ending d) : (p.mapError f).Completes moment ending d := by
  induction p generalizing d with
  | done result =>
    cases result with
    | ok value => exact completes
    | error problem => exact completes.elim
  | ask call next ih => exact ⟨completes.1, ih _ completes.2⟩

theorem completes_authority {f : AuthorityError → ε} {call : AuthorityCall} {ending : call.Value → Depot → Prop}
    {d : Depot} {v : call.Value} {a : Authority} (answered : d.authority.respond call = (.ok v, a))
    (ended : ending v { d with authority := a }) : (authority f call).Completes moment ending d := by
  refine ⟨?_, ?_⟩
  · simp only [Depot.answer, answered]
    rfl
  · simp only [Depot.answer, answered]
    exact ended

theorem completes_store {f : StoreError → ε} {call : StoreCall} {ending : call.Value → Depot → Prop}
    {d : Depot} {v : call.Value} {s : Store} (answered : d.store.respond call = (.ok v, s))
    (ended : ending v { d with store := s }) : (store f call).Completes moment ending d := by
  refine ⟨?_, ?_⟩
  · simp only [Depot.answer, answered]
    rfl
  · simp only [Depot.answer, answered]
    exact ended

theorem completes_now {ending : Int64 → Depot → Prop} {d : Depot} (ended : ending moment.time d) :
    (now (ε := ε)).Completes moment ending d :=
  ⟨rfl, ended⟩

theorem completes_append {f : LogError → ε} {topic : String} {key value : List UInt8}
    {ending : Nat × Nat → Depot → Prop} {d : Depot} {place : Nat × Nat} {log : Log}
    (appended : d.log.append topic key value = .ok (place, log)) (ended : ending place { d with log := log }) :
    (append f topic key value).Completes moment ending d := by
  refine ⟨?_, ?_⟩
  · simp only [Depot.answer, appended]
    rfl
  · simp only [Depot.answer, appended]
    exact ended

theorem completes_attempt {ending : Except ε α → Depot → Prop} {p : Program ε α} {d : Depot}
    (completes : p.Completes moment (fun value => ending (.ok value)) d) :
    (p.attempt (δ := δ)).Completes moment ending d := by
  induction p generalizing d with
  | done result =>
    cases result with
    | ok value => exact completes
    | error problem => exact completes.elim
  | ask call next ih => exact ⟨completes.1, ih _ completes.2⟩

/-- A report changes nothing. -/
theorem completes_noted {ending : α → Depot → Prop} {p : Program ε α} {d : Depot} {noted : Prop} [Decidable noted]
    {event : Event} (completes : p.Completes moment ending d) :
    (if noted then do report event; p else p).Completes moment ending d := by
  split
  · exact ⟨rfl, completes⟩
  · exact completes

theorem reaches_bind {G : Program ε α → Depot → Prop} {goal : Program ε β → Depot → Prop} {p : Program ε α}
    {f : α → Program ε β} {d : Depot} (reaches : p.Reaches moment G d) (within : ∀ q e, G q e → goal (q >>= f) e) :
    (p >>= f).Reaches moment goal d := by
  obtain ⟨q, e, leads, holds⟩ := reaches
  exact ⟨q >>= f, e, leads_bind leads f, within q e holds⟩

theorem reaches_after {Q : α → Depot → Prop} {goal : Program ε β → Depot → Prop} {p : Program ε α}
    {f : α → Program ε β} {d : Depot} (first : p.Completes moment Q d)
    (rest : ∀ value e, Q value e → (f value).Reaches moment goal e) : (p >>= f).Reaches moment goal d := by
  obtain ⟨value, e, leads, ended⟩ := leads_of_completes first
  obtain ⟨q, e', onward, holds⟩ := rest value e ended
  exact ⟨q, e', leads_trans (leads_bind leads f) onward, holds⟩

/-- The calls of an activity are moves of a system in which it goes on. -/
theorem attains_of_leads {μ σ : Type} {act : μ → σ → Option σ} {s : σ} (move : μ) (place : Program ε α → Depot → σ)
    (one : ∀ p q d e, p.advance moment d = some (q, e) → act move (place p d) = some (place q e))
    {p q : Program ε α} {d e : Depot} (leads : Leads moment p d q e) (attains : Attains act s (place p d)) :
    Attains act s (place q e) := by
  induction leads with
  | still => exact attains
  | call moved _ ih => exact ih (attains.move (one _ _ _ _ moved))

end ModelDepot.Program
