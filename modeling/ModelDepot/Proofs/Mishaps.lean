import ModelDepot.Proofs.Depot

/-!
Activities among collaborators that cannot be relied on. Any call may fail, and a listing of the ids with
grants may show whatever ids; either leaves everything as it was. What holds however the mishaps are spread
over the calls is shown call by call (`Program.Ensures`), and then holds of every run
(`Program.runAmid_of_ensures`).
-/
namespace ModelDepot

/-- What each collaborator fails with when it is out of order. -/
structure Outage where
  authority : AuthorityError
  store : StoreError
  log : LogError

/-- The answer of a collaborator that is out of order. -/
def Call.refusal (outage : Outage) : (call : Call) → Option call.Answer
  | .authority _ => some (.error outage.authority)
  | .store _ => some (.error outage.store)
  | .append .. => some (.error outage.log)
  | .now => none
  | .freshId => none
  | .report _ => none

/-- What may happen to a call in the place of what it asks for. -/
inductive Mishap where
  | refused (outage : Outage)
  /-- A listing of the ids with grants shows these ones. -/
  | misled (ids : List String)

/-- The answer to a call that meets with the mishap, if it is one for such a call. -/
def Mishap.answer? : Mishap → (call : Call) → Option call.Answer
  | .refused outage, call => call.refusal outage
  | .misled ids, .authority (.adminList _ _) => some (.ok ids)
  | .misled _, _ => none

/-- The call lists the ids with grants. -/
def AuthorityCall.isListing : AuthorityCall → Bool
  | .adminList .. => true
  | _ => false

/-! ### Failures of the collaborators themselves -/

theorem Authority.respond_error {a after : Authority} {call : AuthorityCall} {problem : AuthorityError}
    (failed : a.respond call = (.error problem, after)) : after = a := by
  cases call with
  | adminList topic page =>
    simp only [respond] at failed
    split at failed <;> cases failed
    rfl
  | setPermission topic id grants =>
    simp only [respond] at failed
    split at failed <;> cases failed
    rfl
  | _ => cases failed

theorem Store.respond_error {store after : Store} {call : StoreCall} {problem : StoreError}
    (failed : store.respond call = (.error problem, after)) : after = store := by
  cases call with
  | upsert doc =>
    simp only [respond] at failed
    split at failed <;> cases failed
    rfl
  | get id => exact (Prod.mk.inj failed).2.symm
  | list options => exact (Prod.mk.inj failed).2.symm
  | listPublished => exact (Prod.mk.inj failed).2.symm
  | _ => cases failed

namespace Depot

/-- The answer to the call with a number, where calls meet with mishaps by their numbers. -/
def answerAmid (mishaps : Nat → Option Mishap) (moment : Moment) (call : Call) :
    Nat × Depot → call.Answer × (Nat × Depot)
  | (number, d) =>
    match (mishaps number).bind (·.answer? call) with
    | some answer => (answer, number + 1, d)
    | none => ((d.answer moment call).1, number + 1, (d.answer moment call).2)

/-- The call may be answered like this, and leave the depot like this. -/
def May (moment : Moment) (d : Depot) (call : Call) (answer : call.Answer) (after : Depot) : Prop :=
  d.answer moment call = (answer, after) ∨ (∃ mishap : Mishap, mishap.answer? call = some answer) ∧ after = d

/-- A call with which nothing can happen has its own answer only. -/
theorem May.of_sure {moment : Moment} {d after : Depot} {call : Call} {answer : call.Answer}
    (may : d.May moment call answer after) (sure : ∀ mishap : Mishap, mishap.answer? call = none) :
    d.answer moment call = (answer, after) := by
  rcases may with answered | ⟨⟨mishap, isAnswer⟩, -⟩
  · exact answered
  · rw [sure mishap] at isAnswer
    cases isAnswer

/-- The activity ended like this, or it failed and left everything as it was. -/
def Concludes {ε α : Type} (d : Depot) (ending : α → Depot → Prop) : Except ε α → Depot → Prop
  | .ok value, e => ending value e
  | .error _, e => e = d

theorem may_answerAmid (mishaps : Nat → Option Mishap) (moment : Moment) (call : Call) (number : Nat) (d : Depot) :
    d.May moment call (answerAmid mishaps moment call (number, d)).1
      (answerAmid mishaps moment call (number, d)).2.2 := by
  cases met : (mishaps number).bind (·.answer? call) with
  | none =>
    simp only [answerAmid, met]
    exact .inl rfl
  | some answer =>
    obtain ⟨mishap, -, isAnswer⟩ := Option.bind_eq_some_iff.mp met
    simp only [answerAmid, met]
    exact .inr ⟨⟨mishap, isAnswer⟩, rfl⟩

end Depot

namespace Program
variable {δ ε α β : Type} {moment : Moment} {fit : Call → Prop} {d : Depot}

/-- The result of an activity and the depot after it, where calls meet with mishaps by their numbers. -/
def runAmid (mishaps : Nat → Option Mishap) (moment : Moment) (p : Program ε α) (d : Depot) : Except ε α × Depot :=
  let (result, _, after) := p.run (Depot.answerAmid mishaps moment) (0, d)
  (result, after)

/-- Whatever mishaps there are, the activity makes fit calls only, and ends as it should. -/
def Ensures (moment : Moment) (fit : Call → Prop) (ending : Except ε α → Depot → Prop) : Program ε α → Depot → Prop
  | .done result, d => ending result d
  | .ask call next, d =>
    fit call ∧ ∀ answer after, d.May moment call answer after → (next answer).Ensures moment fit ending after

theorem ensures_mono {other : Call → Prop} {P Q : Except ε α → Depot → Prop} {p : Program ε α}
    (ensures : p.Ensures moment fit P d) (fits : ∀ call, fit call → other call)
    (weaker : ∀ result e, P result e → Q result e) : p.Ensures moment other Q d := by
  induction p generalizing d with
  | done result => exact weaker result d ensures
  | ask call next ih => exact ⟨fits call ensures.1, fun answer after may => ih answer (ensures.2 answer after may)⟩

theorem ensures_bind {Q : Except ε α → Depot → Prop} {ending : Except ε β → Depot → Prop} {p : Program ε α}
    {f : α → Program ε β} (first : p.Ensures moment fit Q d)
    (rest : ∀ value e, Q (.ok value) e → (f value).Ensures moment fit ending e)
    (failed : ∀ problem e, Q (.error problem) e → ending (.error problem) e) :
    (p >>= f).Ensures moment fit ending d := by
  rw [bind_eq]
  induction p generalizing d with
  | done result =>
    cases result with
    | ok value => exact rest value d first
    | error problem => exact failed problem d first
  | ask call next ih => exact ⟨first.1, fun answer after may => ih answer (first.2 answer after may)⟩

theorem ensures_step {Q : α → Depot → Prop} {ending : β → Depot → Prop} {p : Program ε α} {f : α → Program ε β}
    (first : p.Ensures moment fit (d.Concludes Q) d)
    (rest : ∀ value e, Q value e → (f value).Ensures moment fit (d.Concludes ending) e) :
    (p >>= f).Ensures moment fit (d.Concludes ending) d :=
  ensures_bind first rest fun _ _ same => same

theorem ensures_mapError {ending : Except ε α → Depot → Prop} {f : δ → ε} {p : Program δ α}
    (ensures : p.Ensures moment fit (fun result => ending (result.mapError f)) d) :
    (p.mapError f).Ensures moment fit ending d := by
  induction p generalizing d with
  | done result => cases result <;> exact ensures
  | ask call next ih => exact ⟨ensures.1, fun answer after may => ih answer (ensures.2 answer after may)⟩

theorem concludes_mapError {Q : α → Depot → Prop} {f : δ → ε} {p : Program δ α} {e : Depot}
    (ensures : p.Ensures moment fit (d.Concludes Q) e) : (p.mapError f).Ensures moment fit (d.Concludes Q) e := by
  refine ensures_mapError (ensures_mono ensures (fun _ fits => fits) ?_)
  rintro (problem | value) after ended
  · exact ended
  · exact ended

theorem ensures_attempt {ending : Except δ (Except ε α) → Depot → Prop} {p : Program ε α}
    (ensures : p.Ensures moment fit (fun result => ending (.ok result)) d) :
    p.attempt.Ensures moment fit ending d := by
  induction p generalizing d with
  | done result => exact ensures
  | ask call next ih => exact ⟨ensures.1, fun answer after may => ih answer (ensures.2 answer after may)⟩

/-! ### Single calls -/

theorem ensures_authority {f : AuthorityError → ε} {call : AuthorityCall}
    {ending : Except ε call.Value → Depot → Prop}
    (fits : fit (.authority call)) (reliable : call.isListing = false)
    (each : ∀ value after, d.authority.respond call = (.ok value, after) →
      ending (.ok value) { d with authority := after })
    (failed : ∀ problem, ending (.error (f problem)) d) : (authority f call).Ensures moment fit ending d := by
  refine ⟨fits, ?_⟩
  rintro answer after (answered | ⟨⟨mishap, isAnswer⟩, rfl⟩)
  · obtain ⟨rfl, rfl⟩ := Prod.mk.inj answered
    cases given : d.authority.respond call with
    | mk answer after =>
      cases answer with
      | ok value => exact each value after given
      | error problem =>
        rw [Authority.respond_error given]
        exact failed problem
  · cases mishap with
    | refused outage =>
      obtain rfl := Option.some.inj isAnswer
      exact failed outage.authority
    | misled ids =>
      cases call with
      | adminList topic page => cases reliable
      | _ => cases isAnswer

theorem asks_authority {f : AuthorityError → ε} {call : AuthorityCall} (fits : fit (.authority call))
    (reliable : call.isListing = false) :
    (authority f call).Ensures moment fit
      (d.Concludes fun value e => ∃ after, d.authority.respond call = (.ok value, after) ∧
        e = { d with authority := after }) d :=
  ensures_authority fits reliable (fun _ after answered => ⟨after, answered, rfl⟩) fun _ => rfl

/-- A listing of the ids with grants may show whatever ids. -/
theorem ensures_adminList {f : AuthorityError → ε} {topic : String} {page : Page}
    {ending : Except ε (List String) → Depot → Prop} (fits : fit (.authority (.adminList topic page)))
    (each : ∀ ids, ending (.ok ids) d) (failed : ∀ problem, ending (.error (f problem)) d) :
    (authority f (.adminList topic page)).Ensures moment fit ending d := by
  refine ⟨fits, ?_⟩
  rintro answer after (answered | ⟨-, rfl⟩)
  · have same : (d.authority.respond (.adminList topic page)).2 = d.authority := by
      simp only [Authority.respond]
      split <;> rfl
    obtain ⟨rfl, rfl⟩ := Prod.mk.inj answered
    rw [same]
    cases (d.authority.respond (.adminList topic page)).1 with
    | ok ids => exact each ids
    | error problem => exact failed problem
  · cases answer with
    | ok ids => exact each ids
    | error problem => exact failed problem

theorem ensures_store {f : StoreError → ε} {call : StoreCall} {ending : Except ε call.Value → Depot → Prop}
    (fits : fit (.store call))
    (each : ∀ value after, d.store.respond call = (.ok value, after) → ending (.ok value) { d with store := after })
    (failed : ∀ problem, ending (.error (f problem)) d) : (store f call).Ensures moment fit ending d := by
  refine ⟨fits, ?_⟩
  rintro answer after (answered | ⟨⟨mishap, isAnswer⟩, rfl⟩)
  · obtain ⟨rfl, rfl⟩ := Prod.mk.inj answered
    cases given : d.store.respond call with
    | mk answer after =>
      cases answer with
      | ok value => exact each value after given
      | error problem =>
        rw [Store.respond_error given]
        exact failed problem
  · cases mishap with
    | refused outage =>
      obtain rfl := Option.some.inj isAnswer
      exact failed outage.store
    | misled ids => cases isAnswer

theorem asks_store {f : StoreError → ε} {call : StoreCall} (fits : fit (.store call)) :
    (store f call).Ensures moment fit
      (d.Concludes fun value e => ∃ after, d.store.respond call = (.ok value, after) ∧
        e = { d with store := after }) d :=
  ensures_store fits (fun _ after answered => ⟨after, answered, rfl⟩) fun _ => rfl

theorem ensures_append {f : LogError → ε} {topic : String} {key value : List UInt8}
    {ending : Except ε (Nat × Nat) → Depot → Prop} (fits : fit (.append topic key value))
    (each : ∀ place after, d.log.append topic key value = .ok (place, after) →
      ending (.ok place) { d with log := after })
    (failed : ∀ problem, ending (.error (f problem)) d) :
    (append f topic key value).Ensures moment fit ending d := by
  refine ⟨fits, ?_⟩
  rintro answer after (answered | ⟨⟨mishap, isAnswer⟩, rfl⟩)
  · simp only [Depot.answer] at answered
    split at answered
    · rename_i place log appended
      obtain ⟨rfl, rfl⟩ := Prod.mk.inj answered
      exact each place log appended
    · rename_i problem appended
      obtain ⟨rfl, rfl⟩ := Prod.mk.inj answered
      exact failed problem
  · cases mishap with
    | refused outage =>
      obtain rfl := Option.some.inj isAnswer
      exact failed outage.log
    | misled ids => cases isAnswer

theorem ensures_now {ending : Except ε Int64 → Depot → Prop} (fits : fit .now) (ended : ending (.ok moment.time) d) :
    now.Ensures moment fit ending d := by
  refine ⟨fits, fun answer after may => ?_⟩
  obtain ⟨rfl, rfl⟩ := Prod.mk.inj (may.of_sure fun mishap => by cases mishap <;> rfl)
  exact ended

theorem ensures_freshId {ending : Except ε String → Depot → Prop} (fits : fit .freshId)
    (ended : ending (.ok moment.freshId) d) : freshId.Ensures moment fit ending d := by
  refine ⟨fits, fun answer after may => ?_⟩
  obtain ⟨rfl, rfl⟩ := Prod.mk.inj (may.of_sure fun mishap => by cases mishap <;> rfl)
  exact ended

theorem ensures_report {event : Event} {ending : Except ε Unit → Depot → Prop} (fits : fit (.report event))
    (ended : ending (.ok ()) d) : (report event).Ensures moment fit ending d := by
  refine ⟨fits, fun answer after may => ?_⟩
  obtain ⟨rfl, rfl⟩ := Prod.mk.inj (may.of_sure fun mishap => by cases mishap <;> rfl)
  exact ended

/-! ### Runs -/

theorem run_of_ensures {ending : Except ε α → Depot → Prop} {p : Program ε α}
    (ensures : p.Ensures moment fit ending d) (mishaps : Nat → Option Mishap) (number : Nat) :
    ending (p.run (Depot.answerAmid mishaps moment) (number, d)).1
      (p.run (Depot.answerAmid mishaps moment) (number, d)).2.2 := by
  induction p generalizing d number with
  | done result => exact ensures
  | ask call next ih => exact ih _ (ensures.2 _ _ (Depot.may_answerAmid mishaps moment call number d)) _

/-- An activity ends as it should, whichever of its calls meet with mishaps. -/
theorem runAmid_of_ensures {ending : Except ε α → Depot → Prop} {p : Program ε α}
    (ensures : p.Ensures moment fit ending d) (mishaps : Nat → Option Mishap) :
    ending (p.runAmid mishaps moment d).1 (p.runAmid mishaps moment d).2 :=
  run_of_ensures ensures mishaps 0

end Program
end ModelDepot
