import ModelDepot.Proofs.Depot

/-!
Activities that keep to rules among others. The rules say which calls are allowed at a point of the
activity, and to which point a successful answer leads; a call that fails ends the activity. Whether
an activity follows them does not depend on its surroundings, so it is shown once and used at every
interleaving.
-/
namespace ModelDepot

/-- Which calls an activity may make at a point, and the point after a successful answer. -/
abbrev Rules (γ : Type) := γ → (call : Call) → call.Answer → γ → Prop

namespace Program
variable {γ δ ε α β : Type} {rules : Rules γ} {g : γ}

/-- From a point on the activity keeps to the rules, fails with a call only, and ends as it should. -/
def Follows (rules : Rules γ) (ending : α → γ → Prop) : Program ε α → γ → Prop
  | .done (.ok value), g => ending value g
  | .done (.error _), _ => False
  | .ask call next, g =>
    (∀ answer, call.succeeded answer → ∃ h, rules g call answer h ∧ (next answer).Follows rules ending h) ∧
      ∀ answer, ¬ call.succeeded answer → ∃ problem, next answer = .done (.error problem)

theorem follows_bind {Q : α → γ → Prop} {ending : β → γ → Prop} {p : Program ε α} {f : α → Program ε β}
    (first : p.Follows rules Q g) (rest : ∀ value h, Q value h → (f value).Follows rules ending h) :
    (p >>= f).Follows rules ending g := by
  rw [bind_eq]
  induction p generalizing g with
  | done result =>
    cases result with
    | ok value => exact rest value g first
    | error problem => exact first.elim
  | ask call next ih =>
    constructor
    · intro answer fine
      obtain ⟨h, allowed, onward⟩ := first.1 answer fine
      exact ⟨h, allowed, ih answer onward⟩
    · intro answer failed
      obtain ⟨problem, ended⟩ := first.2 answer failed
      exact ⟨problem, by simp only [ended, bind]⟩

theorem follows_mapError {ending : α → γ → Prop} {f : δ → ε} {p : Program δ α}
    (follows : p.Follows rules ending g) : (p.mapError f).Follows rules ending g := by
  induction p generalizing g with
  | done result =>
    cases result with
    | ok value => exact follows
    | error problem => exact follows.elim
  | ask call next ih =>
    constructor
    · intro answer fine
      obtain ⟨h, allowed, onward⟩ := follows.1 answer fine
      exact ⟨h, allowed, ih answer onward⟩
    · intro answer failed
      obtain ⟨problem, ended⟩ := follows.2 answer failed
      exact ⟨f problem, by simp only [ended, mapError]⟩

/-! ### Single calls -/

theorem follows_authority {f : AuthorityError → ε} {call : AuthorityCall} {ending : call.Value → γ → Prop}
    (each : ∀ value, ∃ h, rules g (.authority call) (.ok value) h ∧ ending value h) :
    (authority f call).Follows rules ending g := by
  constructor
  · intro answer fine
    cases answer with
    | ok value => exact each value
    | error problem => cases fine
  · intro answer failed
    cases answer with
    | ok value => exact (failed rfl).elim
    | error problem => exact ⟨f problem, rfl⟩

theorem follows_store {f : StoreError → ε} {call : StoreCall} {ending : call.Value → γ → Prop}
    (each : ∀ value, ∃ h, rules g (.store call) (.ok value) h ∧ ending value h) :
    (store f call).Follows rules ending g := by
  constructor
  · intro answer fine
    cases answer with
    | ok value => exact each value
    | error problem => cases fine
  · intro answer failed
    cases answer with
    | ok value => exact (failed rfl).elim
    | error problem => exact ⟨f problem, rfl⟩

theorem follows_report {event : Event} {ending : Unit → γ → Prop}
    (allowed : ∃ h, rules g (.report event) () h ∧ ending () h) :
    (report (ε := ε) event).Follows rules ending g :=
  ⟨fun _ _ => allowed, fun _ failed => (failed rfl).elim⟩

theorem follows_now {ending : Int64 → γ → Prop} (each : ∀ time, ∃ h, rules g .now time h ∧ ending time h) :
    (now (ε := ε)).Follows rules ending g :=
  ⟨fun time _ => each time, fun _ failed => (failed rfl).elim⟩

/-- A report leads nowhere else. -/
theorem follows_noted {ending : α → γ → Prop} {p : Program ε α} {noted : Prop} [Decidable noted] {event : Event}
    (allowed : rules g (.report event) () g) (follows : p.Follows rules ending g) :
    (if noted then do report event; p else p).Follows rules ending g := by
  split
  · refine follows_bind (Q := fun _ later => later = g) (follows_report ⟨_, allowed, rfl⟩) ?_
    rintro _ _ rfl
    exact follows
  · exact follows

/-! ### Steps -/

/-- A call of an activity that follows the rules. -/
theorem follows_advance {ending : α → γ → Prop} {moment : Moment} {p q : Program ε α} {d after : Depot}
    (follows : p.Follows rules ending g) (moved : p.advance moment d = some (q, after)) :
    ∃ call answer h, rules g call answer h ∧ q.Follows rules ending h ∧ d.Calls moment call answer after := by
  obtain ⟨call, next, answer, rfl, rfl, calls⟩ := advance_eq_some.mp moved
  obtain ⟨h, allowed, onward⟩ := follows.1 answer calls.succeeded
  exact ⟨call, answer, h, allowed, onward, calls⟩

/-! ### Activities that fail on their own -/

/-- From a point on the activity keeps to the rules, and ends as it should, be it with a failure. -/
def Obeys (rules : Rules γ) (ending : Except ε α → γ → Prop) : Program ε α → γ → Prop
  | .done result, g => ending result g
  | .ask call next, g =>
    ∀ answer, call.succeeded answer → ∃ h, rules g call answer h ∧ (next answer).Obeys rules ending h

theorem obeys_bind {Q : Except ε α → γ → Prop} {ending : Except ε β → γ → Prop} {p : Program ε α}
    {f : α → Program ε β} (first : p.Obeys rules Q g)
    (rest : ∀ value h, Q (.ok value) h → (f value).Obeys rules ending h)
    (failed : ∀ problem h, Q (.error problem) h → ending (.error problem) h) :
    (p >>= f).Obeys rules ending g := by
  rw [bind_eq]
  induction p generalizing g with
  | done result =>
    cases result with
    | ok value => exact rest value g first
    | error problem => exact failed problem g first
  | ask call next ih =>
    intro answer fine
    obtain ⟨h, allowed, onward⟩ := first answer fine
    exact ⟨h, allowed, ih answer onward⟩

theorem obeys_mapError {ending : Except ε α → γ → Prop} {f : δ → ε} {p : Program δ α}
    (obeys : p.Obeys rules (fun result => ending (result.mapError f)) g) : (p.mapError f).Obeys rules ending g := by
  induction p generalizing g with
  | done result =>
    cases result with
    | ok value => exact obeys
    | error problem => exact obeys
  | ask call next ih =>
    intro answer fine
    obtain ⟨h, allowed, onward⟩ := obeys answer fine
    exact ⟨h, allowed, ih answer onward⟩

theorem obeys_attempt {ending : Except δ (Except ε α) → γ → Prop} {p : Program ε α}
    (obeys : p.Obeys rules (fun result => ending (.ok result)) g) : p.attempt.Obeys rules ending g := by
  induction p generalizing g with
  | done result => exact obeys
  | ask call next ih =>
    intro answer fine
    obtain ⟨h, allowed, onward⟩ := obeys answer fine
    exact ⟨h, allowed, ih answer onward⟩

/-- A call of an activity that obeys the rules. -/
theorem obeys_advance {ending : Except ε α → γ → Prop} {moment : Moment} {p q : Program ε α} {d after : Depot}
    (obeys : p.Obeys rules ending g) (moved : p.advance moment d = some (q, after)) :
    ∃ call answer h, rules g call answer h ∧ q.Obeys rules ending h ∧ d.Calls moment call answer after := by
  obtain ⟨call, next, answer, rfl, rfl, calls⟩ := advance_eq_some.mp moved
  obtain ⟨h, allowed, onward⟩ := obeys answer calls.succeeded
  exact ⟨call, answer, h, allowed, onward, calls⟩

/-- An activity that fails with its calls only does not fail where they succeed. -/
theorem obeys_of_follows {Q : α → γ → Prop} {p : Program ε α} (follows : p.Follows rules Q g) :
    p.Obeys rules (fun result h => ∃ value, result = .ok value ∧ Q value h) g := by
  induction p generalizing g with
  | done result =>
    cases result with
    | ok value => exact ⟨value, rfl, follows⟩
    | error problem => exact follows.elim
  | ask call next ih =>
    intro answer fine
    obtain ⟨h, allowed, onward⟩ := follows.1 answer fine
    exact ⟨h, allowed, ih answer onward⟩

theorem obeys_after {Q : α → γ → Prop} {ending : Except ε β → γ → Prop} {p : Program ε α}
    {f : α → Program ε β} (first : p.Follows rules Q g)
    (rest : ∀ value h, Q value h → (f value).Obeys rules ending h) : (p >>= f).Obeys rules ending g := by
  apply obeys_bind (obeys_of_follows first)
  · rintro value h ⟨_, same, holds⟩
    rw [Except.ok.inj same]
    exact rest _ h holds
  · rintro problem h ⟨_, same, _⟩
    cases same

theorem obeys_noted {ending : Except ε α → γ → Prop} {p : Program ε α} {noted : Prop} [Decidable noted] {event : Event}
    (allowed : rules g (.report event) () g) (obeys : p.Obeys rules ending g) :
    (if noted then do report event; p else p).Obeys rules ending g := by
  split
  · refine obeys_after (Q := fun _ later => later = g) (follows_report ⟨_, allowed, rfl⟩) ?_
    rintro _ _ rfl
    exact obeys
  · exact obeys

end Program
end ModelDepot
