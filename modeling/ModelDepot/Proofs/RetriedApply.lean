import Mathlib.Logic.Relation
import ModelDepot.Proofs.HalfApplied
import ModelDepot.Proofs.Mishaps

/-!
Attempts to apply a command that fail and are made again. An attempt ends with its first call that is reported
as failed, which may have had its effect all the same. Main statement: however many attempts have failed, one
that does not fail leaves what a single application would have left (`retries_converge`).
-/
namespace ModelDepot

/-- A call that fails by itself changes nothing. -/
theorem Depot.answer_of_failed {moment : Moment} {call : Call} {d : Depot}
    (failed : ¬ call.succeeded (d.answer moment call).1) : (d.answer moment call).2 = d := by
  cases call with
  | authority call =>
    cases answered : d.authority.respond call with
    | mk answer after =>
      cases answer with
      | ok value => simp [Depot.answer, answered, Call.succeeded, Except.isOk, Except.toBool] at failed
      | error problem => simp only [Depot.answer, answered, Authority.respond_error answered]
  | store call =>
    cases answered : d.store.respond call with
    | mk answer after =>
      cases answer with
      | ok value => simp [Depot.answer, answered, Call.succeeded, Except.isOk, Except.toBool] at failed
      | error problem => simp only [Depot.answer, answered, Store.respond_error answered]
  | append topic key value =>
    simp only [Depot.answer] at failed ⊢
    split at failed
    · exact absurd rfl failed
    · rfl
  | now => rfl
  | freshId => rfl
  | report event => rfl

theorem Depot.Calls.upsert_eq_ok {moment : Moment} {d after : Depot} {document : Document}
    {answer : Except StoreError Unit} (calls : d.Calls moment (.store (.upsert document)) answer after) :
    ∃ store, d.store.upsert document = .ok store := by
  obtain ⟨answered, succeeded⟩ := calls
  cases done : d.store.upsert document with
  | ok store => exact ⟨store, rfl⟩
  | error problem =>
    simp only [Depot.answer, Store.respond, done] at answered
    obtain ⟨rfl, -⟩ := Prod.mk.inj answered
    cases succeeded

namespace Program
variable {γ ε α : Type} {moment : Moment} {rules : Rules γ} {g : γ} {ending : α → γ → Prop} {p q : Program ε α}
  {d e : Depot}

/-- Some calls of an activity succeed, and the next one is reported as failed, with its effect or without. This
    is what is left of the activity then. -/
inductive Falters (moment : Moment) : Program ε α → Depot → Program ε α → Depot → Prop
  | failed {call : Call} {next : call.Answer → Program ε α} {answer : call.Answer} {d after : Depot}
    (reported : ¬ call.succeeded answer) (effect : after = d ∨ after = (d.answer moment call).2) :
    Falters moment (.ask call next) d (next answer) after
  | call {p q r : Program ε α} {d e f : Depot} (moved : p.advance moment d = some (q, e))
    (onward : Falters moment q e r f) : Falters moment p d r f

/-- An activity that follows rules ends with the first call that fails. -/
theorem ends_of_falters (follows : p.Follows rules ending g) (falters : Falters moment p d q e) :
    ∃ problem, q = .done (.error problem) := by
  induction falters generalizing g with
  | failed reported effect => exact follows.2 _ reported
  | call moved onward ih =>
    obtain ⟨_, _, _, _, follows, _⟩ := follows_advance follows moved
    exact ih follows

end Program

namespace Control
open Program
variable {time : Int64} {moment : Moment} {topic : String} {command : Command} {point : ApplyPoint} {ε α : Type}
  {ending : α → ApplyPoint → Prop} {p q : Program ε α} {d e : Depot}

/-- Calls that succeed leave the effect of the whole command as it is. -/
theorem applied_of_leads (stamped : command.Stamped) (follows : p.Follows (ApplyRules topic command) ending point)
    (stands : point.Stands time topic command d) (leads : Leads moment p d q e) :
    e.applied time topic command = d.applied time topic command ∧
      ∃ next, q.Follows (ApplyRules topic command) ending next ∧ next.Stands time topic command e := by
  induction leads generalizing point with
  | still => exact ⟨rfl, point, follows, stands⟩
  | call moved onward ih =>
    obtain ⟨call, answer, next, rules, follows, calls⟩ := follows_advance follows moved
    obtain ⟨within, effect, -⟩ := ApplyPoint.stands_call stamped stands rules calls
    obtain ⟨onwardEffect, later⟩ := ih follows within
    exact ⟨onwardEffect.trans effect, later⟩

/-- So does a call that is reported as failed, whether it had its effect or not. -/
theorem applied_of_falters (stamped : command.Stamped) (follows : p.Follows (ApplyRules topic command) ending point)
    (stands : point.Stands time topic command d) (falters : Falters moment p d q e) :
    e.applied time topic command = d.applied time topic command := by
  induction falters generalizing point with
  | @failed call next answer d after reported effect =>
    rcases effect with rfl | rfl
    · rfl
    · cases succeeded : call.succeeded (d.answer moment call).1 with
      | true =>
        obtain ⟨later, rules, -⟩ := follows.1 _ succeeded
        exact (ApplyPoint.stands_call stamped stands rules ⟨rfl, succeeded⟩).2.1
      | false => rw [Depot.answer_of_failed (by rw [succeeded]; exact Bool.false_ne_true)]
  | call moved onward ih =>
    obtain ⟨call, answer, next, rules, follows, calls⟩ := follows_advance follows moved
    obtain ⟨within, effect, -⟩ := ApplyPoint.stands_call stamped stands rules calls
    exact (ih follows within).trans effect

/-- An attempt to apply the command failed, and left this behind. -/
def FailedAttempt (topic : String) (command : Command) (d e : Depot) : Prop :=
  ∃ moment rest, Falters moment (apply topic command) d rest e

theorem applied_of_attempts (stamped : command.Stamped)
    (failed : Relation.ReflTransGen (FailedAttempt topic command) d e) :
    e.applied time topic command = d.applied time topic command := by
  induction failed with
  | refl => rfl
  | tail _ attempt ih =>
    obtain ⟨moment, rest, falters⟩ := attempt
    exact (applied_of_falters stamped (apply_follows topic command) trivial falters).trans ih

/-- What the store can take depends on the effect of the command only. -/
theorem admits_of_applied_eq (same : e.applied time topic command = d.applied time topic command) :
    e.store.Admits command ↔ d.store.Admits command := by
  have after : (e.applied time topic command).store.Admits command ↔ e.store.Admits command :=
    Depot.admits_applied command command e
  rw [← after, same, Depot.admits_applied]

theorem registered_of_applied_eq (same : e.applied time topic command = d.applied time topic command) :
    e.authority.isRegistered topic = d.authority.isRegistered topic := by
  unfold Authority.isRegistered
  have after : (e.applied time topic command).authority.topics = e.authority.topics :=
    Depot.topics_applied command e
  rw [← after, same, Depot.topics_applied]

/-- The document is not stored yet. -/
def Unstored : ApplyPoint → Prop
  | .begun | .bare | .seeded => True
  | _ => False

/-- A document that is put without a failing call is one that the store can take. -/
theorem admits_of_leads {owner : String} {document : Document} (stamped : document.isStamped)
    (follows : p.Follows (ApplyRules topic (.put owner document)) (fun _ => ApplyPoint.Finished (.put owner document))
      point) (stands : point.Stands time topic (.put owner document) d) (unstored : Unstored point)
    (leads : Leads moment p d q e) (ended : q.ended) : d.store.Admits (.put owner document) := by
  induction leads generalizing point with
  | @still p d =>
    obtain ⟨result, rfl⟩ := ended_iff.mp ended
    cases result with
    | ok value => cases point <;> first | exact follows.elim | exact unstored.elim
    | error problem => exact follows.elim
  | @call p q r d e f moved onward ih =>
    obtain ⟨call, answer, next, rules, follows, calls⟩ := follows_advance follows moved
    have putStamped : (Command.put owner document).Stamped := stamped
    obtain ⟨within, effect, -⟩ := ApplyPoint.stands_call putStamped stands rules calls
    have later : Unstored next → d.store.Admits (.put owner document) := fun unstored =>
      (admits_of_applied_eq effect).mp (ih follows within unstored ended)
    cases rules with
    | report => exact later unstored
    | missing => exact later trivial
    | present => exact later trivial
    | seeded => exact later trivial
    | clock unstamped =>
      rw [unstamped] at stamped
      cases stamped
    | stored => exact calls.upsert_eq_ok
    | _ => exact unstored.elim

/-- After any number of failed attempts, each of which ends with an error at its first failing call, one in which
    no call fails succeeds, and leaves what applying the command once, without a failing call, would have left at
    first. There is such an attempt, unless the store cannot take the document. -/
theorem retries_converge (registered : d.authority.isRegistered topic) (stamped : command.Stamped)
    (failed : Relation.ReflTransGen (FailedAttempt topic command) d e) (moment once : Moment) :
    (∀ rest f, Falters moment (apply topic command) e rest f → ∃ problem, rest = .done (.error problem)) ∧
      (∀ result f, Leads moment (apply topic command) e (.done result) f →
        (∃ outcome, result = .ok outcome) ∧ ∃ outcome, Leads once (apply topic command) d (.done (.ok outcome)) f) ∧
      (d.store.Admits command → ∃ outcome f, Leads moment (apply topic command) e (.done (.ok outcome)) f) := by
  have same : ∀ time, e.applied time topic command = d.applied time topic command := fun time =>
    applied_of_attempts stamped failed
  have still : e.authority.isRegistered topic := by rw [registered_of_applied_eq (same 0), registered]
  refine ⟨fun rest f falters => ends_of_falters (apply_follows topic command) falters, ?_, ?_⟩
  · intro result f leads
    have begun : ApplyPoint.begun.Stands once.time topic command e := trivial
    obtain ⟨effect, point, finished, stands⟩ := applied_of_leads stamped (apply_follows topic command) begun leads
    cases result with
    | error problem => exact finished.elim
    | ok outcome =>
      refine ⟨⟨outcome, rfl⟩, ?_⟩
      have admitted : e.store.Admits command := by
        cases command with
        | put owner document =>
          have begun : ApplyPoint.begun.Stands 0 topic (.put owner document) e := trivial
          exact admits_of_leads stamped (apply_follows topic _) begun trivial leads rfl
        | delete id owner => trivial
      have completes : (apply topic command).Completes once (fun _ f => f = d.applied once.time topic command) d :=
        apply_completes registered ((admits_of_applied_eq (same 0)).mp admitted)
      obtain ⟨single, after, direct, rfl⟩ := leads_of_completes completes
      rw [ApplyPoint.applied_of_finished stands finished, same] at effect
      exact ⟨single, effect ▸ direct⟩
  · intro admitted
    have completes : (apply topic command).Completes moment (fun _ f => f = e.applied moment.time topic command) e :=
      apply_completes still ((admits_of_applied_eq (same 0)).mpr admitted)
    obtain ⟨outcome, f, leads, -⟩ := leads_of_completes completes
    exact ⟨outcome, f, leads⟩

def draft : Document := { id := "p", name := "P", lastUpdated := 5 }

def vacant : Depot where
  store := .empty
  authority := ({} : Authority).register (.ofTopic "t")
  log := .new 1

/-- In one attempt the seeding of the grants is reported as failed, and in the next one the storing of the
    document; either had its effect. -/
theorem retries_converge_twice :
    vacant.authority.isRegistered "t" ∧ (Command.put "alice" draft).Stamped ∧
      ∃ e, Relation.ReflTransGen (FailedAttempt "t" (.put "alice" draft)) vacant e ∧ (e.row? "p").isSome ∧
        ∃ outcome single f, Leads ⟨9, "x"⟩ (apply "t" (.put "alice" draft)) e (.done (.ok outcome)) f ∧
          Leads ⟨2, "y"⟩ (apply "t" (.put "alice" draft)) vacant (.done (.ok single)) f := by
  let seeded : Depot := { vacant with authority := vacant.authority.setGrants "t" "p" (.forOwner "alice") }
  have registered : vacant.authority.isRegistered "t" := by decide
  have stamped : (Command.put "alice" draft).Stamped := rfl
  have unanswered : ¬ Call.succeeded (.authority (.setPermission "t" "p" (.forOwner "alice"))) (.error .transport) :=
    Bool.false_ne_true
  have seeding : FailedAttempt "t" (.put "alice" draft) vacant seeded :=
    ⟨⟨1, "x"⟩, _, .call rfl (.failed unanswered (.inr rfl))⟩
  have unconfirmed : ¬ Call.succeeded (.store (.upsert draft)) (.error .lockPoisoned) := Bool.false_ne_true
  have storing : FailedAttempt "t" (.put "alice" draft) seeded { seeded with store := seeded.store.holding draft } :=
    ⟨⟨1, "x"⟩, _, .call rfl (.failed unconfirmed (.inr rfl))⟩
  have failed := (Relation.ReflTransGen.single seeding).tail storing
  obtain ⟨-, converges, possible⟩ := retries_converge registered stamped failed ⟨9, "x"⟩ ⟨2, "y"⟩
  obtain ⟨outcome, f, leads⟩ := possible ⟨_, rfl⟩
  obtain ⟨-, single, direct⟩ := converges _ _ leads
  exact ⟨registered, stamped, _, failed, by decide, outcome, single, f, leads, direct⟩

end Control
end ModelDepot
