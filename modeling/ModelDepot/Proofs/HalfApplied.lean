import ModelDepot.Proofs.ApplyCourse
import ModelDepot.Proofs.CommandCodec
import ModelDepot.Proofs.Effects

/-!
A command whose application was begun and not finished. If it is applied once more, from the beginning, the
effect is that of applying it once: no call on the way changes what the whole command makes of the depot.
-/
namespace ModelDepot

namespace Depot.Calls
variable {moment : Moment} {d after : Depot} {topic id : String}

theorem getResource {answer : Except AuthorityError (Option Grants)}
    (calls : d.Calls moment (.authority (.getResource topic id)) answer after) : after = d :=
  (congrArg Prod.snd calls.answered).symm

theorem setPermission {grants : Grants} {answer : Except AuthorityError Unit}
    (calls : d.Calls moment (.authority (.setPermission topic id grants)) answer after) :
    after = { d with authority := d.authority.setGrants topic id grants } := by
  obtain ⟨answered, succeeded⟩ := calls
  simp only [Depot.answer, Authority.respond] at answered
  split at answered
  · exact (congrArg Prod.snd answered).symm
  · obtain ⟨rfl, -⟩ := Prod.mk.inj answered
    cases succeeded

theorem removeResource {answer : Except AuthorityError Unit}
    (calls : d.Calls moment (.authority (.removeResource topic id)) answer after) :
    after = { d with authority := d.authority.eraseGrants topic id } :=
  (congrArg Prod.snd calls.answered).symm

theorem upsert {document : Document} {answer : Except StoreError Unit}
    (calls : d.Calls moment (.store (.upsert document)) answer after) :
    after = { d with store := d.store.holding document } := by
  obtain ⟨answered, succeeded⟩ := calls
  simp only [Depot.answer, Store.respond] at answered
  cases done : d.store.upsert document with
  | ok store =>
    rw [done] at answered
    simp only [Store.holding, done]
    exact (congrArg Prod.snd answered).symm
  | error problem =>
    rw [done] at answered
    obtain ⟨rfl, -⟩ := Prod.mk.inj answered
    cases succeeded

theorem delete {answer : Except StoreError Bool} (calls : d.Calls moment (.store (.delete id)) answer after) :
    after = { d with store := (d.store.delete id).2 } :=
  (congrArg Prod.snd calls.answered).symm

end Depot.Calls

/-- A document that the command puts has a stamp. -/
def Command.Stamped : Command → Prop
  | .put _ document => document.isStamped
  | .delete _ _ => True

/-- What holds of the depot at a point of applying a command, if nobody else is at work. -/
def ApplyPoint.Stands (time : Int64) (topic : String) (command : Command) (d : Depot) : ApplyPoint → Prop
  | .begun => True
  | .bare | .revoked => d.grants? topic command.id = none
  | .seeded => (d.grants? topic command.id).isSome
  | .stored _ | .secured _ => (d.grants? topic command.id).isSome ∧ d.applied time topic command = d
  | .removed => d.applied time topic command = d
  | .timed _ | .exposed _ => False

namespace ApplyPoint
variable {time : Int64} {moment : Moment} {topic : String} {command : Command} {point next : ApplyPoint} {call : Call}
  {answer : call.Answer} {d after : Depot}

/-- A finished command has had its effect. -/
theorem applied_of_finished (stands : point.Stands time topic command d) (finished : point.Finished command) :
    d.applied time topic command = d := by
  cases command <;> cases point <;> first | exact stands.2 | exact stands | exact finished.elim

/-- A call on the way leaves the effect of the whole command as it is. -/
theorem stands_call (stamped : command.Stamped) (stands : point.Stands time topic command d)
    (rules : ApplyRules topic command point call answer next) (calls : d.Calls moment call answer after) :
    next.Stands time topic command after ∧ after.applied time topic command = d.applied time topic command ∧
      after.log = d.log := by
  cases rules with
  | report =>
    obtain rfl : d = after := congrArg Prod.snd calls.answered
    exact ⟨stands, rfl, rfl⟩
  | @missing owner document =>
    obtain rfl := calls.getResource
    exact ⟨calls.grants?_eq, rfl, rfl⟩
  | @present owner document grants =>
    obtain rfl := calls.getResource
    exact ⟨Option.isSome_iff_exists.mpr ⟨grants, calls.grants?_eq⟩, rfl, rfl⟩
  | @seeded owner document answer =>
    obtain rfl := calls.setPermission
    have seeds : d.authority.setGrants topic document.id (.forOwner owner) =
        d.authority.seeded topic owner document.id := by
      simp only [Authority.seeded, show d.authority.grants? topic document.id = none from stands]
    rw [seeds]
    refine ⟨Option.isSome_iff_exists.mpr ⟨_, Authority.grants?_seeded⟩, ?_, rfl⟩
    simp [Depot.applied]
  | clock unstamped =>
    rw [Command.Stamped, unstamped] at stamped
    cases stamped
  | @stored owner document answer isStamped =>
    obtain rfl := calls.upsert
    obtain ⟨grants, granted⟩ := Option.isSome_iff_exists.mp stands
    have seeds : d.authority.seeded topic owner document.id = d.authority := Authority.seeded_of_granted granted
    have effect : d.applied time topic (.put owner document) = { d with store := d.store.holding document } := by
      simp only [Depot.applied, Document.stampIfUnset_of_stamped isStamped, seeds]
    have again : ({ d with store := d.store.holding document } : Depot).applied time topic (.put owner document) =
        { d with store := d.store.holding document } := by
      rw [← effect]
      exact Depot.applied_applied _ d
    exact ⟨⟨stands, again⟩, again.trans effect.symm, rfl⟩
  | storedNow => exact stands.elim
  | @exposed owner document stored =>
    have missing : d.grants? topic document.id = none := calls.grants?_eq
    have granted := stands.1
    rw [Command.id, missing] at granted
    cases granted
  | secured =>
    obtain rfl := calls.getResource
    exact ⟨stands, rfl, rfl⟩
  | reseeded => exact stands.elim
  | @revoked id owner answer =>
    obtain rfl := calls.removeResource
    refine ⟨by simp [Stands, Command.id, Depot.grants?], ?_, rfl⟩
    simp [Depot.applied]
  | @removed id owner answer =>
    obtain rfl := calls.delete
    have revokes : d.authority.eraseGrants topic id = d.authority := Authority.eraseGrants_of_missing stands
    have effect : d.applied time topic (.delete id owner) = { d with store := (d.store.delete id).2 } := by
      simp only [Depot.applied, revokes]
    have again : ({ d with store := (d.store.delete id).2 } : Depot).applied time topic (.delete id owner) =
        { d with store := (d.store.delete id).2 } := by
      rw [← effect]
      exact Depot.applied_applied _ d
    exact ⟨again, again.trans effect.symm, rfl⟩

end ApplyPoint

theorem Control.handle_follows {topic : String} {value : List UInt8} {command : Command}
    (decoded : Command.decode value = .ok (some command)) :
    (handle topic value).Follows (ApplyRules topic command) (fun _ => ApplyPoint.Finished command) .begun := by
  unfold handle
  rw [decoded]
  apply Program.follows_bind (Program.follows_mapError (apply_follows topic command))
  intro outcome point finished
  exact Program.follows_report ⟨point, .report, finished⟩

theorem Control.handle_completes {moment : Moment} {topic : String} {value : List UInt8} {command : Command}
    (decoded : Command.decode value = .ok (some command)) {d : Depot} (registered : d.authority.isRegistered topic)
    (admitted : d.store.Admits command) : (handle topic value).Completes moment (fun _ _ => True) d := by
  unfold handle
  rw [decoded]
  apply Program.completes_bind (Program.completes_mapError (apply_completes registered admitted))
  exact fun _ _ _ => ⟨rfl, trivial⟩

end ModelDepot
