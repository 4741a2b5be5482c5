import ModelDepot.Proofs.ApplyAlone

/-!
The effects of commands. Those of commands on different resources can change places, and a command that is
applied once more has no further effect.
-/
namespace ModelDepot

namespace Store
variable (store : Store) {document other : Document} {id : String}

theorem holding_comm (different : document.id ≠ other.id) :
    (store.holding document).holding other = (store.holding other).holding document := by
  obtain ⟨columns, rows, indexes⟩ := store
  unfold holding upsert
  cases document.validate <;> cases other.validate <;> cases rows <;>
    simp [Table.put, Dict.insert_comm (a := document.id) (b := other.id), Row.ofDocument, different]

theorem holding_delete_comm (different : document.id ≠ id) :
    ((store.holding document).delete id).2 = ((store.delete id).2).holding document := by
  obtain ⟨columns, rows, indexes⟩ := store
  unfold holding upsert delete
  cases document.validate <;> cases rows <;>
    simp [Table.put, Table.erase, Dict.erase_insert_comm (a := document.id) (b := id), Row.ofDocument, different]

theorem delete_comm (id other : String) :
    ((store.delete id).2.delete other).2 = ((store.delete other).2.delete id).2 := by
  obtain ⟨columns, rows, indexes⟩ := store
  unfold delete
  cases rows <;> simp [Table.erase, Dict.erase_comm, Bool.and_comm]

@[simp] theorem holding_holding : (store.holding document).holding document = store.holding document := by
  obtain ⟨columns, rows, indexes⟩ := store
  unfold holding upsert
  cases document.validate <;> cases rows <;> simp [Table.put]

@[simp] theorem delete_delete (id : String) : ((store.delete id).2.delete id).2 = (store.delete id).2 := by
  obtain ⟨columns, rows, indexes⟩ := store
  unfold delete
  cases rows with
  | keyed rows => simp [Table.erase, Dict.erase_missing]
  | loose rows => simp [Table.erase]

end Store
namespace Authority
variable (a : Authority) (topic : String) {i j : String}

/-- The grants under a topic are exchanged as a whole. -/
def setTopic (ofTopic : Dict Grants) : Authority := { a with resources := a.resources.insert topic ofTopic }

@[simp] theorem setTopic_setTopic (first second : Dict Grants) :
    (a.setTopic topic first).setTopic topic second = a.setTopic topic second := by
  simp [setTopic]

@[simp] theorem grantsOf_setTopic (ofTopic : Dict Grants) : (a.setTopic topic ofTopic).grantsOf topic = ofTopic := by
  simp [setTopic, grantsOf]

theorem setGrants_eq (id : String) (grants : Grants) :
    a.setGrants topic id grants = a.setTopic topic ((a.grantsOf topic).insert id grants) := rfl

theorem eraseGrants_eq {ofTopic : Dict Grants} (known : a.resources[topic]? = some ofTopic) (id : String) :
    a.eraseGrants topic id = a.setTopic topic (ofTopic.erase id) := by
  simp only [eraseGrants, known, setTopic]

theorem eraseGrants_unknown (unknown : a.resources[topic]? = none) (id : String) : a.eraseGrants topic id = a := by
  simp only [eraseGrants, unknown]

@[simp] theorem eraseGrants_setTopic (ofTopic : Dict Grants) (id : String) :
    (a.setTopic topic ofTopic).eraseGrants topic id = a.setTopic topic (ofTopic.erase id) := by
  have known : (a.setTopic topic ofTopic).resources[topic]? = some ofTopic := by simp [setTopic]
  rw [eraseGrants_eq _ _ known, setTopic_setTopic]

@[simp] theorem setGrants_setGrants (id : String) (x y : Grants) :
    (a.setGrants topic id x).setGrants topic id y = a.setGrants topic id y := by
  simp [setGrants_eq]

theorem setGrants_comm (different : i ≠ j) (x y : Grants) :
    (a.setGrants topic i x).setGrants topic j y = (a.setGrants topic j y).setGrants topic i x := by
  simp [setGrants_eq, Dict.insert_comm different]

theorem setGrants_eraseGrants_comm (different : i ≠ j) (x : Grants) :
    (a.setGrants topic i x).eraseGrants topic j = (a.eraseGrants topic j).setGrants topic i x := by
  rw [setGrants_eq, eraseGrants_setTopic, Dict.erase_insert_comm different]
  cases known : a.resources[topic]? with
  | none =>
    have empty : a.grantsOf topic = ∅ := by simp only [grantsOf, known, Option.getD_none]
    rw [eraseGrants_unknown _ _ known, setGrants_eq, empty, Dict.erase_missing (by simp)]
  | some ofTopic =>
    have same : a.grantsOf topic = ofTopic := by simp only [grantsOf, known, Option.getD_some]
    rw [eraseGrants_eq _ _ known, setGrants_eq, grantsOf_setTopic, setTopic_setTopic, same]

theorem eraseGrants_comm (i j : String) :
    (a.eraseGrants topic i).eraseGrants topic j = (a.eraseGrants topic j).eraseGrants topic i := by
  cases known : a.resources[topic]? with
  | none => simp only [eraseGrants_unknown _ _ known]
  | some ofTopic => simp only [eraseGrants_eq _ _ known, eraseGrants_setTopic, Dict.erase_comm ofTopic i j]

theorem seeded_comm (different : i ≠ j) (first second : String) :
    (a.seeded topic first i).seeded topic second j = (a.seeded topic second j).seeded topic first i := by
  have back : j ≠ i := different.symm
  unfold seeded
  cases at_i : a.grants? topic i <;> cases at_j : a.grants? topic j <;>
    simp [at_i, at_j, different, back, setGrants_comm]

theorem seeded_eraseGrants_comm (different : i ≠ j) (owner : String) :
    (a.seeded topic owner i).eraseGrants topic j = (a.eraseGrants topic j).seeded topic owner i := by
  unfold seeded
  cases at_i : a.grants? topic i <;>
    simp [at_i, different, setGrants_eraseGrants_comm]

@[simp]
theorem seeded_seeded (owner id : String) : (a.seeded topic owner id).seeded topic owner id = a.seeded topic owner id :=
  seeded_of_granted grants?_seeded

@[simp] theorem eraseGrants_eraseGrants (id : String) :
    (a.eraseGrants topic id).eraseGrants topic id = a.eraseGrants topic id := by
  apply eraseGrants_of_missing
  simp

end Authority

namespace Depot
variable {time : Int64} {topic : String}

theorem applied_withLog (command : Command) (d : Depot) (log : Log) :
    { d with log := log }.applied time topic command = { d.applied time topic command with log := log } := by
  cases command <;> rfl

/-- Commands on different resources can change places. -/
theorem applied_comm {first second : Command} (different : first.id ≠ second.id) (d : Depot) :
    (d.applied time topic first).applied time topic second =
      (d.applied time topic second).applied time topic first := by
  have back := different.symm
  cases first <;> cases second <;> simp only [Command.id] at different back <;>
    simp only [applied]
  · rw [Authority.seeded_comm _ _ different, Store.holding_comm]
    simpa using different
  · rw [Authority.seeded_eraseGrants_comm _ _ different, Store.holding_delete_comm]
    simpa using different
  · rw [Authority.seeded_eraseGrants_comm _ _ back, Store.holding_delete_comm]
    simpa using back
  · rw [Authority.eraseGrants_comm, Store.delete_comm]

/-- A command that is applied once more has no further effect. -/
@[simp] theorem applied_applied (command : Command) (d : Depot) :
    (d.applied time topic command).applied time topic command = d.applied time topic command := by
  cases command <;> simp [applied]

/-- The depot after several commands, one after another. -/
def appliedAll (time : Int64) (topic : String) (commands : List Command) (d : Depot) : Depot :=
  commands.foldl (fun d command => d.applied time topic command) d

@[simp] theorem appliedAll_cons (command : Command) (more : List Command) (d : Depot) :
    d.appliedAll time topic (command :: more) = (d.applied time topic command).appliedAll time topic more := rfl

@[simp] theorem appliedAll_append (first second : List Command) (d : Depot) :
    d.appliedAll time topic (first ++ second) = (d.appliedAll time topic first).appliedAll time topic second :=
  List.foldl_append

theorem appliedAll_withLog (commands : List Command) (d : Depot) (log : Log) :
    { d with log := log }.appliedAll time topic commands = { d.appliedAll time topic commands with log := log } := by
  induction commands generalizing d with
  | nil => rfl
  | cons command more ih => rw [appliedAll_cons, applied_withLog, ih, appliedAll_cons]

/-- A command can be applied before others that are all on different resources. -/
theorem appliedAll_first {before : List Command} {command : Command}
    (different : ∀ other ∈ before, other.id ≠ command.id) (after : List Command) (d : Depot) :
    d.appliedAll time topic (before ++ command :: after) =
      (d.applied time topic command).appliedAll time topic (before ++ after) := by
  induction before generalizing d with
  | nil => rfl
  | cons other more ih =>
    rw [List.cons_append, appliedAll_cons, ih fun o member => different o (List.mem_cons_of_mem _ member),
      applied_comm (different other List.mem_cons_self), List.cons_append, appliedAll_cons]

/-- Commands register no topics. -/
@[simp] theorem topics_applied (command : Command) (d : Depot) :
    (d.applied time topic command).authority.topics = d.authority.topics := by
  cases command with
  | put owner document => exact Authority.topics_seeded
  | delete id owner => exact Authority.topics_eraseGrants _ _ _

@[simp] theorem topics_appliedAll (commands : List Command) (d : Depot) :
    (d.appliedAll time topic commands).authority.topics = d.authority.topics := by
  induction commands generalizing d with
  | nil => rfl
  | cons command more ih => simp [ih]

@[simp] theorem hasKey_applied (command : Command) (d : Depot) :
    (d.applied time topic command).store.table.HasKey ↔ d.store.table.HasKey := by
  cases command with
  | put owner document => exact Store.hasKey_holding
  | delete id owner => exact Table.hasKey_erase

/-- What the store can take does not depend on what it has taken. -/
@[simp] theorem admits_applied (command other : Command) (d : Depot) :
    (d.applied time topic command).store.Admits other ↔ d.store.Admits other := by
  cases other with
  | delete id owner => exact Iff.rfl
  | put owner document => simp [Store.Admits, Store.upsert_iff]

@[simp] theorem admits_appliedAll (commands : List Command) (other : Command) (d : Depot) :
    (d.appliedAll time topic commands).store.Admits other ↔ d.store.Admits other := by
  induction commands generalizing d with
  | nil => exact Iff.rfl
  | cons command more ih => simp [ih]

end Depot

/-- Applies commands one after another. -/
def Control.applyAll (topic : String) : List Command → Program ControlError Unit
  | [] => pure ()
  | command :: more => do
    let _ ← apply topic command
    applyAll topic more

theorem Control.applyAll_completes {moment : Moment} {topic : String} {commands : List Command} {d : Depot}
    (registered : d.authority.isRegistered topic) (admitted : ∀ command ∈ commands, d.store.Admits command) :
    (applyAll topic commands).Completes moment (fun _ e => e = d.appliedAll moment.time topic commands) d := by
  induction commands generalizing d with
  | nil => rfl
  | cons command more ih =>
    apply Program.completes_bind (apply_completes registered (admitted command List.mem_cons_self))
    rintro _ _ rfl
    refine ih ?_ fun other member => ?_
    · simpa [Authority.isRegistered] using registered
    · simpa using admitted other (List.mem_cons_of_mem _ member)

end ModelDepot
