import ModelDepot.Proofs.ApplyCourse
import ModelDepot.Proofs.CleanupCourse
import ModelDepot.Proofs.Play

/-!
A consumer that applies commands while any number of cleanup passes run. A pass may remove a grant
just before its document arrives, but then it owes the grant until it has looked again. Main
statement: when no command is being applied and no pass is running, every stored document that was
put last has grants (`put_granted`).
-/
namespace ModelDepot

/-- A depot with a consumer, the passes that were begun, and the commands that the consumer has
    applied, the last one first. -/
structure Upkeep where
  depot : Depot
  applying : Option (Command × Program ControlError ApplyOutcome) := none
  passes : List (Program CleanupError CleanupReport) := []
  applied : List Command := []

namespace Upkeep

inductive Move where
  /-- The consumer, which is idle, takes up a command. -/
  | begin (command : Command)
  /-- The next call of the consumer succeeds. -/
  | call (moment : Moment)
  | finish
  /-- One more pass begins. -/
  | enter (cleanup : Cleanup)
  /-- The next call of the pass with the given number succeeds. -/
  | pass (number : Nat) (moment : Moment)

def act (topic : String) : Move → Upkeep → Option Upkeep
  | .begin command, s =>
    match s.applying with
    | some _ => none
    | none => some { s with applying := some (command, Control.apply topic command) }
  | .call moment, s =>
    match s.applying with
    | none => none
    | some (command, rest) =>
      (rest.advance moment s.depot).map fun (rest, depot) =>
        { s with depot := depot, applying := some (command, rest) }
  | .finish, s =>
    match s.applying with
    | some (command, .done _) => some { s with applying := none, applied := command :: s.applied }
    | _ => none
  | .enter cleanup, s => some { s with passes := s.passes ++ [cleanup.pass] }
  | .pass number moment, s =>
    match s.passes[number]? with
    | none => none
    | some rest =>
      (rest.advance moment s.depot).map fun (rest, depot) =>
        { s with depot := depot, passes := s.passes.set number rest }

/-- No command is being applied, and no pass is running. -/
def quiet (s : Upkeep) : Bool := s.applying.isNone && s.passes.all Program.ended

/-! ### What a pass owes -/

variable {topic : String} {s t : Upkeep}

/-- The id whose grant is removed at this point, and is looked after later. -/
def owedAt : PassPoint → Option String
  | .revoked _ id _ => some id
  | .arrived _ id _ => some id
  | _ => none

/-- What is left of a pass keeps to its course. -/
def Orderly (c : Cleanup) (rest : Program CleanupError CleanupReport) (point : PassPoint) : Prop :=
  rest.Follows (PassRules c) (fun _ => PassPoint.Finished) point

def Owes (topic id : String) (rest : Program CleanupError CleanupReport) : Prop :=
  ∃ c point, Orderly c rest point ∧ c.topic = topic ∧ owedAt point = some id

section
variable {c : Cleanup} {point next : PassPoint} {call : Call} {answer : call.Answer} {moment : Moment}
  {d after : Depot}

/-- A pass that owes a grant goes on to owe it, or finds no document, or puts grants back. -/
theorem owed_step {id : String} (rule : PassRules c point call answer next)
    (calls : d.Calls moment call answer after) (owed : owedAt point = some id) :
    owedAt next = some id ∨ d.row? id = none ∨ (after.grants? c.topic id).isSome := by
  cases rule with
  | settled =>
    obtain rfl := Option.some.inj owed
    have absent := calls.isSome_row?
    exact .inr (.inl (Option.isSome_eq_false_iff.mp absent |> Option.isNone_iff_eq_none.mp))
  | restored =>
    obtain rfl := Option.some.inj owed
    exact .inr (.inr (by simp [calls.grants?, Call.grantsAfter]))
  | report => exact .inl owed
  | arrived => exact .inl owed
  | _ => cases owed

/-- A pass that removes a grant owes it. -/
theorem granted_step {id : String} (rule : PassRules c point call answer next)
    (calls : d.Calls moment call answer after) (granted : (d.grants? topic id).isSome) :
    (after.grants? topic id).isSome ∨ c.topic = topic ∧ owedAt next = some id := by
  cases rule with
  | @revoked listed other held answer =>
    by_cases same : topic = c.topic ∧ id = other
    · exact .inr ⟨same.1.symm, congrArg some same.2.symm⟩
    · exact .inl (by simp only [calls.grants?, Call.grantsAfter, same, ↓reduceIte]; exact granted)
  | restored =>
    left
    rw [calls.grants?]
    exact Call.isSome_grantsAfter_set granted
  | _ => exact .inl (by rw [calls.grants?]; exact granted)

/-- A pass stores nothing. -/
theorem row_step (rule : PassRules c point call answer next) (calls : d.Calls moment call answer after) (id : String) :
    after.row? id = d.row? id ∨ after.row? id = none := by
  cases rule with
  | @deleted listed stale other answer =>
    simp only [calls.row?, Call.rowAfter]
    split
    · exact .inr rfl
    · exact .inl rfl
  | _ => exact .inl (calls.row? id)

end

/-! ### The invariant -/

/-- If the document is stored, it has grants, or a pass owes them. -/
def Vouched (s : Upkeep) (topic id : String) : Prop :=
  (s.depot.row? id).isSome → (s.depot.grants? topic id).isSome ∨ ∃ rest ∈ s.passes, Owes topic id rest

/-- The last command on the id that was applied has stored a document. -/
def PutLast (s : Upkeep) (id : String) : Prop :=
  ∃ owner document, s.applied.find? (·.id == id) = some (.put owner document)

structure Kept (topic : String) (s : Upkeep) : Prop where
  passes : ∀ rest ∈ s.passes, ∃ c point, Orderly c rest point
  /-- A document that was secured is vouched for while the command comes to its end. -/
  applying : ∀ command rest, s.applying = some (command, rest) →
    ∃ point, rest.Follows (ApplyRules topic command) (fun _ => ApplyPoint.Finished command) point ∧
      ∀ document, point = .secured document → s.Vouched topic command.id
  applied : ∀ id, s.PutLast id → (∃ command rest, s.applying = some (command, rest) ∧ command.id = id) ∨
    s.Vouched topic id

/-! ### Steps of passes -/

theorem mem_set_or {α : Type} {items : List α} {number : Nat} {old item : α} (at_number : items[number]? = some old)
    (member : item ∈ items) (new : α) : item = old ∨ item ∈ items.set number new := by
  obtain ⟨k, at_k⟩ := List.mem_iff_getElem?.mp member
  by_cases here : number = k
  · subst here
    exact .inl (Option.some.inj (at_k.symm.trans at_number))
  · exact .inr (List.mem_iff_getElem?.mpr ⟨k, by rw [List.getElem?_set_ne here]; exact at_k⟩)

/-- A call of a pass keeps documents vouched for. -/
theorem vouched_pass {number : Nat} {moment : Moment} {p q : Program CleanupError CleanupReport} {after : Depot}
    {id : String} (orderly : ∃ c point, Orderly c p point) (at_number : s.passes[number]? = some p)
    (moved : p.advance moment s.depot = some (q, after)) (vouched : s.Vouched topic id) :
    Vouched { s with depot := after, passes := s.passes.set number q } topic id := by
  intro stored
  have here : q ∈ s.passes.set number q := List.mem_set (List.getElem?_eq_some_iff.mp at_number).1 q
  obtain ⟨c, point, follows⟩ := orderly
  obtain ⟨call, answer, next, rule, onward, calls⟩ := Program.follows_advance follows moved
  have storedBefore : (s.depot.row? id).isSome := by
    rcases row_step rule calls id with same | gone
    · rw [← same]; exact stored
    · rw [show Depot.row? _ id = none from gone] at stored
      cases stored
  rcases vouched storedBefore with granted | ⟨other, member, c', point', follows', sameTopic, owed⟩
  · rcases granted_step rule calls granted with granted | ⟨sameTopic, owed⟩
    · exact .inl granted
    · exact .inr ⟨q, here, c, next, onward, sameTopic, owed⟩
  · rcases mem_set_or at_number member q with rfl | member
    · obtain ⟨call, answer, next, rule, onward, calls⟩ := Program.follows_advance follows' moved
      rcases owed_step rule calls owed with owed | absent | granted
      · exact .inr ⟨q, here, c', next, onward, sameTopic, owed⟩
      · rw [absent] at storedBefore
        cases storedBefore
      · exact .inl (sameTopic ▸ granted)
    · exact .inr ⟨other, member, c', point', follows', sameTopic, owed⟩

theorem kept_pass {number : Nat} {moment : Moment} {p q : Program CleanupError CleanupReport} {after : Depot}
    (kept : s.Kept topic) (at_number : s.passes[number]? = some p)
    (moved : p.advance moment s.depot = some (q, after)) :
    Kept topic { s with depot := after, passes := s.passes.set number q } := by
  have orderly := kept.passes p (List.mem_of_getElem? at_number)
  refine ⟨?_, ?_, ?_⟩
  · intro rest member
    rcases List.mem_or_eq_of_mem_set member with old | rfl
    · exact kept.passes rest old
    · obtain ⟨c, point, follows⟩ := orderly
      obtain ⟨_, _, next, _, onward, _⟩ := Program.follows_advance follows moved
      exact ⟨c, next, onward⟩
  · intro command rest applying
    obtain ⟨point, follows, secured⟩ := kept.applying command rest applying
    exact ⟨point, follows, fun document isSecured => vouched_pass orderly at_number moved (secured document isSecured)⟩
  · intro id put
    rcases kept.applied id put with busy | vouched
    · exact .inl busy
    · exact .inr (vouched_pass orderly at_number moved vouched)

/-! ### Steps of the consumer -/

section
variable {command : Command} {point next : ApplyPoint} {call : Call} {answer : call.Answer}
  {moment : Moment} {d after : Depot}

/-- Applying a command leaves other documents and their grants alone. -/
theorem elsewhere_step {id : String} (rule : ApplyRules topic command point call answer next)
    (other : id ≠ command.id) :
    (∀ row, call.rowAfter id row = row) ∧ ∀ grants, call.grantsAfter topic id grants = grants := by
  cases rule with
  | seeded => exact ⟨fun _ => rfl, fun _ => if_neg fun both => other both.2⟩
  | stored => exact ⟨fun _ => if_neg other, fun _ => rfl⟩
  | @storedNow _ document time =>
    rw [show (Command.put _ document).id = (document.stampIfUnset time).id by simp [Command.id]] at other
    exact ⟨fun _ => if_neg other, fun _ => rfl⟩
  | reseeded => exact ⟨fun _ => rfl, fun _ => if_neg fun both => other both.2⟩
  | revoked => exact ⟨fun _ => rfl, fun _ => if_neg fun both => other both.2⟩
  | removed => exact ⟨fun _ => if_neg other, fun _ => rfl⟩
  | _ => exact ⟨fun _ => rfl, fun _ => rfl⟩

/-- A document becomes secured only when it has grants. -/
theorem secured_step {document : Document} (rule : ApplyRules topic command point call answer next)
    (calls : d.Calls moment call answer after) (secured : next = .secured document) :
    point = .secured document ∧ call.Harmless ∨ (after.grants? topic command.id).isSome := by
  cases rule with
  | report => exact .inl ⟨secured, trivial⟩
  | secured =>
    right
    rw [calls.grants?]
    exact Option.isSome_iff_exists.mpr ⟨_, calls.grants?_eq⟩
  | reseeded => exact .inr (by simp [calls.grants?, Call.grantsAfter, Command.id])
  | _ => cases secured

end

theorem kept_call {command : Command} {rest onward : Program ControlError ApplyOutcome} {moment : Moment}
    {after : Depot} (kept : s.Kept topic) (applying : s.applying = some (command, rest))
    (moved : rest.advance moment s.depot = some (onward, after)) :
    Kept topic { s with depot := after, applying := some (command, onward) } := by
  obtain ⟨point, follows, secured⟩ := kept.applying command rest applying
  obtain ⟨call, answer, next, rule, continues, calls⟩ := Program.follows_advance follows moved
  refine ⟨kept.passes, ?_, ?_⟩
  · intro command' rest' same
    obtain ⟨rfl, rfl⟩ := Prod.mk.inj (Option.some.inj same)
    refine ⟨next, continues, fun document isSecured stored => ?_⟩
    rcases secured_step rule calls isSecured with ⟨before, harmless⟩ | granted
    · have sameRow : after.row? command.id = s.depot.row? command.id := by
        rw [calls.row?, Call.rowAfter_harmless harmless]
      have sameGrants : after.grants? topic command.id = s.depot.grants? topic command.id := by
        rw [calls.grants?, Call.grantsAfter_harmless harmless]
      rcases secured document before (sameRow ▸ stored) with granted | owed
      · exact .inl (sameGrants ▸ granted)
      · exact .inr owed
    · exact .inl granted
  · intro id put
    rcases kept.applied id put with ⟨command', rest', same, isId⟩ | vouched
    · obtain ⟨rfl, rfl⟩ := Prod.mk.inj (Option.some.inj (applying.symm.trans same))
      exact .inl ⟨command, onward, rfl, isId⟩
    · by_cases here : id = command.id
      · exact .inl ⟨command, onward, rfl, here.symm⟩
      · obtain ⟨sameRow, sameGrants⟩ := elsewhere_step rule here
        right
        intro stored
        rw [show Depot.row? _ id = s.depot.row? id from (calls.row? id).trans (sameRow _)] at stored
        rw [show Depot.grants? _ topic id = s.depot.grants? topic id from (calls.grants? topic id).trans (sameGrants _)]
        exact vouched stored

theorem kept_finish {command : Command} {result : Except ControlError ApplyOutcome}
    (kept : s.Kept topic) (applying : s.applying = some (command, .done result)) :
    Kept topic { s with applying := none, applied := command :: s.applied } := by
  obtain ⟨point, follows, secured⟩ := kept.applying command _ applying
  refine ⟨kept.passes, nofun, ?_⟩
  intro id put
  obtain ⟨owner, document, last⟩ := put
  right
  by_cases here : command.id = id
  · obtain rfl : command = .put owner document := by simpa [here] using last
    cases result with
    | error problem => exact follows.elim
    | ok outcome =>
      cases point with
      | secured stored => exact here ▸ secured stored rfl
      | _ => exact follows.elim
  · have before : s.PutLast id := ⟨owner, document, by simpa [here] using last⟩
    rcases kept.applied id before with ⟨command', rest, same, isId⟩ | vouched
    · obtain ⟨rfl, _⟩ := Prod.mk.inj (Option.some.inj (applying.symm.trans same))
      exact (here isId).elim
    · exact vouched

/-! ### Runs -/

theorem kept_act {move : Move} (kept : s.Kept topic) (moved : act topic move s = some t) : t.Kept topic := by
  cases move with
  | begin command =>
    simp only [act] at moved
    split at moved
    · simp at moved
    · rename_i idle
      obtain rfl := Option.some.inj moved
      refine ⟨kept.passes, ?_, ?_⟩
      · intro command' rest same
        obtain ⟨rfl, rfl⟩ := Prod.mk.inj (Option.some.inj same)
        exact ⟨.begun, Control.apply_follows topic command, fun _ isSecured => by cases isSecured⟩
      · intro id put
        rcases kept.applied id put with ⟨_, _, busy, _⟩ | vouched
        · rw [idle] at busy
          cases busy
        · exact .inr vouched
  | call moment =>
    simp only [act] at moved
    split at moved
    · simp at moved
    · rename_i command rest applying
      obtain ⟨⟨onward, after⟩, advanced, rfl⟩ := Option.map_eq_some_iff.mp moved
      exact kept_call kept applying advanced
  | finish =>
    simp only [act] at moved
    split at moved
    · rename_i command result applying
      obtain rfl := Option.some.inj moved
      exact kept_finish kept applying
    · simp at moved
  | enter c =>
    obtain rfl := Option.some.inj moved
    have more : ∀ id, s.Vouched topic id → Vouched { s with passes := s.passes ++ [c.pass] } topic id := by
      intro id vouched stored
      rcases vouched stored with granted | ⟨rest, member, owes⟩
      · exact .inl granted
      · exact .inr ⟨rest, List.mem_append_left _ member, owes⟩
    refine ⟨?_, ?_, fun id put => (kept.applied id put).imp (fun busy => busy) (more id)⟩
    · intro rest member
      rcases List.mem_append.mp member with old | new
      · exact kept.passes rest old
      · rw [List.mem_singleton.mp new]
        exact ⟨c, .listing ∅, c.pass_follows⟩
    · intro command rest applying
      obtain ⟨point, follows, secured⟩ := kept.applying command rest applying
      exact ⟨point, follows, fun document isSecured => more _ (secured document isSecured)⟩
  | pass number moment =>
    simp only [act] at moved
    split at moved
    · simp at moved
    · rename_i rest at_number
      obtain ⟨⟨onward, after⟩, advanced, rfl⟩ := Option.map_eq_some_iff.mp moved
      exact kept_pass kept at_number advanced

/-- Whatever the depot holds at first, and however the calls of the consumer and of the passes come
    after one another: when no command is being applied and no pass is running, a stored document
    whose last applied command put it has grants. -/
theorem put_granted {topic : String} {d : Depot} {moves : List Move} {s : Upkeep}
    (reached : play (act topic) moves { depot := d } = some s) (quiet : s.quiet) {id owner : String}
    {document : Document} (last : s.applied.find? (·.id == id) = some (.put owner document))
    (stored : (s.depot.row? id).isSome) : (s.depot.grants? topic id).isSome := by
  have start : Kept topic { depot := d } := by
    refine ⟨nofun, nofun, ?_⟩
    rintro id ⟨_, _, last⟩
    cases last
  have kept := play_keeps (fun _ _ _ => kept_act) start reached
  obtain ⟨idle, calm⟩ := Bool.and_eq_true_iff.mp quiet
  rcases kept.applied id ⟨owner, document, last⟩ with ⟨_, _, busy, _⟩ | vouched
  · rw [busy] at idle
    cases idle
  rcases vouched stored with granted | ⟨rest, member, c, point, follows, _, owed⟩
  · exact granted
  obtain ⟨result, rfl⟩ := Program.ended_iff.mp (List.all_eq_true.mp calm rest member)
  cases result with
  | error problem => exact follows.elim
  | ok report =>
    cases point with
    | deleting listed stale => cases owed
    | _ => exact follows.elim

/-- A grant without a document. -/
def orphaned : Depot where
  store := .empty
  authority := (({} : Authority).register (.ofTopic "t")).setGrants "t" "p" (.forOwner "bob")
  log := .new 1

/-- The document of a grant arrives while a pass removes the grant, which both put back. -/
def crossing : List Move :=
  let moment : Moment := ⟨100, "x"⟩
  [.enter { topic := "t" }, .pass 0 moment, .pass 0 moment, .pass 0 moment, .pass 0 moment,
    .begin (.put "ann" { id := "p", lastUpdated := 90 }), .call moment, .call moment, .pass 0 moment, .call moment,
    .call moment, .call moment, .call moment, .finish, .pass 0 moment, .pass 0 moment, .pass 0 moment,
    .pass 0 moment, .pass 0 moment]

theorem put_granted_crossing :
    ∃ s, play (act "t") crossing { depot := orphaned } = some s ∧ s.quiet ∧ (s.depot.row? "p").isSome ∧
      (s.depot.grants? "t" "p").isSome := by
  have played : (play (act "t") crossing { depot := orphaned }).any (fun s => s.quiet &&
      s.applied.find? (·.id == "p") == some (.put "ann" { id := "p", lastUpdated := 90 }) &&
      (s.depot.row? "p").isSome) := by decide
  obtain ⟨s, reached, holds⟩ := (Option.any_eq_true _ _).mp played
  simp only [Bool.and_eq_true, beq_iff_eq] at holds
  obtain ⟨⟨quiet, last⟩, stored⟩ := holds
  exact ⟨s, reached, quiet, stored, put_granted reached quiet last stored⟩

end Upkeep
end ModelDepot
