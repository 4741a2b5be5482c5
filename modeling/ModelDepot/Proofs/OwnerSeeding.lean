import ModelDepot.Proofs.Contents
import ModelDepot.Proofs.Race
import ModelDepot.Proofs.RequestCourse

/-!
Requests publish documents while published ones are applied, in any order and as often as they are delivered. Missing
grants are given to the one whom the command names, which is who published it, and not to the document's owner as a
backfill does. Main statement: in which depots nobody else can be given them (`seeds_owner_iff`).
-/
namespace ModelDepot

/-- Different owners are given different grants. -/
theorem Grants.forOwner_inj {owner other : String} (same : forOwner owner = forOwner other) : owner = other := by
  have users : (forOwner other).users[owner]? = some Rights.full := by
    rw [← same]
    exact Std.ExtTreeMap.getElem?_insert_self
  by_contra different
  have missing : (forOwner other).users[owner]? = none := by
    unfold forOwner
    rw [Std.ExtTreeMap.getElem?_insert, if_neg (by simpa using Ne.symm different)]
    rfl
  rw [missing] at users
  cases users

/-- An administrator's change of the publication, alone. -/
theorem Control.changePublication_completes {channel : Channel} {caller : Caller} {id : String} {change : PublishChange}
    {document : Document} {moment : Moment} {d : Depot} {place : Nat × Nat} {log : Log} (isAdmin : caller.isAdmin)
    (got : d.store.get id = .ok (some document)) (named : Text.allBlank document.id = false)
    (appended : d.log.append channel.topic
        (Command.put caller.user (changed document change moment.time)).entry.key
        (Command.put caller.user (changed document change moment.time)).entry.value = .ok (place, log)) :
    (changePublication channel caller id change).Completes moment (fun _ e => e = { d with log := log }) d := by
  apply Program.completes_bind (Q := fun found e => e = d ∧ found = document)
  · apply Program.completes_bind (Q := fun allowed e => e = d ∧ allowed = true)
    · unfold check
      rw [if_pos isAdmin]
      exact ⟨rfl, rfl⟩
    rintro _ d ⟨rfl, rfl⟩
    apply Program.completes_bind (Q := fun found e => e = d ∧ found = some document)
    · exact Program.completes_store (congrArg (·, d.store) got) ⟨rfl, rfl⟩
    rintro _ d ⟨rfl, rfl⟩
    exact ⟨rfl, rfl⟩
  rintro document d ⟨rfl, rfl⟩
  apply Program.completes_bind (Q := fun time e => e = d ∧ time = moment.time)
  · exact Program.completes_now ⟨rfl, rfl⟩
  rintro _ d ⟨rfl, rfl⟩
  apply Program.completes_bind (Q := fun _ e => e = { d with log := log })
  · unfold publish
    apply Program.completes_bind (Q := fun _ e => e = { d with log := log })
    · apply Program.completes_mapError
      have isNamed : Text.allBlank (Command.put caller.user (changed document change moment.time)).id = false :=
        named
      exact Program.completes_mono (Channel.publish_completes isNamed appended) fun _ _ ended => ended.2
    · exact fun _ _ ended => ended
  · exact fun _ _ ended => ended

/-- Grants that were given because a document had none. -/
structure Seed where
  document : Document
  grants : Grants
  deriving DecidableEq

/-- A depot with its requests, and the commands that are taken from the log and applied. -/
structure Seeding where
  depot : Depot
  requests : List (Program ControlError Document) := []
  applies : List (Command × Program ControlError ApplyOutcome) := []
  /-- What was given by applying commands. -/
  seeds : List Seed := []

namespace Seeding

inductive Move where
  | request (caller : Caller) (request : PublishRequest)
  /-- The next call of the request with the given number succeeds. -/
  | call (number : Nat) (moment : Moment)
  /-- The record at this place is delivered, be it for the first time or again. -/
  | take (partition offset : Nat)
  /-- The next call for the delivery with the given number succeeds. -/
  | apply (number : Nat) (moment : Moment)

/-- The grants that the next call of applying a command gives. -/
def given : Command × Program ControlError ApplyOutcome → List Seed
  | (.put _ document, .ask (.authority (.setPermission _ _ grants)) _) => [⟨document, grants⟩]
  | _ => []

/-- A request or a delivery whose calls fail ends there, as if it were left alone from then on. -/
def act (channel : Channel) : Move → Seeding → Option Seeding
  | .request caller request, s => some { s with requests := s.requests ++ [request.program channel caller] }
  | .call number moment, s =>
    s.requests[number]?.bind fun request =>
      (request.advance moment s.depot).map fun (rest, depot) =>
        { s with depot := depot, requests := s.requests.set number rest }
  | .take partition offset, s =>
    (s.depot.log.entryAt? channel.topic partition offset).bind fun entry =>
      match Command.decode entry.value with
      | .ok (some command) =>
        some { s with applies := s.applies ++ [(command, Control.apply channel.topic command)] }
      | _ => none
  | .apply number moment, s =>
    s.applies[number]?.bind fun delivery =>
      (delivery.2.advance moment s.depot).map fun (rest, depot) =>
        { s with
          depot := depot
          applies := s.applies.set number (delivery.1, rest)
          seeds := s.seeds ++ given delivery }

/-! ### What is known of grants -/

/-- A request publishes such a command. -/
def Published : Command → Prop
  | .put _ document => Text.allBlank document.id = false
  | .delete .. => False

/-- Where the command could give grants to someone else, there are some. -/
def Spared (topic : String) (d : Depot) : Command → Prop
  | .put owner document => document.owner ≠ owner → (d.grants? topic document.id).isSome
  | .delete .. => True

/-- Every document that can be read has grants. -/
def Covered (topic : String) (d : Depot) : Prop :=
  ∀ id document, d.store.get id = .ok (some document) → (d.grants? topic id).isSome

/-- What a request has seen has grants, and so has what it will publish unless that is its own. -/
def Knows (topic : String) (caller : Caller) (d : Depot) : RequestPoint → Prop
  | .seen id (some stored) => stored.id = id ∧ (d.grants? topic id).isSome
  | .dated document => Spared topic d (.put caller.user document)
  | _ => True

def RequestStands (channel : Channel) (d : Depot) (request : Program ControlError Document) : Prop :=
  ∃ caller point, request.Obeys (RequestRules channel caller) (fun _ _ => True) point ∧
    Knows channel.topic caller d point

def DeliveryStands (topic : String) (d : Depot) (delivery : Command × Program ControlError ApplyOutcome) : Prop :=
  ∃ owner document point, delivery.1 = .put owner document ∧
    delivery.2.Follows (ApplyRules topic (.put owner document)) (fun _ => ApplyPoint.Finished (.put owner document))
      point ∧
    Race.Granted (document.owner ≠ owner) topic document.id d point

/-- The log carries published commands, and none of them can give grants to someone else. -/
structure Kept (channel : Channel) (s : Seeding) : Prop where
  keyed : s.depot.store.table.Keyed
  covered : Covered channel.topic s.depot
  carries : ∃ commands, s.depot.log.Carries channel.topic commands ∧
    ∀ command ∈ commands, Published command ∧ Spared channel.topic s.depot command
  requests : ∀ request ∈ s.requests, RequestStands channel s.depot request
  applies : ∀ delivery ∈ s.applies, DeliveryStands channel.topic s.depot delivery
  seeds : ∀ seed ∈ s.seeds, seed.grants = .forOwner seed.document.owner

variable {channel : Channel} {topic : String} {caller : Caller} {owner : String} {document : Document}
  {moment : Moment} {s t : Seeding} {d after : Depot}

/-! ### When there are more grants -/

section
variable (more : ∀ id, (d.grants? topic id).isSome → (after.grants? topic id).isSome)
include more

theorem Spared.mono {command : Command} (spared : Spared topic d command) : Spared topic after command := by
  cases command with
  | put owner document => exact fun other => more _ (spared other)
  | delete id owner => trivial

theorem Knows.mono {point : RequestPoint} (knows : Knows topic caller d point) : Knows topic caller after point := by
  cases point with
  | seen id found =>
    cases found with
    | none => trivial
    | some stored => exact ⟨knows.1, more id knows.2⟩
  | dated document => exact fun other => more _ (knows other)
  | asked => trivial
  | published => trivial

theorem DeliveryStands.mono {delivery : Command × Program ControlError ApplyOutcome}
    (stands : DeliveryStands topic d delivery) : DeliveryStands topic after delivery := by
  obtain ⟨owner, document, point, isPut, follows, granted⟩ := stands
  exact ⟨owner, document, point, isPut, follows, granted.mono (more document.id)⟩

end

theorem Covered.mono (covered : Covered topic d)
    (rows : ∀ id, after.row? id = d.row? id ∨ (after.grants? topic id).isSome)
    (more : ∀ id, (d.grants? topic id).isSome → (after.grants? topic id).isSome) : Covered topic after := by
  intro id document got
  rcases rows id with same | granted
  · have asBefore : after.store.get id = d.store.get id := by
      unfold Store.get
      rw [show after.store.table.find? id = d.store.table.find? id from same]
    exact more id (covered id document (asBefore ▸ got))
  · exact granted

/-- The depot is another one, with more grants. -/
theorem Kept.grow (kept : s.Kept channel) (keyed : after.store.table.Keyed) (covered : Covered channel.topic after)
    (more : ∀ id, (s.depot.grants? channel.topic id).isSome → (after.grants? channel.topic id).isSome)
    (carries : ∃ commands, after.log.Carries channel.topic commands ∧
      ∀ command ∈ commands, Published command ∧ Spared channel.topic after command) :
    Kept channel { s with depot := after } where
  keyed := keyed
  covered := covered
  carries := carries
  requests request member := by
    obtain ⟨caller, point, obeys, knows⟩ := kept.requests request member
    exact ⟨caller, point, obeys, knows.mono more⟩
  applies delivery member := (kept.applies delivery member).mono more
  seeds := kept.seeds

/-- Where the log stays as it is. -/
theorem Kept.carries_of_log (kept : s.Kept channel) (log : after.log = s.depot.log)
    (more : ∀ id, (s.depot.grants? channel.topic id).isSome → (after.grants? channel.topic id).isSome) :
    ∃ commands, after.log.Carries channel.topic commands ∧
      ∀ command ∈ commands, Published command ∧ Spared channel.topic after command := by
  obtain ⟨commands, carries, fit⟩ := kept.carries
  exact ⟨commands, log ▸ carries, fun command member => (fit command member).imp_right (Spared.mono more)⟩

/-! ### Requests -/

/-- A request stores nothing and leaves grants alone. -/
theorem request_harmless {point next : RequestPoint} {call : Call} {answer : call.Answer}
    (rule : RequestRules channel caller point call answer next) : call.Harmless := by
  cases rule <;> trivial

/-- What a request looks at has grants, so that it publishes nothing that could give them to the caller. -/
theorem knows_step {point next : RequestPoint} {call : Call} {answer : call.Answer}
    (rule : RequestRules channel caller point call answer next) (calls : d.Calls moment call answer after)
    (keyed : d.store.table.Keyed) (covered : Covered channel.topic d) (knows : Knows channel.topic caller d point) :
    Knows channel.topic caller d next := by
  cases rule with
  | report => exact knows
  | named => trivial
  | checked => trivial
  | @seen id found =>
    cases found with
    | none => trivial
    | some stored =>
      have got : d.store.get id = .ok (some stored) := congrArg Prod.fst calls.answered
      obtain ⟨row, isRow, read⟩ := Store.row_of_get got
      exact ⟨(Row.content_of_toDocument read).1.trans (keyed.id_eq isRow), covered id stored got⟩
  | created own => exact fun other => (other own).elim
  | @updated id found time document same own =>
    cases found with
    | none => exact fun other => (other own).elim
    | some stored => exact fun _ => same ▸ knows.2
  | changed => exact fun _ => knows.1 ▸ knows.2
  | published => trivial

theorem kept_call {number : Nat} (kept : s.Kept channel) (moved : act channel (.call number moment) s = some t) :
    t.Kept channel := by
  obtain ⟨request, at_number, advanced⟩ := Option.bind_eq_some_iff.mp moved
  obtain ⟨⟨rest, after⟩, called, rfl⟩ := Option.map_eq_some_iff.mp advanced
  obtain ⟨caller, point, obeys, knows⟩ := kept.requests request (List.mem_of_getElem? at_number)
  obtain ⟨call, answer, next, rule, onward, calls⟩ := Program.obeys_advance obeys called
  have harmless := request_harmless rule
  have more : ∀ id, (s.depot.grants? channel.topic id).isSome → (after.grants? channel.topic id).isSome := by
    intro id granted
    rw [calls.grants?, Call.grantsAfter_harmless harmless]
    exact granted
  have rows : ∀ id, after.row? id = s.depot.row? id := fun id =>
    (calls.row? id).trans (Call.rowAfter_harmless harmless id _)
  have knowsNext := (knows_step rule calls kept.keyed kept.covered knows).mono more
  have carries : ∃ commands, after.log.Carries channel.topic commands ∧
      ∀ command ∈ commands, Published command ∧ Spared channel.topic after command := by
    cases rule with
    | @published document place named =>
      obtain ⟨commands, carries, fit⟩ := kept.carries
      obtain ⟨log, appends, rfl⟩ := calls.appended
      refine ⟨_, (carries.append appends).1, fun command member => ?_⟩
      rcases List.mem_append.mp member with old | new
      · exact fit command old
      · rw [List.mem_singleton.mp new]
        exact ⟨named, knows⟩
    | _ => exact kept.carries_of_log (calls.log_eq rfl) more
  have grown := kept.grow (calls.keyed kept.keyed) (kept.covered.mono (fun id => .inl (rows id)) more) more carries
  refine { grown with requests := ?_ }
  intro other member
  rcases List.mem_or_eq_of_mem_set member with old | rfl
  · exact grown.requests other old
  · exact ⟨caller, next, onward, knowsNext⟩

/-! ### Deliveries -/

/-- Putting a document changes no other row, and its own when it is stored. -/
theorem row_rule {point next : ApplyPoint} {call : Call} {answer : call.Answer}
    (rule : ApplyRules topic (.put owner document) point call answer next) (calls : d.Calls moment call answer after)
    (id : String) : after.row? id = d.row? id ∨ id = document.id ∧ ∃ stored, next = .stored stored := by
  have lands : ∀ held : Document, held.id = document.id → call = .store (.upsert held) → next = .stored held →
      after.row? id = d.row? id ∨ id = document.id ∧ ∃ stored, next = .stored stored := by
    rintro held sameId rfl isNext
    by_cases here : id = document.id
    · exact .inr ⟨here, held, isNext⟩
    · exact .inl ((calls.row? id).trans (if_neg (sameId ▸ here)))
  cases rule with
  | stored => exact lands document rfl rfl rfl
  | storedNow => exact lands _ (Document.id_stampIfUnset _ _) rfl rfl
  | _ => exact .inl (calls.row? id)

/-- Where grants would be someone else's, none are given. -/
theorem given_rule {point next : ApplyPoint} {call : Call} {answer : call.Answer}
    (rule : ApplyRules topic (.put owner document) point call answer next)
    (granted : Race.Granted (document.owner ≠ owner) topic document.id d point)
    (cont : call.Answer → Program ControlError ApplyOutcome) {seed : Seed}
    (member : seed ∈ given (.put owner document, .ask call cont)) : seed.grants = .forOwner seed.document.owner := by
  cases rule with
  | seeded =>
    rw [List.mem_singleton.mp member]
    exact congrArg Grants.forOwner (not_not.mp granted).symm
  | reseeded => exact granted.elim
  | _ => cases member

theorem kept_apply {number : Nat} (kept : s.Kept channel) (moved : act channel (.apply number moment) s = some t) :
    t.Kept channel := by
  obtain ⟨⟨command, program⟩, at_number, advanced⟩ := Option.bind_eq_some_iff.mp moved
  obtain ⟨⟨rest, after⟩, called, rfl⟩ := Option.map_eq_some_iff.mp advanced
  obtain ⟨owner, document, point, rfl, follows, granted⟩ := kept.applies _ (List.mem_of_getElem? at_number)
  obtain ⟨call, cont, answer, rfl, rfl, calls⟩ := Program.advance_eq_some.mp called
  obtain ⟨next, rule, onward⟩ := follows.1 answer calls.succeeded
  have more : ∀ id, (s.depot.grants? channel.topic id).isSome → (after.grants? channel.topic id).isSome := fun id =>
    Race.granted_step rule calls
  have grantedNext := (Race.granted_rule rule calls granted).1
  have rows : ∀ id, after.row? id = s.depot.row? id ∨ (after.grants? channel.topic id).isSome := by
    intro id
    refine (row_rule rule calls id).imp_right ?_
    rintro ⟨rfl, stored, rfl⟩
    exact grantedNext
  have quiet : call.publishes = false := by cases rule <;> rfl
  have grown := kept.grow (calls.keyed kept.keyed) (kept.covered.mono rows more) more
    (kept.carries_of_log (calls.log_eq quiet) more)
  refine { grown with applies := ?_, seeds := ?_ }
  · intro other member
    rcases List.mem_or_eq_of_mem_set member with old | rfl
    · exact grown.applies other old
    · exact ⟨owner, document, next, rfl, onward, grantedNext⟩
  · intro seed member
    rcases List.mem_append.mp member with old | new
    · exact kept.seeds seed old
    · exact given_rule rule granted cont new

/-- What is delivered is one of the commands in the log. -/
theorem kept_take {partition offset : Nat} (kept : s.Kept channel)
    (moved : act channel (.take partition offset) s = some t) : t.Kept channel := by
  obtain ⟨entry, found, taken⟩ := Option.bind_eq_some_iff.mp moved
  obtain ⟨commands, carries, fit⟩ := kept.carries
  obtain ⟨command, member, rfl⟩ := carries.command_of_entryAt found
  obtain ⟨published, spared⟩ := fit command member
  cases command with
  | delete id owner => exact published.elim
  | put owner document =>
    have decoded : Command.decode (Command.put owner document).entry.value = .ok (some (.put owner document)) :=
      Command.decode_entry published
    simp only [decoded] at taken
    obtain rfl := Option.some.inj taken
    refine { kept with applies := ?_ }
    intro delivery member
    rcases List.mem_append.mp member with old | new
    · exact kept.applies delivery old
    · rw [List.mem_singleton.mp new]
      exact ⟨owner, document, .begun, rfl, Control.apply_follows _ _, spared⟩

theorem kept_act {move : Move} (kept : s.Kept channel) (moved : act channel move s = some t) : t.Kept channel := by
  cases move with
  | request caller request =>
    obtain rfl := Option.some.inj moved
    refine { kept with requests := ?_ }
    intro other member
    rcases List.mem_append.mp member with old | new
    · exact kept.requests other old
    · rw [List.mem_singleton.mp new]
      exact ⟨caller, .asked, request.obeys channel caller, trivial⟩
  | call number moment => exact kept_call kept moved
  | take partition offset => exact kept_take kept moved
  | apply number moment => exact kept_apply kept moved

/-! ### Grants for someone else -/

theorem act_apply {number : Nat} {command : Command} {program rest : Program ControlError ApplyOutcome}
    (at_number : s.applies[number]? = some (command, program))
    (advanced : program.advance moment s.depot = some (rest, after)) :
    act channel (.apply number moment) s =
      some { s with
        depot := after
        applies := s.applies.set number (command, rest)
        seeds := s.seeds ++ given (command, program) } := by
  simp only [act, at_number, Option.bind_some, advanced, Option.map_some]

/-- A command in the log is delivered, and gives its grants where there are none. -/
theorem seeds_delivered {r : Seeding} {commands : List Command} (attains : Attains (act channel) r s)
    (registered : s.depot.authority.isRegistered channel.topic) (carries : s.depot.log.Carries channel.topic commands)
    (member : .put owner document ∈ commands) (named : Text.allBlank document.id = false)
    (ungranted : s.depot.grants? channel.topic document.id = none) :
    ∃ t, Attains (act channel) r t ∧ ⟨document, .forOwner owner⟩ ∈ t.seeds := by
  obtain ⟨partition, offset, found⟩ := carries.entryAt_of_mem member
  have decoded : Command.decode (Command.put owner document).entry.value = .ok (some (.put owner document)) :=
    Command.decode_entry named
  have taken : act channel (.take partition offset) s =
      some { s with
        applies := s.applies ++ [(.put owner document, Control.apply channel.topic (.put owner document))] } := by
    simp only [act, found, Option.bind_some, decoded]
  obtain ⟨next, cont, begins, missing⟩ : ∃ next cont,
      Control.apply channel.topic (.put owner document) =
        .ask (.authority (.getResource channel.topic document.id)) next ∧
      next (.ok none) = .ask (.authority (.setPermission channel.topic document.id (.forOwner owner))) cont :=
    ⟨_, _, rfl, rfl⟩
  have looks : (Control.apply channel.topic (.put owner document)).advance ⟨0, ""⟩ s.depot =
      some (next (.ok none), s.depot) :=
    Program.advance_eq_some.mpr ⟨_, next, .ok none, begins, rfl, Prod.ext (congrArg Except.ok ungranted) rfl, rfl⟩
  have answered := Authority.respond_setPermission registered document.id (.forOwner owner)
  have gives : (next (.ok none)).advance ⟨0, ""⟩ s.depot =
      some (cont (.ok ()), { s.depot with
        authority := s.depot.authority.setGrants channel.topic document.id (.forOwner owner) }) :=
    Program.advance_eq_some.mpr ⟨_, cont, .ok (), missing, rfl, by simp only [Depot.answer, answered], rfl⟩
  have at_number : ((s.applies ++ [(Command.put owner document, Control.apply channel.topic (.put owner document))]).set
      s.applies.length (.put owner document, next (.ok none)))[s.applies.length]? =
        some (.put owner document, next (.ok none)) := List.getElem?_set_self (by simp)
  have looked := (attains.move taken).move (act_apply List.getElem?_concat_length looks)
  refine ⟨_, looked.move (act_apply at_number gives), List.mem_append_right _ ?_⟩
  rw [missing]
  exact List.mem_singleton.mpr rfl

/-- An administrator changes the publication of a document without grants, and is given them. -/
theorem strays_of_uncovered {commands : List Command} {id : String} {stored : Document}
    (registered : d.authority.isRegistered channel.topic) (keyed : d.store.table.Keyed)
    (carries : d.log.Carries channel.topic commands) (got : d.store.get id = .ok (some stored))
    (ungranted : d.grants? channel.topic id = none) :
    ∃ t, Attains (act channel) { depot := d } t ∧ ∃ seed ∈ t.seeds, seed.grants ≠ .forOwner seed.document.owner := by
  obtain ⟨other, different⟩ : ∃ other, stored.owner ≠ other := by
    by_cases isRoot : stored.owner = "root"
    · exact ⟨"admin", by rw [isRoot]; decide⟩
    · exact ⟨"root", isRoot⟩
  obtain ⟨row, isRow, read⟩ := Store.row_of_get got
  have own : stored.id = id := (Row.content_of_toDocument read).1.trans (keyed.id_eq isRow)
  have named := Row.named_of_toDocument read
  let caller : Caller := { user := other, roles := [adminRole] }
  let document := Control.changed stored {} 0
  obtain ⟨place, log, appended, carriesNow, -⟩ := Log.append_entry carries (Command.put caller.user document)
  have completes : (Control.changePublication channel caller id {}).Completes ⟨0, ""⟩ _ d :=
    Control.changePublication_completes rfl got named appended
  obtain ⟨made, e, leads, rfl⟩ := Program.leads_of_completes completes
  have requested : Attains (act channel) { depot := d }
      { depot := d, requests := [Control.changePublication channel caller id {}] } :=
    Attains.still.move (show act channel (.request caller (.changePublication id {})) _ = _ from rfl)
  have published := Program.attains_of_leads (.call 0 ⟨0, ""⟩)
    (fun rest depot => ({ depot := depot, requests := [rest] } : Seeding))
    (fun p q d e moved => by simp [act, moved]) leads requested
  obtain ⟨t, attains, member⟩ := seeds_delivered published registered carriesNow
    (List.mem_append_right _ List.mem_cons_self) named (own ▸ ungranted)
  exact ⟨t, attains, _, member, fun same => different (Grants.forOwner_inj same).symm⟩

/-- In every run missing grants are given to the document's owner, as a backfill gives them, exactly if every stored
document that can be read has grants at first, and so has the document of every command that waits in the log and was
published by someone else. -/
theorem seeds_owner_iff {commands : List Command} (registered : d.authority.isRegistered channel.topic)
    (keyed : d.store.table.Keyed) (carries : d.log.Carries channel.topic commands)
    (published : ∀ command ∈ commands, Published command) :
    (∀ moves s, play (act channel) moves { depot := d } = some s →
        ∀ seed ∈ s.seeds, seed.grants = .forOwner seed.document.owner) ↔
      Covered channel.topic d ∧ ∀ command ∈ commands, Spared channel.topic d command := by
  constructor
  · intro always
    constructor
    · intro id stored got
      by_contra missing
      have ungranted := Option.not_isSome_iff_eq_none.mp missing
      obtain ⟨t, ⟨moves, played⟩, seed, member, stray⟩ := strays_of_uncovered registered keyed carries got ungranted
      exact stray (always moves t played seed member)
    · intro command member
      cases command with
      | delete id owner => trivial
      | put owner document =>
        intro different
        by_contra missing
        have ungranted := Option.not_isSome_iff_eq_none.mp missing
        obtain ⟨t, ⟨moves, played⟩, given⟩ :=
          seeds_delivered (s := { depot := d }) .still registered carries member (published _ member) ungranted
        exact different (Grants.forOwner_inj (always moves t played _ given)).symm
  · rintro ⟨covered, spared⟩ moves s played
    have start : Kept channel { depot := d } :=
      { keyed := keyed
        covered := covered
        carries := ⟨commands, carries, fun command member => ⟨published command member, spared command member⟩⟩
        requests := nofun
        applies := nofun
        seeds := nofun }
    exact (play_keeps (fun _ _ _ => kept_act) start played).seeds

/-- A stored document that nobody has grants on. -/
def ungoverned : Depot where
  store := ⟨{ Table.empty with
    rows := .keyed ((∅ : Dict Row).insert "p" { id := "p", name := "plan", owner := "ann", lastUpdated := 1 }) }⟩
  authority := ({} : Authority).register (.ofTopic "t")
  log := .new 1

/-- An administrator makes it public, and the command is applied. -/
def takeover : List Move :=
  .request { user := "root", roles := [adminRole] } (.changePublication "p" { publish := true }) ::
    List.replicate 3 (.call 0 ⟨100, "x"⟩) ++ .take 0 0 :: List.replicate 5 (.apply 0 ⟨100, "x"⟩)

theorem owner_passed_over :
    ∃ s seed, play (act { topic := "t" }) takeover { depot := ungoverned } = some s ∧ seed ∈ s.seeds ∧
      seed.document.owner = "ann" ∧ seed.grants = .forOwner "root" ∧ seed.grants ≠ .forOwner seed.document.owner := by
  have played : (play (act { topic := "t" }) takeover { depot := ungoverned }).any fun s =>
      s.seeds.any fun seed => decide (seed.document.owner = "ann" ∧ seed.grants = .forOwner "root") := by
    decide +kernel
  obtain ⟨s, reached, holds⟩ := (Option.any_eq_true _ _).mp played
  obtain ⟨seed, member, isStray⟩ := List.any_eq_true.mp holds
  obtain ⟨isAnn, toRoot⟩ := of_decide_eq_true isStray
  refine ⟨s, seed, reached, member, isAnn, toRoot, ?_⟩
  rw [toRoot, isAnn]
  exact fun same => absurd (Grants.forOwner_inj same) (by decide)

/-- A document that an administrator has published for its owner. -/
def revision : Document := { id := "p", name := "plan", owner := "ann", lastUpdated := 2 }

theorem seeds_owner_iff_waiting :
    ∃ log, let d : Depot := { ungoverned with log := log }
      (d.authority.isRegistered "t" ∧ d.store.table.Keyed ∧ d.log.Carries "t" [.put "root" revision] ∧
        ∀ command ∈ [Command.put "root" revision], Published command) ∧
      ((∀ moves s, play (act { topic := "t" }) moves { depot := d } = some s →
          ∀ seed ∈ s.seeds, seed.grants = .forOwner seed.document.owner) ↔
        Covered "t" d ∧ ∀ command ∈ [Command.put "root" revision], Spared "t" d command) := by
  obtain ⟨place, log, -, carries, -⟩ := Log.append_entry (Log.carries_new 1 "t") (.put "root" revision)
  have distinct : ungoverned.store.table.Distinct := by decide
  have keyed : ungoverned.store.table.Keyed := ⟨_, rfl, (Table.distinct_keyed rfl).mp distinct⟩
  have registered : ungoverned.authority.isRegistered "t" := by decide
  have published : ∀ command ∈ [Command.put "root" revision], Published command := by
    intro command member
    rw [List.mem_singleton.mp member]
    exact (by decide : Text.allBlank "p" = false)
  exact ⟨log, ⟨registered, keyed, carries, published⟩,
    seeds_owner_iff (d := { ungoverned with log := log }) registered keyed carries published⟩

end Seeding
end ModelDepot
