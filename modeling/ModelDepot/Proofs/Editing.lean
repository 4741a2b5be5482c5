import ModelDepot.Proofs.Contents
import ModelDepot.Proofs.Pipeline

/-!
Requests change one document while a consumer applies what they publish. A request looks at the
stored document, behind which there may be others in the log that were published and not applied
yet; a change of the publication then brings back the content that it saw. Main statement: the
content of the last update stays if every later change of the publication looked after it was
stored (`content_kept`).
-/
namespace ModelDepot

namespace Call

/-- A document is looked at. -/
def looks : Call → Bool
  | .store (.get _) => true
  | _ => false

/-- A document is stored. -/
def stores : Call → Bool
  | .store (.upsert _) => true
  | _ => false

end Call

/-- The next call is of a kind. -/
def Program.isAbout {ε α : Type} (kind : Call → Bool) : Program ε α → Bool
  | .done _ => false
  | .ask call _ => kind call

/-- A request on its way. -/
structure EditRequest where
  edit : Edit
  rest : Program ControlError Document
  sight : Nat := 0

/-- A depot with its consumer, and the requests on one of the documents. -/
structure Editing where
  pipeline : Pipeline
  requests : List EditRequest := []
  /-- In the order of their commands in the log. -/
  accepted : List Accepted := []
  /-- How many of them have been stored. -/
  landed : Nat := 0

namespace Editing

inductive Move where
  | request (caller : Caller) (edit : Edit)
  /-- The next call of the request with the given number succeeds. -/
  | call (number : Nat) (moment : Moment)
  /-- The consumer does something, other than to vanish. -/
  | consume (move : Pipeline.Move)

/-- The consumer makes this move itself. -/
def isOwn : Pipeline.Move → Bool
  | .publish .. => false
  | .vanish => false
  | _ => true

/-- The consumer stores a document with this move. -/
def stores (s : Editing) : Pipeline.Move → Bool
  | .call _ => s.pipeline.worker.any fun w => w.activity.isAbout Call.stores
  | _ => false

def act (group : String) (channel : Channel) (id : String) : Move → Editing → Option Editing
  | .request caller edit, s =>
    some { s with requests := s.requests ++ [{ edit := edit, rest := edit.request channel caller id }] }
  | .call number moment, s =>
    s.requests[number]?.bind fun request =>
      (request.rest.advance moment s.pipeline.depot).map fun (rest, depot) =>
        { s with
          pipeline := { s.pipeline with depot := depot }
          requests := s.requests.set number
            { request with
              rest := rest
              sight := if request.rest.isAbout Call.looks then s.landed else request.sight }
          accepted :=
            if request.rest.isAbout Call.publishes then s.accepted ++ [⟨request.edit, request.sight⟩]
            else s.accepted }
  | .consume move, s =>
    if isOwn move then
      (Pipeline.act group channel.topic move s.pipeline).map fun pipeline =>
        { s with pipeline := pipeline, landed := if s.stores move then s.landed + 1 else s.landed }
    else none

/-! ### The invariant -/

/-- The command puts a document with this content under the id. -/
def Puts (id : String) (content : Content) (command : Command) : Prop :=
  ∃ owner document, command = .put owner document ∧ document.id = id ∧ document.content = content

/-- What a request has seen of the document, and what it makes of it. -/
def Sees (id : String) (initial : Content) (accepted : List Accepted) (landed : Nat) (edit : Edit) (sight : Nat) :
    EditPoint → Prop
  | .asked => True
  | .seen found =>
    sight ≤ landed ∧
      ∀ document, found = some document →
        document.id = id ∧ (contents initial accepted)[sight]? = some document.content
  | .dated document =>
    sight ≤ landed ∧ document.id = id ∧
      document.content = Accepted.brings initial (contents initial accepted) ⟨edit, sight⟩
  | .published => True

def RequestStands (channel : Channel) (id : String) (initial : Content) (accepted : List Accepted) (landed : Nat)
    (request : EditRequest) : Prop :=
  ∃ caller point, request.rest.Obeys (EditRules channel caller id request.edit) (fun _ _ => True) point ∧
    Sees id initial accepted landed request.edit request.sight point

/-- How many documents were stored with the command at this point. -/
def stored : ApplyPoint → Nat
  | .stored _ => 1
  | .exposed _ => 1
  | .secured _ => 1
  | _ => 0

/-- How far the consumer is, which is done with as many of the commands as `handled`. While it handles the next
    one, the document of that may be stored or not. -/
def Works (group topic : String) (log : Log) (left : List Command) (handled landed : Nat) (w : Worker) : Prop :=
  match w.phase with
  | .fetch reader =>
    reader.group = group ∧ reader.topic = topic ∧ reader.positions = log.offsets group topic ∧ landed = handled
  | .handle delivery =>
    ∃ command behind p o, Pipeline.Delivers group topic log left delivery [] command behind p o ∧
      ∃ point, w.activity.Follows (ApplyRules topic command) (fun _ => ApplyPoint.Finished command) point ∧
        landed = handled + stored point
  | .commit delivery =>
    ∃ command behind p o, Pipeline.Delivers group topic log left delivery [] command behind p o ∧
      landed = handled + 1
  | .rest .. => False
  | .subscribe | .finished _ | .crashed => landed = handled

/-- The log carries the commands of the accepted requests, behind earlier ones of which nothing is left. The
    stored document says what the last of them that was stored led to. -/
structure Kept (group : String) (channel : Channel) (id : String) (initial : Content)
    (earlier commands : List Command) (handled : Nat) (s : Editing) : Prop where
  keyed : s.pipeline.depot.store.table.Keyed
  stored : ∃ row, s.pipeline.depot.row? id = some row ∧
    (contents initial s.accepted)[s.landed]? = some row.content
  carries : s.pipeline.depot.log.Carries channel.topic (earlier ++ commands)
  leaves : s.pipeline.depot.log.Leaves group channel.topic (earlier ++ commands) (commands.drop handled)
  named : ∀ command ∈ commands, Text.allBlank command.id = false
  count : commands.length = s.accepted.length
  within : handled ≤ commands.length
  brings : ∀ i command, commands[i]? = some command →
    ∃ content, (contents initial s.accepted)[i + 1]? = some content ∧ Puts id content command
  sights : ∀ (i : Nat) (a : Accepted), s.accepted[i]? = some a → a.sight ≤ i
  requests : ∀ request ∈ s.requests, RequestStands channel id initial s.accepted s.landed request
  idle : s.pipeline.worker = none → s.landed = handled
  worker : ∀ w, s.pipeline.worker = some w → w.consumer.group = group ∧ w.consumer.topic = channel.topic ∧
    Works group channel.topic s.pipeline.depot.log (commands.drop handled) handled s.landed w

variable {group id : String} {channel : Channel} {initial : Content} {earlier commands : List Command}
  {handled : Nat} {s t : Editing}

theorem Kept.landed_le (kept : s.Kept group channel id initial earlier commands handled) :
    s.landed ≤ s.accepted.length := by
  obtain ⟨row, -, at_landed⟩ := kept.stored
  have inside := (List.getElem?_eq_some_iff.mp at_landed).1
  rw [length_contents] at inside
  omega

/-- What a request has seen stays what was stored then. -/
theorem RequestStands.later {accepted : List Accepted} {landed later : Nat} {request : EditRequest}
    (stands : RequestStands channel id initial accepted landed request) (onward : landed ≤ later) :
    RequestStands channel id initial accepted later request := by
  obtain ⟨caller, point, obeys, sees⟩ := stands
  refine ⟨caller, point, obeys, ?_⟩
  cases point with
  | asked => trivial
  | seen found => exact ⟨Nat.le_trans sees.1 onward, sees.2⟩
  | dated document => exact ⟨Nat.le_trans sees.1 onward, sees.2⟩
  | published => trivial

theorem RequestStands.more {accepted : List Accepted} {landed : Nat} {request : EditRequest}
    (stands : RequestStands channel id initial accepted landed request) (within : landed ≤ accepted.length)
    (a : Accepted) : RequestStands channel id initial (accepted ++ [a]) landed request := by
  obtain ⟨caller, point, obeys, sees⟩ := stands
  refine ⟨caller, point, obeys, ?_⟩
  cases point with
  | asked => trivial
  | seen found => exact ⟨sees.1, fun document same => (sees.2 document same).imp_right (contents_of_shorter a)⟩
  | dated document =>
    refine ⟨sees.1, sees.2.1, sees.2.2.trans ?_⟩
    exact (Accepted.brings_more initial (Nat.le_trans sees.1 within) a).symm
  | published => trivial

/-- A request makes its document of what it has seen. -/
theorem Sees.dated {accepted : List Accepted} {landed sight : Nat} {edit : Edit} {found : Option Document}
    {caller : Caller} {time : Int64} {document : Document}
    (sees : Sees id initial accepted landed edit sight (.seen found))
    (yields : edit.Yields id caller found time document) :
    Sees id initial accepted landed edit sight (.dated document) := by
  cases yields with
  | content own owner => exact ⟨sees.1, own, rfl⟩
  | @publication _ before stored =>
    obtain ⟨own, at_sight⟩ := sees.2 before stored
    refine ⟨sees.1, own, ?_⟩
    simp only [Accepted.brings, at_sight]
    rfl

/-- A request that looks now sees what was stored last. -/
theorem Kept.sees (kept : s.Kept group channel id initial earlier commands handled) {found : Option Document}
    (got : s.pipeline.depot.store.get id = .ok found) (edit : Edit) :
    Sees id initial s.accepted s.landed edit s.landed (.seen found) := by
  refine ⟨Nat.le_refl _, ?_⟩
  rintro document rfl
  obtain ⟨row, isRow, at_landed⟩ := kept.stored
  obtain ⟨other, isOther, read⟩ := Store.row_of_get got
  obtain rfl := Option.some.inj (isRow.symm.trans isOther)
  obtain ⟨sameId, sameContent⟩ := Row.content_of_toDocument read
  rw [sameId, sameContent]
  exact ⟨kept.keyed.id_eq isRow, at_landed⟩

/-! ### Requests -/

theorem kept_request (kept : s.Kept group channel id initial earlier commands handled) (caller : Caller)
    (edit : Edit) :
    Kept group channel id initial earlier commands handled
      { s with requests := s.requests ++ [{ edit := edit, rest := edit.request channel caller id }] } := by
  refine { kept with requests := ?_ }
  intro request member
  rcases List.mem_append.mp member with old | new
  · exact kept.requests request old
  · rw [List.mem_singleton.mp new]
    exact ⟨caller, .asked, Edit.request_obeys channel caller id edit, trivial⟩

/-- A call of a request that neither stores nor publishes anything. -/
theorem kept_looked (kept : s.Kept group channel id initial earlier commands handled) {number : Nat}
    {request : EditRequest} (stands : RequestStands channel id initial s.accepted s.landed request) {after : Depot}
    (keyed : after.store.table.Keyed) (row : after.row? id = s.pipeline.depot.row? id)
    (log : after.log = s.pipeline.depot.log) :
    Kept group channel id initial earlier commands handled
      { s with pipeline := { s.pipeline with depot := after }, requests := s.requests.set number request } := by
  refine { kept with
    keyed := keyed
    stored := by rw [row]; exact kept.stored
    carries := log ▸ kept.carries
    leaves := log ▸ kept.leaves
    requests := ?_
    worker := by rw [log]; exact kept.worker }
  intro other member
  rcases List.mem_or_eq_of_mem_set member with old | rfl
  · exact kept.requests other old
  · exact stands

/-- More commands may be left, as long as the committed offsets stay. -/
theorem Works.more {topic : String} {log after : Log} {left : List Command} {landed : Nat} {w : Worker}
    (works : Works group topic log left handled landed w) (partitions : after.partitions = log.partitions)
    (same : after.offsets group topic = log.offsets group topic) (more : List Command) :
    Works group topic after (left ++ more) handled landed w := by
  unfold Works at works ⊢
  split at works
  · rw [same]
    exact works
  · obtain ⟨command, behind, p, o, delivers, rest⟩ := works
    exact ⟨command, _, p, o, delivers.more partitions same more, rest⟩
  · obtain ⟨command, behind, p, o, delivers, rest⟩ := works
    exact ⟨command, _, p, o, delivers.more partitions same more, rest⟩
  · exact works.elim
  · exact works
  · exact works
  · exact works

/-- The command of a request joins the others. -/
theorem kept_published (kept : s.Kept group channel id initial earlier commands handled) {number : Nat}
    {request : EditRequest} {edit : Edit} {sight : Nat}
    (stands : RequestStands channel id initial (s.accepted ++ [⟨edit, sight⟩]) s.landed request)
    {owner : String} {document : Document} (own : document.id = id)
    (named : Text.allBlank document.id = false) (seen : sight ≤ s.landed)
    (content : document.content = Accepted.brings initial (contents initial s.accepted) ⟨edit, sight⟩)
    {place : Nat × Nat} {log : Log}
    (appended : s.pipeline.depot.log.append channel.topic (Command.put owner document).entry.key
      (Command.put owner document).entry.value = .ok (place, log)) :
    Kept group channel id initial earlier (commands ++ [.put owner document]) handled
      { s with
        pipeline := { s.pipeline with depot := { s.pipeline.depot with log := log } }
        requests := s.requests.set number request
        accepted := s.accepted ++ [⟨edit, sight⟩] } := by
  obtain ⟨carries, partitions⟩ := kept.carries.append appended
  have offsets := Log.offsets_append appended group channel.topic
  have left : (commands ++ [Command.put owner document]).drop handled =
      commands.drop handled ++ [.put owner document] :=
    List.drop_append_of_le_length kept.within
  obtain ⟨row, found, at_landed⟩ := kept.stored
  constructor
  · exact kept.keyed
  · exact ⟨row, found, contents_of_shorter _ at_landed⟩
  · rw [← List.append_assoc]
    exact carries
  · rw [← List.append_assoc, left]
    exact kept.leaves.publish partitions offsets _
  · intro command member
    rcases List.mem_append.mp member with old | new
    · exact kept.named command old
    · rw [List.mem_singleton.mp new]
      exact named
  · rw [List.length_append, List.length_append, kept.count]
    rfl
  · rw [List.length_append]
    exact Nat.le_trans kept.within (Nat.le_add_right _ _)
  · intro i command at_i
    rcases getElem?_snoc at_i with old | ⟨rfl, rfl⟩
    · obtain ⟨content, at_next, puts⟩ := kept.brings i command old
      exact ⟨content, contents_of_shorter _ at_next, puts⟩
    · refine ⟨_, ?_, owner, document, rfl, own, content⟩
      rw [kept.count]
      exact contents_last initial s.accepted ⟨edit, sight⟩
  · intro i a at_i
    rcases getElem?_snoc at_i with old | ⟨rfl, rfl⟩
    · exact kept.sights i a old
    · exact Nat.le_trans seen kept.landed_le
  · intro other member
    rcases List.mem_or_eq_of_mem_set member with old | rfl
    · exact (kept.requests other old).more kept.landed_le _
    · exact stands
  · exact kept.idle
  · intro w present
    obtain ⟨ofGroup, ofTopic, works⟩ := kept.worker w present
    rw [left]
    exact ⟨ofGroup, ofTopic, works.more partitions offsets _⟩

theorem kept_call (kept : s.Kept group channel id initial earlier commands handled) {number : Nat} {moment : Moment}
    (moved : act group channel id (.call number moment) s = some t) :
    ∃ commands, t.Kept group channel id initial earlier commands handled := by
  obtain ⟨request, at_number, advanced⟩ := Option.bind_eq_some_iff.mp moved
  obtain ⟨⟨rest, after⟩, called, rfl⟩ := Option.map_eq_some_iff.mp advanced
  obtain ⟨call, next, answer, isAsk, rfl, calls⟩ := Program.advance_eq_some.mp called
  obtain ⟨caller, point, obeys, sees⟩ := kept.requests request (List.mem_of_getElem? at_number)
  rw [isAsk] at obeys
  obtain ⟨onward, rule, obeysOn⟩ := obeys answer calls.succeeded
  -- Only the calls that look and publish do anything to what the request knows or what the log holds.
  have looked : call.publishes = false → call.Harmless → ∀ sight,
      Sees id initial s.accepted s.landed request.edit sight onward →
      Kept group channel id initial earlier commands handled
        { s with
          pipeline := { s.pipeline with depot := after }
          requests := s.requests.set number { request with rest := next answer, sight := sight } } := by
    intro quiet harmless sight sees
    exact kept_looked kept ⟨caller, onward, obeysOn, sees⟩ (calls.keyed kept.keyed)
      ((calls.row? id).trans (Call.rowAfter_harmless harmless id _)) (calls.log_eq quiet)
  simp only [isAsk, Program.isAbout]
  cases rule with
  | report => exact ⟨commands, looked rfl trivial _ sees⟩
  | checked => exact ⟨commands, looked rfl trivial _ trivial⟩
  | seen => exact ⟨commands, looked rfl trivial _ (kept.sees (congrArg Prod.fst calls.answered) _)⟩
  | dated yields => exact ⟨commands, looked rfl trivial _ (sees.dated yields)⟩
  | @published document place named =>
    obtain ⟨seen, own, content⟩ := sees
    obtain ⟨log, appends, rfl⟩ := calls.appended
    exact ⟨_, kept_published kept ⟨caller, .published, obeysOn, trivial⟩ own named seen content appends⟩

/-! ### The consumer -/

section
variable {w : Worker} {log : Log} {now : Duration} {step : ConsumerStep} {delivery : Delivery}

/-- The worker in its next phase, when nothing else is stored or committed. -/
theorem Kept.enter (kept : s.Kept group channel id initial earlier commands handled)
    (present : s.pipeline.worker = some w) (closed : log.closed = s.pipeline.depot.log.closed)
    (partitions : log.partitions = s.pipeline.depot.log.partitions)
    (records : log.topic channel.topic = s.pipeline.depot.log.topic channel.topic)
    (offsets : log.offsets group channel.topic = s.pipeline.depot.log.offsets group channel.topic)
    {phase : ConsumerPhase}
    (works : Works group channel.topic log (commands.drop handled) handled s.landed (w.enter phase)) :
    Kept group channel id initial earlier commands handled
      { s with pipeline :=
        { depot := { s.pipeline.depot with log := log }, worker := some (w.enter phase) } } := by
  obtain ⟨ofGroup, ofTopic, -⟩ := kept.worker w present
  refine { kept with
    carries := kept.carries.of_eq closed partitions records
    leaves := kept.leaves.of_eq partitions offsets
    idle := nofun
    worker := ?_ }
  intro _ same
  obtain rfl := Option.some.inj same
  exact ⟨ofGroup, ofTopic, works⟩

theorem kept_subscribed (kept : s.Kept group channel id initial earlier commands handled)
    (present : s.pipeline.worker = some w) (phase : w.phase = .subscribe)
    (reacted : w.consumer.react now s.pipeline.depot.log .subscribe .answered = some (step, log)) :
    Kept group channel id initial earlier commands handled
      { s with pipeline :=
        { depot := { s.pipeline.depot with log := log }, worker := some (w.enter step.phase) } } := by
  obtain ⟨ofGroup, ofTopic, works⟩ := kept.worker w present
  unfold Works at works
  rw [phase] at works
  simp only [Consumer.react, ofGroup, ofTopic] at reacted
  split at reacted
  · rename_i reader after opened
    obtain ⟨rfl, rfl⟩ := Prod.mk.inj (Option.some.inj reacted)
    obtain ⟨readerIs, records, offsets⟩ := Log.subscribe_eq_ok opened
    obtain ⟨closed, partitions⟩ := Log.subscribe_frame opened
    refine kept.enter present closed partitions (records channel.topic) (offsets group channel.topic) ?_
    rw [readerIs]
    exact ⟨rfl, rfl, (offsets group channel.topic).symm, works⟩
  · obtain ⟨rfl, rfl⟩ := Prod.mk.inj (Option.some.inj reacted)
    exact kept.enter present rfl rfl rfl rfl works

/-- All commands stand in one partition, so the next one is the first that is left. -/
theorem kept_fetched (kept : s.Kept group channel id initial earlier commands handled)
    (present : s.pipeline.worker = some w) {reader : LogReader} (phase : w.phase = .fetch reader)
    (reacted : w.consumer.react now s.pipeline.depot.log (.fetch reader) .answered = some (step, log)) :
    Kept group channel id initial earlier commands handled
      { s with pipeline :=
        { depot := { s.pipeline.depot with log := log }, worker := some (w.enter step.phase) } } := by
  obtain ⟨ofGroup, ofTopic, works⟩ := kept.worker w present
  unfold Works at works
  rw [phase] at works
  obtain ⟨readerGroup, readerTopic, positions, settled⟩ := works
  obtain ⟨rfl, rfl⟩ := Prod.mk.inj (Option.some.inj reacted)
  refine kept.enter present rfl rfl rfl rfl ?_
  cases fetched : reader.fetch s.pipeline.depot.log with
  | closed => exact settled
  | pending => exact ⟨readerGroup, readerTopic, positions, settled⟩
  | record record further =>
    obtain ⟨before, command, behind, p, o, delivers, value⟩ :=
      Pipeline.delivers_fetched now kept.carries kept.leaves readerGroup readerTopic positions fetched
    have sameId : ∀ other ∈ before ++ command :: behind, other.id = id := by
      intro other member
      rw [← delivers.split] at member
      obtain ⟨i, at_i⟩ := List.mem_iff_getElem?.mp (List.mem_of_mem_drop member)
      obtain ⟨_, _, owner, document, rfl, own, _⟩ := kept.brings i other at_i
      exact own
    have first : before = [] := by
      refine List.eq_nil_iff_forall_not_mem.mpr fun other member => ?_
      refine Command.id_ne_of_goesTo delivers.next.here (delivers.next.elsewhere other member) ?_
      rw [sameId other (List.mem_append_left _ member),
        sameId command (List.mem_append_right _ List.mem_cons_self)]
    subst first
    have member : command ∈ commands := List.mem_of_mem_drop (by rw [delivers.split]; exact List.mem_cons_self)
    refine ⟨command, behind, p, o, delivers, .begun, ?_, settled⟩
    show (Control.handle w.consumer.topic record.value).Follows _ _ _
    rw [value, ofTopic]
    exact Control.handle_follows (Command.decode_entry (kept.named command member))

/-- The command that is delivered is the next one that is not handled. -/
theorem Kept.delivered (kept : s.Kept group channel id initial earlier commands handled) {command : Command}
    {behind : List Command} {p o : Nat}
    (delivers : Pipeline.Delivers group channel.topic log (commands.drop handled) delivery [] command behind p o) :
    handled < commands.length ∧ commands.drop (handled + 1) = behind ∧
      ∃ content, (contents initial s.accepted)[handled + 1]? = some content ∧ Puts id content command := by
  have split : commands.drop handled = command :: behind := delivers.split
  have at_handled : commands[handled]? = some command := by
    rw [← Nat.add_zero handled, ← List.getElem?_drop, split]
    rfl
  refine ⟨(List.getElem?_eq_some_iff.mp at_handled).1, ?_, kept.brings handled command at_handled⟩
  rw [← List.tail_drop, split]
  rfl

/-- A command that was applied has stored its document. -/
theorem kept_concluded (kept : s.Kept group channel id initial earlier commands handled)
    (present : s.pipeline.worker = some w) {result : Except HandlerError Unit} (ended : w.activity = .done result)
    (reacted : w.consumer.react now s.pipeline.depot.log w.phase (.handled result) = some (step, log)) :
    Kept group channel id initial earlier commands handled
      { s with pipeline :=
        { depot := { s.pipeline.depot with log := log }, worker := some (w.enter step.phase) } } := by
  obtain ⟨ofGroup, ofTopic, works⟩ := kept.worker w present
  unfold Works at works
  cases phase : w.phase with
  | handle delivery =>
    rw [phase] at works reacted
    obtain ⟨command, behind, p, o, delivers, point, follows, settled⟩ := works
    rw [ended] at follows
    cases result with
    | error problem => exact follows.elim
    | ok done =>
      obtain ⟨rfl, rfl⟩ := Prod.mk.inj (Option.some.inj reacted)
      refine kept.enter present rfl rfl rfl rfl ⟨command, behind, p, o, delivers, ?_⟩
      obtain ⟨_, _, _, _, owner, document, rfl, _⟩ := kept.delivered delivers
      cases point with
      | secured document => exact settled
      | _ => exact follows.elim
  | _ =>
    rw [phase] at reacted
    cases reacted

theorem kept_committed (kept : s.Kept group channel id initial earlier commands handled)
    (present : s.pipeline.worker = some w) (phase : w.phase = .commit delivery) :
    ∃ after, s.pipeline.depot.log.commit delivery.reader delivery.record = .ok after ∧
      Kept group channel id initial earlier commands (handled + 1)
        { s with pipeline :=
          { depot := { s.pipeline.depot with log := after }
            worker := some (w.enter (.fetch delivery.reader)) } } := by
  obtain ⟨ofGroup, ofTopic, works⟩ := kept.worker w present
  unfold Works at works
  rw [phase] at works
  obtain ⟨command, behind, p, o, delivers, settled⟩ := works
  obtain ⟨within, isBehind, -⟩ := kept.delivered delivers
  have leaves := kept.leaves
  rw [delivers.split] at leaves
  obtain ⟨after, commits, offsets, closed, partitions, records, leavesOthers⟩ :=
    Log.commit_next leaves delivers.next delivers.ofGroup delivers.ofTopic delivers.partition delivers.offset
  rw [List.nil_append, ← isBehind] at leavesOthers
  refine ⟨after, commits, { kept with
    carries := kept.carries.of_eq closed partitions records
    leaves := leavesOthers
    within := within
    idle := nofun
    worker := ?_ }⟩
  intro _ same
  obtain rfl := Option.some.inj same
  exact ⟨ofGroup, ofTopic, delivers.ofGroup, delivers.ofTopic, delivers.positions.trans offsets.symm, settled⟩

/-- The log answers, a wait ends or a shutdown is requested. -/
theorem kept_react (kept : s.Kept group channel id initial earlier commands handled)
    (present : s.pipeline.worker = some w) {happening : Happening}
    (outer : happening = .answered ∨ happening = .rested ∨ happening = .stopped) {pipeline : Pipeline}
    (moved : Pipeline.react w now happening s.pipeline = some pipeline) :
    ∃ handled, Kept group channel id initial earlier commands handled { s with pipeline := pipeline } := by
  obtain ⟨⟨step, log⟩, reacted, rfl⟩ := Option.map_eq_some_iff.mp moved
  obtain ⟨-, -, works⟩ := kept.worker w present
  unfold Works at works
  cases phase : w.phase with
  | subscribe =>
    rw [phase] at reacted
    rcases outer with rfl | rfl | rfl
    · exact ⟨handled, kept_subscribed kept present phase reacted⟩
    · cases reacted
    · cases reacted
  | fetch reader =>
    rw [phase] at reacted works
    rcases outer with rfl | rfl | rfl
    · exact ⟨handled, kept_fetched kept present phase reacted⟩
    · cases reacted
    · obtain ⟨rfl, rfl⟩ := Prod.mk.inj (Option.some.inj reacted)
      exact ⟨handled, kept.enter present rfl rfl rfl rfl works.2.2.2⟩
  | handle delivery =>
    rw [phase] at reacted
    rcases outer with rfl | rfl | rfl <;> cases reacted
  | rest delivery ending problem =>
    rw [phase] at works
    exact works.elim
  | commit delivery =>
    rw [phase] at reacted
    rcases outer with rfl | rfl | rfl
    · obtain ⟨after, commits, keptNow⟩ := kept_committed kept present phase
      simp only [Consumer.react, commits] at reacted
      obtain ⟨rfl, rfl⟩ := Prod.mk.inj (Option.some.inj reacted)
      exact ⟨handled + 1, keptNow⟩
    · cases reacted
    · cases reacted
  | finished exit =>
    rw [phase] at reacted
    rcases outer with rfl | rfl | rfl <;> cases reacted
  | crashed =>
    rw [phase] at reacted
    rcases outer with rfl | rfl | rfl <;> cases reacted

/-- The handler goes on, with so many documents stored. -/
theorem Kept.settle (kept : s.Kept group channel id initial earlier commands handled)
    (present : s.pipeline.worker = some w) (phase : w.phase = .handle delivery) {moment : Moment} {call : Call}
    {answer : call.Answer} {after : Depot} (calls : s.pipeline.depot.Calls moment call answer after)
    (quiet : call.publishes = false) {command : Command} {behind : List Command} {p o : Nat}
    (delivers : Pipeline.Delivers group channel.topic s.pipeline.depot.log (commands.drop handled) delivery []
      command behind p o)
    {activity : Program HandlerError Unit} {point : ApplyPoint}
    (follows : activity.Follows (ApplyRules channel.topic command) (fun _ => ApplyPoint.Finished command) point)
    {landed : Nat} (onwards : s.landed ≤ landed) (settled : landed = handled + Editing.stored point)
    (stored : ∃ row, after.row? id = some row ∧ (contents initial s.accepted)[landed]? = some row.content) :
    Kept group channel id initial earlier commands handled
      { s with
        pipeline := { depot := after, worker := some { w with activity := activity } }
        landed := landed } := by
  obtain ⟨ofGroup, ofTopic, -⟩ := kept.worker w present
  have log := calls.log_eq quiet
  refine { kept with
    keyed := calls.keyed kept.keyed
    stored := stored
    carries := log ▸ kept.carries
    leaves := log ▸ kept.leaves
    requests := fun request member => (kept.requests request member).later onwards
    idle := nofun
    worker := ?_ }
  intro _ same
  obtain rfl := Option.some.inj same
  refine ⟨ofGroup, ofTopic, ?_⟩
  unfold Works
  rw [phase, log]
  exact ⟨command, behind, p, o, delivers, point, follows, settled⟩

/-- A call of the handler stores the document of its command, or nothing. -/
theorem kept_applied (kept : s.Kept group channel id initial earlier commands handled)
    (present : s.pipeline.worker = some w) (phase : w.phase = .handle delivery) {moment : Moment}
    {activity : Program HandlerError Unit} {after : Depot}
    (moved : w.activity.advance moment s.pipeline.depot = some (activity, after)) :
    Kept group channel id initial earlier commands handled
      { s with
        pipeline := { depot := after, worker := some { w with activity := activity } }
        landed := if w.activity.isAbout Call.stores then s.landed + 1 else s.landed } := by
  obtain ⟨-, -, works⟩ := kept.worker w present
  unfold Works at works
  rw [phase] at works
  obtain ⟨command, behind, p, o, delivers, point, follows, settled⟩ := works
  obtain ⟨call, next, answer, isAsk, rfl, calls⟩ := Program.advance_eq_some.mp moved
  rw [isAsk] at follows
  obtain ⟨onward, rule, followsOn⟩ := follows.1 answer calls.succeeded
  obtain ⟨-, -, content, at_next, owner, document, rfl, own, isContent⟩ := kept.delivered delivers
  -- The document lands once, when it is stored; before and after that the row is as it was.
  have passes : call.publishes = false → (∀ row, call.rowAfter id row = row) → stored onward = stored point →
      Kept group channel id initial earlier commands handled
        { s with pipeline := { depot := after, worker := some { w with activity := next answer } } } := by
    intro quiet same unchanged
    refine kept.settle present phase calls quiet delivers followsOn (Nat.le_refl _) ?_ ?_
    · rw [unchanged]
      exact settled
    · rw [calls.row?, same]
      exact kept.stored
  have lands : ∀ held : Document, held.id = document.id → held.content = document.content →
      call = .store (.upsert held) → stored onward = 1 → stored point = 0 →
      Kept group channel id initial earlier commands handled
        { s with
          pipeline := { depot := after, worker := some { w with activity := next answer } }
          landed := s.landed + 1 } := by
    rintro held sameId sameContent rfl isStored unstored
    rw [unstored, Nat.add_zero] at settled
    refine kept.settle present phase calls rfl delivers followsOn (Nat.le_succ _) (by rw [isStored, settled])
      ⟨.ofDocument held, ?_, ?_⟩
    · exact (calls.row? id).trans (if_pos (own.symm.trans sameId.symm))
    · rw [settled, at_next, ← isContent, ← sameContent]
      rfl
  simp only [isAsk, Program.isAbout]
  cases rule with
  | report => exact passes rfl (fun _ => rfl) rfl
  | missing => exact passes rfl (fun _ => rfl) rfl
  | present => exact passes rfl (fun _ => rfl) rfl
  | seeded => exact passes rfl (fun _ => rfl) rfl
  | clock => exact passes rfl (fun _ => rfl) rfl
  | stored => exact lands document rfl rfl rfl rfl rfl
  | storedNow => exact lands _ (Document.id_stampIfUnset _ _) (Document.content_stampIfUnset _ _) rfl rfl rfl
  | exposed => exact passes rfl (fun _ => rfl) rfl
  | secured => exact passes rfl (fun _ => rfl) rfl
  | reseeded => exact passes rfl (fun _ => rfl) rfl

end

/-! ### Runs -/

theorem kept_consume {move : Pipeline.Move} (kept : s.Kept group channel id initial earlier commands handled)
    (isOwn : isOwn move) {pipeline : Pipeline}
    (moved : Pipeline.act group channel.topic move s.pipeline = some pipeline) :
    ∃ handled, Kept group channel id initial earlier commands handled
      { s with pipeline := pipeline, landed := if s.stores move then s.landed + 1 else s.landed } := by
  cases move with
  | publish channel moment command => cases isOwn
  | start consumer =>
    simp only [Pipeline.act] at moved
    split at moved
    · rename_i free
      obtain rfl := Option.some.inj moved
      refine ⟨handled, { kept with idle := ?_, worker := ?_ }⟩
      · intro absent
        cases absent
      intro _ same
      obtain rfl := Option.some.inj same
      exact ⟨free.2.1, free.2.2, kept.idle (Option.isNone_iff_eq_none.mp free.1)⟩
    · cases moved
  | answer now =>
    obtain ⟨w, present, reacted⟩ := Option.bind_eq_some_iff.mp moved
    exact kept_react kept present (.inl rfl) reacted
  | call moment =>
    obtain ⟨w, present, advanced⟩ := Option.bind_eq_some_iff.mp moved
    split at advanced
    · rename_i delivery phase
      obtain ⟨⟨activity, after⟩, called, rfl⟩ := Option.map_eq_some_iff.mp advanced
      refine ⟨handled, ?_⟩
      simp only [stores, present, Option.any_some]
      exact kept_applied kept present phase called
    · cases advanced
  | conclude now =>
    obtain ⟨w, present, concluded⟩ := Option.bind_eq_some_iff.mp moved
    split at concluded
    · rename_i result ended
      obtain ⟨⟨step, log⟩, reacted, rfl⟩ := Option.map_eq_some_iff.mp concluded
      exact ⟨handled, kept_concluded kept present ended reacted⟩
    · cases concluded
  | rest now =>
    obtain ⟨w, present, reacted⟩ := Option.bind_eq_some_iff.mp moved
    exact kept_react kept present (.inr (.inl rfl)) reacted
  | shutDown now =>
    obtain ⟨w, present, reacted⟩ := Option.bind_eq_some_iff.mp moved
    exact kept_react kept present (.inr (.inr rfl)) reacted
  | vanish => cases isOwn

theorem kept_act {move : Move} (kept : s.Kept group channel id initial earlier commands handled)
    (moved : act group channel id move s = some t) :
    ∃ commands handled, t.Kept group channel id initial earlier commands handled := by
  cases move with
  | request caller edit =>
    obtain rfl := Option.some.inj moved
    exact ⟨commands, handled, kept_request kept caller edit⟩
  | call number moment =>
    obtain ⟨commands, keptNow⟩ := kept_call kept moved
    exact ⟨commands, handled, keptNow⟩
  | consume move =>
    simp only [act] at moved
    split at moved
    · rename_i isOwn
      obtain ⟨pipeline, consumed, rfl⟩ := Option.map_eq_some_iff.mp moved
      exact ⟨commands, kept_consume kept isOwn consumed⟩
    · cases moved

/-- A depot in which nothing is left to be applied. -/
def start (d : Depot) : Editing := { pipeline := { depot := d } }

/-- Nothing is left to be applied, and the stored document says what it said at first. -/
theorem kept_start {d : Depot} {row : Row} (keyed : d.store.table.Keyed) (stored : d.row? id = some row)
    (carries : d.log.Carries channel.topic earlier) (leaves : d.log.Leaves group channel.topic earlier []) :
    Kept group channel id row.content earlier [] 0 (start d) where
  keyed := keyed
  stored := ⟨row, stored, rfl⟩
  carries := by rw [List.append_nil]; exact carries
  leaves := by rw [List.append_nil]; exact leaves
  named := nofun
  count := rfl
  within := Nat.le_refl 0
  brings _ _ := nofun
  sights _ _ := nofun
  requests := nofun
  idle _ := rfl
  worker _ present := by cases present

theorem kept_play {moves : List Move} (kept : s.Kept group channel id initial earlier commands handled)
    (played : play (act group channel id) moves s = some t) :
    ∃ commands handled, t.Kept group channel id initial earlier commands handled := by
  have kept_move : ∀ move s t, (∃ commands handled, Kept group channel id initial earlier commands handled s) →
      act group channel id move s = some t →
      ∃ commands handled, Kept group channel id initial earlier commands handled t :=
    fun _ _ _ ⟨_, _, kept⟩ moved => kept_act kept moved
  exact play_keeps kept_move ⟨commands, handled, kept⟩ played

/-- Whatever is committed is stored: once the log is drained, all that was accepted is. -/
theorem Kept.applied_of_drained (kept : s.Kept group channel id initial earlier commands handled)
    (drained : s.pipeline.depot.log.Drained group channel.topic) : s.landed = s.accepted.length := by
  have nothing := (Log.drained_iff kept.carries kept.leaves).mp drained
  have all : s.accepted.length ≤ handled := kept.count ▸ List.drop_eq_nil_iff.mp nothing
  have settled : s.landed = handled := by
    cases present : s.pipeline.worker with
    | none => exact kept.idle present
    | some w =>
      obtain ⟨-, -, works⟩ := kept.worker w present
      unfold Works at works
      split at works
      · exact works.2.2.2
      · obtain ⟨_, _, _, _, delivers, _⟩ := works
        exact absurd (kept.delivered delivers).1 (Nat.not_lt.mpr (kept.count ▸ all))
      · obtain ⟨_, _, _, _, delivers, _⟩ := works
        exact absurd (kept.delivered delivers).1 (Nat.not_lt.mpr (kept.count ▸ all))
      · exact works.elim
      · exact works
      · exact works
      · exact works
  exact Nat.le_antisymm kept.landed_le (settled ▸ all)

/-- When all that was published is stored, as it is once the log is drained (`Kept.applied_of_drained`),
    the document has the content that the requests lead to in the order of their commands, where a change
    of the publication brings back the one that it saw. This is the content of the last update, or the
    first one if there was none, unless a change of the publication that comes later in the log looked at
    the document before that update was stored. -/
theorem content_kept {group id : String} {channel : Channel} {d : Depot} {row : Row} {earlier : List Command}
    {moves : List Move} {s : Editing} (keyed : d.store.table.Keyed) (stored : d.row? id = some row)
    (carries : d.log.Carries channel.topic earlier) (leaves : d.log.Leaves group channel.topic earlier [])
    (played : play (act group channel id) moves (start d) = some s) (applied : s.landed = s.accepted.length) :
    ∃ final, s.pipeline.depot.row? id = some final ∧
      (contents row.content s.accepted)[s.accepted.length]? = some final.content ∧
      (∀ before document sight after, s.accepted = before ++ ⟨.content document, sight⟩ :: after →
        (∀ later ∈ after, ∃ change, later.edit = .publication change ∧ before.length < later.sight) →
        final.content = document.content) ∧
      ((∀ a ∈ s.accepted, ∃ change, a.edit = .publication change) → final.content = row.content) := by
  obtain ⟨commands, handled, kept⟩ := kept_play (kept_start keyed stored carries leaves) played
  obtain ⟨final, found, at_landed⟩ := kept.stored
  rw [applied] at at_landed
  refine ⟨final, found, at_landed, fun before document sight after isAccepted looked => ?_, fun only => ?_⟩
  · have sights := kept.sights
    have number : s.accepted.length = before.length + 1 + after.length := by
      rw [isAccepted, List.length_append, List.length_cons]
      omega
    rw [isAccepted] at sights
    have at_last : (contents row.content s.accepted)[s.accepted.length]? = some document.content := by
      rw [number, isAccepted]
      exact contents_after_update looked sights (by omega) (Nat.le_refl _)
    exact Option.some.inj (at_landed.symm.trans at_last)
  · exact contents_of_publications only at_landed

/-- A stored document of one who may change it. -/
def drafted : Depot where
  store := ⟨{ Table.empty with
    rows := .keyed ((∅ : Dict Row).insert "p" { id := "p", name := "old", lastUpdated := 1 }) }⟩
  authority := (({} : Authority).register (.ofTopic "t")).setGrants "t" "p" (.forOwner "ann")
  log := .new 1

def renamed : Document := { id := "p", name := "new" }

/-- The calls of a request, one after the other. -/
def calls (number : Nat) : List Move := List.replicate 4 (.call number ⟨100, "x"⟩)

/-- A record is fetched, applied and committed. -/
def applies : List Move :=
  .consume (.answer .zero) :: List.replicate 4 (.consume (.call ⟨100, "x"⟩)) ++
    [.consume (.conclude .zero), .consume (.answer .zero)]

def subscribes : List Move := [.consume (.start { topic := "t", group := "g" }), .consume (.answer .zero)]

def update : List Move := .request { user := "ann" } (.content renamed) :: calls 0

def toggle : List Move := .request { user := "ann" } (.publication { publish := true }) :: calls 1

theorem content_kept_in_turn :
    ∃ s final, play (act "g" { topic := "t" } "p") (update ++ subscribes ++ applies ++ toggle ++ applies)
        (start drafted) = some s ∧
      s.landed = s.accepted.length ∧ s.accepted.length = 2 ∧ s.pipeline.depot.row? "p" = some final ∧
      final.content = renamed.content := by
  have played : (play (act "g" { topic := "t" } "p") (update ++ subscribes ++ applies ++ toggle ++ applies)
      (start drafted)).any (fun s => decide (s.pipeline.depot.log.Drained "g" "t") &&
        decide (s.accepted = [⟨.content renamed, 0⟩, ⟨.publication { publish := true }, 1⟩])) := by decide +kernel
  obtain ⟨s, reached, holds⟩ := (Option.any_eq_true _ _).mp played
  simp only [Bool.and_eq_true, decide_eq_true_eq] at holds
  obtain ⟨drained, accepted⟩ := holds
  have distinct : drafted.store.table.Distinct := by decide
  have keyed : drafted.store.table.Keyed := ⟨_, rfl, (Table.distinct_keyed rfl).mp distinct⟩
  obtain ⟨row, stored⟩ : ∃ row, drafted.row? "p" = some row := ⟨_, rfl⟩
  have carries := Log.carries_new 1 "t"
  have leaves := Log.leaves_new 1 "g" "t"
  obtain ⟨_, _, inStep⟩ := kept_play (kept_start keyed stored carries leaves) reached
  have applied := inStep.applied_of_drained drained
  obtain ⟨final, found, -, kept, -⟩ := content_kept keyed stored carries leaves reached applied
  refine ⟨s, final, reached, applied, by rw [accepted]; rfl, found, kept [] renamed 0 _ accepted ?_⟩
  intro later member
  rw [List.mem_singleton.mp member]
  exact ⟨_, rfl, Nat.one_pos⟩

/-- The publication is changed while the update waits in the log. -/
theorem content_lost :
    ∃ s final, play (act "g" { topic := "t" } "p") (update ++ toggle ++ subscribes ++ applies ++ applies)
        (start drafted) = some s ∧
      s.landed = s.accepted.length ∧
      s.accepted.map (·.edit) = [.content renamed, .publication { publish := true }] ∧
      s.pipeline.depot.row? "p" = some final ∧ final.content ≠ renamed.content := by
  have played : (play (act "g" { topic := "t" } "p") (update ++ toggle ++ subscribes ++ applies ++ applies)
      (start drafted)).any (fun s => decide (s.landed = s.accepted.length) &&
        decide (s.accepted.map (·.edit) = [.content renamed, .publication { publish := true }]) &&
        (s.pipeline.depot.row? "p").any (fun final => decide (final.content ≠ renamed.content))) := by decide +kernel
  obtain ⟨s, reached, holds⟩ := (Option.any_eq_true _ _).mp played
  simp only [Bool.and_eq_true, decide_eq_true_eq] at holds
  obtain ⟨⟨applied, accepted⟩, changed⟩ := holds
  obtain ⟨final, found, other⟩ := (Option.any_eq_true _ _).mp changed
  exact ⟨s, final, reached, applied, accepted, found, of_decide_eq_true other⟩

end Editing
end ModelDepot
