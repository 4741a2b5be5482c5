import ModelDepot.Proofs.Pipeline

/-!
Commands that were published are all applied in the end, if only some consumer goes on for long enough: the
next record can always be fetched, handled and committed. Main statement: everything can be committed at any
time, and once it is, the depot is as if the commands had been applied one after another in the order in which
they were published (`drains_to_applyAll`).
-/
namespace ModelDepot.Pipeline
variable {group topic : String} {time : Int64} {start : Depot} {commands left : List Command} {s t u : Pipeline}
  {w : Worker}

/-- Some moves that publish nothing lead from one state to the other. -/
def Leads (group topic : String) (s t : Pipeline) : Prop :=
  ∃ moves, published moves = [] ∧ play (act group topic) moves s = some t

theorem leads_trans (first : Leads group topic s t) (second : Leads group topic t u) : Leads group topic s u := by
  obtain ⟨moves, none, played⟩ := first
  obtain ⟨others, noneMore, playedMore⟩ := second
  refine ⟨moves ++ others, ?_, ?_⟩
  · rw [published, List.filterMap_append]
    exact List.append_eq_nil_iff.mpr ⟨none, noneMore⟩
  · rw [play_append, played, Option.bind_some, playedMore]

theorem leads_move (move : Move) (quiet : published [move] = []) (moved : act group topic move s = some t) :
    Leads group topic s t :=
  ⟨[move], quiet, by simp only [play, moved, Option.bind_some]⟩

/-- What lies behind the calls of the commands that were published is still to be had. -/
theorem Sound.registered (sound : Sound group topic time start commands left s)
    (registered : start.authority.isRegistered topic) : s.depot.authority.isRegistered topic := by
  have same := congrArg (·.authority.topics) sound.effect
  simp only [Depot.topics_appliedAll] at same
  rw [Authority.isRegistered, same]
  exact registered

theorem Sound.admitted (sound : Sound group topic time start commands left s) {command : Command}
    (member : command ∈ left) : s.depot.store.Admits command := by
  have later : (s.depot.appliedAll time topic left).store.Admits command := by
    rw [sound.effect]
    exact (Depot.admits_appliedAll commands command start).mpr (sound.fit command member).admitted
  exact (Depot.admits_appliedAll left command s.depot).mp later

/-! ### One record -/

/-- The calls of a handler are made one after another. -/
theorem leads_called {delivery : Delivery} (phase : w.phase = .handle delivery) {moment : Moment}
    {p q : Program HandlerError Unit} {d e : Depot} (leads : Program.Leads moment p d q e)
    (sound : Sound group topic time start commands left { depot := d, worker := some { w with activity := p } }) :
    Leads group topic { depot := d, worker := some { w with activity := p } }
        { depot := e, worker := some { w with activity := q } } ∧
      Sound group topic time start commands left { depot := e, worker := some { w with activity := q } } := by
  induction leads with
  | still => exact ⟨⟨[], rfl, rfl⟩, sound⟩
  | @call p q r d e f moved onward ih =>
    obtain ⟨leads, final⟩ := ih (sound_called sound rfl phase moved)
    refine ⟨leads_trans (leads_move (.call moment) rfl ?_) leads, final⟩
    simp only [act, Option.bind_some, phase, moved, Option.map_some]

/-- As long as commands are left, a consumer that waits for a record gets one, which it can handle. -/
theorem leads_fetched {d : Depot} (registered : start.authority.isRegistered topic)
    (sound : Sound group topic time start commands left { depot := d, worker := some w }) {reader : LogReader}
    (phase : w.phase = .fetch reader) (someLeft : left ≠ []) :
    ∃ delivery, Leads group topic { depot := d, worker := some w }
        { depot := d, worker := some (w.enter (.handle delivery)) } ∧
      Sound group topic time start commands left { depot := d, worker := some (w.enter (.handle delivery)) } ∧
      (w.enter (.handle delivery)).activity.Completes ⟨0, ""⟩ (fun _ _ => True) d := by
  obtain ⟨ofGroup, ofTopic, stands⟩ := sound.worker w rfl
  unfold Stands at stands
  rw [phase] at stands
  obtain ⟨readerGroup, readerTopic, positions⟩ := stands
  obtain ⟨record, further, fetched⟩ := Log.fetch_waiting sound.carries sound.leaves someLeft positions readerTopic
  obtain ⟨before, command, behind, p, o, split, next, recordIs, -⟩ :=
    Log.fetch_next sound.carries sound.leaves positions readerTopic fetched
  have member : command ∈ left := by
    rw [split]
    exact List.mem_append_right _ List.mem_cons_self
  have reacted : w.consumer.react .zero d.log (.fetch reader) .answered =
      some (w.consumer.onFetched reader .zero (.ok (.record record further)), d.log) := by
    rw [← fetched]
    rfl
  refine ⟨⟨further, record, .zero, 1⟩, leads_move (.answer .zero) rfl ?_,
    sound_fetched sound rfl phase reacted, ?_⟩
  · simp only [act, Option.bind_some, react, phase, reacted, Option.map_some]
    rfl
  · show (Control.handle w.consumer.topic record.value).Completes _ _ _
    rw [recordIs, ofTopic]
    exact Control.handle_completes (Command.decode_entry (sound.fit command member).named)
      (sound.registered registered) (sound.admitted member)

/-- A handler that comes to its end without failures leads to a commit. -/
theorem leads_handled {d : Depot} {delivery : Delivery} (phase : w.phase = .handle delivery) {moment : Moment}
    (completes : w.activity.Completes moment (fun _ _ => True) d)
    (sound : Sound group topic time start commands left { depot := d, worker := some w }) :
    ∃ e, Leads group topic { depot := d, worker := some w }
        { depot := e, worker := some (w.enter (.commit delivery)) } ∧
      Sound group topic time start commands left { depot := e, worker := some (w.enter (.commit delivery)) } := by
  obtain ⟨done, e, calls, -⟩ := Program.leads_of_completes completes
  obtain ⟨leads, soundDone⟩ := leads_called phase calls sound
  have reacted : w.consumer.react .zero e.log w.phase (.handled (.ok done)) =
      some (w.consumer.onHandled delivery .zero (.ok done), e.log) := by
    rw [phase]
    rfl
  refine ⟨e, leads_trans leads (leads_move (.conclude .zero) rfl ?_),
    sound_concluded soundDone rfl rfl reacted⟩
  simp only [act, Option.bind_some, react, reacted, Option.map_some]
  rfl

theorem leads_committed {d : Depot} {delivery : Delivery} (phase : w.phase = .commit delivery)
    (sound : Sound group topic time start commands left { depot := d, worker := some w }) :
    ∃ log others, others.length < left.length ∧
      Leads group topic { depot := d, worker := some w }
        { depot := { d with log := log }, worker := some (w.enter (.fetch delivery.reader)) } ∧
      Sound group topic time start commands others
        { depot := { d with log := log }, worker := some (w.enter (.fetch delivery.reader)) } := by
  obtain ⟨log, others, commits, fewer, kept⟩ := sound_committed sound rfl phase
  refine ⟨log, others, fewer, leads_move (.answer .zero) rfl ?_, kept⟩
  simp only [act, Option.bind_some, react, phase, Consumer.react, commits, Option.map_some]
  rfl

/-! ### All records -/

/-- A consumer that waits for records can commit all that are left. -/
theorem drains_from_fetch {d : Depot} (registered : start.authority.isRegistered topic)
    (sound : Sound group topic time start commands left { depot := d, worker := some w }) {reader : LogReader}
    (phase : w.phase = .fetch reader) :
    ∃ t, Leads group topic { depot := d, worker := some w } t ∧ t.depot.log.Drained group topic := by
  -- Every commit leaves fewer commands.
  induction count : left.length using Nat.strongRecOn generalizing left w d reader with
  | _ _ ih =>
    by_cases someLeft : left = []
    · exact ⟨_, ⟨[], rfl, rfl⟩, (Log.drained_iff sound.carries sound.leaves).mpr someLeft⟩
    · obtain ⟨delivery, toHandle, soundHandle, completes⟩ := leads_fetched registered sound phase someLeft
      obtain ⟨e, toCommit, soundCommit⟩ := leads_handled rfl completes soundHandle
      obtain ⟨log, others, fewer, toFetch, soundFetch⟩ := leads_committed rfl soundCommit
      obtain ⟨t, onward, drained⟩ := ih others.length (count ▸ fewer) soundFetch rfl rfl
      exact ⟨t, leads_trans toHandle (leads_trans toCommit (leads_trans toFetch onward)), drained⟩

/-- Whatever happened, the next consumer can commit all that is left. -/
theorem drains (registered : start.authority.isRegistered topic)
    (sound : Sound group topic time start commands left s) :
    ∃ t, Leads group topic s t ∧ t.depot.log.Drained group topic := by
  let consumer : Consumer := { topic := topic, group := group }
  have vanished : Leads group topic s { depot := s.depot } := leads_move .vanish rfl rfl
  have started : Leads group topic { depot := s.depot } { depot := s.depot, worker := some { consumer := consumer } } :=
    leads_move (.start consumer) rfl (if_pos ⟨rfl, rfl, rfl⟩)
  have soundStarted : Sound group topic time start commands left
      { depot := s.depot, worker := some { consumer := consumer } } := by
    refine sound.change rfl rfl rfl rfl ?_
    intro _ same
    obtain rfl := Option.some.inj same
    exact ⟨rfl, rfl, trivial⟩
  obtain ⟨reader, log, subscribed⟩ := Log.subscribe_of_open sound.carries.isOpen group topic
  have reacted : consumer.react .zero s.depot.log .subscribe .answered =
      some (consumer.onSubscribed (.ok reader), log) := by
    simp only [Consumer.react, consumer, subscribed]
  have soundSubscribed := sound_subscribed soundStarted rfl reacted
  obtain ⟨t, onward, drained⟩ := drains_from_fetch registered soundSubscribed rfl
  have opened : Leads group topic { depot := s.depot, worker := some { consumer := consumer } } _ :=
    leads_move (.answer .zero) rfl (by simp only [act, Option.bind_some, react, reacted, Option.map_some]; rfl)
  exact ⟨t, leads_trans vanished (leads_trans started (leads_trans opened onward)), drained⟩

/-- Whatever is published to a fresh log, and wherever consumers vanish: it remains possible to commit
    everything, and once the committed offset of every partition is the number of its records, documents and
    grants are those after the commands have been applied one after another in the order in which they were
    published. Neither the number of partitions nor the course of the run matters for that. -/
theorem drains_to_applyAll {store : Store} {authority : Authority} {n : Nat}
    (registered : authority.isRegistered topic) {moves : List Move}
    (played : play (act group topic) moves { depot := ⟨store, authority, .new n⟩ } = some s)
    (fit : ∀ command ∈ published moves, Fit store command) :
    (∃ t, Leads group topic s t ∧ t.depot.log.Drained group topic) ∧
      (s.depot.log.Drained group topic → ∀ (moment : Moment) (log : Log), ∃ final,
        (Control.applyAll topic (published moves)).run (Depot.answer moment) ⟨store, authority, log⟩ =
          (.ok (), final) ∧ s.depot.store = final.store ∧ s.depot.authority = final.authority) := by
  constructor
  · obtain ⟨left, sound⟩ := sound_play (sound_new 0 n store authority (.new n)) fit played
    exact drains registered sound
  intro drained moment log
  obtain ⟨left, sound⟩ := sound_play (sound_new moment.time n store authority log) fit played
  obtain rfl := (Log.drained_iff sound.carries sound.leaves).mp drained
  obtain ⟨_, _, ran, rfl⟩ := Program.run_of_completes (Control.applyAll_completes
    (d := ⟨store, authority, log⟩) registered fun command member => (fit command member).admitted)
  have same : s.depot = { (⟨store, authority, log⟩ : Depot).appliedAll moment.time topic (published moves) with
      log := s.depot.log } := sound.effect
  refine ⟨_, ran, ?_, ?_⟩
  · rw [same]
  · rw [same]

/-- A document is put and another one removed. The first consumer vanishes before it stores the document, the
    second one before it commits what it has applied. -/
def relay : List Move :=
  let consumer : Consumer := { topic := "t", group := "g" }
  let moment : Moment := ⟨50, "x"⟩
  let call : Move := .call moment
  [.publish { topic := "t" } moment (.put "ann" { id := "q", name := "draft", lastUpdated := 7 }),
    .publish { topic := "t" } moment (.delete "p" "bob"),
    .start consumer, .answer .zero, .answer .zero, call, call, .vanish,
    .start consumer, .answer .zero, .answer .zero, call, call, call, call, .conclude .zero, .vanish,
    .start consumer, .answer .zero, .answer .zero, call, call, call, call, .conclude .zero, .answer .zero,
    .answer .zero, call, call, call, .conclude .zero, .answer .zero]

def registeredOnly : Authority := ({} : Authority).register (.ofTopic "t")

theorem drains_to_applyAll_relay :
    registeredOnly.isRegistered "t" ∧ (∀ command ∈ published relay, Fit ⟨Table.empty⟩ command) ∧
      ∃ s, play (act "g" "t") relay { depot := ⟨⟨Table.empty⟩, registeredOnly, .new 2⟩ } = some s ∧
        s.depot.log.Drained "g" "t" ∧
        ∃ final, (Control.applyAll "t" (published relay)).run (Depot.answer ⟨0, ""⟩)
            ⟨⟨Table.empty⟩, registeredOnly, .new 1⟩ = (.ok (), final) ∧
          s.depot.store = final.store ∧ s.depot.authority = final.authority := by
  have registered : registeredOnly.isRegistered "t" := by decide
  have fit : ∀ command ∈ published relay, Fit ⟨Table.empty⟩ command := by
    intro command member
    have both : published relay =
        [.put "ann" { id := "q", name := "draft", lastUpdated := 7 }, .delete "p" "bob"] := rfl
    rw [both] at member
    rcases List.mem_cons.mp member with rfl | last
    · exact ⟨by decide, show Document.isStamped _ = true by decide, Store.admits_of_hasKey ⟨_, rfl⟩ (by decide)⟩
    · obtain rfl := List.mem_singleton.mp last
      exact ⟨by decide, trivial, trivial⟩
  have played : ((play (act "g" "t") relay { depot := ⟨⟨Table.empty⟩, registeredOnly, .new 2⟩ }).any
      fun s => s.depot.log.Drained "g" "t") = true := by decide +kernel
  obtain ⟨s, reached, drained⟩ := (Option.any_eq_true _ _).mp played
  have all := of_decide_eq_true drained
  exact ⟨registered, fit, s, reached, all, (drains_to_applyAll registered reached fit).2 all _ _⟩

end ModelDepot.Pipeline
