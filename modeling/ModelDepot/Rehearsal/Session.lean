import ModelDepot.Rehearsal.Step

/-!
A session performs steps one after another. After every step a moment passes while there are
background tasks, in which they go on until they wait.
-/
namespace ModelDepot.Rehearsal

structure Session where
  scene : Scene
  topic : String
  debug : Bool := false
  readers : Dict (LogReader × Nat) := ∅
  /-- The record that was fetched last under the name of a reader. -/
  lastRecords : Dict LogRecord := ∅
  /-- The groups and topics that were named so far. -/
  named : List (String × String) := []
  /-- The collaborators are those that were made for the session. -/
  ownLog : Bool := true
  ownAuthority : Bool := true

namespace Session

/-- The time after which a reader gives up. -/
def fetchPatience : Duration := .ofMillis 20
def meanwhileDelay : Duration := .ofMillis 5
def moment : Duration := .ofMillis 1

/-- A session in which some rows are in the store from the start, and all is as the rows make it. Time that passes
    is real if the authority is remote: then it shows on the clock. -/
def begin (topic : String) (debug : Bool) (partitions : Nat) (rows : List Row)
    (authority : AuthorityBackend) (files : Files) (clock : Int64) : Session :=
  let (db, events) := Database.openReported "memory" (.ok {})
  let table := (db.toOption.bind (·.table)).getD Table.empty
  let filled := rows.foldl (fun (t : Table) row => (t.put row).toOption.getD t) table
  let (connection, storage) :=
    ({ files := files } : Storage).connectMemory [] { name := DatabaseAddress.memoryName }
  let site : Site :=
    { connection := connection, authority := authority, log := Log.new partitions }
  let world := ({ site := site, storage := storage, clock := clock } : World).setStore ⟨filled⟩
  let ownAuthority := match authority with
    | .inProcess _ => true
    | .remote _ => false
  let clockStart := match authority with
    | .inProcess _ => none
    | .remote _ => some clock
  { scene := { world := world.reportAll events, clockStart := clockStart }
    topic := topic
    debug := debug
    ownAuthority := ownAuthority }

def world (s : Session) : World := s.scene.world

def setWorld (s : Session) (w : World) : Session := { s with scene := { s.scene with world := w } }

def name (s : Session) (group topic : String) : Session :=
  if s.named.contains (group, topic) then s else { s with named := s.named ++ [(group, topic)] }

/-- Runs a program in the session. -/
def perform {ε α : Type} (s : Session) (program : Program ε α) (failure : ε → Failure)
    (outcome : α → Outcome) : Outcome × Session :=
  let (result, w) := s.world.run program
  let s := s.setWorld w
  match result with
  | .ok value => (outcome value, s)
  | .error problem => (.failed (failure problem), s)

def askStore (s : Session) (call : StoreCall) (outcome : call.Value → Outcome) :
    Outcome × Session :=
  s.perform (Program.store id call) .store outcome

def channel (s : Session) (topic : String) : Channel := ⟨topic, s.debug⟩

/-- The outcome of a call to the authority. -/
def authorityOutcome : (call : AuthorityCall) → call.Value → Outcome
  | .setTopic _, _ => .done
  | .check .., allowed => .answer allowed
  | .checkMany .., checks => .allowed checks
  | .accessible .., ids => .ids ids
  | .adminList .., ids => .ids ids
  | .getResource .., grants => .grants grants
  | .setPermission .., _ => .done
  | .removeResource .., _ => .done

/-- The documents with a number put behind id and name. -/
def numbered (doc : Document) (first last : Nat) : List Document :=
  (List.range (last - first)).map fun i =>
    let n := toString (first + i)
    { doc with id := doc.id ++ n, name := doc.name ++ n }

def upsertAll : List Document → Program StoreError Unit
  | [] => pure ()
  | doc :: more => do
    Program.store id (.upsert doc)
    upsertAll more

def dump (s : Session) (brief : Bool) : Dump :=
  let site := s.world.site
  let ofGroup (entry : String × String) :=
    (entry, site.log.committedOffsets entry.1 entry.2)
  { documents := s.world.store.bind (·.list { sortBy := some "id.asc" })
    brief := brief
    grants :=
      if s.ownAuthority then
        let a := s.world.localAuthority.state
        some (a.ids s.topic, a.isRegistered s.topic)
      else none
    log := if s.ownLog then some (site.log.length s.topic, s.named.map ofGroup) else none }

/-! ### Readers -/

def subscribe (s : Session) (reader group topic : String) : Outcome × Session :=
  let s := s.name group topic
  let (result, w) := s.world.subscribe group topic
  let s := s.setWorld w
  match result with
  | .ok r => (.done, { s with readers := s.readers.insert reader (r, w.siteNumber) })
  | .error problem => (.failed (.log problem), s)

/-- The log of a site. -/
def logOf (w : World) (siteNumber : Nat) : Log := (w.switch siteNumber).site.log

/-- What a reader finds now, if it finds anything. -/
def fetchNow? (s : Session) (reader : String) : Option (Outcome × Session) :=
  match s.readers[reader]? with
  | none => some (.failed .unknownName, s)
  | some (r, siteNumber) =>
    match r.fetch (logOf s.world siteNumber) with
    | .pending => none
    | .closed => some (.closed, s)
    | .record record r =>
      some (.record record, { s with
        readers := s.readers.insert reader (r, siteNumber)
        lastRecords := s.lastRecords.insert reader record })

def pass (s : Session) (time : Duration) : Session := { s with scene := s.scene.pass time }

def meanwhile (s : Session) (topic : String) : Meanwhile → Session
  | .append key value => s.setWorld (s.world.append topic key value).2
  | .close => s.setWorld (s.world.setLog s.world.site.log.close)

/-- Something done with the site of a reader in use. -/
def atReader {α : Type} (s : Session) (reader : String) (f : World → α × World) : α × Session :=
  let number := ((s.readers[reader]?).map (·.2)).getD s.world.siteNumber
  let (value, w) := f (s.world.switch number)
  (value, s.setWorld (w.switch s.world.siteNumber))

/-- Fetches a record, for which it waits some time. -/
def fetch (s : Session) (reader : String) (other : Option Meanwhile) (topic : String) :
    Outcome × Session :=
  let (problem, s) := s.atReader reader (·.beginFetch)
  match problem with
  | some problem =>
    let s := match other with
      | some m => (s.pass meanwhileDelay).meanwhile topic m
      | none => s
    (.failed (.log problem), s)
  | none =>
    match s.fetchNow? reader, other with
    | some found, none => found
    | some (outcome, s), some m => (outcome, (s.pass meanwhileDelay).meanwhile topic m)
    | none, none =>
      let s := s.pass fetchPatience
      (s.fetchNow? reader).getD (.pending, s)
    | none, some m =>
      let s := (s.pass meanwhileDelay).meanwhile topic m
      match s.fetchNow? reader with
      | some found => found
      | none =>
        let s := s.pass ⟨fetchPatience.nanos - meanwhileDelay.nanos⟩
        (s.fetchNow? reader).getD (.pending, s)

def commit (s : Session) (reader : String) (partition offset : Option Int) (topic : String) :
    Outcome × Session :=
  match s.readers[reader]? with
  | none => (.failed .unknownName, s)
  | some (r, _) =>
    let last := s.lastRecords[reader]?
    let record := match partition, last with
      | some p, _ => some
        { topic := topic, partition := p, offset := offset.getD 0, key := [], value := [] }
      | none, some record => some { record with offset := offset.getD record.offset }
      | none, none => none
    match record with
    | none => (.failed .unknownName, s)
    | some record =>
      let (result, s) := s.atReader reader (·.commit r record)
      match result with
      | .ok () => (.done, s)
      | .error problem => (.failed (.log problem), s)

/-- All records that a reader finds, at most `fuel` of them. -/
def drain (log : Log) : Nat → LogReader → List LogRecord → List LogRecord
  | 0, _, done => done.reverse
  | fuel + 1, reader, done =>
    match reader.fetch log with
    | .record record reader => drain log fuel reader (record :: done)
    | _ => done.reverse

/-- The group that looks at what was published. -/
def inspector : String := "inspect"

def published (s : Session) (topic : String) : Outcome × Session :=
  let (result, w) := s.world.subscribeRaw inspector topic
  let s := s.setWorld w
  match result with
  | .error problem => (.failed (.log problem), s)
  | .ok reader =>
    let records := drain w.site.log (w.site.log.length topic) reader []
    (.commands (records.map fun r => Command.decode r.value), s)

/-! ### Tasks -/

/-- Adds a task; one of the same name loses its owner. -/
def addTask (s : Session) (task : Task) : Session :=
  let kept := s.scene.tasks.map fun t => if t.name = task.name then t.disown else t
  { s with scene := { s.scene with tasks := kept ++ [task] } }

def task? (s : Session) (name : String) : Option Task :=
  s.scene.tasks.find? (·.name = some name)

def startService (s : Session) (name : String) (settings : Settings) : Outcome × Session :=
  let s := s.name settings.groupId settings.processTopic
  let (result, w) := s.world.run (Service.start settings)
  let s := s.setWorld w
  match result with
  | .error problem => (.failed (.start problem), s)
  | .ok () =>
    let task : Task :=
      { name := some name
        siteNumber := w.siteNumber
        consumer := some { consumer := Service.consumer settings }
        loop := (Service.cleanupLoop? settings).map fun l => { loop := l }
        settings := some settings }
    (.started settings.processTopic settings.cleanupGrace task.shutdown.isRequested,
      s.addTask task)

/-- Runs a program with the collaborators of a service. -/
def withService {ε α : Type} (s : Session) (name : String) (program : Settings → Program ε α)
    (failure : ε → Failure) (outcome : α → Outcome) : Outcome × Session :=
  match s.task? name with
  | some { settings := some settings, siteNumber, .. } =>
    let home := s.world.siteNumber
    let (result, s) :=
      (s.setWorld (s.world.switch siteNumber)).perform (program settings) failure outcome
    (result, s.setWorld (s.world.switch home))
  | _ => (.failed .unknownName, s)

/-- The tasks with a change of those of a name. -/
def changeTasks (s : Session) (name : String) (f : Task → Task) : Session :=
  let tasks := s.scene.tasks.map fun t => if t.name = some name then f t else t
  { s with scene := { s.scene with tasks := tasks } }

/-- The time for which the end of a task is waited for. -/
def patience : Duration := .ofSeconds 3600

/-- What is reported of a part of a service that ended in a crash. -/
def crashReport (part : String) (said : String) : Event :=
  ⟨.error, "service_stop", "runtime", "error",
    [("task", part), ("error", "task 1 panicked with message \"" ++ said ++ "\"")]⟩

/-- What is reported of the parts of a service that ended in a crash. -/
def crashReports (task : Task) : List Event :=
  let consumer := if task.consumer.any (·.phase = .crashed) then
    [crashReport "consumer" "overflow when adding durations"] else []
  let loop := if task.loop.any (·.crashed) then
    [crashReport "cleanup" "overflow when adding duration to instant"] else []
  consumer ++ loop

/-- What is left of a task that is over. -/
def conclude (s : Session) (task : Task) : Outcome × Session :=
  match task.consumer with
  | none => (.loopStopped, s)
  | some c =>
    if task.settings.isSome then
      let home := s.world.siteNumber
      let w := s.world.switch task.siteNumber
      let w := ((w.setLog w.site.log.close).switch home).reportAll (crashReports task)
      (.serviceStopped c.exit?.toList c.failures, s.setWorld (w.report Service.stopEnds))
    else (.consumerStopped c.exit? c.failures c.calls, s)

/-- What is shown of a task that never ends. -/
def unfinished (task : Task) : Outcome :=
  match task.consumer with
  | some c => if task.settings.isSome then .stillRunning else .consumerRunning c.failures c.calls
  | none => .stillRunning

/-- Stops a task, or only waits for its end; a task that never ends loses its owner. -/
def stop (s : Session) (name : String) (kind : StopKind) : Outcome × Session :=
  match s.task? name with
  | none => (.failed .unknownName, s)
  | some task =>
    let isService := task.settings.isSome
    let s := if isService then s.setWorld (s.world.report Service.stopStarts) else s
    let asked := s.changeTasks name fun t =>
      match if isService then .trigger else kind with
      | .trigger => { t with shutdown := t.shutdown.trigger }
      | .abandon => { t with shutdown := t.shutdown.abandon }
      | .wait => t
    let ofName (t : Task) : Bool := t.name = some name
    let limit : Duration := ⟨asked.scene.now.nanos + patience.nanos⟩
    let (isOver, scene) :=
      asked.scene.await (fun tasks => (tasks.find? ofName).all Task.isOver) limit Scene.enough
    let s := { s with scene := scene }
    match s.task? name with
    | none => (.failed .unknownName, s)
    | some task =>
      if isOver then
        let others := scene.tasks.filter fun t => !ofName t
        { s with scene := { scene with tasks := others } }.conclude task
      else (unfinished task, s.changeTasks name Task.disown)

/-! ### Opening -/

/-- The sites with which tasks work. -/
def busySites (s : Session) : List Nat :=
  let isBusy (t : Task) : Bool := (t.name.isSome && t.settings.isSome) || !t.isOver
  (s.scene.tasks.filter isBusy).map (·.siteNumber)

def openSite (s : Session) (settings : Settings) : Outcome × Session :=
  let (result, w) := s.world.openSite s.busySites settings
  let s := s.setWorld w
  match result with
  | .error problem => (.failed (.start problem), s)
  | .ok () =>
    (.done, { s with topic := settings.processTopic, ownLog := false, ownAuthority := false })

/-! ### Steps -/

/-- A change of the authority that was made for the session. -/
def mapOwnAuthority (s : Session) (f : LocalAuthority → LocalAuthority) : Session :=
  if s.ownAuthority then s.setWorld (s.world.mapAuthority f) else s

/-- Performs one step. -/
def act (s : Session) : Step → Outcome × Session
  | .upsert doc => s.askStore (.upsert doc) fun _ => .done
  | .upsertMany doc first last =>
    s.perform (upsertAll (numbered doc first last)) .store fun _ => .done
  | .delete id => s.askStore (.delete id) .answer
  | .get id => s.askStore (.get id) .document
  | .list options brief => s.askStore (.list options) (.page · brief)
  | .listPublished brief =>
    s.askStore .listPublished fun docs => .page ⟨docs, docs.length⟩ brief
  | .allIds => s.askStore .allIds fun ids => .ids ids.toList
  | .staleIds cutoff => s.askStore (.staleIds cutoff) fun ids => .ids ids.toList
  | .materialize command => s.perform (Materialize.apply command) .store .outcome
  | .isStored id => s.perform (Materialize.exists id) .store .answer
  | .storeFaults faults panics =>
    (.done, s.setWorld (s.world.arrange
      ({ · with storeFaults := faults, storePanics := panics })))
  | .dump brief => (.dump (s.dump brief), s)
  | .events => (.events s.world.events.reverse, s.setWorld { s.world with events := [] })
  | .authority call => s.perform (Program.authority id call) .authority (authorityOutcome call)
  | .listedIds topic pageSize =>
    s.perform (listedIds topic pageSize) .authority fun ids => .ids ids.toList
  | .resourceIds topic => (.ids (s.world.localAuthority.state.ids topic), s)
  | .isRegistered topic => (.answer (s.world.localAuthority.state.isRegistered topic), s)
  | .outage value => (.done, s.mapOwnAuthority fun a => { a with outage := value })
  | .failNext count => (.done, s.mapOwnAuthority fun a => { a with failuresLeft := count })
  | .script change => (.done, s.setWorld (s.world.setScript (change s.world.script)))
  | .append topic key value =>
    let (result, w) := s.world.append topic key value
    match result with
    | .ok (partition, offset) => (.position partition offset, s.setWorld w)
    | .error problem => (.failed (.log problem), s.setWorld w)
  | .subscribe reader group topic => s.subscribe reader group topic
  | .fetch reader other topic => s.fetch reader other topic
  | .commit reader partition offset topic => s.commit reader partition offset topic
  | .committed group topic partition =>
    (.number (s.world.site.log.committedOffset? group topic partition), s)
  | .logLength topic => (.length (s.world.site.log.length topic), s)
  | .closeLog => (.done, s.setWorld (s.world.setLog s.world.site.log.close))
  | .dropReader reader =>
    (.answer (s.readers.contains reader), { s with readers := s.readers.erase reader })
  | .logFaults change =>
    (.done, s.setWorld (s.world.setLogFaults (change s.world.logFaults)))
  | .publish topic command =>
    s.perform ((s.channel topic).publish command) .publish fun p => .position p.1 p.2
  | .published topic => s.published topic
  | .registerTopic topic => s.perform (Control.registerTopic topic) .control fun _ => .done
  | .read topic caller id permission =>
    s.perform (Control.read topic caller id permission) .control fun doc => .document (some doc)
  | .listFor topic caller permission options brief =>
    s.perform (Control.list topic caller options permission) .control (.page · brief)
  | .publicDocuments brief =>
    s.perform Control.listPublished .control fun docs => .page ⟨docs, docs.length⟩ brief
  | .create topic caller doc =>
    s.perform (Control.create (s.channel topic) caller doc) .control .created
  | .update topic caller id doc =>
    s.perform (Control.update (s.channel topic) caller id doc) .control
      fun doc => .document (some doc)
  | .changePublication topic caller id change =>
    s.perform (Control.changePublication (s.channel topic) caller id change) .control
      fun doc => .document (some doc)
  | .deleteAs topic caller id =>
    s.perform (Control.delete (s.channel topic) caller id) .control fun _ => .done
  | .apply topic command => s.perform (Control.apply topic command) .control .outcome
  | .handle topic value => s.perform (Control.handle topic value) .handler fun _ => .done
  | .backfill topic => s.perform (Backfill.run topic) .control .backfilled
  | .cleanup c => s.perform c.pass .cleanup .cleaned
  | .cleanupOverlap c =>
    let (first, w) := s.world.run c.pass
    let (second, w) := w.run (c.passUnless true)
    let (third, w) := w.run c.pass
    (.overlapped first second third c.grace, s.setWorld w)
  | .sleep time => (.done, s.pass time)
  | .startConsumer name consumer plan =>
    let task : Task :=
      { name := some name
        siteNumber := s.world.siteNumber
        consumer := some { consumer := consumer, plan := plan } }
    (.done, (s.name consumer.group consumer.topic).addTask task)
  | .startLoop name loop =>
    let task : Task :=
      { name := some name, siteNumber := s.world.siteNumber, loop := some { loop := loop } }
    (.done, s.addTask task)
  | .startService name settings => s.startService name settings
  | .serviceCleanup name =>
    s.withService name (fun settings => (Service.cleanup settings).pass) .cleanup .cleaned
  | .serviceStatus name =>
    s.withService name
      (fun settings => Control.list settings.processTopic { roles := [adminRole] } {} .read)
      .control (.page · true)
  | .stop name kind => s.stop name kind
  | .openSite settings => s.openSite settings
  | .openLog settings =>
    match Log.ofSettings settings with
    | .ok _ => (.done, s)
    | .error problem => (.failed (.log problem), s)

/-- Performs one step, after which a moment passes while there are tasks. -/
def step (s : Session) (step : Step) : Outcome × Session :=
  let (outcome, s) := s.act step
  (outcome, if s.scene.tasks.isEmpty then s else s.pass moment)

end Session
end ModelDepot.Rehearsal
