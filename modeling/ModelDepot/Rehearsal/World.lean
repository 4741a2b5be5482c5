import ModelDepot.Rehearsal.Storage

/-!
The surroundings of a rehearsal: collaborators whose failures are arranged, and a record of what
was reported. Every call of a program is answered here.
-/
namespace ModelDepot.Rehearsal

/-- Some calls pass, and then some fail. -/
structure Faults where
  skip : Nat := 0
  count : Nat := 0
  deriving DecidableEq, Repr

/-- Whether the next call fails, and what is arranged for those after it. -/
def Faults.next (f : Faults) : Bool × Faults :=
  if 0 < f.skip then (false, { f with skip := f.skip - 1 })
  else if 0 < f.count then (true, { f with count := f.count - 1 })
  else (false, f)

/-- What others do to the store and the grants around the next calls to the authority. -/
structure Script where
  /-- Removes a grant after a page of the administrators' listing was read. -/
  revokeAfterPage : Option String := none
  /-- Stores a document before a grant is removed. -/
  storeBeforeRemove : Option Document := none
  /-- Stores a document after a grant was read. -/
  storeAfterGet : Option Document := none
  /-- Deletes a document after a grant was read. -/
  deleteAfterGet : Option String := none
  /-- Grants that are acknowledged and dropped. -/
  dropGrants : Nat := 0

structure LogFaults where
  append : Faults := {}
  subscribe : Faults := {}
  fetch : Faults := {}
  commit : Faults := {}
  deriving DecidableEq, Repr

/-- What is arranged for the calls to the collaborators of a site. -/
structure Arrangement where
  storeFaults : Faults := {}
  storePanics : Bool := false
  logFaults : LogFaults := {}
  script : Script := {}

/-- What a service works with. -/
structure Site where
  connection : Connection
  authority : AuthorityBackend
  log : Log
  arranged : Arrangement := {}

structure World where
  site : Site
  siteNumber : Nat := 0
  /-- Sites that were opened before and may still be in use. -/
  others : List (Nat × Site) := []
  storage : Storage
  clock : Int64
  created : Nat := 0
  /-- What was reported, the latest first. -/
  events : List Event := []

namespace World

def report (w : World) (event : Event) : World := { w with events := event :: w.events }

def reportAll (w : World) (events : List Event) : World := events.foldl report w

/-- All sites by their numbers. -/
def sites (w : World) : List (Nat × Site) := (w.siteNumber, w.site) :: w.others

/-- The world with another site in use. -/
def switch (w : World) (number : Nat) : World :=
  if number = w.siteNumber then w
  else
    match w.others.lookup number with
    | none => w
    | some site =>
      { w with
        site := site
        siteNumber := number
        others := (w.siteNumber, w.site) :: w.others.filter (·.1 ≠ number) }

/-- The world with a new site in use. -/
def addSite (w : World) (site : Site) : World :=
  let number := w.others.foldl (fun n entry => max n entry.1) w.siteNumber + 1
  { w with site := site, siteNumber := number, others := w.sites }

/-- The connections of the site in use and of some others. -/
def connections (w : World) (busy : List Nat) : List Connection :=
  w.site.connection ::
    (w.others.filter fun entry => busy.contains entry.1).map (·.2.connection)

/-- The world when only the site in use and some others are connected to their databases. -/
def release (w : World) (busy : List Nat) : World :=
  { w with storage := w.storage.release (w.connections busy) }

/-- The world with the site that the settings describe in use, while some others are busy. A
    database that was opened stays as it is then, even if the rest fails. -/
def openSite (w : World) (busy : List Nat) (settings : Settings) : Except StartError Unit × World :=
  let w := w.release busy
  let (reached, storage) :=
    w.storage.connectLogged (w.connections busy) settings.databasePath
  let (opened, events) := Service.openAll settings (reached.bind storage.found)
  let w := { w with storage := storage }.reportAll events
  match reached with
  | .error _ => (opened.map fun _ => (), w)
  | .ok connection =>
    let w := { w with storage := storage.migrated connection }
    match opened with
    | .error problem => (.error problem, w)
    | .ok opened =>
      let site : Site :=
        { connection := connection, authority := opened.authority, log := opened.log }
      (.ok (), (w.addSite site).release busy)

/-- The store of the site in use. -/
def store (w : World) : Except StoreError Store :=
  match w.storage.read w.site.connection with
  | .error problem => .error (.database problem)
  | .ok db => Store.ofDatabase db

def setStore (w : World) (store : Store) : World :=
  let db : Database := { version := Database.latestVersion, table := some store.table }
  { w with storage := w.storage.save w.site.connection db }

def setLog (w : World) (log : Log) : World := { w with site := { w.site with log := log } }
def setAuthority (w : World) (a : AuthorityBackend) : World :=
  { w with site := { w.site with authority := a } }

def script (w : World) : Script := w.site.arranged.script
def logFaults (w : World) : LogFaults := w.site.arranged.logFaults

/-- The world with something else arranged for the site in use. -/
def arrange (w : World) (change : Arrangement → Arrangement) : World :=
  { w with site := { w.site with arranged := change w.site.arranged } }

def setScript (w : World) (script : Script) : World := w.arrange ({ · with script := script })
def setLogFaults (w : World) (faults : LogFaults) : World :=
  w.arrange ({ · with logFaults := faults })

/-- A change of the store on the side, if it is possible. -/
def changeAside (w : World) (change : Store → Except StoreError Store) : World :=
  match w.store.bind change with
  | .ok store => w.setStore store
  | .error _ => w

def storeAside (w : World) (doc : Document) : World := w.changeAside (·.upsert doc)
def deleteAside (w : World) (id : String) : World :=
  w.changeAside fun store => .ok (store.delete id).2

/-- A change of the local authority. -/
def mapAuthority (w : World) (f : LocalAuthority → LocalAuthority) : World :=
  match w.site.authority with
  | .inProcess a => w.setAuthority (.inProcess (f a))
  | .remote _ => w

def localAuthority (w : World) : LocalAuthority :=
  match w.site.authority with
  | .inProcess a => a
  | .remote _ => {}

/-- What others do before a call. -/
def before (w : World) : AuthorityCall → World
  | .removeResource .. =>
    match w.script.storeBeforeRemove with
    | none => w
    | some doc => (w.setScript { w.script with storeBeforeRemove := none }).storeAside doc
  | _ => w

/-- What others do after a call, whether it succeeded or not. -/
def after (w : World) : AuthorityCall → World
  | .adminList topic _ =>
    match w.script.revokeAfterPage with
    | none => w
    | some id =>
      (w.setScript { w.script with revokeAfterPage := none }).mapAuthority
        fun a => (a.respond (.removeResource topic id)).2
  | .getResource .. =>
    let w := match w.script.storeAfterGet with
      | none => w
      | some doc => (w.setScript { w.script with storeAfterGet := none }).storeAside doc
    match w.script.deleteAfterGet with
    | none => w
    | some id => (w.setScript { w.script with deleteAfterGet := none }).deleteAside id
  | _ => w

/-- The answer of a local authority or of a remote one that cannot be reached. -/
def respond (w : World) (call : AuthorityCall) : Except AuthorityError call.Value × World :=
  match w.site.authority with
  | .inProcess a =>
    let w := w.before call
    let (answer, a) := a.respond call
    (answer, (w.setAuthority (.inProcess a)).after call)
  | .remote a =>
    let w := match RemoteAuthority.reportBefore call with
      | some event => w.report event
      | none => w
    (a.respond (fun _ => none) call, w)

def askAuthority (w : World) : (call : AuthorityCall) → Except AuthorityError call.Value × World
  | .setPermission topic id grants =>
    if 0 < w.script.dropGrants then
      (.ok (), w.setScript { w.script with dropGrants := w.script.dropGrants - 1 })
    else w.respond (.setPermission topic id grants)
  | call => w.respond call

/-- The call changes the store. -/
def isChange : StoreCall → Bool
  | .upsert _ | .delete _ => true
  | _ => false

/-- The answer of the store, which refuses changes by those who may only read. -/
def askSound (w : World) (call : StoreCall) : Except StoreError call.Value × World :=
  let refused (store : Store) : Except StoreError call.Value × World :=
    ((store.respond call).1.bind fun _ => .error (.database .sqlite), w)
  match w.store with
  | .error _ => refused Store.empty
  | .ok store =>
    if !isChange call then ((store.respond call).1, w)
    else if w.site.connection.isWritable then
      let (answer, store) := store.respond call
      (answer, w.setStore store)
    else refused store

def askStore (w : World) (call : StoreCall) : Except StoreError call.Value × World :=
  let (fails, faults) := w.site.arranged.storeFaults.next
  let w := w.arrange ({ · with storeFaults := faults })
  if fails then
    (.error (if w.site.arranged.storePanics then .worker "<panic>" else
      .invalidData "injected fault"), w)
  else w.askSound call

/-! ### The log -/

def injected (call : String) : LogError := .backend ("injected " ++ call ++ " fault")

def append (w : World) (topic : String) (key value : List UInt8) :
    Except LogError (Nat × Nat) × World :=
  let (fails, faults) := w.logFaults.append.next
  let w := w.setLogFaults { w.logFaults with append := faults }
  if fails then (.error (injected "append"), w)
  else
    match w.site.log.append topic key value with
    | .ok (position, log) => (.ok position, w.setLog log)
    | .error problem => (.error problem, w)

/-- A new reader, past the arranged failures. -/
def subscribeRaw (w : World) (group topic : String) : Except LogError LogReader × World :=
  match w.site.log.subscribe group topic with
  | .ok (reader, log) =>
    (.ok reader, (w.setLog log).report ⟨.debug, "log_subscribe", "source", "ok",
      [("backend", "memory"), ("topic", topic), ("group", group)]⟩)
  | .error problem => (.error problem, w)

def subscribe (w : World) (group topic : String) : Except LogError LogReader × World :=
  let (fails, faults) := w.logFaults.subscribe.next
  let w := w.setLogFaults { w.logFaults with subscribe := faults }
  if fails then (.error (injected "subscribe"), w) else w.subscribeRaw group topic

/-- The failure with which a fetch ends before it begins, if one is arranged. -/
def beginFetch (w : World) : Option LogError × World :=
  let (fails, faults) := w.logFaults.fetch.next
  let w := w.setLogFaults { w.logFaults with fetch := faults }
  (if fails then some (injected "fetch") else none, w)

def commit (w : World) (reader : LogReader) (record : LogRecord) :
    Except LogError Unit × World :=
  let (fails, faults) := w.logFaults.commit.next
  let w := w.setLogFaults { w.logFaults with commit := faults }
  if fails then (.error (injected "commit"), w)
  else
    match w.site.log.commit reader record with
    | .ok log => (.ok (), w.setLog log)
    | .error problem => (.error problem, w)

/-! ### Programs -/

/-- A text of the form of a random id, different for every number. -/
def idText (n : Nat) : String :=
  let digits := toString n
  "00000000-0000-4000-8000-" ++ String.ofList (List.replicate (12 - digits.length) '0') ++ digits

def answer : (call : Call) → World → call.Answer × World
  | .authority call, w => w.askAuthority call
  | .store call, w => w.askStore call
  | .append topic key value, w => w.append topic key value
  | .now, w => (w.clock, w)
  | .freshId, w => (idText (w.created + 1), { w with created := w.created + 1 })
  | .report event, w => ((), w.report event)

def run {ε α : Type} (w : World) (program : Program ε α) : Except ε α × World :=
  program.run answer w

end World
end ModelDepot.Rehearsal
