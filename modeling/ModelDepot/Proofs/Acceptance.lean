import ModelDepot.Proofs.Migration
import ModelDepot.Proofs.StoreHistory

/-!
Which databases are accepted, and what can be done with them. A database is brought to the latest version and then
judged by its version and the names of its columns; a document can be put only into a table whose key is the id, and
that is not asked for. Main statement: a database that only this library has made and changed is accepted, and takes
every document and finds it again; one whose table somebody else has made without a key is accepted too, and takes none
(`own_serves_keyless_refuses`).
-/
namespace ModelDepot

/-- Every column of a document is there. -/
def Table.Complete (table : Table) : Prop := ∀ column ∈ Column.all, column.label ∈ table.columns

theorem Table.complete_empty : Table.empty.Complete := fun _ known => List.mem_map_of_mem known

theorem Table.hasKey_empty : Table.empty.HasKey := ⟨∅, rfl⟩

namespace Database
variable {db migrated : Database} {table : Table}

/-- The version is known, and the table has all columns. Only a new database may be without a table. -/
structure Fits (db : Database) : Prop where
  known : 0 ≤ db.version ∧ db.version ≤ latestVersion
  new : db.table = none → db.version = 0
  complete (table : Table) : db.table = some table → table.Complete

/-- There is a table, and the id is not its key. -/
def Keyless (db : Database) : Prop := ∃ table, db.table = some table ∧ ¬ table.HasKey

/-- The database is accepted, and takes documents. -/
structure Usable (db : Database) : Prop where
  fits : db.Fits
  keys (table : Table) : db.table = some table → table.HasKey

/-- A database that was new, and with which nothing was done but steps of the schema and changes of the store. -/
inductive Own : Database → Prop
  | new : Own {}
  | step {db after : Database} {step : SchemaStep} (own : Own db) (known : step ∈ SchemaStep.all)
      (taken : step.run db = .ok after) : Own after
  | edit {db : Database} {table : Table} (own : Own db) (present : db.table = some table) (edit : StoreEdit) :
      Own { db with table := some ((Store.mk table).respond edit.call).2.table }

/-! ### Which databases can be brought to the latest version -/

theorem migrateReported_eq_migrate (db : Database) : (migrateReported { db := db }).1 = db.migrate := by
  unfold migrateReported migrate
  cases db.pendingSteps with
  | error problem => rfl
  | ok steps =>
    simp only [Bool.or_true, if_true, takeSteps_eq, bind, Except.bind]
    rfl

theorem withIndex_of_named (has : Indexes → Bool) (add : Indexes → Indexes) {column : String}
    (present : db.table = some table) (named : column ∈ table.columns) :
    ∃ indexes, db.withIndex column has add = .ok { db with table := some { table with indexes := indexes } } := by
  unfold withIndex
  rw [present]
  by_cases there : has table.indexes
  · obtain ⟨version, _⟩ := db
    obtain rfl := present
    exact ⟨table.indexes, by simp [there]⟩
  · exact ⟨add table.indexes, by simp [there, named]⟩

theorem withIndexes_of_complete (present : db.table = some table) (complete : table.Complete) :
    ∃ indexed, db.withIndexes = .ok indexed := by
  have named (column : Column) : column.label ∈ table.columns := complete column (by cases column <;> decide)
  have indexed (indexes : Indexes) : ({ db with table := some { table with indexes := indexes } } : Database).table =
      some { table with indexes := indexes } := rfl
  obtain ⟨first, published⟩ :=
    withIndex_of_named (·.publish) (fun i => { i with publish := true }) present (named .publish)
  obtain ⟨second, dated⟩ :=
    withIndex_of_named (·.lastUpdated) (fun i => { i with lastUpdated := true }) (indexed first) (named .lastUpdated)
  obtain ⟨third, titled⟩ :=
    withIndex_of_named (·.name) (fun i => { i with name := true }) (indexed second) (named .name)
  refine ⟨{ db with table := some { table with indexes := third } }, ?_⟩
  unfold withIndexes
  simp only [Column.label] at published dated titled
  simp only [published, dated, titled, bind, Except.bind]

/-- From an earlier version the steps can be taken if the table that they find, or make, has all columns. -/
theorem stepsTaken_of_fits {version : Nat} (found : db.version = version) (earlier : version < latestVersion)
    (fits : db.Fits) :
    ∃ migrated, stepsTaken (SchemaStep.all.filter fun step => version < step.version) db = .ok migrated := by
  match version, earlier with
  | 0, _ =>
    have made : ({ db.withTable with version := 1 } : Database).table = some (db.table.getD Table.empty) :=
      withTable_table db
    have complete : (db.table.getD Table.empty).Complete := by
      cases there : db.table with
      | none => exact Table.complete_empty
      | some table => exact fits.complete table there
    obtain ⟨indexed, done⟩ := withIndexes_of_complete made complete
    refine ⟨{ indexed with version := 2 }, ?_⟩
    simp [stepsTaken, SchemaStep.all, SchemaStep.run, done, bind, Except.bind, pure, Except.pure]
  | 1, _ =>
    cases there : db.table with
    | none =>
      have new := fits.new there
      omega
    | some table =>
      obtain ⟨indexed, done⟩ := withIndexes_of_complete there (fits.complete table there)
      refine ⟨{ indexed with version := 2 }, ?_⟩
      simp [stepsTaken, SchemaStep.all, SchemaStep.run, done, bind, Except.bind, pure, Except.pure]

/-- Only the first step makes a table. -/
theorem new_of_stepsTaken {version : Nat} (earlier : version < latestVersion)
    (done : stepsTaken (SchemaStep.all.filter fun step => version < step.version) db = .ok migrated)
    (absent : db.table = none) : version = 0 := by
  match version, earlier with
  | 0, _ => rfl
  | 1, _ =>
    obtain ⟨indexed, added, -⟩ := ok_of_bind done
    obtain ⟨table, present, -⟩ := run_withIndexes added
    cases absent.symm.trans present

/-- A success leaves a database of the latest version alone, and gives an earlier one its indexes, with a new table
    where there was none. -/
theorem migrate_eq_ok (done : db.migrate = .ok migrated) :
    (db.version = latestVersion ∧ migrated = db) ∨
    (0 ≤ db.version ∧ db.version < latestVersion ∧ (db.table = none → db.version = 0) ∧ migrated =
      { version := latestVersion, table := some { db.table.getD Table.empty with indexes := allIndexes } }) := by
  obtain ⟨steps, pending, taken⟩ := ok_of_bind done
  by_cases negative : db.version < 0
  · cases (pendingSteps_of_negative negative).symm.trans pending
  obtain ⟨version, found⟩ := Int.eq_ofNat_of_zero_le (Int.not_lt.mp negative)
  by_cases newer : latestVersion < version
  · cases (pendingSteps_of_newer found newer).symm.trans pending
  by_cases earlier : version < latestVersion
  · obtain rfl := Except.ok.inj ((pendingSteps_of_known found (Nat.not_lt.mp newer)).symm.trans pending)
    refine .inr ⟨by omega, by omega, fun absent => ?_, stepsTaken_from earlier taken⟩
    rw [found, new_of_stepsTaken earlier taken absent]
    rfl
  · have latest : db.version = latestVersion := by omega
    obtain rfl := Except.ok.inj ((pendingSteps_of_latest latest).symm.trans pending)
    exact .inl ⟨latest, (Except.ok.inj taken).symm⟩

theorem migrate_of_fits (fits : db.Fits) : ∃ migrated, db.migrate = .ok migrated := by
  obtain ⟨known, atMost⟩ := fits.known
  obtain ⟨version, found⟩ := Int.eq_ofNat_of_zero_le known
  by_cases earlier : version < latestVersion
  · have pending := pendingSteps_of_known found (Nat.le_of_lt earlier)
    obtain ⟨migrated, taken⟩ := stepsTaken_of_fits found earlier fits
    exact ⟨migrated, by simpa [migrate, stepsTaken, pending, bind, Except.bind] using taken⟩
  · have latest : db.version = latestVersion := by omega
    exact ⟨db, by simp [migrate, pendingSteps_of_latest latest, bind, Except.bind, pure, Except.pure]⟩

end Database

namespace Store
variable {db : Database} {store : Store} {document : Document}

/-! ### What is asked of a database at the latest version -/

/-- The first column that is missing decides. -/
theorem ofDatabase_of_latest {table : Table} (latest : db.version = Database.latestVersion)
    (present : db.table = some table) :
    ofDatabase db = match Column.all.find? (!table.columns.contains ·.label) with
      | some column => .error (.missingColumn Table.name column.label)
      | none => .ok ⟨table⟩ := by
  obtain ⟨version, found⟩ := db
  obtain rfl := latest
  obtain rfl := present
  rfl

theorem ofDatabase_of_bare (latest : db.version = Database.latestVersion) (absent : db.table = none) :
    ofDatabase db = .error (.missingTable Table.name) := by
  obtain ⟨version, found⟩ := db
  obtain rfl := latest
  obtain rfl := absent
  rfl

theorem ofDatabase_of_other (other : db.version ≠ Database.latestVersion) :
    ∃ problem, ofDatabase db = .error problem := by
  unfold ofDatabase Database.readVersion
  by_cases known : 0 ≤ db.version
  · have different : db.version.toNat ≠ Database.latestVersion := by omega
    rw [if_pos known]
    exact ⟨_, by simp only [bind, Except.bind, pure, Except.pure, if_pos different]; rfl⟩
  · rw [if_neg known]
    exact ⟨_, rfl⟩

theorem ofDatabase_eq_ok : ofDatabase db = .ok store ↔
    db.version = Database.latestVersion ∧ db.table = some store.table ∧ store.table.Complete := by
  by_cases latest : db.version = Database.latestVersion
  · cases present : db.table with
    | none => simp [ofDatabase_of_bare latest present]
    | some table =>
      rw [ofDatabase_of_latest latest present]
      cases missing : Column.all.find? (!table.columns.contains ·.label) with
      | none =>
        have complete : table.Complete := by simpa [Table.Complete] using List.find?_eq_none.mp missing
        simp only [Except.ok.injEq, Option.some.injEq]
        constructor
        · rintro rfl
          exact ⟨latest, rfl, complete⟩
        · rintro ⟨_, rfl, _⟩
          rfl
      | some column =>
        have lacks := List.find?_some missing
        simp only [reduceCtorEq, false_iff, Option.some.injEq, not_and]
        rintro - rfl complete
        have there := complete column (List.mem_of_find?_eq_some missing)
        simp [there] at lacks
  · obtain ⟨problem, refused⟩ := ofDatabase_of_other latest
    simp [refused, latest]

/-- The store in a database as it was found, which is brought to the latest version first. -/
def openedIn (db : Database) : Except StoreError Store :=
  match (Database.migrateReported { db := db }).1 with
  | .ok migrated => ofDatabase migrated
  | .error problem => .error (.database problem)

/-- Whatever was done to the store, every document with an id is taken and found again. -/
def Serves (store : Store) : Prop := ∀ (edits : List StoreEdit) (document : Document), document.validate = .ok () →
  ∃ after, (store.edited edits).upsert document = .ok after ∧ after.get document.id = .ok (some document)

/-- Whatever was done to the store, no document is taken. -/
def Refuses (store : Store) : Prop := ∀ (edits : List StoreEdit) (document : Document), document.validate = .ok () →
  (store.edited edits).upsert document = .error (.database .sqlite)

/-! ### What is accepted -/

theorem openedIn_eq_ok :
    openedIn db = .ok store ↔ ∃ migrated, db.migrate = .ok migrated ∧ ofDatabase migrated = .ok store := by
  unfold openedIn
  rw [Database.migrateReported_eq_migrate]
  cases db.migrate with
  | error problem => simp
  | ok migrated => simp

/-- An accepted store has the rows of the table that was found, or of a new one. -/
theorem table_of_openedIn (opened : openedIn db = .ok store) :
    db.Fits ∧ store.table.rows = (db.table.getD Table.empty).rows := by
  obtain ⟨migrated, done, isStore⟩ := openedIn_eq_ok.mp opened
  obtain ⟨-, present, complete⟩ := ofDatabase_eq_ok.mp isStore
  obtain ⟨latest, rfl⟩ | ⟨known, earlier, new, rfl⟩ := Database.migrate_eq_ok done
  · refine ⟨⟨by omega, by simp [present], fun table there => ?_⟩, by rw [present, Option.getD_some]⟩
    obtain rfl := Option.some.inj (present.symm.trans there)
    exact complete
  · have kept := Option.some.inj present
    refine ⟨⟨⟨known, by omega⟩, new, fun table there => ?_⟩, by rw [← kept]⟩
    rw [there, Option.getD_some] at kept
    exact fun column isColumn => by simpa [← kept] using complete column isColumn

theorem openedIn_iff : (∃ store, openedIn db = .ok store) ↔ db.Fits := by
  constructor
  · rintro ⟨store, opened⟩
    exact (table_of_openedIn opened).1
  intro fits
  obtain ⟨migrated, done⟩ := Database.migrate_of_fits fits
  have accepted : ∃ store, ofDatabase migrated = .ok store := by
    obtain ⟨latest, rfl⟩ | ⟨-, -, -, rfl⟩ := Database.migrate_eq_ok done
    · cases present : migrated.table with
      | none => cases (fits.new present).symm.trans latest
      | some table => exact ⟨⟨table⟩, ofDatabase_eq_ok.mpr ⟨latest, present, fits.complete table present⟩⟩
    · refine ⟨⟨_⟩, ofDatabase_eq_ok.mpr ⟨rfl, rfl, ?_⟩⟩
      cases there : db.table with
      | none => exact Table.complete_empty
      | some table => exact fits.complete table there
  obtain ⟨store, isStore⟩ := accepted
  exact ⟨store, openedIn_eq_ok.mpr ⟨migrated, done, isStore⟩⟩

/-- A table without a key gets none when it is accepted. -/
theorem keyless_of_openedIn (opened : openedIn db = .ok store) (keyless : db.Keyless) : ¬ store.table.HasKey := by
  obtain ⟨table, present, without⟩ := keyless
  have kept := (table_of_openedIn opened).2
  rw [present, Option.getD_some] at kept
  rintro ⟨rows, isKeyed⟩
  exact without ⟨rows, kept ▸ isKeyed⟩

/-! ### What is taken -/

/-- A change of the store leaves the table alone, puts a row into it or erases what is under an id. -/
theorem table_edit (store : Store) (edit : StoreEdit) :
    (store.respond edit.call).2.table = store.table ∨
      (∃ row, store.table.put row = .ok (store.respond edit.call).2.table) ∨
      ∃ id, (store.respond edit.call).2.table = store.table.erase id := by
  cases edit with
  | delete id => exact .inr (.inr ⟨id, rfl⟩)
  | upsert document =>
    cases done : store.upsert document with
    | error problem => exact .inl (by simp only [StoreEdit.call, respond, done])
    | ok after =>
      refine .inr (.inl ⟨.ofDocument document, ?_⟩)
      simp only [StoreEdit.call, respond, done]
      exact (upsert_eq_ok done).2

/-- No change of the store gives its table a key, or takes it away. -/
theorem hasKey_edit (store : Store) (edit : StoreEdit) :
    (store.respond edit.call).2.table.HasKey ↔ store.table.HasKey := by
  obtain same | ⟨row, put⟩ | ⟨id, erased⟩ := table_edit store edit
  · rw [same]
  · have key := Table.hasKey_of_put put
    obtain ⟨table, putToo, still⟩ := key.put row
    obtain rfl := Except.ok.inj (putToo.symm.trans put)
    exact iff_of_true still key
  · rw [erased]
    exact Table.hasKey_erase

theorem columns_edit (store : Store) (edit : StoreEdit) :
    (store.respond edit.call).2.table.columns = store.table.columns := by
  obtain same | ⟨row, put⟩ | ⟨id, erased⟩ := table_edit store edit
  · rw [same]
  · exact Table.columns_put put
  · rw [erased, Table.columns_erase]

theorem hasKey_edited (store : Store) (edits : List StoreEdit) :
    (store.edited edits).table.HasKey ↔ store.table.HasKey := by
  induction edits generalizing store with
  | nil => rfl
  | cons edit more ih => exact (ih _).trans (hasKey_edit store edit)

theorem taken_of_key (key : store.table.HasKey) (valid : document.validate = .ok ()) :
    ∃ after, store.upsert document = .ok after ∧ after.get document.id = .ok (some document) := by
  obtain ⟨table, put, -⟩ := key.put (.ofDocument document)
  have done : store.upsert document = .ok ⟨table⟩ := by simp only [upsert, valid, put]
  refine ⟨⟨table⟩, done, ?_⟩
  unfold get
  rw [find?_upsert done, if_pos rfl]
  simp only [Row.toDocument_ofDocument valid]
  rfl

theorem refused_of_keyless (keyless : ¬ store.table.HasKey) (valid : document.validate = .ok ()) :
    store.upsert document = .error (.database .sqlite) := by
  cases isRows : store.table.rows with
  | keyed rows => exact absurd ⟨rows, isRows⟩ keyless
  | loose rows => simp only [upsert, valid, Table.put, isRows]

theorem serves_of_key (key : store.table.HasKey) : store.Serves :=
  fun edits _ valid => taken_of_key ((hasKey_edited store edits).mpr key) valid

theorem refuses_of_keyless (keyless : ¬ store.table.HasKey) : store.Refuses :=
  fun edits _ valid => refused_of_keyless (mt (hasKey_edited store edits).mp keyless) valid

theorem usable_step {after : Database} {step : SchemaStep} (usable : db.Usable) (known : step ∈ SchemaStep.all)
    (taken : step.run db = .ok after) : after.Usable := by
  obtain ⟨fits, keys⟩ := usable
  simp only [SchemaStep.all, List.mem_cons, List.not_mem_nil, or_false] at known
  rcases known with rfl | rfl
  · obtain rfl := Except.ok.inj taken
    have made := Database.withTable_table db
    have sound : (db.table.getD Table.empty).Complete ∧ (db.table.getD Table.empty).HasKey := by
      cases there : db.table with
      | none => exact ⟨Table.complete_empty, Table.hasKey_empty⟩
      | some table => exact ⟨fits.complete table there, keys table there⟩
    have version : (0 : Int) ≤ 1 ∧ (1 : Int) ≤ 2 := by decide
    refine ⟨⟨version, fun absent => absurd (made.symm.trans absent) (Option.some_ne_none _), fun table there => ?_⟩,
      fun table there => ?_⟩
    · exact Option.some.inj (made.symm.trans there) ▸ sound.1
    · exact Option.some.inj (made.symm.trans there) ▸ sound.2
  · obtain ⟨table, present, rfl⟩ := Database.run_withIndexes taken
    refine ⟨⟨⟨Int.natCast_nonneg _, Int.le_refl _⟩, fun absent => absurd absent (Option.some_ne_none _),
      fun indexed there => ?_⟩, fun indexed there => ?_⟩
    · exact Option.some.inj there ▸ fits.complete table present
    · exact Option.some.inj there ▸ keys table present

theorem usable_edit {table : Table} (usable : db.Usable) (present : db.table = some table) (edit : StoreEdit) :
    Database.Usable { db with table := some ((Store.mk table).respond edit.call).2.table } := by
  refine ⟨⟨usable.fits.known, nofun, fun edited there => ?_⟩, fun edited there => ?_⟩
  · obtain rfl := Option.some.inj there
    unfold Table.Complete
    rw [columns_edit]
    exact usable.fits.complete table present
  · obtain rfl := Option.some.inj there
    exact (hasKey_edit ⟨table⟩ edit).mpr (usable.keys table present)

theorem usable_of_own (own : db.Own) : db.Usable := by
  induction own with
  | new => exact ⟨⟨⟨Int.le_refl 0, Int.natCast_nonneg _⟩, fun _ => rfl, nofun⟩, nofun⟩
  | step _ known taken usable => exact usable_step usable known taken
  | edit _ present edit usable => exact usable_edit usable present edit

/-- A database is accepted exactly if its version is known and all columns are there. If nobody else has done anything
    to it, every document is taken and found again; if somebody has put a table without a key into it, none is ever
    taken. -/
theorem own_serves_keyless_refuses (db : Database) :
    ((∃ store, openedIn db = .ok store) ↔ db.Fits) ∧
    (db.Own → ∃ store, openedIn db = .ok store ∧ store.Serves) ∧
    ∀ store, openedIn db = .ok store → db.Keyless → store.Refuses := by
  refine ⟨openedIn_iff, fun own => ?_,
    fun store opened keyless => refuses_of_keyless (keyless_of_openedIn opened keyless)⟩
  obtain ⟨fits, keys⟩ := usable_of_own own
  obtain ⟨store, opened⟩ := openedIn_iff.mpr fits
  have key : store.table.HasKey := by
    unfold Table.HasKey
    rw [(table_of_openedIn opened).2]
    cases there : db.table with
    | none => exact Table.hasKey_empty
    | some table => exact keys table there
  exact ⟨store, opened, serves_of_key key⟩

/-- A database of the first version, with a document and no index. -/
def outdated : Database where
  version := 1
  table := some (empty.respond (.upsert { id := "old", publish := true })).2.table

/-- A new database into which somebody else has put a table with all columns, but without a key. -/
def keyless : Database := { table := some { columns := Column.all.map Column.label, rows := .loose [] } }

theorem own_serves_keyless_refuses_outdated :
    (outdated.Own ∧ ∃ store, openedIn outdated = .ok store ∧ store.Serves) ∧
      ∃ store, openedIn keyless = .ok store ∧ keyless.Keyless ∧ store.Refuses := by
  have made : Database.Own { version := 1, table := some Table.empty } := .step .new List.mem_cons_self rfl
  have own : outdated.Own := .edit made rfl (.upsert { id := "old", publish := true })
  have without : keyless.Keyless := ⟨_, rfl, fun ⟨_, isKeyed⟩ => by cases isKeyed⟩
  exact ⟨⟨own, (own_serves_keyless_refuses outdated).2.1 own⟩,
    _, rfl, without, (own_serves_keyless_refuses keyless).2.2 _ rfl without⟩

/-- It is accepted, and a document with an id cannot be put into it. -/
theorem keyless_accepted : ∃ store, openedIn keyless = .ok store ∧
    ({ id := "probe", name := "Probe" } : Document).validate = .ok () ∧
    store.upsert { id := "probe", name := "Probe" } = .error (.database .sqlite) :=
  ⟨_, rfl, rfl, rfl⟩

end Store
end ModelDepot
