import ModelDepot.Service
import ModelDepot.Proofs.BackfillRun
import ModelDepot.Proofs.DriftRepair

/-!
A start with an authority in this process, which has forgotten all grants. The documents are backfilled before anything
else runs, so no cleanup pass takes them for strays. Main statement: `start_restores`.
-/
namespace ModelDepot

/-! ### Passes with nothing to do -/

namespace Cleanup
variable {c : Cleanup} {moment : Moment} {topic : String} {d : Depot}

/-- The resources with grants are those with documents. -/
def Level (topic : String) (d : Depot) : Prop := ∀ id, (d.grants? topic id).isSome ↔ (d.row? id).isSome

theorem repairs_of_level (level : Level c.topic d) (distinct : d.store.table.Distinct) : c.Repairs moment d d where
  grants id grants := by
    constructor
    · intro granted
      exact ⟨granted, (level id).mp (Option.isSome_of_eq_some granted)⟩
    · exact And.left
  rows id row := by
    constructor
    · intro found
      exact ⟨found, .inl ((level id).mpr (Option.isSome_of_eq_some found))⟩
    · exact And.left
  otherTopics _ _ _ := rfl
  topics := rfl
  log := rfl
  distinct := distinct

theorem length_ids_le_of_level (level : Level topic d) (distinct : d.store.table.Distinct) :
    (d.authority.ids topic).length ≤ d.store.table.toList.length := by
  have once : (d.authority.ids topic).Nodup := Std.ExtTreeMap.nodup_keys
  have stored : d.authority.ids topic ⊆ d.store.table.toList.map (·.id) := by
    intro id granted
    obtain ⟨row, found⟩ := Option.isSome_iff_exists.mp ((level id).mp (Authority.mem_ids.mp granted))
    have own := distinct.id_eq found
    exact List.mem_map.mpr ⟨row, distinct.mem_toList.mpr (own.symm ▸ found), own⟩
  have fewer := (List.subperm_of_subset once stored).length_le
  rwa [List.length_map] at fewer

theorem pass_of_level (level : Level c.topic d) (registered : d.authority.isRegistered c.topic)
    (distinct : d.store.table.Distinct) (countable : d.store.table.toList.length < UInt64.size) :
    (c.passUnless false).run (Depot.answer moment) d = (.ok ⟨0, 0⟩, d) := by
  have countableIds := Nat.lt_of_le_of_lt (length_ids_le_of_level level distinct) countable
  exact pass_of_repaired (repairs_of_level level distinct) registered countableIds

end Cleanup

/-! ### A start -/

namespace Service
variable {settings : Settings} {moment : Moment} {d : Depot} {documents : List Document}

theorem registerTopic_completes (topic : String) :
    (Control.registerTopic topic).Completes moment
      (fun _ e => e = { d with authority := d.authority.register (.ofTopic topic) }) d := by
  apply Program.completes_bind (Q := fun _ e => e = { d with authority := d.authority.register (.ofTopic topic) })
  · exact Program.completes_authority rfl rfl
  · rintro _ _ rfl
    exact ⟨rfl, rfl⟩

@[simp]
theorem isRegistered_register (a : Authority) (topic : String) : (a.register (.ofTopic topic)).isRegistered topic := by
  simp [Authority.register, Authority.isRegistered, Registration.ofTopic]

/-- With an authority in this process, a start makes the topic known and then backfills. -/
theorem start_completes (isLocal : settings.usesLocalAuthority) (shown : d.store.Shows documents)
    (distinct : d.store.table.Distinct) (few : documents.length < UInt32.size - 1000) :
    (start settings).Completes moment
      (fun _ e => e = { d with authority := d.authority.register (.ofTopic settings.processTopic) }.backfilled
        settings.processTopic documents) d := by
  have backfills : backfillsAtStart settings := by rw [backfillsAtStart, isLocal, Bool.or_true]
  unfold start
  apply Program.completes_bind (Program.completes_mapError (registerTopic_completes settings.processTopic))
  rintro _ known rfl
  rw [if_pos backfills]
  have runs : (Backfill.run settings.processTopic).Completes moment _
      { d with authority := d.authority.register (.ofTopic settings.processTopic) } :=
    Backfill.run_completes shown (isRegistered_register d.authority settings.processTopic) distinct few
  apply Program.completes_bind (Program.completes_mapError runs)
  rintro report e ⟨became, -⟩
  exact ⟨rfl, rfl, became⟩

/-- The depot once the topic is known. -/
def opened (topic : String) (store : Store) (log : Log) : Depot :=
  ⟨store, ({} : Authority).register (.ofTopic topic), log⟩

/-- Exactly the stored documents have grants, which are their owners'. -/
structure Restored (topic : String) (d e : Depot) : Prop where
  registered : e.authority.isRegistered topic
  granted (id : String) : id ∈ e.authority.ids topic ↔ id ∈ d.store.allIds
  owned (id : String) (document : Document) (stored : d.store.get id = .ok (some document)) :
    e.grants? topic id = some (.forOwner document.owner)
  store : e.store = d.store
  log : e.log = d.log

theorem restored_of_backfilled {store : Store} (shown : store.Shows documents) (distinct : store.table.Distinct)
    (legible : store.Legible) (topic : String) (log : Log) :
    Restored topic ⟨store, {}, log⟩ ((opened topic store log).backfilled topic documents) := by
  have outcome : Backfill.Outcome topic (opened topic store log) _ _ := Backfill.outcome_of_backfilled shown distinct
  have forgotten : ∀ id, (opened topic store log).grants? topic id = none := by
    intro id
    simp [opened, Depot.grants?, Authority.register, Authority.grants?, Authority.grantsOf]
  have grants : ∀ id found, store.get id = .ok found →
      ((opened topic store log).backfilled topic documents).grants? topic id =
        found.map fun document => .forOwner document.owner := by
    intro id found got
    rw [outcome.grants id found got, forgotten, Option.none_or]
  refine ⟨?_, fun id => ?_, fun id document stored => grants id _ stored, rfl, rfl⟩
  · rw [Authority.isRegistered, outcome.topics]
    exact isRegistered_register {} topic
  · obtain ⟨found, got⟩ := legible id
    rw [Authority.mem_ids, Store.mem_allIds_of_distinct distinct, ← Store.isSome_of_get got]
    rw [show Authority.grants? _ topic id = _ from grants id found got, Option.isSome_map]

/-- A start with an authority in this process gives every stored document its owner's grants and grants nothing else.
    No cleanup pass that follows has anything to remove, whatever its grace, its page size and the time. -/
theorem start_restores (settings : Settings) (store : Store) (log : Log) (moment : Moment)
    (isLocal : settings.usesLocalAuthority) (distinct : store.table.Distinct) (legible : store.Legible)
    (few : store.table.toList.length < UInt32.size - 1000) :
    ∃ e,
      (start settings).run (Depot.answer moment) ⟨store, {}, log⟩ = (.ok (), e) ∧
        Restored settings.processTopic ⟨store, {}, log⟩ e ∧
        ∀ (c : Cleanup) (later : Moment), c.topic = settings.processTopic →
          (c.passUnless false).run (Depot.answer later) e = (.ok ⟨0, 0⟩, e) := by
  obtain ⟨documents, shown⟩ := Store.exists_shows distinct legible
  have fewDocuments : documents.length < UInt32.size - 1000 := shown.length_eq ▸ few
  have completes : (start settings).Completes moment _ ⟨store, {}, log⟩ :=
    start_completes isLocal shown distinct fewDocuments
  obtain ⟨_, e, ran, isRestored⟩ := Program.run_of_completes completes
  have restored : Restored settings.processTopic ⟨store, {}, log⟩ e := by
    rw [isRestored]
    exact restored_of_backfilled shown distinct legible settings.processTopic log
  refine ⟨e, ran, restored, fun c later ofTopic => ?_⟩
  have level : Cleanup.Level c.topic e := by
    intro id
    rw [ofTopic, Depot.row?, restored.store, ← Store.mem_allIds_of_distinct distinct]
    exact Authority.mem_ids.symm.trans (restored.granted id)
  refine Cleanup.pass_of_level level ?_ ?_ ?_
  · rw [ofTopic]
    exact restored.registered
  · rw [restored.store]
    exact distinct
  · rw [restored.store]
    exact Nat.lt_trans few (by decide)

/-- Without an address of an authority, the grants are kept in this process. -/
def standalone : Settings := { permissionsUrl := "-" }

theorem start_restores_stocked :
    (standalone.usesLocalAuthority ∧ (Backfill.stocked 2500).store.table.Distinct ∧
        (Backfill.stocked 2500).store.Legible ∧
        (Backfill.stocked 2500).store.table.toList.length < UInt32.size - 1000) ∧
      ∃ e,
        (start standalone).run (Depot.answer ⟨1, "x"⟩) ⟨(Backfill.stocked 2500).store, {}, .new 4⟩ = (.ok (), e) ∧
          Restored standalone.processTopic ⟨(Backfill.stocked 2500).store, {}, .new 4⟩ e ∧
          ∀ (c : Cleanup) (later : Moment), c.topic = standalone.processTopic →
            (c.passUnless false).run (Depot.answer later) e = (.ok ⟨0, 0⟩, e) := by
  have isLocal : standalone.usesLocalAuthority := by decide
  obtain ⟨-, distinct, legible, few⟩ := Backfill.stocked_holds (n := 2500) (by decide)
  exact ⟨⟨isLocal, distinct, legible, few⟩, start_restores standalone _ (.new 4) _ isLocal distinct legible few⟩

end Service
end ModelDepot
