import ModelDepot.Proofs.RetriedApply

/-!
A command that is delivered once more and applied at another time. The later application decides what is stored, and
only a document without a stamp can tell the two apart. Main statement: `redelivered_iff`.
-/
namespace ModelDepot

theorem Document.stampIfUnset_of_unstamped {document : Document} (unstamped : document.isStamped = false)
    (time : Int64) :
    document.stampIfUnset time = { document with lastUpdated := time } := by
  unfold stampIfUnset
  rw [unstamped]
  rfl

namespace Store
variable {store : Store} {document : Document} {first second : Int64}

/-- What was stored under another time leaves no trace. -/
theorem holding_restamped :
    (store.holding (document.stampIfUnset first)).holding (document.stampIfUnset second) =
      store.holding (document.stampIfUnset second) := by
  obtain ⟨columns, rows, indexes⟩ := store
  have sameId : (document.stampIfUnset first).id = (document.stampIfUnset second).id := by
    simp
  unfold holding upsert Document.validate
  rw [sameId]
  cases Text.allBlank (document.stampIfUnset second).id <;> cases rows <;>
    simp [Table.put, Row.ofDocument]

theorem holding_stamped_inj (accepted : ∃ after, store.upsert document = .ok after)
    (unstamped : document.isStamped = false)
    (same : store.holding (document.stampIfUnset first) = store.holding (document.stampIfUnset second)) :
    first = second := by
  obtain ⟨named, key⟩ := upsert_iff.mp accepted
  have row : ∀ time, (store.holding (document.stampIfUnset time)).table.find? document.id =
      some (.ofDocument (document.stampIfUnset time)) := by
    intro time
    rw [find?_holding key (by simpa using named), if_pos (Document.id_stampIfUnset _ _).symm]
  have rows : Row.ofDocument (document.stampIfUnset first) = .ofDocument (document.stampIfUnset second) := by
    rw [← Option.some_inj, ← row first, ← row second, same]
  have stamps := congrArg Row.lastUpdated rows
  rwa [Document.stampIfUnset_of_unstamped unstamped, Document.stampIfUnset_of_unstamped unstamped] at stamps

end Store

namespace Depot
variable {first second : Int64} {topic : String}

/-- Of two applications of a command the later one decides. -/
theorem applied_later (command : Command) (d : Depot) :
    (d.applied first topic command).applied second topic command = d.applied second topic command := by
  cases command with
  | put owner document => simp [applied, Store.holding_restamped]
  | delete id owner => simp [applied]

theorem applied_eq_iff {command : Command} {d : Depot} (admitted : d.store.Admits command) :
    d.applied second topic command = d.applied first topic command ↔ command.Stamped ∨ first = second := by
  cases command with
  | delete id owner => exact ⟨fun _ => .inl trivial, fun _ => rfl⟩
  | put owner document =>
    constructor
    · intro same
      cases stamped : document.isStamped with
      | true => exact .inl stamped
      | false => exact .inr (Store.holding_stamped_inj admitted stamped (congrArg Depot.store same).symm)
    · rintro (stamped | rfl)
      · simp only [applied, Document.stampIfUnset_of_stamped (show document.isStamped from stamped)]
      · rfl

end Depot

namespace Control
variable {topic : String} {command : Command} {d : Depot}

/-- A command that is applied a second time succeeds, and leaves what applying it only then would have left. That is the
    same as what applying it only the first time left exactly if the command stamps its document itself, or the clock
    shows the same time. -/
theorem redelivered_iff (registered : d.authority.isRegistered topic) (admitted : d.store.Admits command)
    (first second : Moment) :
    ∃ once again e f,
      (apply topic command).run (Depot.answer first) d = (.ok once, e) ∧
        (apply topic command).run (Depot.answer second) e = (.ok again, f) ∧
        ((apply topic command).run (Depot.answer second) d).2 = f ∧
        (f = e ↔ command.Stamped ∨ first.time = second.time) := by
  have applies : ∀ (moment : Moment) {d : Depot}, d.authority.isRegistered topic → d.store.Admits command →
      ∃ outcome, (apply topic command).run (Depot.answer moment) d =
        (.ok outcome, d.applied moment.time topic command) := by
    intro moment d registered admitted
    have completes : (apply topic command).Completes moment _ d := apply_completes registered admitted
    obtain ⟨outcome, _, ran, rfl⟩ := Program.run_of_completes completes
    exact ⟨outcome, ran⟩
  have registeredStill : (d.applied first.time topic command).authority.isRegistered topic := by
    simpa [Authority.isRegistered] using registered
  obtain ⟨once, ranOnce⟩ := applies first registered admitted
  obtain ⟨again, ranAgain⟩ := applies second registeredStill ((Depot.admits_applied command command d).mpr admitted)
  obtain ⟨alone, ranAlone⟩ := applies second registered admitted
  rw [Depot.applied_later] at ranAgain
  exact ⟨once, again, _, _, ranOnce, ranAgain, congrArg Prod.snd ranAlone, Depot.applied_eq_iff admitted⟩

theorem redelivered_iff_draft :
    (vacant.authority.isRegistered "t" ∧ vacant.store.Admits (.put "alice" draft)) ∧
      ∃ once again e,
        (apply "t" (.put "alice" draft)).run (Depot.answer ⟨3, "x"⟩) vacant = (.ok once, e) ∧
          (apply "t" (.put "alice" draft)).run (Depot.answer ⟨9, "y"⟩) e = (.ok again, e) := by
  have registered : vacant.authority.isRegistered "t" := by decide
  have admitted : vacant.store.Admits (.put "alice" draft) := ⟨_, rfl⟩
  obtain ⟨once, again, e, f, ranOnce, ranAgain, -, same⟩ := redelivered_iff registered admitted ⟨3, "x"⟩ ⟨9, "y"⟩
  obtain rfl : f = e := same.mpr (.inl rfl)
  exact ⟨⟨registered, admitted⟩, once, again, f, ranOnce, ranAgain⟩

/-- A document that nobody has stamped is stamped by each delivery. -/
theorem restamped :
    let unstamped : Command := .put "alice" { id := "p", name := "P" }
    let once := ((apply "t" unstamped).run (Depot.answer ⟨3, "x"⟩) vacant).2
    let twice := ((apply "t" unstamped).run (Depot.answer ⟨9, "y"⟩) once).2
    vacant.authority.isRegistered "t" ∧ vacant.store.Admits unstamped ∧ (3 : Int64) ≤ 9 ∧
      (once.row? "p").map (·.lastUpdated) = some 3 ∧ (twice.row? "p").map (·.lastUpdated) = some 9 ∧
      twice.row? "p" ≠ once.row? "p" :=
  ⟨by decide, ⟨_, rfl⟩, by decide, by decide, by decide, by decide⟩

end Control
end ModelDepot
