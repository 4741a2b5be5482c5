import ModelDepot.Proofs.ApplyCourse
import ModelDepot.Proofs.BackfillCourse
import ModelDepot.Proofs.ShrinkingListing

/-!
A backfill while a consumer removes other documents, call by call in any order. Pages are cut by an offset, so a removal
between two of them lets a document slip from the next page to one that was already listed. Main statement: which
documents are sure of their grants (`backfill_covers_iff`).
-/
namespace ModelDepot

/-- A depot with a backfill, and a consumer with the command that it applies. -/
structure Thinning where
  depot : Depot
  filling : Program ControlError BackfillReport
  removing : Option (Command × Program ControlError ApplyOutcome) := none

namespace Thinning

inductive Move where
  /-- The next call of the backfill succeeds. -/
  | fill (moment : Moment)
  /-- The consumer, which is idle, takes up the removal of a document. -/
  | begin (other owner : String)
  /-- The next call of the consumer succeeds. -/
  | call (moment : Moment)
  | finish

/-- Documents with another id are removed. -/
def act (topic id : String) : Move → Thinning → Option Thinning
  | .fill moment, s =>
    (s.filling.advance moment s.depot).map fun (rest, depot) => { s with depot := depot, filling := rest }
  | .begin other owner, s =>
    match s.removing with
    | some _ => none
    | none =>
      if other = id then none
      else some { s with removing := some (.delete other owner, Control.apply topic (.delete other owner)) }
  | .call moment, s =>
    match s.removing with
    | none => none
    | some (command, rest) =>
      (rest.advance moment s.depot).map fun (rest, depot) =>
        { s with depot := depot, removing := some (command, rest) }
  | .finish, s =>
    match s.removing with
    | some (_, .done _) => some { s with removing := none }
    | _ => none

def start (topic : String) (d : Depot) : Thinning := { depot := d, filling := Backfill.run topic }

variable {topic : String} {row : Row} {s t : Thinning} {moment : Moment} {d after : Depot}

/-! ### Documents on the first page -/

/-- The document has grants, or is about to be looked at. -/
def Covered (topic : String) (row : Row) (d : Depot) (point : FillPoint) : Prop :=
  (d.grants? topic row.id).isSome ∨
    match point with
    | .begun => d.store.ahead row < Backfill.pageSize
    | .granting rest => ∃ document ∈ rest, document.id = row.id
    | .missing document rest => document.id = row.id ∨ ∃ document ∈ rest, document.id = row.id

theorem Covered.mono {point : FillPoint} (covered : Covered topic row d point)
    (closer : after.store.ahead row ≤ d.store.ahead row)
    (stays : (d.grants? topic row.id).isSome → (after.grants? topic row.id).isSome) : Covered topic row after point := by
  refine covered.imp stays fun ahead => ?_
  cases point with
  | begun => exact Nat.lt_of_le_of_lt closer ahead
  | granting rest => exact ahead
  | missing document rest => exact ahead

/-- A backfill stores nothing and takes no grants away. -/
theorem fill_keeps {point next : FillPoint} {call : Call} {answer : call.Answer}
    (rule : FillRules topic point call answer next) (calls : d.Calls moment call answer after) (id : String) :
    after.store = d.store ∧ ((d.grants? topic id).isSome → (after.grants? topic id).isSome) := by
  have became : (d.answer moment call).2 = after := congrArg Prod.snd calls.answered
  rw [calls.grants?]
  cases rule with
  | @given document rest answer =>
    exact ⟨became ▸ rfl, Call.isSome_grantsAfter_set⟩
  | _ => exact ⟨became ▸ rfl, fun granted => granted⟩

/-- A listing that begins with the document shows it, and then its grants are made sure of. -/
theorem covered_step {point next : FillPoint} {call : Call} {answer : call.Answer}
    (rule : FillRules topic point call answer next) (calls : d.Calls moment call answer after)
    (distinct : d.store.table.Distinct) (stored : d.row? row.id = some row) (covered : Covered topic row d point) :
    Covered topic row after next := by
  obtain ⟨sameStore, stays⟩ := fill_keeps rule calls row.id
  rcases covered with granted | ahead
  · exact .inl (stays granted)
  cases rule with
  | report => exact .inr (by cases point <;> simpa [sameStore] using ahead)
  | first => exact .inr (Store.shown_of_ahead distinct stored ahead (congrArg Prod.fst calls.answered))
  | next =>
    obtain ⟨document, member, -⟩ := ahead
    cases member
  | @present document rest grants =>
    obtain ⟨other, member, isRow⟩ := ahead
    rcases List.mem_cons.mp member with rfl | later
    · refine .inl (stays ?_)
      rw [← isRow, calls.grants?_eq]
      rfl
    · exact .inr ⟨other, later, isRow⟩
  | absent =>
    obtain ⟨other, member, isRow⟩ := ahead
    rcases List.mem_cons.mp member with rfl | later
    · exact .inr (.inl isRow)
    · exact .inr (.inr ⟨other, later, isRow⟩)
  | given =>
    rcases ahead with isRow | later
    · left
      rw [calls.grants?, ← isRow]
      simp [Call.grantsAfter]
    · exact .inr later

/-- The removal of another document moves this one forwards at most. -/
theorem removal_step {other owner : String} {point next : ApplyPoint} {call : Call} {answer : call.Answer}
    (rule : ApplyRules topic (.delete other owner) point call answer next) (calls : d.Calls moment call answer after)
    (different : other ≠ row.id) (distinct : d.store.table.Distinct) :
    after.store.table.Distinct ∧ after.row? row.id = d.row? row.id ∧ after.store.ahead row ≤ d.store.ahead row ∧
      after.grants? topic row.id = d.grants? topic row.id := by
  have became : (d.answer moment call).2 = after := congrArg Prod.snd calls.answered
  rw [calls.grants?, calls.row?]
  cases rule with
  | report => exact ⟨became ▸ distinct, rfl, became ▸ Nat.le_refl _, rfl⟩
  | revoked => exact ⟨became ▸ distinct, rfl, became ▸ Nat.le_refl _, if_neg fun both => different both.2.symm⟩
  | removed =>
    exact ⟨became ▸ distinct.erase other, if_neg different.symm, became ▸ Store.ahead_delete_le distinct other row, rfl⟩

/-! ### What is kept -/

/-- The document is stored, and the backfill has not left it behind. -/
structure Kept (topic : String) (row : Row) (s : Thinning) : Prop where
  distinct : s.depot.store.table.Distinct
  stored : s.depot.row? row.id = some row
  filling : ∃ point, s.filling.Follows (FillRules topic) (fun _ point => point = .granting []) point ∧
    Covered topic row s.depot point
  removing : ∀ command rest, s.removing = some (command, rest) → ∃ other owner point,
    command = .delete other owner ∧ other ≠ row.id ∧
      rest.Follows (ApplyRules topic command) (fun _ => ApplyPoint.Finished command) point

theorem kept_act {move : Move} (kept : s.Kept topic row) (moved : act topic row.id move s = some t) :
    t.Kept topic row := by
  obtain ⟨distinct, stored, ⟨point, follows, covered⟩, removing⟩ := kept
  cases move with
  | fill moment =>
    obtain ⟨⟨rest, after⟩, advanced, rfl⟩ := Option.map_eq_some_iff.mp moved
    obtain ⟨call, answer, next, rule, onward, calls⟩ := Program.follows_advance follows advanced
    obtain ⟨sameStore, -⟩ := fill_keeps rule calls row.id
    refine ⟨sameStore ▸ distinct, ?_, ⟨next, onward, covered_step rule calls distinct stored covered⟩, removing⟩
    rw [Depot.row?, sameStore]
    exact stored
  | begin other owner =>
    simp only [act] at moved
    split at moved
    · cases moved
    split at moved
    · cases moved
    · rename_i different
      obtain rfl := Option.some.inj moved
      refine ⟨distinct, stored, ⟨point, follows, covered⟩, fun command rest same => ?_⟩
      obtain ⟨rfl, rfl⟩ := Prod.mk.inj (Option.some.inj same)
      exact ⟨other, owner, .begun, rfl, different, Control.apply_follows topic _⟩
  | call moment =>
    simp only [act] at moved
    split at moved
    · cases moved
    · rename_i command rest isRemoving
      obtain ⟨⟨onward, after⟩, advanced, rfl⟩ := Option.map_eq_some_iff.mp moved
      obtain ⟨other, owner, place, rfl, different, orderly⟩ := removing command rest isRemoving
      obtain ⟨call, answer, next, rule, continues, calls⟩ := Program.follows_advance orderly advanced
      obtain ⟨distinctStill, sameRow, closer, sameGrants⟩ := removal_step rule calls different distinct
      refine ⟨distinctStill, sameRow.trans stored,
        ⟨point, follows, covered.mono closer fun granted => sameGrants ▸ granted⟩, fun command rest same => ?_⟩
      obtain ⟨rfl, rfl⟩ := Prod.mk.inj (Option.some.inj same)
      exact ⟨other, owner, next, rfl, different, continues⟩
  | finish =>
    simp only [act] at moved
    split at moved
    · obtain rfl := Option.some.inj moved
      exact ⟨distinct, stored, ⟨point, follows, covered⟩, nofun⟩
    · cases moved

/-- A document has grants when the backfill ends if it had some at first, or was on the first page then. -/
theorem covered_of_early {moves : List Move} (distinct : d.store.table.Distinct) (stored : d.row? row.id = some row)
    (early : (d.grants? topic row.id).isSome ∨ d.store.ahead row < Backfill.pageSize)
    (played : play (act topic row.id) moves (start topic d) = some s) (ended : s.filling.ended) :
    (s.depot.grants? topic row.id).isSome := by
  have begun : (start topic d).Kept topic row :=
    ⟨distinct, stored, ⟨.begun, Backfill.run_follows topic, early⟩, nofun⟩
  obtain ⟨-, -, ⟨point, follows, covered⟩, -⟩ := play_keeps (fun _ _ _ => kept_act) begun played
  obtain ⟨result, isDone⟩ := Program.ended_iff.mp ended
  rw [isDone] at follows
  cases result with
  | error problem => exact follows.elim
  | ok report =>
    obtain rfl : point = .granting [] := follows
    exact covered.resolve_right nofun

/-! ### Documents behind the first page -/

variable {id : String} {first rest : List Document}

theorem attains_filled {p : Program ControlError BackfillReport} {e : Depot} (attains : Attains (act topic id) s t)
    (leads : Program.Leads moment t.filling t.depot p e) :
    Attains (act topic id) s { t with depot := e, filling := p } := by
  refine Program.attains_of_leads (.fill moment) (fun p d => { t with depot := d, filling := p })
    (fun p q d e moved => ?_) leads attains
  simp only [act, moved, Option.map_some]

/-- The consumer, which is idle, removes a document. -/
theorem attains_removed {other : String} (attains : Attains (act topic id) s t) (idle : t.removing = none)
    (registered : t.depot.authority.isRegistered topic) (different : other ≠ id) :
    Attains (act topic id) s { t with depot := t.depot.applied 0 topic (.delete other "") } := by
  let command : Command := .delete other ""
  have applying : (Control.apply topic command).Completes ⟨0, ""⟩ _ t.depot := Control.apply_completes registered trivial
  obtain ⟨outcome, e, leads, rfl⟩ := Program.leads_of_completes applying
  have taken : act topic id (.begin other "") t = some { t with removing := some (command, Control.apply topic command) } := by
    simp only [act, idle, different, ↓reduceIte, command]
  have onward : Attains (act topic id) s
      { t with depot := t.depot.applied 0 topic command, removing := some (command, .done (.ok outcome)) } := by
    refine Program.attains_of_leads (.call ⟨0, ""⟩)
      (fun p d => { t with depot := d, removing := some (command, p) }) (fun p q d e moved => ?_) leads
      (attains.move taken)
    simp only [act, moved, Option.map_some]
  have finished : act topic id .finish
      { t with depot := t.depot.applied 0 topic command, removing := some (command, .done (.ok outcome)) } =
      some { t with depot := t.depot.applied 0 topic command } := by
    simp only [act, idle]
  exact onward.move finished

/-- One by one, the first documents are removed. -/
theorem attains_thinned (attains : Attains (act topic id) s t) (idle : t.removing = none)
    (registered : t.depot.authority.isRegistered topic) (shown : t.depot.store.Shows (first ++ rest))
    (distinct : t.depot.store.table.Distinct) (others : ∀ document ∈ first, document.id ≠ id) :
    ∃ e, Attains (act topic id) s { t with depot := e } ∧ e.store.Shows rest ∧ e.store.table.Distinct ∧
      e.authority.topics = t.depot.authority.topics ∧ e.row? id = t.depot.row? id ∧
      e.grants? topic id = t.depot.grants? topic id := by
  induction first generalizing t with
  | nil => exact ⟨t.depot, attains, shown, distinct, rfl, rfl, rfl⟩
  | cons document more ih =>
    obtain ⟨different, othersToo⟩ := List.forall_mem_cons.mp others
    have removed := attains_removed attains idle registered different
    have alone : (document :: more ++ rest).filter (·.id != document.id) = more ++ rest := by
      have once := shown.nodup_ids distinct
      rw [List.cons_append, List.map_cons, List.nodup_cons] at once
      rw [List.cons_append, List.filter_cons_of_neg (by simp), List.filter_eq_self]
      exact fun other member => bne_iff_ne.mpr fun same => once.1 (List.mem_map.mpr ⟨other, member, same⟩)
    have shownRest := shown.delete distinct document.id
    rw [alone] at shownRest
    have sameTopics : (t.depot.applied 0 topic (.delete document.id "")).authority.topics = t.depot.authority.topics :=
      Authority.topics_eraseGrants _ _ _
    obtain ⟨e, attained, showsRest, distinctStill, topics, sameRow, sameGrants⟩ :=
      ih removed idle (by rw [Authority.isRegistered, sameTopics]; exact registered) shownRest
        (distinct.erase document.id) othersToo
    refine ⟨e, attained, showsRest, distinctStill, topics.trans sameTopics, sameRow.trans ?_, sameGrants.trans ?_⟩
    · simp [Depot.row?, Depot.applied, different.symm]
    · simp [Depot.grants?, Depot.applied, different.symm]

end Thinning

namespace Backfill
variable {topic : String} {moment : Moment} {d : Depot} {documents : List Document}

/-- What is left after the first page: the grants of its documents, and the pages after it as they are by then. -/
def Continues (moment : Moment) (topic : String) (documents : List Document) (rest : Program ControlError BackfillReport) :
    Prop :=
  ∀ (e : Depot) (others : List Document), e.store.Shows others → e.store.table.Distinct → others ≠ [] →
    others.length < UInt32.size - 1000 → e.authority.isRegistered topic →
    rest.Completes moment (fun _ f => f = e.backfilled topic (documents.take pageSize ++ others.drop pageSize)) e

theorem pagesFrom_pauses {left : Nat} (allowed : maxPages ≤ left) (shown : d.store.Shows documents)
    (distinct : d.store.table.Distinct) (stocked : documents ≠ []) :
    (pagesFrom topic left 0 {}).Reaches moment (fun p e => e = d ∧ Continues moment topic documents p) d := by
  obtain ⟨left, rfl⟩ := Nat.exists_eq_succ_of_ne_zero (Nat.ne_of_gt (Nat.lt_of_lt_of_le (by decide) allowed))
  let options : ListOptions := { limit := some pageSize }
  have listed : d.store.list options = .ok ⟨options.cut documents, documents.length⟩ := shown.list_eq rfl rfl rfl
  apply Program.reaches_after (Q := fun page e => e = d ∧ page.items = documents.take pageSize)
  · exact Program.completes_store (congrArg (·, d.store) listed) ⟨rfl, rfl⟩
  rintro page d ⟨rfl, isPage⟩
  refine ⟨_, d, .still, rfl, fun e others shownToo distinctToo stockedToo few registered => ?_⟩
  have apart : ((documents.take pageSize).map (·.id)).Nodup :=
    (shown.nodup_ids distinct).sublist ((List.take_sublist _ _).map _)
  have progress : documents.take pageSize ≠ [] := by simpa [pageSize] using stocked
  rw [isPage, if_neg (mt List.isEmpty_iff.mp progress)]
  apply Program.completes_bind (grantAll_completes registered apart {})
  rintro report _ ⟨rfl, -⟩
  have registeredStill : (e.backfilled topic (documents.take pageSize)).authority.isRegistered topic := by
    simpa [Authority.isRegistered] using registered
  have within : 0 + pageSize < others.length + pageSize := by
    rw [Nat.zero_add]
    exact Nat.lt_add_of_pos_left (List.length_pos_iff.mpr stockedToo)
  have enough : others.length + pageSize ≤ 0 + pageSize + left * pageSize := by
    have offsets : maxPages * pageSize = UInt32.size + 704 := by decide
    have more : maxPages * pageSize ≤ left.succ * pageSize := Nat.mul_le_mul_right _ allowed
    rw [offsets, Nat.succ_mul] at more
    rw [show pageSize = 1000 from rfl] at more ⊢
    omega
  refine Program.completes_mono (pagesFrom_completes (d := e.backfilled topic (documents.take pageSize)) shownToo
    registeredStill (shownToo.nodup_ids distinctToo) within enough report) ?_
  rintro total f ⟨became, -⟩
  rw [became, Nat.zero_add, Depot.backfilled_backfilled]

/-- A backfill comes to a point where it has listed the first page and granted nothing. -/
theorem run_pauses (shown : d.store.Shows documents) (distinct : d.store.table.Distinct) (stocked : documents ≠ []) :
    (run topic).Reaches moment (fun p e => e = d ∧ Continues moment topic documents p) d := by
  apply Program.reaches_after (Q := fun _ e => e = d)
  · exact ⟨rfl, rfl⟩
  rintro _ d rfl
  refine Program.reaches_bind (pagesFrom_pauses (Nat.le_refl maxPages) shown distinct stocked) ?_
  rintro p d ⟨rfl, continues⟩
  refine ⟨rfl, fun e others shownToo distinctToo stockedToo few registered => ?_⟩
  apply Program.completes_bind (continues e others shownToo distinctToo stockedToo few registered)
  rintro report f ended
  exact ⟨rfl, ended⟩

end Backfill

namespace Thinning
variable {topic : String} {row : Row} {d : Depot}

/-- The documents that are shown, and the place of this one among them. -/
theorem split_shown {documents : List Document} (shown : d.store.Shows documents) (distinct : d.store.table.Distinct)
    (stored : d.row? row.id = some row) :
    ∃ first document last, documents = first ++ document :: last ∧ first.length = d.store.ahead row ∧
      document.id = row.id ∧ ∀ other ∈ first ++ last, other.id ≠ row.id := by
  obtain ⟨before, after, parts, length⟩ := Store.split_ahead distinct stored
  have ids := shown.ids_eq
  rw [parts, List.map_append, List.map_cons] at ids
  obtain ⟨first, _, rfl, isBefore, isRest⟩ := List.map_eq_append_iff.mp ids
  obtain ⟨document, last, rfl, isRow, -⟩ := List.map_eq_cons_iff.mp isRest
  refine ⟨first, document, last, rfl, ?_, isRow, fun other member same => ?_⟩
  · have same := congrArg List.length isBefore
    rwa [List.length_map, List.length_map, length] at same
  · have once := (List.perm_middle.map Document.id).nodup_iff.mp (shown.nodup_ids distinct)
    rw [List.map_cons, List.nodup_cons] at once
    exact once.1 (List.mem_map.mpr ⟨other, member, same.trans isRow.symm⟩)

/-- Enough documents before this one are removed while the first page is seen to: it slips onto that page, and the next
one is cut behind it. -/
theorem left_behind (registered : d.authority.isRegistered topic) (distinct : d.store.table.Distinct)
    (legible : d.store.Legible) (few : d.store.table.toList.length < UInt32.size - 1000)
    (stored : d.row? row.id = some row) (ungranted : d.grants? topic row.id = none)
    (late : Backfill.pageSize ≤ d.store.ahead row) :
    ∃ s, Attains (act topic row.id) (start topic d) s ∧ s.filling.ended ∧ s.depot.row? row.id = some row ∧
      s.depot.grants? topic row.id = none := by
  obtain ⟨documents, shown⟩ := Store.exists_shows distinct legible
  obtain ⟨first, document, last, isShown, length, isRow, others⟩ := split_shown shown distinct stored
  rw [← length] at late
  have some : documents ≠ [] := by simp [isShown]
  have pauses : (Backfill.run topic).Reaches ⟨0, ""⟩ _ d := Backfill.run_pauses shown distinct some
  obtain ⟨rest, d, leads, rfl, continues⟩ := pauses
  have listed : Attains (act topic row.id) (start topic d) { depot := d, filling := rest } :=
    attains_filled .still leads
  -- As many are removed as leave one fewer than a page before this one.
  let gone := first.length - (Backfill.pageSize - 1)
  have isShownToo : documents = first.take gone ++ (first.drop gone ++ document :: last) := by
    rw [isShown, ← List.append_assoc, List.take_append_drop]
  have different : ∀ other ∈ first.take gone, other.id ≠ row.id := fun other member =>
    others other (List.mem_append_left _ (List.mem_of_mem_take member))
  obtain ⟨e, thinned, shownRest, distinctRest, topics, sameRow, sameGrants⟩ :=
    attains_thinned listed rfl registered (isShownToo ▸ shown) distinct different
  have fewer : (first.drop gone ++ document :: last).length < UInt32.size - 1000 := by
    refine Nat.lt_of_le_of_lt ?_ few
    rw [← shown.length_eq, isShownToo]
    exact (List.sublist_append_right _ _).length_le
  have registeredStill : e.authority.isRegistered topic := by
    rw [Authority.isRegistered, topics]
    exact registered
  have completes := continues e _ shownRest distinctRest (by simp) fewer registeredStill
  obtain ⟨report, f, onward, isEnd⟩ := Program.leads_of_completes completes
  refine ⟨_, attains_filled thinned onward, rfl, ?_, ?_⟩
  · rw [isEnd]
    exact sameRow.trans stored
  · have firstPage : documents.take Backfill.pageSize = first.take Backfill.pageSize := by
      rw [isShown, List.take_append_of_le_length late]
    have page : (first.drop gone ++ [document]).length = Backfill.pageSize := by
      rw [List.length_append, List.length_drop, List.length_singleton]
      unfold gone Backfill.pageSize at *
      omega
    have laterPages : (first.drop gone ++ document :: last).drop Backfill.pageSize = last := by
      rw [List.append_cons, List.drop_left' page]
    have unlisted : (first.take Backfill.pageSize ++ last).find? (·.id == row.id) = none := by
      refine List.find?_eq_none.mpr fun other member same => others other ?_ (beq_iff_eq.mp same)
      exact List.mem_append.mpr ((List.mem_append.mp member).imp_left List.mem_of_mem_take)
    rw [isEnd, firstPage, laterPages]
    refine (Authority.grants?_seededAll row.id).trans ?_
    rw [unlisted, Option.map_none, Option.or_none]
    exact sameGrants.trans ungranted

/-- However a backfill and the removals of other documents come after one another, a stored document has grants when the
backfill has ended: this is sure of those that had grants at first or were among the first thousand by name, and of no
others. -/
theorem backfill_covers_iff (registered : d.authority.isRegistered topic) (distinct : d.store.table.Distinct)
    (legible : d.store.Legible) (few : d.store.table.toList.length < UInt32.size - 1000)
    (stored : d.row? row.id = some row) :
    (∀ moves s, play (act topic row.id) moves (start topic d) = some s → s.filling.ended →
        (s.depot.grants? topic row.id).isSome) ↔
      (d.grants? topic row.id).isSome ∨ d.store.ahead row < 1000 := by
  constructor
  · intro covers
    by_contra unsure
    rw [not_or, Nat.not_lt, Option.not_isSome_iff_eq_none] at unsure
    obtain ⟨ungranted, late⟩ := unsure
    obtain ⟨s, ⟨moves, played⟩, ended, -, missed⟩ := left_behind registered distinct legible few stored ungranted late
    have covered := covers moves s played ended
    rw [missed] at covered
    cases covered
  · exact fun early moves s => covered_of_early distinct stored early

/-- A document has as many others before it as there can be. -/
theorem exists_behind (distinct : d.store.table.Distinct) {n : Nat} (many : n < d.store.table.toList.length) :
    ∃ row, d.row? row.id = some row ∧ n ≤ d.store.ahead row := by
  have inRange : n < (SortKey.byName.sort d.store.table.toList).length := by
    rwa [(SortKey.byName.perm_sort _).length_eq]
  let row := (SortKey.byName.sort d.store.table.toList)[n]
  have member : row ∈ d.store.table.toList := (SortKey.byName.perm_sort _).mem_iff.mp (List.getElem_mem inRange)
  have stored := distinct.mem_toList.mp member
  refine ⟨row, stored, ?_⟩
  obtain ⟨before, after, parts, length⟩ := Store.split_ahead distinct stored
  have once := (SortKey.byName.perm_sort _).nodup_iff.mpr (distinct.nodup_ids.of_map _)
  have place : (SortKey.byName.sort d.store.table.toList)[n]? =
      (SortKey.byName.sort d.store.table.toList)[before.length]? := by
    rw [List.getElem?_eq_getElem inRange]
    conv_rhs => rw [parts, List.getElem?_append_right (Nat.le_refl _), Nat.sub_self]
    rfl
  exact Nat.le_of_eq (((List.getElem?_inj inRange once).mp place).trans length)

/-- Documents that are stored one after another are all there in the end. -/
theorem isSome_crowd {ids : List String} {store : Store} (keyed : store.table.Keyed)
    (named : ∀ id ∈ ids, Text.allBlank id = false) {id : String} (held : id ∈ ids ∨ (store.table.find? id).isSome) :
    ((ids.foldl (fun store id => store.holding { id := id, name := id, owner := "ann" }) store).table.find? id).isSome := by
  induction ids generalizing store with
  | nil => exact held.resolve_left nofun
  | cons first more ih =>
    obtain ⟨namedFirst, namedMore⟩ := List.forall_mem_cons.mp named
    refine ih (Store.keyed_holding keyed _) namedMore ?_
    rw [Store.find?_holding keyed.hasKey namedFirst]
    by_cases here : id = first
    · exact .inr (by rw [if_pos here]; rfl)
    · rw [if_neg here]
      exact held.imp_left fun member => (List.mem_cons.mp member).resolve_left here

/-- A thousand documents and one more, of which none has grants. -/
def ungranted : Depot := { Backfill.stocked 1001 with authority := ({} : Authority).register (.ofTopic "t") }

theorem length_ungranted : 1000 < ungranted.store.table.toList.length := by
  have isCrowded : ungranted.store = (Control.crowded 1001).store := by
    simp only [ungranted, Backfill.stocked]
  have named : ∀ id ∈ Control.crowd 1001, Text.allBlank id = false := by
    intro id member
    obtain ⟨i, -, rfl⟩ := List.mem_map.mp member
    have visible : "d".toList.all Text.isBlank = false := by decide
    rw [Text.allBlank, String.toList_append, List.all_append, visible, Bool.false_and]
  have within : Control.crowd 1001 ⊆ ungranted.store.table.toList.map (·.id) := by
    intro id member
    have keyed := Control.keyed_crowded 1001
    have fresh : Store.empty.table.Keyed := ⟨∅, rfl, fun _ _ found => by simp at found⟩
    obtain ⟨row, stored⟩ := Option.isSome_iff_exists.mp (isSome_crowd fresh named (.inl member))
    have isRow : row.id = id := keyed.id_eq stored
    rw [isCrowded]
    exact List.mem_map.mpr ⟨row, keyed.mem_toList.mpr (isRow ▸ stored), isRow⟩
  have counted := (List.subperm_of_subset (Control.nodup_crowd 1001) within).length_le
  rwa [Control.crowd, List.length_map, List.length_range, List.length_map] at counted

theorem backfill_skips :
    ∃ row moves s,
      (ungranted.authority.isRegistered "t" ∧ ungranted.store.table.Distinct ∧ ungranted.store.Legible ∧
        ungranted.store.table.toList.length < UInt32.size - 1000 ∧ ungranted.row? row.id = some row) ∧
      play (act "t" row.id) moves (start "t" ungranted) = some s ∧ s.filling.ended ∧
        s.depot.row? row.id = some row ∧ s.depot.grants? "t" row.id = none := by
  obtain ⟨-, distinct, legible, few⟩ := Backfill.stocked_holds (n := 1001) (by decide)
  obtain ⟨row, stored, late⟩ := exists_behind (d := ungranted) distinct length_ungranted
  have registered : ungranted.authority.isRegistered "t" := by decide
  obtain ⟨s, ⟨moves, played⟩, ended, storedStill, missed⟩ :=
    left_behind (d := ungranted) registered distinct legible few stored rfl late
  exact ⟨row, moves, s, ⟨registered, distinct, legible, few, stored⟩, played, ended, storedStill, missed⟩

theorem backfill_covers_iff_ungranted :
    ∃ row, (ungranted.authority.isRegistered "t" ∧ ungranted.store.table.Distinct ∧ ungranted.store.Legible ∧
        ungranted.store.table.toList.length < UInt32.size - 1000 ∧ ungranted.row? row.id = some row) ∧
      ((∀ moves s, play (act "t" row.id) moves (start "t" ungranted) = some s → s.filling.ended →
          (s.depot.grants? "t" row.id).isSome) ↔
        (ungranted.grants? "t" row.id).isSome ∨ ungranted.store.ahead row < 1000) := by
  obtain ⟨-, distinct, legible, few⟩ := Backfill.stocked_holds (n := 1001) (by decide)
  obtain ⟨row, stored, -⟩ := exists_behind (d := ungranted) distinct length_ungranted
  have registered : ungranted.authority.isRegistered "t" := by decide
  exact ⟨row, ⟨registered, distinct, legible, few, stored⟩,
    backfill_covers_iff (d := ungranted) registered distinct legible few stored⟩

end Thinning
end ModelDepot
