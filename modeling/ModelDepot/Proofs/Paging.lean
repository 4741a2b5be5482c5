import ModelDepot.Proofs.CleanupAlone

/-!
Listings in pages. A page is the next part of a listing, and a page that is not full is the last one; so the pages of a
listing that nobody changes add up to all of it, whatever their size. Main statements: however large the pages are, so
many requests collect a fixed listing as a whole (`listing_collected`), and so it is with the ids of a depot that have
grants (`listedIds_completes`).
-/
namespace ModelDepot

/-! ### Conversations -/

/-- A call with its answer. -/
structure Exchange where
  call : Call
  answer : call.Answer

namespace Program
variable {ε α β σ : Type}

/-- If it is answered like this, the activity makes these calls in this order, and ends so. -/
inductive Converses : Program ε α → List Exchange → Except ε α → Prop
  | done {result : Except ε α} : Converses (.done result) [] result
  | ask {call : Call} {next : call.Answer → Program ε α} {answer : call.Answer} {more : List Exchange}
      {result : Except ε α} (onward : Converses (next answer) more result) :
      Converses (.ask call next) (⟨call, answer⟩ :: more) result

/-- The calls that an activity makes in its surroundings. -/
def asked (answer : (call : Call) → σ → call.Answer × σ) : Program ε α → σ → List Call
  | .done _, _ => []
  | .ask call next, s => call :: (next (answer call s).1).asked answer (answer call s).2

variable {p : Program ε α} {f : α → Program ε β} {exchanges more : List Exchange}

theorem converses_bind {value : α} {result : Except ε β} (first : p.Converses exchanges (.ok value))
    (rest : (f value).Converses more result) : (p >>= f).Converses (exchanges ++ more) result := by
  rw [bind_eq]
  generalize isOk : Except.ok value = ended at first
  induction first with
  | done =>
    subst isOk
    exact rest
  | ask _ ih => exact .ask (ih isOk)

/-- Surroundings that answer like this, whenever something holds of them that the calls keep. -/
theorem run_of_converses {answer : (call : Call) → σ → call.Answer × σ} {fixed : σ → Prop} {result : Except ε α}
    (converses : p.Converses exchanges result)
    (answers : ∀ exchange ∈ exchanges, ∀ s, fixed s →
      (answer exchange.call s).1 = exchange.answer ∧ fixed (answer exchange.call s).2) {s : σ} (start : fixed s) :
    (p.run answer s).1 = result ∧ fixed (p.run answer s).2 ∧ p.asked answer s = exchanges.map Exchange.call := by
  induction converses generalizing s with
  | done => exact ⟨rfl, start, rfl⟩
  | @ask call next reply more result _ ih =>
    obtain ⟨first, others⟩ := List.forall_mem_cons.mp answers
    obtain ⟨answered, kept⟩ : (answer call s).1 = reply ∧ fixed (answer call s).2 := first s start
    subst answered
    obtain ⟨ended, stillFixed, calls⟩ := ih others kept
    exact ⟨ended, stillFixed, congrArg (call :: ·) calls⟩

theorem completes_of_converses {moment : Moment} {d : Depot} {value : α} (converses : p.Converses exchanges (.ok value))
    (calls : ∀ exchange ∈ exchanges, d.Calls moment exchange.call exchange.answer d) :
    p.Completes moment (fun found e => e = d ∧ found = value) d := by
  generalize isOk : Except.ok value = ended at converses
  induction converses with
  | done =>
    subst isOk
    exact ⟨rfl, rfl⟩
  | ask _ ih =>
    obtain ⟨⟨answered, succeeded⟩, others⟩ := List.forall_mem_cons.mp calls
    simp only [Completes, answered]
    exact ⟨succeeded, ih others isOk⟩

theorem converses_authority {g : AuthorityError → ε} (call : AuthorityCall) (value : call.Value) :
    (authority g call).Converses [⟨.authority call, .ok value⟩] (.ok value) :=
  .ask .done

end Program

/-! ### Pages of one size -/

namespace Page
variable {α : Type} {size number : Nat} {entries : List α}

/-- A page that is not full has all that is left. -/
theorem cut_of_short {page : Page} (short : page.limit = 0 ∨ (page.cut entries).length < page.limit) :
    page.cut entries = entries.drop page.offset := by
  unfold cut at short ⊢
  dsimp only at short ⊢
  split
  · rfl
  · rename_i limited
    rw [if_neg limited, List.length_take] at short
    exact List.take_of_length_le (by omega)

/-- The page behind all full ones is not full. -/
theorem short_of_last (last : number = entries.length / size) :
    size = 0 ∨ (Page.cut ⟨size, number * size⟩ entries).length < size := by
  refine (Nat.eq_zero_or_pos size).imp_right fun limited => ?_
  have rest : entries.length % size < size := Nat.mod_lt _ limited
  have whole := Nat.div_add_mod' entries.length size
  rw [cut_limited limited, List.length_take, List.length_drop, last]
  omega

/-- Every page before it is full. -/
theorem full_of_earlier (earlier : number < entries.length / size) :
    0 < size ∧ (Page.cut ⟨size, number * size⟩ entries).length = size := by
  have limited : 0 < size := Nat.pos_of_ne_zero fun zero => by simp [zero] at earlier
  have within : (number + 1) * size ≤ entries.length := (Nat.le_div_iff_mul_le limited).mp earlier
  rw [Nat.succ_mul] at within
  rw [cut_limited limited, List.length_take, List.length_drop]
  omega

end Page

/-- The page with a number, asked for and answered. -/
def pageOf (topic : String) (size : Nat) (entries : List String) (number : Nat) : Exchange where
  call := .authority (.adminList topic ⟨size, number * size⟩)
  answer := .ok (Page.cut ⟨size, number * size⟩ entries)

/-- From a page on, a collection asks for the pages up to the first that is not full, and has all that is left. -/
theorem listedIdsFrom_converses {topic : String} {size : Nat} {entries : List String} {left number count : Nat}
    {ids : IdSet} (last : number + count = entries.length / size) (enough : count < left) :
    ∃ listed, (listedIdsFrom topic size left (number * size) ids).Converses
        ((List.range' number (count + 1)).map (pageOf topic size entries)) (.ok listed) ∧
      ∀ id, id ∈ listed ↔ id ∈ ids ∨ id ∈ entries.drop (number * size) := by
  induction count generalizing left number ids with
  | zero =>
    obtain ⟨left, rfl⟩ := Nat.exists_eq_add_one_of_ne_zero (Nat.ne_of_gt enough)
    have short := Page.short_of_last last
    refine ⟨ids.insertMany (Page.cut ⟨size, number * size⟩ entries), ?_, fun id => ?_⟩
    · refine Program.converses_bind (Program.converses_authority (.adminList topic ⟨size, number * size⟩) _) ?_
      dsimp only
      rw [if_pos (by simpa using short)]
      exact .done
    · rw [Std.ExtTreeSet.mem_insertMany_list, List.contains_iff_mem, Page.cut_of_short short]
  | succ count ih =>
    obtain ⟨left, rfl⟩ := Nat.exists_eq_add_one_of_ne_zero (Nat.ne_of_gt (Nat.zero_lt_of_lt enough))
    obtain ⟨limited, full⟩ := Page.full_of_earlier (show number < entries.length / size by omega)
    have further : (number + 1) * size = number * size + (Page.cut ⟨size, number * size⟩ entries).length := by
      rw [full, Nat.succ_mul]
    obtain ⟨listed, converses, members⟩ := @ih left (number + 1)
      (ids.insertMany (Page.cut ⟨size, number * size⟩ entries)) (by omega) (by omega)
    refine ⟨listed, ?_, fun id => ?_⟩
    · rw [List.range'_succ, List.map_cons]
      refine Program.converses_bind (Program.converses_authority (.adminList topic ⟨size, number * size⟩) _) ?_
      dsimp only
      rw [if_neg (by simp [full, Nat.ne_of_gt limited]), ← further]
      exact converses
    · rw [members, Std.ExtTreeSet.mem_insertMany_list, List.contains_iff_mem, or_assoc, ← List.mem_append,
        Page.cut_limited limited, Nat.succ_mul, ← List.drop_drop, List.take_append_drop]

theorem listedIdsFrom_collects {topic : String} {size : Nat} {entries : List String} {left : Nat}
    (enough : entries.length / size < left) :
    ∃ listed, (listedIdsFrom topic size left 0 ∅).Converses
        ((List.range (entries.length / size + 1)).map (pageOf topic size entries)) (.ok listed) ∧
      ∀ id, id ∈ listed ↔ id ∈ entries := by
  have start : 0 + entries.length / size = entries.length / size := Nat.zero_add _
  obtain ⟨listed, converses, members⟩ := @listedIdsFrom_converses topic size entries left 0 _ ∅ start enough
  rw [Nat.zero_mul, ← List.range_eq_range'] at converses
  refine ⟨listed, converses, fun id => (members id).trans ?_⟩
  rw [Nat.zero_mul, List.drop_zero, or_iff_right Std.ExtTreeSet.not_mem_empty]

/-! ### In surroundings -/

theorem Depot.calls_adminList {moment : Moment} {topic : String} {d : Depot}
    (registered : d.authority.isRegistered topic) (page : Page) :
    d.Calls moment (.authority (.adminList topic page)) (.ok (page.cut (d.authority.ids topic))) d where
  answered := by simp only [Depot.answer, Authority.respond_adminList registered]
  succeeded := rfl

/-- The ids with a grant are listed, all of them and no other ones, if they can be counted. -/
theorem listedIds_completes {moment : Moment} {topic : String} {d : Depot}
    (registered : d.authority.isRegistered topic) (countable : (d.authority.ids topic).length < UInt64.size)
    (pageSize : Nat) :
    (listedIds topic pageSize).Completes moment
      (fun listed e => e = d ∧ listed = .ofList (d.authority.ids topic)) d := by
  have enough : (d.authority.ids topic).length / pageSize < UInt64.size :=
    Nat.lt_of_le_of_lt (Nat.div_le_self _ _) countable
  obtain ⟨listed, converses, members⟩ := @listedIdsFrom_collects topic _ _ _ enough
  have exactly : listed = .ofList (d.authority.ids topic) := Std.ExtTreeSet.ext_mem fun id => by
    rw [members, Std.ExtTreeSet.mem_ofList, List.contains_iff_mem]
  subst exactly
  refine Program.completes_of_converses converses fun exchange member => ?_
  obtain ⟨number, -, rfl⟩ := List.mem_map.mp member
  exact Depot.calls_adminList registered _

/-- Surroundings in which each page of the listing of a topic is cut out of the same entries: something holds of them
    that asking for pages keeps. -/
structure Lists {σ : Type} (answer : (call : Call) → σ → call.Answer × σ) (topic : String) (entries : List String)
    (fixed : σ → Prop) : Prop where
  answered : ∀ page s, fixed s → (answer (.authority (.adminList topic page)) s).1 = .ok (page.cut entries)
  kept : ∀ page s, fixed s → fixed (answer (.authority (.adminList topic page)) s).2

theorem Depot.lists {moment : Moment} {topic : String} {d : Depot} (registered : d.authority.isRegistered topic) :
    Lists (Depot.answer moment) topic (d.authority.ids topic) (· = d) where
  answered page s same := by
    subst same
    exact congrArg Prod.fst (Depot.calls_adminList registered page).answered
  kept page s same := by
    subst same
    exact congrArg Prod.snd (Depot.calls_adminList registered page).answered

/-- How many requests it takes to list so many entries in pages of one size. -/
def requestsFor (size count : Nat) : Nat := if size = 0 then 1 else count / size + 1

/-- The activity ends with all entries and no others, after the requests for one page after another. -/
structure Collects {σ : Type} (answer : (call : Call) → σ → call.Answer × σ) (topic : String) (entries : List String)
    (size : Nat) (s : σ) (p : Program AuthorityError IdSet) : Prop where
  collected : ∃ ids after, p.run answer s = (.ok ids, after) ∧ ∀ id, id ∈ ids ↔ id ∈ entries
  requests : p.asked answer s = (List.range (requestsFor size entries.length)).map fun number =>
    .authority (.adminList topic ⟨size, number * size⟩)

theorem requestsFor_eq (size count : Nat) : requestsFor size count = count / size + 1 := by
  unfold requestsFor
  split
  · rename_i unlimited
    rw [unlimited, Nat.div_zero]
  · rfl

variable {σ : Type} {answer : (call : Call) → σ → call.Answer × σ} {topic : String} {entries : List String}
  {fixed : σ → Prop} {s : σ}

theorem Lists.collects (lists : Lists answer topic entries fixed) (start : fixed s) {size left : Nat}
    (enough : entries.length / size < left) :
    Collects answer topic entries size s (listedIdsFrom topic size left 0 ∅) := by
  obtain ⟨listed, converses, members⟩ := listedIdsFrom_collects enough
  have answers : ∀ exchange ∈ (List.range (entries.length / size + 1)).map (pageOf topic size entries), ∀ s, fixed s →
      (answer exchange.call s).1 = exchange.answer ∧ fixed (answer exchange.call s).2 := by
    intro exchange member s holds
    obtain ⟨number, -, rfl⟩ := List.mem_map.mp member
    exact ⟨lists.answered _ s holds, lists.kept _ s holds⟩
  obtain ⟨ended, -, calls⟩ := Program.run_of_converses converses answers start
  refine ⟨⟨listed, _, Prod.ext ended rfl, members⟩, ?_⟩
  rw [calls, requestsFor_eq, List.map_map]
  rfl

/-- However large the pages are, a fixed listing is collected as a whole: in one request without a limit, otherwise with
    one request for each full page and one more, which shows that nothing is left. No bound on the number of pages ends
    it, if offsets of 64 bits can count the entries. -/
theorem listing_collected (lists : Lists answer topic entries fixed) (start : fixed s) (size : Nat) :
    (size = 0 ∨ entries.length < UInt64.size → Collects answer topic entries size s (listedIds topic size)) ∧
      ∀ left, entries.length / size < left →
        Collects answer topic entries size s (listedIdsFrom topic size left 0 ∅) := by
  refine ⟨fun countable => lists.collects start ?_, fun left enough => lists.collects start enough⟩
  rcases countable with unlimited | countable
  · rw [unlimited, Nat.div_zero]
    decide
  · exact Nat.lt_of_le_of_lt (Nat.div_le_self _ _) countable

/-- Four documents with grants. -/
def fourGranted : Depot where
  store := .empty
  authority := ["a", "b", "c", "d"].foldl (fun authority id => authority.setGrants "t" id (.forOwner "alice"))
    (({} : Authority).register (.ofTopic "t"))
  log := .new 1

/-- Two full pages, and a third one which shows that there is nothing more. -/
theorem listing_collected_even :
    fourGranted.authority.ids "t" = ["a", "b", "c", "d"] ∧ requestsFor 2 4 = 3 ∧
      Lists (Depot.answer ⟨1, "x"⟩) "t" ["a", "b", "c", "d"] (· = fourGranted) ∧
      Collects (Depot.answer ⟨1, "x"⟩) "t" ["a", "b", "c", "d"] 2 fourGranted (listedIds "t" 2) ∧
      Collects (Depot.answer ⟨1, "x"⟩) "t" ["a", "b", "c", "d"] 2 fourGranted (listedIdsFrom "t" 2 3 0 ∅) := by
  have ids : fourGranted.authority.ids "t" = ["a", "b", "c", "d"] := by decide
  have lists : Lists (Depot.answer ⟨1, "x"⟩) "t" ["a", "b", "c", "d"] (· = fourGranted) :=
    ids ▸ Depot.lists (show fourGranted.authority.isRegistered "t" by decide)
  obtain ⟨counted, unbounded⟩ := listing_collected lists (rfl : fourGranted = fourGranted) 2
  exact ⟨ids, rfl, lists, counted (.inr (by decide)), unbounded 3 (by decide)⟩

end ModelDepot
