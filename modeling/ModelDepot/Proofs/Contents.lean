import Mathlib.Data.List.Induction
import ModelDepot.Proofs.EditCourse

/-!
What requests make of a document, one after another. An update brings its own content; a change of the
publication brings the content that it saw, which is an earlier one. Main statement: a content stays if
what comes later has seen it (`contents_after_update`).
-/
namespace ModelDepot

/-- What a document says, apart from whose it is, when it was updated, and how it is published. -/
structure Content where
  name : String
  bpmnXml : String
  svgXml : String
  deriving DecidableEq, Repr

def Document.content (document : Document) : Content := ⟨document.name, document.bpmnXml, document.svgXml⟩

def Row.content (row : Row) : Content := ⟨row.name, row.bpmnXml, row.svgXml⟩

@[simp] theorem Document.content_stampIfUnset (document : Document) (time : Int64) :
    (document.stampIfUnset time).content = document.content := by
  unfold stampIfUnset
  split <;> rfl

/-- The document of a row has its id and its content. -/
theorem Row.content_of_toDocument {row : Row} {document : Document} (read : row.toDocument = .ok document) :
    document.id = row.id ∧ document.content = row.content := by
  unfold toDocument at read
  simp only [bind, Except.bind, pure, Except.pure] at read
  split at read
  · split at read
    · cases read
      exact ⟨rfl, rfl⟩
    · cases read
  · split at read
    · cases read
      exact ⟨rfl, rfl⟩
    · cases read
  · cases read

/-- A row without an id has no document. -/
theorem Row.named_of_toDocument {row : Row} {document : Document} (read : row.toDocument = .ok document) :
    Text.allBlank document.id = false := by
  have named : ∀ doc : Document, doc.validate = .ok () → Text.allBlank doc.id = false := by
    intro doc valid
    unfold Document.validate at valid
    split at valid
    · cases valid
    · rename_i filled
      exact Bool.eq_false_iff.mpr filled
  unfold toDocument at read
  simp only [bind, Except.bind, pure, Except.pure] at read
  split at read
  · split at read
    · rename_i valid
      cases read
      exact named _ valid
    · cases read
  · split at read
    · rename_i valid
      cases read
      exact named _ valid
    · cases read
  · cases read

theorem Store.row_of_get {store : Store} {id : String} {document : Document}
    (got : store.get id = .ok (some document)) :
    ∃ row, store.table.find? id = some row ∧ row.toDocument = .ok document := by
  unfold get at got
  split at got
  · cases got
  · rename_i row found
    refine ⟨row, found, ?_⟩
    cases read : row.toDocument with
    | error problem => rw [read] at got; cases got
    | ok other => rw [read] at got; cases got; rfl

/-- A request whose command is in the log. When it looked at the document, as many of those before it
    as `sight` had been stored. -/
structure Accepted where
  edit : Edit
  sight : Nat
  deriving DecidableEq, Repr

/-- The content that is stored with the command of the request, when the earlier ones led to these. -/
def Accepted.brings (initial : Content) (earlier : List Content) (accepted : Accepted) : Content :=
  match accepted.edit with
  | .content document => document.content
  | .publication _ => (earlier[accepted.sight]?).getD initial

/-- An element of a list with one more at its end is an old one or the new one. -/
theorem getElem?_snoc {α : Type} {items : List α} {last item : α} {i : Nat}
    (at_i : (items ++ [last])[i]? = some item) : items[i]? = some item ∨ i = items.length ∧ item = last := by
  rcases Nat.lt_or_ge i items.length with old | new
  · rw [List.getElem?_append_left old] at at_i
    exact .inl at_i
  · have inside := (List.getElem?_eq_some_iff.mp at_i).1
    rw [List.length_append, List.length_singleton] at inside
    obtain rfl : i = items.length := by omega
    rw [List.getElem?_concat_length] at at_i
    exact .inr ⟨rfl, (Option.some.inj at_i).symm⟩

/-- What the document says at first, and after each of the requests is stored. -/
def contents (initial : Content) (accepted : List Accepted) : List Content :=
  accepted.foldl (fun earlier a => earlier ++ [a.brings initial earlier]) [initial]

@[simp] theorem contents_snoc (initial : Content) (accepted : List Accepted) (a : Accepted) :
    contents initial (accepted ++ [a]) =
      contents initial accepted ++ [a.brings initial (contents initial accepted)] := by
  simp only [contents, List.foldl_append, List.foldl_cons, List.foldl_nil]

@[simp] theorem length_contents (initial : Content) (accepted : List Accepted) :
    (contents initial accepted).length = accepted.length + 1 := by
  induction accepted using List.reverseRecOn with
  | nil => rfl
  | append_singleton accepted a ih => simp [ih]

theorem contents_last (initial : Content) (accepted : List Accepted) (a : Accepted) :
    (contents initial (accepted ++ [a]))[accepted.length + 1]? =
      some (a.brings initial (contents initial accepted)) := by
  rw [contents_snoc, ← length_contents initial accepted, List.getElem?_concat_length]

/-- What was stored stays the same when more is accepted. -/
theorem contents_of_shorter {initial : Content} {accepted : List Accepted} (a : Accepted) {i : Nat}
    {content : Content} (at_i : (contents initial accepted)[i]? = some content) :
    (contents initial (accepted ++ [a]))[i]? = some content := by
  rw [contents_snoc, List.getElem?_append_left (List.getElem?_eq_some_iff.mp at_i).1]
  exact at_i

theorem Accepted.brings_more (initial : Content) {accepted : List Accepted} {edit : Edit} {sight : Nat}
    (within : sight ≤ accepted.length) (a : Accepted) :
    Accepted.brings initial (contents initial (accepted ++ [a])) ⟨edit, sight⟩ =
      Accepted.brings initial (contents initial accepted) ⟨edit, sight⟩ := by
  cases edit with
  | content document => rfl
  | publication change =>
    have inside : sight < (contents initial accepted).length := by simp; omega
    simp only [brings, contents_of_shorter a (List.getElem?_eq_getElem inside), List.getElem?_eq_getElem inside]

/-- A change of the publication that looked after the content was stored keeps it. -/
theorem contents_after_update {initial : Content} {before after : List Accepted} {document : Document} {sight : Nat}
    (looked : ∀ later ∈ after, ∃ change, later.edit = .publication change ∧ before.length < later.sight)
    (sights : ∀ (i : Nat) (a : Accepted),
      (before ++ ⟨.content document, sight⟩ :: after)[i]? = some a → a.sight ≤ i)
    {i : Nat} (behind : before.length < i) (within : i ≤ before.length + 1 + after.length) :
    (contents initial (before ++ ⟨.content document, sight⟩ :: after))[i]? = some document.content := by
  induction after using List.reverseRecOn generalizing i with
  | nil =>
    obtain rfl : i = before.length + 1 := Nat.le_antisymm within behind
    exact contents_last initial before ⟨.content document, sight⟩
  | append_singleton after a ih =>
    have whole : before ++ ⟨.content document, sight⟩ :: (after ++ [a]) =
        (before ++ ⟨.content document, sight⟩ :: after) ++ [a] := by
      rw [List.append_assoc, List.cons_append]
    have number :
        (before ++ ⟨.content document, sight⟩ :: after).length = before.length + 1 + after.length := by
      rw [List.length_append, List.length_cons]
      omega
    have shorter : ∀ {j : Nat}, before.length < j → j ≤ before.length + 1 + after.length →
        (contents initial (before ++ ⟨.content document, sight⟩ :: after))[j]? = some document.content := by
      refine ih (fun later member => looked later (List.mem_append_left _ member)) fun j other at_j => ?_
      refine sights j other ?_
      rw [whole, List.getElem?_append_left (List.getElem?_eq_some_iff.mp at_j).1]
      exact at_j
    rw [whole]
    rw [List.length_append, List.length_singleton] at within
    rcases Nat.lt_or_eq_of_le within with earlier | last
    · exact contents_of_shorter a (shorter behind (by omega))
    · obtain ⟨change, toggles, late⟩ := looked a (List.mem_append_right _ List.mem_cons_self)
      have early : a.sight ≤ before.length + 1 + after.length := by
        refine sights _ a ?_
        rw [whole, ← number, List.getElem?_concat_length]
      rw [show i = (before ++ ⟨.content document, sight⟩ :: after).length + 1 by omega, contents_last,
        Accepted.brings, toggles]
      dsimp only
      rw [shorter late early]
      rfl

/-- Changes of the publication bring no content of their own. -/
theorem contents_of_publications {initial : Content} {accepted : List Accepted}
    (only : ∀ a ∈ accepted, ∃ change, a.edit = .publication change) {i : Nat} {content : Content}
    (at_i : (contents initial accepted)[i]? = some content) : content = initial := by
  induction accepted using List.reverseRecOn generalizing i content with
  | nil =>
    obtain ⟨inside, same⟩ := List.getElem?_eq_some_iff.mp at_i
    exact same ▸ List.mem_singleton.mp (List.getElem_mem inside)
  | append_singleton accepted a ih =>
    have earlier : ∀ {j : Nat} {other : Content}, (contents initial accepted)[j]? = some other → other = initial :=
      ih fun b member => only b (List.mem_append_left _ member)
    rw [contents_snoc] at at_i
    rcases getElem?_snoc at_i with old | ⟨-, rfl⟩
    · exact earlier old
    · obtain ⟨change, toggles⟩ := only a (List.mem_append_right _ List.mem_cons_self)
      rw [Accepted.brings, toggles]
      dsimp only
      cases seen : (contents initial accepted)[a.sight]? with
      | none => rfl
      | some other => exact earlier seen

end ModelDepot
