import ModelDepot.Proofs.Listings
import ModelDepot.Proofs.Search
import ModelDepot.Proofs.TextOrder
import ModelDepot.Proofs.Trimming

/-!
What the options of a listing ask for, told without the way in which a listing is made: the order that a text names,
what a search wants a document to show, how much a database takes, and the part of all entries that is listed. Main
statements: options are read as just that (`asked_iff_sortsBy`, `matchesSearch_iff`, `Bounded.fits`, `cuts_cut`).
-/
namespace ModelDepot

/-! ### Orders -/

namespace Document

/-- By a text, in the order of its bytes. -/
def byText (field : Document → String) (a b : Document) : Prop := Json.utf8 (field a) < Json.utf8 (field b)

def byNumber (field : Document → Int) (a b : Document) : Prop := field a < field b

/-- The orders in which documents can be listed, under their names; a published document comes behind other ones. -/
def orders : List (String × (Document → Document → Prop)) := [
  ("id", byText (·.id)),
  ("name", byText (·.name)),
  ("owner", byText (·.owner)),
  ("bpmn_xml", byText (·.bpmnXml)),
  ("svg_xml", byText (·.svgXml)),
  ("publish", byNumber fun document => if document.publish then 1 else 0),
  ("publish_date", byText (·.publishDate)),
  ("description", byText (·.description)),
  ("last_updated_unix", byNumber (·.lastUpdated.toInt))]

end Document

/-- An order, which may be turned round. -/
structure Sorting where
  less : Document → Document → Prop
  descending : Bool

namespace Sorting

/-- The first document is listed before the second one; those that are equal in the order are listed by their ids. -/
def Before (sorting : Sorting) (a b : Document) : Prop :=
  (if sorting.descending then sorting.less b a else sorting.less a b) ∨
    ¬ sorting.less a b ∧ ¬ sorting.less b a ∧ Json.utf8 a.id < Json.utf8 b.id

/-- What may stand behind the name of an order. -/
def directions : List (String × Bool) := [("", false), (".asc", false), (".desc", true)]

/-- The text asks for this; documents are listed by name where nothing is said. -/
inductive Asked : Option String → Sorting → Prop
  | unsaid : Asked none ⟨Document.byText (·.name), false⟩
  | said {text name ending : String} {less : Document → Document → Prop} {descending : Bool}
      (known : (name, less) ∈ Document.orders) (direction : (ending, descending) ∈ directions)
      (framed : Text.Framed text.toList (name.toList ++ ending.toList)) : Asked (some text) ⟨less, descending⟩

end Sorting

/-- The order by a column. -/
def Column.less : Column → Document → Document → Prop
  | id => Document.byText (·.id)
  | name => Document.byText (·.name)
  | owner => Document.byText (·.owner)
  | bpmnXml => Document.byText (·.bpmnXml)
  | svgXml => Document.byText (·.svgXml)
  | publish => Document.byNumber fun document => if document.publish then 1 else 0
  | publishDate => Document.byText (·.publishDate)
  | description => Document.byText (·.description)
  | lastUpdated => Document.byNumber (·.lastUpdated.toInt)

theorem mem_orders {name : String} {less : Document → Document → Prop} :
    (name, less) ∈ Document.orders ↔ ∃ column : Column, column.label = name ∧ column.less = less := by
  have all : Document.orders = Column.all.map fun column => (column.label, column.less) := rfl
  have every (column : Column) : column ∈ Column.all := by cases column <;> decide
  rw [all, List.mem_map]
  simp only [every, true_and, Prod.mk.injEq]

namespace SortKey

def sorting (key : SortKey) : Sorting := ⟨key.column.less, key.descending⟩

theorem before?_eq_some {ending text field : List Char} :
    before? ending text = some field ↔ text = field ++ ending := by
  unfold before?
  constructor
  · intro found
    split at found
    · rename_i isSuffix
      obtain ⟨front, rfl⟩ := List.isSuffixOf_iff_suffix.mp isSuffix
      obtain rfl := Option.some.inj found
      rw [List.length_append, Nat.add_sub_cancel, List.take_left]
    · cases found
  · rintro rfl
    rw [if_pos (List.isSuffixOf_iff_suffix.mpr (List.suffix_append _ _)), List.length_append, Nat.add_sub_cancel,
      List.take_left]

theorem ofLabel?_eq_some {label : String} {column : Column} :
    Column.ofLabel? label = some column ↔ column.label = label := by
  constructor
  · intro found
    unfold Column.ofLabel? at found
    simpa using List.find?_some found
  · rintro rfl
    cases column <;> decide

/-- A text is read as a key if it is the name of the column with the ending of the direction, and blanks around it. -/
theorem parse_eq_ok {text : String} {key : SortKey} : parse text = .ok key ↔
    ∃ ending, (ending, key.descending) ∈ Sorting.directions ∧
      Text.Framed text.toList (key.column.label.toList ++ ending.toList) := by
  simp only [← Text.trimChars_eq_iff]
  constructor
  · intro parsed
    unfold parse at parsed
    generalize Text.trimChars text.toList = core at parsed
    cases desc : before? ".desc".toList core with
    | some field =>
      simp only [desc] at parsed
      split at parsed
      · rename_i column found
        obtain rfl := Except.ok.inj parsed
        rw [ofLabel?_eq_some.mp found, String.toList_ofList]
        exact ⟨".desc", by simp [Sorting.directions], before?_eq_some.mp desc⟩
      · cases parsed
    | none =>
      simp only [desc] at parsed
      split at parsed
      · rename_i column found
        obtain rfl := Except.ok.inj parsed
        rw [ofLabel?_eq_some.mp found, String.toList_ofList]
        cases asc : before? ".asc".toList core with
        | some field => exact ⟨".asc", by simp [Sorting.directions], before?_eq_some.mp asc⟩
        | none => exact ⟨"", by simp [Sorting.directions], (List.append_nil core).symm⟩
      · cases parsed
  · rintro ⟨ending, direction, trimmed⟩
    obtain ⟨column, descending⟩ := key
    unfold parse
    rw [trimmed]
    simp only [Sorting.directions, List.mem_cons, Prod.mk.injEq, List.not_mem_nil, or_false] at direction
    rcases direction with ⟨rfl, rfl⟩ | ⟨rfl, rfl⟩ | ⟨rfl, rfl⟩ <;> cases column <;> rfl

/-- The values of documents in a column are compared as its order tells. -/
theorem compare_eq_lt (column : Column) (a b : Document) :
    ((Row.ofDocument a).value column).compare ((Row.ofDocument b).value column) = .lt ↔ column.less a b := by
  cases column
  case publish | lastUpdated => exact compare_lt_iff_lt
  all_goals exact compare_lt_iff_lt.trans (Text.lt_iff_utf8_lt _ _)

theorem compare_eq_eq (column : Column) (a b : Document) :
    ((Row.ofDocument a).value column).compare ((Row.ofDocument b).value column) = .eq ↔
      ¬ column.less a b ∧ ¬ column.less b a := by
  rw [← compare_eq_lt, ← compare_eq_lt,
    @Std.OrientedCmp.eq_swap _ ColumnValue.compare _ ((Row.ofDocument b).value column)]
  cases ((Row.ofDocument a).value column).compare ((Row.ofDocument b).value column) <;> decide

theorem compareRows_eq_lt {key : SortKey} {a b : Document} :
    key.compareRows (.ofDocument a) (.ofDocument b) = .lt ↔ key.sorting.Before a b := by
  have ids : compare a.id b.id = .lt ↔ Json.utf8 a.id < Json.utf8 b.id :=
    compare_lt_iff_lt.trans (Text.lt_iff_utf8_lt a.id b.id)
  obtain ⟨column, descending⟩ := key
  unfold compareRows Sorting.Before sorting
  dsimp only
  rw [← and_assoc, ← compare_eq_eq, ← ids, ← compare_eq_lt, ← compare_eq_lt]
  cases descending with
  | false => exact Ordering.then_eq_lt
  | true =>
    rw [@Std.OrientedCmp.eq_swap _ ColumnValue.compare _ ((Row.ofDocument b).value column)]
    exact Ordering.then_eq_lt.trans (by simp [Row.ofDocument])

end SortKey

/-! ### Searches -/

/-- A text as a search reads it: up to its first NUL, without the case of ASCII letters, and with one character for the
    last two numbers of the first plane, which are no characters. -/
def Text.sought : List Char → List Char
  | [] => []
  | c :: more =>
    if c = '\x00' then []
    else (if c.toNat = 0xfffe ∨ c.toNat = 0xffff then '\ufffd' else c.toLower) :: sought more

/-- The text shows what is searched for; what is cut off at a NUL has to stand at the end. -/
def Text.Shows (text search : List Char) : Prop :=
  ∃ before after, sought text = before ++ sought search ++ after ∧ ('\x00' ∈ search → after = [])

theorem Text.sought_eq (text : String) : sought text.toList = Pattern.folded text := by
  unfold Pattern.folded Pattern.compared
  induction text.toList with
  | nil => rfl
  | cons c more ih =>
    by_cases nul : c = '\x00'
    · simp [sought, nul]
    · rw [sought, if_neg nul, List.takeWhile_cons_of_pos (by simpa using nul), List.map_cons, List.map_cons, ih,
        Pattern.readAs]
      by_cases unread : c.toNat = 0xfffe ∨ c.toNat = 0xffff
      · rw [if_pos unread, if_pos (by simpa using unread)]
        rfl
      · rw [if_neg unread, if_neg (by simpa using unread)]

theorem Text.shows_iff (text : String) (search : List Char) :
    Shows text.toList search ↔ Pattern.Contains text (String.ofList search) := by
  have same := sought_eq (String.ofList search)
  rw [String.toList_ofList] at same
  unfold Shows Pattern.Contains
  rw [String.toList_ofList, sought_eq, same]
  constructor
  · rintro ⟨before, after, parts, atEnd⟩
    split
    · rename_i nul
      rw [atEnd nul, List.append_nil] at parts
      exact ⟨before, parts.symm⟩
    · exact ⟨before, after, parts.symm⟩
  · intro contains
    split at contains
    · obtain ⟨before, parts⟩ := contains
      exact ⟨before, [], by rw [List.append_nil, parts], fun _ => rfl⟩
    · rename_i noNul
      obtain ⟨before, after, parts⟩ := contains
      exact ⟨before, after, parts.symm, fun nul => absurd nul noNul⟩

namespace ListOptions
variable {options : ListOptions}

/-- The document passes the search, if there is one. -/
def Passes (options : ListOptions) (document : Document) : Prop :=
  ∀ text search, options.search = some text → Text.Framed text.toList search → search ≠ [] →
    Text.Shows document.name.toList search ∨ Text.Shows document.description.toList search

theorem matchesSearch_iff {document : Document} :
    Store.matchesSearch options.pattern? (.ofDocument document) ↔ options.Passes document := by
  unfold Passes pattern?
  simp only [← Text.trimChars_eq_iff, Text.shows_iff]
  cases options.search with
  | none => simp [Store.matchesSearch]
  | some text =>
    by_cases nothing : Text.trimChars text.toList = []
    · simp [Store.matchesSearch, Text.trim, nothing]
    · simp [Store.matchesSearch, nothing, Pattern.matchText_containing, Row.ofDocument, Text.trim]

/-! ### What a database takes -/

/-- Something is searched for. -/
def searches (options : ListOptions) : Bool := options.search.any fun text => text.toList.any (!Text.isBlank ·)

/-- A database takes the listing. It binds each id, what is searched for in two places, the limit and the offset, and
    reads a pattern in which the signs of patterns are marked, with one more sign at either end. -/
structure Bounded (options : ListOptions) : Prop where
  values : (options.ids.getD []).length + (if options.searches then 2 else 0) +
    (if options.limit.isSome then 1 else 0) + (if 0 < options.offset then 1 else 0) ≤ 32766
  pattern (text : String) (search : List Char) : options.search = some text → Text.Framed text.toList search →
    String.utf8Len search + search.countP (· ∈ ['%', '_', '\\']) + 2 ≤ 50000

theorem isSome_pattern? (options : ListOptions) : options.pattern?.isSome = options.searches := by
  unfold pattern? searches
  cases options.search with
  | none => rfl
  | some text =>
    have blank : Text.trim text = "" ↔ ¬ text.toList.any (!Text.isBlank ·) := by
      simp [Text.trim_eq_empty_iff, Text.allBlank]
    by_cases nothing : Text.trim text = ""
    · simpa [nothing] using blank.mp nothing
    · simpa [nothing] using (not_iff_comm.mp blank.symm).mp nothing

/-- Each sign of a pattern is one more byte. -/
theorem utf8Len_escaped (search : List Char) : String.utf8Len (search.flatMap Pattern.escapeChar) =
    String.utf8Len search + search.countP (· ∈ ['%', '_', '\\']) := by
  induction search with
  | nil => rfl
  | cons c more ih =>
    have backslash : Char.utf8Size '\\' = 1 := rfl
    rw [List.flatMap_cons, String.utf8Len_append, ih, List.countP_cons, String.utf8Len_cons]
    unfold Pattern.escapeChar
    by_cases isSign : c ∈ ['%', '_', '\\']
    · rw [if_pos (by simpa [or_assoc] using isSign)]
      simp only [String.utf8Len_cons, String.utf8Len_nil, backslash, isSign, decide_true, ↓reduceIte]
      omega
    · rw [if_neg (by simpa [or_assoc] using isSign)]
      simp only [String.utf8Len_cons, String.utf8Len_nil, isSign, decide_false, Bool.false_eq_true, ↓reduceIte]
      omega

theorem Bounded.fits (bounded : options.Bounded) : options.Fits := by
  refine ⟨?_, fun pattern isPattern => ?_⟩
  · have ids : (options.ids.map List.length).getD 0 = (options.ids.getD []).length := by cases options.ids <;> rfl
    rw [boundValues, ids, isSome_pattern?]
    exact bounded.values
  · unfold pattern? at isPattern
    cases said : options.search with
    | none => simp [said] at isPattern
    | some text =>
      have short := bounded.pattern text _ said (Text.framed_trimChars text.toList)
      rw [said, Option.map_some] at isPattern
      dsimp only at isPattern
      split at isPattern
      · cases isPattern
      · obtain rfl := Option.some.inj isPattern
        rw [← utf8Len_escaped] at short
        rw [Pattern.containing, String.utf8ByteSize_ofList, Text.trim, String.toList_ofList, String.utf8Len_cons,
          String.utf8Len_append]
        exact short

/-! ### Cuts -/

/-- These are the entries that the options cut out of all: from the offset on, and no more than the limit says. -/
def Cuts {α : Type} (options : ListOptions) (all entries : List α) : Prop := ∀ (i : Nat) (entry : α),
  entries[i]? = some entry ↔ all[options.offset + i]? = some entry ∧ ∀ limit, options.limit = some limit → i < limit

theorem cuts_cut {α : Type} (options : ListOptions) (all : List α) : options.Cuts all (options.cut all) := by
  intro i entry
  unfold cut
  dsimp only
  cases options.limit with
  | none => simp [List.getElem?_drop]
  | some limit => simp [List.getElem?_take, List.getElem?_drop, and_comm]

/-- The order that is asked for is that of the key. -/
theorem asked_iff_sortsBy {sorting : Sorting} :
    Sorting.Asked options.sortBy sorting ↔ ∃ key, options.SortsBy key ∧ key.sorting = sorting := by
  unfold SortsBy
  constructor
  · intro asked
    cases said : options.sortBy with
    | none =>
      rw [said] at asked
      cases asked
      exact ⟨SortKey.byName, rfl, rfl⟩
    | some text =>
      rw [said] at asked
      cases asked with
      | said known direction framed =>
        obtain ⟨column, rfl, rfl⟩ := mem_orders.mp known
        exact ⟨⟨column, _⟩, SortKey.parse_eq_ok.mpr ⟨_, direction, framed⟩, rfl⟩
  · rintro ⟨key, sorts, rfl⟩
    cases said : options.sortBy with
    | none =>
      rw [said] at sorts
      obtain rfl : key = SortKey.byName := sorts
      exact .unsaid
    | some text =>
      rw [said] at sorts
      obtain ⟨ending, direction, framed⟩ := SortKey.parse_eq_ok.mp sorts
      exact .said (mem_orders.mpr ⟨key.column, rfl, rfl⟩) direction framed

end ListOptions
end ModelDepot
