import ModelDepot.Proofs.SortedListing

/-!
A search is literal: whatever signs of a pattern it holds, it finds the texts in which it occurs, up to the case of
ASCII letters. Patterns are described by what they match (`Pattern.Matches`), which is what the backtracking comparison
decides (`Pattern.matches_iff`). Main statement: `Store.search_is_literal`.
-/
namespace ModelDepot.Pattern

/-- Equal up to the case of ASCII letters. -/
def Alike (a b : Char) : Prop := a.toLower = b.toLower

/-- The text matches the pattern as a whole. -/
inductive Matches : List Char → List Char → Prop where
  | nothing : Matches [] []
  | anyRun {pattern text : List Char} (run : List Char) : Matches pattern text → Matches ('%' :: pattern) (run ++ text)
  | anyOne {pattern text : List Char} (c : Char) : Matches pattern text → Matches ('_' :: pattern) (c :: text)
  | escaped {pattern text : List Char} {p c : Char} : Alike p c → Matches pattern text →
      Matches ('\\' :: p :: pattern) (c :: text)
  | plain {pattern text : List Char} {p c : Char} : p ∉ signs → Alike p c → Matches pattern text →
      Matches (p :: pattern) (c :: text)

/-- The text has a part that is the search up to the case of ASCII letters. -/
def Occurs (search text : List Char) : Prop :=
  ∃ before part after, text = before ++ part ++ after ∧ List.Forall₂ Alike search part

/-- The text as a comparison reads it, which takes the last two numbers of the first plane for no characters. -/
def seen (text : String) : String := String.ofList (text.toList.map readAs)

/-! ### The comparison -/

theorem sameLetter_iff {a b : Char} : sameLetter a b ↔ Alike a b := beq_iff_eq

/-- What a pattern is described to match is accepted. -/
theorem Matches.accepted {pattern text : List Char} (isMatch : Matches pattern text) :
    ∃ parts, tokens pattern = some parts ∧ matchTokens parts text := by
  induction isMatch with
  | nothing => exact ⟨[], rfl, rfl⟩
  | @anyRun pattern text run _ ih =>
    obtain ⟨parts, read, accepted⟩ := ih
    refine ⟨.anyRun :: parts, by simp [tokens, read], ?_⟩
    rw [matchTokens, someEnd_iff]
    exact ⟨text, List.suffix_append run text, accepted⟩
  | anyOne c _ ih =>
    obtain ⟨parts, read, accepted⟩ := ih
    exact ⟨.anyOne :: parts, by simp [tokens, read], accepted⟩
  | @escaped _ _ p _ alike _ ih =>
    obtain ⟨parts, read, accepted⟩ := ih
    exact ⟨.char p :: parts, by simp [tokens, read], by simp [matchTokens, sameLetter_iff.mpr alike, accepted]⟩
  | @plain _ _ p _ isPlain alike _ ih =>
    obtain ⟨parts, read, accepted⟩ := ih
    exact ⟨.char p :: parts, by simp [tokens_plain isPlain, read],
      by simp [matchTokens, sameLetter_iff.mpr alike, accepted]⟩

/-- What is accepted, a pattern is described to match. -/
theorem matches_of_accepted {pattern text : List Char} {parts : List Token} (read : tokens pattern = some parts)
    (accepted : matchTokens parts text) : Matches pattern text := by
  induction pattern using tokens.induct generalizing parts text with
  | case1 =>
    obtain rfl := Option.some.inj read
    obtain rfl := List.isEmpty_iff.mp accepted
    exact .nothing
  | case2 => cases read
  | case3 p pattern ih =>
    obtain ⟨more, readMore, rfl⟩ := Option.map_eq_some_iff.mp read
    cases text with
    | nil => cases accepted
    | cons c rest =>
      obtain ⟨same, accepted⟩ := Bool.and_eq_true_iff.mp accepted
      exact .escaped (sameLetter_iff.mp same) (ih readMore accepted)
  | case4 pattern ih =>
    obtain ⟨more, readMore, rfl⟩ := Option.map_eq_some_iff.mp read
    obtain ⟨rest, ⟨run, rfl⟩, within⟩ := someEnd_iff.mp accepted
    exact .anyRun run (ih readMore within)
  | case5 pattern ih =>
    obtain ⟨more, readMore, rfl⟩ := Option.map_eq_some_iff.mp read
    cases text with
    | nil => cases accepted
    | cons c rest => exact .anyOne c (ih readMore accepted)
  | case6 p pattern noEnd noEscape noPercent noUnderscore ih =>
    have isPlain : p ∉ signs := by
      simp only [signs, List.mem_cons, List.not_mem_nil, or_false, not_or]
      refine ⟨noPercent, noUnderscore, ?_⟩
      cases pattern with
      | nil => exact fun same => noEnd same rfl
      | cons c rest => exact fun same => noEscape c rest same rfl
    rw [tokens_plain isPlain] at read
    obtain ⟨more, readMore, rfl⟩ := Option.map_eq_some_iff.mp read
    cases text with
    | nil => cases accepted
    | cons c rest =>
      obtain ⟨same, accepted⟩ := Bool.and_eq_true_iff.mp accepted
      exact .plain isPlain (sameLetter_iff.mp same) (ih readMore accepted)

/-- The comparison decides what a pattern is described to match. -/
theorem matches_iff {pattern text : List Char} :
    Matches pattern text ↔ ∃ parts, tokens pattern = some parts ∧ matchTokens parts text :=
  ⟨Matches.accepted, fun ⟨_, read, accepted⟩ => matches_of_accepted read accepted⟩

/-- What a comparison reads of a text without a NUL. -/
theorem compared_of_noNul {text : String} (noNul : '\x00' ∉ text.toList) : compared text = (seen text).toList := by
  have whole := takeWhile_append noNul []
  rw [List.append_nil, List.takeWhile_nil, List.append_nil] at whole
  rw [compared, whole, seen, String.toList_ofList]

theorem seen_eq_empty {text : String} : seen text = "" ↔ text = "" := by
  rw [seen, ← String.toList_inj, ← String.toList_inj]
  simp

/-! ### The pattern of a search -/

theorem forall₂_alike_iff {search part : List Char} :
    List.Forall₂ Alike search part ↔ search.map Char.toLower = part.map Char.toLower := by
  rw [← List.forall₂_eq_eq_eq, List.forall₂_map_left_iff, List.forall₂_map_right_iff]
  rfl

theorem occurs_iff {search text : List Char} :
    search.map Char.toLower <:+: text.map Char.toLower ↔ Occurs search text := by
  constructor
  · rintro ⟨before, after, parts⟩
    obtain ⟨front, back, rfl, isFront, isAfter⟩ := List.map_eq_append_iff.mp parts.symm
    obtain ⟨start, part, rfl, isBefore, same⟩ := List.map_eq_append_iff.mp isFront
    exact ⟨start, part, back, rfl, forall₂_alike_iff.mpr same.symm⟩
  · rintro ⟨before, part, after, rfl, same⟩
    rw [List.map_append, List.map_append, forall₂_alike_iff.mp same]
    exact List.infix_append _ _ _

/-- The pattern of a search matches the texts in which it occurs, whatever signs of a pattern either holds. -/
theorem matches_containing (search text : String) :
    Matches (containing search).toList text.toList ↔ Occurs search.toList text.toList := by
  have parts : tokens (containing search).toList = some (.anyRun :: (search.toList.map .char ++ [.anyRun])) := by
    rw [containing, String.toList_ofList]
    simp only [tokens, tokens_escaped, Option.map_some]
  rw [matches_iff, ← occurs_iff, ← matchTokens_within]
  simp [parts]

/-- The search is empty, or it occurs in one of the texts. -/
def FoundIn (search : String) (texts : List String) : Prop :=
  search = "" ∨ ∃ text ∈ texts, Occurs search.toList text.toList

/-- What the pattern of a search finds in texts without a NUL. -/
theorem matchText_iff_occurs {search text : String} (noNul : '\x00' ∉ search.toList) (noNulToo : '\x00' ∉ text.toList) :
    matchText (containing search) text ↔ Occurs (seen search).toList (seen text).toList := by
  rw [matchText_containing, Contains, if_neg noNul, folded, folded, compared_of_noNul noNul, compared_of_noNul noNulToo,
    occurs_iff]

end ModelDepot.Pattern

namespace ModelDepot
open Pattern

/-- The texts that are searched. -/
def Row.searched (row : Row) : List String := [row.name, row.description]
def Document.searched (document : Document) : List String := [document.name, document.description]

theorem Row.searched_of_toDocument {row : Row} {document : Document} (read : row.toDocument = .ok document) :
    document.searched = row.searched := by
  unfold toDocument at read
  simp only [bind, Except.bind, pure, Except.pure] at read
  split at read
  · split at read
    · cases read
      rfl
    · cases read
  · split at read
    · cases read
      rfl
    · cases read
  · cases read

/-- What a listing with a search finds, for a search without blanks at its ends. -/
structure SearchesLiterally (options : ListOptions) (search : String) : Prop where
  /-- The pattern of the search is described to match just the texts in which the search occurs. -/
  described (text : String) : Matches (containing search).toList text.toList ↔ Occurs search.toList text.toList
  /-- A row passes when it shows what is searched for, each as a comparison reads it. -/
  passes (row : Row) : (∀ text ∈ row.searched, '\x00' ∉ text.toList) →
    (Store.matchesSearch options.pattern? row ↔ FoundIn (seen search) (row.searched.map seen))
  /-- Texts that are read as they stand are compared as they stand. -/
  literally (row : Row) : (∀ text ∈ row.searched, '\x00' ∉ text.toList) →
    (∀ text ∈ search :: row.searched, seen text = text) →
    (Store.matchesSearch options.pattern? row ↔ FoundIn search row.searched)
  /-- A listing shows what passes among the documents that it shows without the search. -/
  listed (store : Store) (everything : DocumentPage) : options.limit = none → options.offset = 0 → options.Fits →
    (∀ row ∈ store.table.toList, ∀ text ∈ row.searched, '\x00' ∉ text.toList) →
    store.list { options with search := none } = .ok everything →
    ∃ page, store.list options = .ok page ∧ ∀ document, document ∈ page.items ↔
      document ∈ everything.items ∧ FoundIn (seen search) (document.searched.map seen)

variable {options : ListOptions} {search : String}

theorem matchesSearch_iff_foundIn (asked : options.search = some search) (noNul : '\x00' ∉ (Text.trim search).toList)
    {row : Row} (noNulToo : ∀ text ∈ row.searched, '\x00' ∉ text.toList) :
    Store.matchesSearch options.pattern? row ↔ FoundIn (seen (Text.trim search)) (row.searched.map seen) := by
  unfold FoundIn ListOptions.pattern?
  rw [asked, Option.map_some, seen_eq_empty]
  by_cases nothing : Text.trim search = ""
  · simp [nothing, Store.matchesSearch]
  · have inName := matchText_iff_occurs noNul (noNulToo row.name (by simp [Row.searched]))
    have inDescription := matchText_iff_occurs noNul (noNulToo row.description (by simp [Row.searched]))
    simp [nothing, Store.matchesSearch, Row.searched, inName, inDescription]

namespace Store
variable {store : Store}

theorem found_unsearched (store : Store) (options : ListOptions) :
    store.found { options with search := none } = asksForId options store.table.toList :=
  List.filter_eq_self.mpr fun _ _ => rfl

theorem mem_found {row : Row} : row ∈ store.found options ↔
    row ∈ store.found { options with search := none } ∧ matchesSearch options.pattern? row := by
  rw [found_unsearched, found, List.mem_filter]

/-- What an uncut listing holds. -/
theorem mem_list_uncut {page : DocumentPage} (given : store.list options = .ok page) (unlimited : options.limit = none)
    (fromStart : options.offset = 0) (document : Document) :
    document ∈ page.items ↔ ∃ row ∈ store.found options, row.toDocument = .ok document := by
  obtain ⟨key, sorted⟩ | ⟨text, asked, message, refused⟩ := options.sortable_or_not
  · have uncut {α : Type} (l : List α) : options.cut l = l := by simp [ListOptions.cut, unlimited, fromStart]
    have read := read_of_list sorted given
    rw [uncut] at read
    simp only [mem_of_mapM read, (key.perm_sort _).mem_iff]
  · cases (list_of_unsortable asked refused).symm.trans given

/-- A search leads to no failure of its own. -/
theorem list_of_unsearched {everything : DocumentPage} (unlimited : options.limit = none) (fromStart : options.offset = 0)
    (fits : options.Fits) (given : store.list { options with search := none } = .ok everything) :
    ∃ page, store.list options = .ok page := by
  obtain ⟨key, sorted⟩ | ⟨text, asked, message, refused⟩ := options.sortable_or_not
  · have reads : ∀ row ∈ key.sort (store.found options), ∃ document, row.toDocument = .ok document := by
      intro row member
      have isFound := (mem_found.mp ((key.perm_sort _).mem_iff.mp member)).1
      have sortedToo : ({ options with search := none } : ListOptions).SortsBy key := sorted
      have read := read_of_list sortedToo given
      have uncut {α : Type} (l : List α) : ({ options with search := none } : ListOptions).cut l = l := by
        simp [ListOptions.cut, unlimited, fromStart]
      rw [uncut] at read
      exact mapM_ok_iff.mp ⟨_, read⟩ row ((key.perm_sort _).mem_iff.mpr isFound)
    obtain ⟨documents, read⟩ := mapM_ok_iff.mpr reads
    exact ⟨_, list_of_read sorted fits (mapM_eq_ok_iff.mp read)⟩
  · have refusedToo : store.list { options with search := none } = .error (.invalidQuery message) :=
      list_of_unsortable asked refused
    cases refusedToo.symm.trans given

/-- A search finds the documents in which it occurs. For every search, every listing with it and every row: where no
    text has a NUL, a row passes if the search without the blanks at its ends is empty or occurs in the row's name or
    description, up to the case of ASCII letters, and whatever signs of a pattern they hold. -/
theorem search_is_literal (asked : options.search = some search) (noNul : '\x00' ∉ (Text.trim search).toList) :
    SearchesLiterally options (Text.trim search) where
  described text := matches_containing (Text.trim search) text
  passes row noNulToo := matchesSearch_iff_foundIn asked noNul noNulToo
  literally row noNulToo asTheyStand := by
    have same : row.searched.map seen = row.searched :=
      (List.map_congr_left fun text member => asTheyStand text (List.mem_cons_of_mem _ member)).trans (List.map_id _)
    rw [matchesSearch_iff_foundIn asked noNul noNulToo, asTheyStand _ List.mem_cons_self, same]
  listed store everything unlimited fromStart fits noNulToo given := by
    obtain ⟨page, listed⟩ := list_of_unsearched unlimited fromStart fits given
    refine ⟨page, listed, fun document => ?_⟩
    have isListed : document ∈ everything.items ↔ ∃ row ∈ store.found { options with search := none },
        row.toDocument = .ok document := mem_list_uncut given unlimited fromStart document
    rw [mem_list_uncut listed unlimited fromStart, isListed]
    have passes {row : Row} (isFound : row ∈ store.found { options with search := none })
        (read : row.toDocument = .ok document) :
        matchesSearch options.pattern? row ↔ FoundIn (seen (Text.trim search)) (document.searched.map seen) := by
      rw [found_unsearched] at isFound
      rw [Row.searched_of_toDocument read]
      exact matchesSearch_iff_foundIn asked noNul (noNulToo row (asksForId_sublist.subset isFound))
    constructor
    · rintro ⟨row, isFound, read⟩
      obtain ⟨isAsked, passed⟩ := mem_found.mp isFound
      exact ⟨⟨row, isAsked, read⟩, (passes isAsked read).mp passed⟩
    · rintro ⟨⟨row, isAsked, read⟩, occurs⟩
      exact ⟨row, mem_found.mpr ⟨isAsked, (passes isAsked read).mpr occurs⟩, read⟩

/-- A search between blanks that is made of letters and signs of a pattern. -/
def signed : ListOptions := { search := some "\u3000\\50%_OFF\\ " }

theorem search_is_literal_signed :
    (signed.search = some "\u3000\\50%_OFF\\ " ∧ '\x00' ∉ (Text.trim "\u3000\\50%_OFF\\ ").toList) ∧
    SearchesLiterally signed (Text.trim "\u3000\\50%_OFF\\ ") ∧
    matchesSearch signed.pattern? { id := "p", description := "now \\50%_off\\_" } ∧
    ¬ matchesSearch signed.pattern? { id := "q", name := "\\50 percent off\\" } :=
  ⟨⟨rfl, by decide⟩, search_is_literal rfl (by decide), by decide, by decide⟩

end Store

end ModelDepot
