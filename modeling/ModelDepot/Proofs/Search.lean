import Mathlib.Data.List.Infix
import ModelDepot.Store.Pattern

/-!
Which texts a search finds: those that contain what is searched for, up to the case of ASCII letters.
Main statement: `matchText_containing`.
-/
namespace ModelDepot.Pattern

/-- The characters that a comparison reads, with ASCII letters in lower case. -/
def folded (text : String) : List Char := (compared text).map Char.toLower

/-- The text contains the other. A search with a NUL ends there, and what it finds has to stand at the end. -/
def Contains (text search : String) : Prop :=
  if '\x00' ∈ search.toList then folded search <:+ folded text else folded search <:+: folded text

/-! ### The pattern of a search -/

/-- The signs of a pattern that do not stand for themselves. -/
def signs : List Char := ['%', '_', '\\']

theorem tokens_plain {c : Char} (isPlain : c ∉ signs) (rest : List Char) :
    tokens (c :: rest) = (tokens rest).map (.char c :: ·) := by
  simp only [signs, List.mem_cons, List.not_mem_nil, or_false, not_or] at isPlain
  obtain ⟨noPercent, noUnderscore, noBackslash⟩ := isPlain
  exact tokens.eq_6 c rest (fun same _ => noBackslash same) (fun _ _ same _ => noBackslash same) noPercent noUnderscore

@[simp] theorem tokens_escapeChar (c : Char) (rest : List Char) :
    tokens (escapeChar c ++ rest) = (tokens rest).map (.char c :: ·) := by
  unfold escapeChar
  split
  · rfl
  · rename_i plain
    refine tokens_plain (fun isSign => plain ?_) rest
    simpa [signs, or_assoc] using isSign

theorem tokens_escaped (search rest : List Char) :
    tokens (search.flatMap escapeChar ++ rest) = (tokens rest).map (search.map Token.char ++ ·) := by
  induction search with
  | nil => simp
  | cons c more ih =>
    rw [List.flatMap_cons, List.append_assoc, tokens_escapeChar, ih, Option.map_map]
    rfl

/-- Nothing is read as a sign of the pattern that is none. -/
@[simp] theorem escapeChar_readAs (c : Char) : escapeChar (readAs c) = (escapeChar c).map readAs := by
  by_cases unread : c.toNat = 0xfffe ∨ c.toNat = 0xffff
  · have reads : readAs c = '\ufffd' := by simp [readAs, unread]
    have ordinary : escapeChar c = [c] := by
      have other (sign : Char) (small : sign.toNat < 0xfffe) : c ≠ sign := by
        rintro rfl
        omega
      simp [escapeChar, other '%' (by decide), other '_' (by decide), other '\\' (by decide)]
    rw [ordinary, reads, List.map_singleton, reads]
    decide
  · have reads : readAs c = c := by
      rw [not_or] at unread
      simp [readAs, unread]
    unfold escapeChar
    rw [reads]
    split
    · rw [List.map_cons, List.map_singleton, reads]
      rfl
    · rw [List.map_singleton, reads]

theorem flatMap_escapeChar_readAs (search : List Char) :
    (search.map readAs).flatMap escapeChar = (search.flatMap escapeChar).map readAs := by
  rw [List.flatMap_map, List.map_flatMap]
  exact List.flatMap_congr fun c _ => escapeChar_readAs c

theorem mem_escapeChar {c d : Char} (member : d ∈ escapeChar c) : d = c ∨ d = '\\' := by
  unfold escapeChar at member
  split at member
  · simpa [or_comm] using member
  · exact .inl (List.mem_singleton.mp member)

/-- What a comparison reads of a text begins with whatever is free of NULs. -/
theorem takeWhile_append {start : List Char} (noNul : '\x00' ∉ start) (rest : List Char) :
    (start ++ rest).takeWhile (· != '\x00') = start ++ rest.takeWhile (· != '\x00') := by
  refine List.takeWhile_append_of_pos fun c member => bne_iff_ne.mpr ?_
  rintro rfl
  exact noNul member

theorem nul_not_mem_escaped {search : List Char} (noNul : '\x00' ∉ search) : '\x00' ∉ search.flatMap escapeChar := by
  intro member
  obtain ⟨c, isIn, escaped⟩ := List.mem_flatMap.mp member
  rcases mem_escapeChar escaped with rfl | backslash
  · exact noNul isIn
  · revert backslash
    decide

/-- The parts of the pattern: the last of them is cut off with whatever follows a NUL. -/
theorem tokens_containing (search : String) :
    tokens (compared (containing search)) =
      some (.anyRun :: ((compared search).map .char ++ if '\x00' ∈ search.toList then [] else [.anyRun])) := by
  have written : compared (containing search) =
      '%' :: ((search.toList.flatMap escapeChar ++ ['%']).takeWhile (· != '\x00')).map readAs := by
    unfold compared containing
    rw [String.toList_ofList, List.takeWhile_cons_of_pos (by decide), List.map_cons]
    rfl
  rw [written]
  by_cases nul : '\x00' ∈ search.toList
  · obtain ⟨start, rest, parts, fresh⟩ := List.eq_append_cons_of_mem nul
    have read : compared search = start.map readAs := by
      unfold compared
      rw [parts, takeWhile_append fresh]
      simp
    have cut : (search.toList.flatMap escapeChar ++ ['%']).takeWhile (· != '\x00') = start.flatMap escapeChar := by
      rw [parts, List.flatMap_append, List.append_assoc, takeWhile_append (nul_not_mem_escaped fresh)]
      simp [escapeChar]
    rw [cut, ← flatMap_escapeChar_readAs, ← read, if_pos nul]
    have escaped := tokens_escaped (compared search) []
    rw [List.append_nil] at escaped
    simp only [tokens, escaped, Option.map_some]
  · have read : compared search = search.toList.map readAs := by
      have all := takeWhile_append nul []
      rw [List.append_nil, List.takeWhile_nil, List.append_nil] at all
      rw [compared, all]
    have whole : (search.toList.flatMap escapeChar ++ ['%']).takeWhile (· != '\x00') =
        search.toList.flatMap escapeChar ++ ['%'] :=
      takeWhile_append (nul_not_mem_escaped nul) ['%']
    have sign : ['%'].map readAs = ['%'] := by decide
    rw [whole, List.map_append, ← flatMap_escapeChar_readAs, ← read, sign, if_neg nul]
    simp only [tokens, tokens_escaped, Option.map_some]

/-! ### What it matches -/

theorem someEnd_iff {accepts : List Char → Bool} {text : List Char} :
    someEnd accepts text ↔ ∃ ending, ending <:+ text ∧ accepts ending := by
  induction text with
  | nil => simp [someEnd]
  | cons c rest ih =>
    rw [someEnd, Bool.or_eq_true, ih]
    constructor
    · rintro (whole | ⟨ending, within, accepted⟩)
      · exact ⟨_, List.suffix_refl _, whole⟩
      · exact ⟨ending, within.trans (List.suffix_cons c rest), accepted⟩
    · rintro ⟨ending, within, accepted⟩
      rcases List.suffix_cons_iff.mp within with rfl | later
      · exact .inl accepted
      · exact .inr ⟨ending, later, accepted⟩

theorem matchTokens_chars {search text : List Char} :
    matchTokens (search.map .char) text ↔ search.map Char.toLower = text.map Char.toLower := by
  induction search generalizing text with
  | nil => cases text <;> simp [matchTokens]
  | cons p more ih =>
    cases text with
    | nil => simp [matchTokens]
    | cons c rest => simp [matchTokens, sameLetter, ih]

theorem matchTokens_start {search text : List Char} :
    matchTokens (search.map .char ++ [.anyRun]) text ↔ search.map Char.toLower <+: text.map Char.toLower := by
  induction search generalizing text with
  | nil =>
    have any : someEnd (matchTokens []) text := someEnd_iff.mpr ⟨[], List.nil_suffix, rfl⟩
    simpa [matchTokens] using any
  | cons p more ih =>
    cases text with
    | nil => simp [matchTokens]
    | cons c rest => simp [matchTokens, sameLetter, ih]

theorem matchTokens_within {search text : List Char} :
    matchTokens (.anyRun :: (search.map .char ++ [.anyRun])) text ↔ search.map Char.toLower <:+: text.map Char.toLower := by
  simp only [matchTokens, someEnd_iff, matchTokens_start, List.infix_iff_prefix_suffix, List.suffix_map_iff]
  constructor
  · rintro ⟨ending, within, starts⟩
    exact ⟨_, starts, ending, within, rfl⟩
  · rintro ⟨_, starts, ending, within, rfl⟩
    exact ⟨ending, within, starts⟩

/-- A text matches the pattern of a search when it contains what is searched for. -/
theorem matchText_containing (search text : String) :
    matchText (containing search) text ↔ Contains text search := by
  unfold matchText Contains folded
  rw [tokens_containing]
  by_cases nul : '\x00' ∈ search.toList
  · simp only [if_pos nul, List.append_nil, matchTokens, someEnd_iff, matchTokens_chars, List.suffix_map_iff]
  · simp only [if_neg nul]
    exact matchTokens_within

end ModelDepot.Pattern
