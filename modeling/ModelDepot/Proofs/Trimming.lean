import Mathlib.Data.List.TakeWhile
import ModelDepot.Text.Cut

/-!
What is left of a text without the blanks at its ends. Main statement: it is the one text with which blanks make up
the whole, and which neither begins nor ends with one (`trimChars_eq_iff`).
-/
namespace ModelDepot.Text
variable {text core : List Char}

/-- The text is the other one with blanks around it. -/
def Framed (text core : List Char) : Prop :=
  ∃ before after, text = before ++ core ++ after ∧ (∀ c ∈ before ++ after, isBlank c) ∧
    (∀ c ∈ core.head?, ¬ isBlank c) ∧ ∀ c ∈ core.getLast?, ¬ isBlank c

/-- What is left behind the blanks at the beginning does not begin with one. -/
theorem not_blank_of_head? {c : Char} (first : c ∈ (text.dropWhile isBlank).head?) : ¬ isBlank c := by
  have found := List.head?_dropWhile_not isBlank text
  rw [Option.mem_def.mp first] at found
  exact Bool.eq_false_iff.mp found

theorem framed_trimChars (text : List Char) : Framed text (trimChars text) := by
  have front : text.takeWhile isBlank ++ text.dropWhile isBlank = text := List.takeWhile_append_dropWhile
  generalize isRest : text.dropWhile isBlank = rest at front
  have back : trimChars text ++ (rest.reverse.takeWhile isBlank).reverse = rest := by
    rw [trimChars, isRest, ← List.reverse_append, List.takeWhile_append_dropWhile, List.reverse_reverse]
  refine ⟨text.takeWhile isBlank, (rest.reverse.takeWhile isBlank).reverse, ?_, fun c member => ?_,
    fun c first => ?_, fun c last => ?_⟩
  · rw [List.append_assoc, back, front]
  · rcases List.mem_append.mp member with member | member
    · exact List.mem_takeWhile_imp member
    · exact List.mem_takeWhile_imp (List.mem_reverse.mp member)
  · have starts : c ∈ (text.dropWhile isBlank).head? := by
      rw [isRest, ← back, List.head?_append, Option.mem_def.mp first]
      rfl
    exact not_blank_of_head? starts
  · rw [trimChars, isRest, List.getLast?_reverse] at last
    exact not_blank_of_head? last

/-- A text is framed by what is left of it without the blanks at its ends, and by nothing else. -/
theorem trimChars_eq_iff : trimChars text = core ↔ Framed text core := by
  refine ⟨fun same => same ▸ framed_trimChars text, ?_⟩
  rintro ⟨before, after, rfl, blank, first, last⟩
  have blankBefore : ∀ c ∈ before, isBlank c := fun c member => blank c (List.mem_append_left _ member)
  have blankAfter : ∀ c ∈ after.reverse, isBlank c :=
    fun c member => blank c (List.mem_append_right _ (List.mem_reverse.mp member))
  unfold trimChars
  rw [List.append_assoc, List.dropWhile_append_of_pos blankBefore]
  cases core with
  | nil =>
    have nothing : after.dropWhile isBlank = [] :=
      List.dropWhile_eq_nil_iff.mpr fun c member => blankAfter c (List.mem_reverse.mpr member)
    rw [List.nil_append, nothing]
    rfl
  | cons c more =>
    rw [List.cons_append, List.dropWhile_cons_of_neg (first c rfl), ← List.cons_append, List.reverse_append,
      List.dropWhile_append_of_pos blankAfter]
    cases reversed : (c :: more).reverse with
    | nil => simp at reversed
    | cons d rest =>
      have isLast : d ∈ (c :: more).getLast? := by rw [← List.head?_reverse, reversed]; rfl
      rw [List.dropWhile_cons_of_neg (last d isLast), ← reversed, List.reverse_reverse]

/-- Nothing is left of a text between its blanks exactly if there is nothing but blanks in it. -/
theorem trim_eq_empty_iff {s : String} : trim s = "" ↔ allBlank s := by
  rw [trim, String.ofList_eq_empty_iff, trimChars_eq_iff, allBlank, List.all_eq_true]
  constructor
  · rintro ⟨before, after, whole, blank, -⟩ c member
    rw [whole, List.append_nil] at member
    exact blank c member
  · exact fun blank => ⟨s.toList, [], by simp, by simpa using blank, nofun, nofun⟩

end ModelDepot.Text
