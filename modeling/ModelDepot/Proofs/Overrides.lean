import ModelDepot.Proofs.SettingsFields

/-!
What the variables of the environment make of the settings. Main statement: the settings under an environment are those
whose fields are each the value under its own variable (`Settings.withOverrides_eq_ok`).
-/
namespace ModelDepot
open Json

/-! ### Counts and switches -/

/-- The text spells the count: decimal digits, perhaps behind a plus sign, between blanks. -/
def SpellsCount (raw : String) (n : UInt64) : Prop :=
  ∃ digits, (Text.trimChars raw.toList = digits ∨ Text.trimChars raw.toList = '+' :: digits) ∧ digits ≠ [] ∧
    (∀ c ∈ digits, c.isDigit) ∧ Nat.ofDigitChars 10 digits 0 = n.toNat

/-- The text is one of the words for yes or one of those for no, in letters of either case and between blanks. -/
def SpellsSwitch (raw : String) (b : Bool) : Prop :=
  Text.asciiLower (Text.trim raw) ∈ if b then ["true", "1", "yes"] else ["false", "0", "no"]

theorem appendDigit_eq_ok {value next : Nat} {c : Char} :
    appendDigit value c = .ok next ↔ c.isDigit ∧ next = 10 * value + (c.toNat - '0'.toNat) ∧ next < UInt64.size := by
  unfold appendDigit
  cases digit : c.isDigit with
  | false => simp
  | true =>
    simp only [Bool.not_true, Bool.false_eq_true, ↓reduceIte, Nat.mul_comm value, true_and]
    split
    · simp only [Except.ok.injEq, eq_comm (b := next)]
      exact ⟨fun same => ⟨same, same ▸ ‹_›⟩, And.left⟩
    · simp only [reduceCtorEq, false_iff, not_and]
      rintro rfl
      assumption

theorem appendDigits_eq_ok {digits : List Char} {value result : Nat} (small : value < UInt64.size) :
    digits.foldlM appendDigit value = .ok result ↔
      (∀ c ∈ digits, c.isDigit) ∧ Nat.ofDigitChars 10 digits value = result ∧ result < UInt64.size := by
  induction digits generalizing value with
  | nil =>
    show Except.ok value = .ok result ↔ _
    simp only [Except.ok.injEq, List.not_mem_nil, false_implies, implies_true, true_and, Nat.ofDigitChars_nil]
    exact ⟨fun same => ⟨same, same ▸ small⟩, And.left⟩
  | cons c more ih =>
    rw [List.foldlM_cons, List.forall_mem_cons, Nat.ofDigitChars_cons]
    cases step : appendDigit value c with
    | ok next =>
      obtain ⟨digit, rfl, fits⟩ := appendDigit_eq_ok.mp step
      show more.foldlM appendDigit _ = _ ↔ _
      rw [ih fits, and_assoc]
      simp [digit]
    | error problem =>
      refine iff_of_false nofun ?_
      rintro ⟨⟨digit, -⟩, isNumber, fits⟩
      have grows := le_ofDigitChars more (10 * value + (c.toNat - '0'.toNat))
      have made : appendDigit value c = .ok _ := appendDigit_eq_ok.mpr ⟨digit, rfl, by omega⟩
      rw [step] at made
      cases made

theorem numeral_eq_ok {digits : List Char} {n : UInt64} :
    UInt64.ofNat <$> digits.foldlM appendDigit 0 = .ok n ↔
      (∀ c ∈ digits, c.isDigit) ∧ Nat.ofDigitChars 10 digits 0 = n.toNat := by
  have read {result : Nat} : digits.foldlM appendDigit 0 = .ok result ↔ _ := appendDigits_eq_ok (by decide)
  constructor
  · intro made
    cases run : digits.foldlM appendDigit 0 with
    | error problem => rw [run] at made; cases made
    | ok result =>
      rw [run] at made
      obtain rfl := Except.ok.inj made
      obtain ⟨digits, isNumber, fits⟩ := read.mp run
      exact ⟨digits, isNumber.trans (UInt64.toNat_ofNat_of_lt' fits).symm⟩
  · rintro ⟨digits, isNumber⟩
    rw [read.mpr ⟨digits, isNumber, n.toNat_lt⟩]
    exact congrArg Except.ok UInt64.ofNat_toNat

theorem parseCount_eq_ok {raw : String} {n : UInt64} :
    parseCount (Text.trimChars raw.toList) = .ok n ↔ SpellsCount raw n := by
  have noPlus : ¬ '+'.isDigit := by decide
  unfold SpellsCount
  generalize Text.trimChars raw.toList = text
  unfold parseCount
  split
  · refine iff_of_false nofun ?_
    rintro ⟨digits, rfl | spelled, some, -⟩
    · exact some rfl
    · cases spelled
  · refine iff_of_false nofun ?_
    rintro ⟨digits, rfl | spelled, some, isDigit, -⟩
    · exact noPlus (isDigit _ List.mem_cons_self)
    · exact some (List.cons.inj spelled).2.symm
  · rename_i digits some
    rw [numeral_eq_ok]
    refine ⟨fun spells => ⟨digits, .inr rfl, fun none => some (none ▸ rfl), spells⟩, ?_⟩
    rintro ⟨_, rfl | spelled, -, isDigit, isNumber⟩
    · exact absurd (isDigit _ List.mem_cons_self) noPlus
    · obtain rfl := (List.cons.inj spelled).2
      exact ⟨isDigit, isNumber⟩
  · rename_i some _ unsigned
    rw [numeral_eq_ok]
    refine ⟨fun spells => ⟨text, .inl rfl, some, spells⟩, ?_⟩
    rintro ⟨digits, rfl | spelled, -, spells⟩
    · exact spells
    · exact absurd spelled (unsigned digits)

theorem parseSwitch_eq_ok {raw : String} {b : Bool} : parseSwitch raw = .ok b ↔ SpellsSwitch raw b := by
  unfold parseSwitch SpellsSwitch
  generalize Text.asciiLower (Text.trim raw) = word
  have apart : word ∈ ["true", "1", "yes"] → word ∉ ["false", "0", "no"] := by revert word; decide
  simp only [List.contains_iff_mem]
  split
  · cases b with
    | true => exact iff_of_true rfl ‹_›
    | false => exact iff_of_false nofun (apart ‹_›)
  · split
    · cases b with
      | true => exact iff_of_false nofun ‹_›
      | false => exact iff_of_true rfl ‹_›
    · cases b with
      | true => exact iff_of_false nofun ‹_›
      | false => exact iff_of_false nofun ‹_›

namespace Settings

/-! ### One field -/

namespace Kind

/-- The text is a value of the kind. An empty one may also stand for no place. -/
def Spells : (kind : Kind) → String → kind.Value → Prop
  | text, raw, value => value = raw
  | place, raw, value => value = some raw ∨ (raw = "" ∧ value = none)
  | backend, raw, value => raw = value.name
  | count _, raw, value => SpellsCount raw value
  | flag, raw, value => SpellsSwitch raw value

/-- What a variable with this text puts in the place of a value. -/
def replaced : (kind : Kind) → String → kind.Value → Except String kind.Value
  | text, raw, _ => .ok raw
  | place, raw, old => .ok (if old.isNone && raw = "" then none else some raw)
  | backend, raw, _ =>
    match LogBackend.choices.lookup raw with
    | some found => .ok found
    | none => .error (Misfit.variant raw (LogBackend.choices.map (·.1))).message
  | count _, raw, _ =>
    match parseCount (Text.trimChars raw.toList) with
    | .ok n => .ok n
    | .error problem => .error problem.message
  | flag, raw, _ => parseSwitch raw

/-- The old value matters only for a place, under an empty text. -/
theorem settled_or (kind : Kind) (raw : String) : (kind = place → raw ≠ "") ∨ (kind = place ∧ raw = "") :=
  (Classical.em (kind = place ∧ raw = "")).symm.imp_left fun other isPlace empty => other ⟨isPlace, empty⟩

theorem replaced_eq_ok {kind : Kind} {raw : String} {old new : kind.Value} (settled : kind = place → raw ≠ "") :
    kind.replaced raw old = .ok new ↔ kind.Spells raw new := by
  cases kind with
  | text => simp [replaced, Spells, eq_comm]
  | place => simp [replaced, Spells, settled rfl, eq_comm]
  | backend =>
    simp only [replaced, Spells, ← LogBackend.lookup_choices]
    cases LogBackend.choices.lookup raw <;> simp
  | count wanted =>
    simp only [replaced, Spells, ← parseCount_eq_ok]
    cases parseCount (Text.trimChars raw.toList) <;> simp
  | flag =>
    simp only [replaced, Spells]
    exact parseSwitch_eq_ok

theorem replaced_place {old new : Option String} :
    place.replaced "" old = .ok new ↔ new = if old = none then none else some "" := by
  cases old <;> simp [replaced, eq_comm]

theorem replaced_congr {kind : Kind} {raw : String} (settled : kind = place → raw ≠ "") (old other : kind.Value) :
    kind.replaced raw old = kind.replaced raw other := by
  cases kind with
  | place => simp [replaced, settled rfl]
  | _ => rfl

theorem spells_of_replaced {kind : Kind} {raw : String} {old new : kind.Value} (made : kind.replaced raw old = .ok new) :
    kind.Spells raw new := by
  rcases settled_or kind raw with settled | ⟨rfl, rfl⟩
  · exact (replaced_eq_ok settled).mp made
  · rw [replaced_place.mp made]
    cases old with
    | none => exact .inr ⟨rfl, rfl⟩
    | some _ => exact .inl rfl

/-- Whether a text is accepted does not depend on the old value. -/
theorem exists_replaced {kind : Kind} {raw : String} {old : kind.Value} :
    (∃ new, kind.replaced raw old = .ok new) ↔ ∃ value, kind.Spells raw value := by
  refine ⟨fun ⟨new, made⟩ => ⟨new, spells_of_replaced made⟩, fun ⟨value, spells⟩ => ?_⟩
  rcases settled_or kind raw with settled | ⟨rfl, rfl⟩
  · exact ⟨value, (replaced_eq_ok settled).mpr spells⟩
  · exact ⟨_, replaced_place.mpr rfl⟩

end Kind

namespace Field

def override (field : Field) : Override :=
  ⟨field.name, fun raw s => (field.kind.replaced raw (field.get s)).map fun x => field.put x s⟩

/-- The variable of a field. -/
def envName (field : Field) : String := field.override.envName

/-- The value of a field under an environment. -/
def under (env : String → Option String) (field : Field) (s : Settings) : Except String field.kind.Value :=
  match env field.envName with
  | none => .ok (field.get s)
  | some raw => field.kind.replaced raw (field.get s)

section Under
variable {env : String → Option String} {field : Field} {s t : Settings}

theorem under_unset (unset : env field.envName = none) : field.under env s = .ok (field.get s) := by rw [under, unset]

theorem under_set {raw : String} (set : env field.envName = some raw) :
    field.under env s = field.kind.replaced raw (field.get s) := by rw [under, set]

theorem exists_under :
    (∃ x, field.under env s = .ok x) ↔ ∀ raw, env field.envName = some raw → ∃ x, field.kind.Spells raw x := by
  cases found : env field.envName with
  | none => simp [under_unset found]
  | some raw => simp [under_set found, Kind.exists_replaced]

/-- The variable of a field changes this field alone. -/
theorem applyFrom_eq_ok {blamed : String} :
    field.override.applyFrom env blamed s = .ok t ↔ ∃ x, field.under env s = .ok x ∧ t = field.put x s := by
  unfold Override.applyFrom
  cases found : env field.override.envName with
  | none => simp [under_unset found, eq_comm]
  | some raw =>
    have applied : field.override.apply raw s = (field.kind.replaced raw (field.get s)).map fun x => field.put x s := rfl
    simp only [under_set found, applied]
    cases field.kind.replaced raw (field.get s) <;> simp [Except.map, eq_comm]

theorem applyFrom_bind_eq_ok {α : Type} {blamed : String} {next : Settings → Except SettingsError α} {result : α} :
    (field.override.applyFrom env blamed s >>= next) = .ok result ↔
      ∃ x, field.under env s = .ok x ∧ next (field.put x s) = .ok result := by
  cases step : field.override.applyFrom env blamed s with
  | ok changed =>
    obtain ⟨x, isValue, rfl⟩ := applyFrom_eq_ok.mp step
    simp only [isValue, Except.ok.injEq, exists_eq_left']
    rfl
  | error problem =>
    refine iff_of_false nofun ?_
    rintro ⟨x, isValue, -⟩
    have done : field.override.applyFrom env blamed s = .ok _ := applyFrom_eq_ok.mpr ⟨x, isValue, rfl⟩
    rw [step] at done
    cases done

/-- A failure names what is blamed, and the text does not fit the field. -/
theorem blamed_of_applyFrom {blamed : String} {problem : SettingsError}
    (failed : field.override.applyFrom env blamed s = .error problem) :
    ∃ raw reason, env field.envName = some raw ∧ (∀ x, ¬ field.kind.Spells raw x) ∧
      problem = .invalidOverride blamed reason := by
  unfold Override.applyFrom at failed
  cases found : env field.override.envName with
  | none =>
    rw [found] at failed
    cases failed
  | some raw =>
    have applied : field.override.apply raw s = (field.kind.replaced raw (field.get s)).map fun x => field.put x s := rfl
    simp only [found, applied] at failed
    cases made : field.kind.replaced raw (field.get s) with
    | ok x =>
      rw [made] at failed
      cases failed
    | error reason =>
      rw [made] at failed
      refine ⟨raw, reason, found, fun x spells => ?_, (Except.error.inj failed).symm⟩
      obtain ⟨_, accepted⟩ := Kind.exists_replaced.mpr ⟨x, spells⟩
      rw [made] at accepted
      cases accepted

theorem under_put_other {other : Field} (different : field ≠ other) (x : field.kind.Value) :
    other.under env (field.put x s) = other.under env s := by
  unfold under
  rw [get_put_other different]

end Under
end Field

namespace Override

theorem count_eq (name : String) (set : UInt64 → Settings → Settings) :
    count name set = ⟨name, fun raw s =>
      (match parseCount (Text.trimChars raw.toList) with
      | .ok n => Except.ok n
      | .error problem => .error problem.message).map fun n => set n s⟩ := by
  unfold count
  congr
  funext raw s
  cases parseCount (Text.trimChars raw.toList) <;> rfl

theorem logDir_eq : logDir = Field.logDir.override := by
  unfold logDir Field.override
  congr
  funext raw s
  obtain ⟨_, dir⟩ := s
  cases dir with
  | none => by_cases raw = "" <;> simp_all [Kind.replaced, Except.map, Field.get, Field.put]
  | some _ => rfl

theorem commandLog_eq : commandLog = Field.commandLog.override := by
  unfold commandLog Field.override
  congr
  funext raw s
  simp only [Kind.replaced]
  cases LogBackend.choices.lookup raw <;> rfl

/-- The fields of the overrides, in the order in which their variables are looked at. -/
def fields : List Field := [.authorityTimeoutSecs, .cleanupGraceSecs, .cleanupIntervalSecs, .cleanupPageSize,
  .consumerRetryBaseMs, .consumerRetryWindowSecs, .databasePath, .debug, .groupId, .kafkaUrl, .logDir, .logLevel,
  .memoryLogPartitions, .permissionsAdminToken, .permissionsUrl, .processTopic, .runStartupMigration]

theorem all_eq : all = fields.map Field.override := by
  simp only [all, count_eq, logDir_eq]
  rfl

end Override

/-! ### All fields -/

/-- The fields as they are overridden, with what is blamed where one is refused. -/
def steps : List (Field × String) := Override.fields.map (fun field => (field, field.envName)) ++ [(.commandLog, "PMR_*")]

variable {env : String → Option String} {s t : Settings}

theorem withOverrides_eq :
    s.withOverrides env = steps.foldlM (fun s step => step.1.override.applyFrom env step.2 s) s := by
  unfold withOverrides
  rw [Override.all_eq, Override.commandLog_eq, List.foldlM_map, steps, List.foldlM_append, List.foldlM_map]
  simp only [List.foldlM_cons, List.foldlM_nil, bind_pure]
  rfl

/-- Steps for different fields give each of them its value and leave the others. -/
theorem run_eq_ok {steps : List (Field × String)} (distinct : (steps.map (·.1)).Nodup) :
    steps.foldlM (fun s step => step.1.override.applyFrom env step.2 s) s = .ok t ↔
      ∀ field, if field ∈ steps.map (·.1) then field.under env s = .ok (field.get t) else field.get t = field.get s := by
  induction steps generalizing s with
  | nil =>
    show Except.ok s = .ok t ↔ _
    simp only [Except.ok.injEq, List.map_nil, List.not_mem_nil, ↓reduceIte]
    exact ⟨fun same _ => same ▸ rfl, fun same => ext_fields fun field => (same field).symm⟩
  | cons step more ih =>
    obtain ⟨first, blamed⟩ := step
    obtain ⟨fresh, distinct⟩ := List.nodup_cons.mp distinct
    rw [List.foldlM_cons, Field.applyFrom_bind_eq_ok]
    simp only [ih distinct, List.map_cons, List.mem_cons]
    constructor
    · -- the later steps leave the first field, and the first step leaves what they look at
      rintro ⟨x, isValue, further⟩ field
      by_cases isFirst : field = first
      · subst isFirst
        have kept := further field
        rw [if_neg fresh, Field.get_put] at kept
        rwa [if_pos (.inl rfl), kept]
      · have kept := further field
        rw [Field.under_put_other (Ne.symm isFirst), Field.get_put_other (Ne.symm isFirst)] at kept
        simpa only [isFirst, false_or] using kept
    · -- the first step gave its field the value that it has in the end
      intro each
      refine ⟨first.get t, by simpa using each first, fun field => ?_⟩
      by_cases isFirst : field = first
      · subst isFirst
        rw [if_neg fresh, Field.get_put]
      · rw [Field.under_put_other (Ne.symm isFirst), Field.get_put_other (Ne.symm isFirst)]
        simpa only [isFirst, false_or] using each field

/-- What is blamed belongs to a field whose variable does not fit it. -/
theorem blamed_of_run {steps : List (Field × String)} {problem : SettingsError}
    (failed : steps.foldlM (fun s step => step.1.override.applyFrom env step.2 s) s = .error problem) :
    ∃ step ∈ steps, ∃ raw reason, env step.1.envName = some raw ∧ (∀ x, ¬ step.1.kind.Spells raw x) ∧
      problem = .invalidOverride step.2 reason := by
  induction steps generalizing s with
  | nil => cases failed
  | cons step more ih =>
    rw [List.foldlM_cons] at failed
    cases first : step.1.override.applyFrom env step.2 s with
    | ok changed =>
      rw [first] at failed
      obtain ⟨later, member, blames⟩ := ih failed
      exact ⟨later, List.mem_cons_of_mem _ member, blames⟩
    | error reason =>
      rw [first] at failed
      obtain rfl := Except.error.inj failed
      exact ⟨step, List.mem_cons_self, Field.blamed_of_applyFrom first⟩

theorem withOverrides_eq_ok : s.withOverrides env = .ok t ↔ ∀ field : Field, field.under env s = .ok (field.get t) := by
  have every (field : Field) : field ∈ steps.map (·.1) := by cases field <;> decide
  rw [withOverrides_eq, run_eq_ok (by decide)]
  simp only [every, ↓reduceIte]

/-- They exist where each field has a value. -/
theorem exists_withOverrides :
    (∃ t, s.withOverrides env = .ok t) ↔ ∀ field : Field, ∃ x, field.under env s = .ok x := by
  constructor
  · rintro ⟨t, made⟩ field
    exact ⟨_, withOverrides_eq_ok.mp made field⟩
  · intro each
    choose values isValue using each
    exact ⟨ofFields values, withOverrides_eq_ok.mpr fun field => by rw [isValue, get_ofFields]⟩

/-! ### Which fields are replaced -/

/-- A variable that is set holds no value of the kind of its field. -/
def Misfits (env : String → Option String) : Prop :=
  ∃ (field : Field) (raw : String), env field.envName = some raw ∧ ∀ x, ¬ field.kind.Spells raw x

/-- Whether the variables can be taken does not depend on the settings. -/
theorem exists_withOverrides_iff : (∃ t, s.withOverrides env = .ok t) ↔ ¬ Misfits env := by
  simp only [exists_withOverrides, Field.exists_under, Misfits]
  push Not
  rfl

/-- The error of an override names the variable that does not fit, or all of them where it is that of the command log. -/
theorem withOverrides_blames {problem : SettingsError} (failed : s.withOverrides env = .error problem) :
    ∃ field raw reason, env (Field.envName field) = some raw ∧ (∀ x, ¬ field.kind.Spells raw x) ∧
      problem = .invalidOverride (if field = .commandLog then "PMR_*" else field.envName) reason := by
  rw [withOverrides_eq] at failed
  obtain ⟨⟨field, blamed⟩, member, raw, reason, set, misfit, rfl⟩ := blamed_of_run failed
  have named : blamed = if field = .commandLog then "PMR_*" else field.envName := by
    rcases List.mem_append.mp member with plain | last
    · obtain ⟨other, listed, same⟩ := List.mem_map.mp plain
      obtain ⟨rfl, rfl⟩ := Prod.mk.inj same
      rw [if_neg]
      rintro rfl
      revert listed
      decide
    · obtain ⟨rfl, rfl⟩ := Prod.mk.inj (List.mem_singleton.mp last)
      rw [if_pos rfl]
  exact ⟨field, raw, reason, set, misfit, by rw [named]⟩

theorem eq_logDir {field : Field} (isPlace : field.kind = .place) : field = .logDir := by
  cases field with
  | logDir => rfl
  | _ => cases isPlace

theorem get_logDir_of_empty (empty : env Field.logDir.envName = some "") (made : s.withOverrides env = .ok t) :
    t.logDir = if s.logDir = none then none else some "" := by
  have value := withOverrides_eq_ok.mp made .logDir
  rw [Field.under_set empty] at value
  exact Kind.replaced_place.mp value

/-- Overrides succeed for all settings or for none. The fields that are overridden have the same values for both settings,
    unless the text for the directory of the log is empty and only one of the settings has such a directory. -/
theorem overrides_agree_iff (env : String → Option String) (s t : Settings) :
    ((∃ changed, s.withOverrides env = .ok changed) ↔ ∃ changed, t.withOverrides env = .ok changed) ∧
    ∀ changed changed', s.withOverrides env = .ok changed → t.withOverrides env = .ok changed' →
      ((∀ field : Field, env field.envName ≠ none → field.get changed = field.get changed') ↔
        (env Field.logDir.envName = some "" → (s.logDir = none ↔ t.logDir = none))) := by
  refine ⟨exists_withOverrides_iff.trans exists_withOverrides_iff.symm, fun changed changed' made madeToo => ⟨?_, ?_⟩⟩
  · intro agree empty
    have same : changed.logDir = changed'.logDir := agree .logDir (by simp [empty])
    rw [get_logDir_of_empty empty made, get_logDir_of_empty empty madeToo] at same
    by_cases s.logDir = none <;> by_cases t.logDir = none <;> simp_all
  · intro alike field isSet
    obtain ⟨raw, set⟩ := Option.ne_none_iff_exists'.mp isSet
    have value := withOverrides_eq_ok.mp made field
    have valueToo := withOverrides_eq_ok.mp madeToo field
    rw [Field.under_set set] at value valueToo
    rcases Kind.settled_or field.kind raw with settled | ⟨isPlace, rfl⟩
    · rw [Kind.replaced_congr settled _ (field.get t), valueToo] at value
      exact (Except.ok.inj value).symm
    · obtain rfl := eq_logDir isPlace
      show changed.logDir = changed'.logDir
      rw [get_logDir_of_empty set made, get_logDir_of_empty set madeToo]
      simp only [alike set]

theorem overrides_agree_iff_directories :
    let env := fun name => if name = "PMR_LOG_DIR" then some "" else none
    ({ logDir := some "/x" } : Settings).withOverrides env = .ok { logDir := some "" } ∧
      ({ logDir := some "/y", groupId := "g" } : Settings).withOverrides env = .ok { logDir := some "", groupId := "g" } ∧
      ∀ field : Field, env field.envName ≠ none →
        field.get { logDir := some "" } = field.get ({ logDir := some "", groupId := "g" } : Settings) := by
  intro env
  have made : ({ logDir := some "/x" } : Settings).withOverrides env = .ok { logDir := some "" } := by decide
  have madeToo : ({ logDir := some "/y", groupId := "g" } : Settings).withOverrides env =
      .ok { logDir := some "", groupId := "g" } := by decide
  exact ⟨made, madeToo, ((overrides_agree_iff env _ _).2 _ _ made madeToo).mpr fun _ => by decide⟩

/-- An empty text for the directory of the log leaves it missing, but does not remove one. -/
theorem overrides_disagree :
    let env := fun name => if name = "PMR_LOG_DIR" then some "" else none
    ({} : Settings).withOverrides env = .ok {} ∧
      ({ logDir := some "/x" } : Settings).withOverrides env = .ok { logDir := some "" } ∧
      env Field.logDir.envName ≠ none ∧
      Field.logDir.get {} ≠ Field.logDir.get ({ logDir := some "" } : Settings) := by
  decide

end Settings
end ModelDepot
