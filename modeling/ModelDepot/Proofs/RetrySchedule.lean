import Mathlib.Order.Bounds.Basic
import Mathlib.Tactic.Ring
import ModelDepot.Retry

/-!
When repeated attempts are made, and how they end. What the attempts take and the waits between them settle when
each one starts (`startOf`), and the first attempt after which the course does not go on settles the end (`Follows`).
Main statement: the waits grow by the unit, an attempt follows another one only while its wait ends within the window,
each outcome is given in its own case, and the number of attempts is bounded by that of the waits that fill the window
(`run_keeps_schedule`).
-/
namespace ModelDepot

namespace RetryPolicy

/-- The least number of attempts whose waits fill the window. -/
def Bound (policy : RetryPolicy) (bound : Nat) : Prop :=
  IsLeast {n | 1 ≤ n ∧ policy.window.nanos ≤ policy.baseUnit.nanos * n * (n + 1) / 2} bound

end RetryPolicy

variable {ε : Type}

/-- The number of attempts that the outcome tells. -/
def RetryOutcome.attempts : RetryOutcome ε → Nat
  | succeeded attempts => attempts
  | exhausted attempts _ => attempts
  | interrupted attempts _ => attempts
  | overflowed attempts => attempts

namespace RetryRun

/-- The attempt of this number, counted from one, was made, and ended at this time with this result. -/
def Ends (course : RetryRun ε) (attempts : List (Attempt ε)) (number : Nat) (time : Duration)
    (result : Except ε Unit) : Prop :=
  ∃ before start attempt, number = before + 1 ∧ course.starts[before]? = some start ∧
    attempts[before]? = some attempt ∧ time.nanos = start.nanos + attempt.takes.nanos ∧ result = attempt.result

/-- The times of the course are those of exact arithmetic: no sum of them passed the longest time. -/
def Exact (course : RetryRun ε) (policy : RetryPolicy) : Prop :=
  policy.baseUnit ≤ .longest ∧ ∀ number time, course.ended ≠ some (.overflowed number, time)

/-- What is promised of a course of attempts. Times are counted from its start. -/
structure KeepsSchedule (course : RetryRun ε) (policy : RetryPolicy) (shutdown : Option Duration)
    (attempts : List (Attempt ε)) : Prop where
  /-- The first attempt starts at once. -/
  first : attempts ≠ [] → course.starts[0]? = some .zero
  /-- Every other one starts as many units after the one before it failed as there were attempts, within the window. -/
  spaced (number : Nat) (start : Duration) : course.starts[number + 1]? = some start →
    ∃ failed failure, course.Ends attempts (number + 1) failed (.error failure) ∧
      start.nanos = failed.nanos + policy.baseUnit.nanos * (number + 1) ∧ start < policy.window
  /-- The first attempt that succeeds is the last one. -/
  succeeded (number : Nat) (time : Duration) : course.ended = some (.succeeded number, time) ↔
    course.Ends attempts number time (.ok ()) ∧
      ∀ earlier, earlier < number → ∀ ending, ¬ course.Ends attempts earlier ending (.ok ())
  /-- The attempts are given up with one that fails when its wait would reach the end of the window. -/
  exhausted (number : Nat) (failure : ε) (time : Duration) : course.ended = some (.exhausted number failure, time) ↔
    course.Ends attempts number time (.error failure) ∧
      policy.window.nanos ≤ time.nanos + policy.baseUnit.nanos * number
  /-- A wait is cut short when a shutdown is requested before it ends. A request at its last moment is seen before the
      end of the wait is. -/
  interrupted (number : Nat) (failure : ε) (time : Duration) :
    course.ended = some (.interrupted number failure, time) ↔
      ∃ failed request, course.Ends attempts number failed (.error failure) ∧
        failed.nanos + policy.baseUnit.nanos * number < policy.window.nanos ∧ shutdown = some request ∧
        request.nanos ≤ failed.nanos + policy.baseUnit.nanos * number ∧ time.nanos = max failed.nanos request.nanos
  /-- No attempt is made after the one that an outcome tells. -/
  last (outcome : RetryOutcome ε) (time : Duration) : course.ended = some (outcome, time) →
    course.starts.length = outcome.attempts
  /-- Without an outcome every attempt at hand was made. -/
  unended : course.ended = none → course.starts.length = attempts.length
  /-- As many attempts as fill the window bring the course to its end, and no fewer where nothing takes time and nothing
      else ends it. -/
  bounded : ∃ bound, policy.Bound bound ∧ course.starts.length ≤ bound ∧
    (bound ≤ attempts.length → course.ended ≠ none ∧
      ((∀ attempt ∈ attempts, attempt.takes = .zero ∧ ∃ failure, attempt.result = .error failure) →
        shutdown = none → course.starts.length = bound))

end RetryRun

namespace Retry
variable {policy : RetryPolicy} {shutdown : Option Duration} {attempts : List (Attempt ε)}

/-! ### What the attempts settle -/

/-- When the next attempt starts after this many: they and the waits behind them are over. -/
def startOf (policy : RetryPolicy) (attempts : List (Attempt ε)) (made : Nat) : Nat :=
  ((attempts.take made).map (·.takes.nanos)).sum + policy.baseUnit.nanos * (made * (made + 1) / 2)

theorem triangle_succ (n : Nat) : (n + 1) * (n + 2) / 2 = n * (n + 1) / 2 + (n + 1) := by
  have twice : (n + 1) * (n + 2) = n * (n + 1) + 2 * (n + 1) := by ring
  rw [twice]
  omega

@[simp] theorem startOf_zero : startOf policy attempts 0 = 0 := by simp [startOf]

theorem startOf_succ (policy : RetryPolicy) {made : Nat} {attempt : Attempt ε} (next : attempts[made]? = some attempt) :
    startOf policy attempts (made + 1) =
      startOf policy attempts made + attempt.takes.nanos + policy.baseUnit.nanos * (made + 1) := by
  unfold startOf
  rw [List.take_add_one, next, triangle_succ, Nat.mul_add]
  simp only [Option.toList_some, List.map_append, List.map_cons, List.map_nil, List.sum_append, List.sum_cons,
    List.sum_nil]
  omega

/-- How an attempt ends the course, if it does: its number, when it ended, and its result settle it. -/
def stop (policy : RetryPolicy) (shutdown : Option Duration) (number ended : Nat) :
    Except ε Unit → Option (RetryOutcome ε × Duration)
  | .ok () => some (.succeeded number, ⟨ended⟩)
  | .error failure =>
    let next := ended + policy.baseUnit.nanos * number
    if Duration.longest.nanos < next then some (.overflowed number, ⟨ended⟩)
    else if policy.window.nanos ≤ next then some (.exhausted number failure, ⟨ended⟩)
    else
      match shutdown with
      | none => none
      | some request =>
        if request.nanos ≤ next then some (.interrupted number failure, ⟨max ended request.nanos⟩) else none

/-- How the attempt after this many ends the course, if it does. -/
def stopAt (policy : RetryPolicy) (shutdown : Option Duration) (attempts : List (Attempt ε)) (made : Nat) :
    Option (RetryOutcome ε × Duration) := do
  let attempt ← attempts[made]?
  stop policy shutdown (made + 1) (startOf policy attempts made + attempt.takes.nanos) attempt.result

/-- The attempts that are made up to a number start when they should. -/
def startsOf (policy : RetryPolicy) (attempts : List (Attempt ε)) (count : Nat) : List Duration :=
  (List.range count).map fun made => ⟨startOf policy attempts made⟩

/-- The course goes on up to the first attempt that ends it. -/
inductive Follows (policy : RetryPolicy) (shutdown : Option Duration) (attempts : List (Attempt ε)) : RetryRun ε → Prop
  | runsOut (onward : ∀ made < attempts.length, stopAt policy shutdown attempts made = none) :
    Follows policy shutdown attempts ⟨startsOf policy attempts attempts.length, none⟩
  | stops {made : Nat} {ending : RetryOutcome ε × Duration} (within : made < attempts.length)
      (onward : ∀ earlier < made, stopAt policy shutdown attempts earlier = none)
      (stopped : stopAt policy shutdown attempts made = some ending) :
    Follows policy shutdown attempts ⟨startsOf policy attempts (made + 1), some ending⟩

/-! ### The course follows it -/

/-- The verdict on a failed attempt, by exact times. -/
theorem verdict_eq (positive : 0 < policy.baseUnit.nanos) (possible : policy.baseUnit ≤ .longest) {made ended : Nat}
    (late : made ≠ 0 → policy.baseUnit.nanos ≤ ended) :
    policy.verdict ⟨ended⟩ (made + 1) =
      if Duration.longest.nanos < ended + policy.baseUnit.nanos * (made + 1) then .overflow
      else if policy.window.nanos ≤ ended + policy.baseUnit.nanos * (made + 1) then .giveUp
      else .retryAfter ⟨policy.baseUnit.nanos * (made + 1)⟩ := by
  have possible : policy.baseUnit.nanos ≤ Duration.longest.nanos := possible
  unfold RetryPolicy.verdict RetryPolicy.wait Duration.times Duration.add?
  by_cases saturates : Duration.longest.nanos < policy.baseUnit.nanos * (made + 1)
  · -- a wait that is cut to the longest time belongs to a later attempt, which did not fail at time zero
    have later : made ≠ 0 := by
      rintro rfl
      simp at saturates
      omega
    have failedLate := late later
    have overflows : Duration.longest.nanos < ended + policy.baseUnit.nanos * (made + 1) := by omega
    have refused : ¬ ended + Duration.longest.nanos ≤ Duration.longest.nanos := by omega
    simp [Nat.min_eq_right (Nat.le_of_lt saturates), overflows, refused]
  · rw [Nat.min_eq_left (Nat.le_of_not_lt saturates)]
    by_cases overflows : Duration.longest.nanos < ended + policy.baseUnit.nanos * (made + 1)
    · simp [overflows, Nat.not_le.mpr overflows]
    · simp only [Nat.le_of_not_lt overflows, overflows, ↓reduceIte]
      rfl

theorem late_startOf (policy : RetryPolicy) (attempts : List (Attempt ε)) {made : Nat} (later : made ≠ 0) :
    policy.baseUnit.nanos ≤ startOf policy attempts made := by
  have some : 1 ≤ made * (made + 1) / 2 := by
    have two : 1 * 2 ≤ made * (made + 1) := Nat.mul_le_mul (by omega) (by omega)
    omega
  have waited := Nat.mul_le_mul_left policy.baseUnit.nanos some
  unfold startOf
  omega

theorem startsOf_succ (made : Nat) :
    startsOf policy attempts (made + 1) = startsOf policy attempts made ++ [⟨startOf policy attempts made⟩] := by
  simp [startsOf, List.range_succ]

/-- One attempt: either it ends the course, or the next one starts after the wait. -/
theorem runFrom_cons (shutdown : Option Duration) (positive : 0 < policy.baseUnit.nanos)
    (possible : policy.baseUnit ≤ .longest) {made now : Nat} (few : made + 1 < UInt32.size) {attempt : Attempt ε}
    (late : made ≠ 0 → policy.baseUnit.nanos ≤ now + attempt.takes.nanos) (starts : List Duration)
    (more : List (Attempt ε)) :
    runFrom policy shutdown ⟨now⟩ made starts (attempt :: more) =
      match stop policy shutdown (made + 1) (now + attempt.takes.nanos) attempt.result with
      | some ending => ⟨(⟨now⟩ :: starts).reverse, some ending⟩
      | none => runFrom policy shutdown ⟨now + attempt.takes.nanos + policy.baseUnit.nanos * (made + 1)⟩ (made + 1)
          (⟨now⟩ :: starts) more := by
  have counted : min (made + 1) maxAttempts = made + 1 := by
    have : maxAttempts = UInt32.size - 1 := rfl
    omega
  simp only [runFrom, counted, verdict_eq positive possible late]
  cases attempt.result with
  | ok => rfl
  | error failure =>
    generalize now + attempt.takes.nanos = ended
    simp only [stop]
    by_cases overflows : Duration.longest.nanos < ended + policy.baseUnit.nanos * (made + 1)
    · simp only [overflows, ↓reduceIte]
    by_cases full : policy.window.nanos ≤ ended + policy.baseUnit.nanos * (made + 1)
    · simp only [overflows, full, ↓reduceIte]
    simp only [overflows, full, ↓reduceIte]
    cases shutdown with
    | none => rfl
    | some request =>
      obtain ⟨request⟩ := request
      show (if request ≤ ended then _ else if request ≤ ended + policy.baseUnit.nanos * (made + 1) then _ else _) = _
      by_cases already : request ≤ ended
      · have soon : request ≤ ended + policy.baseUnit.nanos * (made + 1) := Nat.le_trans already (Nat.le_add_right _ _)
        simp only [already, soon, ↓reduceIte, Nat.max_eq_left already]
      · have later : ended ≤ request := Nat.le_of_not_le already
        by_cases soon : request ≤ ended + policy.baseUnit.nanos * (made + 1)
        · simp only [already, soon, ↓reduceIte, Nat.max_eq_right later]
        · simp only [already, soon, ↓reduceIte]

/-- From any attempt on, the rest of the course is as the attempts settle it. -/
theorem runFrom_follows (shutdown : Option Duration) (positive : 0 < policy.baseUnit.nanos)
    (possible : policy.baseUnit ≤ .longest) (few : attempts.length < UInt32.size)
    {done rest : List (Attempt ε)} (split : attempts = done ++ rest)
    (onward : ∀ made < done.length, stopAt policy shutdown attempts made = none) :
    Follows policy shutdown attempts (runFrom policy shutdown ⟨startOf policy attempts done.length⟩ done.length
      (startsOf policy attempts done.length).reverse rest) := by
  induction rest generalizing done with
  | nil =>
    rw [List.append_nil] at split
    subst split
    rw [runFrom, List.reverse_reverse]
    exact .runsOut onward
  | cons attempt more ih =>
    have next : attempts[done.length]? = some attempt := by simp [split]
    have within : done.length < attempts.length := by simp [split]
    have stopped : stopAt policy shutdown attempts done.length =
        stop policy shutdown (done.length + 1) (startOf policy attempts done.length + attempt.takes.nanos)
          attempt.result := by simp [stopAt, next]
    have late : done.length ≠ 0 →
        policy.baseUnit.nanos ≤ startOf policy attempts done.length + attempt.takes.nanos := by
      intro later
      have := late_startOf policy attempts later
      omega
    have starts : ⟨startOf policy attempts done.length⟩ :: (startsOf policy attempts done.length).reverse =
        (startsOf policy attempts (done.length + 1)).reverse := by simp [startsOf_succ]
    rw [runFrom_cons shutdown positive possible (by omega) late, ← stopped, starts, ← startOf_succ policy next]
    cases ending : stopAt policy shutdown attempts done.length with
    | some final =>
      rw [List.reverse_reverse]
      exact .stops within onward ending
    | none =>
      have furtherSplit : attempts = (done ++ [attempt]) ++ more := by simp [split]
      have further := ih furtherSplit (by
        intro made before
        rw [List.length_append, List.length_singleton] at before
        by_cases last : made = done.length
        · rw [last, ending]
        · exact onward made (by omega))
      simpa using further

theorem run_follows (shutdown : Option Duration) (positive : 0 < policy.baseUnit.nanos)
    (possible : policy.baseUnit ≤ .longest) (few : attempts.length < UInt32.size) :
    Follows policy shutdown attempts (run policy shutdown attempts) := by
  have split : attempts = [] ++ attempts := rfl
  have whole := runFrom_follows shutdown positive possible few split fun made before => absurd before (Nat.not_lt_zero made)
  rw [List.length_nil, startOf_zero] at whole
  exact whole

/-! ### What ends a course -/

section
variable {number ended : Nat} {result : Except ε Unit} {ending : RetryOutcome ε × Duration}

/-- An attempt ends the course in one of four ways. -/
inductive Stops (policy : RetryPolicy) (shutdown : Option Duration) (number ended : Nat) :
    Except ε Unit → RetryOutcome ε × Duration → Prop
  | succeeds : Stops policy shutdown number ended (.ok ()) (.succeeded number, ⟨ended⟩)
  | overflows {failure : ε} (beyond : Duration.longest.nanos < ended + policy.baseUnit.nanos * number) :
    Stops policy shutdown number ended (.error failure) (.overflowed number, ⟨ended⟩)
  | exhausts {failure : ε} (within : ended + policy.baseUnit.nanos * number ≤ Duration.longest.nanos)
      (full : policy.window.nanos ≤ ended + policy.baseUnit.nanos * number) :
    Stops policy shutdown number ended (.error failure) (.exhausted number failure, ⟨ended⟩)
  | isInterrupted {failure : ε} {request : Duration}
      (within : ended + policy.baseUnit.nanos * number ≤ Duration.longest.nanos)
      (fits : ended + policy.baseUnit.nanos * number < policy.window.nanos) (requested : shutdown = some request)
      (soon : request.nanos ≤ ended + policy.baseUnit.nanos * number) :
    Stops policy shutdown number ended (.error failure) (.interrupted number failure, ⟨max ended request.nanos⟩)

theorem stop_eq_some_iff :
    stop policy shutdown number ended result = some ending ↔ Stops policy shutdown number ended result ending := by
  constructor
  · intro stopped
    cases result with
    | ok =>
      obtain rfl := Option.some.inj stopped
      exact .succeeds
    | error failure =>
      simp only [stop] at stopped
      split at stopped
      · rename_i beyond
        obtain rfl := Option.some.inj stopped
        exact .overflows beyond
      rename_i within
      split at stopped
      · rename_i full
        obtain rfl := Option.some.inj stopped
        exact .exhausts (Nat.le_of_not_lt within) full
      rename_i fits
      split at stopped
      · cases stopped
      · rename_i request
        split at stopped
        · rename_i soon
          obtain rfl := Option.some.inj stopped
          exact .isInterrupted (Nat.le_of_not_lt within) (Nat.lt_of_not_le fits) rfl soon
        · cases stopped
  · intro stops
    cases stops with
    | succeeds => rfl
    | overflows beyond => simp [stop, beyond]
    | exhausts within full => simp [stop, Nat.not_lt.mpr within, full]
    | isInterrupted within fits requested soon =>
      simp [stop, requested, Nat.not_lt.mpr within, Nat.not_le.mpr fits, soon]

/-- An attempt behind which the course goes on. -/
theorem stop_eq_none (onward : stop policy shutdown number ended result = none) :
    (∃ failure, result = .error failure) ∧ ended + policy.baseUnit.nanos * number < policy.window.nanos := by
  cases result with
  | ok => cases onward
  | error failure =>
    refine ⟨⟨failure, rfl⟩, ?_⟩
    simp only [stop] at onward
    split at onward
    · cases onward
    split at onward
    · cases onward
    · omega

end

section
variable {course : RetryRun ε}

theorem getElem?_startsOf {count before : Nat} {start : Duration} :
    (startsOf policy attempts count)[before]? = some start ↔
      before < count ∧ start.nanos = startOf policy attempts before := by
  rw [startsOf, List.getElem?_map]
  obtain ⟨nanos⟩ := start
  by_cases within : before < count <;> simp [within, eq_comm]

/-- The attempts that were made are the first ones at hand, and they started when they should. -/
theorem Follows.starts_eq (follows : Follows policy shutdown attempts course) :
    course.starts = startsOf policy attempts course.starts.length ∧ course.starts.length ≤ attempts.length := by
  cases follows with
  | runsOut => simp [startsOf]
  | stops within => simpa [startsOf] using Nat.succ_le_of_lt within

theorem Follows.started_iff (follows : Follows policy shutdown attempts course) {before : Nat} {start : Duration} :
    course.starts[before]? = some start ↔
      before < course.starts.length ∧ start.nanos = startOf policy attempts before := by
  rw [follows.starts_eq.1, getElem?_startsOf, ← follows.starts_eq.1]

theorem Follows.ends_iff (follows : Follows policy shutdown attempts course) {number : Nat} {time : Duration}
    {result : Except ε Unit} :
    course.Ends attempts number time result ↔ ∃ before attempt, number = before + 1 ∧ before < course.starts.length ∧
      attempts[before]? = some attempt ∧ time.nanos = startOf policy attempts before + attempt.takes.nanos ∧
      result = attempt.result := by
  unfold RetryRun.Ends
  constructor
  · rintro ⟨before, start, attempt, rfl, started, made, lasts, rfl⟩
    obtain ⟨within, startIs⟩ := follows.started_iff.mp started
    exact ⟨before, attempt, rfl, within, made, by rw [lasts, startIs], rfl⟩
  · rintro ⟨before, attempt, rfl, within, made, lasts, rfl⟩
    exact ⟨before, ⟨startOf policy attempts before⟩, attempt, rfl, follows.started_iff.mpr ⟨within, rfl⟩, made, lasts, rfl⟩

theorem Follows.first (follows : Follows policy shutdown attempts course) (present : attempts ≠ []) :
    course.starts[0]? = some .zero := by
  have atHand : 0 < attempts.length := List.length_pos_iff.mpr present
  rw [follows.started_iff, startOf_zero]
  refine ⟨?_, rfl⟩
  cases follows with
  | runsOut => simpa [startsOf] using atHand
  | stops => simp [startsOf]

theorem Follows.length_of_unended (follows : Follows policy shutdown attempts course) (unended : course.ended = none) :
    course.starts.length = attempts.length := by
  cases follows with
  | runsOut => simp [startsOf]
  | stops => cases unended

/-- An attempt that ends the course is its last one. -/
theorem Follows.ended_of_ends (follows : Follows policy shutdown attempts course) {number : Nat} {time : Duration}
    {result : Except ε Unit} {ending : RetryOutcome ε × Duration} (ends : course.Ends attempts number time result)
    (stops : Stops policy shutdown number time.nanos result ending) :
    course.ended = some ending ∧ course.starts.length = number := by
  obtain ⟨before, attempt, rfl, within, made, lasts, rfl⟩ := follows.ends_iff.mp ends
  have stopped : stopAt policy shutdown attempts before = some ending := by
    rw [stopAt, made]
    rw [lasts] at stops
    exact stop_eq_some_iff.mpr stops
  cases follows with
  | runsOut onward =>
    rw [onward before (by simpa [startsOf] using within)] at stopped
    cases stopped
  | @stops last ending' _ onward stoppedThere =>
    have notLater : before ≤ last := by simpa [startsOf, Nat.lt_succ_iff] using within
    by_cases earlier : before < last
    · rw [onward before earlier] at stopped
      cases stopped
    · obtain rfl : before = last := by omega
      obtain rfl := Option.some.inj (stopped.symm.trans stoppedThere)
      simp [startsOf]

/-- A course ends with its last attempt. -/
theorem Follows.ends_of_ended (follows : Follows policy shutdown attempts course)
    {ending : RetryOutcome ε × Duration} (ended : course.ended = some ending) :
    ∃ time result, course.Ends attempts course.starts.length time result ∧
      Stops policy shutdown course.starts.length time.nanos result ending := by
  cases follows with
  | runsOut => cases ended
  | @stops last _ within onward stopped =>
    obtain rfl := Option.some.inj ended
    obtain ⟨attempt, made, stops⟩ := Option.bind_eq_some_iff.mp stopped
    have count : (startsOf policy attempts (last + 1)).length = last + 1 := by simp [startsOf]
    rw [stop_eq_some_iff] at stops
    refine ⟨⟨startOf policy attempts last + attempt.takes.nanos⟩, attempt.result, ?_, by rwa [count]⟩
    exact ⟨last, ⟨startOf policy attempts last⟩, attempt, count, getElem?_startsOf.mpr ⟨by omega, rfl⟩, made, rfl, rfl⟩

/-- Behind every attempt but the last one the course goes on. -/
theorem Follows.onward (follows : Follows policy shutdown attempts course) {made : Nat}
    (later : made + 1 < course.starts.length) : stopAt policy shutdown attempts made = none := by
  cases follows with
  | runsOut onward => exact onward made (by simp [startsOf] at later; omega)
  | stops _ onward => exact onward made (by simp [startsOf] at later; omega)

/-- An attempt follows another one that failed, after the wait, and within the window. -/
theorem Follows.spaced (follows : Follows policy shutdown attempts course) {number : Nat} {start : Duration}
    (started : course.starts[number + 1]? = some start) :
    ∃ failed failure, course.Ends attempts (number + 1) failed (.error failure) ∧
      start.nanos = failed.nanos + policy.baseUnit.nanos * (number + 1) ∧ start < policy.window := by
  obtain ⟨later, startIs⟩ := follows.started_iff.mp started
  have within : number < attempts.length := by
    have := follows.starts_eq.2
    omega
  have made : attempts[number]? = some attempts[number] := List.getElem?_eq_getElem within
  have onward := follows.onward later
  rw [stopAt, made] at onward
  obtain ⟨⟨failure, failed⟩, fits⟩ := stop_eq_none onward
  have next := startOf_succ policy made
  refine ⟨⟨startOf policy attempts number + attempts[number].takes.nanos⟩, failure, ?_, by rw [startIs, next], ?_⟩
  · exact follows.ends_iff.mpr ⟨number, attempts[number], rfl, by omega, made, rfl, failed.symm⟩
  · show start.nanos < policy.window.nanos
    omega

/-! ### How many attempts are made -/

theorem exists_bound (positive : 0 < policy.baseUnit.nanos) : ∃ bound, policy.Bound bound := by
  have filled : ∃ n, 1 ≤ n ∧ policy.window.nanos ≤ policy.baseUnit.nanos * n * (n + 1) / 2 := by
    refine ⟨policy.window.nanos + 1, by omega, ?_⟩
    have units : policy.window.nanos + 1 ≤ policy.baseUnit.nanos * (policy.window.nanos + 1) :=
      Nat.le_mul_of_pos_left _ positive
    have enough := Nat.mul_le_mul units (show 2 ≤ policy.window.nanos + 1 + 1 by omega)
    omega
  exact ⟨Nat.find filled, Nat.isLeast_find filled⟩

/-- The waits alone take this long. -/
theorem waits_le_startOf (policy : RetryPolicy) (attempts : List (Attempt ε)) (made : Nat) :
    policy.baseUnit.nanos * made * (made + 1) / 2 ≤ startOf policy attempts made := by
  have even : 2 ∣ made * (made + 1) := (Nat.even_mul_succ_self made).two_dvd
  rw [Nat.mul_assoc, Nat.mul_div_assoc _ even]
  unfold startOf
  omega

theorem Follows.length_le_bound (follows : Follows policy shutdown attempts course) {bound : Nat}
    (least : policy.Bound bound) : course.starts.length ≤ bound := by
  obtain ⟨⟨positive, filled⟩, -⟩ := least
  by_contra more
  obtain ⟨before, rfl⟩ : ∃ before, bound = before + 1 := ⟨bound - 1, by omega⟩
  have started : course.starts[before + 1]? = some ⟨startOf policy attempts (before + 1)⟩ :=
    follows.started_iff.mpr ⟨by omega, rfl⟩
  obtain ⟨failed, failure, -, -, within⟩ := follows.spaced started
  have within : startOf policy attempts (before + 1) < policy.window.nanos := within
  have waited := waits_le_startOf policy attempts (before + 1)
  omega

/-- As many attempts as fill the window bring the course to its end. -/
theorem Follows.ended_of_enough (follows : Follows policy shutdown attempts course) {bound : Nat}
    (least : policy.Bound bound) (enough : bound ≤ attempts.length) : course.ended ≠ none := by
  obtain ⟨⟨positive, filled⟩, -⟩ := least
  obtain ⟨before, rfl⟩ : ∃ before, bound = before + 1 := ⟨bound - 1, by omega⟩
  cases follows with
  | runsOut onward =>
    have made : attempts[before]? = some attempts[before] := List.getElem?_eq_getElem (by omega)
    have goesOn := onward before (by omega)
    rw [stopAt, made] at goesOn
    obtain ⟨-, fits⟩ := stop_eq_none goesOn
    have waited := waits_le_startOf policy attempts (before + 1)
    have next := startOf_succ policy made
    omega
  | stops => simp

/-- Where no attempt takes time, the waits alone settle when one starts. -/
theorem startOf_instant (instant : ∀ attempt ∈ attempts, attempt.takes = .zero) (made : Nat) :
    startOf policy attempts made = policy.baseUnit.nanos * made * (made + 1) / 2 := by
  have even : 2 ∣ made * (made + 1) := (Nat.even_mul_succ_self made).two_dvd
  have nothing : ((attempts.take made).map (·.takes.nanos)).sum = 0 := by
    rw [List.sum_eq_zero_iff_forall_eq_nat]
    intro nanos member
    obtain ⟨attempt, taken, rfl⟩ := List.mem_map.mp member
    rw [instant attempt (List.mem_of_mem_take taken)]
    rfl
  rw [startOf, nothing, Nat.zero_add, Nat.mul_assoc, Nat.mul_div_assoc _ even]

/-- Attempts that fail in no time are given up when the waits fill the window, and not before. -/
theorem Follows.bound_le_length (follows : Follows policy shutdown attempts course) (exact : course.Exact policy)
    {bound : Nat} (least : policy.Bound bound) (ended : course.ended ≠ none)
    (failing : ∀ attempt ∈ attempts, attempt.takes = .zero ∧ ∃ failure, attempt.result = .error failure)
    (undisturbed : shutdown = none) : bound ≤ course.starts.length := by
  obtain ⟨ending, endedSo⟩ := Option.ne_none_iff_exists'.mp ended
  obtain ⟨time, result, ends, stops⟩ := follows.ends_of_ended endedSo
  obtain ⟨before, attempt, count, within, made, lasts, rfl⟩ := follows.ends_iff.mp ends
  obtain ⟨instant, failure, failed⟩ := failing attempt (List.mem_of_getElem? made)
  rw [failed] at stops
  cases stops with
  | overflows => exact absurd endedSo (exact.2 _ _)
  | exhausts _ full =>
    have next := startOf_succ policy made
    rw [count, lasts] at full
    have filled : policy.window.nanos ≤ startOf policy attempts (before + 1) := by omega
    rw [startOf_instant fun attempt member => (failing attempt member).1] at filled
    rw [count]
    exact least.2 ⟨by omega, filled⟩
  | isInterrupted _ _ requested =>
    rw [undisturbed] at requested
    cases requested

/-- Under exact times an attempt that fails is followed by a time that is not beyond the longest one. -/
theorem Follows.inTime (follows : Follows policy shutdown attempts course) (exact : course.Exact policy) {number : Nat}
    {failed : Duration} {failure : ε} (ends : course.Ends attempts number failed (.error failure)) :
    failed.nanos + policy.baseUnit.nanos * number ≤ Duration.longest.nanos := by
  by_contra beyond
  obtain ⟨ended, -⟩ := follows.ended_of_ends ends (.overflows (Nat.lt_of_not_le beyond))
  exact exact.2 _ _ ended

theorem Follows.succeeded_iff (follows : Follows policy shutdown attempts course) {number : Nat} {time : Duration} :
    course.ended = some (.succeeded number, time) ↔ course.Ends attempts number time (.ok ()) ∧
      ∀ earlier, earlier < number → ∀ ending, ¬ course.Ends attempts earlier ending (.ok ()) := by
  constructor
  · intro ended
    obtain ⟨time, result, ends, stops⟩ := follows.ends_of_ended ended
    cases stops
    refine ⟨ends, fun earlier before ending endsToo => ?_⟩
    obtain ⟨-, count⟩ := follows.ended_of_ends endsToo .succeeds
    omega
  · rintro ⟨ends, -⟩
    exact (follows.ended_of_ends ends .succeeds).1

theorem Follows.exhausted_iff (follows : Follows policy shutdown attempts course) (exact : course.Exact policy)
    {number : Nat} {failure : ε} {time : Duration} :
    course.ended = some (.exhausted number failure, time) ↔ course.Ends attempts number time (.error failure) ∧
      policy.window.nanos ≤ time.nanos + policy.baseUnit.nanos * number := by
  constructor
  · intro ended
    obtain ⟨time, result, ends, stops⟩ := follows.ends_of_ended ended
    cases stops with
    | exhausts _ full => exact ⟨ends, full⟩
  · rintro ⟨ends, full⟩
    exact (follows.ended_of_ends ends (.exhausts (follows.inTime exact ends) full)).1

theorem Follows.interrupted_iff (follows : Follows policy shutdown attempts course) (exact : course.Exact policy)
    {number : Nat} {failure : ε} {time : Duration} :
    course.ended = some (.interrupted number failure, time) ↔
      ∃ failed request, course.Ends attempts number failed (.error failure) ∧
        failed.nanos + policy.baseUnit.nanos * number < policy.window.nanos ∧ shutdown = some request ∧
        request.nanos ≤ failed.nanos + policy.baseUnit.nanos * number ∧
        time.nanos = max failed.nanos request.nanos := by
  constructor
  · intro ended
    obtain ⟨failed, result, ends, stops⟩ := follows.ends_of_ended ended
    cases stops with
    | @isInterrupted _ request _ fits requested soon => exact ⟨failed, request, ends, fits, requested, soon, rfl⟩
  · rintro ⟨failed, request, ends, fits, requested, soon, timeIs⟩
    have ended := (follows.ended_of_ends ends (.isInterrupted (follows.inTime exact ends) fits requested soon)).1
    rwa [← timeIs] at ended

end

/-- Repeated attempts keep the schedule of their policy, whatever they take and answer and whenever a shutdown is
    requested. -/
theorem run_keeps_schedule (positive : 0 < policy.baseUnit.nanos) (few : attempts.length < UInt32.size)
    (exact : (run policy shutdown attempts).Exact policy) :
    (run policy shutdown attempts).KeepsSchedule policy shutdown attempts := by
  have follows := run_follows shutdown positive exact.1 few
  obtain ⟨bound, least⟩ := exists_bound positive
  constructor
  · exact follows.first
  · exact fun _ _ => follows.spaced
  · exact fun _ _ => follows.succeeded_iff
  · exact fun _ _ _ => follows.exhausted_iff exact
  · exact fun _ _ _ => follows.interrupted_iff exact
  · intro outcome time ended
    obtain ⟨_, _, _, stops⟩ := follows.ends_of_ended ended
    cases stops <;> rfl
  · exact follows.length_of_unended
  · refine ⟨bound, least, follows.length_le_bound least, fun enough => ?_⟩
    have ended := follows.ended_of_enough least enough
    exact ⟨ended, fun failing undisturbed => Nat.le_antisymm (follows.length_le_bound least)
      (follows.bound_le_length exact least ended failing undisturbed)⟩

/-- An attempt that takes no time, one that takes two seconds, and one that would succeed. -/
def slowing : List (Attempt String) :=
  [⟨.zero, .error "down"⟩, ⟨.ofSeconds 2, .error "slow"⟩, ⟨.zero, .ok ()⟩]

/-- The second wait is cut short at its last moment. -/
theorem run_keeps_schedule_slowing :
    let policy : RetryPolicy := ⟨.ofSeconds 1, .ofSeconds 10⟩
    let course := run policy (some (.ofSeconds 5)) slowing
    course.KeepsSchedule policy (some (.ofSeconds 5)) slowing ∧
      course.starts = [.zero, .ofSeconds 1] ∧ course.ended = some (.interrupted 2 "slow", .ofSeconds 5) := by
  intro policy course
  have ended : course.ended = some (.interrupted 2 "slow", .ofSeconds 5) := by decide
  have exact : course.Exact policy := by
    refine ⟨by decide, fun number time overflowed => ?_⟩
    rw [ended] at overflowed
    cases overflowed
  exact ⟨run_keeps_schedule (by decide) (by decide) exact, by decide, ended⟩

end Retry
end ModelDepot
