import ModelDepot.Duration

/-!
Repeated attempts with waits that grow by one unit each time. Another attempt is made only while
its wait ends within a window that is counted from the first attempt.
-/
namespace ModelDepot

structure RetryPolicy where
  baseUnit : Duration := .ofSeconds 1
  window : Duration := .ofSeconds 600
  deriving DecidableEq, Repr

/-- The largest number of attempts that is counted. -/
def maxAttempts : Nat := UInt32.size - 1

namespace RetryPolicy

/-- The wait after the given number of attempts. -/
def wait (policy : RetryPolicy) (attempts : Nat) : Duration := policy.baseUnit.times attempts

/-- What follows a failed attempt. -/
inductive Verdict where
  | retryAfter (wait : Duration)
  | giveUp
  | overflow
  deriving DecidableEq, Repr

/-- Another attempt follows while its wait ends before the window does. -/
def verdict (policy : RetryPolicy) (elapsed : Duration) (attempts : Nat) : Verdict :=
  let wait := policy.wait attempts
  match elapsed.add? wait with
  | none => .overflow
  | some ending => if policy.window ≤ ending then .giveUp else .retryAfter wait

/-- More attempts than are made when each takes some time; without time and waits there is no such
    number. -/
def bound? (policy : RetryPolicy) (takes : Duration) : Option Nat :=
  let step := max policy.baseUnit.nanos takes.nanos
  if step = 0 then none else some (policy.window.nanos / step + 2)

end RetryPolicy

/-- How repeated attempts ended. -/
inductive RetryOutcome (ε : Type) where
  | succeeded (attempts : Nat)
  | exhausted (attempts : Nat) (lastError : ε)
  | interrupted (attempts : Nat) (lastError : ε)
  | overflowed (attempts : Nat)
  deriving DecidableEq, Repr

/-- What one attempt will take and answer. -/
structure Attempt (ε : Type) where
  takes : Duration
  result : Except ε Unit

/-- A course of attempts: when each one started, and the outcome with its time, or nothing when
    the attempts at hand did not suffice. -/
structure RetryRun (ε : Type) where
  starts : List Duration
  ended : Option (RetryOutcome ε × Duration)

namespace Retry

/-- The course from a given time on. A shutdown during a wait, its last moment included,
    cuts the wait short; an attempt under way is always finished. -/
def runFrom {ε : Type} (policy : RetryPolicy) (shutdown : Option Duration) (now : Duration)
    (made : Nat) (starts : List Duration) : List (Attempt ε) → RetryRun ε
  | [] => ⟨starts.reverse, none⟩
  | attempt :: more =>
    let attempts := min (made + 1) maxAttempts
    let starts := now :: starts
    let now : Duration := ⟨now.nanos + attempt.takes.nanos⟩
    let stop (outcome : RetryOutcome ε) (time : Duration) : RetryRun ε :=
      ⟨starts.reverse, some (outcome, time)⟩
    match attempt.result with
    | .ok () => stop (.succeeded attempts) now
    | .error failure =>
      match policy.verdict now attempts with
      | .overflow => stop (.overflowed attempts) now
      | .giveUp => stop (.exhausted attempts failure) now
      | .retryAfter wait =>
        let next : Duration := ⟨now.nanos + wait.nanos⟩
        match shutdown with
        | some time =>
          if time ≤ now then stop (.interrupted attempts failure) now
          else if time ≤ next then stop (.interrupted attempts failure) time
          else runFrom policy shutdown next attempts starts more
        | none => runFrom policy shutdown next attempts starts more

/-- The course of the attempts under the policy, with the time of a shutdown if there is one. -/
def run {ε : Type} (policy : RetryPolicy) (shutdown : Option Duration)
    (attempts : List (Attempt ε)) : RetryRun ε :=
  runFrom policy shutdown .zero 0 [] attempts

end Retry
end ModelDepot
