import Mathlib.Algebra.Ring.Int.Defs
import Mathlib.Algebra.Ring.Nat
import ModelDepot.Service
import ModelDepot.Proofs.DriftRepair

/-!
Which settings keep the times of a running system within their bounds. The verdict on a first attempt and the cutoff of a
cleanup pass are exact for all settings; the first pass of the cleanup loop is due within the clock only if the interval
is not too long, which no check of the settings asks for (`Settings.times_fit_iff`).
-/
namespace ModelDepot

theorem Duration.longest_nanos : Duration.longest.nanos = 2 ^ 64 * 1000000000 - 1 := rfl

theorem Duration.second_nanos : (Duration.nanosPerSecond : Int) = 1000000000 := rfl

theorem Instant.latest_nanos : Instant.latest.nanos = 2 ^ 63 * 1000000000 - 1 := rfl

@[simp]
theorem Duration.seconds_ofSeconds (n : Nat) : (Duration.ofSeconds n).seconds = n := Nat.mul_div_cancel n (by decide)

theorem RetryPolicy.verdict_of_sum {policy : RetryPolicy} {elapsed wait ending : Duration} {attempts : Nat}
    (waits : policy.wait attempts = wait) (sum : elapsed.add? wait = some ending) :
    policy.verdict elapsed attempts = if policy.window ≤ ending then .giveUp else .retryAfter wait := by
  unfold verdict
  simp only [waits, sum]

namespace Settings
open Duration (nanosPerSecond longest_nanos second_nanos)
open Instant (latest_nanos)

/-- A moment, or a time that has passed, in a running system. -/
def Reached (nanos : Int) : Prop := nanos < 2 ^ 62 * nanosPerSecond

theorem reached_iff {nanos : Int} : Reached nanos ↔ nanos < 2 ^ 62 * 1000000000 := Iff.rfl

/-- The wait after a first attempt. -/
def firstWait (settings : Settings) : Duration := .ofMillis settings.consumerRetryBaseMs.toNat

/-- At this moment the sums of times are those of exact arithmetic, but for a cutoff that ends with its range. -/
structure TimesFit (settings : Settings) (now : Instant) : Prop where
  verdict : ∀ elapsed : Duration, Reached elapsed.nanos → settings.retryPolicy.verdict elapsed 1 =
    if settings.retryPolicy.window ≤ ⟨elapsed.nanos + settings.firstWait.nanos⟩ then .giveUp
    else .retryAfter settings.firstWait
  start : ∀ loop, Service.cleanupLoop? settings = some loop →
    loop.begin? now = some ⟨now.nanos + settings.cleanupIntervalSecs.toNat * nanosPerSecond⟩
  cutoff : ∀ today : Int64, (Cleanup.cutoff settings.cleanupGrace today).toInt =
    max Int64.minValue.toInt (today.toInt - min (settings.cleanupGraceSecs.toNat : Int) Int64.maxValue.toInt)

section
variable (settings : Settings)

theorem wait_one : settings.retryPolicy.wait 1 = settings.firstWait := by
  have base := settings.consumerRetryBaseMs.toNat_lt
  have longest := longest_nanos
  show (⟨min (settings.consumerRetryBaseMs.toNat * 1000000 * 1) Duration.longest.nanos⟩ : Duration) = _
  rw [firstWait, Duration.ofMillis]
  congr
  omega

theorem add_firstWait {elapsed : Duration} (reached : Reached elapsed.nanos) :
    elapsed.add? settings.firstWait = some ⟨elapsed.nanos + settings.firstWait.nanos⟩ := by
  have base := settings.consumerRetryBaseMs.toNat_lt
  have longest := longest_nanos
  have reached := reached_iff.mp reached
  have wait : settings.firstWait.nanos = settings.consumerRetryBaseMs.toNat * 1000000 := rfl
  exact if_pos (by omega)

/-- A loop with an interval begins where the moment of its first pass is within the clock. -/
theorem begin_iff (cleanup : Cleanup) {secs : Nat} (positive : secs ≠ 0) (now : Instant) :
    (⟨cleanup, .ofSeconds secs⟩ : CleanupLoop).begin? now = some ⟨now.nanos + secs * nanosPerSecond⟩ ↔
      now.nanos / nanosPerSecond + secs < 2 ^ 63 := by
  have waits : Duration.ofSeconds secs ≠ .zero := by
    intro same
    have same := congrArg Duration.seconds same
    rw [Duration.seconds_ofSeconds] at same
    exact positive same
  have due : (⟨cleanup, .ofSeconds secs⟩ : CleanupLoop).begin? now =
      if now.nanos + secs * nanosPerSecond ≤ Instant.latest.nanos then some ⟨now.nanos + secs * nanosPerSecond⟩ else none := by
    rw [CleanupLoop.begin?, if_neg waits, CleanupLoop.firstDue?, Instant.after?]
    simp only [Duration.ofSeconds, Int.natCast_mul]
    rfl
  rw [due, Option.ite_none_right_eq_some, and_iff_left rfl, latest_nanos, second_nanos]
  omega

theorem start_iff {now : Instant} (within : now.nanos ≤ Instant.latest.nanos) :
    (∀ loop, Service.cleanupLoop? settings = some loop →
      loop.begin? now = some ⟨now.nanos + settings.cleanupIntervalSecs.toNat * nanosPerSecond⟩) ↔
    now.nanos / nanosPerSecond + settings.cleanupIntervalSecs.toNat < 2 ^ 63 := by
  unfold Service.cleanupLoop? cleanupInterval
  split
  · rename_i off
    refine iff_of_true nofun ?_
    rw [off, second_nanos, UInt64.toNat_zero]
    rw [latest_nanos] at within
    omega
  · rename_i on
    rw [← begin_iff (Service.cleanup settings) (fun zero => on (UInt64.toNat_inj.mp zero)) now]
    simp only [Option.map_some, Option.some.injEq, forall_eq']

/-- The verdict on a first attempt and the cutoff always fit. -/
theorem timesFit_of_start {now : Instant} (start : ∀ loop, Service.cleanupLoop? settings = some loop →
    loop.begin? now = some ⟨now.nanos + settings.cleanupIntervalSecs.toNat * nanosPerSecond⟩) : settings.TimesFit now where
  verdict _ reached := RetryPolicy.verdict_of_sum settings.wait_one (settings.add_firstWait reached)
  start := start
  cutoff today := by simp [Cleanup.toInt_cutoff, cleanupGrace]

end

/-- The times of all settings fit as long as the first pass is due within the clock. In a running system this holds at
    every moment where the interval has at most 2 ^ 62 seconds, and settings are admitted whatever their interval is. -/
theorem times_fit_iff (settings : Settings) :
    (∀ now : Instant, now.nanos ≤ Instant.latest.nanos →
      (settings.TimesFit now ↔ now.nanos / nanosPerSecond + settings.cleanupIntervalSecs.toNat < 2 ^ 63)) ∧
    ((∀ now : Instant, Reached now.nanos → settings.TimesFit now) ↔ settings.cleanupIntervalSecs.toNat ≤ 2 ^ 62) ∧
    ∀ secs, { settings with cleanupIntervalSecs := secs }.validate = settings.validate := by
  have at_moment (now : Instant) (within : now.nanos ≤ Instant.latest.nanos) :
      settings.TimesFit now ↔ now.nanos / nanosPerSecond + settings.cleanupIntervalSecs.toNat < 2 ^ 63 :=
    ⟨fun fit => (settings.start_iff within).mp fit.start,
      fun due => settings.timesFit_of_start ((settings.start_iff within).mpr due)⟩
  refine ⟨at_moment, ⟨fun always => ?_, fun short now reached => ?_⟩, fun _ => rfl⟩
  · -- the last moment below the bound is the one that asks most of the interval
    have reached : Reached (2 ^ 62 * 1000000000 - 1) := reached_iff.mpr (by decide)
    have last : (2 ^ 62 * 1000000000 - 1 : Int) / nanosPerSecond + settings.cleanupIntervalSecs.toNat < 2 ^ 63 :=
      (at_moment ⟨_⟩ (by decide)).mp (always ⟨_⟩ reached)
    rw [second_nanos] at last
    omega
  · have reached := reached_iff.mp reached
    rw [at_moment now (by rw [latest_nanos]; omega), second_nanos]
    omega

theorem times_fit_iff_standard : ({} : Settings).TimesFit ⟨0⟩ :=
  ((times_fit_iff {}).1 ⟨0⟩ (by decide)).mpr (by decide)

/-- The longest interval is admitted, and the loop cannot begin with it. -/
theorem longest_interval_misfits :
    ({ cleanupIntervalSecs := 0xffffffffffffffff } : Settings).validate = .ok () ∧ Reached (1000 * nanosPerSecond) ∧
      (Service.cleanupLoop? { cleanupIntervalSecs := 0xffffffffffffffff }).map (·.begin? ⟨1000 * nanosPerSecond⟩) =
        some none :=
  ⟨by decide, reached_iff.mpr (by decide), by decide⟩

end Settings
end ModelDepot
