import Mathlib.Data.List.Basic

/-!
# The goroutine leak check of `TestMain`

After the tests, `TestMain` gives the goroutines they started up to a second to end. While
at most a second has passed since `start`, it yields, samples `runtime.NumGoroutine()`,
stops if the count is back to the count before the tests, and sleeps ten milliseconds. It
reports a leak when `finalGoroutineCount`, the last sample, is not the initial count.
`finalGoroutineCount` starts at `0`, its zero value.

What the loop reads, the clock in its condition and the count in its body, is the list of
samples it is given, one `GoroutineSample` per check of the condition. Clock readings are
nanoseconds of Go's monotonic clock, as `Int`; `none` stands for a loop still running when
the samples run out.

A leak is reported exactly when none of the counts sampled within the second is the
initial count (`goroutineLeakLoop_leak_iff`). So a leak is also reported when the first
clock reading is already past the second and no count was sampled at all. If the clock
honours the sleeps, the loop checks its condition at most 102 times, whatever the counts
(`goroutineLeakLoop_bounded`).
-/

namespace Gocbcore

/-- One check of the loop's condition: what `time.Now()` reads, and what
`runtime.NumGoroutine()` reads in the body if the condition holds. -/
structure GoroutineSample where
  now : Int
  count : Int

/-- `1 * time.Second`, in nanoseconds. -/
def leakWindow : Int := 1000000000

/-- `10 * time.Millisecond`, in nanoseconds. -/
def leakPollSleep : Int := 10 * 1000000

/-- `time.Now().Sub(start) <= 1*time.Second`. -/
def inLeakWindow (start : Int) (sample : GoroutineSample) : Bool :=
  sample.now - start ≤ leakWindow

/-- The loop of `TestMain`, from the value of `finalGoroutineCount` before it: the value
after it. -/
def goroutineLeakLoop (start initialGoroutineCount : Int) :
    Int → List GoroutineSample → Option Int
  | _, [] => none
  | finalGoroutineCount, sample :: samples =>
      if inLeakWindow start sample then
        if sample.count = initialGoroutineCount then some sample.count
        else goroutineLeakLoop start initialGoroutineCount sample.count samples
      else some finalGoroutineCount

/-- The loop ends on the initial count, or on a value that is not it. -/
theorem goroutineLeakLoop_ne_iff (start initial : Int) (samples : List GoroutineSample) :
    ∀ {previous final : Int}, previous ≠ initial →
      goroutineLeakLoop start initial previous samples = some final →
      (final ≠ initial ↔
        ∀ sample ∈ samples.takeWhile (inLeakWindow start), sample.count ≠ initial) := by
  induction samples with
  | nil => exact fun _ ended => by cases ended
  | cons sample samples ih =>
      intro previous final differs ended
      simp only [goroutineLeakLoop] at ended
      by_cases window : inLeakWindow start sample
      · rw [if_pos window] at ended
        simp only [List.takeWhile_cons, window, if_true, List.mem_cons, forall_eq_or_imp]
        by_cases back : sample.count = initial
        · rw [if_pos back, Option.some.injEq] at ended
          subst ended
          simp [back]
        · rw [if_neg back] at ended
          simp only [ne_eq, back, not_false_eq_true, true_and]
          exact ih back ended
      · rw [if_neg window, Option.some.injEq] at ended
        subst ended
        simp [List.takeWhile_cons, window, differs]

/-- `TestMain` reports a leak exactly when none of the counts it sampled within the second
is the initial count; when the first clock reading is already past the second, it reports
one with no sample at all. The initial count is never `0`: the main goroutine runs. -/
theorem goroutineLeakLoop_leak_iff (start initialGoroutineCount : Int)
    (samples : List GoroutineSample) {finalGoroutineCount : Int}
    (running : initialGoroutineCount ≠ 0)
    (ended : goroutineLeakLoop start initialGoroutineCount 0 samples = some finalGoroutineCount) :
    finalGoroutineCount ≠ initialGoroutineCount ↔
      ∀ sample ∈ samples.takeWhile (inLeakWindow start),
        sample.count ≠ initialGoroutineCount :=
  goroutineLeakLoop_ne_iff start initialGoroutineCount samples (Ne.symm running) ended

/-- A first clock reading two seconds after `start`, when the count is back to `3`. -/
def lateFirstReading : List GoroutineSample := [⟨2000000000, 3⟩]

theorem lateFirstReading_reports_leak :
    (3 : Int) ≠ 0 ∧ goroutineLeakLoop 0 3 0 lateFirstReading = some 0 ∧
    ((0 : Int) ≠ 3 ↔
      ∀ sample ∈ lateFirstReading.takeWhile (inLeakWindow 0), sample.count ≠ 3) :=
  have ended : goroutineLeakLoop 0 3 0 lateFirstReading = some 0 := by decide
  ⟨by decide, ended, goroutineLeakLoop_leak_iff 0 3 lateFirstReading (by decide) ended⟩

/-- Every check of the condition reads the clock no earlier than `earliest` and, after the
first, at least ten milliseconds after the one before: the clock does not go back and
`time.Sleep(10 * time.Millisecond)` lasts at least that long. -/
def ClockHonoursPolls : Int → List GoroutineSample → Prop
  | _, [] => True
  | earliest, sample :: samples =>
      earliest ≤ sample.now ∧ ClockHonoursPolls (sample.now + leakPollSleep) samples

instance decidableClockHonoursPolls :
    ∀ earliest samples, Decidable (ClockHonoursPolls earliest samples)
  | _, [] => isTrue trivial
  | earliest, sample :: samples =>
      have := decidableClockHonoursPolls (sample.now + leakPollSleep) samples
      inferInstanceAs (Decidable (earliest ≤ sample.now ∧ ClockHonoursPolls _ samples))

/-- When the second ends before `count` sleeps after the earliest clock reading, the loop
checks its condition at most `count + 1` times. -/
theorem goroutineLeakLoop_take (start initial : Int) (samples : List GoroutineSample) :
    ∀ {previous earliest : Int} {count : Nat}, ClockHonoursPolls earliest samples →
      start + leakWindow < earliest + count * leakPollSleep →
      goroutineLeakLoop start initial previous samples =
          goroutineLeakLoop start initial previous (samples.take (count + 1)) ∧
        (count + 1 ≤ samples.length →
          (goroutineLeakLoop start initial previous samples).isSome) := by
  induction samples with
  | nil => exact fun _ _ => ⟨rfl, by simp⟩
  | cons sample samples ih =>
      intro previous earliest count clock closes
      obtain ⟨early, clock⟩ := clock
      simp only [List.take_succ_cons, goroutineLeakLoop, List.length_cons]
      by_cases window : inLeakWindow start sample
      · by_cases back : sample.count = initial
        · simp [window, back]
        simp only [window, back, if_true, if_false]
        rcases count with _ | count
        · simp only [inLeakWindow, decide_eq_true_eq, leakWindow, leakPollSleep] at window closes
          omega
        obtain ⟨same, ends⟩ := @ih sample.count (sample.now + leakPollSleep) count clock
          (by simp only [leakPollSleep] at closes ⊢; push_cast at closes; omega)
        exact ⟨same, fun long => ends (by omega)⟩
      · simp [window]

/-- If the clock honours the sleeps, the loop checks its condition at most 102 times,
whatever the counts: it samples at most 101 of them. Its outcome is that of its first
102 checks, and once 102 are given it has ended. -/
theorem goroutineLeakLoop_bounded (start initialGoroutineCount : Int)
    (samples : List GoroutineSample) (clock : ClockHonoursPolls start samples) :
    goroutineLeakLoop start initialGoroutineCount 0 samples =
        goroutineLeakLoop start initialGoroutineCount 0 (samples.take 102) ∧
      (102 ≤ samples.length →
        (goroutineLeakLoop start initialGoroutineCount 0 samples).isSome) :=
  goroutineLeakLoop_take start initialGoroutineCount samples clock
    (by simp only [leakWindow, leakPollSleep]; omega)

/-- A count that never comes back to `3`, sampled every ten milliseconds from the start:
103 samples, the last two after the second. -/
def neverBackSamples : List GoroutineSample :=
  (List.range 103).map fun k => ⟨(k : Int) * 10000000, 4⟩

set_option maxRecDepth 2000 in
theorem neverBackSamples_bounded :
    ClockHonoursPolls 0 neverBackSamples ∧
    goroutineLeakLoop 0 3 0 neverBackSamples = some 4 ∧
    goroutineLeakLoop 0 3 0 neverBackSamples =
        goroutineLeakLoop 0 3 0 (neverBackSamples.take 102) ∧
      (102 ≤ neverBackSamples.length → (goroutineLeakLoop 0 3 0 neverBackSamples).isSome) :=
  have clock : ClockHonoursPolls 0 neverBackSamples := by decide
  ⟨clock, by decide, goroutineLeakLoop_bounded 0 3 neverBackSamples clock⟩

end Gocbcore
