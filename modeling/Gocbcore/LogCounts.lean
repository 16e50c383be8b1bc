import Mathlib.Data.BitVec
import Mathlib.Algebra.BigOperators.Group.Finset
import Mathlib.Tactic.Abel

/-!
# The log counts of the test logger

`TestMain` installs a `testLogger`, whose `Log` counts every message with an atomic add on
the counter of its level before it hands the message to the parent logger. After
`m.Run()` returns, `TestMain` reads the counters twice, one at a time, with atomic loads:
a first loop sums them into `preLogTotal`, and after a one-second sleep a second loop sums
them into `postLogTotal`. The tests fail with "Detected unexpected logging after agent
closed" when the two sums differ.

Other goroutines may still log while the two loops run. A run is any sequence of steps of
two kinds: a `Log` call of some goroutine, whose counter update is one atomic add, and
the next load of the `TestMain` goroutine. Go's atomic operations are sequentially
consistent, so every interleaving of the goroutines is such a sequence. The counters are
`uint64`, so sums wrap modulo `2 ^ 64`; they are `BitVec 64`.

Over every run in which `TestMain` has made all its loads, the second total minus the
first is the number of `Log` calls that landed on a level after the first loop read that
level's counter and before the second loop read it (`lateLogs`), modulo `2 ^ 64`; the
check fails exactly when that number is not a multiple of `2 ^ 64` (`logCheck_totals`). A
call on a level the first loop has not reached yet, or one the second loop has passed, is
not seen.
-/

open Finset

namespace Gocbcore

/-- `LogCount []uint64`: the counter of each level. -/
abbrev LogCounts := Nat → BitVec 64

/-- `(*testLogger).Log`: an atomic add on the counter of a level in range, then the call of
the parent logger one frame further up, with the level's name before the format. The
result is the counters after the call and the arguments handed to the parent.
`LogMaxVerbosity` and `logLevelToString` are declared outside the source. -/
def testLoggerLog (logMaxVerbosity : Nat) (logLevelToString : Int → String)
    (logCount : LogCounts) (level offset : Int) (format : String) :
    LogCounts × (Int × Int × String) :=
  (if 0 ≤ level ∧ level < logMaxVerbosity then
      Function.update logCount level.toNat (logCount level.toNat + 1)
    else logCount,
   (level, offset + 1, "[" ++ logLevelToString level ++ "] " ++ format))

/-- The levels `TestMain` reads, declared outside the source: `LogMaxVerbosity`,
`LogError` and `LogWarn`. -/
structure LogLevels where
  logMaxVerbosity : Nat
  logError : Nat
  logWarn : Nat

/-- An atomic load of `TestMain` after `m.Run()`. -/
inductive LogLoad where
  | pre (level : Nat)
  | error
  | warn
  | post (level : Nat)
  deriving DecidableEq, Repr

/-- The loads of `TestMain` in program order: the first loop, the two loads of
`abnormalLogCount`, and the second loop. -/
def logCheckLoads (logMaxVerbosity : Nat) : List LogLoad :=
  (List.range logMaxVerbosity).map .pre ++ [.error, .warn] ++
    (List.range logMaxVerbosity).map .post

/-- The variables of `TestMain` the loads write, and the number of loads made so far. -/
structure LogCheck where
  pc : Nat := 0
  preLogTotal : BitVec 64 := 0
  abnormalLogCount : BitVec 64 := 0
  postLogTotal : BitVec 64 := 0

/-- One load and what `TestMain` does with the value. -/
def LogCheck.load (levels : LogLevels) (logCount : LogCounts) (check : LogCheck) :
    LogLoad → LogCheck
  | .pre level => { check with preLogTotal := check.preLogTotal + logCount level }
  | .error => { check with abnormalLogCount := logCount levels.logError }
  | .warn => { check with abnormalLogCount := check.abnormalLogCount + logCount levels.logWarn }
  | .post level => { check with postLogTotal := check.postLogTotal + logCount level }

/-- The counters and the `TestMain` goroutine. -/
structure LogSystem where
  logCount : LogCounts
  check : LogCheck

/-- A step of a run: a `Log` call of any goroutine, or the next load of `TestMain`. -/
inductive LogStep where
  | log (level offset : Int) (format : String)
  | load
  deriving DecidableEq, Repr

namespace LogSystem

variable (levels : LogLevels) (logLevelToString : Int → String)

/-- One step; a load past the end of the loads does nothing. -/
def step (system : LogSystem) : LogStep → LogSystem
  | .log level offset format =>
      { system with
        logCount := (testLoggerLog levels.logMaxVerbosity logLevelToString system.logCount
          level offset format).1 }
  | .load =>
      let check :=
        match (logCheckLoads levels.logMaxVerbosity)[system.check.pc]? with
        | some load => system.check.load levels system.logCount load
        | none => system.check
      { system with check := { check with pc := system.check.pc + 1 } }

/-- A run of steps. -/
def run (system : LogSystem) (steps : List LogStep) : LogSystem :=
  steps.foldl (step levels logLevelToString) system

end LogSystem

/-- The `Log` calls of a run that land on a level in range after the first loop has read
that level's counter and before the second loop reads it, `pc` loads having been made
before the run. -/
def lateLogs (logMaxVerbosity : Nat) : Nat → List LogStep → Nat
  | _, [] => 0
  | pc, .log level _ _ :: steps =>
      (if 0 ≤ level ∧ level < logMaxVerbosity ∧
          LogLoad.pre level.toNat ∈ (logCheckLoads logMaxVerbosity).take pc ∧
          LogLoad.post level.toNat ∉ (logCheckLoads logMaxVerbosity).take pc then 1 else 0) +
        lateLogs logMaxVerbosity pc steps
  | pc, .load :: steps => lateLogs logMaxVerbosity (pc + 1) steps

/-! ## The loads in program order -/

theorem logCheckLoads_getElem? (n pc : Nat) :
    (logCheckLoads n)[pc]? =
      if pc < n then some (.pre pc)
      else if pc = n then some .error
      else if pc = n + 1 then some .warn
      else if pc < 2 * n + 2 then some (.post (pc - (n + 2)))
      else none := by
  by_cases first : pc < n
  · rw [logCheckLoads, List.append_assoc, List.getElem?_append_left (by simpa using first)]
    simp [first]
  obtain ⟨k, rfl⟩ : ∃ k, pc = n + k := ⟨pc - n, by omega⟩
  rw [logCheckLoads, List.append_assoc, List.getElem?_append_right (by simp), if_neg first]
  rcases k with _ | _ | k
  · simp
  · simp
  · have shift : n + (k + 1 + 1) - (n + 2) = k := by omega
    simp only [List.length_map, List.length_range, Nat.add_sub_cancel_left, List.cons_append,
      List.nil_append, List.getElem?_cons_succ, List.getElem?_map, shift]
    rw [if_neg (by omega), if_neg (by omega)]
    by_cases second : k < n
    · rw [List.getElem?_range second, if_pos (by omega)]
      rfl
    · rw [List.getElem?_eq_none (by simp; omega), if_neg (by omega)]
      rfl

theorem logCheckLoads_getElem?_eq_pre {n i level : Nat} :
    (logCheckLoads n)[i]? = some (.pre level) ↔ i = level ∧ level < n := by
  rw [logCheckLoads_getElem?]
  split_ifs <;> simp <;> omega

theorem logCheckLoads_getElem?_eq_post {n i level : Nat} :
    (logCheckLoads n)[i]? = some (.post level) ↔ i = n + 2 + level ∧ level < n := by
  rw [logCheckLoads_getElem?]
  split_ifs <;> simp <;> omega

/-- The first loop has read the counter of `level` once `level` loads have been made. -/
theorem pre_mem_take {n pc level : Nat} :
    LogLoad.pre level ∈ (logCheckLoads n).take pc ↔ level < n ∧ level < pc := by
  simp only [List.mem_iff_getElem?, List.getElem?_take]
  constructor
  · rintro ⟨i, found⟩
    split_ifs at found with within
    obtain ⟨rfl, inRange⟩ := logCheckLoads_getElem?_eq_pre.mp found
    exact ⟨inRange, within⟩
  · rintro ⟨inRange, read⟩
    exact ⟨level, by rw [if_pos read, logCheckLoads_getElem?_eq_pre]; exact ⟨rfl, inRange⟩⟩

/-- The second loop has read the counter of `level` once `n + 2 + level` loads have been
made. -/
theorem post_mem_take {n pc level : Nat} :
    LogLoad.post level ∈ (logCheckLoads n).take pc ↔ level < n ∧ n + 2 + level < pc := by
  simp only [List.mem_iff_getElem?, List.getElem?_take]
  constructor
  · rintro ⟨i, found⟩
    split_ifs at found with within
    obtain ⟨rfl, inRange⟩ := logCheckLoads_getElem?_eq_post.mp found
    exact ⟨inRange, within⟩
  · rintro ⟨inRange, read⟩
    exact ⟨n + 2 + level, by rw [if_pos read, logCheckLoads_getElem?_eq_post]; exact ⟨rfl, inRange⟩⟩

/-- The counters of the levels the first loop has read and the second has not, after `pc`
loads. -/
def openSum (n pc : Nat) (logCount : LogCounts) : BitVec 64 :=
  ∑ level ∈ range n, if level < pc ∧ pc ≤ n + 2 + level then logCount level else 0

theorem sum_ite_eq_level {n level : Nat} (inRange : level < n) (value : BitVec 64) :
    ∑ j ∈ range n, (if j = level then value else 0) = value := by
  rw [sum_ite_eq', if_pos (mem_range.mpr inRange)]

theorem openSum_update {n pc level : Nat} (inRange : level < n) (logCount : LogCounts) :
    openSum n pc (Function.update logCount level (logCount level + 1)) =
      openSum n pc logCount + if level < pc ∧ pc ≤ n + 2 + level then 1 else 0 := by
  rw [openSum, openSum,
    ← sum_ite_eq_level inRange (if level < pc ∧ pc ≤ n + 2 + level then 1 else 0),
    ← sum_add_distrib]
  refine sum_congr rfl fun j _ => ?_
  by_cases same : j = level
  · subst same
    by_cases inside : j < pc ∧ pc ≤ n + 2 + j <;> simp [inside]
  · simp [Function.update_noteq same, same]

/-- A load of the first loop opens its level. -/
theorem openSum_pre {n pc : Nat} (first : pc < n) (logCount : LogCounts) :
    openSum n (pc + 1) logCount = openSum n pc logCount + logCount pc := by
  rw [openSum, openSum, ← sum_ite_eq_level first (logCount pc), ← sum_add_distrib]
  refine sum_congr rfl fun j _ => ?_
  by_cases same : j = pc
  · subst same
    rw [if_pos (by omega), if_neg (by omega), if_pos rfl, zero_add]
  · rw [if_neg same, add_zero]
    simp only [show (j < pc + 1 ∧ pc + 1 ≤ n + 2 + j) ↔ (j < pc ∧ pc ≤ n + 2 + j) by omega]

/-- The two loads of `abnormalLogCount` open and close no level. -/
theorem openSum_between {n pc : Nat} (between : n ≤ pc ∧ pc < n + 2) (logCount : LogCounts) :
    openSum n (pc + 1) logCount = openSum n pc logCount := by
  refine sum_congr rfl fun j mem => ?_
  have inRange := mem_range.mp mem
  simp only [show (j < pc + 1 ∧ pc + 1 ≤ n + 2 + j) ↔ (j < pc ∧ pc ≤ n + 2 + j) by omega]

/-- A load of the second loop closes its level. -/
theorem openSum_post {n pc : Nat} (second : n + 2 ≤ pc ∧ pc < 2 * n + 2) (logCount : LogCounts) :
    openSum n (pc + 1) logCount + logCount (pc - (n + 2)) = openSum n pc logCount := by
  rw [openSum, openSum,
    ← sum_ite_eq_level (show pc - (n + 2) < n by omega) (logCount (pc - (n + 2))),
    ← sum_add_distrib]
  refine sum_congr rfl fun j mem => ?_
  have inRange := mem_range.mp mem
  by_cases same : j = pc - (n + 2)
  · subst same
    rw [if_neg (by omega), if_pos rfl, if_pos (by omega), zero_add]
  · rw [if_neg same, add_zero]
    simp only [show (j < pc + 1 ∧ pc + 1 ≤ n + 2 + j) ↔ (j < pc ∧ pc ≤ n + 2 + j) by omega]

/-- After the second loop, no level is open. -/
theorem openSum_done {n pc : Nat} (done : 2 * n + 2 ≤ pc) (logCount : LogCounts) :
    openSum n pc logCount = 0 :=
  sum_eq_zero fun j mem => if_neg (by have := mem_range.mp mem; omega)

/-- The totals so far, with the counters of the open levels, account for the late `Log`
calls so far. -/
def LogSystem.Balanced (n late : Nat) (system : LogSystem) : Prop :=
  system.check.postLogTotal - system.check.preLogTotal +
    openSum n system.check.pc system.logCount = BitVec.ofNat 64 late

section Run

variable (levels : LogLevels) (logLevelToString : Int → String)

theorem balanced_log {system : LogSystem} {late : Nat} (level offset : Int) (format : String)
    (balanced : system.Balanced levels.logMaxVerbosity late) :
    (system.step levels logLevelToString (.log level offset format)).Balanced
      levels.logMaxVerbosity
      (late + if 0 ≤ level ∧ level < levels.logMaxVerbosity ∧
          LogLoad.pre level.toNat ∈ (logCheckLoads levels.logMaxVerbosity).take system.check.pc ∧
          LogLoad.post level.toNat ∉
            (logCheckLoads levels.logMaxVerbosity).take system.check.pc then 1 else 0) := by
  simp only [LogSystem.Balanced, LogSystem.step, testLoggerLog, pre_mem_take,
    post_mem_take] at balanced ⊢
  by_cases inRange : 0 ≤ level ∧ level < levels.logMaxVerbosity
  · rw [if_pos inRange, openSum_update (by omega), ← add_assoc, balanced, BitVec.ofNat_add]
    congr 1
    split_ifs <;> first | rfl | omega
  · rw [if_neg inRange, balanced, if_neg (by omega), add_zero]

theorem balanced_load {system : LogSystem} {late : Nat}
    (balanced : system.Balanced levels.logMaxVerbosity late) :
    (system.step levels logLevelToString .load).Balanced levels.logMaxVerbosity late := by
  simp only [LogSystem.Balanced] at balanced ⊢
  simp only [LogSystem.step, logCheckLoads_getElem?]
  split_ifs with first abnormal warn second
  · simp only [LogCheck.load]
    rw [openSum_pre first, ← balanced]
    abel
  · simp only [LogCheck.load]
    rw [openSum_between (by omega), balanced]
  · simp only [LogCheck.load]
    rw [openSum_between (by omega), balanced]
  · have closes : openSum levels.logMaxVerbosity (system.check.pc + 1) system.logCount +
        system.logCount (system.check.pc - (levels.logMaxVerbosity + 2)) =
        openSum levels.logMaxVerbosity system.check.pc system.logCount :=
      openSum_post (by omega) _
    simp only [LogCheck.load]
    rw [← balanced, ← closes]
    abel
  · rw [openSum_done (show 2 * levels.logMaxVerbosity + 2 ≤ system.check.pc + 1 by omega)]
    rwa [openSum_done (show 2 * levels.logMaxVerbosity + 2 ≤ system.check.pc by omega)] at balanced

/-- A run keeps the balance, counting its own late `Log` calls. -/
theorem balanced_run (steps : List LogStep) :
    ∀ {system : LogSystem} {late : Nat}, system.Balanced levels.logMaxVerbosity late →
      (system.run levels logLevelToString steps).Balanced levels.logMaxVerbosity
        (late + lateLogs levels.logMaxVerbosity system.check.pc steps) := by
  induction steps with
  | nil => exact id
  | cons step steps ih =>
      intro system late balanced
      cases step with
      | log level offset format =>
          rw [lateLogs, ← add_assoc]
          exact ih (balanced_log levels logLevelToString level offset format balanced)
      | load => exact ih (balanced_load levels logLevelToString balanced)

end Run

/-- Over every interleaving of `Log` calls with the loads of `TestMain` in which `TestMain`
has made all its loads, `postLogTotal - preLogTotal` is the number of late `Log` calls
modulo `2 ^ 64`, and the check "Detected unexpected logging after agent closed" fails
exactly when that number is not a multiple of `2 ^ 64`. -/
theorem logCheck_totals (levels : LogLevels) (logLevelToString : Int → String)
    (logCount : LogCounts) (steps : List LogStep)
    (finished : (logCheckLoads levels.logMaxVerbosity).length ≤
      (LogSystem.run levels logLevelToString ⟨logCount, {}⟩ steps).check.pc) :
    let final := (LogSystem.run levels logLevelToString ⟨logCount, {}⟩ steps).check
    final.postLogTotal - final.preLogTotal =
        BitVec.ofNat 64 (lateLogs levels.logMaxVerbosity 0 steps) ∧
      (final.preLogTotal ≠ final.postLogTotal ↔
        lateLogs levels.logMaxVerbosity 0 steps % 2 ^ 64 ≠ 0) := by
  intro final
  have start : LogSystem.Balanced levels.logMaxVerbosity 0 ⟨logCount, {}⟩ := by
    simp [LogSystem.Balanced, openSum]
  have balanced := balanced_run levels logLevelToString steps start
  have done : 2 * levels.logMaxVerbosity + 2 ≤
      (LogSystem.run levels logLevelToString ⟨logCount, {}⟩ steps).check.pc := by
    simp only [logCheckLoads, List.length_append, List.length_map, List.length_range,
      List.length_cons, List.length_nil] at finished
    omega
  rw [LogSystem.Balanced, openSum_done done, add_zero, zero_add] at balanced
  refine ⟨balanced, ?_⟩
  rw [ne_comm, ← sub_ne_zero, balanced, Ne, BitVec.toNat_eq, BitVec.toNat_ofNat]
  rfl

/-- A run in which one message at level 3 is logged after the first loop and before the
second, with six levels. -/
def lateLogRun : List LogStep :=
  List.replicate 8 .load ++ [.log 3 0 "late"] ++ List.replicate 6 .load

theorem lateLogRun_totals :
    (logCheckLoads 6).length ≤
      (LogSystem.run ⟨6, 0, 1⟩ toString ⟨fun _ => 0, {}⟩ lateLogRun).check.pc ∧
    let final := (LogSystem.run ⟨6, 0, 1⟩ toString ⟨fun _ => 0, {}⟩ lateLogRun).check
    final.postLogTotal - final.preLogTotal = BitVec.ofNat 64 (lateLogs 6 0 lateLogRun) ∧
      (final.preLogTotal ≠ final.postLogTotal ↔ lateLogs 6 0 lateLogRun % 2 ^ 64 ≠ 0) :=
  have finished : (logCheckLoads 6).length ≤
      (LogSystem.run ⟨6, 0, 1⟩ toString ⟨fun _ => 0, {}⟩ lateLogRun).check.pc := by decide
  ⟨finished, logCheck_totals ⟨6, 0, 1⟩ toString (fun _ => 0) lateLogRun finished⟩

end Gocbcore
