import Mathlib.Data.BitVec
import Mathlib.Data.Nat.Digits
import Mathlib.Tactic.IntervalCases

/-!
# Go's `strconv` and `time.Duration`, as `FromConnStr` uses them

`FromConnStr` turns option values into Go values with `strconv.ParseInt(s, 10, 64)`,
`strconv.ParseBool` and `strconv.ParseFloat(s, 64)`, and turns milliseconds into a
`time.Duration` with `time.Duration(val) * time.Millisecond`. It only asks whether the
parse returned an error; the error itself is replaced by a message of its own. So the
parses are modelled as `Option`-valued functions.

Go's `int64` is `BitVec 64`, read back signed with `BitVec.toInt`. Multiplication of
`int64` values wraps modulo `2 ^ 64`, which is exactly `BitVec` multiplication, so
`time.Duration(val) * time.Millisecond` is `val * millisecond`. `int` is taken to be
64 bits wide, as on every platform the library is built for, so `int(val)` is `val`.

`ParseUint` stops with a range error as soon as the value passes `2 ^ 64 - 1`;
`ParseInt` then reports a range error too. Here the digits are read into a `Nat` and
`ParseInt`'s range check rejects every such value, so the same strings are accepted,
with the same values.
-/

namespace Gocbcore

/-- Go's `int64`, and `int` on a 64-bit platform. -/
abbrev Int64 := BitVec 64

/-- Go's `time.Duration`: a count of nanoseconds in an `int64`. -/
abbrev Duration := Int64

/-- `time.Millisecond`, in nanoseconds. -/
def millisecond : Duration := 1000000#64

/-- The digit loop of `strconv.ParseUint` in base 10, with `acc` the value read so far:
`none` at the first byte that is not a decimal digit. -/
def decimalValue (acc : Nat) : List Char → Option Nat
  | [] => some acc
  | c :: cs => if c.isDigit then decimalValue (acc * 10 + (c.toNat - '0'.toNat)) cs else none

/-- `strconv.ParseUint(s, 10, 64)` without its `2 ^ 64` cut-off: an empty string is a
syntax error. -/
def parseUint (s : List Char) : Option Nat :=
  if s.isEmpty then none else decimalValue 0 s

/-- The leading sign `ParseInt` picks off: whether it was `-`, and the rest. -/
def splitSign : List Char → Bool × List Char
  | '+' :: rest => (false, rest)
  | '-' :: rest => (true, rest)
  | all => (false, all)

/-- `strconv.ParseInt(s, 10, 64)`: an optional sign, decimal digits, and a value in
`[-2 ^ 63, 2 ^ 63)`. -/
def parseInt (s : String) : Option Int64 :=
  let (neg, digits) := splitSign s.toList
  (parseUint digits).bind fun un =>
    if !neg && un ≥ 2 ^ 63 then none
    else if neg && un > 2 ^ 63 then none
    else some (if neg then -BitVec.ofNat 64 un else BitVec.ofNat 64 un)

example : parseInt "-9223372036854775808" = some (BitVec.ofInt 64 (-2 ^ 63)) ∧
    parseInt "9223372036854775808" = none ∧ parseInt "+" = none := by
  decide

/-- `strconv.ParseBool`. -/
def parseBool : String → Option Bool
  | "1" | "t" | "T" | "TRUE" | "true" | "True" => some true
  | "0" | "f" | "F" | "FALSE" | "false" | "False" => some false
  | _ => none

/-! ## Milliseconds as a duration -/

theorem bmod_two_pow_64_eq_self_iff (x : Int) :
    x.bmod (2 ^ 64) = x ↔ -2 ^ 63 ≤ x ∧ x < 2 ^ 63 := by
  rw [Int.bmod_def]
  constructor
  · intro eq
    split at eq <;> omega
  · intro bounds
    split <;> omega

/-- `time.Duration(n) * time.Millisecond` read back as an integer is `n * 10 ^ 6`
reduced into the `int64` range. -/
@[simp]
theorem toInt_mul_millisecond (n : Int64) :
    (n * millisecond).toInt = (n.toInt * 1000000).bmod (2 ^ 64) := by
  rw [BitVec.toInt_mul]
  rfl

/-- The product is exact precisely for the millisecond counts whose nanosecond count
fits in an `int64`. -/
theorem toInt_mul_millisecond_eq_iff (n : Int64) :
    (n * millisecond).toInt = n.toInt * 1000000 ↔
      -9223372036854 ≤ n.toInt ∧ n.toInt ≤ 9223372036854 := by
  rw [toInt_mul_millisecond, bmod_two_pow_64_eq_self_iff]
  omega

/-! ## Every `int64` printed in decimal is accepted -/

theorem toInt_bounds (x : Int64) : -2 ^ 63 ≤ x.toInt ∧ x.toInt < 2 ^ 63 := by
  rw [BitVec.toInt_eq_toNat_bmod]
  exact ⟨Int.le_bmod (by omega), Int.bmod_lt (by omega)⟩

theorem decimalValue_append (acc : Nat) (front back : List Char) :
    decimalValue acc (front ++ back) = (decimalValue acc front).bind (decimalValue · back) := by
  induction front generalizing acc with
  | nil => rfl
  | cons c cs ih =>
      simp only [List.cons_append, decimalValue]
      split
      · exact ih _
      · rfl

theorem decimalValue_digitChar (acc : Nat) {d : Nat} (small : d < 10) :
    decimalValue acc [Nat.digitChar d] = some (acc * 10 + d) := by
  interval_cases d <;> rfl

theorem toDigitsCore_eq_append (fuel n : Nat) (ds : List Char) :
    Nat.toDigitsCore 10 fuel n ds = Nat.toDigitsCore 10 fuel n [] ++ ds := by
  induction fuel generalizing n ds with
  | zero => rfl
  | succ fuel ih =>
      simp only [Nat.toDigitsCore]
      split
      · rfl
      · rw [ih _ (_ :: ds), ih _ [_], List.append_assoc, List.singleton_append]

/-- `ParseUint` reads back the digits Lean prints for a natural number. -/
theorem decimalValue_toDigitsCore {fuel n : Nat} (enough : n < fuel) :
    decimalValue 0 (Nat.toDigitsCore 10 fuel n []) = some n := by
  induction fuel generalizing n with
  | zero => omega
  | succ fuel ih =>
      simp only [Nat.toDigitsCore]
      split
      · rw [decimalValue_digitChar 0 (Nat.mod_lt _ (by omega))]
        congr 1
        omega
      · rw [toDigitsCore_eq_append, decimalValue_append, ih (by omega), Option.some_bind,
          decimalValue_digitChar _ (Nat.mod_lt _ (by omega))]
        congr 1
        omega

theorem isDigit_of_mem_toDigitsCore {fuel n : Nat} {ds : List Char}
    (digits : ∀ c ∈ ds, c.isDigit) : ∀ c ∈ Nat.toDigitsCore 10 fuel n ds, c.isDigit := by
  induction fuel generalizing n ds with
  | zero => exact digits
  | succ fuel ih =>
      have digit : (Nat.digitChar (n % 10)).isDigit := by
        have small := Nat.mod_lt n (show 10 > 0 by omega)
        interval_cases n % 10 <;> rfl
      simp only [Nat.toDigitsCore]
      split
      · exact List.forall_mem_cons.mpr ⟨digit, digits⟩
      · exact ih (List.forall_mem_cons.mpr ⟨digit, digits⟩)

/-- A string of digits has no sign to pick off. -/
theorem splitSign_of_isDigit {digits : List Char} (allDigits : ∀ c ∈ digits, c.isDigit) :
    splitSign digits = (false, digits) := by
  cases digits with
  | nil => rfl
  | cons c rest =>
      have digit := allDigits c (List.mem_cons_self _ _)
      unfold splitSign
      split <;> simp_all [Char.isDigit]

theorem parseUint_toDigits (n : Nat) : parseUint (Nat.toDigits 10 n) = some n := by
  have nonempty : Nat.toDigits 10 n ≠ [] := by
    simp only [Nat.toDigits, Nat.toDigitsCore]
    split
    · simp
    · simp [toDigitsCore_eq_append _ _ [_]]
  simp only [parseUint, List.isEmpty_iff, nonempty, if_false]
  exact decimalValue_toDigitsCore (Nat.lt_succ_self n)

/-- `ParseInt` accepts the decimal form of every `int64`, as `strconv.FormatInt(n, 10)`
prints it, and returns that value: every `int64` reaches the blocks that read one. -/
theorem parseInt_toString (x : Int64) : parseInt (toString x.toInt) = some x := by
  have bounds := toInt_bounds x
  rcases value : x.toInt with m | m
  · have sign : splitSign (toString (Int.ofNat m)).toList = (false, Nat.toDigits 10 m) :=
      splitSign_of_isDigit (isDigit_of_mem_toDigitsCore (by simp))
    rw [value, Int.ofNat_eq_coe] at bounds
    have small : ¬m ≥ 2 ^ 63 := by omega
    simp only [parseInt, sign, parseUint_toDigits, Option.some_bind, Bool.not_false,
      Bool.true_and, decide_eq_true_eq, small, if_false, Bool.false_and, Bool.false_eq_true]
    congr 1
    apply BitVec.eq_of_toInt_eq
    rw [BitVec.toInt_ofNat, value, Int.ofNat_eq_coe, bmod_two_pow_64_eq_self_iff]
    omega
  · have sign : splitSign (toString (Int.negSucc m)).toList = (true, Nat.toDigits 10 (m + 1)) :=
      rfl
    rw [value, Int.negSucc_eq] at bounds
    have inRange : ¬m + 1 > 2 ^ 63 := by omega
    simp only [parseInt, sign, parseUint_toDigits, Option.some_bind, Bool.not_true,
      Bool.false_and, Bool.true_and, decide_eq_true_eq, inRange, if_false, Bool.false_eq_true,
      if_true]
    congr 1
    apply BitVec.eq_of_toInt_eq
    rw [BitVec.toInt_neg, BitVec.toInt_ofNat, value, Int.negSucc_eq, Int.bmod_def, Int.bmod_def]
    split <;> split <;> omega

end Gocbcore
