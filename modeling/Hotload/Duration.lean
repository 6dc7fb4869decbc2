/-!
# Durations

A duration counts whole seconds in a word of 64 bits, and beside them the nanoseconds of the second
that is not full. A multiple of a duration may have more seconds than the word can hold; then there is
no such duration.
-/

namespace Hotload

/-- A span of time. -/
structure Duration where
  seconds : UInt64
  nanoseconds : UInt32
  /-- A second that is full is counted as one. -/
  proper : nanoseconds.toNat < 1000000000
  deriving DecidableEq, Repr

/-- The sum of two words, if it fits into one. -/
def checkedSum (left right : UInt64) : Option UInt64 :=
  if left.toNat + right.toNat < UInt64.size then some (left + right) else none

/-- The product of two words, if it fits into one. -/
def checkedProduct (left right : UInt64) : Option UInt64 :=
  if left.toNat * right.toNat < UInt64.size then some (left * right) else none

namespace Duration

/-- The milliseconds beyond full seconds are few enough to be counted in nanoseconds. -/
theorem toNat_nanosecondsOf (count : UInt64) :
    ((count % 1000).toUInt32 * 1000000).toNat = count.toNat % 1000 * 1000000 := by
  have small := Nat.mod_lt count.toNat (show 1000 > 0 by decide)
  simp only [UInt32.toNat_mul, UInt64.toNat_toUInt32, UInt64.toNat_mod, UInt64.reduceToNat,
    UInt32.reduceToNat]
  rw [Nat.mod_eq_of_lt (show count.toNat % 1000 < 2 ^ 32 by omega), Nat.mod_eq_of_lt (by omega)]

/-- The duration of some milliseconds. -/
def ofMilliseconds (count : UInt64) : Duration where
  seconds := count / 1000
  nanoseconds := (count % 1000).toUInt32 * 1000000
  proper := by
    have small := Nat.mod_lt count.toNat (show 1000 > 0 by decide)
    rw [toNat_nanosecondsOf]
    omega

/-- A duration as often as a number says, if its seconds can be counted. The nanoseconds are
multiplied first; what they have of full seconds is added to the product of the seconds. -/
def times? (duration : Duration) (count : UInt32) : Option Duration :=
  let nanoseconds := duration.nanoseconds.toUInt64 * count.toUInt64
  match checkedProduct duration.seconds count.toUInt64 with
  | none => none
  | some seconds =>
    match checkedSum seconds (nanoseconds / 1000000000) with
    | none => none
    | some total =>
      some ⟨total, (nanoseconds % 1000000000).toUInt32, by
        have small := Nat.mod_lt nanoseconds.toNat (show 1000000000 > 0 by decide)
        simp only [UInt64.toNat_toUInt32, UInt64.toNat_mod, UInt64.reduceToNat]
        omega⟩

/-- The length of a duration in nanoseconds. -/
def toNanoseconds (duration : Duration) : Nat :=
  duration.seconds.toNat * 1000000000 + duration.nanoseconds.toNat

/-- The whole milliseconds of a duration. -/
def toMilliseconds (duration : Duration) : Nat :=
  duration.seconds.toNat * 1000 + duration.nanoseconds.toNat / 1000000

end Duration

end Hotload
