import Hotload.Proofs.BoundedWaits

/-!
# The longest wait

A configuration tells the length of a pause and how many pauses a wait makes at most, so no wait
takes longer than their product. As a duration the product is exact, but not every product is one: a
duration counts its seconds in a word. Pauses of a century and more are accepted like all others, so
there are accepted configurations whose longest wait is no duration.
-/

namespace Hotload

/-! ## Words that fit -/

/-- A product that fits is exact, and it fits just if it is less than the size of a word. -/
theorem checkedProduct_eq_some_iff {left right product : UInt64} :
    checkedProduct left right = some product ↔
      product.toNat = left.toNat * right.toNat ∧ left.toNat * right.toNat < UInt64.size := by
  unfold checkedProduct
  split
  · next fits =>
    have exact_ : (left * right).toNat = left.toNat * right.toNat := by
      rw [UInt64.toNat_mul]
      exact Nat.mod_eq_of_lt fits
    rw [Option.some.injEq, ← UInt64.toNat_inj, exact_]
    exact ⟨fun same => ⟨same.symm, fits⟩, fun same => same.1.symm⟩
  · next tooLarge => simp [tooLarge]

theorem checkedProduct_eq_none_iff {left right : UInt64} :
    checkedProduct left right = none ↔ UInt64.size ≤ left.toNat * right.toNat := by
  rw [checkedProduct, ite_eq_right_iff, ← Nat.not_lt]
  simp only [reduceCtorEq, imp_false]

/-- A sum that fits is exact, and it fits just if it is less than the size of a word. -/
theorem checkedSum_eq_some_iff {left right sum : UInt64} :
    checkedSum left right = some sum ↔
      sum.toNat = left.toNat + right.toNat ∧ left.toNat + right.toNat < UInt64.size := by
  unfold checkedSum
  split
  · next fits =>
    have exact_ : (left + right).toNat = left.toNat + right.toNat := by
      rw [UInt64.toNat_add]
      exact Nat.mod_eq_of_lt fits
    rw [Option.some.injEq, ← UInt64.toNat_inj, exact_]
    exact ⟨fun same => ⟨same.symm, fits⟩, fun same => same.1.symm⟩
  · next tooLarge => simp [tooLarge]

theorem checkedSum_eq_none_iff {left right : UInt64} :
    checkedSum left right = none ↔ UInt64.size ≤ left.toNat + right.toNat := by
  rw [checkedSum, ite_eq_right_iff, ← Nat.not_lt]
  simp only [reduceCtorEq, imp_false]

namespace Duration

/-- A duration of milliseconds is as long as they are. -/
theorem toNanoseconds_ofMilliseconds (count : UInt64) :
    (ofMilliseconds count).toNanoseconds = count.toNat * 1000000 := by
  simp only [toNanoseconds, ofMilliseconds, toNat_nanosecondsOf, UInt64.toNat_div,
    UInt64.reduceToNat]
  omega

/-- The whole milliseconds are those that go into the length. -/
theorem toMilliseconds_eq (duration : Duration) :
    duration.toMilliseconds = duration.toNanoseconds / 1000000 := by
  unfold toMilliseconds toNanoseconds
  omega

/-- The nanoseconds of a duration can be multiplied by any number: they are less than a second. -/
theorem toNat_nanoseconds_mul (duration : Duration) (count : UInt32) :
    (duration.nanoseconds.toUInt64 * count.toUInt64).toNat =
      duration.nanoseconds.toNat * count.toNat := by
  rw [UInt64.toNat_mul, UInt32.toNat_toUInt64, UInt32.toNat_toUInt64]
  refine Nat.mod_eq_of_lt ?_
  calc duration.nanoseconds.toNat * count.toNat
      < 1000000000 * 2 ^ 32 :=
        Nat.mul_lt_mul_of_lt_of_le duration.proper (Nat.le_of_lt count.toNat_lt) (by decide)
    _ < 2 ^ 64 := by decide

/-- A multiple is that many times as long. -/
theorem toNanoseconds_times {duration product : Duration} {count : UInt32}
    (multiplied : duration.times? count = some product) :
    product.toNanoseconds = duration.toNanoseconds * count.toNat := by
  have nanoseconds := duration.toNat_nanoseconds_mul count
  unfold times? at multiplied
  dsimp only at multiplied
  split at multiplied
  · cases multiplied
  · next seconds counted =>
    split at multiplied
    · cases multiplied
    · next total summed =>
      obtain rfl := Option.some.inj multiplied
      have whole := (checkedProduct_eq_some_iff.mp counted).1
      have carried := (checkedSum_eq_some_iff.mp summed).1
      have left := Nat.mod_lt (duration.nanoseconds.toNat * count.toNat)
        (show 1000000000 > 0 by decide)
      simp only [toNanoseconds, carried, whole, UInt64.toNat_toUInt32, UInt64.toNat_mod,
        UInt64.toNat_div, UInt64.reduceToNat, UInt32.toNat_toUInt64, nanoseconds]
      rw [Nat.mod_eq_of_lt (show duration.nanoseconds.toNat * count.toNat % 1000000000 < 2 ^ 32 by
        omega), Nat.add_mul]
      have split_ := Nat.div_add_mod (duration.nanoseconds.toNat * count.toNat) 1000000000
      have rearranged : duration.seconds.toNat * 1000000000 * count.toNat =
        duration.seconds.toNat * count.toNat * 1000000000 := Nat.mul_right_comm ..
      rw [Nat.add_mul, rearranged]
      omega

/-- A multiple of a duration is missing exactly if its seconds cannot be counted. -/
theorem times?_eq_none_iff (duration : Duration) (count : UInt32) :
    duration.times? count = none ↔
      UInt64.size * 1000000000 ≤ duration.toNanoseconds * count.toNat := by
  have nanoseconds := duration.toNat_nanoseconds_mul count
  have length : duration.toNanoseconds * count.toNat =
      duration.seconds.toNat * count.toNat * 1000000000
        + duration.nanoseconds.toNat * count.toNat := by
    rw [toNanoseconds, Nat.add_mul, Nat.mul_right_comm]
  have carried : (duration.nanoseconds.toUInt64 * count.toUInt64 / 1000000000).toNat =
      duration.nanoseconds.toNat * count.toNat / 1000000000 := by
    rw [UInt64.toNat_div, nanoseconds]
    rfl
  rw [length]
  unfold times?
  dsimp only
  split
  · next tooLarge =>
    have beyond := checkedProduct_eq_none_iff.mp tooLarge
    rw [UInt32.toNat_toUInt64] at beyond
    simp only [true_iff]
    omega
  · next seconds counted =>
    obtain ⟨whole, fits⟩ := checkedProduct_eq_some_iff.mp counted
    rw [UInt32.toNat_toUInt64] at whole fits
    split
    · next tooLarge =>
      have beyond := checkedSum_eq_none_iff.mp tooLarge
      rw [carried, whole] at beyond
      simp only [true_iff]
      omega
    · next total summed =>
      have within := (checkedSum_eq_some_iff.mp summed).2
      rw [carried, whole] at within
      simp only [reduceCtorEq, false_iff]
      omega

end Duration

namespace Patience

variable {patience : Patience}

/-- The longest wait, where it is a duration, is as long as all its pauses together. -/
theorem toNanoseconds_longest {longest : Duration} (defined : patience.longest? = some longest) :
    longest.toNanoseconds = patience.interval.toNat * patience.attempts.toNat * 1000000 := by
  rw [Duration.toNanoseconds_times defined, Duration.toNanoseconds_ofMilliseconds,
    Nat.mul_right_comm]

/-- The longest wait is a duration unless its seconds are too many for a word. -/
theorem longest?_eq_none_iff :
    patience.longest? = none ↔
      1000 * UInt64.size ≤ patience.interval.toNat * patience.attempts.toNat := by
  rw [longest?, Duration.times?_eq_none_iff, Duration.toNanoseconds_ofMilliseconds,
    Nat.mul_right_comm]
  omega

/-- In milliseconds it is the product. -/
theorem budget?_eq :
    patience.budget? =
      if patience.interval.toNat * patience.attempts.toNat < 1000 * UInt64.size then
        some (patience.interval.toNat * patience.attempts.toNat)
      else none := by
  unfold budget?
  split
  · next fits =>
    obtain ⟨longest, defined⟩ : ∃ longest, patience.longest? = some longest := by
      rw [← Option.ne_none_iff_exists']
      intro undefined
      exact absurd (longest?_eq_none_iff.mp undefined) (by omega)
    rw [defined, Option.map_some, Duration.toMilliseconds_eq, toNanoseconds_longest defined,
      Nat.mul_div_cancel _ (by decide)]
  · next tooLong =>
    rw [longest?_eq_none_iff.mpr (by omega), Option.map_none]

end Patience

/-- Any pause that is not empty is accepted, with any number of attempts. -/
theorem Config.accepts_patience {interval : UInt64} (pauses : interval ≠ 0) (attempts : UInt32) :
    flaw? { patience := ⟨interval, attempts⟩ } = none := by
  have staging : isOneName "staging" = true := by decide
  have libraries : isOneName "libs" = true := by decide
  simp [flaw?, pauses, staging, libraries]

namespace Session

/-- No wait takes longer than all the pauses that its resolver allows. -/
theorem wait_elapsed_le (session : Session) {id : Nat} {resolver : Resolver}
    (present : session.resolvers.get? id = some resolver) (thread : Option Thread) :
    (session.wait id thread).1.elapsed ≤ session.elapsed
      + resolver.patience.interval.toNat * resolver.patience.attempts.toNat := by
  cases thread with
  | none => exact Nat.le_add_right _ _
  | some thread =>
    obtain ⟨ends, elapsed⟩ := session.awaitThread_endsBy id thread
      resolver.patience.interval.toNat resolver.patience.attempts.toNat
    simp only [wait, present, elapsed]
    exact Nat.add_le_add_left (Nat.mul_le_mul_left _ ends.bounded) _

end Session

namespace Patience

/-- The longest wait is exact wherever it is a duration, and it is one just if the pauses together
take less than `2 ^ 64` seconds. Whatever the number of attempts, it is one for pauses of up to
4294967297000 milliseconds, and for no longer ones. No wait takes longer. Seconds and nanoseconds
are multiplied apart, with a check of the seconds only; that says no more and no less than that the
product of the whole fits. -/
theorem longest?_exact (patience : Patience) :
    (∀ longest, patience.longest? = some longest → longest.toNanoseconds =
      patience.interval.toNat * patience.attempts.toNat * 1000000) ∧
    (patience.longest? = none ↔
      1000 * UInt64.size ≤ patience.interval.toNat * patience.attempts.toNat) ∧
    patience.budget? = (if patience.interval.toNat * patience.attempts.toNat < 1000 * UInt64.size then
      some (patience.interval.toNat * patience.attempts.toNat) else none) ∧
    ((∀ attempts, longest? { patience with attempts } ≠ none) ↔
      patience.interval.toNat ≤ 4294967297000) ∧
    ∀ (session : Session) (id : Nat) (resolver : Resolver) (thread : Option Thread),
      session.resolvers.get? id = some resolver → resolver.patience = patience →
        (session.wait id thread).1.elapsed ≤ session.elapsed
          + patience.interval.toNat * patience.attempts.toNat := by
  refine ⟨fun _ => toNanoseconds_longest, longest?_eq_none_iff, budget?_eq, ⟨fun all => ?_, ?_⟩, ?_⟩
  · have most := all 4294967295
    rw [Ne, longest?_eq_none_iff] at most
    simp only [UInt32.reduceToNat, UInt64.size] at most
    omega
  · intro short attempts
    have few := attempts.toNat_lt
    rw [Ne, longest?_eq_none_iff, Nat.not_le]
    calc patience.interval.toNat * attempts.toNat
        ≤ 4294967297000 * 4294967295 := Nat.mul_le_mul short (by omega)
      _ < 1000 * UInt64.size := by decide
  · rintro session id resolver thread present rfl
    exact session.wait_elapsed_le present thread

/-- A resolver with the usual settings, on which a thread is busy and does not leave. -/
def keptBusy : Session :=
  (Session.openResolver
    { files := ⟨[(["tmp"], .directory), (["tmp", "work"], .directory)], 0⟩ } {}
    (fun _ files => (files, .ok ⟨some 0, ""⟩)) .archive none).1.markBusy 1 "main"

/-- With the usual settings no wait takes longer than five seconds, also one for a thread that does
not leave. -/
theorem longest?_exact_usual :
    (keptBusy.resolvers.get? 1).map (·.patience) = some {} ∧
      (∃ longest, longest? {} = some longest ∧ longest.toNanoseconds = 5000000000) ∧
      (keptBusy.wait 1 (some "main")).1.elapsed ≤ keptBusy.elapsed + 5000 := by
  have patience : (keptBusy.resolvers.get? 1).map (·.patience) = some {} := by decide +kernel
  obtain ⟨exact_, _, _, _, bounds⟩ := longest?_exact {}
  obtain ⟨resolver, present, usual⟩ := Option.map_eq_some_iff.mp patience
  exact ⟨patience, ⟨_, rfl, exact_ _ rfl⟩, bounds keptBusy 1 resolver (some "main") present usual⟩

/-- A configuration is accepted with the longest pause and the largest number of attempts, and so is
one with a pause one millisecond longer than can always be made. The longest waits of both are no
durations. -/
theorem longest_undefined :
    Config.flaw? { patience := ⟨18446744073709551615, 4294967295⟩ } = none ∧
      longest? ⟨18446744073709551615, 4294967295⟩ = none ∧
      Config.flaw? { patience := ⟨4294967297001, 4294967295⟩ } = none ∧
      longest? ⟨4294967297001, 4294967295⟩ = none :=
  ⟨Config.accepts_patience (by decide) _, longest?_eq_none_iff.mpr (by decide),
    Config.accepts_patience (by decide) _, longest?_eq_none_iff.mpr (by decide)⟩

end Patience

end Hotload
