import Redelivery.Pipeline.World

/-! The delays of a linear policy are the multiples of its increase, up to the longest duration.
They are computed on seconds and nanoseconds apart. In machine words the product of the nanoseconds
always fits, and the operations on seconds are checked, so that words give the same delays. -/
namespace Redelivery

theorem toNanos_saturatingMul (d : Duration) (count : Nat) :
    (d.saturatingMul count).toNanos = min (count * d.toNanos) Duration.longest.toNanos := by
  have product : count * d.toNanos = d.seconds * count * 1000000000 + d.nanos * count := by
    rw [Duration.toNanos, Nat.mul_add, Nat.mul_comm count d.nanos, Nat.mul_comm count,
      Nat.mul_right_comm]
  have most : Duration.longest.toNanos = 18446744073709551615999999999 := rfl
  rw [product, most]
  simp only [Duration.saturatingMul]
  split
  · simp only [Duration.toNanos]
    omega
  · rw [most]
    omega

/-- Seconds in 64 bits and nanoseconds in 32, of any size. -/
structure TimeWords where
  seconds : UInt64
  nanos : UInt32
  deriving DecidableEq

namespace TimeWords

def checkedMul (a b : UInt64) : Option UInt64 :=
  if a.toNat * b.toNat < 18446744073709551616 then some (a * b) else none

def checkedAdd (a b : UInt64) : Option UInt64 :=
  if a.toNat + b.toNat < 18446744073709551616 then some (a + b) else none

def longest : TimeWords := ⟨18446744073709551615, 999999999⟩

/-- The product with a count. The nanoseconds are multiplied without a check. -/
def times? (t : TimeWords) (count : UInt32) : Option TimeWords := do
  let nanos := t.nanos.toUInt64 * count.toUInt64
  let product ← checkedMul t.seconds count.toUInt64
  let seconds ← checkedAdd product (nanos / 1000000000)
  return ⟨seconds, (nanos % 1000000000).toUInt32⟩

def linearDelay (retries : UInt32) (increase : TimeWords) (retry : UInt32) : Option TimeWords :=
  if retry = 0 ∨ retries < retry then none else some ((increase.times? retry).getD longest)

/-- Words that hold a duration. -/
structure Holds (t : TimeWords) (d : Duration) : Prop where
  seconds : t.seconds.toNat = d.seconds
  nanos : t.nanos.toNat = d.nanos

end TimeWords

def Duration.words (d : Duration) : TimeWords := ⟨.ofNat d.seconds, .ofNat d.nanos⟩

section words
variable {t : TimeWords} {d : Duration}

theorem holds_words (d : Duration) : d.words.Holds d where
  seconds := UInt64.toNat_ofNat_of_lt d.seconds_lt
  nanos := UInt32.toNat_ofNat_of_lt (Nat.lt_trans d.nanos_lt (by decide))

namespace TimeWords

theorem Holds.eq_words (holds : t.Holds d) : t = d.words := by
  obtain ⟨seconds, nanos⟩ := t
  have sameSeconds := UInt64.toNat_inj.1 (holds.seconds.trans (holds_words d).seconds.symm)
  have sameNanos := UInt32.toNat_inj.1 (holds.nanos.trans (holds_words d).nanos.symm)
  cases sameSeconds
  cases sameNanos
  rfl

theorem nanos_mul_lt (d : Duration) (count : UInt32) : d.nanos * count.toNat < 18446744073709551616 := by
  have within : d.nanos * count.toNat ≤ 1000000000 * 4294967296 :=
    Nat.mul_le_mul (Nat.le_of_lt d.nanos_lt) (Nat.le_of_lt count.toNat_lt)
  omega

/-- The unchecked product of the nanoseconds is the true one. -/
theorem Holds.nanos_mul (holds : t.Holds d) (count : UInt32) :
    (t.nanos.toUInt64 * count.toUInt64).toNat = d.nanos * count.toNat := by
  rw [UInt64.toNat_mul, UInt32.toNat_toUInt64, UInt32.toNat_toUInt64, holds.nanos]
  exact Nat.mod_eq_of_lt (nanos_mul_lt d count)

theorem Holds.carry (holds : t.Holds d) (count : UInt32) :
    (t.nanos.toUInt64 * count.toUInt64 / 1000000000).toNat =
      d.nanos * count.toNat / 1000000000 := by
  rw [UInt64.toNat_div, holds.nanos_mul]
  rfl

theorem Holds.remainder (holds : t.Holds d) (count : UInt32) :
    (t.nanos.toUInt64 * count.toUInt64 % 1000000000).toUInt32.toNat =
      d.nanos * count.toNat % 1000000000 := by
  have small : d.nanos * count.toNat % 1000000000 < 4294967296 :=
    Nat.lt_trans (Nat.mod_lt _ (by decide)) (by decide)
  rw [UInt64.toNat_toUInt32, UInt64.toNat_mod, holds.nanos_mul]
  exact Nat.mod_eq_of_lt small

/-- The checks let a product pass exactly if its seconds fit in a word. -/
theorem Holds.times (holds : t.Holds d) (count : UInt32) :
    ((t.times? count).getD longest).Holds (d.saturatingMul count.toNat) := by
  have carry := holds.carry count
  have remainder := holds.remainder count
  have factor : t.seconds.toNat * count.toUInt64.toNat = d.seconds * count.toNat := by
    rw [holds.seconds, UInt32.toNat_toUInt64]
  have product : (t.seconds * count.toUInt64).toNat = d.seconds * count.toNat % 18446744073709551616 := by
    rw [UInt64.toNat_mul, factor]
  simp only [times?, checkedMul, factor, Duration.saturatingMul]
  by_cases multiplies : d.seconds * count.toNat < 18446744073709551616
  · rw [if_pos multiplies, Option.bind_eq_bind, Option.bind_some]
    rw [Nat.mod_eq_of_lt multiplies] at product
    simp only [checkedAdd, product, carry]
    by_cases adds : d.seconds * count.toNat + d.nanos * count.toNat / 1000000000 < 18446744073709551616
    · rw [if_pos adds, dif_pos adds]
      refine ⟨?_, remainder⟩
      change (t.seconds * count.toUInt64 + _).toNat = _
      rw [UInt64.toNat_add, product, carry]
      exact Nat.mod_eq_of_lt adds
    · rw [if_neg adds, dif_neg adds]
      exact ⟨rfl, rfl⟩
  · have exceeds : ¬ d.seconds * count.toNat + d.nanos * count.toNat / 1000000000 < 18446744073709551616 := by
      omega
    rw [if_neg multiplies, dif_neg exceeds]
    exact ⟨rfl, rfl⟩

/-- In words a linear policy gives the delays that it gives in numbers of any size. -/
theorem linearDelay_words (retries : UInt32) (increase : Duration) (retry : UInt32) :
    linearDelay retries increase.words retry =
      (DelayPolicy.linearDelay retries.toNat increase retry.toNat).map Duration.words := by
  have none_iff : (retry = 0 ∨ retries < retry) ↔
      (retry.toNat = 0 ∨ retries.toNat < retry.toNat) := by
    rw [← UInt32.toNat_inj, UInt32.lt_iff_toNat_lt]
    rfl
  rw [linearDelay, DelayPolicy.linearDelay]
  by_cases denied : retry = 0 ∨ retries < retry
  · rw [if_pos denied, if_pos (none_iff.1 denied)]
    rfl
  · rw [if_neg denied, if_neg fun refused => denied (none_iff.2 refused)]
    exact congrArg some ((holds_words increase).times retry).eq_words

end TimeWords
end words

section delays
variable {retries retry retry' : Nat} {increase delay delay' : Duration}

theorem isSome_linearDelay (retries : Nat) (increase : Duration) (retry : Nat) :
    (DelayPolicy.linearDelay retries increase retry).isSome = true ↔ 1 ≤ retry ∧ retry ≤ retries := by
  rw [DelayPolicy.linearDelay]
  split
  · exact iff_of_false Bool.false_ne_true (by omega)
  · exact iff_of_true rfl (by omega)

theorem toNanos_linearDelay (given : DelayPolicy.linearDelay retries increase retry = some delay) :
    delay.toNanos = min (retry * increase.toNanos) Duration.longest.toNanos := by
  rw [DelayPolicy.linearDelay] at given
  split at given
  · cases given
  · cases given
    exact toNanos_saturatingMul increase retry

theorem linearDelay_mono (given : DelayPolicy.linearDelay retries increase retry = some delay)
    (given' : DelayPolicy.linearDelay retries increase retry' = some delay')
    (later : retry ≤ retry') : delay.toNanos ≤ delay'.toNanos := by
  have grows : retry * increase.toNanos ≤ retry' * increase.toNanos :=
    Nat.mul_le_mul_right _ later
  rw [toNanos_linearDelay given, toNanos_linearDelay given']
  omega

theorem toNanos_inj {a b : Duration} (same : a.toNanos = b.toNanos) : a = b := by
  obtain ⟨seconds, nanos, _, nanos_lt⟩ := a
  obtain ⟨seconds', nanos', _, nanos_lt'⟩ := b
  simp only [Duration.toNanos] at same
  have : seconds = seconds' := by omega
  have : nanos = nanos' := by omega
  subst seconds nanos
  rfl

theorem linearDelay_strictMono
    (given : DelayPolicy.linearDelay retries increase retry = some delay)
    (given' : DelayPolicy.linearDelay retries increase retry' = some delay')
    (later : retry < retry') (positive : 0 < increase.toNanos) (short : delay ≠ .longest) :
    delay.toNanos < delay'.toNanos := by
  have grows : retry * increase.toNanos < retry' * increase.toNanos :=
    Nat.mul_lt_mul_of_pos_right later positive
  have below : delay.toNanos ≠ Duration.longest.toNanos := fun same => short (toNanos_inj same)
  rw [toNanos_linearDelay given] at below ⊢
  rw [toNanos_linearDelay given']
  omega

end delays

/-- A linear policy grants the retries up to its last one, whatever failed and whenever it is asked.
Retry k waits k increases to the nanosecond, the longest duration at most. So the delays never get
shorter, and get longer with every retry until they are the longest, unless the increase is zero. In
machine words no product overflows unseen, and the nanoseconds of a delay stay below a second. -/
theorem linear_delays_progress {σ : Type} (o : Outside σ) (retries : UInt32)
    (increase : Duration) :
    let answer (q : DelayQuestion) (st : σ) :=
      (o.answerPolicy (.linear retries.toNat increase) q st).1
    (∀ q st, (answer q st).isSome = true ↔ 1 ≤ q.retry ∧ q.retry ≤ retries.toNat) ∧
    (∀ q st delay, answer q st = some delay →
      delay.toNanos = min (q.retry * increase.toNanos) Duration.longest.toNanos) ∧
    (∀ q st delay q' st' delay', answer q st = some delay → answer q' st' = some delay' →
      (q.retry ≤ q'.retry → delay.toNanos ≤ delay'.toNanos) ∧
      (q.retry < q'.retry → 0 < increase.toNanos → delay ≠ .longest →
        delay.toNanos < delay'.toNanos)) ∧
    ∀ retry : UInt32, increase.nanos * retry.toNat < 18446744073709551616 ∧
      TimeWords.linearDelay retries increase.words retry =
        (DelayPolicy.linearDelay retries.toNat increase retry.toNat).map Duration.words ∧
      ∀ delay, TimeWords.linearDelay retries increase.words retry = some delay →
        delay.nanos.toNat < 1000000000 := by
  refine ⟨fun q _ => isSome_linearDelay _ _ q.retry, fun _ _ _ => toNanos_linearDelay,
    fun _ _ _ _ _ _ given given' =>
      ⟨linearDelay_mono given given', linearDelay_strictMono given given'⟩,
    fun retry => ⟨TimeWords.nanos_mul_lt increase retry,
      TimeWords.linearDelay_words retries increase retry, fun delay given => ?_⟩⟩
  rw [TimeWords.linearDelay_words, Option.map_eq_some_iff] at given
  obtain ⟨d, -, rfl⟩ := given
  rw [(holds_words d).nanos]
  exact d.nanos_lt

end Redelivery
