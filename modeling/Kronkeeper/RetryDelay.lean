import Mathlib.Algebra.Order.Ring.Int
import Mathlib.Order.Lattice
import Mathlib.Tactic.NormNum
import Mathlib.Tactic.Positivity
import Kronkeeper.WorkerTask

namespace Kronkeeper

/-!
# The retry backoff

`compute_retry_delay` saturates the power and then multiplies in `i64`.  Its
result is the delay over the integers exactly where that product fits, and the
product fits unless a delay of two seconds or more is doubled too often.
-/

/-- How often the delay is doubled. -/
def retryExponent (attemptCount : Int) : Nat :=
  (max (attemptCount - 1) 0).toNat

/-- The product as the source forms it, before it is cut to `i64`. -/
def retryProduct (retryDelaySec attemptCount : Int) : Int :=
  retryDelaySec * saturatingPowTwo (retryExponent attemptCount)

/-- The delay over the integers. -/
def exactRetryDelay
    (retryDelaySec attemptCount maxBackoffSecs : Int) : Int :=
  min (retryDelaySec * 2 ^ retryExponent attemptCount) maxBackoffSecs

/-- A value of `i64`. -/
def FitsI64 (value : Int) : Prop :=
  -2 ^ 63 ≤ value ∧ value < 2 ^ 63

/-- The doubled delay stays below `2^63`, or there is nothing to double. -/
def DoublesSafely (retryDelaySec attemptCount : Int) : Prop :=
  retryDelaySec ≤ 1 ∨
    retryDelaySec * 2 ^ retryExponent attemptCount < 2 ^ 63

theorem wrapI64_eq_self
    {value : Int}
    (fits : FitsI64 value) :
    wrapI64 value = value := by
  unfold FitsI64 at fits
  unfold wrapI64
  exact Int.bmod_eq_of_le (by omega) (by omega)

theorem computeRetryDelay_eq
    (retryDelaySec attemptCount maxBackoffSecs : Int) :
    computeRetryDelay retryDelaySec attemptCount maxBackoffSecs =
      min (wrapI64 (retryProduct retryDelaySec attemptCount))
        maxBackoffSecs :=
  rfl

/-! ## The saturating power -/

theorem saturatingPowTwo_of_lt
    {exp : Nat}
    (small : exp < 63) :
    saturatingPowTwo exp = 2 ^ exp :=
  if_pos small

theorem saturatingPowTwo_of_ge
    {exp : Nat}
    (large : 63 ≤ exp) :
    saturatingPowTwo exp = 2 ^ 63 - 1 :=
  if_neg (Nat.not_lt.mpr large)

theorem two_pow_le_two_pow
    {first second : Nat}
    (le : first ≤ second) :
    (2 : Int) ^ first ≤ 2 ^ second :=
  pow_le_pow_right₀ (by decide) le

theorem saturatingPowTwo_nonneg (exp : Nat) :
    0 ≤ saturatingPowTwo exp := by
  unfold saturatingPowTwo
  split
  · positivity
  · norm_num

theorem saturatingPowTwo_mono
    {first second : Nat}
    (le : first ≤ second) :
    saturatingPowTwo first ≤ saturatingPowTwo second := by
  rcases Nat.lt_or_ge second 63 with small | large
  · rw [saturatingPowTwo_of_lt (lt_of_le_of_lt le small),
      saturatingPowTwo_of_lt small]
    exact two_pow_le_two_pow le
  · rw [saturatingPowTwo_of_ge large]
    rcases Nat.lt_or_ge first 63 with firstSmall | firstLarge
    · rw [saturatingPowTwo_of_lt firstSmall]
      have bound : (2 : Int) ^ first ≤ 2 ^ 62 :=
        two_pow_le_two_pow (by omega)
      omega
    · rw [saturatingPowTwo_of_ge firstLarge]

theorem retryExponent_mono
    {first second : Int}
    (le : first ≤ second) :
    retryExponent first ≤ retryExponent second := by
  unfold retryExponent
  omega

/-! ## The product -/

section Product

variable {retryDelaySec maxBackoffSecs : Int}

theorem retryProduct_nonneg
    (nonneg : 0 ≤ retryDelaySec)
    (attemptCount : Int) :
    0 ≤ retryProduct retryDelaySec attemptCount :=
  mul_nonneg nonneg (saturatingPowTwo_nonneg _)

theorem retryProduct_mono
    (nonneg : 0 ≤ retryDelaySec)
    {first second : Int}
    (le : first ≤ second) :
    retryProduct retryDelaySec first ≤ retryProduct retryDelaySec second :=
  mul_le_mul_of_nonneg_left
    (saturatingPowTwo_mono (retryExponent_mono le)) nonneg

/-- The product fits exactly where the doubling is safe. -/
theorem fits_retryProduct_iff
    (nonneg : 0 ≤ retryDelaySec)
    (attemptCount : Int) :
    FitsI64 (retryProduct retryDelaySec attemptCount) ↔
      DoublesSafely retryDelaySec attemptCount := by
  have productNonneg : 0 ≤ retryProduct retryDelaySec attemptCount :=
    retryProduct_nonneg nonneg attemptCount
  have fits :
      FitsI64 (retryProduct retryDelaySec attemptCount) ↔
        retryProduct retryDelaySec attemptCount < 2 ^ 63 := by
    unfold FitsI64
    omega
  rw [fits]
  unfold retryProduct DoublesSafely
  generalize retryExponent attemptCount = exp
  rcases Nat.lt_or_ge exp 63 with small | large
  · rw [saturatingPowTwo_of_lt small]
    have bound : (2 : Int) ^ exp ≤ 2 ^ 62 :=
      two_pow_le_two_pow (by omega)
    constructor
    · exact Or.inr
    · rintro (atMostOne | below)
      · calc
          retryDelaySec * 2 ^ exp ≤ 1 * 2 ^ exp :=
            mul_le_mul_of_nonneg_right atMostOne (by positivity)
          _ < 2 ^ 63 := by omega
      · exact below
  · rw [saturatingPowTwo_of_ge large]
    have bound : (2 : Int) ^ 63 ≤ 2 ^ exp := two_pow_le_two_pow large
    constructor
    · intro below
      left
      omega
    · rintro (atMostOne | below)
      · omega
      · by_contra overflows
        have one : 1 ≤ retryDelaySec := by omega
        have atLeast : 1 * 2 ^ exp ≤ retryDelaySec * 2 ^ exp :=
          mul_le_mul_of_nonneg_right one (by positivity)
        omega

/-- Where it fits, capping it gives the delay over the integers. -/
theorem min_retryProduct
    {attemptCount : Int}
    (nonneg : 0 ≤ retryDelaySec)
    (backoffFits : maxBackoffSecs < 2 ^ 63)
    (fits : FitsI64 (retryProduct retryDelaySec attemptCount)) :
    min (retryProduct retryDelaySec attemptCount) maxBackoffSecs =
      exactRetryDelay retryDelaySec attemptCount maxBackoffSecs := by
  have below := fits.2
  unfold exactRetryDelay
  unfold retryProduct at below ⊢
  generalize retryExponent attemptCount = exp at below ⊢
  rcases Nat.lt_or_ge exp 63 with small | large
  · rw [saturatingPowTwo_of_lt small]
  · rw [saturatingPowTwo_of_ge large] at below ⊢
    have bound : (2 : Int) ^ 63 ≤ 2 ^ exp := two_pow_le_two_pow large
    -- Past the saturation only delays of zero and one second are left.
    have zeroOrOne : retryDelaySec = 0 ∨ retryDelaySec = 1 := by omega
    rcases zeroOrOne with rfl | rfl
    · rw [zero_mul, zero_mul]
    · rw [one_mul, one_mul, min_eq_right (by omega),
        min_eq_right (by omega)]

end Product

/--
`compute_retry_delay` multiplies without overflow and returns the delay over
the integers exactly where the doubling is safe; there the result lies between
zero and the cap, and no earlier attempt waits longer.
-/
theorem compute_retry_delay_exact_iff
    {retryDelaySec maxBackoffSecs : Int}
    (attemptCount : Int)
    (delayNonneg : 0 ≤ retryDelaySec)
    (backoffNonneg : 0 ≤ maxBackoffSecs)
    (backoffFits : maxBackoffSecs < 2 ^ 63) :
    ((FitsI64 (retryProduct retryDelaySec attemptCount) ∧
        computeRetryDelay retryDelaySec attemptCount maxBackoffSecs =
          exactRetryDelay retryDelaySec attemptCount maxBackoffSecs) ↔
      DoublesSafely retryDelaySec attemptCount) ∧
      (DoublesSafely retryDelaySec attemptCount →
        0 ≤ computeRetryDelay retryDelaySec attemptCount
            maxBackoffSecs ∧
          computeRetryDelay retryDelaySec attemptCount maxBackoffSecs ≤
            maxBackoffSecs ∧
          ∀ earlier ≤ attemptCount,
            computeRetryDelay retryDelaySec earlier maxBackoffSecs ≤
              computeRetryDelay retryDelaySec attemptCount
                maxBackoffSecs) := by
  have fitsIff := fits_retryProduct_iff delayNonneg attemptCount
  refine ⟨⟨fun exact => fitsIff.mp exact.1, fun safe => ?_⟩, fun safe => ?_⟩
  · have fits := fitsIff.mpr safe
    refine ⟨fits, ?_⟩
    rw [computeRetryDelay_eq, wrapI64_eq_self fits]
    exact min_retryProduct delayNonneg backoffFits fits
  · have fits := fitsIff.mpr safe
    have productNonneg := retryProduct_nonneg delayNonneg attemptCount
    rw [computeRetryDelay_eq, wrapI64_eq_self fits]
    refine ⟨le_min productNonneg backoffNonneg, min_le_right _ _, ?_⟩
    intro earlier le
    have productLe := retryProduct_mono delayNonneg le
    have earlierNonneg := retryProduct_nonneg delayNonneg earlier
    have earlierFits :
        FitsI64 (retryProduct retryDelaySec earlier) :=
      ⟨by omega, lt_of_le_of_lt productLe fits.2⟩
    rw [computeRetryDelay_eq, wrapI64_eq_self earlierFits]
    exact min_le_min_right maxBackoffSecs productLe

/-- A handler dates a safely doubled retry by the delay over the integers. -/
theorem ResultHandler.retryAt_eq_exact
    {config : Config}
    {job : Job}
    {result : ExecutionResult}
    {now retryAt : Time}
    {attempt : Int}
    (disposed :
      dispose? config job result now = some (.retry retryAt attempt))
    (delayNonneg : 0 ≤ job.retryDelaySec)
    (backoffFits : config.maxRetryBackoffSecs < 2 ^ 63)
    (safe : DoublesSafely job.retryDelaySec attempt) :
    retryAt =
      now +
        Time.seconds
          (exactRetryDelay job.retryDelaySec attempt
            config.maxRetryBackoffSecs) := by
  have fits := (fits_retryProduct_iff delayNonneg attempt).mpr safe
  rw [← min_retryProduct delayNonneg backoffFits fits,
    ← wrapI64_eq_self fits, ← computeRetryDelay_eq]
  unfold dispose? branch at disposed
  split at disposed
  · cases disposed
  · split at disposed
    · cases disposed
    · dsimp only at disposed
      split at disposed
      · cases disposed
      · obtain ⟨instant, dated, same⟩ :=
          Option.map_eq_some_iff.mp disposed
        cases same
        unfold retryInstant? at dated
        split at dated
        · dsimp only at dated
          split at dated
          · exact (Option.some.inj dated).symm
          · cases dated
        · cases dated

/-! ## Concrete delays -/

namespace Sample

/-- The tenth attempt of a job with the default delay waits for the cap. -/
theorem tenth_attempt_waits_for_cap :
    DoublesSafely 60 10 ∧
      FitsI64 (retryProduct 60 10) ∧
      computeRetryDelay 60 10 3600 = exactRetryDelay 60 10 3600 ∧
      exactRetryDelay 60 10 3600 = 3600 := by
  have safe : DoublesSafely 60 10 := Or.inr (by decide)
  have delayNonneg : (0 : Int) ≤ 60 := by decide
  have backoffNonneg : (0 : Int) ≤ 3600 := by decide
  have backoffFits : (3600 : Int) < 2 ^ 63 := by decide
  obtain ⟨fits, exact⟩ :=
    (compute_retry_delay_exact_iff 10 delayNonneg backoffNonneg
      backoffFits).1.mpr safe
  exact ⟨safe, fits, exact, by decide⟩

/-- With the default delay and cap, the 59th attempt is dated in the past. -/
theorem default_delay_overflows :
    ¬FitsI64 (retryProduct 60 59) ∧
      computeRetryDelay 60 59 3600 = -1152921504606846976 ∧
      exactRetryDelay 60 59 3600 = 3600 ∧
      computeRetryDelay 60 59 3600 < computeRetryDelay 60 58 3600 := by
  refine ⟨fun fits => absurd fits.2 ?_, ?_, ?_, ?_⟩ <;> decide

end Sample

end Kronkeeper
