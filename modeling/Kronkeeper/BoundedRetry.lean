import Mathlib.Logic.Basic

namespace Kronkeeper

/-!
# Trying until the first success, a limited number of times

`outcomes n` says whether the try after `n` earlier ones succeeds.  The number
of tries made is the position of the first success where the limit admits it,
and the limit otherwise.  This module names nothing of the scheduler.
-/

namespace BoundedRetry

variable {outcomes : Nat → Bool}
variable {limit tries : Nat}

/-- After how many tries it is over, and whether the last one succeeded. -/
inductive StopsAfter
    (outcomes : Nat → Bool)
    (limit : Nat) : Nat → Bool → Prop where
  | succeeds
      (tries : Nat)
      (within : tries < limit)
      (failed : ∀ earlier < tries, outcomes earlier = false)
      (success : outcomes tries = true) :
      StopsAfter outcomes limit (tries + 1) true
  | exhausts (failed : ∀ earlier < limit, outcomes earlier = false) :
      StopsAfter outcomes limit limit false

/-- After this many tries another one is to be made. -/
structure Pending
    (outcomes : Nat → Bool)
    (limit tries : Nat) : Prop where
  within : tries < limit
  failed : ∀ earlier < tries, outcomes earlier = false

/-- Before the first try. -/
theorem pending_zero
    (positive : 0 < limit) :
    Pending outcomes limit 0 where
  within := positive
  failed := fun _ before => (Nat.not_lt_zero _ before).elim

theorem Pending.succeeds
    (pending : Pending outcomes limit tries)
    (success : outcomes tries = true) :
    StopsAfter outcomes limit (tries + 1) true :=
  .succeeds tries pending.within pending.failed success

/-- What a failed try adds to the failures before it. -/
private theorem Pending.failed_succ
    (pending : Pending outcomes limit tries)
    (failure : outcomes tries = false) :
    ∀ earlier < tries + 1, outcomes earlier = false := by
  intro earlier before
  rcases Nat.lt_succ_iff_lt_or_eq.mp before with before | rfl
  · exact pending.failed earlier before
  · exact failure

theorem Pending.fails
    (pending : Pending outcomes limit tries)
    (failure : outcomes tries = false)
    (within : tries + 1 < limit) :
    Pending outcomes limit (tries + 1) where
  within := within
  failed := pending.failed_succ failure

theorem Pending.exhausts
    (pending : Pending outcomes limit tries)
    (failure : outcomes tries = false)
    (last : tries + 1 = limit) :
    StopsAfter outcomes limit (tries + 1) false := by
  subst last
  exact .exhausts (pending.failed_succ failure)

/-- A pending state comes before the end. -/
theorem Pending.lt
    {total : Nat}
    {succeeded : Bool}
    (pending : Pending outcomes limit tries)
    (stops : StopsAfter outcomes limit total succeeded) :
    tries < total := by
  cases stops with
  | succeeds last _ _ success =>
      rcases Nat.lt_or_ge last tries with before | notBefore
      · rw [pending.failed last before] at success
        cases success
      · exact Nat.lt_succ_of_le notBefore
  | exhausts =>
      exact pending.within

/-- It is over once. -/
theorem StopsAfter.unique
    {first second : Nat}
    {firstSucceeded secondSucceeded : Bool}
    (firstStops : StopsAfter outcomes limit first firstSucceeded)
    (secondStops : StopsAfter outcomes limit second secondSucceeded) :
    first = second ∧ firstSucceeded = secondSucceeded := by
  cases firstStops with
  | succeeds firstTries firstWithin firstFailed firstSuccess =>
      have firstPending : Pending outcomes limit firstTries :=
        ⟨firstWithin, firstFailed⟩
      cases secondStops with
      | succeeds secondTries secondWithin secondFailed secondSuccess =>
          have secondPending : Pending outcomes limit secondTries :=
            ⟨secondWithin, secondFailed⟩
          have before :=
            firstPending.lt (secondPending.succeeds secondSuccess)
          have after :=
            secondPending.lt (firstPending.succeeds firstSuccess)
          exact ⟨by omega, rfl⟩
      | exhausts failed =>
          rw [failed firstTries firstWithin] at firstSuccess
          cases firstSuccess
  | exhausts failed =>
      cases secondStops with
      | succeeds secondTries secondWithin _ secondSuccess =>
          rw [failed secondTries secondWithin] at secondSuccess
          cases secondSuccess
      | exhausts =>
          exact ⟨rfl, rfl⟩

end BoundedRetry

end Kronkeeper
