import Mathlib.Algebra.BigOperators.Group.Finset.Piecewise
import Mathlib.Algebra.Order.BigOperators.Group.Finset
import Mathlib.Data.Fintype.Basic
import Mathlib.Data.List.Nodup
import Mathlib.Logic.Function.Basic

namespace Kronkeeper

/-!
# Single custody of a token handed through a queue

A producer takes a token into its hand and pushes it onto a queue; a consumer
pops it and later drops it.  `SingleCustody` says that no token is in two
places.  Only taking a token can break it, and only if the token is still
somewhere else; every other move of the pattern keeps it.  The later sections
do without the queue: tokens pass between holders along any path, and holders
of a kind are counted.
-/

namespace Handoff

universe u v

variable {Token : Type u} {Holder : Type v}

/-- No token is held twice across the hand, the queue and the holders. -/
structure SingleCustody
    (hand : Option Token)
    (queue : List Token)
    (holds : Holder → Option Token) : Prop where
  queueNodup : queue.Nodup
  handNotQueued : ∀ token, hand = some token → token ∉ queue
  handNotHeld :
    ∀ token, hand = some token → ∀ holder, holds holder ≠ some token
  queuedNotHeld :
    ∀ token ∈ queue, ∀ holder, holds holder ≠ some token
  holderUnique :
    ∀ first second token,
      holds first = some token →
      holds second = some token →
      first = second

/-- The token is in nobody's custody. -/
structure Free
    (hand : Option Token)
    (queue : List Token)
    (holds : Holder → Option Token)
    (token : Token) : Prop where
  hand : hand ≠ some token
  queue : token ∉ queue
  holder : ∀ holder, holds holder ≠ some token

instance
    [DecidableEq Token]
    [Fintype Holder]
    (hand : Option Token)
    (queue : List Token)
    (holds : Holder → Option Token)
    (token : Token) :
    Decidable (Free hand queue holds token) :=
  decidable_of_iff
    (hand ≠ some token ∧ token ∉ queue ∧
      ∀ holder, holds holder ≠ some token)
    ⟨fun parts => ⟨parts.1, parts.2.1, parts.2.2⟩,
      fun free => ⟨free.hand, free.queue, free.holder⟩⟩

namespace SingleCustody

variable {hand : Option Token}
variable {queue : List Token}
variable {holds : Holder → Option Token}

/-- Nothing in circulation. -/
theorem empty
    (idle : ∀ holder, holds holder = none) :
    SingleCustody (none : Option Token) [] holds where
  queueNodup := List.nodup_nil
  handNotQueued := by simp
  handNotHeld := by simp
  queuedNotHeld := by simp
  holderUnique := by simp [idle]

/-- The producer lets go of what it has in hand. -/
theorem release
    (custody : SingleCustody hand queue holds) :
    SingleCustody none queue holds :=
  { custody with
    handNotQueued := by simp
    handNotHeld := by simp }

/-- The producer takes a token that nobody has. -/
theorem take
    (custody : SingleCustody none queue holds)
    {token : Token}
    (free : Free none queue holds token) :
    SingleCustody (some token) queue holds :=
  { custody with
    handNotQueued := by
      rintro _ ⟨rfl⟩
      exact free.queue
    handNotHeld := by
      rintro _ ⟨rfl⟩
      exact free.holder }

/-- The producer pushes what it has in hand. -/
theorem push
    {token : Token}
    (custody : SingleCustody (some token) queue holds) :
    SingleCustody none (queue ++ [token]) holds where
  queueNodup := by
    rw [List.nodup_append]
    refine ⟨custody.queueNodup, List.nodup_singleton token, ?_⟩
    intro queued member other otherMember same
    obtain rfl := List.mem_singleton.mp otherMember
    exact custody.handNotQueued other rfl (same ▸ member)
  handNotQueued := by simp
  handNotHeld := by simp
  queuedNotHeld := by
    intro queued member
    rcases List.mem_append.mp member with inQueue | isLast
    · exact custody.queuedNotHeld queued inQueue
    · obtain rfl := List.mem_singleton.mp isLast
      exact custody.handNotHeld queued rfl
  holderUnique := custody.holderUnique

/-- The queue is emptied. -/
theorem clear
    (custody : SingleCustody hand queue holds) :
    SingleCustody hand [] holds :=
  { custody with
    queueNodup := List.nodup_nil
    handNotQueued := by simp
    queuedNotHeld := by simp }

/-- Holders may drop what they hold, but take nothing new. -/
theorem shrink
    {fewer : Holder → Option Token}
    (custody : SingleCustody hand queue holds)
    (shrinks :
      ∀ holder token,
        fewer holder = some token →
        holds holder = some token) :
    SingleCustody hand queue fewer where
  queueNodup := custody.queueNodup
  handNotQueued := custody.handNotQueued
  handNotHeld := by
    intro token held holder stillHeld
    exact custody.handNotHeld token held holder
      (shrinks holder token stillHeld)
  queuedNotHeld := by
    intro token member holder stillHeld
    exact custody.queuedNotHeld token member holder
      (shrinks holder token stillHeld)
  holderUnique := by
    intro first second token firstHolds secondHolds
    exact custody.holderUnique first second token
      (shrinks first token firstHolds) (shrinks second token secondHolds)

variable [DecidableEq Holder]

/-- A consumer pops the oldest token. -/
theorem pop
    {token : Token}
    {rest : List Token}
    (custody : SingleCustody hand (token :: rest) holds)
    (holder : Holder) :
    SingleCustody hand rest
      (Function.update holds holder (some token)) where
  queueNodup := (List.nodup_cons.mp custody.queueNodup).2
  handNotQueued := by
    intro held isHeld member
    exact custody.handNotQueued held isHeld (List.mem_cons_of_mem _ member)
  handNotHeld := by
    intro held isHeld other
    rcases eq_or_ne other holder with rfl | different
    · rw [Function.update_self]
      rintro ⟨rfl⟩
      exact custody.handNotQueued token isHeld List.mem_cons_self
    · rw [Function.update_of_ne different]
      exact custody.handNotHeld held isHeld other
  queuedNotHeld := by
    intro queued member other
    rcases eq_or_ne other holder with rfl | different
    · rw [Function.update_self]
      rintro ⟨rfl⟩
      exact (List.nodup_cons.mp custody.queueNodup).1 member
    · rw [Function.update_of_ne different]
      exact custody.queuedNotHeld queued
        (List.mem_cons_of_mem _ member) other
  holderUnique := by
    have poppedNotHeld := custody.queuedNotHeld token List.mem_cons_self
    intro first second held firstHolds secondHolds
    rcases eq_or_ne first holder with rfl | firstOther <;>
      rcases eq_or_ne second first with rfl | secondOther
    · rfl
    · rw [Function.update_self] at firstHolds
      rw [Function.update_of_ne secondOther] at secondHolds
      obtain rfl := Option.some.inj firstHolds
      exact (poppedNotHeld second secondHolds).elim
    · rfl
    · rw [Function.update_of_ne firstOther] at firstHolds
      rcases eq_or_ne second holder with rfl | secondNotHolder
      · rw [Function.update_self] at secondHolds
        obtain rfl := Option.some.inj secondHolds
        exact (poppedNotHeld first firstHolds).elim
      · rw [Function.update_of_ne secondNotHolder] at secondHolds
        exact custody.holderUnique first second held
          firstHolds secondHolds

end SingleCustody

/-! ## Tokens without a fixed path -/

/-- No token has two holders. -/
def Sole (holds : Holder → Token → Prop) : Prop :=
  ∀ token first second,
    holds first token →
    holds second token →
    first = second

/--
A step keeps it that way if it has one taker for each token, who takes it from
a holder that lets go of it or from nobody.
-/
theorem Sole.step
    {before after : Holder → Token → Prop}
    (sole : Sole before)
    (oneTaker :
      ∀ token first second,
        after first token →
        ¬before first token →
        after second token →
        ¬before second token →
        first = second)
    (handsOver :
      ∀ token taker,
        after taker token →
        ¬before taker token →
        (∃ giver, before giver token ∧ ¬after giver token) ∨
          ∀ holder, ¬before holder token) :
    Sole after := by
  have keeperIsTaker :
      ∀ token keeper taker,
        before keeper token →
        after keeper token →
        after taker token →
        ¬before taker token →
        keeper = taker := by
    intro token keeper taker held keeps takes fresh
    rcases handsOver token taker takes fresh with
      ⟨giver, gave, letGo⟩ | unheld
    · rw [sole token keeper giver held gave] at keeps
      exact (letGo keeps).elim
    · exact (unheld keeper held).elim
  intro token first second firstHolds secondHolds
  by_cases firstHeld : before first token
  · by_cases secondHeld : before second token
    · exact sole token first second firstHeld secondHeld
    · exact keeperIsTaker token first second firstHeld firstHolds
        secondHolds secondHeld
  · by_cases secondHeld : before second token
    · exact (keeperIsTaker token second first secondHeld secondHolds
        firstHolds firstHeld).symm
    · exact oneTaker token first second firstHolds firstHeld secondHolds
        secondHeld

/-! ## Counting holders -/

section Tally

variable [Fintype Holder]

/-- How many holders have a property. -/
def tally (has : Holder → Bool) : Nat :=
  ∑ holder, (has holder).toNat

theorem tally_eq_zero_iff {has : Holder → Bool} :
    tally has = 0 ↔ ∀ holder, has holder = false := by
  simp [tally, Finset.sum_eq_zero_iff]

theorem le_tally (has : Holder → Bool) (holder : Holder) :
    (has holder).toNat ≤ tally has := by
  unfold tally
  exact Finset.single_le_sum (fun other _ => Nat.zero_le (has other).toNat)
    (Finset.mem_univ holder)

/-- When one holder changes its kind, the tally follows that holder. -/
theorem tally_update
    [DecidableEq Holder]
    {Kind : Type*}
    (has : Kind → Bool)
    (kinds : Holder → Kind)
    (holder : Holder)
    (next : Kind) :
    tally (fun other => has (Function.update kinds holder next other)) +
        (has (kinds holder)).toNat =
      tally (fun other => has (kinds other)) + (has next).toNat := by
  have others :
      ∑ other ∈ Finset.univ.erase holder,
          (has (Function.update kinds holder next other)).toNat =
        ∑ other ∈ Finset.univ.erase holder, (has (kinds other)).toNat := by
    apply Finset.sum_congr rfl
    intro other isOther
    rw [Function.update_of_ne (Finset.ne_of_mem_erase isOther)]
  have split :=
    fun count : Holder → Nat =>
      (Finset.add_sum_erase Finset.univ count
        (Finset.mem_univ holder)).symm
  unfold tally
  rw [split fun other => (has (Function.update kinds holder next other)).toNat,
    split fun other => (has (kinds other)).toNat, others,
    Function.update_self]
  omega

end Tally

end Handoff

end Kronkeeper
