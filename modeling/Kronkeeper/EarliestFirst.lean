import Mathlib.Data.List.MinMax
import Mathlib.Data.List.Perm.Subperm

namespace Kronkeeper

/-!
# Windows and queues ordered by a key

Two ways of serving the smallest key first.  `Window` describes the answer of
an ordered query with a limit; among equal keys any choice is an answer.
`IsLeast` describes what a priority queue hands out; again ties are open.
`Served` describes what it has handed out so far.
-/

namespace EarliestFirst

universe u v

variable {Item : Type u} {Rank : Type v} [LinearOrder Rank]

/-- An entry with the smallest key of the queue. -/
def IsLeast (key : Item → Rank) (queue : List Item) (item : Item) : Prop :=
  item ∈ queue ∧ ∀ other ∈ queue, key item ≤ key other

instance
    [DecidableEq Item]
    (key : Item → Rank)
    (queue : List Item)
    (item : Item) :
    Decidable (IsLeast key queue item) :=
  inferInstanceAs (Decidable (_ ∧ _))

/-- The key of the next entry to be served. -/
def earliest? (key : Item → Rank) (queue : List Item) : Option Rank :=
  (queue.map key).minimum

theorem earliest?_le
    {key : Item → Rank}
    {queue : List Item}
    {rank : Rank}
    (least : earliest? key queue = some rank)
    {item : Item}
    (member : item ∈ queue) :
    rank ≤ key item :=
  List.minimum_le_of_mem (List.mem_map_of_mem member) least

/-- A queue with an entry has one with the smallest key. -/
theorem exists_isLeast
    {key : Item → Rank}
    {queue : List Item}
    {item : Item}
    (member : item ∈ queue) :
    ∃ least, IsLeast key queue least := by
  cases found : queue.argmin key with
  | none =>
      rw [List.argmin_eq_none] at found
      rw [found] at member
      cases member
  | some least =>
      exact ⟨least, List.argmin_mem found, fun other otherMember =>
        List.le_of_mem_argmin otherMember found⟩

/--
An answer to an ordered query with a limit: as many rows as the limit allows,
in order, none of them later than a row left out.
-/
structure Window
    [DecidableEq Item]
    (key : Item → Rank)
    (limit : Nat)
    (rows chosen : List Item) : Prop where
  subperm : chosen.Subperm rows
  length : chosen.length = min limit rows.length
  ordered : chosen.Pairwise fun first second => key first ≤ key second
  earliest :
    ∀ item ∈ chosen, ∀ omitted ∈ rows.diff chosen, key item ≤ key omitted

namespace Window

variable [DecidableEq Item]
variable {key : Item → Rank}
variable {limit : Nat}
variable {rows chosen : List Item}

instance : Decidable (Window key limit rows chosen) :=
  decidable_of_iff
    (chosen.Subperm rows ∧
      chosen.length = min limit rows.length ∧
      chosen.Pairwise (fun first second => key first ≤ key second) ∧
      ∀ item ∈ chosen, ∀ omitted ∈ rows.diff chosen,
        key item ≤ key omitted)
    ⟨fun parts => ⟨parts.1, parts.2.1, parts.2.2.1, parts.2.2.2⟩,
      fun window =>
        ⟨window.subperm, window.length, window.ordered,
          window.earliest⟩⟩

/-- Everything chosen is a row. -/
theorem mem_rows
    (window : Window key limit rows chosen)
    {item : Item}
    (member : item ∈ chosen) :
    item ∈ rows :=
  window.subperm.subset member

/-- A row left out is no earlier than anything chosen. -/
theorem chosen_or_beyond
    (window : Window key limit rows chosen)
    {item : Item}
    (member : item ∈ rows) :
    item ∈ chosen ∨ ∀ other ∈ chosen, key other ≤ key item := by
  by_cases taken : item ∈ chosen
  · exact Or.inl taken
  · right
    intro other otherMember
    exact window.earliest other otherMember item
      (List.mem_diff_of_mem member taken)

/-- A positive limit leaves a nonempty table nonempty. -/
theorem chosen_ne_nil
    (window : Window key limit rows chosen)
    (positive : 0 < limit)
    {item : Item}
    (member : item ∈ rows) :
    chosen ≠ [] := by
  have rowsPositive : 0 < rows.length :=
    List.length_pos_of_mem member
  have chosenPositive : 0 < chosen.length := by
    rw [window.length]
    exact Nat.lt_min.mpr ⟨positive, rowsPositive⟩
  exact List.ne_nil_of_length_pos chosenPositive

end Window

/--
The queue serves no item late: each one is in it, or comes after everything
that is, of which there is something.
-/
def Covers (key : Item → Rank) (queue items : List Item) : Prop :=
  ∀ item ∈ items,
    item ∈ queue ∨
      (queue ≠ [] ∧ ∀ other ∈ queue, key other ≤ key item)

namespace Covers

variable {key : Item → Rank}
variable {queue items fewer : List Item}

/-- A window with a positive limit covers the rows it was taken from. -/
theorem of_window
    [DecidableEq Item]
    {limit : Nat}
    {rows chosen : List Item}
    (window : Window key limit rows chosen)
    (positive : 0 < limit) :
    Covers key chosen rows := by
  intro item member
  rcases window.chosen_or_beyond member with taken | beyond
  · exact Or.inl taken
  · exact Or.inr ⟨window.chosen_ne_nil positive member, beyond⟩

/-- Fewer items are covered too. -/
theorem mono
    (covers : Covers key queue items)
    (subset : fewer ⊆ items) :
    Covers key queue fewer :=
  fun item member => covers item (subset member)

/-- Taking out an entry that is no item leaves the items covered, unless the
queue has run dry. -/
theorem erase
    [DecidableEq Item]
    (covers : Covers key queue items)
    {served : Item}
    (notItem : served ∉ items)
    (left : queue.erase served ≠ []) :
    Covers key (queue.erase served) items := by
  intro item member
  rcases covers item member with inQueue | ⟨_, beyond⟩
  · have different : item ≠ served := by
      rintro rfl
      exact notItem member
    exact Or.inl ((List.mem_erase_of_ne different).mpr inQueue)
  · exact Or.inr ⟨left, fun other otherMember =>
      beyond other (List.mem_of_mem_erase otherMember)⟩

/-- Something in the queue comes no later than a covered item. -/
theorem exists_le
    (covers : Covers key queue items)
    {item : Item}
    (member : item ∈ items) :
    ∃ entry ∈ queue, key entry ≤ key item := by
  rcases covers item member with inQueue | ⟨nonempty, beyond⟩
  · exact ⟨item, inQueue, le_rfl⟩
  · obtain ⟨entry, entryMember⟩ := List.exists_mem_of_ne_nil queue nonempty
    exact ⟨entry, entryMember, beyond entry entryMember⟩

end Covers

/--
What a priority queue has served and what is left of it: nothing lost, in the
order of the keys, and nothing before what is still waiting.
-/
structure Served
    (key : Item → Rank)
    (queue served rest : List Item) : Prop where
  perm : (served ++ rest).Perm queue
  ordered : served.Pairwise fun first second => key first ≤ key second
  before : ∀ item ∈ served, ∀ other ∈ rest, key item ≤ key other

namespace Served

variable {key : Item → Rank}
variable {queue served rest : List Item}

theorem start (queue : List Item) : Served key queue [] queue where
  perm := List.Perm.refl _
  ordered := List.Pairwise.nil
  before := fun _ member => by cases member

/-- Serving an entry with the smallest key of what is left. -/
theorem pop
    [DecidableEq Item]
    (sofar : Served key queue served rest)
    {item : Item}
    (least : IsLeast key rest item) :
    Served key queue (served ++ [item]) (rest.erase item) where
  perm := by
    rw [List.append_assoc, List.singleton_append]
    exact ((List.perm_cons_erase least.1).symm.append_left served).trans
      sofar.perm
  ordered := by
    rw [List.pairwise_append]
    refine ⟨sofar.ordered, List.pairwise_singleton _ _, ?_⟩
    intro first firstMember second secondMember
    rw [List.mem_singleton] at secondMember
    rw [secondMember]
    exact sofar.before first firstMember item least.1
  before := by
    intro first firstMember other otherMember
    have waiting : other ∈ rest := List.mem_of_mem_erase otherMember
    rcases List.mem_append.mp firstMember with earlier | last
    · exact sofar.before first earlier other waiting
    · rw [List.mem_singleton] at last
      rw [last]
      exact least.2 other waiting

theorem mem_queue
    (sofar : Served key queue served rest)
    {item : Item}
    (member : item ∈ served) :
    item ∈ queue :=
  sofar.perm.subset (List.mem_append_left rest member)

/-- A queue served up to a bound, of which nothing within it is left. -/
theorem filter_perm
    (sofar : Served key queue served rest)
    {bound : Rank}
    (within : ∀ item ∈ served, key item ≤ bound)
    (beyond : ∀ item ∈ rest, bound < key item) :
    served.Perm (queue.filter fun item => decide (key item ≤ bound)) ∧
      rest.Perm (queue.filter fun item => decide (bound < key item)) := by
  have parts := sofar.perm
  constructor
  · have due := parts.filter fun item => decide (key item ≤ bound)
    rw [List.filter_append] at due
    have all :
        served.filter (fun item => decide (key item ≤ bound)) = served :=
      List.filter_eq_self.mpr fun item member =>
        decide_eq_true (within item member)
    have none :
        rest.filter (fun item => decide (key item ≤ bound)) = [] :=
      List.filter_eq_nil_iff.mpr fun item member isDue =>
        absurd (of_decide_eq_true isDue) (not_le.mpr (beyond item member))
    rwa [all, none, List.append_nil] at due
  · have late := parts.filter fun item => decide (bound < key item)
    rw [List.filter_append] at late
    have none :
        served.filter (fun item => decide (bound < key item)) = [] :=
      List.filter_eq_nil_iff.mpr fun item member isLate =>
        absurd (of_decide_eq_true isLate) (not_lt.mpr (within item member))
    have all :
        rest.filter (fun item => decide (bound < key item)) = rest :=
      List.filter_eq_self.mpr fun item member =>
        decide_eq_true (beyond item member)
    rwa [none, all, List.nil_append] at late

end Served

end EarliestFirst

end Kronkeeper
