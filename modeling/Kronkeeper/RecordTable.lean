import Mathlib.Data.List.Nodup
import Mathlib.Logic.Function.Basic

namespace Kronkeeper

/-!
# Tables with a primary key and a unique column

A row has an identity: the part of it that no statement assigns.  The primary
key and the unique column are read off the identity, so both constraints are
fields of the table and survive every update by construction.  Nothing here
names the scheduler's own rows.
-/

universe u v w z

variable {Row : Type u} {Ident : Type v} {Id : Type w} {Key : Type z}

/--
An `UPDATE ... SET ... WHERE ...` statement: the rows it applies to and what it
assigns there.  It cannot be built unless it leaves the identity alone.
-/
structure RowUpdate (identity : Row → Ident) where
  applies : Row → Bool
  assign : Row → Row
  keepsIdentity : ∀ row, identity (assign row) = identity row

namespace RowUpdate

variable {identity : Row → Ident}

/-- What one row becomes under the statement. -/
def image (update : RowUpdate identity) (row : Row) : Row :=
  if update.applies row then update.assign row else row

theorem image_of_applies
    {update : RowUpdate identity}
    {row : Row}
    (applies : update.applies row = true) :
    update.image row = update.assign row := by
  simp [image, applies]

theorem image_of_not_applies
    {update : RowUpdate identity}
    {row : Row}
    (skips : update.applies row = false) :
    update.image row = row := by
  simp [image, skips]

theorem identity_image
    (update : RowUpdate identity)
    (row : Row) :
    identity (update.image row) = identity row := by
  unfold image
  split
  · exact update.keepsIdentity row
  · rfl

end RowUpdate

/-- A table whose primary key and unique column hold no value twice. -/
@[ext] structure RecordTable
    (identity : Row → Ident)
    (primary : Ident → Id)
    (unique : Ident → Key) where
  rows : List Row
  primaryNodup : (rows.map fun row => primary (identity row)).Nodup
  uniqueNodup : (rows.map fun row => unique (identity row)).Nodup

namespace RecordTable

variable {identity : Row → Ident}
variable {primary : Ident → Id}
variable {unique : Ident → Key}

/-- The table without rows. -/
def empty : RecordTable identity primary unique where
  rows := []
  primaryNodup := List.nodup_nil
  uniqueNodup := List.nodup_nil

/-- Rows with the same primary key are the same row. -/
theorem eq_of_primary
    {table : RecordTable identity primary unique}
    {first second : Row}
    (firstMember : first ∈ table.rows)
    (secondMember : second ∈ table.rows)
    (same : primary (identity first) = primary (identity second)) :
    first = second :=
  List.inj_on_of_nodup_map table.primaryNodup
    firstMember secondMember same

/-- Rows with the same unique column are the same row. -/
theorem eq_of_unique
    {table : RecordTable identity primary unique}
    {first second : Row}
    (firstMember : first ∈ table.rows)
    (secondMember : second ∈ table.rows)
    (same : unique (identity first) = unique (identity second)) :
    first = second :=
  List.inj_on_of_nodup_map table.uniqueNodup
    firstMember secondMember same

/-! ## Lookups -/

/-- The row with a given primary key. -/
def find?
    [DecidableEq Id]
    (table : RecordTable identity primary unique)
    (id : Id) : Option Row :=
  table.rows.find? fun row => decide (primary (identity row) = id)

/-- The row with a given value in the unique column. -/
def findUnique?
    [DecidableEq Key]
    (table : RecordTable identity primary unique)
    (key : Key) : Option Row :=
  table.rows.find? fun row => decide (unique (identity row) = key)

/-- How many rows satisfy a condition. -/
def count
    (table : RecordTable identity primary unique)
    (condition : Row → Bool) : Nat :=
  table.rows.countP condition

/-- Searching a column without duplicates finds exactly its one row. -/
private theorem find?_column_eq_some_iff
    {Value : Type*}
    [DecidableEq Value]
    {column : Row → Value}
    {rows : List Row}
    (noDuplicates : (rows.map column).Nodup)
    {value : Value}
    {row : Row} :
    rows.find? (fun row => decide (column row = value)) = some row ↔
      row ∈ rows ∧ column row = value := by
  constructor
  · intro found
    exact ⟨List.mem_of_find?_eq_some found, by
      simpa using List.find?_some found⟩
  · rintro ⟨member, same⟩
    cases found :
        rows.find? (fun row => decide (column row = value)) with
    | none =>
        have missing := List.find?_eq_none.mp found row member
        simp [same] at missing
    | some other =>
        have otherSame : column other = value := by
          simpa using List.find?_some found
        rw [List.inj_on_of_nodup_map noDuplicates
          (List.mem_of_find?_eq_some found) member
          (otherSame.trans same.symm)]

theorem find?_eq_some_iff
    [DecidableEq Id]
    {table : RecordTable identity primary unique}
    {id : Id}
    {row : Row} :
    table.find? id = some row ↔
      row ∈ table.rows ∧ primary (identity row) = id :=
  find?_column_eq_some_iff table.primaryNodup

/-- Searching for one primary key finds exactly its one row. -/
theorem find?_keyed_eq_some_iff
    {table : RecordTable identity primary unique}
    {condition : Row → Bool}
    {id : Id}
    (keyed :
      ∀ row, condition row = true → primary (identity row) = id)
    {row : Row} :
    table.rows.find? condition = some row ↔
      row ∈ table.rows ∧ condition row = true := by
  constructor
  · intro found
    exact ⟨List.mem_of_find?_eq_some found, List.find?_some found⟩
  · rintro ⟨member, holds⟩
    cases found : table.rows.find? condition with
    | none =>
        exact absurd holds (List.find?_eq_none.mp found row member)
    | some other =>
        have otherHolds := List.find?_some found
        rw [eq_of_primary (List.mem_of_find?_eq_some found) member
          ((keyed other otherHolds).trans (keyed row holds).symm)]

theorem findUnique?_eq_some_iff
    [DecidableEq Key]
    {table : RecordTable identity primary unique}
    {key : Key}
    {row : Row} :
    table.findUnique? key = some row ↔
      row ∈ table.rows ∧ unique (identity row) = key :=
  find?_column_eq_some_iff table.uniqueNodup

theorem findUnique?_eq_none_iff
    [DecidableEq Key]
    {table : RecordTable identity primary unique}
    {key : Key} :
    table.findUnique? key = none ↔
      ∀ row ∈ table.rows, unique (identity row) ≠ key := by
  simp [findUnique?]

/-! ## Updates -/

/-- Run an `UPDATE`; both constraints survive because identities do. -/
def update
    (table : RecordTable identity primary unique)
    (change : RowUpdate identity) :
    RecordTable identity primary unique where
  rows := table.rows.map change.image
  primaryNodup := by
    simpa [Function.comp_def, change.identity_image] using
      table.primaryNodup
  uniqueNodup := by
    simpa [Function.comp_def, change.identity_image] using
      table.uniqueNodup

/-- The number of rows an `UPDATE` reports as affected. -/
def affected
    (table : RecordTable identity primary unique)
    (change : RowUpdate identity) : Nat :=
  table.count change.applies

/-- The first row an `UPDATE ... RETURNING` hands back. -/
def returning
    (table : RecordTable identity primary unique)
    (change : RowUpdate identity) : Option Row :=
  (table.rows.find? change.applies).map change.assign

theorem mem_update
    {table : RecordTable identity primary unique}
    {change : RowUpdate identity}
    {row : Row} :
    row ∈ (table.update change).rows ↔
      ∃ old ∈ table.rows, change.image old = row := by
  simp [update]

/-- The updated row with a known identity is the image of the old one. -/
theorem image_of_mem_update
    {table : RecordTable identity primary unique}
    {change : RowUpdate identity}
    {old row : Row}
    (oldMember : old ∈ table.rows)
    (member : row ∈ (table.update change).rows)
    (same : primary (identity row) = primary (identity old)) :
    row = change.image old := by
  obtain ⟨source, sourceMember, rfl⟩ := mem_update.mp member
  rw [change.identity_image] at same
  rw [eq_of_primary sourceMember oldMember same]

/-- An `UPDATE` that applies to no row leaves the table as it was. -/
theorem update_eq_self
    {table : RecordTable identity primary unique}
    {change : RowUpdate identity}
    (spares : ∀ row ∈ table.rows, change.applies row = false) :
    table.update change = table := by
  rw [RecordTable.ext_iff]
  calc
    table.rows.map change.image = table.rows.map id :=
      List.map_congr_left fun row member =>
        RowUpdate.image_of_not_applies (spares row member)
    _ = table.rows := List.map_id _

theorem affected_pos_iff
    {table : RecordTable identity primary unique}
    {change : RowUpdate identity} :
    0 < table.affected change ↔
      ∃ row ∈ table.rows, change.applies row = true := by
  simp [affected, count, List.countP_pos_iff]

theorem returning_eq_some
    {table : RecordTable identity primary unique}
    {change : RowUpdate identity}
    {row : Row}
    (returned : table.returning change = some row) :
    ∃ old ∈ table.rows,
      change.applies old = true ∧ row = change.assign old := by
  obtain ⟨old, found, rfl⟩ := Option.map_eq_some_iff.mp returned
  exact ⟨old, List.mem_of_find?_eq_some found,
    List.find?_some found, rfl⟩

theorem returning_eq_none_iff
    {table : RecordTable identity primary unique}
    {change : RowUpdate identity} :
    table.returning change = none ↔
      ∀ row ∈ table.rows, change.applies row = false := by
  simp [returning]

/-- A condition that a rewrite respects counts the same rows after it. -/
theorem count_eq_of_rewrite
    {table after : RecordTable identity primary unique}
    {rewrite : Row → Row}
    {condition : Row → Bool}
    (rewritten : after.rows = table.rows.map rewrite)
    (respects :
      ∀ row ∈ table.rows, condition (rewrite row) = condition row) :
    after.count condition = table.count condition := by
  rw [count, count, rewritten, List.countP_map]
  exact List.countP_congr fun row member => by
    rw [Function.comp_apply, respects row member]

/-- A rewrite that brings one row into a condition counts it once more. -/
theorem count_of_rewrite
    {table after : RecordTable identity primary unique}
    {rewrite : Row → Row}
    {condition : Row → Bool}
    {row : Row}
    (rewritten : after.rows = table.rows.map rewrite)
    (member : row ∈ table.rows)
    (uncounted : condition row = false)
    (counted : condition (rewrite row) = true)
    (others :
      ∀ other ∈ table.rows, other ≠ row →
        condition (rewrite other) = condition other) :
    after.count condition = table.count condition + 1 := by
  have noDuplicates : table.rows.Nodup := table.primaryNodup.of_map
  obtain ⟨front, back, shape⟩ := List.append_of_mem member
  rw [shape, List.nodup_middle, List.nodup_cons] at noDuplicates
  have elsewhere :
      ∀ part : List Row, part ⊆ front ++ back →
        (part.map rewrite).countP condition = part.countP condition := by
    intro part isPart
    rw [List.countP_map]
    refine List.countP_congr fun other inPart => ?_
    have within := isPart inPart
    have isOther : other ≠ row := fun same =>
      noDuplicates.1 (same ▸ within)
    have isMember : other ∈ table.rows := by
      rw [shape]
      rcases List.mem_append.mp within with inFront | inBack
      · exact List.mem_append_left _ inFront
      · exact List.mem_append_right _ (.tail _ inBack)
    rw [Function.comp_apply, others other isMember isOther]
  have inFront := elsewhere front (List.subset_append_left _ _)
  have inBack := elsewhere back (List.subset_append_right _ _)
  rw [count, count, rewritten, shape, List.map_append, List.map_cons,
    List.countP_append, List.countP_append,
    List.countP_cons_of_pos counted,
    List.countP_cons_of_neg (by simp [uncounted]), inFront, inBack]
  omega

/-- A condition that an `UPDATE` respects counts the same rows after it. -/
theorem count_update
    {table : RecordTable identity primary unique}
    {change : RowUpdate identity}
    {condition : Row → Bool}
    (respects :
      ∀ row ∈ table.rows, condition (change.image row) = condition row) :
    (table.update change).count condition = table.count condition :=
  count_eq_of_rewrite rfl respects

/-! ## Insertion -/

/-- Neither constraint stands in the way of inserting the row. -/
def Fresh
    (table : RecordTable identity primary unique)
    (row : Row) : Prop :=
  (∀ old ∈ table.rows,
      primary (identity old) ≠ primary (identity row)) ∧
    ∀ old ∈ table.rows, unique (identity old) ≠ unique (identity row)

instance
    [DecidableEq Id]
    [DecidableEq Key]
    (table : RecordTable identity primary unique)
    (row : Row) :
    Decidable (table.Fresh row) :=
  inferInstanceAs (Decidable (_ ∧ _))

/-- Append a row, or fail on a violated constraint. -/
def insert?
    [DecidableEq Id]
    [DecidableEq Key]
    (table : RecordTable identity primary unique)
    (row : Row) :
    Option (RecordTable identity primary unique) :=
  if fresh : table.Fresh row then
    some {
      rows := table.rows ++ [row]
      primaryNodup := by
        rw [List.map_append, List.map_singleton, List.nodup_append]
        refine ⟨table.primaryNodup, List.nodup_singleton _, ?_⟩
        simpa using fresh.1
      uniqueNodup := by
        rw [List.map_append, List.map_singleton, List.nodup_append]
        refine ⟨table.uniqueNodup, List.nodup_singleton _, ?_⟩
        simpa using fresh.2
    }
  else
    none

theorem insert?_eq_some_iff
    [DecidableEq Id]
    [DecidableEq Key]
    {table after : RecordTable identity primary unique}
    {row : Row} :
    table.insert? row = some after ↔
      table.Fresh row ∧ after.rows = table.rows ++ [row] := by
  unfold insert?
  split
  · rename_i fresh
    rw [Option.some.injEq, RecordTable.ext_iff]
    exact ⟨fun same => ⟨fresh, same.symm⟩, fun shape => shape.2.symm⟩
  · rename_i stale
    simp [stale]

theorem insert?_eq_none_iff
    [DecidableEq Id]
    [DecidableEq Key]
    {table : RecordTable identity primary unique}
    {row : Row} :
    table.insert? row = none ↔ ¬table.Fresh row := by
  unfold insert?
  split
  · rename_i fresh
    simp [fresh]
  · rename_i stale
    simp [stale]

theorem mem_of_insert?
    [DecidableEq Id]
    [DecidableEq Key]
    {table after : RecordTable identity primary unique}
    {row : Row}
    (inserted : table.insert? row = some after)
    {member : Row} :
    member ∈ after.rows ↔ member ∈ table.rows ∨ member = row := by
  rw [(insert?_eq_some_iff.mp inserted).2, List.mem_append,
    List.mem_singleton]

/-! ## Lookups after a change -/

theorem find?_update
    [DecidableEq Id]
    (table : RecordTable identity primary unique)
    (change : RowUpdate identity)
    (id : Id) :
    (table.update change).find? id = (table.find? id).map change.image := by
  rw [find?, find?, update, List.find?_map]
  congr 2
  funext row
  rw [Function.comp_apply, change.identity_image]

/-- An `UPDATE` of one row changes what is found under its primary key. -/
theorem find?_update_keyed
    [DecidableEq Id]
    {table : RecordTable identity primary unique}
    {change : RowUpdate identity}
    {id : Id}
    {row : Row}
    (found : table.find? id = some row)
    (applies : change.applies row = true)
    (keyed :
      ∀ other, change.applies other = true →
        primary (identity other) = id) :
    (table.update change).find? =
      Function.update table.find? id (some (change.assign row)) := by
  funext other
  rw [find?_update]
  rcases eq_or_ne other id with rfl | different
  · rw [Function.update_self, found, Option.map_some,
      RowUpdate.image_of_applies applies]
  · rw [Function.update_of_ne different]
    cases isOther : table.find? other with
    | none =>
        rfl
    | some found =>
        have hasKey := (find?_eq_some_iff.mp isOther).2
        have skips : change.applies found = false :=
          Bool.eq_false_iff.mpr fun applies =>
            different (hasKey.symm.trans (keyed found applies))
        rw [Option.map_some, RowUpdate.image_of_not_applies skips]

/-- An `INSERT` adds what is found under the new primary key. -/
theorem find?_insert?
    [DecidableEq Id]
    [DecidableEq Key]
    {table after : RecordTable identity primary unique}
    {row : Row}
    (inserted : table.insert? row = some after) :
    after.find? =
      Function.update table.find? (primary (identity row)) (some row) := by
  obtain ⟨fresh, appended⟩ := insert?_eq_some_iff.mp inserted
  funext id
  rcases eq_or_ne id (primary (identity row)) with rfl | different
  · rw [Function.update_self, find?_eq_some_iff, appended]
    exact ⟨List.mem_append_right _ (List.mem_singleton_self row), rfl⟩
  · rw [Function.update_of_ne different, find?, appended,
      List.find?_append, find?]
    simp [different.symm]

theorem find?_eq_none_iff
    [DecidableEq Id]
    {table : RecordTable identity primary unique}
    {id : Id} :
    table.find? id = none ↔
      ∀ row ∈ table.rows, primary (identity row) ≠ id := by
  simp [find?]

/-! ## Counting rows by their identity -/

/-- How many rows have an identity that satisfies a condition. -/
def countIdentity
    (table : RecordTable identity primary unique)
    (condition : Ident → Bool) : Nat :=
  table.count fun row => condition (identity row)

theorem countIdentity_update
    (table : RecordTable identity primary unique)
    (change : RowUpdate identity)
    (condition : Ident → Bool) :
    (table.update change).countIdentity condition =
      table.countIdentity condition :=
  count_update fun row _ => congrArg condition (change.identity_image row)

theorem count_insert?
    [DecidableEq Id]
    [DecidableEq Key]
    {table after : RecordTable identity primary unique}
    {row : Row}
    (inserted : table.insert? row = some after)
    (condition : Row → Bool) :
    after.count condition =
      table.count condition + if condition row then 1 else 0 := by
  simp [count, (insert?_eq_some_iff.mp inserted).2, List.countP_append,
    List.countP_singleton]

theorem countIdentity_insert?
    [DecidableEq Id]
    [DecidableEq Key]
    {table after : RecordTable identity primary unique}
    {row : Row}
    (inserted : table.insert? row = some after)
    (condition : Ident → Bool) :
    after.countIdentity condition =
      table.countIdentity condition +
        if condition (identity row) then 1 else 0 :=
  count_insert? inserted fun row => condition (identity row)

theorem countIdentity_eq_zero_iff
    {table : RecordTable identity primary unique}
    {condition : Ident → Bool} :
    table.countIdentity condition = 0 ↔
      ∀ row ∈ table.rows, condition (identity row) = false := by
  simp [countIdentity, count, List.countP_eq_zero]

/-! ## Growth -/

/-- Every row of the first table is still there, with its identity. -/
def Extends
    (before after : RecordTable identity primary unique) : Prop :=
  ∀ row ∈ before.rows,
    ∃ later ∈ after.rows, identity later = identity row

namespace Extends

theorem refl
    (table : RecordTable identity primary unique) :
    table.Extends table :=
  fun row member => ⟨row, member, rfl⟩

theorem trans
    {first second third : RecordTable identity primary unique}
    (earlier : first.Extends second)
    (later : second.Extends third) :
    first.Extends third := by
  intro row member
  obtain ⟨middle, middleMember, middleSame⟩ := earlier row member
  obtain ⟨last, lastMember, lastSame⟩ := later middle middleMember
  exact ⟨last, lastMember, lastSame.trans middleSame⟩

theorem update
    (table : RecordTable identity primary unique)
    (change : RowUpdate identity) :
    table.Extends (table.update change) := by
  intro row member
  exact ⟨change.image row, mem_update.mpr ⟨row, member, rfl⟩,
    change.identity_image row⟩

theorem insert?
    [DecidableEq Id]
    [DecidableEq Key]
    {table after : RecordTable identity primary unique}
    {row : Row}
    (inserted : table.insert? row = some after) :
    table.Extends after := by
  intro old member
  exact ⟨old, (mem_of_insert? inserted).mpr (Or.inl member), rfl⟩

end Extends

/-! ## Agreement on a part of the rows -/

/-- The two tables hold the same rows with an identity inside. -/
def AgreesOn
    (inside : Ident → Prop)
    (first second : RecordTable identity primary unique) : Prop :=
  ∀ row,
    inside (identity row) →
    (row ∈ second.rows ↔ row ∈ first.rows)

namespace AgreesOn

variable {inside : Ident → Prop}

theorem refl
    (table : RecordTable identity primary unique) :
    AgreesOn inside table table :=
  fun _ _ => Iff.rfl

theorem trans
    {first second third : RecordTable identity primary unique}
    (earlier : AgreesOn inside first second)
    (later : AgreesOn inside second third) :
    AgreesOn inside first third :=
  fun row isInside => (later row isInside).trans (earlier row isInside)

/-- An `UPDATE` that applies only outside leaves the inside as it was. -/
theorem update
    {table : RecordTable identity primary unique}
    {change : RowUpdate identity}
    (spares :
      ∀ row ∈ table.rows,
        inside (identity row) → change.applies row = false) :
    AgreesOn inside table (table.update change) := by
  intro row isInside
  rw [mem_update]
  constructor
  · rintro ⟨old, member, rfl⟩
    rw [change.identity_image] at isInside
    rw [RowUpdate.image_of_not_applies (spares old member isInside)]
    exact member
  · intro member
    exact ⟨row, member,
      RowUpdate.image_of_not_applies (spares row member isInside)⟩

/-- An `INSERT` outside leaves the inside as it was. -/
theorem insert?
    [DecidableEq Id]
    [DecidableEq Key]
    {table after : RecordTable identity primary unique}
    {added : Row}
    (inserted : table.insert? added = some after)
    (isOutside : ¬inside (identity added)) :
    AgreesOn inside table after := by
  intro row isInside
  rw [mem_of_insert? inserted]
  constructor
  · rintro (member | rfl)
    · exact member
    · exact (isOutside isInside).elim
  · exact Or.inl

/-- The same `UPDATE` on both sides keeps the agreement. -/
theorem update_both
    {first second : RecordTable identity primary unique}
    (agrees : AgreesOn inside first second)
    (change : RowUpdate identity) :
    AgreesOn inside (first.update change) (second.update change) := by
  intro row isInside
  rw [mem_update, mem_update]
  constructor
  · rintro ⟨old, member, rfl⟩
    rw [change.identity_image] at isInside
    exact ⟨old, (agrees old isInside).mp member, rfl⟩
  · rintro ⟨old, member, rfl⟩
    rw [change.identity_image] at isInside
    exact ⟨old, (agrees old isInside).mpr member, rfl⟩

/-- So does the same `INSERT`, if both tables take it. -/
theorem insert_both
    [DecidableEq Id]
    [DecidableEq Key]
    {first second : RecordTable identity primary unique}
    {firstAfter secondAfter : RecordTable identity primary unique}
    {added : Row}
    (agrees : AgreesOn inside first second)
    (firstInserted : first.insert? added = some firstAfter)
    (secondInserted : second.insert? added = some secondAfter) :
    AgreesOn inside firstAfter secondAfter := by
  intro row isInside
  rw [mem_of_insert? firstInserted, mem_of_insert? secondInserted,
    agrees row isInside]

/-- A condition confined to the inside counts the same rows. -/
theorem count_eq
    {first second : RecordTable identity primary unique}
    (agrees : AgreesOn inside first second)
    {condition : Row → Bool}
    (confined :
      ∀ row, condition row = true → inside (identity row)) :
    second.count condition = first.count condition := by
  have firstNodup := first.primaryNodup.of_map
  have secondNodup := second.primaryNodup.of_map
  have samePart :
      (second.rows.filter condition).Perm
        (first.rows.filter condition) := by
    refine (List.perm_ext_iff_of_nodup (secondNodup.filter condition)
      (firstNodup.filter condition)).mpr fun row => ?_
    rw [List.mem_filter, List.mem_filter]
    exact and_congr_left fun holds => agrees row (confined row holds)
  rw [count, count, List.countP_eq_length_filter,
    List.countP_eq_length_filter]
  exact samePart.length_eq

/-- A search confined to the inside for one key finds the same row. -/
theorem find?_eq
    {first second : RecordTable identity primary unique}
    (agrees : AgreesOn inside first second)
    {condition : Row → Bool}
    {id : Id}
    (confined :
      ∀ row, condition row = true → inside (identity row))
    (keyed :
      ∀ row, condition row = true → primary (identity row) = id) :
    second.rows.find? condition = first.rows.find? condition := by
  apply Option.ext
  intro row
  rw [find?_keyed_eq_some_iff keyed, find?_keyed_eq_some_iff keyed]
  exact and_congr_left fun holds => agrees row (confined row holds)

/-- A lookup that finds only inside rows finds the same one. -/
theorem findUnique?_eq
    [DecidableEq Key]
    {first second : RecordTable identity primary unique}
    (agrees : AgreesOn inside first second)
    {key : Key}
    (firstInside :
      ∀ row ∈ first.findUnique? key, inside (identity row))
    (secondInside :
      ∀ row ∈ second.findUnique? key, inside (identity row)) :
    second.findUnique? key = first.findUnique? key := by
  apply Option.ext
  intro row
  constructor
  · intro found
    have isInside := secondInside row found
    rw [findUnique?_eq_some_iff] at found ⊢
    exact ⟨(agrees row isInside).mp found.1, found.2⟩
  · intro found
    have isInside := firstInside row found
    rw [findUnique?_eq_some_iff] at found ⊢
    exact ⟨(agrees row isInside).mpr found.1, found.2⟩

end AgreesOn

/-! ## Row by row -/

/-- Each row of either table has a related one in the other. -/
structure Matches
    (relates : Row → Row → Prop)
    (before after : RecordTable identity primary unique) : Prop where
  forward : ∀ old ∈ before.rows, ∃ new ∈ after.rows, relates old new
  backward : ∀ new ∈ after.rows, ∃ old ∈ before.rows, relates old new

namespace Matches

variable {relates : Row → Row → Prop}
variable {before after : RecordTable identity primary unique}

theorem refl
    {table : RecordTable identity primary unique}
    (reflexive : ∀ row ∈ table.rows, relates row row) :
    Matches relates table table where
  forward := fun row member => ⟨row, member, reflexive row member⟩
  backward := fun row member => ⟨row, member, reflexive row member⟩

theorem mono
    {weaker : Row → Row → Prop}
    (matched : Matches relates before after)
    (weakens :
      ∀ old ∈ before.rows, ∀ new ∈ after.rows,
        relates old new → weaker old new) :
    Matches weaker before after where
  forward := by
    intro old member
    obtain ⟨new, newMember, related⟩ := matched.forward old member
    exact ⟨new, newMember, weakens old member new newMember related⟩
  backward := by
    intro new member
    obtain ⟨old, oldMember, related⟩ := matched.backward new member
    exact ⟨old, oldMember, weakens old oldMember new member related⟩

/-- An `UPDATE` of the later table, row by row. -/
theorem update
    {later : Row → Row → Prop}
    {change : RowUpdate identity}
    (matched : Matches relates before after)
    (changes :
      ∀ old ∈ before.rows, ∀ new ∈ after.rows,
        relates old new → later old (change.image new)) :
    Matches later before (after.update change) where
  forward := by
    intro old member
    obtain ⟨new, newMember, related⟩ := matched.forward old member
    exact ⟨change.image new, mem_update.mpr ⟨new, newMember, rfl⟩,
      changes old member new newMember related⟩
  backward := by
    intro row member
    obtain ⟨new, newMember, rfl⟩ := mem_update.mp member
    obtain ⟨old, oldMember, related⟩ := matched.backward new newMember
    exact ⟨old, oldMember, changes old oldMember new newMember related⟩

end Matches

/-! ## What holds of some row -/

/-- Some row of the table has an identity with this property. -/
def Has
    (table : RecordTable identity primary unique)
    (property : Ident → Prop) : Prop :=
  ∃ row ∈ table.rows, property (identity row)

instance
    (table : RecordTable identity primary unique)
    (property : Ident → Prop)
    [DecidablePred property] :
    Decidable (table.Has property) :=
  inferInstanceAs (Decidable (∃ _ ∈ _, _))

theorem Has.grow
    {before after : RecordTable identity primary unique}
    {property : Ident → Prop}
    (has : before.Has property)
    (growth : before.Extends after) :
    after.Has property := by
  obtain ⟨row, member, holds⟩ := has
  obtain ⟨later, laterMember, same⟩ := growth row member
  exact ⟨later, laterMember, same ▸ holds⟩

/-- Some row of the table has this identity. -/
def Knows
    (table : RecordTable identity primary unique)
    (ident : Ident) : Prop :=
  ∃ row ∈ table.rows, identity row = ident

namespace Knows

theorem of_mem
    {table : RecordTable identity primary unique}
    {row : Row}
    (member : row ∈ table.rows) :
    table.Knows (identity row) :=
  ⟨row, member, rfl⟩

theorem grow
    {before after : RecordTable identity primary unique}
    {ident : Ident}
    (known : before.Knows ident)
    (growth : before.Extends after) :
    after.Knows ident := by
  obtain ⟨row, member, rfl⟩ := known
  exact growth row member

/-- The row carrying the primary key of a known identity has that identity. -/
theorem identity_eq
    {table : RecordTable identity primary unique}
    {ident : Ident}
    (known : table.Knows ident)
    {row : Row}
    (member : row ∈ table.rows)
    (same : primary (identity row) = primary ident) :
    identity row = ident := by
  obtain ⟨other, otherMember, rfl⟩ := known
  rw [eq_of_primary member otherMember same]

end Knows

end RecordTable

end Kronkeeper
