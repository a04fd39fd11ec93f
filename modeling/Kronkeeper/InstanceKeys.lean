import Mathlib.Tactic.SplitIfs
import Kronkeeper.InstanceRows

namespace Kronkeeper

/-!
# One instance per fire time

`create_recurring` and `spawn_next_instance` look a derived key up, or not at
all, and insert under it later.  Whatever runs in between, the unique column
refuses the second insert for one fire time of one template, because both
inserts derive the same key and different fire times never share one.
-/

/-- A fire time of a template. -/
structure Firing where
  templateId : Uuid
  fire : Time
  deriving DecidableEq

/-- The key under which the instance of a firing is inserted. -/
def Firing.key (externals : Externals) (firing : Firing) : String :=
  RecurringService.instanceKey externals firing.templateId firing.fire

/-- With ids of one width the key gives both parts of the firing back. -/
theorem Firing.key_injective
    {externals : Externals}
    {width : Nat}
    (fixedWidth : ∀ id, (externals.uuidText id).length = width)
    (uuidInjective : Function.Injective externals.uuidText)
    (instantInjective : Function.Injective externals.toRfc3339) :
    Function.Injective (Firing.key externals) := by
  rintro ⟨firstId, firstFire⟩ ⟨secondId, secondFire⟩ sameKey
  have sameChars := congrArg String.toList sameKey
  simp only [key, RecurringService.instanceKey, String.toList_append,
    List.append_assoc] at sameChars
  have sameWidth :
      (externals.uuidText firstId).toList.length =
        (externals.uuidText secondId).toList.length := by
    simp only [String.length_toList, fixedWidth]
  obtain ⟨sameId, rest⟩ := List.append_inj sameChars sameWidth
  have sameFire := List.append_cancel_left rest
  rw [uuidInjective (String.toList_injective sameId),
    instantInjective (String.toList_injective sameFire)]

namespace State

variable {config : Config} {slots : Nat}
variable {externals : Externals}
variable {state after : State config slots}
variable {action : Action config slots}

/-- The firing whose instance a step is about to insert. -/
def firing?
    (state : State config slots) : Action config slots → Option Firing
  | .api slot (.call (.inserted _)) =>
      match state.requests slot with
      | .creating _ _ (.insertInstance template firstFire) =>
          some { templateId := template.id, fire := firstFire }
      | _ => none
  | .worker worker (.spawn (.inserted _)) =>
      match state.workers worker with
      | .spawning _ (.insertInstance template nextFire) =>
          some { templateId := template.id, fire := nextFire }
      | _ => none
  | _ => none

/-- The step inserts this row for this firing. -/
structure InsertsFor
    (state after : State config slots)
    (action : Action config slots)
    (firing : Firing)
    (row : Job) : Prop where
  isFiring : state.firing? action = some firing
  isNew : ∀ old ∈ state.jobs.rows, old.id ≠ row.id
  member : row ∈ after.jobs.rows

/-- What the row inserted for a firing looks like. -/
theorem InsertsFor.row
    {firing : Firing}
    {row : Job}
    (inserts : state.InsertsFor after action firing row)
    (taken : step? externals state action = some after) :
    state.jobs.Fresh row ∧
      row.idempotencyKey = firing.key externals ∧
      row.parentJobId = some firing.templateId ∧
      row.scheduledAt = firing.fire := by
  have isFiring := inserts.isFiring
  cases rowOrigin_of_step? taken inserts.member with
  | kept old member identity | changed old member identity =>
      exact (inserts.isNew old member
        (Job.id_eq_of_identity identity).symm).elim
  | inserted fresh insertion =>
      refine ⟨fresh, ?_⟩
      cases insertion with
      | job slot clientId req id creating =>
          simp [firing?, creating] at isFiring
      | template slot clientId req recurrence firstFire id creating =>
          simp [firing?, creating] at isFiring
      | firstInstance slot clientId req template firstFire id creating =>
          simp only [firing?, creating, Option.some.injEq] at isFiring
          subst isFiring
          exact ⟨rfl, rfl, rfl⟩
      | nextInstance worker job template nextFire id spawning =>
          simp only [firing?, spawning, Option.some.injEq] at isFiring
          subst isFiring
          exact ⟨rfl, rfl, rfl⟩

/-- Every instance row has the key of a firing of its template. -/
def KeyedByFiring
    (externals : Externals)
    (state : State config slots) : Prop :=
  ∀ row ∈ state.jobs.rows, ∀ templateId,
    row.parentJobId = some templateId →
    ∃ fire,
      row.idempotencyKey =
        RecurringService.instanceKey externals templateId fire

theorem KeyedByFiring.step
    (keyed : state.KeyedByFiring externals)
    (taken : step? externals state action = some after) :
    after.KeyedByFiring externals := by
  intro row member templateId isInstance
  cases rowOrigin_of_step? taken member with
  | kept old oldMember identity | changed old oldMember identity =>
      rw [Job.idempotencyKey_eq_of_identity identity]
      exact keyed old oldMember templateId
        ((Job.parentJobId_eq_of_identity identity).symm.trans isInstance)
  | inserted fresh insertion =>
      cases insertion with
      | job | template =>
          cases isInstance
      | firstInstance slot clientId req template firstFire id creating =>
          obtain rfl := Option.some.inj isInstance
          exact ⟨firstFire, rfl⟩
      | nextInstance worker job template nextFire id spawning =>
          obtain rfl := Option.some.inj isInstance
          exact ⟨nextFire, rfl⟩

/-- After the instance of a firing is in, no step inserts another one. -/
theorem InsertsFor.once
    {firing : Firing}
    {first second : Job}
    (inserts : state.InsertsFor after action firing first)
    (taken : step? externals state action = some after)
    {later : List (Action config slots)}
    {reached final : State config slots}
    (continued :
      Run externals TransitionSystem.Unrestricted after later reached)
    {nextAction : Action config slots}
    (nextTaken : step? externals reached nextAction = some final) :
    ¬reached.InsertsFor final nextAction firing second := by
  intro insertsAgain
  obtain ⟨_, firstKey, _⟩ := inserts.row taken
  obtain ⟨fresh, secondKey, _⟩ := insertsAgain.row nextTaken
  have growth : after.jobs.Extends reached.jobs :=
    extends_of_run continued
  obtain ⟨old, oldMember, identity⟩ := growth first inserts.member
  have sameKey :
      old.idempotencyKey = second.idempotencyKey :=
    calc
      old.idempotencyKey = first.idempotencyKey :=
        Job.idempotencyKey_eq_of_identity identity
      _ = firing.key externals := firstKey
      _ = second.idempotencyKey := secondKey.symm
  exact fresh.2 old oldMember sameKey

/--
Every instance row was inserted under the key of exactly one fire time of its
template, the keys of different firings differ, and no firing is inserted twice
in a run.
-/
theorem fire_times_not_duplicated
    {width : Nat}
    (fixedWidth : ∀ id, (externals.uuidText id).length = width)
    (uuidInjective : Function.Injective externals.uuidText)
    (instantInjective : Function.Injective externals.toRfc3339)
    {clock : Time}
    {actions : List (Action config slots)}
    (run :
      Run externals TransitionSystem.Unrestricted
        (initial config slots clock) actions state) :
    (∀ row ∈ state.jobs.rows, ∀ templateId,
        row.parentJobId = some templateId →
        ∃! fire,
          row.idempotencyKey =
            RecurringService.instanceKey externals templateId fire) ∧
      Function.Injective (Firing.key externals) ∧
      ∀ action after later reached nextAction final,
        step? externals state action = some after →
        Run externals TransitionSystem.Unrestricted after later reached →
        step? externals reached nextAction = some final →
        ∀ firing first second,
          state.InsertsFor after action firing first →
          ¬reached.InsertsFor final nextAction firing second := by
  have keyInjective :=
    Firing.key_injective fixedWidth uuidInjective instantInjective
  have keyed : state.KeyedByFiring externals :=
    run.invariant
      (fun keyed _ taken => keyed.step taken)
      (fun _ member => by cases member)
  refine ⟨?_, keyInjective, ?_⟩
  · intro row member templateId isInstance
    obtain ⟨fire, isKey⟩ := keyed row member templateId isInstance
    refine ⟨fire, isKey, ?_⟩
    intro other isOtherKey
    have sameKey :
        Firing.key externals ⟨templateId, other⟩ =
          Firing.key externals ⟨templateId, fire⟩ :=
      isOtherKey.symm.trans isKey
    exact congrArg Firing.fire (keyInjective sameKey)
  · intro action after later reached nextAction final taken continued
      nextTaken firing first second inserts
    exact inserts.once taken continued nextTaken

end State

/-! ## Concrete runs -/

namespace Sample

/-- The lower-case hexadecimal digit of a nibble. -/
def hexDigit (nibble : Nat) : Char :=
  if nibble < 10 then Char.ofNat (48 + nibble)
  else Char.ofNat (87 + nibble)

/-- The nibbles of an id from `first` on, most significant first. -/
def hexDigits (id : Uuid) (first count : Nat) : List Char :=
  (List.range' first count).map fun index =>
    hexDigit (id.toNat / 16 ^ (31 - index) % 16)

/-- The hyphenated text form of an id. -/
def hyphenated (id : Uuid) : String :=
  String.ofList
    (hexDigits id 0 8 ++ ('-' :: hexDigits id 8 4) ++
      ('-' :: hexDigits id 12 4) ++ ('-' :: hexDigits id 16 4) ++
      ('-' :: hexDigits id 20 12))

@[simp] theorem length_hexDigits
    (id : Uuid)
    (start count : Nat) :
    (hexDigits id start count).length = count := by
  simp only [hexDigits, List.length_map, List.length_range']

theorem length_hyphenated (id : Uuid) :
    (hyphenated id).length = 36 := by
  rw [hyphenated, String.length_ofList]
  simp only [List.length_append, List.length_cons, length_hexDigits]

private theorem hexDigit_injective
    {first second : Nat}
    (firstSmall : first < 16)
    (secondSmall : second < 16)
    (same : hexDigit first = hexDigit second) :
    first = second := by
  have all :
      ∀ first < 16, ∀ second < 16,
        hexDigit first = hexDigit second → first = second := by
    decide
  exact all first firstSmall second secondSmall same

/-- Equal digits are equal nibbles. -/
private theorem nibble_eq
    {first second : Uuid}
    {start count : Nat}
    (same : hexDigits first start count = hexDigits second start count)
    {index : Nat}
    (fromStart : start ≤ index)
    (beforeEnd : index < start + count) :
    first.toNat / 16 ^ (31 - index) % 16 =
      second.toNat / 16 ^ (31 - index) % 16 := by
  have member : index ∈ List.range' start count :=
    List.mem_range'_1.mpr ⟨fromStart, beforeEnd⟩
  exact hexDigit_injective (Nat.mod_lt _ (by omega))
    (Nat.mod_lt _ (by omega)) (List.map_inj_left.mp same index member)

/-- A number is determined by its digits. -/
private theorem mod_pow_eq_of_digits
    {first second : Nat}
    (count : Nat)
    (same :
      ∀ place < count,
        first / 16 ^ place % 16 = second / 16 ^ place % 16) :
    first % 16 ^ count = second % 16 ^ count := by
  induction count with
  | zero =>
      simp [Nat.mod_one]
  | succ count inductionHypothesis =>
      rw [Nat.mod_pow_succ, Nat.mod_pow_succ, same count (by omega),
        inductionHypothesis fun place below => same place (by omega)]

theorem hyphenated_injective :
    Function.Injective hyphenated := by
  intro first second sameText
  have sameChars := String.ofList_injective sameText
  have parts :
      hexDigits first 0 8 = hexDigits second 0 8 ∧
        hexDigits first 8 4 = hexDigits second 8 4 ∧
        hexDigits first 12 4 = hexDigits second 12 4 ∧
        hexDigits first 16 4 = hexDigits second 16 4 ∧
        hexDigits first 20 12 = hexDigits second 20 12 := by
    obtain ⟨front, last⟩ :=
      List.append_inj sameChars (by simp)
    obtain ⟨front, fourth⟩ := List.append_inj front (by simp)
    obtain ⟨front, third⟩ := List.append_inj front (by simp)
    obtain ⟨head, other⟩ := List.append_inj front (by simp)
    exact ⟨head, List.tail_eq_of_cons_eq other,
      List.tail_eq_of_cons_eq third, List.tail_eq_of_cons_eq fourth,
      List.tail_eq_of_cons_eq last⟩
  obtain ⟨head, from8, from12, from16, last⟩ := parts
  have digits :
      ∀ place < 32,
        first.toNat / 16 ^ place % 16 =
          second.toNat / 16 ^ place % 16 := by
    intro place below
    have nibble :
        first.toNat / 16 ^ (31 - (31 - place)) % 16 =
          second.toNat / 16 ^ (31 - (31 - place)) % 16 := by
      by_cases inHead : 31 - place < 8
      · exact nibble_eq head (by omega) (by omega)
      by_cases in8 : 31 - place < 12
      · exact nibble_eq from8 (by omega) (by omega)
      by_cases in12 : 31 - place < 16
      · exact nibble_eq from12 (by omega) (by omega)
      by_cases in16 : 31 - place < 20
      · exact nibble_eq from16 (by omega) (by omega)
      · exact nibble_eq last (by omega) (by omega)
    rwa [show 31 - (31 - place) = place by omega] at nibble
  have sameNat := mod_pow_eq_of_digits 32 digits
  have firstSmall : first.toNat < 16 ^ 32 := first.isLt
  have secondSmall : second.toNat < 16 ^ 32 := second.isLt
  rw [Nat.mod_eq_of_lt firstSmall, Nat.mod_eq_of_lt secondSmall]
    at sameNat
  exact BitVec.eq_of_toNat_eq sameNat

/-- The instant in strokes, behind its sign. -/
def strokes (instant : Time) : String :=
  String.ofList
    ((if 0 ≤ instant then '+' else '-') ::
      List.replicate instant.natAbs '|')

private theorem strokes_injective :
    Function.Injective strokes := by
  intro first second same
  obtain ⟨sameSign, sameCount⟩ :=
    List.cons.inj (String.ofList_injective same)
  have sameLength := congrArg List.length sameCount
  rw [List.length_replicate, List.length_replicate] at sameLength
  have sign : 0 ≤ first ↔ 0 ≤ second := by
    split_ifs at sameSign with firstSign secondSign secondSign
    · exact iff_of_true firstSign secondSign
    · cases sameSign
    · cases sameSign
    · exact iff_of_false firstSign secondSign
  have determined :
      ∀ first second : Int,
        (0 ≤ first ↔ 0 ≤ second) →
        first.natAbs = second.natAbs →
        first = second := by
    omega
  exact determined first second sign sameLength

/--
The text of a whole second of the first hour of 1970; elsewhere any text that
no other instant has.
-/
def firstHourText (instant : Time) : String :=
  if 0 ≤ instant ∧ instant < 3600000000 ∧ instant % 1000000 = 0 then
    externals.toRfc3339 instant
  else
    strokes instant

private theorem twoDigits_eq
    {first second : Int}
    (same : twoDigits first = twoDigits second) :
    first % 100 = second % 100 := by
  have digit :
      ∀ first < 10, ∀ second < 10,
        Char.ofNat (48 + first) = Char.ofNat (48 + second) →
        first = second := by
    decide
  have sameChars := String.ofList_injective same
  rw [List.cons.injEq, List.cons.injEq] at sameChars
  have tens :=
    digit (first / 10 % 10).toNat (by omega)
      (second / 10 % 10).toNat (by omega) sameChars.1
  have ones :=
    digit (first % 10).toNat (by omega)
      (second % 10).toNat (by omega) sameChars.2.1
  omega

private theorem toRfc3339_eq
    {first second : Int}
    (firstInHour : 0 ≤ first ∧ first < 3600000000 ∧ first % 1000000 = 0)
    (secondInHour :
      0 ≤ second ∧ second < 3600000000 ∧ second % 1000000 = 0)
    (same : externals.toRfc3339 first = externals.toRfc3339 second) :
    first = second := by
  have sameChars := congrArg String.toList same
  simp only [externals, String.toList_append, List.append_assoc]
    at sameChars
  have lengths :
      ∀ value other : Int,
        (twoDigits value).toList.length =
          (twoDigits other).toList.length := by
    intro value other
    simp [twoDigits]
  obtain ⟨sameMinutes, rest⟩ :=
    List.append_inj (List.append_cancel_left sameChars) (lengths _ _)
  obtain ⟨sameSeconds, _⟩ :=
    List.append_inj (List.append_cancel_left rest) (lengths _ _)
  have minutes := twoDigits_eq (String.toList_injective sameMinutes)
  have seconds := twoDigits_eq (String.toList_injective sameSeconds)
  omega

theorem firstHourText_injective :
    Function.Injective firstHourText := by
  have marked :
      ∀ instant other : Time,
        externals.toRfc3339 instant ≠ strokes other := by
    intro instant other same
    have sameChars := congrArg String.toList same
    simp only [externals, strokes, String.toList_append,
      String.toList_ofList] at sameChars
    split_ifs at sameChars <;> simp at sameChars
  intro first second same
  unfold firstHourText at same
  split at same <;> split at same
  · rename_i firstInHour secondInHour
    exact toRfc3339_eq firstInHour secondInHour same
  · exact (marked _ _ same).elim
  · exact (marked _ _ same.symm).elim
  · exact strokes_injective same

/-- The foreign functions with text forms that can be read back. -/
def textExternals : Externals :=
  { externals with
    uuidText := hyphenated
    toRfc3339 := firstHourText }

/-- Template 1, its first instance, and the one that its success spawns. -/
def spawnSecond : List (Action config 2) :=
  createRecurring ++ executeInstance ++
  [ .worker 0 (.execute succeeds),
    .worker 0 (.settle .ok),
    .worker 0 (.spawn .ok),
    .worker 0 (.spawn .ok),
    .worker 0 (.spawn .ok),
    .worker 0 (.spawn (.inserted 3)) ]

/-- Two instances of a template have the keys of their two fire times. -/
theorem instances_keyed :
    ∃ state,
      State.Run textExternals TransitionSystem.Unrestricted
          (State.initial config 2 0) spawnSecond state ∧
        (state.jobs.rows.map fun row =>
            (row.parentJobId, row.idempotencyKey)) =
          [(none, "key"),
            (some 1, "00000000-0000-0000-0000-000000000001:" ++
              "1970-01-01T00:01:00+00:00"),
            (some 1, "00000000-0000-0000-0000-000000000001:" ++
              "1970-01-01T00:02:00+00:00")] ∧
        (∀ row ∈ state.jobs.rows, ∀ templateId,
          row.parentJobId = some templateId →
          ∃! fire,
            row.idempotencyKey =
              RecurringService.instanceKey textExternals templateId
                fire) := by
  obtain ⟨state, run, keys⟩ :=
    TransitionSystem.exists_run_of_replay?
      (State.step? textExternals) TransitionSystem.Unrestricted
      (State.initial config 2 0) spawnSecond
      (fun state =>
        (state.jobs.rows.map fun row =>
            (row.parentJobId, row.idempotencyKey)) =
          [(none, "key"),
            (some 1, "00000000-0000-0000-0000-000000000001:" ++
              "1970-01-01T00:01:00+00:00"),
            (some 1, "00000000-0000-0000-0000-000000000001:" ++
              "1970-01-01T00:02:00+00:00")])
      (by decide +kernel)
  have fixedWidth : ∀ id, (textExternals.uuidText id).length = 36 :=
    length_hyphenated
  have uuidInjective : Function.Injective textExternals.uuidText :=
    hyphenated_injective
  have instantInjective : Function.Injective textExternals.toRfc3339 :=
    firstHourText_injective
  exact ⟨state, run, keys,
    (State.fire_times_not_duplicated fixedWidth uuidInjective
      instantInjective run).1⟩

end Sample

end Kronkeeper
