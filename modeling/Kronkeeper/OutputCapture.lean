import Kronkeeper.WorkerCapacity

namespace Kronkeeper

/-!
# Capturing an output

`truncate` returns a short text as it is and cuts a long one at a fixed byte.
Where a character ends there, the cut is the longest prefix of whole characters
that fits; elsewhere the slice panics.
-/

/-- Every character takes a byte. -/
theorem length_le_utf8Bytes (chars : List Char) :
    chars.length ≤ utf8Bytes chars := by
  induction chars with
  | nil =>
      exact Nat.le_refl 0
  | cons c rest inductionHypothesis =>
      have positive := c.utf8Size_pos
      rw [List.length_cons, utf8Bytes_cons]
      omega

namespace Executor

/-- The longest prefix of whole characters within this many bytes. -/
structure LongestPrefix
    (budget : Nat)
    (chars kept : List Char) : Prop where
  isPrefix : kept <+: chars
  fits : utf8Bytes kept ≤ budget
  longest :
    ∀ other, other <+: chars → utf8Bytes other ≤ budget →
      other.length ≤ kept.length

/-- A prefix that fills the budget is the longest one within it. -/
theorem LongestPrefix.of_full
    {budget : Nat}
    {chars kept : List Char}
    (isPrefix : kept <+: chars)
    (full : utf8Bytes kept = budget) :
    LongestPrefix budget chars kept where
  isPrefix := isPrefix
  fits := Nat.le_of_eq full
  longest := by
    intro other otherPrefix otherFits
    rcases List.prefix_or_prefix_of_prefix otherPrefix isPrefix with
      shorter | ⟨more, isMore⟩
    · exact shorter.length_le
    · have moreBytes := length_le_utf8Bytes more
      rw [← isMore, utf8Bytes_append, full] at otherFits
      rw [← isMore, List.length_append]
      omega

/-- What the capture of a text is to be. -/
structure IsCapture (s out : String) : Prop where
  whole : s.utf8ByteSize ≤ maxCaptureBytes → out = s
  cut :
    maxCaptureBytes < s.utf8ByteSize →
    ∃ kept,
      LongestPrefix maxCaptureBytes s.toList kept ∧
        out = String.ofList kept ++ "...(truncated)"

/-- What `truncate` returns is the capture of the text. -/
theorem isCapture_of_truncate?
    {s out : String}
    (truncated : truncate? s = some out) :
    IsCapture s out := by
  unfold truncate? at truncated
  split at truncated
  · rename_i short
    obtain rfl := Option.some.inj truncated
    exact ⟨fun _ => rfl, fun long => by omega⟩
  · rename_i long
    obtain ⟨kept, isKept, isOut⟩ := Option.map_eq_some_iff.mp truncated
    obtain ⟨isPrefix, full⟩ := bytePrefix?_eq_some_iff.mp isKept
    exact ⟨fun short => (long short).elim,
      fun _ => ⟨kept, .of_full isPrefix full, isOut.symm⟩⟩

/-- `truncate` captures exactly the texts that are cut between characters. -/
theorem output_capture_iff (s : String) :
    (∃ out, truncate? s = some out ∧ IsCapture s out) ↔
      CutsCleanly s := by
  rw [← truncate?_isSome_iff, Option.isSome_iff_exists]
  constructor
  · rintro ⟨out, truncated, _⟩
    exact ⟨out, truncated⟩
  · rintro ⟨out, truncated⟩
    exact ⟨out, truncated, isCapture_of_truncate? truncated⟩

/-! ## Texts of characters of one width -/

/-- Characters of one width are cut cleanly if it divides the cut. -/
theorem cutsCleanly_replicate_iff (count : Nat) (c : Char) :
    CutsCleanly (String.ofList (List.replicate count c)) ↔
      count * c.utf8Size ≤ maxCaptureBytes ∨
        c.utf8Size ∣ maxCaptureBytes := by
  unfold CutsCleanly
  rw [utf8ByteSize_ofList, utf8Bytes_replicate, String.toList_ofList]
  constructor
  · rintro (short | ⟨kept, isPrefix, full⟩)
    · exact Or.inl short
    · obtain ⟨_, isReplicate⟩ := List.prefix_replicate_iff.mp isPrefix
      rw [isReplicate, utf8Bytes_replicate] at full
      exact Or.inr ⟨kept.length, by rw [← full, Nat.mul_comm]⟩
  · rintro (short | ⟨length, isLength⟩)
    · exact Or.inl short
    · rcases Nat.le_total (count * c.utf8Size) maxCaptureBytes with
        short | long
      · exact Or.inl short
      · refine Or.inr ⟨List.replicate length c, ?_, ?_⟩
        · have positive := c.utf8Size_pos
          rw [isLength, Nat.mul_comm] at long
          have atMost : length ≤ count :=
            Nat.le_of_mul_le_mul_right long positive
          rw [List.prefix_replicate_iff, List.length_replicate]
          exact ⟨atMost, rfl⟩
        · rw [utf8Bytes_replicate, isLength, Nat.mul_comm]

/--
An output of invalid bytes, each decoded to a replacement character of three
bytes, is captured only if it is short.
-/
theorem cutsCleanly_replaced_iff (count : Nat) :
    CutsCleanly
        (String.ofList (List.replicate count (Char.ofNat 0xFFFD))) ↔
      count ≤ 21845 := by
  rw [cutsCleanly_replicate_iff]
  have width : (Char.ofNat 0xFFFD).utf8Size = 3 := rfl
  have indivisible : ¬3 ∣ maxCaptureBytes := by decide
  rw [width, or_iff_left indivisible]
  unfold maxCaptureBytes
  omega

end Executor

/-- A text that ends one byte into a character at the cut has no capture. -/
theorem Sample.straddling_output_is_lost :
    ¬∃ out,
      Executor.truncate? straddling = some out ∧
        Executor.IsCapture straddling out := by
  rintro ⟨out, truncated, _⟩
  refine not_cutsCleanly_straddling ?_
  rw [← Executor.truncate?_isSome_iff, truncated]
  rfl

end Kronkeeper
