import Worktop.Hook
import Worktop.Proofs.Text.Lines
import Worktop.Proofs.Text.Utf8

/-! # What is kept of an output

An output is kept without the blanks around it. Main statement: of what is longer than 10000 bytes,
as many whole characters are kept as are within 10000 bytes, and a place to cut it at is always
found (`Worktop.Hook.truncate_keeps_longest`).
-/

namespace Worktop.Hook

open Text Text.Utf8

theorem truncate_short {s : String} (short : (trim s).utf8ByteSize ≤ 10000) :
    truncate s = trim s := by
  have notLong : ¬ outputLimit < size (trim s).toList := by
    rw [size_toList]
    exact Nat.not_lt.mpr short
  rw [truncate, if_neg notLong]

theorem truncate_long {s kept : String} (long : 10000 < (trim s).utf8ByteSize)
    (cut : cut? 10000 (trim s) = some kept) : truncate s = kept ++ "... [truncated]" := by
  rw [← size_toList] at long
  rw [truncate, outputLimit, if_pos long, cut, Option.getD_some]

/-- **The longest part of an output that is within the limit is kept.** `steps` is how far back from
the limit the output is cut. -/
theorem truncate_keeps_longest (s : String) :
    ((trim s).utf8ByteSize ≤ 10000 → truncate s = trim s) ∧
    (10000 < (trim s).utf8ByteSize → ∃ (kept : String) (steps : Nat),
      truncate s = kept ++ "... [truncated]" ∧
      kept.toList <+: (trim s).toList ∧
      kept.utf8ByteSize ≤ 10000 ∧ 9997 ≤ kept.utf8ByteSize ∧
      (∀ other : String, other.toList <+: (trim s).toList → other.utf8ByteSize ≤ 10000 →
        other.toList <+: kept.toList) ∧
      steps ≤ 3 ∧ lastBoundary? (encode (trim s)) 10000 = some (10000 - steps) ∧
      (∀ k < steps, isBoundary (encode (trim s)) (10000 - k) = false) ∧
      slice? (10000 - steps) (trim s).toList = some kept.toList ∧
      encode kept = (encode (trim s)).take (10000 - steps)) := by
  refine ⟨truncate_short, ?_⟩
  intro long
  have within : 10000 ≤ size (trim s).toList := by
    rw [size_toList]
    exact Nat.le_of_lt long
  obtain ⟨kept, steps, cut, isFront, width, longest, few, -, found, passed⟩ := exists_cut within
  have count : kept.utf8ByteSize = 10000 - steps := (size_toList kept).symm.trans width
  refine ⟨kept, steps, truncate_long long cut, isFront, by omega, by omega, ?_, few, found, passed,
    slice?_eq_some_iff.mpr ⟨isFront, width⟩, ?_⟩
  · intro other otherIsFront short
    rw [← size_toList] at short
    exact longest other.toList otherIsFront short
  · obtain ⟨rest, whole⟩ := isFront
    have bytesOf : encode (trim s) = bytes kept.toList ++ bytes rest := by
      rw [← bytes_append, whole]
      rfl
    rw [bytesOf, ← width, ← length_bytes, List.take_left]
    rfl

/-- Of characters of three bytes each, 3333 are kept. -/
theorem truncate_keeps_longest_line :
    let line := String.ofList (List.replicate 3334 '…')
    trim "  ok \n" = "ok" ∧ truncate "  ok \n" = "ok" ∧
      10000 < (trim (line ++ "\n")).utf8ByteSize ∧
      truncate (line ++ "\n") = String.ofList (List.replicate 3333 '…') ++ "... [truncated]" := by
  intro line
  have trimmed : trim (line ++ "\n") = line := by
    have shown : isBlank '…' = false := by decide
    refine trim_line ?_ ?_
    · intro c front
      rw [String.toList_ofList, List.head?_replicate] at front
      cases front
      exact shown
    · intro c back
      rw [String.toList_ofList, List.getLast?_replicate] at back
      cases back
      exact shown
  have width (n : Nat) : size (List.replicate n '…') = n * 3 := by
    induction n with
    | zero => rfl
    | succ n ih =>
      have three : '…'.utf8Size = 3 := by decide
      rw [List.replicate_succ, size_cons, ih, three]
      omega
  have long : 10000 < (trim (line ++ "\n")).utf8ByteSize := by
    rw [trimmed, ← size_toList, String.toList_ofList, width]
    decide
  obtain ⟨kept, -, told, isFront, most, least, -⟩ :=
    (truncate_keeps_longest (line ++ "\n")).2 long
  refine ⟨by decide, (truncate_keeps_longest "  ok \n").1 (by decide), long, ?_⟩
  rw [trimmed, String.toList_ofList] at isFront
  obtain ⟨-, same⟩ := List.prefix_replicate_iff.mp isFront
  rw [← size_toList, same, width] at most least
  have count : kept.toList.length = 3333 := by omega
  rw [told, ← String.ofList_toList (s := kept), same, count]

end Worktop.Hook
