import Worktop.Proofs.Path
import Worktop.Proofs.Text.Lines
import Worktop.Workspace

/-! # What handles are made of

A handle is not empty, and its characters are plain ones and `+` (`Worktop.Branch.handle_safe`), so
that the path of a worktree and the name of a window stand on one line where what is put in front of
the handle does.
-/

namespace Worktop

namespace Branch

/-- The lower-case hexadecimal digits. -/
def hexDigits : List Char := "0123456789abcdef".toList

theorem hexDigit_mem {n : Nat} (small : n < 16) : Text.Numeral.hexDigit n ∈ hexDigits := by
  have all : ∀ i : Fin 16, Text.Numeral.hexDigit i ∈ hexDigits := by decide
  exact all ⟨n, small⟩

theorem mem_hexDigits_of_mem_shortHash {name : List Char} {c : Char}
    (member : c ∈ shortHash name) : c ∈ hexDigits := by
  obtain ⟨byte, -, digit⟩ := List.mem_flatMap.mp member
  have small : byte.toNat < 256 := byte.toNat_lt
  simp only [Text.Numeral.hexByte, List.mem_cons, List.not_mem_nil, or_false] at digit
  rcases digit with rfl | rfl
  · exact hexDigit_mem (by omega)
  · exact hexDigit_mem (by omega)

theorem plain_shortHash {name : List Char} {c : Char} (member : c ∈ shortHash name) :
    isPlainChar c = true := by
  have all : hexDigits.all isPlainChar = true := by decide
  exact List.all_eq_true.mp all c (mem_hexDigits_of_mem_shortHash member)

theorem plain_sanitize {name : List Char} {c : Char} (member : c ∈ sanitize name) :
    isPlainChar c = true := by
  obtain ⟨d, -, rfl⟩ := List.mem_map.mp member
  split
  · assumption
  · decide

theorem mem_of_mem_trimDashes {cs : List Char} {c : Char} (member : c ∈ trimDashes cs) :
    c ∈ cs := by
  have inner := List.dropWhile_subset _ (List.mem_reverse.mp member)
  exact List.dropWhile_subset _ (List.mem_reverse.mp inner)

theorem plain_stem {name : List Char} {c : Char} (member : c ∈ stem name) :
    isPlainChar c = true := by
  unfold stem at member
  split at member
  · have all : ['w', 'o', 'r', 'k', 's', 'p', 'a', 'c', 'e'].all isPlainChar = true := by decide
    exact List.all_eq_true.mp all c member
  · exact plain_sanitize (mem_of_mem_trimDashes member)

/-- A handle is made of plain characters and `+`. -/
theorem handle_safe {branch : String} {c : Char} (member : c ∈ (handle branch).toList) :
    isPlainChar c = true ∨ c = '+' := by
  simp only [handle, String.toList_ofList, handleChars] at member
  split at member
  · rename_i plain
    exact .inl (List.all_eq_true.mp (Bool.and_eq_true_iff.mp plain).2 c member)
  · rcases List.mem_append.mp member with inStem | marked
    · exact .inl (plain_stem inStem)
    · rcases List.mem_cons.mp marked with rfl | inHash
      · exact .inr rfl
      · exact .inl (plain_shortHash inHash)

theorem handle_ne_nil (branch : String) : (handle branch).toList ≠ [] := by
  simp only [handle, String.toList_ofList, handleChars]
  split
  · rename_i plain
    intro empty
    rw [empty] at plain
    cases plain
  · simp

/-- A handle with more behind it that has no slash in it is a name. -/
theorem isName_handle_append (branch : String) {back : String} (whole : '/' ∉ back.toList) :
    Path.IsName (handle branch ++ back) := by
  have dotless : '.' ∉ (handle branch).toList := fun member =>
    absurd (handle_safe member) (by decide)
  have first : ∀ name : String, (∀ c ∈ name.toList, c = '.') → handle branch ++ back ≠ name := by
    intro name dots same
    obtain ⟨c, rest, chars⟩ := List.exists_cons_of_ne_nil (handle_ne_nil branch)
    have member : c ∈ name.toList := by simp [← same, chars]
    apply dotless
    rw [chars, ← dots c member]
    exact List.mem_cons_self
  refine ⟨?_, first "" (by simp), first "." (by simp), first ".." (by simp)⟩
  intro member
  rw [String.toList_append] at member
  obtain inside | behind := List.mem_append.mp member
  · exact absurd (handle_safe inside) (by decide)
  · exact whole behind

theorem isName_handle (branch : String) : Path.IsName (handle branch) := by
  have named : Path.IsName (handle branch ++ "") := isName_handle_append branch (by decide)
  rwa [String.append_empty] at named

theorem isName_lock (branch : String) : Path.IsName (handle branch ++ ".lock") :=
  isName_handle_append branch (by decide)

theorem not_blank_of_plain {c : Char} (plain : isPlainChar c = true) : Text.isBlank c = false := by
  have range : (48 ≤ c.toNat ∧ c.toNat ≤ 57) ∨ (65 ≤ c.toNat ∧ c.toNat ≤ 90) ∨
      (97 ≤ c.toNat ∧ c.toNat ≤ 122) ∨ c = '-' ∨ c = '_' := by
    delta isPlainChar Char.isAlphanum Char.isAlpha Char.isUpper Char.isLower Char.isDigit at plain
    simp only [Bool.or_eq_true, Bool.and_eq_true, decide_eq_true_eq, ge_iff_le,
      UInt32.le_iff_toNat_le] at plain
    rcases plain with ((((upper | lower) | digit) | rfl) | rfl)
    · exact .inr (.inl upper)
    · exact .inr (.inr (.inl lower))
    · exact .inl digit
    · decide
    · decide
  rw [Bool.eq_false_iff]
  intro blank
  simp only [Text.isBlank, Bool.or_eq_true, Bool.and_eq_true, decide_eq_true_eq,
    beq_iff_eq] at blank
  rcases range with digit | upper | lower | rfl | rfl
  · omega
  · omega
  · omega
  · revert blank
    decide
  · revert blank
    decide

theorem not_blank_of_handle {branch : String} {c : Char} (member : c ∈ (handle branch).toList) :
    Text.isBlank c = false := by
  rcases handle_safe member with plain | rfl
  · exact not_blank_of_plain plain
  · decide

/-- What ends in a handle stands on one line where what is in front of the handle does. -/
theorem singleLine_append_handle {front : String} (noFeed : '\n' ∉ front.toList) (branch : String) :
    Text.SingleLine (front ++ handle branch) where
  noFeed := by
    have feed : '\n' ∉ (handle branch).toList := by
      intro member
      exact absurd (not_blank_of_handle member) (by decide)
    simp [noFeed, feed]
  tidy := by
    intro c last
    rw [String.toList_append, List.getLast?_append,
      List.getLast?_eq_some_getLast (handle_ne_nil branch), Option.some_or] at last
    cases last
    exact not_blank_of_handle (List.getLast_mem _)

end Branch

namespace Workspace

/-- The path of a worktree says one thing more than the directory for worktrees. -/
theorem components_worktreePathOf (base branch : String) :
    Path.components (worktreePathOf base branch) =
      Path.components base ++ [.name (Branch.handle branch)] :=
  Path.components_join base (Branch.isName_handle branch)

theorem singleLine_worktreePathOf {base : String} (noFeed : '\n' ∉ base.toList) (branch : String) :
    Text.SingleLine (worktreePathOf base branch) := by
  have alone : Text.SingleLine ("" ++ Branch.handle branch) :=
    Branch.singleLine_append_handle (by decide) branch
  unfold worktreePathOf Path.join
  split
  · simpa using alone
  · split
    · exact Branch.singleLine_append_handle noFeed branch
    · refine Branch.singleLine_append_handle ?_ branch
      simp [noFeed]

theorem oneLine_windowNameOf {windowPrefix : String} (noFeed : '\n' ∉ windowPrefix.toList)
    (branch : String) : Text.OneLine (windowNameOf windowPrefix branch) :=
  (Branch.singleLine_append_handle noFeed branch).oneLine

end Workspace

end Worktop
