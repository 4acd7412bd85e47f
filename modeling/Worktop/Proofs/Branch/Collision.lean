import Worktop.Proofs.Branch.Handle
import Worktop.Proofs.Custody

/-! # Branches that share a handle

A `+` in a handle says that the handle is marked, and parts what can be read of the branch from the
digest of all of it (`Worktop.Branch.splitFirst?_handleChars`). So a plain name is the handle of no
other branch, and other branches share a handle only if these parts are the same. Main statement:
`Worktop.Branch.collision_iff`.
-/

namespace Worktop

/-! ## Digests -/

theorem Text.Numeral.length_flatMap_hexByte (bytes : List UInt8) :
    (bytes.flatMap hexByte).length = 2 * bytes.length := by
  induction bytes with
  | nil => rfl
  | cons byte bytes ih =>
    have pair : (hexByte byte).length = 2 := rfl
    rw [List.flatMap_cons, List.length_append, pair, ih, List.length_cons]
    omega

namespace Digest.Sha256

theorem length_bigEndian (count n : Nat) : (bigEndian count n).length = count := by
  induction count with
  | zero => rfl
  | succ count ih => rw [bigEndian, List.length_cons, ih]

theorem length_digest (message : List UInt8) : (digest message).length = 32 := by
  simp [digest, wordBytes, length_bigEndian]

theorem length_hex {count : Nat} (some : count ≤ 32) (message : List UInt8) :
    (hex count message).length = 2 * count := by
  rw [hex, Text.Numeral.length_flatMap_hexByte, List.length_take, length_digest,
    Nat.min_eq_left some]

end Digest.Sha256

namespace Branch

theorem length_shortHash (name : List Char) : (shortHash name).length = 8 :=
  Digest.Sha256.length_hex (by decide) _

/-! ## What a handle is read as -/

theorem plus_not_mem_of_plain {cs : List Char} (plain : ∀ c ∈ cs, isPlainChar c = true) :
    '+' ∉ cs :=
  fun member => absurd (plain '+' member) (by decide)

/-- A handle is parted by a `+` if it is marked, and else is not parted. -/
theorem splitFirst?_handleChars (name : List Char) :
    Text.Chars.splitFirst? '+' (handleChars name) =
      if isPlain name then none else some (stem name, shortHash name) := by
  unfold handleChars
  split
  · rename_i plain
    cases parted : Text.Chars.splitFirst? '+' name with
    | none => rfl
    | some parts =>
      have whole := plus_not_mem_of_plain
        (List.all_eq_true.mp (Bool.and_eq_true_iff.mp plain).2)
      obtain ⟨rfl, -⟩ := Text.Chars.eq_append_of_splitFirst? parted
      exact absurd (List.mem_append_right _ List.mem_cons_self) whole
  · exact Text.Chars.splitFirst?_append (plus_not_mem_of_plain fun _ => plain_stem) _

/-- Two branches of which neither is plain and all that their handles are made of is the same. -/
structure Collide (a b : String) : Prop where
  first : isPlain a.toList = false
  second : isPlain b.toList = false
  stem : stem a.toList = stem b.toList
  hash : shortHash a.toList = shortHash b.toList

theorem handle_eq_iff {a b : String} : handle a = handle b ↔ a = b ∨ Collide a b := by
  constructor
  · intro same
    have chars : handleChars a.toList = handleChars b.toList := by
      simpa [handle] using congrArg String.toList same
    have parts := congrArg (Text.Chars.splitFirst? '+') chars
    rw [splitFirst?_handleChars, splitFirst?_handleChars] at parts
    cases first : isPlain a.toList <;> cases second : isPlain b.toList
    · obtain ⟨stems, hashes⟩ : stem a.toList = stem b.toList ∧
          shortHash a.toList = shortHash b.toList := by simpa [first, second] using parts
      exact .inr ⟨first, second, stems, hashes⟩
    · simp [first, second] at parts
    · simp [first, second] at parts
    · rw [handleChars, handleChars, if_pos first, if_pos second] at chars
      exact .inl (String.toList_inj.mp chars)
  · rintro (rfl | ⟨first, second, stems, hashes⟩)
    · rfl
    · simp [handle, handleChars, first, second, stems, hashes]

end Branch

/-! ## What is named after a handle -/

theorem Workspace.windowNameOf_inj {windowPrefix a b : String} :
    windowNameOf windowPrefix a = windowNameOf windowPrefix b ↔
      Branch.handle a = Branch.handle b := by
  simp [windowNameOf, ← String.toList_inj]

/-- A guard is for the handle of the branch that it was given for. -/
theorem Locks.key_of_acquire {locks : Locks} {fs : FileSystem} {table : LockTable}
    {branch : String} {guard : Guard} (given : (locks.acquire fs table branch).1 = .ok guard) :
    guard.key = Branch.handle branch := by
  have acquired := ({ locks, files := fs } : Custody).acquired table branch
  rw [Custody.acquire_fst, given] at acquired
  exact congrArg Prod.snd acquired.slot

namespace Branch

/-- **Handles collide only where digests do.** Two branches share a handle exactly if they are one,
or neither is plain and what can be read of them and their short digests are the same. So nothing
that is named after a plain branch is shared with another branch: no handle, no window under the same
prefix, no worktree path under the same base, and no key of a lock. A branch that is not plain has a
handle with one `+` in it, behind which eight lower-case hexadecimal digits stand. -/
theorem collision_iff :
    (∀ a b, handle a = handle b ↔ a = b ∨ Collide a b) ∧
    (∀ a b, isPlain a.toList = true → a ≠ b → handle a ≠ handle b ∧
      (∀ front, Workspace.windowNameOf front a ≠ Workspace.windowNameOf front b) ∧
      (∀ base, Path.components (Workspace.worktreePathOf base a) ≠
        Path.components (Workspace.worktreePathOf base b)) ∧
      ∀ (locks locks' : Locks) (fs fs' : FileSystem) (table table' : LockTable)
        (guard guard' : Guard), (locks.acquire fs table a).1 = .ok guard →
          (locks'.acquire fs' table' b).1 = .ok guard' → guard.key ≠ guard'.key) ∧
    ∀ name, isPlain name.toList = false → ∃ readable digest,
      (handle name).toList = readable ++ '+' :: digest ∧ '+' ∉ readable ∧ '+' ∉ digest ∧
        digest.length = 8 ∧ ∀ c ∈ digest, c ∈ hexDigits := by
  refine ⟨fun a b => handle_eq_iff, fun a b plain apart => ?_, fun name marked => ?_⟩
  · have handles : handle a ≠ handle b := by
      intro same
      obtain one | collide := handle_eq_iff.mp same
      · exact apart one
      · rw [collide.first] at plain
        cases plain
    refine ⟨handles, fun front same => handles (Workspace.windowNameOf_inj.mp same), ?_, ?_⟩
    · intro base same
      rw [Workspace.components_worktreePathOf, Workspace.components_worktreePathOf] at same
      exact handles (Path.Component.name.inj (Path.last_of_concat same).2)
    · intro locks locks' fs fs' table table' guard guard' given given' same
      rw [Locks.key_of_acquire given, Locks.key_of_acquire given'] at same
      exact handles same
  · refine ⟨stem name.toList, shortHash name.toList, ?_, plus_not_mem_of_plain fun _ => plain_stem,
      plus_not_mem_of_plain fun _ => plain_shortHash, length_shortHash _,
      fun _ => mem_hexDigits_of_mem_shortHash⟩
    simp [handle, handleChars, marked]

end Branch

end Worktop
