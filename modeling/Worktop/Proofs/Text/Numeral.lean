import Mathlib.Algebra.Group.Nat.Defs
import Mathlib.Data.List.Basic
import Mathlib.Data.List.Induction
import Worktop.Text.Numeral

/-! # Numerals and what they spell

What digits spell is said digit by digit, from the front (`Worktop.Text.Numeral.Spells`), and these
texts are the ones that are read as numbers (`Worktop.Text.Numeral.decimal?_eq_some_iff`,
`Worktop.Text.Numeral.word64?_eq_some_iff`). A number has many numerals, as zeros may stand in front
of it, but one that is shorter than all others, and this is the one that numbers are printed as
(`Worktop.Text.Numeral.shortest_iff`).
-/

namespace Worktop.Text.Numeral

/-- Decimal digits, at least one, and the number that they spell. -/
inductive Spells : List Char → Nat → Prop
  | digit {d : Nat} (small : d < 10) : Spells [Nat.digitChar d] d
  | next {cs : List Char} {n d : Nat} (front : Spells cs n) (small : d < 10) :
      Spells (cs ++ [Nat.digitChar d]) (10 * n + d)

/-- A text of a number: its digits, with or without a plus sign in front of them. -/
inductive Signed : List Char → Nat → Prop
  | plain {cs : List Char} {n : Nat} (spells : Spells cs n) : Signed cs n
  | plus {cs : List Char} {n : Nat} (spells : Spells cs n) : Signed ('+' :: cs) n

/-- The shortest numeral of a number. -/
structure Shortest (cs : List Char) (n : Nat) : Prop where
  spells : Spells cs n
  least : ∀ other, Spells other n → cs.length ≤ other.length
  unpadded : cs.head? = some '0' → cs = ['0']

/-! ## Reading -/

theorem digit?_digitChar {d : Nat} (small : d < 10) : digit? (Nat.digitChar d) = some d := by
  have code := Nat.toNat_digitChar_of_lt_ten small
  unfold digit?
  dsimp only
  rw [if_pos (by omega), code]
  exact congrArg some (by omega)

theorem eq_digitChar_of_digit? {c : Char} {d : Nat} (read : digit? c = some d) (small : d < 10) :
    c = Nat.digitChar d := by
  apply Char.toNat_inj.mp
  rw [Nat.toNat_digitChar_of_lt_ten small]
  unfold digit? at read
  dsimp only at read
  split at read
  · cases read
    omega
  -- letters stand for ten and more
  · split at read
    · cases read
      omega
    · split at read
      · cases read
        omega
      · cases read

theorem isDigit_iff {c : Char} : isDigit 10 c = true ↔ ∃ d < 10, c = Nat.digitChar d := by
  constructor
  · intro digit
    unfold isDigit at digit
    split at digit
    · rename_i d read
      have small : d < 10 := of_decide_eq_true digit
      exact ⟨d, small, eq_digitChar_of_digit? read small⟩
    · cases digit
  · rintro ⟨d, small, rfl⟩
    simp [isDigit, digit?_digitChar small, small]

theorem value_concat (cs : List Char) {d : Nat} (small : d < 10) :
    value 10 (cs ++ [Nat.digitChar d]) = 10 * value 10 cs + d := by
  rw [value, List.foldl_append, List.foldl_cons, List.foldl_nil, digit?_digitChar small,
    Option.getD_some, Nat.mul_comm]
  rfl

/-- All that is read of a numeral: there are digits only, and this is their value. -/
theorem Spells.read {cs : List Char} {n : Nat} (spells : Spells cs n) :
    cs ≠ [] ∧ (∀ c ∈ cs, isDigit 10 c = true) ∧ value 10 cs = n := by
  induction spells with
  | digit small =>
    refine ⟨List.cons_ne_nil _ _, fun c member => ?_, ?_⟩
    · cases List.mem_singleton.mp member
      exact isDigit_iff.mpr ⟨_, small, rfl⟩
    · simpa [value] using value_concat [] small
  | next front small ih =>
    obtain ⟨-, digits, worth⟩ := ih
    refine ⟨List.append_ne_nil_of_right_ne_nil _ (List.cons_ne_nil _ _), fun c member => ?_, ?_⟩
    · obtain inside | last := List.mem_append.mp member
      · exact digits c inside
      · cases List.mem_singleton.mp last
        exact isDigit_iff.mpr ⟨_, small, rfl⟩
    · rw [value_concat _ small, worth]

theorem Spells.unique {cs : List Char} {m n : Nat} (first : Spells cs m) (second : Spells cs n) :
    m = n :=
  first.read.2.2.symm.trans second.read.2.2

theorem spells_value {cs : List Char} (filled : cs ≠ [])
    (digits : ∀ c ∈ cs, isDigit 10 c = true) : Spells cs (value 10 cs) := by
  induction cs using List.reverseRecOn with
  | nil => exact absurd rfl filled
  | append_singleton cs c ih =>
    obtain ⟨d, small, rfl⟩ := isDigit_iff.mp (digits c (by simp))
    rw [value_concat cs small]
    by_cases alone : cs = []
    · subst alone
      simpa [value] using Spells.digit small
    · exact .next (ih alone fun c member => digits c (List.mem_append_left _ member)) small

/-- Just numerals are read as numbers. -/
theorem decimal?_eq_some_iff {cs : List Char} {n : Nat} : decimal? cs = some n ↔ Spells cs n := by
  unfold decimal?
  constructor
  · intro read
    split at read
    · cases read
    · rename_i fit
      obtain ⟨filled, digits⟩ : cs ≠ [] ∧ ∀ c ∈ cs, isDigit 10 c = true := by simpa using fit
      cases read
      exact spells_value filled digits
  · intro spells
    obtain ⟨filled, digits, rfl⟩ := spells.read
    rw [if_neg (by simpa [filled] using digits)]

theorem not_spells_plus {cs : List Char} {n : Nat} : ¬ Spells ('+' :: cs) n := by
  intro spells
  have digit : isDigit 10 '+' = true := spells.read.2.1 '+' List.mem_cons_self
  revert digit
  decide

theorem wordLimit_eq : wordLimit = 2 ^ 64 := by decide

/-- Numbers of 64 bits are read from their digits, whether a plus sign is in front of them or not. -/
theorem word64?_eq_some_iff {cs : List Char} {n : Nat} :
    word64? cs = some n ↔ Signed cs n ∧ n < 2 ^ 64 := by
  unfold word64?
  rw [Option.filter_eq_some_iff, decimal?_eq_some_iff, decide_eq_true_eq, wordLimit_eq]
  refine and_congr_left fun _ => ?_
  split
  · rename_i rest
    constructor
    · exact .plus
    · intro signed
      cases signed with
      | plain spells => exact absurd spells not_spells_plus
      | plus spells => exact spells
  · rename_i unsigned
    constructor
    · exact .plain
    · intro signed
      cases signed with
      | plain spells => exact spells
      | plus spells => exact absurd rfl (unsigned _)

/-! ## The shortest numeral -/

theorem Spells.lt {cs : List Char} {n : Nat} (spells : Spells cs n) : n < 10 ^ cs.length := by
  induction spells with
  | digit small => simpa using small
  | next front small ih =>
    rw [List.length_append, List.length_singleton, Nat.pow_succ]
    omega

/-- A number has one numeral of each length. -/
theorem Spells.eq_of_length {cs other : List Char} {n : Nat} (spells : Spells cs n)
    (also : Spells other n) (same : cs.length = other.length) : cs = other := by
  induction spells generalizing other with
  | digit small =>
    cases also with
    | digit => rfl
    | next front => simp [front.read.1] at same
  | @next cs n d front small ih =>
    generalize whole : 10 * n + d = m at also
    cases also with
    | digit => simp [front.read.1] at same
    | @next cs' n' d' front' small' =>
      have fronts : cs.length = cs'.length := by simpa using same
      -- quotient and remainder by ten are what is in front and the last digit
      obtain rfl : n = n' := by omega
      obtain rfl : d = d' := by omega
      rw [ih front' fronts]

theorem spells_toDigits (n : Nat) : Spells (Nat.toDigits 10 n) n := by
  induction n using Nat.strongRecOn with
  | ind n ih =>
    rw [Nat.toDigits_eq_if (by decide)]
    split
    · rename_i small
      exact .digit small
    · have shown := Spells.next (ih (n / 10) (by omega)) (Nat.mod_lt n (by decide))
      rwa [Nat.div_add_mod] at shown

theorem head_toDigits {n : Nat} (zero : (Nat.toDigits 10 n).head? = some '0') : n = 0 := by
  induction n using Nat.strongRecOn with
  | ind n ih =>
    rw [Nat.toDigits_eq_if (by decide)] at zero
    split at zero
    · simpa using zero
    · rw [List.head?_append_of_ne_nil _ Nat.toDigits_ne_nil] at zero
      have none := ih (n / 10) (by omega) zero
      omega

/-- The shortest numeral of a number is the one that it is printed as. -/
theorem shortest_iff {cs : List Char} {n : Nat} : Shortest cs n ↔ cs = Nat.toDigits 10 n := by
  have least : ∀ other, Spells other n → (Nat.toDigits 10 n).length ≤ other.length := by
    intro other spells
    have some : 0 < other.length := List.length_pos_iff.mpr spells.read.1
    exact (Nat.length_toDigits_le_iff (by decide) some).mpr spells.lt
  constructor
  · intro shortest
    have printed := spells_toDigits n
    have lengths := Nat.le_antisymm (shortest.least _ printed) (least cs shortest.spells)
    exact shortest.spells.eq_of_length printed lengths
  · rintro rfl
    refine ⟨spells_toDigits n, least, fun zero => ?_⟩
    rw [head_toDigits zero, Nat.toDigits_zero]

theorem shortest_toList_iff {s : String} {n : Nat} : Shortest s.toList n ↔ s = toString n := by
  rw [shortest_iff, ← String.toList_inj, Nat.toString_eq_repr, Nat.toList_repr]

/-- A number is printed as the shortest numeral of another one only if it is this one. -/
theorem Shortest.eq_toString_iff {s : String} {m n : Nat} (shortest : Shortest s.toList n) :
    s = toString m ↔ n = m := by
  constructor
  · intro printed
    exact shortest.spells.unique (shortest_toList_iff.mpr printed).spells
  · rintro rfl
    exact shortest_toList_iff.mp shortest

end Worktop.Text.Numeral
