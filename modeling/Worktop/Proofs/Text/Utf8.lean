import Worktop.Text.Utf8

/-! # Cutting texts between characters

A place in the bytes of a text is a boundary if just so many bytes are taken by characters at the
front of it (`Worktop.Text.Utf8.isBoundary_iff`). So the search for a boundary takes three steps at
most, and where it ends the text can be cut (`Worktop.Text.Utf8.exists_cut`).
-/

namespace Worktop.Text.Utf8

/-- The bytes of some characters. -/
def bytes (cs : List Char) : List UInt8 :=
  cs.flatMap String.utf8EncodeChar

theorem bytes_cons (c : Char) (cs : List Char) :
    bytes (c :: cs) = String.utf8EncodeChar c ++ bytes cs :=
  List.flatMap_cons

theorem bytes_append (front rest : List Char) : bytes (front ++ rest) = bytes front ++ bytes rest :=
  List.flatMap_append

@[simp] theorem length_bytes (cs : List Char) : (bytes cs).length = size cs := by
  induction cs with
  | nil => rfl
  | cons c cs ih => simp [bytes_cons, size, ih]

@[simp] theorem size_nil : size [] = 0 := rfl

@[simp] theorem size_cons (c : Char) (cs : List Char) :
    size (c :: cs) = c.utf8Size + size cs := rfl

@[simp] theorem size_append (front rest : List Char) :
    size (front ++ rest) = size front + size rest := by
  rw [← length_bytes, bytes_append, List.length_append, length_bytes, length_bytes]

theorem utf8ByteSize_ofList (cs : List Char) : (String.ofList cs).utf8ByteSize = size cs := by
  induction cs with
  | nil => rfl
  | cons c cs ih => simp [ih]

theorem size_toList (s : String) : size s.toList = s.utf8ByteSize := by
  rw [← utf8ByteSize_ofList, String.ofList_toList]

/-! ## Boundaries -/

/-- Of the bytes of a character, all but the first go on with it. -/
theorem utf8EncodeChar_eq_cons (c : Char) : ∃ lead rest,
    String.utf8EncodeChar c = lead :: rest ∧ continues lead = false ∧
      ∀ b ∈ rest, continues b = true := by
  fun_cases String.utf8EncodeChar c <;> refine ⟨_, _, rfl, ?_, ?_⟩ <;> simp [continues] <;> omega

theorem isBoundary_zero (bs : List UInt8) : isBoundary bs 0 = true := by
  simp [isBoundary]

/-- Nothing reaches across the place behind a character. -/
theorem isBoundary_utf8Size (c : Char) (cs : List Char) :
    isBoundary (bytes (c :: cs)) c.utf8Size = true := by
  cases cs with
  | nil => simp [isBoundary]
  | cons next cs =>
    obtain ⟨lead, rest, shape, begins, -⟩ := utf8EncodeChar_eq_cons next
    have after : (bytes (c :: next :: cs))[c.utf8Size]? = some lead := by
      simp [bytes_cons, shape]
    simp [isBoundary, after, begins]

theorem isBoundary_amid {c : Char} {place : Nat} (positive : 0 < place)
    (within : place < c.utf8Size) (cs : List Char) :
    isBoundary (bytes (c :: cs)) place = false := by
  obtain ⟨lead, rest, shape, -, goesOn⟩ := utf8EncodeChar_eq_cons c
  have width : c.utf8Size = rest.length + 1 := by
    rw [← String.length_utf8EncodeChar, shape, List.length_cons]
  obtain ⟨i, rfl⟩ : ∃ i, place = i + 1 := ⟨place - 1, by omega⟩
  have inside : i < rest.length := by omega
  have there : (bytes (c :: cs))[i + 1]? = some rest[i] := by
    rw [bytes_cons, shape, List.cons_append, List.getElem?_cons_succ,
      List.getElem?_append_left inside, List.getElem?_eq_getElem inside]
  have short : i + 1 ≠ (bytes (c :: cs)).length := by
    simp
    omega
  simp [isBoundary, there, short, goesOn, -length_bytes]

theorem isBoundary_behind {c : Char} {place : Nat} (behind : c.utf8Size < place)
    (cs : List Char) :
    isBoundary (bytes (c :: cs)) place = isBoundary (bytes cs) (place - c.utf8Size) := by
  have there : (bytes (c :: cs))[place]? = (bytes cs)[place - c.utf8Size]? := by
    have long : (String.utf8EncodeChar c).length ≤ place := by
      rw [String.length_utf8EncodeChar]
      omega
    rw [bytes_cons, List.getElem?_append_right long, String.length_utf8EncodeChar]
  have last : place = (bytes (c :: cs)).length ↔ place - c.utf8Size = (bytes cs).length := by
    simp
    omega
  have positive : place ≠ 0 ∧ place - c.utf8Size ≠ 0 := by omega
  simp [isBoundary, there, last, positive, -length_bytes]

/-- The boundaries in a text are the places behind some characters at the front of it. -/
theorem isBoundary_iff {cs : List Char} {place : Nat} :
    isBoundary (bytes cs) place = true ↔ ∃ front, front <+: cs ∧ size front = place := by
  induction cs generalizing place with
  | nil => simp [isBoundary, bytes, eq_comm]
  | cons c cs ih =>
    have positive := c.utf8Size_pos
    rcases Nat.eq_zero_or_pos place with rfl | inside
    · simpa [isBoundary_zero] using ⟨[], List.nil_prefix, size_nil⟩
    -- Any characters at the front begin with `c`, as the place is not at the front.
    have starts : (∃ front, front <+: c :: cs ∧ size front = place) ↔
        ∃ front, front <+: cs ∧ c.utf8Size + size front = place := by
      constructor
      · rintro ⟨front, isFront, rfl⟩
        cases front with
        | nil => cases inside
        | cons d front =>
          obtain ⟨rfl, restIsFront⟩ := List.cons_prefix_cons.mp isFront
          exact ⟨front, restIsFront, rfl⟩
      · rintro ⟨front, isFront, rfl⟩
        exact ⟨c :: front, List.cons_prefix_cons.mpr ⟨rfl, isFront⟩, rfl⟩
    rw [starts]
    rcases Nat.lt_trichotomy place c.utf8Size with amid | rfl | behind
    · rw [isBoundary_amid inside amid]
      simp only [Bool.false_eq_true, false_iff]
      rintro ⟨front, -, rfl⟩
      omega
    · simpa [isBoundary_utf8Size] using ⟨[], List.nil_prefix, size_nil⟩
    · rw [isBoundary_behind behind, ih]
      refine exists_congr fun front => and_congr_right fun _ => ?_
      omega

/-! ## Slices -/

theorem slice?_append (front rest : List Char) :
    slice? (size front) (front ++ rest) = some front := by
  induction front with
  | nil => rw [size_nil, slice?]
  | cons c front ih =>
    have positive := c.utf8Size_pos
    obtain ⟨n, width⟩ : ∃ n, c.utf8Size + size front = n + 1 :=
      Nat.exists_eq_succ_of_ne_zero (by omega)
    have fits : c.utf8Size ≤ n + 1 := by omega
    have after : n + 1 - c.utf8Size = size front := by omega
    rw [size_cons, width, List.cons_append, slice?, if_pos fits, after, ih]
    rfl

/-- What is in front of a place are the characters that take just so many bytes. -/
theorem slice?_eq_some_iff {place : Nat} {cs front : List Char} :
    slice? place cs = some front ↔ front <+: cs ∧ size front = place := by
  constructor
  · intro sliced
    fun_induction slice? place cs generalizing front with
    | case1 cs =>
      obtain rfl := Option.some.inj sliced
      exact ⟨List.nil_prefix, size_nil⟩
    | case2 => cases sliced
    | case3 place c cs fits ih =>
      obtain ⟨tail, tailSliced, rfl⟩ := Option.map_eq_some_iff.mp sliced
      obtain ⟨isFront, width⟩ := ih tailSliced
      refine ⟨List.cons_prefix_cons.mpr ⟨rfl, isFront⟩, ?_⟩
      rw [size_cons, width]
      omega
    | case4 => cases sliced
  · rintro ⟨⟨rest, rfl⟩, rfl⟩
    exact slice?_append front rest

/-! ## Cuts -/

/-- The search backwards ends at a boundary, and passes none. -/
theorem lastBoundary?_eq (bs : List UInt8) (limit : Nat) : ∃ steps ≤ limit,
    lastBoundary? bs limit = some (limit - steps) ∧ isBoundary bs (limit - steps) = true ∧
      ∀ k < steps, isBoundary bs (limit - k) = false := by
  induction limit with
  | zero => exact ⟨0, Nat.le_refl 0, by simp [lastBoundary?, isBoundary_zero]⟩
  | succ limit ih =>
    by_cases here : isBoundary bs (limit + 1) = true
    · exact ⟨0, Nat.zero_le _, by simp [lastBoundary?, here]⟩
    · obtain ⟨steps, within, found, boundary, passed⟩ := ih
      have shift : limit + 1 - (steps + 1) = limit - steps := Nat.add_sub_add_right ..
      refine ⟨steps + 1, Nat.succ_le_succ within, ?_, ?_, ?_⟩
      · rw [lastBoundary?, if_neg here, found, shift]
      · rwa [shift]
      · intro k before
        cases k with
        | zero => simpa using here
        | succ k =>
          rw [Nat.add_sub_add_right]
          exact passed k (Nat.lt_of_succ_lt_succ before)

/-- Of two texts at the front of one text, the one that takes no more bytes is at the front of the
other. -/
theorem prefix_of_size_le {cs front other : List Char} (isFront : front <+: cs)
    (otherIsFront : other <+: cs) (short : size other ≤ size front) : other <+: front := by
  rcases List.prefix_or_prefix_of_prefix otherIsFront isFront with within | ⟨rest, rfl⟩
  · exact within
  · cases rest with
    | nil => simp
    | cons c rest =>
      have positive := c.utf8Size_pos
      simp at short
      omega

/-- Within a text, no more than three steps lead back to a boundary. -/
theorem exists_boundary {cs : List Char} {limit : Nat} (within : limit ≤ size cs) :
    ∃ steps ≤ 3, steps ≤ limit ∧ isBoundary (bytes cs) (limit - steps) = true := by
  induction cs generalizing limit with
  | nil => exact ⟨0, by simp, Nat.zero_le _, by simp_all [isBoundary]⟩
  | cons c cs ih =>
    have narrow := c.utf8Size_le_four
    rcases Nat.lt_or_ge limit c.utf8Size with amid | behind
    · refine ⟨limit, by omega, Nat.le_refl _, ?_⟩
      rw [Nat.sub_self, isBoundary_zero]
    · have rest : limit - c.utf8Size ≤ size cs := by
        simp at within
        omega
      obtain ⟨steps, few, enough, boundary⟩ := ih rest
      obtain ⟨front, isFront, width⟩ := isBoundary_iff.mp boundary
      refine ⟨steps, few, by omega, isBoundary_iff.mpr ⟨c :: front, ?_, ?_⟩⟩
      · exact List.cons_prefix_cons.mpr ⟨rfl, isFront⟩
      · simp
        omega

/-- **A text is cut behind the longest text at its front that is within the limit.** The place is
found in `steps` steps. -/
theorem exists_cut {limit : Nat} {s : String} (within : limit ≤ size s.toList) :
    ∃ (front : String) (steps : Nat), cut? limit s = some front ∧
      front.toList <+: s.toList ∧ size front.toList = limit - steps ∧
      (∀ other, other <+: s.toList → size other ≤ limit → other <+: front.toList) ∧
      steps ≤ 3 ∧ steps ≤ limit ∧ lastBoundary? (encode s) limit = some (limit - steps) ∧
      ∀ k < steps, isBoundary (encode s) (limit - k) = false := by
  obtain ⟨steps, enough, found, boundary, passed⟩ := lastBoundary?_eq (encode s) limit
  obtain ⟨front, isFront, width⟩ := isBoundary_iff.mp boundary
  obtain ⟨far, few, -, earlier⟩ := exists_boundary within
  have fewer : steps ≤ far := by
    refine Nat.le_of_not_lt fun passes => ?_
    have noBoundary : isBoundary (bytes s.toList) (limit - far) = false := passed far passes
    rw [earlier] at noBoundary
    cases noBoundary
  refine ⟨String.ofList front, steps, ?_, ?_, ?_, ?_, by omega, enough, found, passed⟩
  · simp [cut?, found, slice?_eq_some_iff.mpr ⟨isFront, width⟩]
  · simpa using isFront
  · simpa using width
  · intro other otherIsFront short
    rw [String.toList_ofList]
    refine prefix_of_size_le isFront otherIsFront ?_
    -- A longer one would end at a boundary that the search passed.
    refine Nat.le_of_not_lt fun longer => ?_
    have noBoundary : isBoundary (bytes s.toList) (limit - (limit - size other)) = false :=
      passed (limit - size other) (by omega)
    have ends : isBoundary (bytes s.toList) (size other) = true :=
      isBoundary_iff.mpr ⟨other, otherIsFront, rfl⟩
    rw [Nat.sub_sub_self short, ends] at noBoundary
    cases noBoundary

end Worktop.Text.Utf8
