import Worktop.Path

/-! # What paths say

One path can be written in many ways: `a/b`, `a//b` and `a/./b/` are the same. What a path says, piece
by piece, are its components (`Worktop.Path.components`). A name that is joined to a path is one more
of them (`Worktop.Path.components_join`), and the path above and the name are what stands before the
last of them and this last one (`Worktop.Path.parent?_of_components`,
`Worktop.Path.name?_of_components`).
-/

namespace Worktop.Path

/-! ## Segments -/

theorem splitSlashes_ne_nil (cs : List Char) : splitSlashes cs ≠ [] := by
  cases cs with
  | nil => simp [splitSlashes]
  | cons c cs =>
    unfold splitSlashes
    split
    · simp
    · split <;> simp

theorem splitSlashes_append_slash (front back : List Char) :
    splitSlashes (front ++ '/' :: back) = splitSlashes front ++ splitSlashes back := by
  induction front with
  | nil => simp [splitSlashes]
  | cons c cs ih =>
    simp only [List.cons_append, splitSlashes, ih]
    split
    · rfl
    · cases pieces : splitSlashes cs with
      | nil => exact absurd pieces (splitSlashes_ne_nil cs)
      | cons s rest => rfl

theorem splitSlashes_of_no_slash {cs : List Char} (whole : '/' ∉ cs) : splitSlashes cs = [cs] := by
  induction cs with
  | nil => rfl
  | cons c cs ih =>
    obtain ⟨ne, whole⟩ := List.ne_and_not_mem_of_not_mem_cons whole
    simp [splitSlashes, ih whole, Ne.symm ne]

theorem no_slash_of_mem_splitSlashes {cs piece : List Char} (member : piece ∈ splitSlashes cs) :
    '/' ∉ piece := by
  induction cs generalizing piece with
  | nil =>
    cases List.mem_singleton.mp member
    exact List.not_mem_nil
  | cons c cs ih =>
    unfold splitSlashes at member
    split at member
    · rcases List.mem_cons.mp member with rfl | later
      · exact List.not_mem_nil
      · exact ih later
    · rename_i other
      split at member
      · rename_i none
        exact absurd none (splitSlashes_ne_nil cs)
      · rename_i s rest pieces
        rcases List.mem_cons.mp member with rfl | later
        · have first : '/' ∉ s := ih (by rw [pieces]; exact List.mem_cons_self)
          simp [first, Ne.symm other]
        · exact ih (by rw [pieces]; exact List.mem_cons_of_mem s later)

theorem segments_of_no_slash {p : String} (whole : '/' ∉ p.toList) : segments p = [p] := by
  simp [segments, splitSlashes_of_no_slash whole]

theorem segments_append_slash (front back : String) :
    segments (front ++ "/" ++ back) = segments front ++ segments back := by
  have text : (front ++ "/" ++ back).toList = front.toList ++ '/' :: back.toList := by simp
  unfold segments
  rw [text, splitSlashes_append_slash, List.map_append]

theorem segments_ne_nil (p : String) : segments p ≠ [] := by
  simp [segments, splitSlashes_ne_nil]

theorem segments_joinWith {pieces : List String} (some : pieces ≠ [])
    (whole : ∀ piece ∈ pieces, '/' ∉ piece.toList) :
    segments (Text.joinWith "/" pieces) = pieces := by
  induction pieces with
  | nil => exact absurd rfl some
  | cons piece pieces ih =>
    obtain ⟨first, others⟩ := List.forall_mem_cons.mp whole
    cases pieces with
    | nil => exact segments_of_no_slash first
    | cons next rest =>
      rw [Text.joinWith, segments_append_slash, ih (List.cons_ne_nil next rest) others,
        segments_of_no_slash first]
      rfl

/-- A path is absolute if it has something before its first slash, and this is nothing. -/
theorem isAbsolute_iff {p : String} :
    isAbsolute p = true ↔ (segments p).head? = some "" ∧ segments p ≠ [""] := by
  unfold isAbsolute segments
  cases p.toList with
  | nil => simp [splitSlashes]
  | cons c cs =>
    by_cases slash : c = '/'
    · simp [splitSlashes, slash, splitSlashes_ne_nil]
    · unfold splitSlashes
      rw [if_neg slash]
      split <;> simp [slash, ← String.toList_inj]

theorem isAbsolute_append {front : String} (filled : front ≠ "") (back : String) :
    isAbsolute (front ++ back) = isAbsolute front := by
  unfold isAbsolute
  rw [String.toList_append]
  cases chars : front.toList with
  | nil => exact absurd (String.toList_eq_nil_iff.mp chars) filled
  | cons c cs => rfl

/-- What stands between slashes in a path that is absolute or not. -/
structure Segmented (absolute : Bool) (pieces : List String) : Prop where
  whole : ∀ piece ∈ pieces, '/' ∉ piece.toList
  rooted : absolute = true → pieces.head? = some ""
  relative : absolute = false → pieces.head? = some "" → pieces = [""]

theorem segmented_segments (p : String) : Segmented (isAbsolute p) (segments p) where
  whole := by
    intro piece member
    obtain ⟨chars, split, rfl⟩ := List.mem_map.mp member
    rw [String.toList_ofList]
    exact no_slash_of_mem_splitSlashes split
  rooted := fun absolute => (isAbsolute_iff.mp absolute).1
  relative := by
    intro relative blank
    by_cases alone : segments p = [""]
    · exact alone
    · rw [isAbsolute_iff.mpr ⟨blank, alone⟩] at relative
      cases relative

theorem Segmented.of_prefix {absolute : Bool} {pieces front : List String}
    (segmented : Segmented absolute pieces) (before : front <+: pieces) (some : front ≠ []) :
    Segmented absolute front := by
  obtain ⟨back, rfl⟩ := before
  obtain ⟨first, front, rfl⟩ := List.exists_cons_of_ne_nil some
  refine ⟨fun piece member => segmented.whole piece (List.mem_append_left back member),
    segmented.rooted, fun relative blank => ?_⟩
  have alone := segmented.relative relative blank
  rw [List.cons_append, List.cons_eq_cons, List.append_eq_nil_iff] at alone
  rw [alone.1, alone.2.1]

/-! ## Components -/

/-- What a piece of a path says. -/
inductive Component where
  | root
  | here
  | up
  | name (text : String)
  deriving DecidableEq, Repr

/-- What a segment says wherever it stands. -/
def component? (segment : String) : Option Component :=
  if segment = "" ∨ segment = "." then none
  else if segment = ".." then some .up
  else some (.name segment)

/-- What a path says by the way it begins. -/
def lead (absolute : Bool) (pieces : List String) : List Component :=
  if absolute then [.root] else if pieces.head? = some "." then [.here] else []

/-- What the segments of a path say that is absolute or not. -/
def componentsFrom (absolute : Bool) (pieces : List String) : List Component :=
  lead absolute pieces ++ pieces.filterMap component?

/-- What a path says, piece by piece. Paths that say the same are the same path. -/
def components (p : String) : List Component :=
  componentsFrom (isAbsolute p) (segments p)

variable {absolute : Bool} {pieces : List String}

theorem componentsFrom_append (some : pieces ≠ []) (segment : String) :
    componentsFrom absolute (pieces ++ [segment]) =
      componentsFrom absolute pieces ++ (component? segment).toList := by
  obtain ⟨first, pieces, rfl⟩ := List.exists_cons_of_ne_nil some
  have same : lead absolute (first :: pieces ++ [segment]) = lead absolute (first :: pieces) := rfl
  have last : [segment].filterMap component? = (component? segment).toList := by
    cases said : component? segment <;> simp [said]
  rw [componentsFrom, componentsFrom, same, List.filterMap_append, List.append_assoc, last]

theorem component?_of_blank {segment : String} (blank : segment = "" ∨ segment = ".") :
    component? segment = none :=
  if_pos blank

/-! ## Above a path -/

/-- Nothing is lost with the segments that are left out at the end. -/
theorem componentsFrom_trimTail (behind : List String) :
    componentsFrom absolute (trimTail behind).reverse = componentsFrom absolute behind.reverse := by
  fun_induction trimTail behind with
  | case1 => rfl
  | case2 => cases absolute <;> rfl
  | case3 => rfl
  | case4 s t rest blank ih =>
    rw [List.reverse_cons, componentsFrom_append (by simp), component?_of_blank blank, ih]
    exact (List.append_nil _).symm
  | case5 => rfl

theorem trimTail_suffix (behind : List String) : trimTail behind <:+ behind := by
  fun_induction trimTail behind with
  | case1 => exact List.suffix_refl _
  | case2 => exact List.nil_suffix
  | case3 => exact List.suffix_refl _
  | case4 s t rest blank ih => exact ih.trans (List.suffix_cons s _)
  | case5 => exact List.suffix_refl _

/-- The last segment that is left says something, unless it is a `.` that stands alone. -/
theorem trimTail_eq_cons {behind rest : List String} {s : String}
    (trimmed : trimTail behind = s :: rest) : s ≠ "" ∧ (s = "." → rest = []) := by
  fun_induction trimTail behind with
  | case1 => cases trimmed
  | case2 => cases trimmed
  | case3 s filled =>
    cases trimmed
    exact ⟨filled, fun _ => rfl⟩
  | case4 s t rest blank ih => exact ih trimmed
  | case5 s t rest speaks =>
    cases trimmed
    exact ⟨fun blank => speaks (.inl blank), fun blank => absurd (.inr blank) speaks⟩

/-- The text of segments says what they say. -/
theorem components_render {kept : List String} (segmented : kept ≠ [] → Segmented absolute kept.reverse)
    (more : kept ≠ [""]) : components (render absolute kept) = componentsFrom absolute kept.reverse := by
  cases kept with
  | nil => cases absolute <;> rfl
  | cons s rest =>
    have some : (s :: rest).reverse ≠ [] := by simp
    obtain ⟨whole, rooted, relative⟩ := segmented (List.cons_ne_nil s rest)
    have read := segments_joinWith some whole
    have alike : isAbsolute (Text.joinWith "/" (s :: rest).reverse) = absolute := by
      have alone : (s :: rest).reverse ≠ [""] := fun alone => more (List.reverse_eq_iff.mp alone)
      rw [Bool.eq_iff_iff, isAbsolute_iff, read]
      cases absolute with
      | true => exact iff_of_true ⟨rooted rfl, alone⟩ rfl
      | false => exact iff_of_false (fun both => alone (relative rfl both.1)) nofun
    change components (Text.joinWith "/" (s :: rest).reverse) = _
    rw [components, alike, read]

/-- What is said last is known from what is said. -/
theorem last_of_concat {said said' : List Component} {last last' : Component}
    (same : said ++ [last] = said' ++ [last']) : said = said' ∧ last = last' := by
  obtain ⟨front, back⟩ := List.append_inj' same rfl
  exact ⟨front, List.singleton_inj.mp back⟩

theorem component?_of_speaks {segment : String} (speaks : ¬ (segment = "" ∨ segment = ".")) :
    component? segment = some (if segment = ".." then .up else .name segment) := by
  unfold component?
  rw [if_neg speaks]
  split <;> rfl

theorem componentsFrom_single {segment : String} (filled : segment ≠ "") :
    ∃ said, componentsFrom false [segment] = [said] := by
  by_cases here : segment = "."
  · exact ⟨.here, by rw [here]; rfl⟩
  · have speaks := component?_of_speaks (not_or_intro filled here)
    exact ⟨if segment = ".." then .up else .name segment,
      by simp [componentsFrom, lead, here, speaks]⟩

/-- What the path above says lacks the last thing that a path says. -/
theorem parentsFrom_of_components {behind : List String} {said : List Component} {last : Component}
    (segmented : Segmented absolute behind.reverse)
    (reads : componentsFrom absolute behind.reverse = said ++ [last]) (below : last ≠ .root) :
    ∃ above, (parentsFrom absolute behind).head? = some above ∧ components above = said := by
  fun_induction parentsFrom absolute behind with
  | case1 =>
    cases absolute with
    | true => cases segmented.rooted rfl
    | false => simp [componentsFrom, lead] at reads
  | case2 =>
    cases absolute with
    | true =>
      have root : [] ++ [Component.root] = said ++ [last] := reads
      exact absurd (last_of_concat root).2.symm below
    | false => simp [componentsFrom, lead, component?] at reads
  | case3 s filled =>
    cases absolute with
    | true =>
      cases segmented.rooted rfl
      exact absurd rfl filled
    | false =>
      obtain ⟨alone, single⟩ := componentsFrom_single filled
      rw [List.reverse_singleton, single] at reads
      have whole : [] ++ [alone] = said ++ [last] := reads
      exact ⟨_, rfl, (last_of_concat whole).1⟩
  | case4 s t rest blank ih =>
    have some : (t :: rest).reverse ≠ [] := by simp
    rw [List.reverse_cons] at segmented reads
    apply ih (segmented.of_prefix (List.prefix_append _ _) some)
    rw [componentsFrom_append some, component?_of_blank blank] at reads
    simpa using reads
  | case5 s t rest speaks =>
    have some : (t :: rest).reverse ≠ [] := by simp
    rw [List.reverse_cons] at segmented reads
    rw [componentsFrom_append some, component?_of_speaks speaks] at reads
    refine ⟨_, rfl, ?_⟩
    rw [components_render, componentsFrom_trimTail]
    · exact (last_of_concat reads).1
    · intro kept
      have before := (List.reverse_prefix.mpr (trimTail_suffix (t :: rest))).trans
        (List.prefix_append _ [s])
      exact segmented.of_prefix before (by simpa using kept)
    · intro blank
      exact (trimTail_eq_cons blank).1 rfl

/-- A path that says something last, which is not that it begins at the root, has a path above it,
which says all the rest. -/
theorem parent?_of_components {p : String} {said : List Component} {last : Component}
    (reads : components p = said ++ [last]) (below : last ≠ .root) :
    ∃ above, parent? p = some above ∧ components above = said := by
  have segmented := segmented_segments p
  rw [components] at reads
  rw [← List.reverse_reverse (segments p)] at segmented reads
  exact parentsFrom_of_components segmented reads below

theorem lead_ends_in_no_name {said : List Component} {name : String} :
    lead absolute pieces ≠ said ++ [.name name] := by
  have other (component : Component) (others : component ≠ .name name) :
      [component] ≠ said ++ [.name name] := by
    intro same
    have whole : [] ++ [component] = said ++ [.name name] := same
    exact others (last_of_concat whole).2
  unfold lead
  split
  · exact other .root nofun
  split
  · exact other .here nofun
  · simp

/-- The name of a path is what it says last, if this is a name. -/
theorem name?_of_components {p name : String} {said : List Component}
    (reads : components p = said ++ [.name name]) : name? p = some name := by
  rw [components, ← List.reverse_reverse (segments p), ← componentsFrom_trimTail] at reads
  unfold name?
  cases trimmed : trimTail (segments p).reverse with
  | nil =>
    rw [trimmed, componentsFrom, List.reverse_nil, List.filterMap_nil, List.append_nil] at reads
    exact absurd reads lead_ends_in_no_name
  | cons s rest =>
    obtain ⟨filled, alone⟩ := trimTail_eq_cons trimmed
    rw [trimmed, List.reverse_cons, componentsFrom, List.filterMap_append] at reads
    by_cases here : s = "."
    · rw [alone here, here] at reads
      exact absurd ((List.append_nil _).symm.trans reads) lead_ends_in_no_name
    · have speaks := component?_of_speaks (not_or_intro filled here)
      rw [List.filterMap_cons_some speaks, ← List.append_assoc] at reads
      have last := (last_of_concat reads).2
      by_cases up : s = ".."
      · rw [if_pos up] at last
        cases last
      · rw [if_neg up] at last
        cases last
        simp [here, up]

/-! ## Names -/

/-- A text that is a name where it stands in a path. -/
structure IsName (text : String) : Prop where
  whole : '/' ∉ text.toList
  filled : text ≠ ""
  notHere : text ≠ "."
  notUp : text ≠ ".."

theorem IsName.component? {text : String} (named : IsName text) :
    component? text = some (.name text) := by
  rw [component?_of_speaks (not_or_intro named.filled named.notHere), if_neg named.notUp]

theorem IsName.relative {text : String} (named : IsName text) : isAbsolute text = false := by
  rw [Bool.eq_false_iff, ne_eq, isAbsolute_iff, segments_of_no_slash named.whole]
  exact fun both => named.filled (Option.some.inj both.1)

/-- A name that is joined to a path stands behind its segments, except for an empty one at their
end. -/
theorem segments_join {base child : String} (filled : base ≠ "") (named : IsName child) :
    isAbsolute (join base child) = isAbsolute base ∧ ∃ front back, front ≠ [] ∧
      segments base = front ++ back ∧ (back = [] ∨ back = [""]) ∧
        segments (join base child) = front ++ [child] := by
  have alone := segments_of_no_slash named.whole
  have some : base.isEmpty = false := by simpa using filled
  unfold join
  rw [named.relative, some]
  simp only [Bool.or_self, Bool.false_eq_true, ↓reduceIte]
  split
  · rename_i slash
    obtain ⟨front, text⟩ := List.getLast?_eq_some_iff.mp slash
    obtain rfl : base = String.ofList front ++ "/" := by
      rw [← String.toList_inj, text]
      simp
    refine ⟨isAbsolute_append filled child, segments (String.ofList front), [""],
      segments_ne_nil _, ?_, .inr rfl, ?_⟩
    · have ended := segments_append_slash (String.ofList front) ""
      rwa [String.append_empty] at ended
    · rw [segments_append_slash, alone]
  · refine ⟨?_, segments base, [], segments_ne_nil base, (List.append_nil _).symm, .inl rfl, ?_⟩
    · rw [String.append_assoc, isAbsolute_append filled]
    · rw [segments_append_slash, alone]

/-- A name that is joined to a path is one more thing that is said. -/
theorem components_join (base : String) {child : String} (named : IsName child) :
    components (join base child) = components base ++ [.name child] := by
  by_cases blank : base = ""
  · have alone : join base child = child := by simp [join, blank]
    rw [alone, blank, components, named.relative, segments_of_no_slash named.whole]
    simp [componentsFrom, lead, named.notHere, named.component?]
    rfl
  · obtain ⟨alike, front, back, some, before, ended, after⟩ := segments_join blank named
    rw [components, components, alike, after, before, componentsFrom_append some,
      named.component?]
    obtain rfl | rfl := ended
    · rw [List.append_nil]
      rfl
    · rw [componentsFrom_append some, component?_of_blank (.inl rfl)]
      simp

end Worktop.Path
