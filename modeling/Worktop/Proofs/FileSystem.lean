import Worktop.Lock

/-! # Places and paths

Which places a path goes through depends on the text of the path and on where it starts, not on what
stands there (`Worktop.FileSystem.locate_ok_iff`). Something is removed by removing a place with all
below it, which leaves every path alone that does not come by there
(`Worktop.FileSystem.pathExists_without_iff`). In a rooted file system nothing stands below a place
that is empty, and all that makes directories and files keeps it rooted.
-/

namespace Worktop.FileSystem

variable {fs fs' : FileSystem} {place other found : List String}

/-! ## Nodes -/

@[simp] theorem node?_root (fs : FileSystem) : fs.node? [] = some .directory := rfl

theorem node?_of_ne (ne : place ≠ []) :
    fs.node? place = (fs.nodes.find? (·.1 = place)).map (·.2) := by
  simp [node?, ne]

theorem node?_put_self (ne : place ≠ []) (node : Node) :
    (fs.put place node).node? place = some node := by
  have absent : (fs.nodes.filter (·.1 ≠ place)).find? (·.1 = place) = none := by
    simp [List.find?_eq_none]
  rw [node?_of_ne ne, put]
  dsimp only
  rw [List.find?_append, absent]
  simp

theorem node?_put_of_ne (ne : other ≠ place) (node : Node) :
    (fs.put place node).node? other = fs.node? other := by
  by_cases root : other = []
  · simp [root]
  · have kept : (fs.nodes.filter (·.1 ≠ place)).find? (·.1 = other) =
        fs.nodes.find? (·.1 = other) := by
      rw [List.find?_filter]
      congr 1
      funext entry
      by_cases same : entry.1 = other
      · simp [same, ne]
      · simp [same]
    have new : ¬ place = other := fun same => ne same.symm
    rw [node?_of_ne root, node?_of_ne root]
    simp only [put, List.find?_append, kept, List.find?_cons, new, decide_false,
      List.find?_nil, Option.or_none]

@[simp] theorem here_put (place : List String) (node : Node) : (fs.put place node).here = fs.here :=
  rfl

/-- A file system without a place and all below it. -/
def without (fs : FileSystem) (place : List String) : FileSystem :=
  { fs with nodes := fs.nodes.filter fun entry => !place.isPrefixOf entry.1 }

@[simp] theorem here_without (place : List String) : (fs.without place).here = fs.here := rfl

theorem node?_without_below (ne : place ≠ []) (below : place <+: other) :
    (fs.without place).node? other = none := by
  have root : other ≠ [] := fun empty => ne (List.prefix_nil.mp (empty ▸ below))
  rw [node?_of_ne root, Option.map_eq_none_iff, without, List.find?_eq_none]
  intro entry member same
  have kept := (List.mem_filter.mp member).2
  rw [of_decide_eq_true same, List.isPrefixOf_iff_prefix.mpr below] at kept
  exact absurd kept (by decide)

theorem node?_without_of_not_below (apart : ¬ place <+: other) :
    (fs.without place).node? other = fs.node? other := by
  by_cases root : other = []
  · simp [root]
  · rw [node?_of_ne root, node?_of_ne root, without]
    dsimp only
    rw [List.find?_filter]
    congr 2
    funext entry
    by_cases same : entry.1 = other
    · have kept : place.isPrefixOf other = false :=
        Bool.eq_false_iff.mpr fun below => apart (List.isPrefixOf_iff_prefix.mp below)
      simp [same, kept]
    · simp [same]

/-! ## The way of a path -/

/-- Where a segment leads from a place. -/
def next (place : List String) (segment : String) : List String :=
  if segment = "" ∨ segment = "." then place
  else if segment = ".." then place.dropLast
  else place ++ [segment]

/-- Where segments lead from a place. -/
def descend (place : List String) : List String → List String
  | [] => place
  | segment :: rest => descend (next place segment) rest

/-- The places that segments are looked up in. -/
def visited (place : List String) : List String → List (List String)
  | [] => []
  | segment :: rest => place :: visited (next place segment) rest

/-- A segment that is not too long for a name, or no name. -/
def Short (segment : String) : Prop :=
  next [] segment = [] ∨ segment.utf8ByteSize ≤ nameLimit

theorem walk_cons_ok_iff {segment : String} {rest : List String} :
    fs.walk place (segment :: rest) = .ok found ↔
      fs.node? place = some .directory ∧ Short segment ∧
        fs.walk (next place segment) rest = .ok found := by
  rw [walk]
  unfold Short next
  cases fs.node? place with
  | none => simp
  | some node =>
    cases node with
    | file id bytes => simp
    | directory =>
      dsimp only
      split
      · simp
      · split
        · simp
        · by_cases long : nameLimit < segment.utf8ByteSize
          · simp [long, Nat.not_le.mpr long]
          · simp [long, Nat.not_lt.mp long]

/-- Segments are followed exactly if all that they are looked up in are directories. -/
theorem walk_ok_iff {segments : List String} :
    fs.walk place segments = .ok found ↔
      found = descend place segments ∧ (∀ segment ∈ segments, Short segment) ∧
        ∀ p ∈ visited place segments, fs.node? p = some .directory := by
  induction segments generalizing place with
  | nil => simp [walk, descend, visited, eq_comm]
  | cons segment rest ih =>
    rw [walk_cons_ok_iff, ih]
    simp only [descend, visited, List.forall_mem_cons]
    constructor
    · intro ⟨directory, short, leads, shorts, directories⟩
      exact ⟨leads, ⟨short, shorts⟩, directory, directories⟩
    · intro ⟨leads, ⟨short, shorts⟩, directory, directories⟩
      exact ⟨directory, short, leads, shorts, directories⟩

/-- Where a path starts. -/
def start (here : List String) (path : String) : List String :=
  if Path.isAbsolute path then [] else here

/-- The place that a path means, if it means one. -/
def meant (here : List String) (path : String) : List String :=
  descend (start here path) (Path.segments path)

/-- The places that a path goes through. -/
def way (here : List String) (path : String) : List (List String) :=
  visited (start here path) (Path.segments path)

/-- A path that can be asked for. -/
structure Askable (path : String) : Prop where
  filled : path.isEmpty = false
  noNul : path.toList.contains '\x00' = false
  short : path.utf8ByteSize < pathLimit
  shorts : ∀ segment ∈ Path.segments path, Short segment

theorem locate_ok_iff {path : String} :
    fs.locate path = .ok place ↔
      place = meant fs.here path ∧ Askable path ∧
        ∀ p ∈ way fs.here path, fs.node? p = some .directory := by
  unfold locate locateSegments
  cases filled : path.isEmpty with
  | true =>
    have blank : ¬ Askable path := fun askable => by rw [askable.filled] at filled; cases filled
    simp [blank]
  | false =>
    cases noNul : path.toList.contains '\x00' with
    | true =>
      have nul : ¬ Askable path := fun askable => by rw [askable.noNul] at noNul; cases noNul
      simp [nul]
    | false =>
      by_cases long : pathLimit ≤ path.utf8ByteSize
      · have lengthy : ¬ Askable path := fun askable => Nat.not_lt.mpr long askable.short
        simp [long, lengthy]
      · simp only [Bool.false_eq_true, long, ↓reduceIte]
        rw [walk_ok_iff]
        constructor
        · intro ⟨leads, shorts, directories⟩
          exact ⟨leads, ⟨filled, noNul, Nat.not_le.mp long, shorts⟩, directories⟩
        · intro ⟨leads, askable, directories⟩
          exact ⟨leads, askable.shorts, directories⟩

theorem find_ok_iff {path : String} {node : Node} :
    fs.find path = .ok (place, node) ↔ fs.locate path = .ok place ∧ fs.node? place = some node := by
  unfold find
  cases located : fs.locate path with
  | error e => simp [bind, Except.bind]
  | ok p =>
    cases stands : fs.node? p with
    | none =>
      simp only [bind, Except.bind, stands, reduceCtorEq, Except.ok.injEq, false_iff, not_and]
      intro same
      simp [← same, stands]
    | some n =>
      simp only [bind, Except.bind, stands, Except.ok.injEq, Prod.mk.injEq]
      constructor
      · intro ⟨same, node⟩
        exact ⟨same, by rw [← same, stands, node]⟩
      · intro ⟨same, node⟩
        refine ⟨same, ?_⟩
        rw [← same, stands] at node
        exact Option.some.inj node

theorem pathExists_iff_find {path : String} :
    fs.pathExists path = true ↔ ∃ place node, fs.find path = .ok (place, node) := by
  unfold pathExists
  cases found : fs.find path with
  | error e => simp [Except.isOk, Except.toBool]
  | ok entry => simpa [Except.isOk, Except.toBool] using ⟨entry.1, entry.2, rfl⟩

/-- Something stands at a path exactly if the way there goes through directories. -/
theorem pathExists_iff {path : String} :
    fs.pathExists path = true ↔
      Askable path ∧ (∀ p ∈ way fs.here path, fs.node? p = some .directory) ∧
        (fs.node? (meant fs.here path)).isSome = true := by
  rw [pathExists_iff_find]
  constructor
  · intro ⟨place, node, found⟩
    obtain ⟨located, stands⟩ := find_ok_iff.mp found
    obtain ⟨rfl, askable, directories⟩ := locate_ok_iff.mp located
    exact ⟨askable, directories, by rw [stands]; rfl⟩
  · intro ⟨askable, directories, stands⟩
    obtain ⟨node, stands⟩ := Option.isSome_iff_exists.mp stands
    exact ⟨_, node, find_ok_iff.mpr ⟨locate_ok_iff.mpr ⟨rfl, askable, directories⟩, stands⟩⟩

theorem pathExists_congr (here : fs.here = fs'.here) (same : ∀ p, fs.node? p = fs'.node? p)
    (path : String) : fs.pathExists path = fs'.pathExists path := by
  rw [Bool.eq_iff_iff, pathExists_iff, pathExists_iff, here]
  simp only [same]

/-! ## Removing -/

/-- What stands at a path can be removed. -/
theorem remove_of_pathExists {path : String} (stands : fs.pathExists path = true) :
    fs.remove path = .ok (fs.without (meant fs.here path)) := by
  obtain ⟨place, node, found⟩ := pathExists_iff_find.mp stands
  obtain ⟨rfl, -, -⟩ := locate_ok_iff.mp (find_ok_iff.mp found).1
  rw [remove, found]
  rfl

/-- Where nothing stands nothing can be removed. -/
theorem toOption_remove_of_missing {path : String} (missing : ¬ fs.pathExists path = true) :
    (fs.remove path).toOption = none := by
  unfold remove
  cases found : fs.find path with
  | error e => rfl
  | ok entry => exact absurd (pathExists_iff_find.mpr ⟨entry.1, entry.2, found⟩) missing

theorem pathExists_without_iff (ne : place ≠ []) {path : String} :
    (fs.without place).pathExists path = true ↔
      fs.pathExists path = true ∧
        ∀ p ∈ meant fs.here path :: way fs.here path, ¬ place <+: p := by
  have gone : ∀ p, place <+: p → (fs.without place).node? p = none :=
    fun p below => node?_without_below ne below
  rw [pathExists_iff, pathExists_iff, here_without, List.forall_mem_cons]
  constructor
  · intro ⟨askable, directories, stands⟩
    have apart : ∀ p ∈ way fs.here path, ¬ place <+: p := by
      intro p member below
      simpa [gone p below] using directories p member
    have end_apart : ¬ place <+: meant fs.here path := by
      intro below
      simp [gone _ below] at stands
    refine ⟨⟨askable, fun p member => ?_, ?_⟩, end_apart, apart⟩
    · rw [← node?_without_of_not_below (apart p member)]
      exact directories p member
    · rwa [← node?_without_of_not_below end_apart]
  · intro ⟨⟨askable, directories, stands⟩, end_apart, apart⟩
    refine ⟨askable, fun p member => ?_, ?_⟩
    · rw [node?_without_of_not_below (apart p member)]
      exact directories p member
    · rwa [node?_without_of_not_below end_apart]

/-! ## Rooted file systems -/

/-- Whatever stands somewhere stands in a directory. -/
def Rooted (fs : FileSystem) : Prop :=
  ∀ place, (fs.node? place).isSome = true → fs.node? place.dropLast = some .directory

theorem rooted_empty : ({} : FileSystem).Rooted := by
  intro place stands
  by_cases root : place = []
  · rw [root]
    rfl
  · rw [node?_of_ne root] at stands
    cases stands

/-- Nothing stands below a place where nothing stands. -/
theorem Rooted.none_below (rooted : fs.Rooted) (empty : fs.node? place = none)
    (below : place <+: other) : fs.node? other = none := by
  obtain ⟨rest, rfl⟩ := below
  induction rest generalizing place with
  | nil => simpa using empty
  | cons name rest ih =>
    have further : fs.node? (place ++ [name]) = none := by
      cases stands : fs.node? (place ++ [name]) with
      | none => rfl
      | some node =>
        have above := rooted _ (by rw [stands]; rfl)
        rw [List.dropLast_concat, empty] at above
        cases above
    simpa using ih further

theorem Rooted.put (rooted : fs.Rooted) (empty : fs.node? place = none)
    (above : fs.node? place.dropLast = some .directory) (node : Node) :
    (fs.put place node).Rooted := by
  have kept : ∀ p, fs.node? p = some .directory →
      (fs.put place node).node? p = some .directory := by
    intro p stands
    have apart : p ≠ place := by
      intro same
      rw [same, empty] at stands
      cases stands
    rw [node?_put_of_ne apart, stands]
  intro other stands
  by_cases same : other = place
  · rw [same]
    exact kept _ above
  · rw [node?_put_of_ne same] at stands
    exact kept _ (rooted other stands)

/-- What is found in a rooted file system by following segments has a directory above it. -/
theorem Rooted.above_walk (rooted : fs.Rooted) {segments : List String}
    (walked : fs.walk place segments = .ok found)
    (above : fs.node? place.dropLast = some .directory) :
    fs.node? found.dropLast = some .directory := by
  induction segments generalizing place with
  | nil =>
    cases walked
    exact above
  | cons segment rest ih =>
    obtain ⟨directory, -, walked⟩ := walk_cons_ok_iff.mp walked
    apply ih walked
    by_cases stays : segment = "" ∨ segment = "."
    · simpa only [next, stays, ↓reduceIte] using above
    · by_cases up : segment = ".."
      · have stands : (fs.node? place.dropLast).isSome = true := by simp [above]
        simp only [next, stays, ↓reduceIte]
        simpa only [up, ↓reduceIte] using rooted _ stands
      · simpa only [next, stays, up, ↓reduceIte, List.dropLast_concat] using directory

/-- A path of slashes alone is absolute. -/
theorem isAbsolute_of_blank {path : String} (filled : ¬ path.isEmpty = true)
    (blank : ∀ segment ∈ Path.segments path, segment = "") : Path.isAbsolute path = true := by
  unfold Path.isAbsolute
  unfold Path.segments at blank
  cases text : path.toList with
  | nil => exact absurd (by simpa using text) filled
  | cons c cs =>
    rw [text, Path.splitSlashes] at blank
    by_cases slash : c = '/'
    · simp [slash]
    · simp only [slash, ↓reduceIte] at blank
      split at blank
      · exact absurd (blank _ List.mem_cons_self) (by simp)
      · exact absurd (blank _ List.mem_cons_self) (by simp)

theorem Rooted.above_located (rooted : fs.Rooted) {path : String} {segments : List String}
    (located : fs.locateSegments path segments = .ok found)
    (blank : segments = [] → ∀ segment ∈ Path.segments path, segment = "") :
    fs.node? found.dropLast = some .directory := by
  unfold locateSegments at located
  split at located
  · cases located
  rename_i filled
  split at located
  · cases located
  split at located
  · cases located
  apply rooted.above_walk located
  by_cases absolute : Path.isAbsolute path = true
  · simp [absolute]
  · cases segments with
    | nil => exact absurd (isAbsolute_of_blank filled (blank rfl)) absolute
    | cons segment rest =>
      have directory := (walk_cons_ok_iff.mp located).1
      simp only [absolute, Bool.false_eq_true, ↓reduceIte] at directory ⊢
      exact rooted _ (by simp [directory])

/-- What is put at an empty place that a path means stands at the path. -/
theorem pathExists_put {path : String} (located : fs.locate path = .ok place)
    (empty : fs.node? place = none) (node : Node) :
    (fs.put place node).pathExists path = true := by
  obtain ⟨rfl, askable, directories⟩ := locate_ok_iff.mp located
  have ne : meant fs.here path ≠ [] := by
    intro root
    rw [root] at empty
    cases empty
  refine pathExists_iff.mpr ⟨askable, fun p member => ?_, ?_⟩
  · have stands := directories p member
    have apart : p ≠ meant fs.here path := by
      intro same
      rw [same, empty] at stands
      cases stands
    rw [node?_put_of_ne apart, stands]
  · exact Option.isSome_iff_exists.mpr ⟨node, node?_put_self ne node⟩

/-- What was put at an empty place of a rooted file system can be taken away again. -/
theorem Rooted.node?_put_without (rooted : fs.Rooted) (empty : fs.node? place = none) (node : Node)
    (other : List String) : ((fs.put place node).without place).node? other = fs.node? other := by
  have ne : place ≠ [] := by
    intro root
    rw [root] at empty
    cases empty
  by_cases below : place <+: other
  · rw [node?_without_below ne below, rooted.none_below empty below]
  · have apart : other ≠ place := fun same => below (same ▸ List.prefix_refl _)
    rw [node?_without_of_not_below below, node?_put_of_ne apart]

/-! ## Making directories and files -/

theorem makeDirectory_ok {path : String} (made : fs.makeDirectory path = .ok fs') :
    ∃ place, fs.node? place = none ∧ fs' = fs.put place .directory ∧
      (fs.Rooted → fs.node? place.dropLast = some .directory) := by
  unfold makeDirectory at made
  dsimp only at made
  cases located : fs.locateSegments path
      ((Path.segments path).reverse.dropWhile (· = "")).reverse with
  | error e =>
    rw [located] at made
    cases made
  | ok place =>
    rw [located] at made
    cases stands : fs.node? place with
    | some node => simp [bind, Except.bind, stands] at made
    | none =>
      simp only [bind, Except.bind, stands, Except.ok.injEq] at made
      refine ⟨place, stands, made.symm, fun rooted => rooted.above_located located ?_⟩
      intro empty segment member
      have none_left := congrArg (List.any · fun s => !decide (s = ""))
        (List.reverse_eq_nil_iff.mp empty)
      rw [List.any_dropWhile] at none_left
      have blank : ∀ s ∈ Path.segments path, s = "" := by simpa using none_left
      exact blank segment member

/-- What the making of each directory keeps, the making of several keeps. -/
theorem makeAlong_keeps {kept : FileSystem → Prop}
    (step : ∀ fs path fs', kept fs → fs.makeDirectory path = .ok fs' → kept fs')
    (paths : List String) {fs : FileSystem} (before : kept fs) : kept (makeAlong paths fs).2 := by
  induction paths generalizing fs with
  | nil => exact before
  | cons path above ih =>
    unfold makeAlong
    split
    · exact before
    · split
      · rename_i made
        exact step _ _ _ before made
      · have along := ih before
        split
        · rename_i same
          rw [same] at along
          exact along
        · rename_i same
          rw [same] at along
          split
          · rename_i made
            exact step _ _ _ along made
          · exact along
      · exact before

theorem Rooted.makeDirectories (rooted : fs.Rooted) (path : String) :
    (fs.makeDirectories path).2.Rooted := by
  have step : ∀ before path after, Rooted before →
      before.makeDirectory path = .ok after → after.Rooted := by
    intro before path after rooted made
    obtain ⟨place, empty, rfl, above⟩ := makeDirectory_ok made
    exact rooted.put empty (above rooted) _
  exact makeAlong_keeps step _ rooted

theorem Rooted.openFile (rooted : fs.Rooted) {path : String} {id : Nat}
    (opened : fs.openFile path = .ok (id, fs')) : fs'.Rooted := by
  unfold FileSystem.openFile at opened
  cases located : fs.locateSegments path (Path.segments path) with
  | error e =>
    rw [located] at opened
    cases opened
  | ok place =>
    rw [located] at opened
    cases stands : fs.node? place with
    | some node =>
      cases node with
      | directory => simp [bind, Except.bind, stands] at opened
      | file id bytes =>
        simp only [bind, Except.bind, stands, Except.ok.injEq, Prod.mk.injEq] at opened
        exact opened.2 ▸ rooted
    | none =>
      simp only [bind, Except.bind, stands, Except.ok.injEq, Prod.mk.injEq] at opened
      rw [← opened.2]
      have above := rooted.above_located located fun empty segment member => by
        rw [empty] at member
        exact absurd member List.not_mem_nil
      exact rooted.put stands above _

end Worktop.FileSystem

namespace Worktop.Locks

/-- Taking a lock makes no more of a file system than a directory for locks and a file. -/
theorem acquire_rooted {fs : FileSystem} (locks : Locks) (rooted : fs.Rooted) (table : LockTable)
    (branch : String) : (locks.acquire fs table branch).2.2.Rooted := by
  have taken : ∀ locks : Locks, ∀ key, (locks.takeFile fs table branch key).2.2.Rooted := by
    intro locks key
    unfold takeFile
    split
    · exact rooted
    · rename_i directory _
      have along := rooted.makeDirectories directory
      split
      · rename_i made
        rwa [made] at along
      · rename_i made
        rw [made] at along
        dsimp only
        split
        · exact along
        · rename_i opened
          have opens := along.openFile opened
          split <;> exact opens
  unfold acquire
  dsimp only
  split
  · exact rooted
  · have file := taken { locks with held := (table.id, Branch.handle branch) :: locks.held }
      (Branch.handle branch)
    split
    · rename_i same
      rwa [same] at file
    · rename_i same
      rwa [same] at file

/-- A lock that is given up leaves the locks as they were before it was taken. -/
theorem release_acquire {locks locks' : Locks} {fs fs' : FileSystem} {table : LockTable}
    {branch : String} {guard : Guard}
    (taken : locks.acquire fs table branch = (.ok guard, locks', fs')) :
    locks'.release guard = locks := by
  unfold acquire takeFile at taken
  dsimp only at taken
  split at taken
  · cases taken
  · cases directory : table.directory with
    | none =>
      simp only [directory] at taken
      cases taken
      simp [release]
    | some directory' =>
      simp only [directory] at taken
      split at taken
      · rename_i filed
        cases taken
        split at filed
        · cases filed
        · split at filed
          · cases filed
          · split at filed
            · cases filed
            · cases filed
              simp [release]
      · cases taken

end Worktop.Locks
