import Mathlib.Data.List.Basic
import Mathlib.Data.List.Induction

namespace Kronkeeper

/-!
# Paths and file trees

A path is a byte string, its segments are what stands between separators.  A
file tree says what is found at a place, the list of names from the root to it.
Resolving a path follows its segments through a tree, through every link on the
way, and ends at a place whose name is the path without links.
-/

/-! ## Paths -/

abbrev Path := List UInt8

abbrev Name := List UInt8

namespace Path

def separator : UInt8 :=
  47

/-- `.` -/
def current : Name :=
  [46]

/-- `..` -/
def parent : Name :=
  [46, 46]

/-- The bytes of a text. -/
def ofString (text : String) : Path :=
  text.toUTF8.data.toList

def isAbsolute (path : Path) : Bool :=
  path.head? == some separator

def segments (path : Path) : List Name :=
  path.splitOn separator

/-- An absolute path replaces the base, any other is appended to it. -/
def join (base path : Path) : Path :=
  if path.isAbsolute then
    path
  else if base.getLast?.any (· != separator) then
    base ++ separator :: path
  else
    base ++ path

/-- The parts by which two paths are compared. -/
inductive Component where
  | rootDir
  | curDir
  | parentDir
  | normal (name : Name)
  deriving Repr, DecidableEq

/-- Empty segments and `.` stand for nothing. -/
def component? (segment : Name) : Option Component :=
  if segment = [] ∨ segment = current then
    none
  else if segment = parent then
    some .parentDir
  else
    some (.normal segment)

/-- A path begins with the root, or keeps the `.` it begins with. -/
def components (path : Path) : List Component :=
  let rest := path.segments.filterMap component?
  if path.isAbsolute then
    .rootDir :: rest
  else if path.segments.head? = some current then
    .curDir :: rest
  else
    rest

/-- Whole components are compared. -/
def startsWith (path base : Path) : Bool :=
  decide (base.components <+: path.components)

/-- The names that an entry of a directory can have. -/
structure IsName (name : Name) : Prop where
  nonempty : name ≠ []
  noSeparator : separator ∉ name
  noNul : 0 ∉ name
  notCurrent : name ≠ current
  notParent : name ≠ parent

instance (name : Name) : Decidable (IsName name) :=
  decidable_of_iff
    (name ≠ [] ∧ separator ∉ name ∧ 0 ∉ name ∧ name ≠ current ∧
      name ≠ parent)
    ⟨fun ⟨nonempty, noSeparator, noNul, notCurrent, notParent⟩ =>
        ⟨nonempty, noSeparator, noNul, notCurrent, notParent⟩,
      fun isName =>
        ⟨isName.nonempty, isName.noSeparator, isName.noNul,
          isName.notCurrent, isName.notParent⟩⟩

theorem IsName.component?_eq
    {name : Name}
    (isName : IsName name) :
    component? name = some (.normal name) := by
  simp [component?, isName.nonempty, isName.notCurrent, isName.notParent]

/-- A byte of a path is a separator or stands in a segment. -/
theorem mem_segments
    {path : Path}
    {byte : UInt8}
    (member : byte ∈ path)
    (notSeparator : byte ≠ separator) :
    ∃ segment ∈ path.segments, byte ∈ segment := by
  induction path with
  | nil =>
      cases member
  | cons first rest inductionHypothesis =>
      rw [segments, List.splitOn_cons_eq_if_modifyHead]
      by_cases splits : (first == separator) = true
      · rw [if_pos splits]
        have notFirst : byte ≠ first := by
          rintro rfl
          exact notSeparator (beq_iff_eq.mp splits)
        obtain ⟨segment, isSegment, inside⟩ :=
          inductionHypothesis
            ((List.mem_cons.mp member).resolve_left notFirst)
        exact ⟨segment, .tail _ isSegment, inside⟩
      · rw [if_neg splits]
        obtain ⟨head, tail, shape⟩ :=
          List.exists_cons_of_ne_nil (List.splitOn_ne_nil separator rest)
        rw [segments, shape] at inductionHypothesis
        rw [shape, List.modifyHead_cons]
        rcases List.mem_cons.mp member with rfl | later
        · exact ⟨byte :: head, .head _, .head _⟩
        · obtain ⟨segment, isSegment, inside⟩ :=
            inductionHypothesis later
          rcases List.mem_cons.mp isSegment with rfl | inTail
          · exact ⟨first :: segment, .head _, .tail _ inside⟩
          · exact ⟨segment, .tail _ inTail, inside⟩

end Path

/-! ## Places -/

/-- The names from the root to an entry. -/
abbrev TreePlace := List Name

namespace TreePlace

/-- The absolute path that names a place. -/
def path (place : TreePlace) : Path :=
  Path.separator :: [Path.separator].intercalate place

theorem isAbsolute_path (place : TreePlace) :
    place.path.isAbsolute = true := by
  simp [path, Path.isAbsolute]

/-- The path of a place has its names as segments. -/
theorem segments_path
    {place : TreePlace}
    (named : ∀ name ∈ place, Path.IsName name)
    (below : place ≠ []) :
    place.path.segments = [] :: place := by
  rw [Path.segments, path, List.splitOn_cons_eq_if_modifyHead, if_pos
    (beq_self_eq_true _), List.splitOn_intercalate Path.separator
    (fun name member => (named name member).noSeparator) below]

/-- The components of the path are the root and the names. -/
theorem components_path
    {place : TreePlace}
    (named : ∀ name ∈ place, Path.IsName name) :
    place.path.components = .rootDir :: place.map .normal := by
  have kept :
      place.path.segments.filterMap Path.component? =
        place.map .normal := by
    by_cases atRoot : place = []
    · subst atRoot
      rfl
    · rw [segments_path named atRoot]
      calc
        ([] :: place).filterMap Path.component? =
            place.filterMap Path.component? := rfl
        _ = place.filterMap (some ∘ Path.Component.normal) :=
          List.filterMap_congr fun name member =>
            (named name member).component?_eq
        _ = place.map .normal := by
          rw [List.filterMap_eq_map]
  rw [Path.components, kept, if_pos (isAbsolute_path place)]

/-- One path starts with another when its place is the other's or below. -/
theorem startsWith_path_iff
    {place base : TreePlace}
    (placeNamed : ∀ name ∈ place, Path.IsName name)
    (baseNamed : ∀ name ∈ base, Path.IsName name) :
    place.path.startsWith base.path = true ↔ base <+: place := by
  have normalInjective :
      Function.Injective Path.Component.normal :=
    fun _ _ same => Path.Component.normal.inj same
  rw [Path.startsWith, decide_eq_true_iff, components_path placeNamed,
    components_path baseNamed, List.cons_prefix_cons]
  simp [List.prefix_map_iff_of_injective normalInjective]

end TreePlace

/-! ## Trees -/

inductive Entry where
  | directory
  | file
  | link (target : Path)
  deriving Repr, DecidableEq

namespace Entry

def isLink : Entry → Bool
  | .link _ => true
  | _ => false

end Entry

/-- What is found where: every entry stands in a directory under a name. -/
structure FileTree where
  lookup : TreePlace → Option Entry
  root : lookup [] = some .directory
  inDirectory :
    ∀ place name,
      lookup (place ++ [name]) ≠ none →
        lookup place = some .directory ∧ Path.IsName name

namespace FileTree

variable {tree : FileTree}

/-- What a list of entries has at a place. -/
def listed
    (entries : List (TreePlace × Entry))
    (place : TreePlace) : Option Entry :=
  if place = [] then
    some .directory
  else
    (entries.find? fun item => item.1 = place).map Prod.snd

/-- A finite tree. -/
def ofEntries
    (entries : List (TreePlace × Entry))
    (sound :
      ∀ item ∈ entries,
        listed entries item.1.dropLast = some .directory ∧
          Path.IsName (item.1.getLastD [])) : FileTree where
  lookup := listed entries
  root := rfl
  inDirectory := by
    intro place name found
    obtain ⟨entry, isListed⟩ := Option.ne_none_iff_exists'.mp found
    rw [listed, if_neg (by simp)] at isListed
    obtain ⟨item, isItem, _⟩ := Option.map_eq_some_iff.mp isListed
    have samePlace : item.1 = place ++ [name] := by
      simpa using List.find?_some isItem
    have fits := sound item (List.mem_of_find?_eq_some isItem)
    rw [samePlace] at fits
    simpa using fits

/-- The place exists and no link is on the way to it. -/
structure Genuine (tree : FileTree) (place : TreePlace) : Prop where
  exists_entry :
    ∃ entry, tree.lookup place = some entry ∧ entry.isLink = false
  above :
    ∀ higher, higher <+: place → higher ≠ place →
      tree.lookup higher = some .directory

/-- Above an entry there are only directories. -/
theorem lookup_above
    {place higher : TreePlace}
    (found : tree.lookup place ≠ none)
    (isPrefix : higher <+: place)
    (proper : higher ≠ place) :
    tree.lookup higher = some .directory := by
  induction place using List.reverseRecOn with
  | nil =>
      exact (proper (List.prefix_nil.mp isPrefix)).elim
  | append_singleton place name inductionHypothesis =>
      have inDirectory := (tree.inDirectory place name found).1
      rcases List.prefix_concat_iff.mp isPrefix with same | within
      · exact (proper same).elim
      · by_cases same : higher = place
        · rw [same]
          exact inDirectory
        · exact inductionHypothesis (by rw [inDirectory]; simp) within
            same

/-- An entry that is no link is where its place says. -/
theorem genuine_of_lookup
    {place : TreePlace}
    {entry : Entry}
    (found : tree.lookup place = some entry)
    (notLink : entry.isLink = false) :
    tree.Genuine place where
  exists_entry := ⟨entry, found, notLink⟩
  above := fun _ isPrefix proper =>
    lookup_above (by rw [found]; simp) isPrefix proper

/-- The names on the way to an entry are names of entries. -/
theorem isName_of_lookup
    {place : TreePlace}
    (found : tree.lookup place ≠ none) :
    ∀ name ∈ place, Path.IsName name := by
  induction place using List.reverseRecOn with
  | nil =>
      intro name member
      cases member
  | append_singleton place last inductionHypothesis =>
      obtain ⟨inDirectory, isName⟩ := tree.inDirectory place last found
      intro name member
      rcases List.mem_append.mp member with within | isLast
      · exact inductionHypothesis (by rw [inDirectory]; simp) name within
      · obtain rfl := List.mem_singleton.mp isLast
        exact isName

/-- Going up from a directory leads to a directory. -/
theorem lookup_dropLast
    {place : TreePlace}
    (isDirectory : tree.lookup place = some .directory) :
    tree.lookup place.dropLast = some .directory := by
  induction place using List.reverseRecOn with
  | nil =>
      exact isDirectory
  | append_singleton place name =>
      rw [List.dropLast_concat]
      exact (tree.inDirectory place name (by rw [isDirectory]; simp)).1

/-! ## Resolution -/

/-- Where a path begins, seen from a directory. -/
def start (place : TreePlace) (path : Path) : TreePlace :=
  if path.isAbsolute then [] else place

/--
From a place the segments lead to another one, through this many links.  Every
segment, also `.`, `..` and an empty one, asks for a directory.
-/
inductive Walks (tree : FileTree) :
    Nat → TreePlace → List Name → TreePlace → Prop where
  | arrived
      (place : TreePlace) :
      Walks tree 0 place [] place
  | stay
      {links : Nat}
      {place final : TreePlace}
      {name : Name}
      {rest : List Name}
      (isDirectory : tree.lookup place = some .directory)
      (dot : name = [] ∨ name = Path.current)
      (onward : Walks tree links place rest final) :
      Walks tree links place (name :: rest) final
  | up
      {links : Nat}
      {place final : TreePlace}
      {rest : List Name}
      (isDirectory : tree.lookup place = some .directory)
      (onward : Walks tree links place.dropLast rest final) :
      Walks tree links place (Path.parent :: rest) final
  | enter
      {links : Nat}
      {place final : TreePlace}
      {name : Name}
      {rest : List Name}
      {entry : Entry}
      (found : tree.lookup (place ++ [name]) = some entry)
      (notLink : entry.isLink = false)
      (onward : Walks tree links (place ++ [name]) rest final) :
      Walks tree links place (name :: rest) final
  | follow
      {links : Nat}
      {place final : TreePlace}
      {name : Name}
      {rest : List Name}
      {target : Path}
      (found : tree.lookup (place ++ [name]) = some (.link target))
      (nonempty : target ≠ [])
      (onward :
        Walks tree links (start place target) (target.segments ++ rest)
          final) :
      Walks tree (links + 1) place (name :: rest) final

/-- What keeps a path from being resolved. -/
inductive Obstacle where
  | notFound
  | notADirectory
  | tooManyLinks
  deriving Repr, DecidableEq

/-- Follow the segments; a link is left to the argument. -/
def walkUntilLink
    (tree : FileTree)
    (follow : TreePlace → Path → List Name → Except Obstacle TreePlace) :
    TreePlace → List Name → Except Obstacle TreePlace
  | place, [] => .ok place
  | place, name :: rest =>
      if tree.lookup place = some .directory then
        if name = [] ∨ name = Path.current then
          walkUntilLink tree follow place rest
        else if name = Path.parent then
          walkUntilLink tree follow place.dropLast rest
        else
          match tree.lookup (place ++ [name]) with
          | none => .error .notFound
          | some (.link target) => follow place target rest
          | some _ => walkUntilLink tree follow (place ++ [name]) rest
      else
        .error .notADirectory

/-- Follow the segments through at most this many links. -/
def walk (tree : FileTree) :
    Nat → TreePlace → List Name → Except Obstacle TreePlace
  | 0 => walkUntilLink tree fun _ _ _ => .error .tooManyLinks
  | links + 1 =>
      walkUntilLink tree fun place target rest =>
        if target = [] then
          .error .notFound
        else
          walk tree links (start place target) (target.segments ++ rest)

/-- What the argument answers for links carries over to the whole path. -/
theorem exists_walks_of_walkUntilLink
    {follow : TreePlace → Path → List Name → Except Obstacle TreePlace}
    {limit : Nat}
    {final : TreePlace}
    (followed :
      ∀ place target rest,
        follow place target rest = .ok final →
          target ≠ [] ∧
            ∃ links, links + 1 ≤ limit ∧
              tree.Walks links (start place target)
                (target.segments ++ rest) final)
    {place : TreePlace}
    {names : List Name}
    (arrives : tree.walkUntilLink follow place names = .ok final) :
    ∃ links ≤ limit, tree.Walks links place names final := by
  induction names generalizing place with
  | nil =>
      cases arrives
      exact ⟨0, Nat.zero_le _, .arrived _⟩
  | cons name rest inductionHypothesis =>
      rw [walkUntilLink] at arrives
      split at arrives
      next isDirectory =>
        split at arrives
        next dot =>
          obtain ⟨links, within, onward⟩ := inductionHypothesis arrives
          exact ⟨links, within, .stay isDirectory dot onward⟩
        next notDot =>
          split at arrives
          next isParent =>
            obtain ⟨links, within, onward⟩ := inductionHypothesis arrives
            subst isParent
            exact ⟨links, within, .up isDirectory onward⟩
          next notParent =>
            cases found : tree.lookup (place ++ [name]) with
            | none =>
                rw [found] at arrives
                cases arrives
            | some entry =>
                rw [found] at arrives
                cases entry with
                | link target =>
                    obtain ⟨nonempty, links, within, onward⟩ :=
                      followed place target rest arrives
                    exact ⟨links + 1, within,
                      .follow found nonempty onward⟩
                | directory | file =>
                    obtain ⟨links, within, onward⟩ :=
                      inductionHypothesis arrives
                    exact ⟨links, within, .enter found rfl onward⟩
      next notDirectory =>
        cases arrives

theorem exists_walks_of_walk
    {limit : Nat}
    {place final : TreePlace}
    {names : List Name}
    (arrives : tree.walk limit place names = .ok final) :
    ∃ links ≤ limit, tree.Walks links place names final := by
  induction limit generalizing place names with
  | zero =>
      refine exists_walks_of_walkUntilLink ?_ arrives
      intro place target rest followed
      cases followed
  | succ limit inductionHypothesis =>
      refine exists_walks_of_walkUntilLink ?_ arrives
      intro place target rest followed
      by_cases nonempty : target = []
      · rw [if_pos nonempty] at followed
        cases followed
      · rw [if_neg nonempty] at followed
        obtain ⟨links, within, onward⟩ := inductionHypothesis followed
        exact ⟨nonempty, links, by omega, onward⟩

/-- A walk is found under every limit that its links keep to. -/
theorem Walks.walk_eq
    {links : Nat}
    {place final : TreePlace}
    {names : List Name}
    (walks : tree.Walks links place names final)
    {limit : Nat}
    (within : links ≤ limit) :
    tree.walk limit place names = .ok final := by
  induction walks generalizing limit with
  | arrived place =>
      cases limit <;> rfl
  | stay isDirectory dot onward inductionHypothesis =>
      have arrives := inductionHypothesis within
      cases limit <;>
        simpa only [walk, walkUntilLink, isDirectory, dot, if_true]
          using arrives
  | up isDirectory onward inductionHypothesis =>
      have arrives := inductionHypothesis within
      have notDot : ¬(Path.parent = [] ∨ Path.parent = Path.current) := by
        decide
      cases limit <;>
        simpa only [walk, walkUntilLink, isDirectory, notDot, if_true,
          if_false] using arrives
  | @enter _ place _ name _ entry found notLink onward
      inductionHypothesis =>
      have arrives := inductionHypothesis within
      obtain ⟨isDirectory, isName⟩ :=
        tree.inDirectory place name (by rw [found]; simp)
      cases entry with
      | link target =>
          cases notLink
      | directory | file =>
          cases limit <;>
            simpa only [walk, walkUntilLink, isDirectory, found,
              isName.nonempty, isName.notCurrent, isName.notParent,
              or_false, if_true, if_false] using arrives
  | follow found nonempty onward inductionHypothesis =>
      obtain ⟨isDirectory, isName⟩ :=
        tree.inDirectory _ _ (by rw [found]; simp)
      cases limit with
      | zero =>
          omega
      | succ limit =>
          have arrives := inductionHypothesis (Nat.le_of_succ_le_succ within)
          simpa only [walk, walkUntilLink, isDirectory, found, nonempty,
            isName.nonempty, isName.notCurrent, isName.notParent,
            or_false, if_true, if_false] using arrives

/-- `walk` finds exactly the walks within its limit. -/
theorem walk_eq_ok_iff
    {limit : Nat}
    {place final : TreePlace}
    {names : List Name} :
    tree.walk limit place names = .ok final ↔
      ∃ links ≤ limit, tree.Walks links place names final :=
  ⟨exists_walks_of_walk, fun ⟨_, within, walks⟩ => walks.walk_eq within⟩

/-- Where no link is on the way, the names of a place lead to it. -/
theorem Genuine.walks
    {place : TreePlace}
    (genuine : tree.Genuine place)
    {walked names : TreePlace}
    (split : walked ++ names = place) :
    tree.Walks 0 walked names place := by
  induction names generalizing walked with
  | nil =>
      rw [List.append_nil] at split
      rw [split]
      exact .arrived place
  | cons name rest inductionHypothesis =>
      rw [List.append_cons] at split
      obtain ⟨entry, found, notLink⟩ :
          ∃ entry,
            tree.lookup (walked ++ [name]) = some entry ∧
              entry.isLink = false := by
        by_cases last : walked ++ [name] = place
        · rw [last]
          exact genuine.exists_entry
        · exact ⟨.directory, genuine.above _ ⟨rest, split⟩ last, rfl⟩
      exact .enter found notLink (inductionHypothesis split)

/-- From a place without links every walk ends at one. -/
theorem Walks.genuine
    {links : Nat}
    {place final : TreePlace}
    {names : List Name}
    (walks : tree.Walks links place names final)
    (genuine : tree.Genuine place) :
    tree.Genuine final := by
  induction walks with
  | arrived =>
      exact genuine
  | stay isDirectory dot onward inductionHypothesis =>
      exact inductionHypothesis genuine
  | up isDirectory onward inductionHypothesis =>
      exact inductionHypothesis
        (genuine_of_lookup (lookup_dropLast isDirectory) rfl)
  | enter found notLink onward inductionHypothesis =>
      exact inductionHypothesis (genuine_of_lookup found notLink)
  | @follow _ place _ name _ target found nonempty onward
      inductionHypothesis =>
      refine inductionHypothesis ?_
      have isDirectory :=
        (tree.inDirectory place name (by rw [found]; simp)).1
      rw [start]
      split
      · exact genuine_of_lookup tree.root rfl
      · exact genuine_of_lookup isDirectory rfl

/-- Only segments without a NUL byte lead anywhere. -/
theorem Walks.noNul
    {links : Nat}
    {place final : TreePlace}
    {names : List Name}
    (walks : tree.Walks links place names final) :
    ∀ name ∈ names, 0 ∉ name := by
  induction walks with
  | arrived =>
      intro name member
      cases member
  | stay isDirectory dot onward inductionHypothesis =>
      refine List.forall_mem_cons.mpr ⟨?_, inductionHypothesis⟩
      rcases dot with rfl | rfl
      · exact List.not_mem_nil
      · decide
  | up isDirectory onward inductionHypothesis =>
      exact List.forall_mem_cons.mpr ⟨by decide, inductionHypothesis⟩
  | enter found notLink onward inductionHypothesis =>
      have isName := (tree.inDirectory _ _ (by rw [found]; simp)).2
      exact List.forall_mem_cons.mpr ⟨isName.noNul, inductionHypothesis⟩
  | follow found nonempty onward inductionHypothesis =>
      have isName := (tree.inDirectory _ _ (by rw [found]; simp)).2
      exact List.forall_mem_cons.mpr
        ⟨isName.noNul, fun name member =>
          inductionHypothesis name (List.mem_append_right _ member)⟩

end FileTree

/-! ## A process before a file tree -/

/-- What a process sees of the files of its system. -/
structure FileSystem where
  tree : FileTree
  workingDirectory : TreePlace
  isDirectory : tree.lookup workingDirectory = some .directory
  /-- How many links the system follows before it gives up. -/
  linkLimit : Nat

namespace FileSystem

variable {system : FileSystem}

/-- The place a path resolves to, as the system defines it. -/
structure Resolves
    (system : FileSystem)
    (path : Path)
    (place : TreePlace) : Prop where
  nonempty : path ≠ []
  walks :
    ∃ links ≤ system.linkLimit,
      system.tree.Walks links
        (FileTree.start system.workingDirectory path) path.segments place

/-- Why `canonicalize` fails. -/
inductive ResolveError where
  | nulByte
  | obstacle (obstacle : FileTree.Obstacle)
  deriving Repr, DecidableEq

/-- The texts of `std::io::Error` on Linux. -/
def ResolveError.text : ResolveError → String
  | .nulByte => "file name contained an unexpected NUL byte"
  | .obstacle .notFound => "No such file or directory (os error 2)"
  | .obstacle .notADirectory => "Not a directory (os error 20)"
  | .obstacle .tooManyLinks =>
      "Too many levels of symbolic links (os error 40)"

/-- `Path::canonicalize`: the path without links and dots, or an error. -/
def canonicalize
    (system : FileSystem)
    (path : Path) : Except ResolveError Path :=
  if 0 ∈ path then
    .error .nulByte
  else if path = [] then
    .error (.obstacle .notFound)
  else
    match system.tree.walk system.linkLimit
        (FileTree.start system.workingDirectory path) path.segments with
    | .ok place => .ok place.path
    | .error obstacle => .error (.obstacle obstacle)

/-- A path with a NUL byte resolves to nothing. -/
theorem Resolves.noNul
    {path : Path}
    {place : TreePlace}
    (resolves : system.Resolves path place) :
    0 ∉ path := by
  intro member
  obtain ⟨links, within, walks⟩ := resolves.walks
  obtain ⟨segment, isSegment, inside⟩ :=
    Path.mem_segments member (by decide)
  exact walks.noNul segment isSegment inside

/-- What a path resolves to is there, and no link is on the way to it. -/
theorem Resolves.genuine
    {path : Path}
    {place : TreePlace}
    (resolves : system.Resolves path place) :
    system.tree.Genuine place := by
  obtain ⟨links, within, walks⟩ := resolves.walks
  refine walks.genuine ?_
  rw [FileTree.start]
  split
  · exact FileTree.genuine_of_lookup system.tree.root rfl
  · exact FileTree.genuine_of_lookup system.isDirectory rfl

/-- The names of a resolved place are names of entries. -/
theorem Resolves.named
    {path : Path}
    {place : TreePlace}
    (resolves : system.Resolves path place) :
    ∀ name ∈ place, Path.IsName name := by
  obtain ⟨entry, found, notLink⟩ := resolves.genuine.exists_entry
  exact FileTree.isName_of_lookup (by rw [found]; simp)

/-- A path resolves to one place. -/
theorem Resolves.unique
    {path : Path}
    {first second : TreePlace}
    (resolvesFirst : system.Resolves path first)
    (resolvesSecond : system.Resolves path second) :
    first = second := by
  have arrivesFirst := FileTree.walk_eq_ok_iff.mpr resolvesFirst.walks
  have arrivesSecond := FileTree.walk_eq_ok_iff.mpr resolvesSecond.walks
  rw [arrivesFirst] at arrivesSecond
  exact Except.ok.inj arrivesSecond

/-- The path of a resolved place resolves to that place. -/
theorem Resolves.path_resolves
    {path : Path}
    {place : TreePlace}
    (resolves : system.Resolves path place) :
    system.Resolves place.path place where
  nonempty := List.cons_ne_nil _ _
  walks := by
    refine ⟨0, Nat.zero_le _, ?_⟩
    rw [FileTree.start, if_pos place.isAbsolute_path]
    by_cases atRoot : place = []
    · subst atRoot
      exact .stay system.tree.root (.inl rfl)
        (.stay system.tree.root (.inl rfl) (.arrived []))
    · rw [TreePlace.segments_path resolves.named atRoot]
      exact .stay system.tree.root (.inl rfl)
        (resolves.genuine.walks (List.nil_append place))

/-- `canonicalize` answers the path of the place a path resolves to. -/
theorem canonicalize_eq_ok_iff
    {path resolved : Path} :
    system.canonicalize path = .ok resolved ↔
      ∃ place, system.Resolves path place ∧ resolved = place.path := by
  constructor
  · intro answered
    rw [canonicalize] at answered
    split at answered
    next => cases answered
    next =>
      split at answered
      next => cases answered
      next nonempty =>
        split at answered
        next place arrives =>
          cases answered
          exact ⟨place,
            ⟨nonempty, FileTree.walk_eq_ok_iff.mp arrives⟩, rfl⟩
        next => cases answered
  · rintro ⟨place, resolves, rfl⟩
    rw [canonicalize, if_neg resolves.noNul, if_neg resolves.nonempty,
      FileTree.walk_eq_ok_iff.mpr resolves.walks]

end FileSystem

end Kronkeeper
