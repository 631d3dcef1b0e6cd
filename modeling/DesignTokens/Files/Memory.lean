import DesignTokens.Files.Store

/-!
# Files in memory

A tree of files is the list of its places with what stands there. The names `.` and
`..` are followed while a path is looked up, and every directory on the way has to
exist.
-/

namespace DesignTokens

/-- A place in a tree of files: the names from the root on. -/
abbrev Place := List String

/-- What stands at a place. -/
inductive FileItem where
  | file (bytes : ByteArray)
  | directory

/-- A tree of files and the directory from which relative paths start. -/
structure FileTree where
  items : List (Place × FileItem)
  current : Place

namespace FileTree

/-- A tree that holds one directory and those above it. -/
def empty (current : Place) : FileTree :=
  ⟨(List.range current.length).map fun n => (current.take (n + 1), .directory), current⟩

/-- What a list of places has at one of them. -/
def itemIn? (place : Place) : List (Place × FileItem) → Option FileItem
  | [] => none
  | (key, item) :: rest => if key = place then some item else itemIn? place rest

/-- A list of places with something put at one of them. -/
def putIn (place : Place) (item : FileItem) :
    List (Place × FileItem) → List (Place × FileItem)
  | [] => [(place, item)]
  | (key, old) :: rest =>
    if key = place then (key, item) :: rest else (key, old) :: putIn place item rest

/-- What stands at a place; the root is a directory. -/
def item? (place : Place) (tree : FileTree) : Option FileItem :=
  if place = [] then some .directory else itemIn? place tree.items

/-- Let something stand at a place. -/
def put (place : Place) (item : FileItem) (tree : FileTree) : FileTree :=
  { tree with items := putIn place item tree.items }

theorem itemIn?_putIn_self (place : Place) (item : FileItem)
    (items : List (Place × FileItem)) : itemIn? place (putIn place item items) = some item := by
  induction items with
  | nil => simp [putIn, itemIn?]
  | cons entry rest ih =>
    obtain ⟨key, old⟩ := entry
    by_cases h : key = place <;> simp [putIn, itemIn?, h, ih]

theorem itemIn?_putIn_of_ne {place other : Place} (h : other ≠ place) (item : FileItem)
    (items : List (Place × FileItem)) :
    itemIn? other (putIn place item items) = itemIn? other items := by
  induction items with
  | nil => simp [putIn, itemIn?, Ne.symm h]
  | cons entry rest ih =>
    obtain ⟨key, old⟩ := entry
    by_cases hk : key = place
    · subst hk
      simp [putIn, itemIn?, Ne.symm h]
    · rw [putIn, if_neg hk, itemIn?, itemIn?, ih]

@[simp] theorem item?_root (tree : FileTree) : tree.item? [] = some .directory := rfl

theorem item?_put_self {place : Place} (h : place ≠ []) (item : FileItem) (tree : FileTree) :
    (tree.put place item).item? place = some item := by
  rw [item?, if_neg h]
  exact itemIn?_putIn_self place item tree.items

theorem item?_put_of_ne {place other : Place} (h : other ≠ place) (item : FileItem)
    (tree : FileTree) : (tree.put place item).item? other = tree.item? other := by
  unfold item? put
  rw [itemIn?_putIn_of_ne h]

/-- The place that a name leads to from a directory. -/
def step (directory : Place) (name : String) : Place :=
  if name = ".." then directory.dropLast else directory ++ [name]

/-- The place that names lead to from a directory, all but the last of which have to
lead to directories. -/
def walk (tree : FileTree) (directory : Place) : List String → Except FileProblem Place
  | [] => .ok directory
  | [name] => .ok (step directory name)
  | name :: rest =>
    match tree.item? (step directory name) with
    | some .directory => walk tree (step directory name) rest
    | some (.file _) => .error .notADirectory
    | none => .error .notFound

/-- The place of a path. -/
def locate (tree : FileTree) (path : Path) : Except FileProblem Place :=
  if path.hasNul then .error .nulInName
  else walk tree (if path.anchor = .here then tree.current else []) path.parts

/-- What stands at a path. -/
def lookup (tree : FileTree) (path : Path) : Except FileProblem FileItem := do
  let place ← tree.locate path
  match tree.item? place with
  | some item => .ok item
  | none => .error .notFound

/-- The content of a file. -/
def readBytes (tree : FileTree) (path : Path) : Except FileFault ByteArray :=
  match tree.lookup path with
  | .ok (.file bytes) => .ok bytes
  | .ok .directory => .error ⟨.isADirectory, path⟩
  | .error problem => .error ⟨problem, path⟩

/-- Whether something stands at a path. -/
def isPresent (tree : FileTree) (path : Path) : Bool :=
  (tree.lookup path).toBool

/-- Whether a directory stands at a path. -/
def isDirectory (tree : FileTree) (path : Path) : Bool :=
  match tree.lookup path with
  | .ok .directory => true
  | _ => false

/-- The tree with a directory at a path where nothing stands yet. -/
def withDirectory (tree : FileTree) (path : Path) : Except FileFault FileTree :=
  match tree.locate path with
  | .error problem => .error ⟨problem, path⟩
  | .ok place =>
    match tree.item? place with
    | some _ => .error ⟨.alreadyExists, path⟩
    | none => .ok (tree.put place .directory)

/-- The tree with a file at a path, unless a directory stands there. -/
def withFile (tree : FileTree) (path : Path) (bytes : ByteArray) : Except FileFault FileTree :=
  match tree.locate path with
  | .error problem => .error ⟨problem, path⟩
  | .ok place =>
    match tree.item? place with
    | some .directory => .error ⟨.isADirectory, path⟩
    | _ => .ok (tree.put place (.file bytes))

/-- The text of a place: its names with strokes between them. -/
def placeText (place : Place) : List Char :=
  ("/".intercalate place).toList

/-- Whether a place comes before another one, by the code points of their texts. A stroke
counts like any other character, so what stands in a directory does not always follow
the directory at once. -/
def placeBefore (first second : Place) : Bool :=
  List.lex ((placeText first).map Char.toNat) ((placeText second).map Char.toNat) Nat.blt

/-- The places below the current directory with what stands there, in the order of
their texts. -/
def listing (tree : FileTree) : List (Place × FileItem) :=
  let below := tree.items.filterMap fun (place, item) =>
    if tree.current.isPrefixOf place ∧ place ≠ tree.current then
      some (place.drop tree.current.length, item)
    else none
  below.mergeSort fun a b => !placeBefore b.1 a.1

/-- Replace a tree by the result of a change, or keep it and report the fault. -/
def attempt (change : FileTree → Except FileFault FileTree) :
    StateM FileTree (Except FileFault Unit) := fun tree =>
  match change tree with
  | .ok changed => (.ok (), changed)
  | .error fault => (.error fault, tree)

instance : FileStore (StateM FileTree) where
  readBytes path := fun tree => (tree.readBytes path, tree)
  isPresent path := fun tree => (tree.isPresent path, tree)
  isDirectory path := fun tree => (tree.isDirectory path, tree)
  makeDirectory path := attempt fun tree => tree.withDirectory path
  writeBytes path bytes := attempt fun tree => tree.withFile path bytes

end FileTree

end DesignTokens
