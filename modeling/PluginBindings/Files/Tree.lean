import PluginBindings.Report.Fault

namespace PluginBindings

abbrev Location := List Text

inductive Entry where
  | directory
  | file (contents : ByteArray)

-- Every place below the top that is taken. Relative paths start at `base`.
structure FileTree where
  base : Location
  entries : List (Location × Entry)

namespace FileTree

def find? (tree : FileTree) (location : Location) : Option Entry :=
  if location = [] then some .directory else tree.entries.lookup location

def put (tree : FileTree) (location : Location) (entry : Entry) : FileTree :=
  { tree with entries := (location, entry) :: tree.entries.filter (·.1 != location) }

def remove (tree : FileTree) (location : Location) : FileTree :=
  { tree with entries := tree.entries.filter (·.1 != location) }

theorem remove_put (tree : FileTree) (location : Location) (entry : Entry)
    (absent : location ∉ tree.entries.map (·.1)) :
    (tree.put location entry).remove location = tree := by
  have kept : tree.entries.filter (·.1 != location) = tree.entries := by
    apply List.filter_eq_self.mpr
    intro row member
    have other : row.1 ≠ location := fun same => absent (same ▸ List.mem_map_of_mem member)
    simpa using other
  simp [put, remove, kept]

def move (tree : FileTree) (old new : Location) : FileTree :=
  match tree.find? old with
  | some entry => (tree.remove old).put new entry
  | none => tree

def putBelow (tree : FileTree) (place : Location) : List Text → Entry → FileTree
  | [], _ => tree
  | [name], entry => tree.put (place ++ [name]) entry
  | name :: names, entry =>
    (tree.put (place ++ [name]) .directory).putBelow (place ++ [name]) names entry

def atBase (base : Location) : FileTree := putBelow ⟨base, []⟩ [] base .directory

def listing (tree : FileTree) : List (Location × Entry) :=
  tree.entries.filterMap fun row =>
    if tree.base.isPrefixOf row.1 && row.1 != tree.base then
      some (row.1.drop tree.base.length, row.2)
    else none

-- An absolute path and one that ends in a slash have an empty name there.
def names (path : Text) : List Text := Text.pieces (· == '/') path

def step (tree : FileTree) (place : Location) (name : Text) : Except AccessKind Location :=
  match tree.find? place with
  | none => .error .notFound
  | some (.file _) => .error .notADirectory
  | some .directory =>
    if name = [] || name = ['.'] then .ok place
    else if name = ['.', '.'] then .ok place.dropLast
    else if (tree.find? (place ++ [name])).isSome then .ok (place ++ [name])
    else .error .notFound

def start (tree : FileTree) (path : Text) : Location :=
  if path.head? == some '/' then [] else tree.base

def follow (tree : FileTree) (place : Location) (names : List Text) :
    Except AccessKind Location :=
  if names.any (·.contains '\x00') then .error .invalidInput else names.foldlM tree.step place

def read (tree : FileTree) (path : Text) : Except AccessKind ByteArray := do
  if path = [] then throw .notFound
  let place ← tree.follow (tree.start path) (names path)
  match tree.find? place with
  | some (.file contents) => return contents
  | _ => throw .isADirectory

def readText (tree : FileTree) (path : Text) : Except AccessKind Text := do
  match String.fromUTF8? (← tree.read path) with
  | some text => return text.toList
  | none => throw .invalidData

def followDirectory (tree : FileTree) (place : Location) (names : List Text) :
    Except AccessKind Location := do
  let place ← tree.follow place names
  match tree.find? place with
  | some .directory => return place
  | _ => throw .notADirectory

def parentNames (path : Text) : List Text :=
  ((names path).reverse.dropWhile fun name => name.isEmpty || name == ['.']).reverse.dropLast

-- A dot counts as a last name here, and a slash at the end asks for a directory.
def target (tree : FileTree) (path : Text) : Except AccessKind Location := do
  if path = [] then throw .notFound
  if path.contains '\x00' then throw .invalidInput
  let parts := ((names path).reverse.dropWhile List.isEmpty).reverse
  let place ← tree.followDirectory (tree.start path) parts.dropLast
  match parts.getLast? with
  | none => throw .resourceBusy
  | some name =>
    if name = ['.'] || name = ['.', '.'] then throw .resourceBusy
    if path.getLast? == some '/' then throw .notADirectory
    match tree.find? (place ++ [name]) with
    | some .directory => throw .isADirectory
    | _ => return place ++ [name]

def unusedName (used : List Text) : Text := ".tmp".toList ++ used.flatten.map fun _ => '_'

theorem unusedName_not_mem (used : List Text) : unusedName used ∉ used := by
  intro taken
  have bound := (List.sublist_flatten_of_mem taken).length_le
  simp only [unusedName, List.length_append, List.length_map] at bound
  have longer : 0 < (".tmp".toList).length := by decide
  omega

-- The contents are prepared under a name of their own and moved onto the file; `stored` tells
-- whether they got there. The prepared file is removed if either fails.
def writeUnder (tree : FileTree) (name path text : Text) (stored : Except AccessKind Unit) :
    FileTree × Except AccessKind Unit :=
  match tree.followDirectory (tree.start path) (parentNames path) with
  | .error kind => (tree, .error kind)
  | .ok directory =>
    let prepared := directory ++ [name]
    match stored with
    | .error kind => ((tree.put prepared (.file .empty)).remove prepared, .error kind)
    | .ok () =>
      let holding := tree.put prepared (.file (String.ofList text).toUTF8)
      match holding.target path with
      | .error kind => (holding.remove prepared, .error kind)
      | .ok place => (holding.move prepared place, .ok ())

def write (tree : FileTree) (path text : Text) : FileTree × Except AccessKind Unit :=
  tree.writeUnder (unusedName (names path ++ tree.entries.flatMap (·.1))) path text (.ok ())

end FileTree
end PluginBindings
