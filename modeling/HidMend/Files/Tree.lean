import HidMend.Files

/-!
# Trees of files

A file tree is a world of its own for a program: a finite tree of files and directories, at whose
root the program runs, and in which paths are followed as a host follows them.  Outside of the tree
there are only directories that every host has, and what the program itself writes there.
-/

namespace HidMend

/-- Where the names of a location are counted from. -/
inductive Origin
  /-- The directory so many levels above the root of the tree. -/
  | above (levels : Nat)
  /-- The root of the host. -/
  | host
  deriving DecidableEq, Repr

/-- A place for a file or directory, which need not be there. -/
structure Location where
  origin : Origin
  names : List String
  deriving DecidableEq, Repr

namespace Location

/-- The root of the tree, where the program runs. -/
def root : Location := ⟨.above 0, []⟩

/-- The root of the host, which is above everything and itself. -/
def hostRoot : Location := ⟨.host, []⟩

def child (location : Location) (name : String) : Location :=
  { location with names := location.names ++ [name] }

def parent : Location → Location
  | ⟨.above levels, []⟩ => ⟨.above (levels + 1), []⟩
  | ⟨origin, names⟩ => ⟨origin, names.dropLast⟩

end Location

inductive FileEntry
  | file (bytes : Bytes)
  | directory
  /-- A file that is empty and stays so, whatever is written to it. -/
  | sink
  deriving DecidableEq, Repr

/-- A tree of files and directories. -/
structure FileTree where
  entries : List (Location × FileEntry)
  deriving Repr

namespace FileTree

def empty : FileTree := ⟨[]⟩

/-- What every host has. -/
def hostEntries : List (Location × FileEntry) :=
  (⟨.host, ["dev", "null"]⟩, .sink) ::
    ["dev", "etc", "proc", "sys", "tmp", "usr", "var"].map fun name =>
      (⟨.host, [name]⟩, .directory)

def entry? (tree : FileTree) (location : Location) : Option FileEntry :=
  if location.names.isEmpty then some .directory
  else (tree.entries.lookup location).or (hostEntries.lookup location)

/-- Set an entry, in front of what was there before. -/
def set (tree : FileTree) (location : Location) (entry : FileEntry) : FileTree :=
  ⟨(location, entry) :: tree.entries.filter fun other => other.1 ≠ location⟩

/-- Set an entry below a location, and make the directories on the way to it. -/
def createFrom (tree : FileTree) (location : Location) (entry : FileEntry) :
    List String → FileTree
  | [] => tree
  | [name] => tree.set (location.child name) entry
  | name :: rest =>
      let next := location.child name
      let tree := if (tree.entry? next).isSome then tree else tree.set next .directory
      tree.createFrom next entry rest

/-- Set an entry in the tree, and make the directories above it. -/
def create (tree : FileTree) (names : List String) (entry : FileEntry) : FileTree :=
  tree.createFrom .root entry names

/-- The longest name that a directory can hold, in bytes. -/
def maxNameSize : Nat := 255

/-- The longest path that can be followed, in bytes. -/
def maxPathSize : Nat := 4095

/-- The parts of a text between its slashes. -/
def namesFrom (name : List Char) : List Char → List String
  | [] => [String.ofList name]
  | char :: rest =>
      if char = '/' then String.ofList name :: namesFrom [] rest
      else namesFrom (name ++ [char]) rest

/-- Where a path starts, and the names in it.  A slash without a name behind leaves an empty one. -/
def start? (path : String) : Except FileFault (Location × List String) :=
  if maxPathSize < path.utf8ByteSize then .error .nameTooLong
  else
    match path.toList with
    | [] => .error .notFound
    | '/' :: rest => .ok (.hostRoot, namesFrom [] rest)
    | chars => .ok (.root, namesFrom [] chars)

/-- Follow names from a location.  Whatever a further name is looked up in must be a directory; the
last name may be missing. -/
def walk (tree : FileTree) (location : Location) : List String → Except FileFault Location
  | [] => .ok location
  | name :: rest =>
      match tree.entry? location with
      | none => .error .notFound
      | some .directory =>
          if name = "" ∨ name = "." then tree.walk location rest
          else if name = ".." then tree.walk location.parent rest
          else if maxNameSize < name.utf8ByteSize then .error .nameTooLong
          else tree.walk (location.child name) rest
      | some _ => .error .notDirectory

/-- Find the entry that a path names. -/
def find (tree : FileTree) (path : String) : Except FileFault (Location × FileEntry) :=
  match start? path with
  | .error fault => .error fault
  | .ok (start, names) =>
      match tree.walk start names with
      | .error fault => .error fault
      | .ok location =>
          match tree.entry? location with
          | none => .error .notFound
          | some entry => .ok (location, entry)

def read (tree : FileTree) (path : String) : Except FileFault Bytes :=
  match tree.find path with
  | .error fault => .error fault
  | .ok (_, .directory) => .error .isDirectory
  | .ok (_, .sink) => .ok []
  | .ok (_, .file bytes) => .ok bytes

/-- The names right below a location. -/
def children (tree : FileTree) (location : Location) : List String :=
  tree.entries.filterMap fun entry =>
    if entry.1.parent = location then entry.1.names.getLast? else none

def list (tree : FileTree) (path : String) : Except FileFault (List String) :=
  match tree.find path with
  | .error fault => .error fault
  | .ok (location, .directory) => .ok (tree.children location)
  | .ok _ => .error .notDirectory

/-- Find the location that a path names for writing.  A path that ends in a slash names a directory,
whether or not its last name is there. -/
def target (tree : FileTree) (start : Location) (names : List String) :
    Except FileFault Location :=
  let rest := names.reverse.dropWhile (· == "")
  match rest with
  | last :: above =>
      if rest.length = names.length ∨ last = "." ∨ last = ".." then tree.walk start names
      else (tree.walk start (above.reverse ++ [""])).bind fun _ => .error .isDirectory
  | [] => tree.walk start names

/-- Write a file, making it if it is missing. -/
def write (tree : FileTree) (path : String) (bytes : Bytes) : Except FileFault FileTree :=
  match start? path with
  | .error fault => .error fault
  | .ok (start, names) =>
      match tree.target start names with
      | .error fault => .error fault
      | .ok location =>
          match tree.entry? location with
          | some .directory => .error .isDirectory
          | some .sink => .ok tree
          | _ => .ok (tree.set location (.file bytes))

end FileTree

instance : Files (StateM FileTree) where
  readFile path := do return (← get).read path
  listDirectory path := do return ((← get).list path).map fun names => names.map bytesOfText
  writeFile path bytes := do
    match (← get).write path bytes with
    | .error fault => return .error fault
    | .ok tree => do
        set tree
        return .ok ()

end HidMend
