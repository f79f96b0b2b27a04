import JoinLatency.Error

/-! Trees of files. Paths are resolved name by name; reading leaves the tree as it is, and a write
changes the one file that its path names.
-/

namespace JoinLatency

/-- What a name in a directory stands for. -/
inductive FileNode
  | file (content : ByteArray)
  | directory
  deriving Inhabited

/-- The names from the root directory down to a node. -/
abbrev Location := List String

/-- The nodes below a root directory by their location, and the directory in which relative paths
start.
-/
structure Files where
  nodes : List (Location × FileNode) := []
  here : Location := []
  deriving Inhabited

/-- A path as its names, and whether it can only mean a directory. -/
structure FilePath where
  names : List String
  directoryOnly : Bool
  absolute : Bool
  deriving DecidableEq, Repr

namespace FilePath

/-- The names of a path text. Empty names and single points stand for the directory itself. -/
def ofString (path : String) : FilePath :=
  let parts := (path.toList.splitOn '/').map String.ofList
  let last := parts.getLast?.getD ""
  {
    names := parts.filter fun part => part != "" && part != "."
    directoryOnly := last == "" || last == "." || last == ".."
    absolute := path.startsWith "/"
  }

/-- The longest name of a directory entry, in bytes. -/
def longestName : Nat := 255

/-- The longest path, in bytes. -/
def longestPath : Nat := 4095

end FilePath

namespace Files

/-- The node at a location; the root is a directory. -/
def node? (files : Files) (location : Location) : Option FileNode :=
  if location.isEmpty then some .directory else files.nodes.lookup location

/-- The content of the file at a location. -/
def content? (files : Files) (location : Location) : Option ByteArray :=
  match files.node? location with
  | some (.file content) => some content
  | _ => none

/-- The directory that a list of names leads to, starting from one. The root is above itself. -/
def descend (files : Files) (start : Location) : List String → Except IoFault Location
  | [] => .ok start
  | ".." :: rest => descend files start.dropLast rest
  | name :: rest =>
      if FilePath.longestName < name.utf8ByteSize then .error .nameTooLong
      else
        match files.node? (start ++ [name]) with
        | none => .error .notFound
        | some (.file _) => .error .notDirectory
        | some .directory => descend files (start ++ [name]) rest

/-- The directory in which a path starts. -/
def startOf (files : Files) (path : FilePath) : Location :=
  if path.absolute then [] else files.here

/-- The location that a path means, once the directories on its way are found. -/
def locate (files : Files) (path : String) : Except IoFault (Location × FilePath) := do
  if path.toList.contains '\x00' then throw .nulInPath
  if path.isEmpty then throw .notFound
  if FilePath.longestPath < path.utf8ByteSize then throw .nameTooLong
  let parsed := FilePath.ofString path
  let parent ← files.descend (files.startOf parsed) parsed.names.dropLast
  match parsed.names.getLast? with
  | none => return (parent, parsed)
  | some ".." => return (← files.descend parent [".."], parsed)
  | some name =>
      if FilePath.longestName < name.utf8ByteSize then throw .nameTooLong
      return (parent ++ [name], parsed)

/-- The content of the file that a path names. -/
def read (files : Files) (path : String) : Except IoFault ByteArray := do
  let (location, parsed) ← files.locate path
  match files.node? location with
  | none => throw .notFound
  | some .directory => throw .isDirectory
  | some (.file content) =>
      if parsed.directoryOnly then throw .notDirectory else return content

/-- The content of a file as a text. -/
def readText (files : Files) (path : String) : Except IoFault String := do
  match String.fromUTF8? (← files.read path) with
  | none => throw .notText
  | some text => return text

/-- The location of a file that a path may write to, existing or not. -/
def writable (files : Files) (path : String) : Except IoFault Location := do
  let (location, parsed) ← files.locate path
  if parsed.directoryOnly then throw .isDirectory
  match files.node? location with
  | some .directory => throw .isDirectory
  | _ => return location

/-- The nodes with one location set; a new location goes to the end. -/
def setNode (location : Location) (node : FileNode)
    : List (Location × FileNode) → List (Location × FileNode)
  | [] => [(location, node)]
  | (other, old) :: rest =>
      if other = location then (other, node) :: rest
      else (other, old) :: setNode location node rest

/-- The tree with a file at a location. -/
def put (files : Files) (location : Location) (content : ByteArray) : Files :=
  { files with nodes := setNode location (.file content) files.nodes }

/-- The tree with a directory at a location, and with all the directories above it. -/
def putDirectory (files : Files) (location : Location) : Files :=
  (List.range location.length).foldl
    (fun files n =>
      let above := location.take (n + 1)
      if (files.node? above).isSome then files
      else { files with nodes := setNode above .directory files.nodes })
    files

/-- The tree with a file at a location, and with all the directories above it. -/
def place (files : Files) (location : Location) (content : ByteArray) : Files :=
  (files.putDirectory location.dropLast).put location content

/-- The tree of one directory, in which relative paths start. -/
def startingAt (here : Location) : Files :=
  ({ here } : Files).putDirectory here

/-- The location that a path means where every name in it stands for itself. -/
def locationOf (files : Files) (path : String) : Location :=
  let parsed := FilePath.ofString path
  files.startOf parsed ++ parsed.names

/-- The tree after more bytes were written to the end of a file. -/
def appendAt (files : Files) (location : Location) (content : ByteArray) : Files :=
  files.put location ((files.content? location).getD ByteArray.empty ++ content)

/-- The tree after a file was written where a path says. -/
def save (files : Files) (path : String) (content : ByteArray) : Except IoFault Files := do
  return files.put (← files.writable path) content

/-- The tree after more bytes were written to the end of the file that a path names. -/
def append (files : Files) (path : String) (content : ByteArray) : Except IoFault Files := do
  return files.appendAt (← files.writable path) content

/-- The tree without the node at a location. -/
def erase (files : Files) (location : Location) : Files :=
  { files with nodes := files.nodes.filter fun entry => entry.1 != location }

/-- All files below the directory in which relative paths start, with these paths. -/
def toList (files : Files) : List (String × ByteArray) :=
  files.nodes.filterMap fun (location, node) =>
    match node with
    | .file content =>
        if files.here.isPrefixOf location then
          some ("/".intercalate (location.drop files.here.length), content)
        else none
    | .directory => none

theorem lookup_setNode (location other : Location) (node : FileNode)
    (nodes : List (Location × FileNode))
    : (setNode location node nodes).lookup other
        = if location = other then some node else nodes.lookup other := by
  induction nodes with
  | nil =>
      by_cases h : location = other
      · simp [setNode, h]
      · have h' : ¬ other = location := fun e => h e.symm
        simp [setNode, List.lookup_cons, h, beq_eq_false_iff_ne.mpr h']
  | cons entry rest ih =>
      obtain ⟨name, old⟩ := entry
      by_cases hn : name = location
      · subst hn
        by_cases ho : name = other
        · simp [setNode, ho]
        · have ho' : ¬ other = name := fun e => ho e.symm
          simp [setNode, List.lookup_cons, ho, beq_eq_false_iff_ne.mpr ho']
      · by_cases ho : name = other
        · subst ho
          have hl : ¬ location = name := fun e => hn e.symm
          simp [setNode, hn, hl]
        · have ho' : ¬ other = name := fun e => ho e.symm
          simp [setNode, List.lookup_cons, hn, beq_eq_false_iff_ne.mpr ho', ih]

/-- Writing a file changes the content at its location only. -/
theorem content?_put (files : Files) {location : Location} (h : location ≠ [])
    (other : Location) (content : ByteArray)
    : (files.put location content).content? other
        = if location = other then some content else files.content? other := by
  simp only [content?, node?, put, lookup_setNode]
  by_cases hl : location = other
  · subst hl
    simp [h]
  · simp [hl]

end Files

end JoinLatency
