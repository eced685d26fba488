import BluetoothDiscovery.Text.Split

/-!
# Trees of files

A `FileTree` holds the places of files and directories below some directory, its root. A place is
the row of names that leads to it from the root. `FileTree.find?` follows a path from a place. Of
what lies above the root nothing is known, and a path that leaves the tree finds nothing. Only where
the root is that of the whole file system a path can begin at the root, which is above itself.

`FileTree.addFile?` and `FileTree.addDirectory?` put something at the end of a path. Either is
refused where the path does not lead to a place that it can have.
-/

namespace BluetoothDiscovery

/-- Files and directories below a root, which is a directory itself. -/
structure FileTree where
  directories : List (List String) := []
  files : List (List String) := []
  /-- Whether the root is that of the whole file system. -/
  whole : Bool := false

namespace FileTree

def isDirectory (t : FileTree) (place : List String) : Bool :=
  place.isEmpty || t.directories.contains place

def isFile (t : FileTree) (place : List String) : Bool :=
  t.files.contains place

def isTaken (t : FileTree) (place : List String) : Bool :=
  t.isDirectory place || t.isFile place

/-- The directory above a directory. -/
def above? (t : FileTree) (place : List String) : Option (List String) :=
  if place.isEmpty ∧ !t.whole then none else some place.dropLast

/-- Whether a component of a path stays where it is. -/
def stays (name : String) : Bool :=
  name == "" || name == "."

/-! ### Following paths -/

/-- Follows the components of a path. Each is looked up in a directory: an empty one and a dot stay
there, and two dots lead to the directory above. -/
def follow? (t : FileTree) (place : List String) : List String → Option (List String)
  | [] => some place
  | name :: names =>
    if !t.isDirectory place then none
    else if stays name then t.follow? place names
    else if name = ".." then (t.above? place).bind fun place => t.follow? place names
    else
      let next := place ++ [name]
      if t.isTaken next then t.follow? next names else none

/-- The components of a path. -/
def components (path : String) : List String :=
  (Text.splitOn '/' path.toList).map String.ofList

/-- The greatest number of octets that a path may have. -/
def longestPath : Nat := 4095

/-- The place where a path begins: the root of the file system or a given place. -/
def beginning? (t : FileTree) (start : List String) (path : String) : Option (List String) :=
  if !path.startsWith "/" then some start else if t.whole then some [] else none

/-- The place that a path leads to, if something stands there. -/
def find? (t : FileTree) (start : List String) (path : String) : Option (List String) :=
  if longestPath < path.utf8ByteSize then none
  else (t.beginning? start path).bind fun place => t.follow? place (components path)

/-- The name of a place inside a directory, if it is there directly. -/
def nameIn? (directory place : List String) : Option String :=
  if place.dropLast = directory then place.getLast? else none

/-- The names in the directory that a path leads to, in ascending order. -/
def names? (t : FileTree) (start : List String) (path : String) : Option (List String) := do
  let place ← t.find? start path
  if t.isDirectory place then
    some (((t.directories ++ t.files).filterMap (nameIn? place)).mergeSort (· ≤ ·))
  else none

/-! ### Growing -/

/-- Whether something can be made that has a name: it has 255 octets at most, and none is zero. -/
def isName (name : String) : Bool :=
  !stays name && name != ".." && name.utf8ByteSize ≤ 255 && !name.toList.contains '\x00'

/-- The tree with a file at the end of a path. A file that stands there stays. -/
def addFile? (t : FileTree) (start : List String) (path : String) : Option FileTree := do
  let names := components path
  let directory ← t.follow? (← t.beginning? start path) names.dropLast
  let name ← names.getLast?
  let place := directory ++ [name]
  if !t.isDirectory directory ∨ !isName name ∨ t.isDirectory place then none
  else if t.isFile place then some t
  else some { t with files := t.files ++ [place] }

/-- The tree with a directory at the end of a row of components, and with all on the way to it. -/
def addDirectories? (t : FileTree) (place : List String) : List String → Option FileTree
  | [] => some t
  | name :: names =>
    if stays name then t.addDirectories? place names
    else if name = ".." then (t.above? place).bind fun place => t.addDirectories? place names
    else
      let next := place ++ [name]
      if t.isDirectory next then t.addDirectories? next names
      else if t.isFile next ∨ !isName name then none
      else { t with directories := t.directories ++ [next] }.addDirectories? next names

/-- The tree with a directory at the end of a path, and with all on the way to it. -/
def addDirectory? (t : FileTree) (start : List String) (path : String) : Option FileTree :=
  (t.beginning? start path).bind fun place => t.addDirectories? place (components path)

end FileTree

end BluetoothDiscovery
