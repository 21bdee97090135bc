import MetaCatalog.Text.Diagnostic

/-!
# Files and directories

A `Disk` is what a file system is to the settings: it holds files and
directories in places, and a place is a list of names that leads there from
the root. A `Path` is a text that is followed part by part: a name goes down,
two dots go up, and a dot or nothing between two slashes stays. It can only go
through directories. A file or a directory can only be made in a place that is
free, or is one of its kind, and below directories alone. Names and paths have
a greatest length, and no path contains a zero character.
-/

namespace MetaCatalog

/-- The place of a file or a directory, with slashes between the names. -/
structure Path where
  text : String
  deriving DecidableEq, Inhabited

namespace Path

/-- The longest path, in bytes. -/
def longest : Nat := 4095

/-- The longest name, in bytes. -/
def longestName : Nat := 255

/-- Whether a path can be looked up at all. -/
def isUsable (path : Path) : Bool :=
  !path.text.toList.contains '\x00' && path.text.utf8ByteSize ≤ longest

/-- The parts of a path between its slashes. -/
def parts (path : Path) : List String :=
  (path.text.toList.splitOnP (· == '/')).map String.ofList

/-- Whether a part of a path stands for the directory before it. -/
def stays (part : String) : Bool := part == "" || part == "."

/-- The path of a file in a directory. A name that begins with a slash is a path of its own. -/
def within (directory : Path) (name : String) : Path :=
  if name.toList.head? = some '/' then ⟨name⟩ else ⟨directory.text ++ "/" ++ name⟩

/-- The path without its last name, and without what stands for no name around it. -/
def parent (path : Path) : Path :=
  let above := (path.parts.reverse.dropWhile stays).drop 1
  ⟨"/".intercalate (above.dropWhile stays).reverse⟩

/-- The path in a diagnostic. -/
def quoted (path : Path) : String := Text.quoted path.text

end Path

/-- What is found in a place. -/
inductive DiskEntry where
  | file (content : List UInt8)
  | directory
  deriving DecidableEq, Inhabited

/-- Files and directories under the names that lead to them. -/
structure Disk where
  entries : List (List String × DiskEntry) := []
  deriving Inhabited

namespace Disk

/-- What is found in a place. The place without a name is the root. -/
def at? (disk : Disk) (place : List String) : Option DiskEntry :=
  match place with
  | [] => some .directory
  | names => disk.entries.lookup names

/-- Puts something in a place, instead of what was there. -/
def put (disk : Disk) (place : List String) (entry : DiskEntry) : Disk :=
  ⟨(place, entry) :: disk.entries.filter (·.1 != place)⟩

/-! ## Following a path -/

/-- The place that parts of a path lead to from a directory. All that the path goes through must
be directories, and only the last name may be free. -/
def follow? (disk : Disk) (here : List String) : List String → Option (List String)
  | [] => some here
  | part :: rest =>
    if Path.stays part then disk.follow? here rest
    else if part = ".." then disk.follow? here.dropLast rest
    else if Path.longestName < part.utf8ByteSize then none
    else if rest.isEmpty then some (here ++ [part])
    else if disk.at? (here ++ [part]) = some .directory then disk.follow? (here ++ [part]) rest
    else none

/-- The place that a path leads to. -/
def place? (disk : Disk) (path : Path) : Option (List String) :=
  if path.isUsable then disk.follow? [] path.parts else none

/-- What is found under a path. -/
def entry? (disk : Disk) (path : Path) : Option DiskEntry := (disk.place? path).bind disk.at?

/-! ## Making files and directories -/

/-- Makes the directories that are missing along parts of a path, and says whether all are there
then. A dot at the end stands for a directory that is there before. -/
def makeAlong (disk : Disk) (here : List String) : List String → Bool × Disk
  | [] => (true, disk)
  | part :: rest =>
    if Path.stays part then disk.makeAlong here rest
    else if part = ".." then disk.makeAlong here.dropLast rest
    else if Path.longestName < part.utf8ByteSize then (false, disk)
    else
      match disk.at? (here ++ [part]) with
      | some .directory => disk.makeAlong (here ++ [part]) rest
      | some (.file _) => (false, disk)
      | none =>
        if rest.contains "." && rest.all Path.stays then (false, disk)
        else (disk.put (here ++ [part]) .directory).makeAlong (here ++ [part]) rest

/-- Makes a directory and those above it, and says whether it is there then. The directories made
before one that cannot be made stay. -/
def makeDirectory (disk : Disk) (path : Path) : Bool × Disk :=
  if path.isUsable then disk.makeAlong [] path.parts else (false, disk)

/-- Writes a file, unless a directory is there or the path leads nowhere. -/
def write? (disk : Disk) (path : Path) (content : List UInt8) : Option Disk :=
  match disk.place? path with
  | none => none
  | some place =>
    if disk.at? place = some .directory then none else some (disk.put place (.file content))

/-- Writes a file and makes the directories above it, as far as that is possible. -/
def writeBelow (disk : Disk) (path : Path) (content : List UInt8) : Disk :=
  let (_, disk) := disk.makeDirectory path.parent
  (disk.write? path content).getD disk

end Disk

end MetaCatalog
