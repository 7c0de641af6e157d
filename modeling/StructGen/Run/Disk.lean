import StructGen.Run.Files
/-!
# Files on disk

What a directory holds after the files of a run were written to it, one after the other. The
directories of a path are made as they are needed, and a path that is written twice holds the text
that was written last. `..` in a path is the directory above, so that two paths can be one place. A
path that starts with a slash leads away from the directory, to the root.
-/
namespace StructGen

/-- A path as its segments. -/
abbrev Segments := List String

/-- Why a file cannot be written. -/
inductive WriteFault
  /-- The path is that of a directory. -/
  | directory
  /-- The directory of the path is a file. -/
  | file
  /-- A directory above that of the path is a file. -/
  | belowFile
  /-- A segment has more bytes than a name can have. -/
  | longName
deriving DecidableEq, Repr, Inhabited

namespace Segments

/-- The root as a segment, which no other segment is like. -/
def root : String :=
  "/"

/-- The segments of a path, without those that stand for the directory they are in. -/
def ofPath (path : String) : Segments :=
  (if path.toList.head? = some '/' then [root] else []) ++
    ((Text.runs (· == '/') path.toList).map String.ofList).filter (· != ".")

/-- Segments as a path. -/
def path (s : Segments) : String :=
  match s with
  | [] => ""
  | first :: rest =>
    if first = root then root ++ String.intercalate "/" rest else String.intercalate "/" s

/-- Goes one segment on from a place. Above the root is the root. -/
def step (place : Segments) (segment : String) : Segments :=
  if segment = ".." && !place.isEmpty && place.getLast? != some ".." then
    if place = [root] then place else place.dropLast
  else place ++ [segment]

/-- The place that segments lead to. -/
def place (s : Segments) : Segments :=
  s.foldl step []

/-- The segments are all upward, or the root. -/
def isAbove (s : Segments) : Bool :=
  s.all (· == "..") || s == [root]

end Segments

/-- The most bytes of a name. -/
def longestName : Nat := 255

/-- The contents of a directory, of those above it and of the root. -/
structure Disk where
  /-- The places of directories. -/
  directories : List Segments := []
  /-- The files by their places. -/
  files : List (Segments × String) := []
deriving DecidableEq, Repr, Inhabited

namespace Disk

/-- There is a directory at a place. -/
def isDirectory (d : Disk) (place : Segments) : Bool :=
  place.isAbove || d.directories.contains place

/-- Makes the directories of the remaining segments from a place on. -/
def enter (d : Disk) (place : Segments) : Segments → Except WriteFault Disk
  | [] => .ok d
  | segment :: rest =>
    let next := place.step segment
    if longestName < segment.utf8ByteSize then .error .longName
    else if (d.files.lookup next).isSome then .error (if rest.isEmpty then .file else .belowFile)
    else enter { d with directories := next :: d.directories } next rest

/-- Writes a file. -/
def write (d : Disk) (segments : Segments) (content : String) : Except WriteFault Disk := do
  let d ← d.enter [] segments.dropLast
  let place := segments.place
  if d.isDirectory place then throw .directory
  if (segments.getLast?.getD "").utf8ByteSize > longestName then throw .longName
  return { d with files := (place, content) :: d.files }

/-- The text of the file at a path. -/
def read (d : Disk) (segments : Segments) : String :=
  (d.files.lookup segments.place).getD ""

end Disk

/-- The paths that are written, each with the text that it holds in the end. -/
def written (files : List GeneratedFile) : Except WriteFault (List (String × String)) := do
  let disk ← files.foldlM (fun d f => d.write (Segments.ofPath f.path) f.content) ({} : Disk)
  return files.map fun f =>
    let segments := Segments.ofPath f.path
    (segments.path, disk.read segments)

end StructGen
