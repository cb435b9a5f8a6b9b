import Switchboard.FileSystem
import Switchboard.Text.Utf8

/-!
# File trees

A working directory with the files and directories below it. `Tree.resolve` walks a path
component by component, as an operating system does: a file has no components of its own,
the directory above is looked up where the walk stands, and a component that is too long is
refused where it would be looked up. A path that is too long as a whole is not walked at all.
-/

namespace Switchboard

/-- A component of a path as the operating system knows it. -/
abbrev Name := List UInt8

/-- The octets of a path. -/
def Path.octets (path : Text) : Name :=
  path.flatMap fun point =>
    if standsForOctet point then [(point.code - 0xDC00).toUInt8] else Text.Utf8.encodePoint point

/-- The files and directories below the working directory, by the names that lead to them. -/
structure Tree where
  files : List (List Name × List UInt8)
  directories : List (List Name)

/-- Where a walk stands. Nothing is known about the places outside the working directory
except that they are directories. -/
inductive Place where
  | file (octets : List UInt8)
  | directory (location : List Name)
  | outside

namespace Tree

/-- A tree of files and directories with these paths. -/
def ofListing (files : List (Text × List UInt8)) (directories : List Text) : Tree where
  files := files.map fun (path, octets) => ((Path.steps path).map Path.octets, octets)
  directories := directories.map fun path => (Path.steps path).map Path.octets

/-- Whether a location is a directory: it is listed, or it leads to something listed. -/
def isDirectory (tree : Tree) (location : List Name) : Bool :=
  tree.directories.any location.isPrefixOf ||
    tree.files.any fun file => file.1 ≠ location && location.isPrefixOf file.1

/-- What stands at a location. -/
def lookup (tree : Tree) (location : List Name) : Except PathError Place :=
  match tree.files.find? fun file => file.1 = location with
  | some (_, octets) => .ok (.file octets)
  | none =>
      if location.isEmpty || tree.isDirectory location then .ok (.directory location)
      else .error .notFound

/-- Go from a place to one of its components. -/
def enter (tree : Tree) (place : Place) (component : Text) : Except PathError Place :=
  let stays := component.isEmpty || component = Path.here
  match place with
  | .file _ => .error .notDirectory
  | .outside =>
      if stays || component = Path.above then .ok .outside
      else if Path.maxComponentOctets < (Path.octets component).length then .error .nameTooLong
      else .error .notFound
  | .directory location =>
      if stays then .ok place
      else if component = Path.above then
        .ok (if location.isEmpty then .outside else .directory location.dropLast)
      else if Path.maxComponentOctets < (Path.octets component).length then .error .nameTooLong
      else tree.lookup (location ++ [Path.octets component])

/-- Walk along components. -/
def walk (tree : Tree) : Place → List Text → Except PathError Place
  | place, [] => .ok place
  | place, component :: rest => do tree.walk (← tree.enter place component) rest

/-- What a path leads to. -/
def resolve (tree : Tree) (path : Text) : Except PathError Entry := do
  if Path.maxOctets < (Path.octets path).length then throw .nameTooLong
  match path with
  | [] => .error .notFound
  | first :: _ =>
      let start := if first = Path.slash then Place.outside else .directory []
      return match ← tree.walk start (Path.components path) with
        | .file octets => .file octets
        | .directory _ => .directory
        | .outside => .directory

/-- The tree as a file system. -/
def fileSystem (tree : Tree) : FileSystem := ⟨tree.resolve⟩

end Tree

end Switchboard
