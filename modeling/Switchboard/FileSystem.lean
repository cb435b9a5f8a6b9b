import Switchboard.Text.Quoted
import Switchboard.Text.Surrogate

/-!
# Files and paths

Programs are read from files. A `FileSystem` is all the library needs to know of the outside:
what every path leads to. `Path.normalize` is the shorter spelling of a path under which a
program is opened and named in messages. Not every text is a path: the operating system is only
asked for one that is `Path.Passable`.
-/

namespace Switchboard

namespace Path

/-- The separator of components. -/
def slash : CodePoint := .scalar '/'

/-- The components of a path. There is one more than there are slashes, and some may be
empty. -/
def components : Text → List Text
  | [] => [[]]
  | point :: rest =>
      if point = slash then [] :: components rest
      else
        match components rest with
        | [] => [[point]]
        | first :: others => (point :: first) :: others

/-- The component for the directory itself. -/
def here : Text := text "."

/-- The component for the directory above. -/
def above : Text := text ".."

/-- The components that lead somewhere else. -/
def steps (path : Text) : List Text :=
  (components path).filter fun component => !component.isEmpty && component ≠ here

/-- The root at the beginning of a path: two slashes are kept, any other number is one. -/
def root (path : Text) : Text :=
  match (path.takeWhile (· = slash)).length with
  | 0 => []
  | 2 => [slash, slash]
  | _ => [slash]

/-- The path without empty components and references to the directory itself. -/
def normalize (path : Text) : Text :=
  let normal := root path ++ Text.join [slash] (steps path)
  if normal.isEmpty then here else normal

/-- The null, which would end a path. -/
def null : CodePoint := .scalar '\x00'

/-- Whether a point stands for an octet that is no text. An octet from 0x80 in the name of a file
is a surrogate from U+DC80 in a path. -/
def standsForOctet (point : CodePoint) : Bool := 0xDC80 ≤ point.code && point.code ≤ 0xDCFF

/-- Whether there are no octets for a point: it is a surrogate and stands for no octet. -/
def lacksOctets (point : CodePoint) : Bool := point.isSurrogate && !standsForOctet point

/-- A text that can be passed to the operating system as a path. -/
def Passable (path : Text) : Prop := ∀ point ∈ path, point ≠ null ∧ lacksOctets point = false

instance : DecidablePred Passable := fun path =>
  inferInstanceAs (Decidable (∀ point ∈ path, point ≠ null ∧ lacksOctets point = false))

/-- The most octets that a component may have. -/
def maxComponentOctets : Nat := 255

/-- The most octets that a whole path may have. -/
def maxOctets : Nat := 4095

end Path

/-- Why the operating system refuses a path. -/
inductive PathError where
  | notFound
  | notDirectory
  | isDirectory
  | nameTooLong
  deriving DecidableEq

/-- The refusal in words, with its number and the quoted path. -/
def PathError.message (path : Text) : PathError → Text
  | .notFound => text "[Errno 2] No such file or directory: " ++ path.quoted
  | .notDirectory => text "[Errno 20] Not a directory: " ++ path.quoted
  | .isDirectory => text "[Errno 21] Is a directory: " ++ path.quoted
  | .nameTooLong => text "[Errno 36] File name too long: " ++ path.quoted

/-- What a path leads to. -/
inductive Entry where
  | file (octets : List UInt8)
  | directory

/-- The files that can be reached, by path. -/
structure FileSystem where
  resolve : Text → Except PathError Entry

/-- Why nothing is found under a path: there are no octets for it, it has a null, or the operating
system refuses it. -/
inductive LookupFault where
  | unencodable (run : Text.SurrogateRun)
  | null
  | refused (error : PathError)

namespace FileSystem

/-- What a text leads to as a path. The operating system is asked last. -/
def lookup (system : FileSystem) (path : Text) : Except LookupFault Entry :=
  match path.firstRun? Path.lacksOctets with
  | some run => .error (.unencodable run)
  | none =>
      if Path.null ∈ path then .error .null
      else
        match system.resolve path with
        | .error error => .error (.refused error)
        | .ok entry => .ok entry

/-- The octets of the file that a path leads to. -/
def readFile (system : FileSystem) (path : Text) : Except LookupFault (List UInt8) :=
  match system.lookup path with
  | .error fault => .error fault
  | .ok (.file octets) => .ok octets
  | .ok .directory => .error (.refused .isDirectory)

/-- A text that can be passed is looked up by the operating system. -/
theorem lookup_of_passable {system : FileSystem} {path : Text} (passable : Path.Passable path) :
    system.lookup path =
      match system.resolve path with
      | .error error => .error (.refused error)
      | .ok entry => .ok entry := by
  have encodable : Text.firstRun? Path.lacksOctets path = none :=
    Text.firstRun?_eq_none_iff.mpr fun point member => (passable point member).2
  have plain : Path.null ∉ path := fun member => (passable _ member).1 rfl
  rw [lookup, encodable]
  exact if_neg plain

end FileSystem

end Switchboard
