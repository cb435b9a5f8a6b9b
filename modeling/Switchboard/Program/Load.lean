import Switchboard.Failure
import Switchboard.FileSystem
import Switchboard.Json.Reader
import Switchboard.Text.Newline

/-!
# Loading programs

A program file is UTF-8 text that holds one JSON array. A file that cannot be opened, text
that is not JSON and JSON that is no array are load errors under the normalized path; a text that
is no path, octets that are not UTF-8 and oversized numbers are failures of their own.
-/

namespace Switchboard.Program

/-- Why a document is no program. -/
inductive LoadFault where
  | unreadable (path : Text) (error : PathError)
  | invalidJson (complaint : Json.Complaint) (position : Json.Position)
  | notArray (kind : Text)

/-- The reason in words. -/
def LoadFault.message : LoadFault → Text
  | .unreadable path error => error.message path
  | .invalidJson complaint position =>
      text "invalid JSON - " ++ complaint.message ++ text ": " ++ position.message
  | .notArray kind => text "program must be a JSON array of instructions, got " ++ kind

/-- A load error about a document from `source`. -/
def loadFailure (source : Option Text) (fault : LoadFault) : Failure :=
  .load ⟨fault.message, source⟩

/-- The items of a value that is a program. They are not examined. -/
def ofValue (value : Value) (source : Option Text) : Except Failure (List Value) :=
  match value with
  | .array items => .ok items
  | other => .error (loadFailure source (.notArray other.kindName))

/-- The failure for a fault in a document. -/
def readFailure (source : Option Text) (document : Text) : Json.Fault → Failure
  | .malformed complaint rest =>
      loadFailure source (.invalidJson complaint (.locate document rest))
  | .oversizedInteger digits => .oversizedInteger digits

/-- The items of a program document. -/
def ofDocument (document : Text) (source : Option Text) : Except Failure (List Value) :=
  match Json.read document with
  | .error fault => .error (readFailure source document fault)
  | .ok value => ofValue value source

/-- The items of a program in octets. -/
def ofOctets (octets : List UInt8) (source : Option Text) : Except Failure (List Value) :=
  match Text.Utf8.decode octets with
  | .error fault => .error (.undecodable fault)
  | .ok content => ofDocument content.foldNewlines source

/-- The failure of a program whose file is not read. Only a refusal of the operating system is a
load error. -/
def lookupFailure (path : Text) : LookupFault → Failure
  | .unencodable run => .unencodable run
  | .null => .nullInPath
  | .refused error => loadFailure (some path) (.unreadable path error)

/-- Load the program that a path names. -/
def load (system : FileSystem) (path : Text) : Except Failure (List Value) :=
  let normal := Path.normalize path
  match system.readFile normal with
  | .error fault => .error (lookupFailure normal fault)
  | .ok octets => ofOctets octets (some normal)

end Switchboard.Program
