import Switchboard.CommandLine

/-!
# The program

Reads the arguments and the files they name, and carries out the call. Everything that is
decided is decided by `CommandLine.execute`.
-/

namespace Switchboard

/-- What a path leads to on this machine. A path through a file cannot be opened and the error
names it; a directory can be opened but not read; an argument that the system does not take
is a path that is too long. -/
def probe (path : String) : IO (Except PathError Entry) := do
  try
    let octets ← IO.FS.readBinFile path
    return .ok (.file octets.toList)
  catch
    | .inappropriateType (some _) _ _ => return .error .notDirectory
    | .inappropriateType none _ _ => return .ok .directory
    | .invalidArgument _ _ _ => return .error .nameTooLong
    | _ => return .error .notFound

/-- The file system as far as the arguments name it, as typed and normalized. -/
def surveyed (arguments : List Text) : IO FileSystem := do
  let mut found : List (Text × Except PathError Entry) := []
  for path in arguments ++ arguments.map Path.normalize do
    found := (path, ← probe path.display) :: found
  let known := found
  return ⟨fun path => (List.lookup path known).getD (.error .notFound)⟩

/-- The status of the process: the low eight bits of a status. -/
def processStatus : Value → UInt32
  | .int code => (code % 256).toNat.toUInt32
  | .bool true => 1
  | _ => 0

end Switchboard

open Switchboard in
/-- Carry out a call from the command line. -/
def main (arguments : List String) : IO UInt32 := do
  let arguments := arguments.map text
  let files ← surveyed arguments
  let outcome := CommandLine.execute ⟨files, ⟨[]⟩⟩ arguments
  IO.print outcome.stdout.display
  IO.eprint (outcome.stderr ++ Text.escapeSurrogates outcome.farewell).display
  match outcome.failure with
  | none => pure ()
  | some failure => IO.eprintln failure.message.display
  return processStatus outcome.status
