import Switchboard.CommandLine.Command
import Switchboard.Json.Writer
import Switchboard.Session
import Switchboard.Summary

/-!
# The command line

`CommandLine.execute` takes the arguments of a call to what the call prints and the status it
ends with. The stages are: the arguments of the group, the arguments of the command, the
program file, the plugins in order, and the run itself; each stage is only reached when the
ones before it succeed.
-/

namespace Switchboard.CommandLine

/-! ## Requests -/

/-- What a call asks for, once its arguments are understood. -/
inductive Request where
  | help (command : Command)
  | version
  | run (program : Text) (plugins : List Text) (reportUnknownModules json : Bool)
  | inspect (program : Text) (json : Bool)

/-- How understanding the arguments can end otherwise: with no arguments at all, with a fault
reported by a command, or with a failure. -/
inductive Refusal where
  | noArguments
  | usage (command : Command) (fault : UsageFault)
  | failure (failure : Failure)

/-- A request and whether it is to be logged in full. -/
structure Call where
  request : Request
  verbose : Bool

/-- Read the arguments of a command. -/
def readFor (command : Command) (arguments : List Text) : Except Refusal Arguments :=
  match readArguments command.options command.interspersed arguments {} with
  | .ok read => .ok read
  | .error fault => .error (.usage command fault)

/-- The file that a command is given, and no further operands. The file must exist. -/
def programFile (files : FileSystem) (command : Command) (operands : List Text) :
    Except Refusal Text :=
  match operands with
  | [] => .error (.usage command (.missingOperand programOperand))
  | path :: extra =>
      match files.lookup path with
      | .error (.unencodable run) => .error (.failure (.unencodable run))
      | .error .null => .error (.failure .nullInPath)
      | .error (.refused _) => .error (.usage command (.missingFile programOperand path))
      | .ok (.file _) =>
          if extra.isEmpty then .ok path
          else .error (.usage command (.extraOperands extra))
      | .ok .directory => .error (.usage command (.fileIsDirectory programOperand path))

/-- Understand the arguments of a command. A request for help comes before everything else. -/
def requestOf (files : FileSystem) (command : Command) (arguments : List Text) :
    Except Refusal Request := do
  let read ← readFor command arguments
  if read.has .help then return .help command
  match command with
  | .group => .error (.usage .group .missingCommand)
  | .run =>
      let program ← programFile files command read.operands
      return .run program (read.values .plugin) (read.has .reportUnknownModules) (read.has .json)
  | .inspect =>
      let program ← programFile files command read.operands
      return .inspect program (read.has .json)
  | .version =>
      if read.operands.isEmpty then return .version
      else .error (.usage command (.extraOperands read.operands))

/-- Understand the arguments of a call. When the first operand is no command but looks like
an option, it is read as one once more, so that faults in it are reported. -/
def callOf (files : FileSystem) (arguments : List Text) : Except Refusal Call := do
  if arguments.isEmpty then .error .noArguments
  let read ← readFor .group arguments
  let verbose := read.has .verbose
  if read.has .help then return ⟨.help .group, verbose⟩
  match read.operands with
  | [] => .error (.usage .group .missingCommand)
  | name :: rest =>
      match Command.named.find? fun command => command.1 = name with
      | some (_, command) => return ⟨← requestOf files command rest, verbose⟩
      | none => do
          let again ← readFor .group read.operands
          if again.has .help then return ⟨.help .group, verbose⟩
          .error (.usage .group
            (.unknownCommand name (suggestions name (Command.named.map Prod.fst))))

/-! ## Carrying out requests -/

/-- How a request ends when nothing fails: it is done, or an error is reported. -/
inductive Ending where
  | done
  | reported (message : Text)

/-- Print a line to standard output, which takes no lone surrogates. -/
def printLine (line : Text) : Op Unit :=
  match line.surrogateRun? with
  | none => Op.printTo none line
  | some run => throw (.unencodable run)

/-- Print a document to standard output. Documents hold no lone surrogates. -/
def printDocument (value : Value) : Op Unit := Op.printTo none (Json.write value)

/-- Load plugins in order, up to the first that cannot be loaded. -/
def loadPlugins (around : Surroundings) (host : HostRef) : List Text → Op Ending
  | [] => return .done
  | plugin :: rest => do
      let ending ← tryCatch
        (do
          Op.loadPlugin around.plugins (Op.runBody around Op.maxDepth) host plugin
          return Ending.done)
        fun
          | .plugin error => return .reported error.message
          | failure => throw failure
      match ending with
      | .done => loadPlugins around host rest
      | .reported message => return .reported message

/-- Run a program for a host. In JSON mode the result is printed, also when the run ends at an
exit. -/
def runInstructions (around : Surroundings) (host : HostRef) (items : List Value) (json : Bool) :
    Op Ending := do
  let enter := Op.enterNative (Op.runBody around Op.maxDepth)
  let result ← tryCatch (Op.runProgram enter host (.ofValues items)) fun failure => do
    match failure with
    | .exit _ (some result) => if json then printDocument result.report.toValue
    | _ => pure ()
    throw failure
  if json then printDocument result.report.toValue
  return .done

/-- Load a program, then go on with it. A load error is reported. -/
def withProgram (around : Surroundings) (path : Text) (next : List Value → Op Ending) :
    Op Ending :=
  match Program.load around.files path with
  | .ok items => next items
  | .error (.load error) => return .reported error.message
  | .error failure => throw failure

/-- Carry out a request. -/
def carryOut (around : Surroundings) : Request → Op Ending
  | .help command => do
      Op.emit (.wrote .stdout command.help)
      return .done
  | .version => do
      Op.printTo none (text "Juli v" ++ version)
      return .done
  | .run path plugins reportUnknownModules json =>
      withProgram around path fun items => do
        let stream := if json then some Stream.stderr else none
        let host ← Op.newHost none ⟨reportUnknownModules, !json⟩ stream
        match ← loadPlugins around host plugins with
        | .reported message => return .reported message
        | .done => runInstructions around host items json
  | .inspect path json =>
      withProgram around path fun items => do
        let summary := Summary.ofProgram (.ofValues items)
        if json then printDocument summary.toValue
        else (summary.lines path).forM printLine
        return .done

/-! ## Outcomes -/

/-- What a call prints and how it ends. The status is a whole number or, when an exit asked
for one, a boolean. What an exit with any other code says is the `farewell`, which the process
writes to standard error behind everything else; `failure` is a failure that nobody handled. -/
structure Outcome where
  status : Value
  stdout : Text := []
  stderr : Text := []
  farewell : Text := []
  failure : Option Failure := none
  events : List Event := []

/-- The line of a log record. -/
def logLine (notice : Notice) : Text :=
  notice.level.name ++ text " " ++ notice.origin.name ++ text ": " ++ notice.message ++ [newline]

/-- What an event writes to standard error. Without `verbose` only warnings are logged. -/
def errorPart (verbose : Bool) : Event → Text
  | .wrote .stderr content => content
  | .logged notice => if verbose || notice.level = .warning then logLine notice else []
  | _ => []

/-- What goes to standard error: text written there, and log records. Lone surrogates appear
as escapes. -/
def errorText (verbose : Bool) (events : List Event) : Text :=
  Text.escapeSurrogates (events.flatMap (errorPart verbose))

/-- The status that an exit code stands for, and what is said for it: whole numbers and
booleans are their own status, no code is zero, and anything else is said. -/
def statusOf : Value → Value × Text
  | .int code => (.int code, [])
  | .bool code => (.bool code, [])
  | .null => (.int 0, [])
  | other => (.int 1, other.display ++ [newline])

/-- The outcome of carrying out a request. -/
def outcomeOf (verbose : Bool) (ended : Except Failure Ending × World) : Outcome :=
  let events := ended.2.trace
  let stdout := Event.written .stdout events
  let stderr := errorText verbose events
  match ended.1 with
  | .ok .done => { status := .int 0, stdout, stderr, events }
  | .ok (.reported message) =>
      { status := .int 1, stdout, stderr := stderr ++ errorLine message, events }
  | .error (.exit code _) =>
      let (status, farewell) := statusOf code
      { status, stdout, stderr, farewell, events }
  | .error (.raised .processExit message) =>
      let (status, farewell) := statusOf (.string message)
      { status, stdout, stderr, farewell, events }
  | .error failure => { status := .int 1, stdout, stderr, failure := some failure, events }

/-- Carry out a call with the given arguments. -/
def execute (around : Surroundings) (arguments : List Text) : Outcome :=
  match callOf around.files arguments with
  | .ok call => outcomeOf call.verbose ((carryOut around call.request).perform {})
  | .error .noArguments => { status := .int 2, stderr := Command.group.help }
  | .error (.usage command fault) => { status := .int 2, stderr := command.complaint fault }
  | .error (.failure failure) => { status := .int 1, failure := some failure }

end Switchboard.CommandLine
