import Switchboard.CommandLine.Arguments
import Switchboard.Text.ControlSequence

/-!
# Commands

The commands with their options, their usage lines and their help texts.
-/

namespace Switchboard.CommandLine

/-- The release of the library. -/
def version : Text := text "0.1.0"

/-- A command, or the group of all commands. -/
inductive Command where
  | group
  | run
  | inspect
  | version
  deriving DecidableEq

/-- An error as it is reported, without what only a terminal understands. -/
def errorLine (message : Text) : Text :=
  Text.ControlSequence.remove (text "Error: " ++ message) ++ [newline]

/-- The name of the argument that names a program. -/
def programOperand : Text := text "PROGRAM"

/-- The switch that asks for help. -/
def helpSpec : SwitchSpec := ⟨.help, none, [text "--help"], false⟩

/-- The switch that asks for JSON. -/
def jsonSpec : SwitchSpec := ⟨.json, some 'j', [text "--json-output", text "--json"], false⟩

namespace Command

/-- The commands of the group by name, in code point order. -/
def named : List (Text × Command) :=
  [(text "inspect", .inspect), (text "run", .run), (text "version", .version)]

/-- How a command is called. -/
def path : Command → Text
  | .group => text "juli"
  | .run => text "juli run"
  | .inspect => text "juli inspect"
  | .version => text "juli version"

/-- What follows the call of a command. -/
def pattern : Command → Text
  | .group => text "[OPTIONS] COMMAND [ARGS]..."
  | .run => text "[OPTIONS] PROGRAM"
  | .inspect => text "[OPTIONS] PROGRAM"
  | .version => text "[OPTIONS]"

/-- The options of a command. -/
def options : Command → List SwitchSpec
  | .group => [⟨.verbose, some 'v', [text "--verbose"], false⟩, helpSpec]
  | .run =>
      [⟨.plugin, some 'p', [text "--plugin"], true⟩,
        ⟨.reportUnknownModules, none, [text "--report-unknown-modules"], false⟩,
        jsonSpec, helpSpec]
  | .inspect => [jsonSpec, helpSpec]
  | .version => [helpSpec]

/-- Whether operands may stand between options. In the group the first operand is a command,
and the rest is for it to read. -/
def interspersed : Command → Bool
  | .group => false
  | _ => true

/-- The usage line. -/
def usage (command : Command) : Text :=
  text "Usage: " ++ command.path ++ text " " ++ command.pattern

/-- The help text below the usage line. -/
def details : Command → List Text
  | .group =>
      [text "  Juli CLI - Embeddable runtime for compiled Julk JSON.",
        [],
        text "Options:",
        text "  -v, --verbose  Show debug logging",
        text "  --help         Show this message and exit.",
        [],
        text "Commands:",
        text "  inspect  Show a summary of a compiled program.",
        text "  run      Execute a compiled Julk JSON program.",
        text "  version  Show version info."]
  | .run =>
      [text "  Execute a compiled Julk JSON program.",
        [],
        text "  The exit status is the code of the program's jexit instruction, or 0 when the",
        text "  program runs to its end.",
        [],
        text "Options:",
        text "  -p, --plugin TEXT          Dotted path of a module with register(context);",
        text "                             repeatable",
        text "  --report-unknown-modules   Report calls to modules that are not exported",
        text "  -j, --json-output, --json  Print the execution result as JSON",
        text "  --help                     Show this message and exit."]
  | .inspect =>
      [text "  Show a summary of a compiled program.",
        [],
        text "Options:",
        text "  -j, --json-output, --json  Output as JSON",
        text "  --help                     Show this message and exit."]
  | .version =>
      [text "  Show version info.",
        [],
        text "Options:",
        text "  --help  Show this message and exit."]

/-- The help text. -/
def help (command : Command) : Text :=
  (command.usage :: [] :: command.details).flatMap fun line => line ++ [newline]

/-- A usage fault as the command reports it. -/
def complaint (command : Command) (fault : UsageFault) : Text :=
  let preamble :=
    if fault.showsUsage then
      command.usage ++ text "\nTry '" ++ command.path ++ text " --help' for help.\n\n"
    else []
  preamble ++ errorLine fault.message

end Command

end Switchboard.CommandLine
