import Switchboard.Module

/-!
# Events

Everything an operation lets the outside see while it runs: text written to a stream, a log
record, or a trace entry of a host script. Log records are causes; their level, origin and
wording are functions of the cause.
-/

namespace Switchboard

/-! ## Log records -/

/-- How urgent a record is. -/
inductive Level where
  | debug
  | warning
  deriving DecidableEq

/-- The name of a level. -/
def Level.name : Level → Text
  | .debug => text "DEBUG"
  | .warning => text "WARNING"

/-- The part of the library that a record comes from. -/
inductive Origin where
  | engine
  | modules
  | exports
  | host
  deriving DecidableEq

/-- The name of an origin. -/
def Origin.name : Origin → Text
  | .engine => text "juli.runtime.executor"
  | .modules => text "juli.runtime.module"
  | .exports => text "juli.runtime.registry"
  | .host => text "juli.runtime.context"

/-- A log record. -/
inductive Notice where
  | diagnosed (diagnostic : Diagnostic)
  | skippedCall (module : Text)
  | unknownFunction (function : Text) (owner : Option Text)
  | published (name : Text) (replaced : Bool)
  | sourceWithoutModule
  | nothingToExport (name : Text)
  | pluginLoaded (name : Text)

namespace Notice

/-- Diagnostics are warnings, all else is for debugging. -/
def level : Notice → Level
  | .diagnosed _ => .warning
  | .unknownFunction _ _ => .warning
  | _ => .debug

/-- Where a record comes from. -/
def origin : Notice → Origin
  | .diagnosed _ => .engine
  | .skippedCall _ => .engine
  | .unknownFunction _ _ => .modules
  | .published _ _ => .exports
  | .sourceWithoutModule => .host
  | .nothingToExport _ => .host
  | .pluginLoaded _ => .host

/-- What a record says, behind the mark that all of them carry. -/
def content : Notice → Text
  | .diagnosed diagnostic => diagnostic.message
  | .skippedCall module => text "Skipping call to unknown module " ++ module.quoted
  | .unknownFunction function owner =>
      text "Unknown function: " ++ function ++
        match owner with
        | none => []
        | some [] => []
        | some owner => text " (module " ++ owner ++ text ")"
  | .published name false => text "Exported module " ++ name.quoted
  | .published name true => text "Re-exported module " ++ name.quoted
  | .sourceWithoutModule => text "jscript called with no current module"
  | .nothingToExport name =>
      text "Nothing to export as " ++ name.quoted ++ text ": no current module"
  | .pluginLoaded name => text "Loaded plugin " ++ name.quoted

/-- A record as it is logged. -/
def message (notice : Notice) : Text := text "[juli] " ++ notice.content

end Notice

/-! ## Results of steps -/

/-- The module a host works on: none, one the scripts know by a label, or another. -/
inductive CurrentModule where
  | none
  | labelled (label : Text)
  | unlabelled
  deriving DecidableEq

/-- What a step of a host script results in. -/
inductive StepResult where
  | nothing
  | flag (value : Bool)
  | count (number : Nat)
  | argument (content : Option Text)
  | names (names : List Text)
  | snapshot (view : SnapshotView)
  | published (view : SnapshotView) (same : Bool)
  | listing (entries : List (Text × SnapshotView))
  | ran (result : RunResult)
  | attempted (failure : Option Failure)
  | current (module : CurrentModule)

/-! ## Traces -/

/-- Something the outside sees. -/
inductive Event where
  | wrote (stream : Stream) (content : Text)
  | logged (notice : Notice)
  | traced (label : Text) (result : StepResult)

namespace Event

/-- Join neighbouring writes to one stream. -/
def joinWrites : List Event → List Event
  | [] => []
  | event :: rest =>
      match event, joinWrites rest with
      | .wrote stream content, .wrote next more :: joined =>
          if stream = next then .wrote stream (content ++ more) :: joined
          else .wrote stream content :: .wrote next more :: joined
      | event, joined => event :: joined

/-- The text that a stream received. -/
def written (stream : Stream) (events : List Event) : Text :=
  events.flatMap fun
    | .wrote target content => if target = stream then content else []
    | _ => []

end Event

end Switchboard
