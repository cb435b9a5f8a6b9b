import Switchboard.Failure

/-!
# Host scripts

A host embeds the engine: it builds modules, exports them, runs programs and supplies the
functions that programs call. `Step` is the vocabulary of everything a host can do, and a
`Body` is what one of its functions, callbacks or plugins does when it is entered. Hosts
refer to what they created by labels of their own choosing.
-/

namespace Switchboard

/-- Where printed text goes. -/
inductive Stream where
  | stdout
  | stderr
  | named (name : Text)
  deriving DecidableEq

/-- What a run reports beyond its result. -/
structure Reporting where
  unknownModules : Bool := false
  exitNotice : Bool := true
  deriving DecidableEq

/-- Where a program to run comes from: given values, or a file. -/
inductive ProgramSource where
  | values (items : List Value)
  | file (path : Text)

/-- An export table, by its own label or by the label of a host that uses it. -/
inductive ExportsLabel where
  | exports (label : Text)
  | ofHost (label : Text)

/-- What is exported: a module under construction or a finished snapshot. -/
inductive ExportLabel where
  | module (label : Text)
  | snapshot (label : Text)

/-- One step of a host. Steps inside a body may carry a tag, under which their result is
traced. A function body that is absent stands for an entry without a function. -/
inductive Step where
  | note (label : Text)
  | print (content : Text)
  | raise (kind : FaultKind) (message : Text)
  | attempt (body : List (Option Text × Step))
  | newModule (label : Text) (name : Option Text) (script : Text) (echo : Bool)
      (stream : Option Stream)
  | define (module function : Text) (body : Option (List (Option Text × Step)))
  | decorate (module function : Text) (body : Option (List (Option Text × Step)))
  | setScript (module script : Text)
  | setEcho (module : Text) (echo : Bool)
  | attach (module code : Text) (stream : Option Stream)
  | attachScript (module : Text)
  | invoke (module function : Text)
  | compareModules (first second : Text)
  | takeSnapshot (module label : Text)
  | newSnapshot (label : Text) (name : Option Text) (script : Text)
  | invokeSnapshot (snapshot function : Text)
  | hasFunction (snapshot function : Text)
  | viewSnapshot (snapshot : Text)
  | compareSnapshots (first second : Text)
  | sameSnapshot (first second : Text)
  | assignField (snapshot field : Text)
  | assignFunction (snapshot function : Text)
  | newExports (label : Text)
  | labelExports (host label : Text)
  | sameExports (host exports : Text)
  | publish (exports : ExportsLabel) (name : Text) (source : ExportLabel)
  | lookup (exports : ExportsLabel) (name : Text) (label : Option Text)
  | listNames (exports : ExportsLabel)
  | countNames (exports : ExportsLabel)
  | containsName (exports : ExportsLabel) (name : Text)
  | listExports (exports : ExportsLabel)
  | newHost (label : Text) (exports : Option Text) (reporting : Reporting)
      (stream : Option Stream)
  | setReporting (host : Text) (reporting : Reporting)
  | adopt (host module : Text)
  | build (host module : Text) (body : Option (List (Option Text × Step)))
  | attachSource (host source : Text) (body : List (Option Text × Step))
  | exportCurrent (host : Text) (body : Option (List (Option Text × Step))) (name : Text)
      (label : Option Text)
  | importExport (host name : Text) (label : Option Text)
  | call (host module function : Text)
  | exit (host : Text) (code : Value)
  | run (host : Text) (program : ProgramSource) (modelled : Bool)
  | execute (exports : ExportsLabel) (reporting : Reporting) (stream : Option Stream)
      (program : ProgramSource) (modelled : Bool)
  | loadPlugin (host name : Text)
  | current (host : Text)

/-- What a function, callback or plugin does: its steps, each with an optional tag. -/
abbrev Body := List (Option Text × Step)

end Switchboard
