import Switchboard.Json.Fault
import Switchboard.Run
import Switchboard.Text.Surrogate
import Switchboard.Text.Utf8

/-!
# Failures

Everything that ends an operation early, as causes. Most faults of a program are diagnostics
and never get here; what does is a program or plugin that cannot be loaded, an exit, an
error that host code raises, and misuse of the builder interface. The wording of every cause
is in `Failure.message`.
-/

namespace Switchboard

/-- The kinds of error that host code raises itself. -/
inductive FaultKind where
  | runtime
  | value
  | type
  | importing
  | operatingSystem
  | processExit
  deriving DecidableEq

/-- A program that could not be loaded, and where it came from. -/
structure LoadError where
  detail : Text
  source : Option Text := none
  deriving DecidableEq

/-- The detail behind the source, when there is one to name. -/
def LoadError.message (error : LoadError) : Text :=
  match error.source with
  | none => error.detail
  | some [] => error.detail
  | some source => source ++ text ": " ++ error.detail

/-- A plugin that could not be loaded. -/
structure PluginError where
  plugin : Text
  detail : Text
  deriving DecidableEq

/-- The detail behind the quoted name of the plugin. -/
def PluginError.message (error : PluginError) : Text :=
  text "Plugin " ++ error.plugin.quoted ++ text ": " ++ error.detail

/-- Why a dotted name could not be imported. -/
inductive ImportFault where
  | missing (name : Text)
  | notPackage (name parent : Text)
  deriving DecidableEq

/-- The reason in words. -/
def ImportFault.message : ImportFault → Text
  | .missing name => text "No module named " ++ name.quoted
  | .notPackage name parent =>
      text "No module named " ++ name.quoted ++ text "; " ++ parent.quoted ++
        text " is not a package"

/-- The cause of an early end. -/
inductive Failure where
  | general (message : Text)
  | load (error : LoadError)
  | plugin (error : PluginError)
  | exit (code : Value) (result : Option RunResult)
  | raised (kind : FaultKind) (message : Text)
  | undecodable (fault : Text.Utf8.Fault)
  | unencodable (run : Text.SurrogateRun)
  | oversizedInteger (digits : Nat)
  | nullInPath
  | notCallable
  | readOnlyField (field : Text)
  | readOnlyTable
  | importFailed (fault : ImportFault)
  | emptyModuleName
  | relativeImport (name : Text)
  | unknownState (name : Text)
  | rejected (rejection : Rejection)
  | unknownLabel (label : Text)
  | nestedTooDeeply

namespace Failure

/-- The failure in words. -/
def message : Failure → Text
  | .general message => message
  | .load error => error.message
  | .plugin error => error.message
  | .exit code _ => code.display
  | .raised _ message => message
  | .undecodable fault => fault.message
  | .unencodable run => run.message
  | .oversizedInteger digits =>
      text "Exceeds the limit (" ++ Decimal.ofNat Json.maxIntegerDigits ++
        text " digits) for integer string conversion: value has " ++ Decimal.ofNat digits ++
        text " digits; use sys.set_int_max_str_digits() to increase the limit"
  | .nullInPath => text "embedded null byte"
  | .notCallable => text "'NoneType' object is not callable"
  | .readOnlyField field => text "cannot assign to field " ++ field.quoted
  | .readOnlyTable => text "'mappingproxy' object does not support item assignment"
  | .importFailed fault => fault.message
  | .emptyModuleName => text "Empty module name"
  | .relativeImport name =>
      text "the 'package' argument is required to perform a relative import for " ++ name.quoted
  | .unknownState name => name.quoted ++ text " is not a valid ExecutorState"
  | .rejected rejection => rejection.message
  | .unknownLabel label => label.quoted
  | .nestedTooDeeply => text "maximum recursion depth exceeded"

/-- Whether the failure says that a module could not be imported. -/
def isImportFailure : Failure → Bool
  | .importFailed _ => true
  | .raised .importing _ => true
  | _ => false

/-- Whether the failure is one of this library's own error types. -/
def isLibraryError : Failure → Bool
  | .general _ => true
  | .load _ => true
  | .plugin _ => true
  | _ => false

/-- Whether the failure, left alone, ends the process without being reported as an error. -/
def endsProcess : Failure → Bool
  | .exit _ _ => true
  | .raised .processExit _ => true
  | _ => false

end Failure

end Switchboard
