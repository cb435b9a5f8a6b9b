import Switchboard.Host

/-!
# Plugins

A plugin is a dotted name that can be imported and registers modules with a host. Importing
`a.b.c` imports `a`, then `a.b`, then `a.b.c`, each at most once unless it fails. A plugin
that is imported becomes an attribute of the one above it, and as `register` it takes the
place of the registration there. An import that fails becomes a plugin error; every other
failure, and every failure of the registration itself, passes through.
-/

namespace Switchboard

/-- What a plugin offers for registration. -/
inductive Registration where
  | absent
  | notCallable
  | script (body : Body)
  | greeter

/-- A plugin: what its import does, what it offers, and whether other plugins may stand
below its name. -/
structure Plugin where
  onImport : Body := []
  registration : Registration := .absent
  package : Bool := false

/-- The plugins that can be imported. -/
structure Catalogue where
  declared : Pairs Plugin

namespace Catalogue

/-- The plugins that come with the library. -/
def bundled : Pairs Plugin :=
  [(text "examples", { package := true }),
    (text "examples.greeter", { registration := .greeter })]

/-- The plugin with a given name. -/
def find? (catalogue : Catalogue) (name : Text) : Option Plugin :=
  catalogue.declared.get? name <|> bundled.get? name

end Catalogue

/-- A dotted name and the names above it, the name itself first. -/
def ancestry (name : Text) : List Text :=
  let rec above (before : Text) : Text → List Text → List Text
    | [], found => before :: found
    | point :: rest, found =>
        above (before ++ [point]) rest (if point = Reference.dot then before :: found else found)
  above [] name []

/-- The attribute of a plugin that registers it. -/
def registrationName : Text := text "register"

/-- The label under which the scripts of a plugin find the host they register with. -/
def registeringHost : Text := text "$ctx"

namespace Op

/-- Whether a plugin is imported or being imported. -/
def isImported (name : Text) : Op Bool := do
  return match (← get).imports.get? name with
    | some .loading => true
    | some .loaded => true
    | some .shadowed => true
    | _ => false

/-- Record how far an import has come. -/
def setImport (name : Text) (state : ImportState) : Op Unit :=
  modify fun world => { world with imports := world.imports.put name state }

/-- Make an imported plugin an attribute of the one above it. Only one whose import is over
loses its registration, since an import ends by setting it. -/
def bindBelow (parent name : Text) : Op Unit := do
  if name = parent ++ [Reference.dot] ++ registrationName then
    match (← get).imports.get? parent with
    | some .loaded => setImport parent .shadowed
    | _ => pure ()

/-- Import one plugin whose names above are imported. A failed import leaves nothing behind,
so that it runs again the next time. -/
def importPlugin (catalogue : Catalogue) (run : Body → Op Unit) (name : Text)
    (parent : Option Text) : Op Unit := do
  match parent with
  | none => pure ()
  | some parent =>
      unless ((catalogue.find? parent).map Plugin.package).getD false do
        throw (.importFailed (.notPackage name parent))
  match catalogue.find? name with
  | none => throw (.importFailed (.missing name))
  | some plugin =>
      setImport name .loading
      tryCatch (run plugin.onImport) fun failure => do
        setImport name .failed
        throw failure
      setImport name .loaded
      match parent with
      | none => pure ()
      | some parent => bindBelow parent name

/-- Import a name after the names above it; `names` is the ancestry of the name. -/
def importAncestry (catalogue : Catalogue) (run : Body → Op Unit) :
    (names : List Text) → Op Unit
  | [] => return ()
  | name :: parents => do
      unless ← isImported name do
        importAncestry catalogue run parents
        unless ← isImported name do
          importPlugin catalogue run name parents.head?

/-- Import a dotted name. -/
def importName (catalogue : Catalogue) (run : Body → Op Unit) (name : Text) : Op Unit :=
  match name with
  | [] => throw .emptyModuleName
  | first :: _ =>
      if first = Reference.dot then throw (.relativeImport name)
      else importAncestry catalogue run (ancestry name)

/-- What an imported plugin offers. While it is being imported it offers nothing. -/
def registration (catalogue : Catalogue) (name : Text) : Op Registration := do
  match (← get).imports.get? name with
  | some .loading => return .absent
  | some .shadowed => return .notCallable
  | _ => return ((catalogue.find? name).map Plugin.registration).getD .absent

/-- The source attached by the bundled greeter. -/
def greeterSource : Text :=
  text "\nfn hello() \x7b\n    println(\"Hello from Julk\")\n\x7d\n"

/-- The registration of the bundled greeter: a module with a greeting and a banner. -/
def registerGreeter (host : HostRef) : Op Unit := do
  let greeter ← newModule { name := some (text "greeter") }
  build host greeter do
    define greeter (text "hello") (some (.say (text "Hello, world!")))
    define greeter (text "banner") (some (.attachScript greeter))
  attachSource host (return greeterSource)
  discard <| exportCurrent host (return ()) (text "Greeter")

/-- Register a plugin with a host. -/
def register (run : Body → Op Unit) (host : HostRef) (plugin : Text) : Registration → Op Unit
  | .absent => throw (.plugin ⟨plugin, text "has no register(context) function"⟩)
  | .notCallable => throw (.plugin ⟨plugin, text "has no register(context) function"⟩)
  | .greeter => registerGreeter host
  | .script body => do
      modify fun world =>
        { world with
          labels := { world.labels with hosts := world.labels.hosts.put registeringHost host } }
      run body

/-- Import a plugin and register it with a host. -/
def loadPlugin (catalogue : Catalogue) (run : Body → Op Unit) (host : HostRef) (name : Text) :
    Op Unit := do
  tryCatch (importName catalogue run name) fun failure =>
    if failure.isImportFailure then
      throw (.plugin ⟨name, text "cannot import (" ++ failure.message ++ text ")"⟩)
    else throw failure
  let offered ← registration catalogue name
  register run host name offered
  log (.pluginLoaded name)

end Op

end Switchboard
