import ApiScaffold.Document.Source
import ApiScaffold.Files.Tree

/-!
# Errors of tasks

* `RequestError`: what is wrong with a request.
* `OutputFault`: why something was not written.
* `ConfigFault`: why there is no configuration.
* `TaskError`: any of these, or an error of the generation.
* `TaskError.causes`: the wordings from the outermost to the innermost.
-/

namespace ApiScaffold

/-- What is wrong with a request. -/
inductive RequestError
  | emptyPackageName
  | invalidPackageName (name : String)
  | missingField (name : String)
  | invalidConfiguration (text : String)
  deriving DecidableEq, Repr

def RequestError.message : RequestError → String
  | emptyPackageName => "Package name cannot be empty"
  | invalidPackageName name => s!"Invalid package name: {name}"
  | missingField name => s!"Missing required field: {name}"
  | invalidConfiguration text => s!"Invalid configuration: {text}"

/-- Why something was not written. -/
structure OutputFault where
  /-- What was to be done. -/
  action : String
  path : String
  fault : FileFault
  deriving DecidableEq, Repr

def OutputFault.message (f : OutputFault) : String :=
  s!"Failed to {f.action} {f.path}: {f.fault.message}"

/-- Why there is no configuration. -/
inductive ConfigFault
  | unreadable (path : String) (fault : FileFault)
  | malformed
  deriving DecidableEq, Repr

def ConfigFault.message : ConfigFault → String
  | unreadable path fault => s!"Failed to read {path}: {fault.message}"
  | malformed => "malformed configuration"

/-- Why a task has failed. -/
inductive TaskError
  | generation (error : GenerationError)
  | request (error : RequestError)
  | output (fault : OutputFault)
  | config (fault : ConfigFault)
  deriving DecidableEq, Repr

namespace TaskError

def message : TaskError → String
  | generation e => s!"Generation error: {e.message}"
  | request e => s!"Validation error: {e.message}"
  | output f => s!"Output error: {f.message}"
  | config f => s!"Configuration error: {f.message}"

/-- The wordings of an error and of the errors behind it. -/
def causes (e : TaskError) : List String :=
  e.message ::
    match e with
    | generation (.json failure) => [(GenerationError.json failure).message, failure.message]
    | generation inner => [inner.message]
    | request inner => [inner.message]
    | output _ => []
    | config _ => []

end TaskError

end ApiScaffold
