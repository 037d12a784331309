import ApiScaffold.Digest.Sha256
import ApiScaffold.Document.Source
import ApiScaffold.Operation.Walk
import ApiScaffold.Package.Source.Client
import ApiScaffold.Package.Source.Controller
import ApiScaffold.Package.Source.Inputs
import ApiScaffold.Package.Source.Library
import ApiScaffold.Package.Source.Manifest
import ApiScaffold.Package.Source.Mock
import ApiScaffold.Package.Source.Outputs
import ApiScaffold.Package.Source.Server

/-!
# Generating a package

A document is compiled, and the files of the package are written from the plan.

* `compileDocument`: the code of the operations of a document.
* `generate`: the files of a package, in ascending order of their paths.
* `check`: what a document holds, without the files.
* `fingerprint`: a digest of the files.
-/

namespace ApiScaffold

/-- A file of a package. -/
structure Artifact where
  path : String
  content : String
  /-- The permission bits that the file is to have. -/
  permissions : Option Nat := none
  deriving DecidableEq, Repr

/-- What writes some of the files of a package, or says why it cannot. -/
abbrev Emitter := Plan → Except GenerationError (List Artifact)

/-- An emitter of one file. -/
def emitFile (path : String) (write : Plan → Lines) (plan : Plan) : Artifact :=
  { path, content := (write plan).text }

/-- The manifest, the root, the inputs and the outputs. -/
def packageEmitter : Emitter := fun plan => .ok
  [emitFile "Cargo.toml" Package.Source.manifest plan,
    emitFile "src/lib.rs" Package.Source.library plan,
    emitFile "src/inputs.rs" Package.Source.inputs plan,
    emitFile "src/outputs.rs" Package.Source.outputs plan]

/-- The client. -/
def clientEmitter : Emitter := fun plan => .ok
  [emitFile "src/client.rs" Package.Source.client plan]

/-- The controller, the server and the test double. -/
def serverEmitter : Emitter := fun plan => .ok
  [emitFile "src/controller.rs" Package.Source.controller plan,
    emitFile "src/server.rs" Package.Source.server plan,
    emitFile "src/mock.rs" Package.Source.mock plan]

/-- The emitters of a whole package. -/
def emitters : List Emitter := [packageEmitter, clientEmitter, serverEmitter]

/-- The code of the operations of a document, which may refer to the document's models. -/
def compileDocument (document : Document) : Except DocumentError (List Code.OperationCode) := do
  let types : TypeMap := { models := some document.definitions }
  Code.compileAll types (← Walk.operations types document)

/-- The bytes that a fingerprint is taken of: every path and every content, each ended by a
zero. -/
def fingerprintBytes (artifacts : List Artifact) : List UInt8 :=
  artifacts.flatMap fun a => Text.utf8 a.path ++ 0 :: Text.utf8 a.content ++ [0]

/-- A digest of the paths and the contents of files. -/
def fingerprint (artifacts : List Artifact) : String :=
  Digest.Sha256.hexDigest (fingerprintBytes artifacts)

/-- A generated package. -/
structure GeneratedPackage where
  /-- In ascending order of their paths. -/
  artifacts : List Artifact
  /-- How many operations the package has. -/
  operations : Nat
  deriving DecidableEq, Repr

def GeneratedPackage.fingerprint (g : GeneratedPackage) : String :=
  ApiScaffold.fingerprint g.artifacts

/-- The files that some emitters write, if no two have the same path. -/
def emitAll (emitters : List Emitter) (plan : Plan) : Except GenerationError (List Artifact) := do
  let emitted ← emitters.mapM (· plan)
  let artifacts := emitted.flatten.mergeSort fun a b => decide (a.path ≤ b.path)
  if (artifacts.map (·.path)).Nodup then return artifacts else throw .render

/-- Generates a package from a document, if it could be loaded. -/
def generate (emitters : List Emitter) (request : PackageRequest)
    (loaded : Except GenerationError Document) : Except GenerationError GeneratedPackage := do
  unless Naming.isPackageName request.package do
    throw (.configuration s!"'{request.package}' is not a valid package name")
  let document ← loaded
  let operations ← (compileDocument document).mapError .document
  let artifacts ← emitAll emitters (Plan.of request document operations)
  return { artifacts, operations := operations.length }

/-- What a document holds. -/
structure CheckReport where
  title : String
  /-- The names of the operations. -/
  operations : List String
  /-- How many models there are. -/
  models : Nat
  deriving DecidableEq, Repr

/-- Checks a document, if it could be loaded. -/
def check (loaded : Except GenerationError Document) : Except GenerationError CheckReport := do
  let document ← loaded
  let operations ← (compileDocument document).mapError .document
  return {
    title := document.title
    operations := operations.map (·.id)
    models := document.definitions.length }

end ApiScaffold
