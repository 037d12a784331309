import ApiScaffold.Task.Load
import ApiScaffold.Task.Request
import ApiScaffold.Task.Write

/-!
# Tasks

* `runGenerate`: generates a package and writes it; nothing is written unless all of it could be
  generated.
* `runCheck`: checks a document.
-/

namespace ApiScaffold

/-- What a generated and written package comes to. -/
structure GenerateReport where
  artifacts : Nat
  /-- How many files have changed. -/
  written : Nat
  operations : Nat
  outputDir : String
  fingerprint : String
  deriving DecidableEq, Repr

variable {m : Type → Type} [Monad m]

/-- A step whose fault is an error of the task. -/
def asTask {ε α : Type} (wrap : ε → TaskError) (step : ExceptT ε m α) : ExceptT TaskError m α :=
  ExceptT.mk do return (← step.run).mapError wrap

/-- Generates a package and writes it. -/
def runGenerate (access : Access m) (request : GenerateRequest)
    (emitters : List Emitter := ApiScaffold.emitters) : ExceptT TaskError m GenerateReport := do
  asTask .request (ExceptT.mk (pure request.validate))
  let loaded ← ExceptT.lift (load access request.source)
  let package ←
    asTask .generation (ExceptT.mk (pure (generate emitters request.toPackageRequest loaded)))
  let written ← asTask .output (writePackage access request.outputDir package.artifacts)
  return {
    written
    artifacts := package.artifacts.length
    operations := package.operations
    outputDir := request.outputDir
    fingerprint := package.fingerprint }

/-- Checks a document. -/
def runCheck (access : Access m) (source : String) : ExceptT TaskError m CheckReport := do
  asTask .request (ExceptT.mk (pure (validateSource source)))
  let loaded ← ExceptT.lift (load access source)
  asTask .generation (ExceptT.mk (pure (check loaded)))

end ApiScaffold
