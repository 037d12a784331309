import ApiScaffold.CommandLine.Help
import ApiScaffold.Task.Run

/-!
# Running a command line

* `CommandError`: why a command has failed; `CommandError.report` is the report of it.
* `Outcome`: what a command line prints, and the code that the program ends with.
* `runCommandLine`: runs a command line.
-/

namespace ApiScaffold.CommandLine

/-- Why a command has failed: what was attempted, and the reasons behind it. -/
structure CommandError where
  attempted : String
  causes : List String := []
  deriving DecidableEq, Repr

namespace CommandError

/-- A cause whose later lines stand below the beginning of the first. -/
def indentCause (start blank cause : String) : String :=
  start ++ ("\n" ++ blank).intercalate (Text.splitOn '\n' cause)

/-- The text of a cause; several causes are numbered. -/
def causeText (numbered : Bool) (n : Nat) (cause : String) : String :=
  if numbered then
    let digits := toString n
    indentCause (String.ofList (List.replicate (5 - digits.length) ' ') ++ digits ++ ": ")
      "       " cause
  else indentCause "    " "    " cause

/-- The report of an error. -/
def report (e : CommandError) : String :=
  let causes := e.causes.zipIdx.map fun (cause, n) => causeText (1 < e.causes.length) n cause
  let reasons := if causes.isEmpty then [] else "" :: "Caused by:" :: causes
  Lines.text (("Error: " ++ e.attempted) :: reasons)

/-- The error of a task that was attempted. -/
def ofTask (attempted : String) (e : TaskError) : CommandError := { attempted, causes := e.causes }

end CommandError

/-- What a command line prints, and the code that the program ends with. -/
structure Outcome where
  code : Nat
  output : String := ""
  /-- The report of a failure. -/
  report : Option String := none
  deriving DecidableEq, Repr

variable {m : Type → Type} [Monad m]

/-- A step of a command. -/
def step {ε α : Type} (wrap : ε → TaskError) (attempted : String) (s : m (Except ε α)) :
    ExceptT CommandError m α :=
  ExceptT.mk do return (← s).mapError fun e => .ofTask attempted (wrap e)

/-- The request that arguments and a configuration come to; arguments count for more. -/
def requestOf (arguments : GenerateArguments) (config : Config) :
    Except CommandError GenerateRequest :=
  match arguments.package.or config.generator.package with
  | some package =>
    .ok {
      package
      source := arguments.source
      serviceName := arguments.serviceName.or config.generator.serviceName
      client := config.client
      outputDir := (arguments.output.or config.generator.outputDir).getD package }
  | none =>
    .error { attempted := "A package name is required (--package or [generator].package)" }

/-- Runs `generate`; the result is what it prints. -/
def runGenerateCommand (access : Access m) (arguments : GenerateArguments) :
    ExceptT CommandError m String := do
  let config ←
    match arguments.config with
    | some path => step .config "Failed to load configuration" (loadConfig access path)
    | none => pure {}
  let request ← ExceptT.mk (pure (requestOf arguments config))
  let r ← step id "Generation failed" (runGenerate access request).run
  return Lines.text
    [s!"Generated {r.operations} operations into {r.outputDir} ({r.artifacts} files, {r.written} changed)",
      s!"fingerprint: {r.fingerprint}"]

/-- Runs `check`; the result is what it prints. -/
def runCheckCommand (access : Access m) (source : String) : ExceptT CommandError m String := do
  let r ← step id "Check failed" (runCheck access source).run
  return Lines.text
    (s!"{r.title}: {r.operations.length} operations, {r.models} models"
      :: r.operations.map fun name => "  " ++ name)

/-- Runs a command. -/
def runCommand (access : Access m) : Command → ExceptT CommandError m String
  | .generate arguments => runGenerateCommand access arguments
  | .check source => runCheckCommand access source

/-- Runs a command line. -/
def runCommandLine (access : Access m) (arguments : List String) : m Outcome := do
  match Invocation.ofArguments arguments with
  | .misuse => return { code := 2 }
  | .help topic => return { code := 0, output := helpText topic }
  | .version => return { code := 0, output := s!"swaggen {generatorVersion}\n" }
  | .run command =>
    match ← (runCommand access command).run with
    | .ok output => return { code := 0, output }
    | .error e => return { code := 1, report := some e.report }

end ApiScaffold.CommandLine
