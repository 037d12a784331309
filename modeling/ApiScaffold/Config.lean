import ApiScaffold.Package.ClientDefaults
import ApiScaffold.Toml.Reader

/-!
# Configuration

A configuration file says what to generate where nothing else says so, and with which settings
the generated client starts.

* `Config`: a configuration.
* `Config.ofToml?`: the configuration of a text.
-/

namespace ApiScaffold

open Json (Value)

/-- What to generate. -/
structure GeneratorConfig where
  package : Option String := none
  outputDir : Option String := none
  serviceName : Option String := none
  deriving DecidableEq, Repr

namespace GeneratorConfig

/-- The names of the settings. -/
def names : List String := ["package", "output_dir", "service_name"]

/-- The settings that a value gives. -/
def ofJson? (v : Value) : Option GeneratorConfig := do
  match ← Json.recordFields? names true v with
  | [package, outputDir, serviceName] =>
    return {
      package := ← Json.givenOr none Json.stringValue? package
      outputDir := ← Json.givenOr none Json.stringValue? outputDir
      serviceName := ← Json.givenOr none Json.stringValue? serviceName }
  | _ => none

end GeneratorConfig

/-- A configuration. -/
structure Config where
  generator : GeneratorConfig := {}
  client : ClientDefaults := {}
  deriving DecidableEq, Repr

namespace Config

/-- The configuration that a value gives. -/
def ofJson? (v : Value) : Option Config := do
  match ← Json.recordFields? ["generator", "client"] true v with
  | [generator, client] =>
    return {
      generator := ← Json.givenOr {} GeneratorConfig.ofJson? generator
      client := ← Json.givenOr {} (ClientDefaults.ofJson? true) client }
  | _ => none

/-- The configuration of a text. -/
def ofToml? (text : String) : Option Config := do
  ofJson? (.object (Toml.membersToJson (← Toml.readToml text)))

end Config

end ApiScaffold
