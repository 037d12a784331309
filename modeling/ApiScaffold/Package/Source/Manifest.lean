import ApiScaffold.Package.Lines
import ApiScaffold.Package.Plan

/-!
# The manifest of a package

The name of the package, its description, and what it depends on.
-/

namespace ApiScaffold.Package.Source

open Text.Quoted (encode)

/-- The description of a package. -/
def packageDescription (plan : Plan) : String := "Client and server for " ++ plan.title

/-- A dependency with features. -/
def dependency (name version feature : String) : String :=
  s!"{name} = \x7b version = \"{version}\", features = [\"{feature}\"] \x7d"

/-- The manifest. -/
def manifest (plan : Plan) : Lines :=
  ["[package]",
    s!"name = \"{plan.package}\"",
    "version = \"0.1.0\"",
    "edition = \"2024\"",
    s!"description = {encode (packageDescription plan)}",
    "publish = false",
    "",
    "[dependencies]",
    s!"swaggen = \"{generatorVersion}\"",
    "async-trait = \"0.1\"",
    "axum = \"0.8\"",
    dependency "serde" "1.0" "derive",
    "serde_json = \"1.0\"",
    dependency "tokio" "1.45" "full",
    "tracing = \"0.1\""]

end ApiScaffold.Package.Source
