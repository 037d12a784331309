import ApiScaffold.Package.Source.Heading

/-!
# The root of a package

The description of the interface, and the modules of the package.
-/

namespace ApiScaffold.Package.Source

/-- The modules of a package. -/
def moduleNames : List String :=
  ["client", "controller", "inputs", "mock", "models", "outputs", "server"]

/-- The root of the package. -/
def library (plan : Plan) : Lines :=
  let description :=
    if plan.description.isEmpty then []
    else "//!" :: plan.description.map fun line => s!"//! {line}"
  s!"//! {plan.title} {plan.version}" :: description
    ++ ["//!", generatedMark, "//!",
      "//! Body models live in `models`, which is supplied by the model generator.",
      "//! They must implement `Debug`, `Clone`, `PartialEq`, `Serialize` and",
      "//! `Deserialize`.", ""]
    ++ moduleNames.map (fun name => s!"pub mod {name};")
    ++ ["", "pub use client::Client;", "pub use controller::Controller;",
      "pub use mock::MockController;", "pub use server::router;"]

end ApiScaffold.Package.Source
