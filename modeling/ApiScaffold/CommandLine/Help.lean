import ApiScaffold.CommandLine.Arguments
import ApiScaffold.Package.Lines

/-!
# Help of the command line

The texts that are printed where help is asked for.
-/

namespace ApiScaffold.CommandLine

/-- What the program is for. -/
def purpose : String :=
  "Generate typed Rust clients and servers from Swagger 2.0 specs, "
    ++ "with a resilient request pipeline"

/-- The help of a topic in lines. -/
def helpLines : Topic → Lines
  | .program =>
    [purpose, "",
      "Usage: swaggen [OPTIONS] <COMMAND>", "",
      "Commands:",
      "  generate  Generate a client/server package from a Swagger 2.0 document",
      "  check     Validate a Swagger document without writing anything",
      "  help      Print this message or the help of the given subcommand(s)", "",
      "Options:",
      "      --verbose  Log at debug level",
      "  -h, --help     Print help",
      "  -V, --version  Print version"]
  | .generate =>
    ["Generate a client/server package from a Swagger 2.0 document", "",
      "Usage: swaggen generate [OPTIONS] --spec <SPEC>", "",
      "Options:",
      "      --spec <SPEC>                  Path or URL to the Swagger document (JSON or YAML)",
      "      --verbose                      Log at debug level",
      "      --package <PACKAGE>            Package name for the generated crate",
      "      --output <OUTPUT>              Output directory, defaults to ./<package>",
      "      --service-name <SERVICE_NAME>  Service name used in request headers and spans",
      "      --config <CONFIG>              TOML configuration file",
      "  -h, --help                         Print help"]
  | .check =>
    ["Validate a Swagger document without writing anything", "",
      "Usage: swaggen check [OPTIONS] --spec <SPEC>", "",
      "Options:",
      "      --spec <SPEC>  Path or URL to the Swagger document (JSON or YAML)",
      "      --verbose      Log at debug level",
      "  -h, --help         Print help"]
  | .help =>
    ["Print this message or the help of the given subcommand(s)", "",
      "Usage: swaggen help [COMMAND]...", "",
      "Arguments:",
      "  [COMMAND]...  Print help for the subcommand(s)"]

/-- The help of a topic. -/
def helpText (topic : Topic) : String := Lines.text (helpLines topic)

end ApiScaffold.CommandLine
