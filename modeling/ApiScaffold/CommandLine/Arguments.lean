import ApiScaffold.Text.Blank

/-!
# Arguments of the command line

The first argument that is no option names a command; options follow it.  An option takes a
value, behind an equals sign or as the next argument, and is given at most once.  Arguments are
understood from left to right, so the first request for help and the first mistake win.

* `GenerateArguments`, `Command`: what can be asked for.
* `Invocation`: what a command line comes to.
* `Invocation.ofArguments`: the reading of a command line.
-/

namespace ApiScaffold.CommandLine

/-- The arguments of `generate`. -/
structure GenerateArguments where
  source : String
  package : Option String
  output : Option String
  serviceName : Option String
  config : Option String
  deriving DecidableEq, Repr

/-- What can be asked for. -/
inductive Command
  | generate (arguments : GenerateArguments)
  | check (source : String)
  deriving DecidableEq, Repr

/-- What help is about. -/
inductive Topic
  | program
  | generate
  | check
  | help
  deriving DecidableEq, Repr

/-- What a command line comes to. -/
inductive Invocation
  | run (command : Command)
  | help (topic : Topic)
  | version
  | misuse
  deriving DecidableEq, Repr

/-- One argument, by its form. -/
inductive Argument
  /-- Two hyphens alone. -/
  | endOfOptions
  | long (name : String) (value : Option String)
  | short (letters : List Char)
  | plain (text : String)
  deriving DecidableEq, Repr

/-- The form of an argument. -/
def Argument.of (text : String) : Argument :=
  match text.toList with
  | ['-', '-'] => .endOfOptions
  | '-' :: '-' :: rest =>
    match rest.dropWhile (· != '=') with
    | [] => .long (String.ofList rest) none
    | _ :: value => .long (String.ofList (rest.takeWhile (· != '='))) (some (String.ofList value))
  | '-' :: c :: rest => .short (c :: rest)
  | _ => .plain text

/-- Whether an argument can be the value of an option in front of it. -/
def canBeValue (text : String) : Bool := Argument.of text matches .plain _

/-- An option of a command. -/
structure OptionRule where
  name : String
  /-- Whether an empty value is refused. -/
  nonempty : Bool := false

/-- The options of a command and the values given so far. -/
abbrev Given := List (String × String)

/-- Takes the value of an option, unless it has one or may not have this one. -/
def take (rule : OptionRule) (value : String) (given : Given) : Option Given :=
  if (given.lookup rule.name).isSome || (rule.nonempty && value.isEmpty) then none
  else some ((rule.name, value) :: given)

/-- Reads the options of a command; `verbose` says whether that flag was given. -/
def readOptions (topic : Topic) (rules : List OptionRule) (finish : Given → Invocation) :
    Bool → Given → List String → Invocation
  | _, given, [] => finish given
  | verbose, given, text :: rest =>
    match Argument.of text with
    | .endOfOptions => if rest.isEmpty then finish given else .misuse
    | .plain _ => .misuse
    | .short letters => if letters.head? == some 'h' then .help topic else .misuse
    | .long "help" none => .help topic
    | .long "verbose" none =>
      if verbose then .misuse else readOptions topic rules finish true given rest
    | .long name value =>
      match rules.find? (·.name == name) with
      | none => .misuse
      | some rule =>
        match value with
        | some value =>
          match take rule value given with
          | some given => readOptions topic rules finish verbose given rest
          | none => .misuse
        | none =>
          match rest with
          | [] => .misuse
          | value :: rest =>
            if canBeValue value then
              match take rule value given with
              | some given => readOptions topic rules finish verbose given rest
              | none => .misuse
            else .misuse

/-- The options of `generate`. -/
def generateRules : List OptionRule :=
  [{ name := "spec" }, { name := "package" }, { name := "output", nonempty := true },
    { name := "service-name" }, { name := "config", nonempty := true }]

/-- `generate` with the options that were given; the source is required. -/
def finishGenerate (given : Given) : Invocation :=
  match given.lookup "spec" with
  | some source =>
    .run (.generate {
      source
      package := given.lookup "package"
      output := given.lookup "output"
      serviceName := given.lookup "service-name"
      config := given.lookup "config" })
  | none => .misuse

/-- `check` with the options that were given; the source is required. -/
def finishCheck (given : Given) : Invocation :=
  match given.lookup "spec" with
  | some source => .run (.check source)
  | none => .misuse

/-- What `help` is asked about. -/
def helpOn : List String → Invocation
  | [] => .help .program
  | ["generate"] => .help .generate
  | ["check"] => .help .check
  | ["help"] => .help .help
  | _ => .misuse

/-- The command of a name with its arguments. -/
def readCommand (name : String) (rest : List String) : Invocation :=
  match name with
  | "generate" => readOptions .generate generateRules finishGenerate false [] rest
  | "check" => readOptions .check [{ name := "spec" }] finishCheck false [] rest
  | "help" => helpOn rest
  | _ => .misuse

/-- Reads a command line in front of its command. -/
def readFrom (verbose : Bool) : List String → Invocation
  | [] => .misuse
  | text :: rest =>
    match Argument.of text with
    | .plain name => readCommand name rest
    | .long "help" none => .help .program
    | .long "version" none => .version
    | .long "verbose" none => if verbose then .misuse else readFrom true rest
    | .short ('h' :: _) => .help .program
    | .short ('V' :: _) => .version
    | _ => .misuse

/-- The reading of a command line. -/
def Invocation.ofArguments (arguments : List String) : Invocation := readFrom false arguments

end ApiScaffold.CommandLine
