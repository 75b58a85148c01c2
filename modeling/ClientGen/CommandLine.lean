import ClientGen.Batch

/-!
# The command line

`discoverygen` reads documents from a directory and writes clients for the APIs that it is told.
Options may be written with their value behind them or after an equals sign, and short ones may be
written together. After `--` there are no more options. Each option may be given once, but `-v` as
often as wanted.
-/

namespace ClientGen.CommandLine

/-! ## What is asked for -/

/-- The options of a run. A missing option takes its default. -/
structure Options where
  discoveryDir : Option String := none
  output : Option String := none
  basePackage : Option String := none
  runtimeCrate : Option String := none
  /-- How much is reported: warnings, then information, then every step. -/
  verbosity : Nat := 0
  selectors : List Selector := []

/-- What a command line asks for. -/
inductive Request
  | run (options : Options)
  | help
  | version

/-- The options that take a value. -/
inductive ValueOption
  | discoveryDir
  | output
  | basePackage
  | runtimeCrate

/-- An option. -/
inductive Flag
  | takes (option : ValueOption)
  | verbose
  | help
  | version

/-- The option with a long name. -/
def longFlag? : String → Option Flag
  | "discovery-dir" => some (.takes .discoveryDir)
  | "output" => some (.takes .output)
  | "base-package" => some (.takes .basePackage)
  | "runtime-crate" => some (.takes .runtimeCrate)
  | "verbose" => some .verbose
  | "help" => some .help
  | "version" => some .version
  | _ => none

/-- The option with a short name. -/
def shortFlag? : Char → Option Flag
  | 'o' => some (.takes .output)
  | 'v' => some .verbose
  | 'h' => some .help
  | 'V' => some .version
  | _ => none

/-! ## Reading a command line -/

/-- Where reading a command line has got to. -/
inductive Step
  /-- An option still waits for its value. -/
  | waiting (option : ValueOption) (options : Options)
  | reading (options : Options)
  /-- Only selectors may follow. -/
  | selecting (options : Options)
  | done (request : Request)
  | refused

/-- Sets an option that is not set yet. Paths must not be empty. -/
def setValue (option : ValueOption) (value : String) (o : Options) : Step :=
  match option, value with
  | .discoveryDir, value =>
    if o.discoveryDir.isSome || value = "" then .refused
    else .reading { o with discoveryDir := value }
  | .output, value =>
    if o.output.isSome || value = "" then .refused else .reading { o with output := value }
  | .basePackage, value =>
    if o.basePackage.isSome then .refused else .reading { o with basePackage := value }
  | .runtimeCrate, value =>
    if o.runtimeCrate.isSome then .refused else .reading { o with runtimeCrate := value }

/-- Adds a selector. -/
def addSelector (again : Options → Step) (text : String) (o : Options) : Step :=
  match Selector.parse text with
  | .ok s => again { o with selectors := o.selectors ++ [s] }
  | .error _ => .refused

/-- Reads a long option, with the value that stands behind its equals sign. -/
def readLong (name : String) (value : Option String) (o : Options) : Step :=
  match longFlag? name, value with
  | some (.takes option), some value => setValue option value o
  | some (.takes option), none => .waiting option o
  | some .verbose, none => .reading { o with verbosity := o.verbosity + 1 }
  | some .help, none => .done .help
  | some .version, none => .done .version
  | _, _ => .refused

/-- Reads short options that are written together. -/
def readShort (o : Options) : List Char → Step
  | [] => .reading o
  | c :: rest =>
    match shortFlag? c, rest with
    | some (.takes option), [] => .waiting option o
    | some (.takes option), '=' :: value => setValue option (String.ofList value) o
    | some (.takes option), value => setValue option (String.ofList value) o
    | some .verbose, rest => readShort { o with verbosity := o.verbosity + 1 } rest
    | some .help, _ => .done .help
    | some .version, _ => .done .version
    | none, _ => .refused

/-- Reads one argument that may be an option. -/
def readArgument (argument : String) (o : Options) : Step :=
  match argument.toList with
  | ['-', '-'] => .selecting o
  | '-' :: '-' :: long =>
    match Text.cut '=' long with
    | (name, []) => readLong (String.ofList name) none o
    | (name, value) =>
      readLong (String.ofList name) (some (String.ofList (['='].intercalate value))) o
  | '-' :: c :: short => readShort o (c :: short)
  | _ => addSelector .reading argument o

/-- The argument reads as an option. -/
def looksLikeOption (argument : String) : Bool :=
  match argument.toList with
  | '-' :: _ :: _ => true
  | _ => false

/-- Takes the next argument. -/
def Step.next (step : Step) (argument : String) : Step :=
  match step with
  | .reading o => readArgument argument o
  | .selecting o => addSelector .selecting argument o
  | .waiting option o =>
    if looksLikeOption argument then .refused else setValue option argument o
  | .done _ | .refused => step

/-- What a command line asks for, if it makes sense. At least one API must be selected. -/
def read (arguments : List String) : Option Request :=
  match arguments.foldl Step.next (.reading {}) with
  | .reading o | .selecting o => if o.selectors.isEmpty then none else some (.run o)
  | .done request => some request
  | .waiting _ _ | .refused => none

/-! ## Running -/

/-- What is seen of a finished run: its exit code, what it prints, and its complaint. -/
structure Report where
  code : Nat
  output : String := ""
  complaint : Option String := none

/-- How the command is used. -/
def usage : String :=
  "Usage: discoverygen [OPTIONS] <APIS>...\n"

/-- The text that explains the command. -/
def helpText : String :=
  "Generate typed Rust clients from REST API discovery documents\n\n" ++ usage ++
  "\nArguments:\n" ++
  "  <APIS>...  APIs to generate, as `name:version`\n" ++
  "\nOptions:\n" ++
  "      --discovery-dir <DISCOVERY_DIR>  Directory holding the documents [default: .]\n" ++
  "  -o, --output <OUTPUT>                Output directory [default: generated]\n" ++
  "      --base-package <BASE_PACKAGE>    Dotted base package [default: generated]\n" ++
  "      --runtime-crate <RUNTIME_CRATE>  Client runtime crate [default: discovery_runtime]\n" ++
  "  -v, --verbose...                     Increase verbosity (-v, -vv, -vvv)\n" ++
  "  -h, --help                           Print help\n" ++
  "  -V, --version                        Print version\n"

/-- The name and version of the command. -/
def versionText : String := "discoverygen 0.1.0\n"

namespace Options

/-- The settings that the options make. -/
def settings (o : Options) : Settings :=
  let defaults : Settings := {}
  { basePackage := o.basePackage.getD defaults.basePackage
    outputDir := o.output.getD defaults.outputDir
    runtimeCrate := o.runtimeCrate.getD defaults.runtimeCrate }

/-- The directory that documents are in. -/
def directory (o : Options) : String :=
  o.discoveryDir.getD "."

end Options

variable {m : Type → Type} [Monad m] [Files m]

/-- Does what the options ask for. -/
def runOptions (o : Options) : m Report := do
  let settings := o.settings
  match ← (Batch.generateAll o.directory o.selectors settings).run with
  | .ok written =>
    Files.report (.finished o.selectors.length written.length settings.outputDir)
    return { code := 0 }
  | .error e => return { code := 1, complaint := some ("Error: " ++ e.message) }

/-- Does what a command line asks for. -/
def run (arguments : List String) : m Report :=
  match read arguments with
  | some (.run o) => runOptions o
  | some .help => return { code := 0, output := helpText }
  | some .version => return { code := 0, output := versionText }
  | none => return { code := 2, complaint := some ("error: wrong arguments\n\n" ++ usage) }

end ClientGen.CommandLine
