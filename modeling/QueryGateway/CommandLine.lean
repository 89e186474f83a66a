import QueryGateway.Config.Loading
import QueryGateway.Inspection
import QueryGateway.Json.Printer

/-! The command line.

Arguments are read from left to right, and the first that asks for help or is misused
decides. The path of the configuration may be given before and behind a command; the one
behind it wins. A path that stands apart from its option is judged when the next option comes
or nothing is left to read, so that help for a command goes before it. -/
namespace QueryGateway.CommandLine

open Config

/-! ### Commands -/

/-- A command. -/
inductive Command where
  | serve
  | explain (sql : String)
  | checkConfig
  deriving DecidableEq, Repr

/-- A command, and the path of the configuration if one is given. -/
structure Invocation where
  config : Option String
  command : Command
  deriving DecidableEq, Repr

/-- What arguments ask for. -/
inductive Request where
  | perform (i : Invocation)
  | print (text : String)
  | misuse
  deriving DecidableEq, Repr

/-! ### Texts -/

/-- The name and the version of the program. -/
def versionText : String := "sqlgate 0.1.0"

/-- What follows the heading of a list of options. -/
def optionsText : String :=
  "Options:\n  -c, --config <CONFIG>  Configuration file (defaults to $SQLGATE_CONFIG, then "
    ++ "./sqlgate.yaml)\n  -h, --help             Print help"

/-- The commands with what they do. -/
def commandsText : String :=
  "Commands:\n  serve         Start the HTTP server\n  explain       Show how a statement would be "
    ++ "classified, without authorizing or running it\n  check-config  Load and validate the "
    ++ "configuration file\n  help          Print this message or the help of the given "
    ++ "subcommand(s)"

/-- Parts of a text with empty lines between them. -/
def parts (ps : List String) : String := "\n\n".intercalate ps

/-- The help for the program. -/
def helpText : String :=
  parts ["SQL gatekeeper for Postgres", "Usage: sqlgate [OPTIONS] <COMMAND>", commandsText,
    optionsText ++ "\n  -V, --version          Print version"]

/-- The help for a command. -/
def helpFor? : String → Option String
  | "serve" => some (parts ["Start the HTTP server", "Usage: sqlgate serve [OPTIONS]", optionsText])
  | "explain" => some (parts
    ["Show how a statement would be classified, without authorizing or running it",
     "Usage: sqlgate explain [OPTIONS] <SQL>", "Arguments:\n  <SQL>  The SQL statement",
     optionsText])
  | "check-config" => some (parts
    ["Load and validate the configuration file", "Usage: sqlgate check-config [OPTIONS]",
     optionsText])
  | "help" => some (parts
    ["Print this message or the help of the given subcommand(s)",
     "Usage: sqlgate help [COMMAND]...",
     "Arguments:\n  [COMMAND]...  Print help for the subcommand(s)"])
  | _ => none

/-! ### Arguments -/

/-- An argument by its form. The path of the configuration may be attached to its option. -/
inductive Argument where
  | config (attached : Option String)
  | help
  | version
  | endOfOptions
  | unknownOption
  | word
  deriving DecidableEq, Repr

/-- The text behind an equals sign, if there is one. -/
def afterEquals : List Char → Option String
  | '=' :: rest => some (String.ofList rest)
  | _ => none

/-- The form of an argument. Of joined short options the first decides. -/
def Argument.of (text : String) : Argument :=
  match text.toList with
  | ['-', '-'] => .endOfOptions
  | '-' :: '-' :: long =>
    let name := long.takeWhile (· ≠ '=')
    let attached := afterEquals (long.drop name.length)
    if name = "config".toList then .config attached
    else if attached.isSome then .unknownOption
    else if name = "help".toList then .help
    else if name = "version".toList then .version
    else .unknownOption
  | '-' :: 'c' :: [] => .config none
  | '-' :: 'c' :: '=' :: value => .config (some (String.ofList value))
  | '-' :: 'c' :: value => .config (some (String.ofList value))
  | '-' :: 'h' :: _ => .help
  | '-' :: 'V' :: _ => .version
  | '-' :: _ :: _ => .unknownOption
  | _ => .word

/-- A path as the value of an option, which it may be unless it is empty. -/
def pathFrom? (text : String) : Option String := if text.isEmpty then none else some text

/-- An argument with what belongs to it. An option for the path may lack a path that can be
used; `apart` says that the path is not attached to it. -/
inductive Item where
  | config (path : Option String) (apart : Bool)
  | help
  | version
  | endOfOptions
  | unknownOption
  | word (text : String)
  deriving DecidableEq, Repr

/-- The items that arguments form. What has the form of an option is no path that stands
apart, and behind the end of the options there are words only. -/
def itemsOf : List String → List Item
  | [] => []
  | text :: rest =>
    match Argument.of text, rest with
    | .config (some path), rest => .config (pathFrom? path) false :: itemsOf rest
    | .config none, [] => [.config none true]
    | .config none, path :: rest =>
      if Argument.of path = .word then .config (pathFrom? path) true :: itemsOf rest
      else .config none true :: itemsOf (path :: rest)
    | .help, rest => .help :: itemsOf rest
    | .version, rest => .version :: itemsOf rest
    | .unknownOption, rest => .unknownOption :: itemsOf rest
    | .endOfOptions, rest => .endOfOptions :: rest.map .word
    | .word, rest => .word text :: itemsOf rest

/-- The path that is given, unless it is given twice or cannot be used. -/
def onlyPath? : (before path : Option String) → Option String
  | none, path => path
  | some _, _ => none

/-- How many words a command takes. -/
def wordsOf : (name : String) → Nat
  | "explain" => 1
  | _ => 0

/-- The command of a name with words behind it. -/
def commandOf? : (name : String) → List String → Option Command
  | "serve", [] => some .serve
  | "explain", [sql] => some (.explain sql)
  | "check-config", [] => some .checkConfig
  | _, _ => none

/-- Reads the items behind the name of a command whose help is given, behind a path and
words. A word more than the command takes is misuse at once. -/
def readArguments (name help : String) (config : Option String) (words : List String) :
    List Item → Request ⊕ (Option String × Command)
  | [] => match commandOf? name words with
    | some command => .inr (config, command)
    | none => .inl .misuse
  | .config path _ :: rest =>
    match onlyPath? config path with
    | some path => readArguments name help (some path) words rest
    | none => .inl .misuse
  | .help :: _ => .inl (.print help)
  | .version :: _ | .unknownOption :: _ => .inl .misuse
  | .endOfOptions :: rest => readArguments name help config words rest
  | .word text :: rest =>
    if words.length < wordsOf name then readArguments name help config (words ++ [text]) rest
    else .inl .misuse

/-- Reads a command with its items, behind a path. -/
def readCommand (config : Option String) (name : String) (rest : List Item) : Request :=
  match name, rest, helpFor? name with
  | "help", [], _ => .print helpText
  | "help", [.word command], _ => ((helpFor? command).map .print).getD .misuse
  | "help", _, _ | _, _, none => .misuse
  | _, _, some help =>
    match readArguments name help none [] rest with
    | .inl request => request
    | .inr (behind, command) => .perform ⟨behind.or config, command⟩

/-- A request where the path in front of it cannot be used: nothing is performed. -/
def Request.withoutPath : Request → Request
  | .perform _ => .misuse
  | request => request

/-- Reads items, behind a path; `bad` says that a path standing apart cannot be used. -/
def readItems (config : Option String) (bad : Bool) : List Item → Request
  | .word text :: rest =>
    let request := readCommand config text rest
    if bad then request.withoutPath else request
  | .config path apart :: rest =>
    match bad, onlyPath? config path with
    | true, _ => .misuse
    | false, some path => readItems (some path) false rest
    | false, none => if apart then readItems config true rest else .misuse
  | .help :: _ => if bad then .misuse else .print helpText
  | .version :: _ => if bad then .misuse else .print versionText
  | [] | .endOfOptions :: _ | .unknownOption :: _ => .misuse

/-- What arguments ask for. -/
def read (arguments : List String) : Request := readItems none false (itemsOf arguments)

/-! ### Performing commands -/

/-- What a program leaves behind: its exit code and what it wrote. -/
structure Output where
  code : UInt8 := 0
  lines : List String := []
  complaint : String := ""
  deriving DecidableEq, Repr

/-- A failure with a complaint. -/
def Output.failed (complaint : String) : Output :=
  { code := 1, complaint := "Error: " ++ complaint }

/-- The files that can be read, by their paths. -/
abbrev Files := String → FileContent

/-- The policy of the configuration, of which no more than its form is checked; without a path
that is given and without a file, the policy is the usual one. -/
def policyFor (env : Environment) (files : Files) (given : Option String) :
    Except String Policy :=
  match given, files (resolvePath given env) with
  | none, .error .missing | none, .error .belowFile => .ok {}
  | _, file => do
    let text ← (textOf file).mapError FileFault.message
    match Config.read text with
    | some config => .ok config.policy
    | none => .error "the configuration is malformed"

/-- Performs a command. Serving ends where a connection to the database is needed. -/
def Invocation.perform (env : Environment) (files : Files) (i : Invocation) : Output :=
  let path := resolvePath i.config env
  match i.command with
  | .explain sql =>
    match policyFor env files i.config with
    | .ok policy => { lines := [(report (inspect policy sql)).pretty] }
    | .error message => .failed message
  | .checkConfig =>
    match load env (files path) with
    | .ok config =>
      { lines := (path ++ ": ok") :: (config.summary env).map ("  " ++ ·) }
    | .error fault => .failed (fault.message path)
  | .serve =>
    match load env (files path) with
    | .ok config => .failed ("no connection to " ++ config.database.displayTarget env)
    | .error fault => .failed ("loading " ++ path ++ "\n\nCaused by:\n    " ++ fault.message path)

/-- Runs the program. -/
def run (arguments : List String) (env : Environment) (files : Files) : Output :=
  match read arguments with
  | .perform i => i.perform env files
  | .print text => { lines := [text] }
  | .misuse => { code := 2, complaint := "error: the command line is not understood" }

end QueryGateway.CommandLine
