import SearchLink.Catalog.Configuration
import SearchLink.CommandLine.Command

/-!
# `SearchLink.CommandLine.Report`: what a command line leads to

A program ends with a code, an output, and a complaint if it fails: code 2 when the command line
is wrong, code 1 when the command fails. What a program cannot know by itself is handed to it:
the contents of files, and whether somebody lets it listen at an address.
-/

set_option autoImplicit false

namespace SearchLink.CommandLine

/-- What a command finds around it. -/
structure Surroundings where
  /-- The content of a file, if there is such a file. -/
  content? : Text → Option Text
  /-- Whether requests can be taken at an address. -/
  canListen : Text → Bool

/-- What can go wrong with a command. -/
inductive CommandError where
  /-- The file cannot be read. -/
  | unreadable (file : Text)
  /-- The file does not describe a catalog. -/
  | noCatalog (file : Text)
  /-- No requests can be taken at the address. -/
  | cannotListen (address : Text)
  /-- Some templates are not in order. -/
  | faultyTemplates (count : Nat)
  deriving Repr, DecidableEq

/-- The wording of an error. -/
def CommandError.message : CommandError → Text
  | .unreadable file => "Could not read ".toList ++ file
  | .noCatalog file => "Could not load engines from ".toList ++ file
  | .cannotListen address => "Could not bind ".toList ++ address
  | .faultyTemplates count =>
    Text.ofNatural count ++ " engine(s) have template issues".toList

/-- How a program ends. -/
structure Report where
  /-- The code that it ends with. -/
  code : Nat
  /-- What it writes. -/
  output : Text := []
  /-- What it says about a failure. -/
  complaint : Text := []
  deriving Repr, DecidableEq

/-- A line of output. -/
def line (t : Text) : Text := t ++ ['\n']

/-- Loads the catalog in a file. -/
def load (s : Surroundings) (file : Text) : Except CommandError Catalog :=
  match s.content? file with
  | none => .error (.unreadable file)
  | some t =>
    match Catalog.ofYaml t with
    | .ok c => .ok c
    | .error _ => .error (.noCatalog file)

/-- What is said about an engine. -/
def engineReport (e : Engine) (issues : List Template.Issue) : Text :=
  line (e.key ++ " (".toList ++ e.name ++ [')']) ++
    issues.flatMap fun i => line ("  - ".toList ++ i.message)

/-- The engines whose templates are not in order, with their issues. -/
def faulty (c : Catalog) : List (Engine × List Template.Issue) :=
  (c.engines.map fun e => (e, Template.lint e.template)).filter fun entry => !entry.2.isEmpty

/-- The end of a command that fails after some output. -/
def Report.ofError (e : CommandError) (output : Text) : Report :=
  { code := 1, output, complaint := line ("Error: ".toList ++ e.message) }

/-- The report on a catalog. -/
def lintReport (c : Catalog) : Report :=
  match faulty c with
  | [] => { code := 0, output := line (Text.ofNatural c.size ++ " engine(s) OK".toList) }
  | entries =>
    .ofError (.faultyTemplates entries.length)
      (entries.flatMap fun entry => engineReport entry.1 entry.2)

/-- How a command ends. One that answers requests ends well when it is told to stop. -/
def Command.run (s : Surroundings) : Command → Report
  | .serve file address =>
    match load s file with
    | .error e => .ofError e []
    | .ok _ => if s.canListen address then { code := 0 } else .ofError (.cannotListen address) []
  | .expand template variableName value encode =>
    { code := 0
      output := line
        (Template.substitute Template.Registry.standard template variableName value encode) }
  | .lint file =>
    match load s file with
    | .error e => .ofError e []
    | .ok c => lintReport c

/-- How to use the program. -/
def usage : Text :=
  List.flatten <| List.map (fun l => line l.toList) [
    "Builds search URLs from a text selection and per-engine URL templates",
    "",
    "Usage: selsearch [OPTIONS] [COMMAND]",
    "",
    "Commands:",
    "  serve   Run the redirect server (default)",
    "  expand  Substitute text into a single template and print the result",
    "  lint    Check every engine template in the catalog",
    "  help    Print this message or the help of the given subcommand(s)",
    "",
    "Options:",
    "  -e, --engines <ENGINES>  Path to a YAML file containing search engines [default: engines.yml]",
    "  -b, --bind <ADDRESS>     Address the HTTP server listens on [default: 127.0.0.1:8000]",
    "  -h, --help               Print help"]

/-- How a program ends that was not given a command. -/
def Interruption.report : Interruption → Report
  | .help => { code := 0, output := usage }
  | .misuse e => { code := 2, complaint := line ("error: ".toList ++ e.message) }

/-- How a program ends. -/
def run (s : Surroundings) (arguments : List Text) : Report :=
  match Command.parse arguments with
  | .ok command => command.run s
  | .error interruption => interruption.report

end SearchLink.CommandLine
