import ModelSearch.Text.Quote
import ModelSearch.Text.Similar

/-!
# Usage

What the commands take, the pages that tell it, and what is said of arguments that they do not take.
-/

namespace ModelSearch.CommandLine

open Text

inductive Flag where
  | version
  | verbose
  | json
  | quiet
  | yaml
  | help
  deriving DecidableEq, Repr

/-- A flag with its names, the long one last, and what it is for. -/
structure Switch where
  names : List String
  flag : Flag
  about : String
  deriving Repr

/-- The page of a command. -/
structure Page where
  name : String
  /-- What follows the name of the command. -/
  synopsis : String
  about : String
  examples : List String
  switches : List Switch
  commands : List (String × String)
  deriving Repr

/-! ## Pages -/

def helpSwitch : Switch := ⟨["--help"], .help, "Show this message and exit."⟩

def showPage : Page where
  name := "zoo-criteria show"
  synopsis := "[OPTIONS] CONFIG_FILE"
  about := "Build criteria from a YAML file and display them."
  examples := ["zoo-criteria show criteria.yaml", "zoo-criteria show criteria.yaml --yaml"]
  switches := [⟨["--yaml"], .yaml, "Print the criteria as YAML"⟩, helpSwitch]
  commands := []

def validatePage : Page where
  name := "zoo-criteria validate"
  synopsis := "[OPTIONS] CONFIG_FILE"
  about := "Check that a YAML file describes buildable criteria."
  examples := []
  switches := [helpSwitch]
  commands := []

def toolPage : Page where
  name := "zoo-criteria"
  synopsis := "[OPTIONS] COMMAND [ARGS]..."
  about := "Describe and validate model zoo search criteria."
  examples :=
    ["zoo-criteria show criteria.yaml", "zoo-criteria --json show criteria.yaml",
     "zoo-criteria validate criteria.yaml"]
  switches :=
    [⟨["--version"], .version, "Show the version and exit."⟩,
     ⟨["-v", "--verbose"], .verbose, "Increase verbosity (-v for info, -vv for debug)"⟩,
     ⟨["--json"], .json, "Output in JSON format"⟩, ⟨["--quiet"], .quiet, "Minimal output"⟩,
     helpSwitch]
  commands := [("show", showPage.about), ("validate", validatePage.about)]

def versionLine : String := "zoo-criteria, version 0.1.0\n"

/-- Terms and what they mean, in two columns. -/
def definitions (terms : List (String × String)) : String :=
  let width := (terms.map (·.1.length)).foldl max 0
  let line := fun (t : String × String) =>
    "  " ++ t.1 ++ repeated (width - t.1.length + 2) ' ' ++ t.2 ++ "\n"
  .join (terms.map line)

namespace Page

def usageLine (p : Page) : String := "Usage: " ++ p.name ++ " " ++ p.synopsis ++ "\n"

def exampleLines (p : Page) : String :=
  if p.examples.isEmpty then ""
  else "\n  Examples:\n" ++ .join (p.examples.map fun e => "    " ++ e ++ "\n")

def commandLines (p : Page) : String :=
  if p.commands.isEmpty then "" else "\nCommands:\n" ++ definitions p.commands

/-- The whole page. -/
def text (p : Page) : String :=
  p.usageLine ++ "\n  " ++ p.about ++ "\n" ++ p.exampleLines ++ "\nOptions:\n"
    ++ definitions (p.switches.map fun s => (joinWith ", " s.names, s.about)) ++ p.commandLines

end Page

/-! ## Faults -/

/-- Why arguments are refused. -/
inductive UsageFault where
  | noSuchFlag (name : String) (similar : List String)
  | flagTakesNoValue (name : String)
  | missingFile
  | missingCommand
  | noSuchCommand (name : String) (similar : List String)
  | noFile (path : String)
  | isFolder (path : String)
  | extraArguments (arguments : List String)
  deriving DecidableEq, Repr

/-- What names are proposed instead. -/
def proposal (names : List String) : String :=
  match names with
  | [] => ""
  | [name] => " Did you mean " ++ quoted name ++ "?"
  | names =>
    let sorted := names.mergeSort (· ≤ ·)
    " (Did you mean one of: " ++ joinWith ", " (sorted.map quoted) ++ "?)"

namespace UsageFault

def message : UsageFault → String
  | .noSuchFlag name similar => "No such option " ++ quoted name ++ "." ++ proposal similar
  | .flagTakesNoValue name => "Option " ++ quoted name ++ " does not take a value."
  | .missingFile => "Missing argument 'CONFIG_FILE'."
  | .missingCommand => "Missing command."
  | .noSuchCommand name similar => "No such command " ++ quoted name ++ "." ++ proposal similar
  | .noFile path =>
    "Invalid value for 'CONFIG_FILE': File " ++ quoted path ++ " does not exist."
  | .isFolder path =>
    "Invalid value for 'CONFIG_FILE': File " ++ quoted path ++ " is a directory."
  | .extraArguments arguments =>
    "Got unexpected extra argument" ++ (if arguments.length = 1 then "" else "s")
      ++ " (" ++ joinWith " " arguments ++ ")"

/-- What is printed for a fault in the arguments of a command.  A value for a flag that takes none
is told without the usage. -/
def text (page : Page) (f : UsageFault) : String :=
  let hint :=
    match f with
    | .flagTakesNoValue _ => ""
    | _ => page.usageLine ++ "Try '" ++ page.name ++ " --help' for help.\n\n"
  hint ++ "Error: " ++ f.message ++ "\n"

end UsageFault

end ModelSearch.CommandLine
