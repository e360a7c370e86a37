import ModelSearch.CommandLine.Usage
import ModelSearch.Console.LogLines
import ModelSearch.Files

/-!
# Requests

The arguments of a run as a request: flags of the tool, a command, and flags and a file of the
command.  Flags are read from left to right; the first of the flags that only ask for a text ends
the reading.

    Request.ofArguments tree args
-/

namespace ModelSearch.CommandLine

open Text

inductive Command where
  | show (yaml : Bool)
  | validate
  deriving DecidableEq, Repr

structure Request where
  verbosity : Console.Verbosity
  json : Bool
  quiet : Bool
  command : Command
  file : FilePath
  deriving DecidableEq, Repr

/-- Why a run ends before a command starts. -/
inductive Early where
  /-- A text that was asked for. -/
  | asked (text : String)
  /-- There are no arguments at all. -/
  | noArguments
  | refused (page : Page) (fault : UsageFault)
  /-- The file's path cannot be one. -/
  | nullByte
  deriving Repr

/-! ## Flags -/

def longNames (switches : List Switch) : List String :=
  (switches.flatMap (·.names)).filter fun n => "--".toList.isPrefixOf n.toList

def flagNamed (switches : List Switch) (name : String) : Option Flag :=
  (switches.find? fun s => s.names.contains name).map (·.flag)

/-- The flags of letters after one dash. -/
def letterFlags (switches : List Switch) : List Char → Except UsageFault (List Flag)
  | [] => .ok []
  | c :: cs =>
    let name := String.ofList ['-', c]
    match flagNamed switches name with
    | some flag => (letterFlags switches cs).map (flag :: ·)
    | none => .error (.noSuchFlag name [])

/-- The flags of an argument that starts with a dash. -/
def argumentFlags (switches : List Switch) (argument : String) : Except UsageFault (List Flag) :=
  let xs := argument.toList
  let (name, value) :=
    match firstCut '=' xs with
    | some (name, _) => (String.ofList name, true)
    | none => (argument, false)
  let known := longNames switches
  match xs with
  | '-' :: '-' :: _ =>
    match flagNamed switches name with
    | some flag => if value then .error (.flagTakesNoValue name) else .ok [flag]
    | none => .error (.noSuchFlag name (closest name known))
  | _ => letterFlags switches (xs.drop 1)

/-- Whether an argument is one of flags. -/
def isFlagArgument (argument : String) : Bool :=
  match argument.toList with
  | '-' :: _ :: _ => true
  | _ => false

/-- The flags and the other arguments.  Two dashes end the flags, and so does, unless
flags may stand anywhere, the first argument that is none. -/
def readFlags (switches : List Switch) (anywhere : Bool) :
    List String → Except UsageFault (List Flag × List String)
  | [] => .ok ([], [])
  | a :: rest =>
    if a = "--" then .ok ([], rest)
    else if isFlagArgument a then do
      let flags ← argumentFlags switches a
      let (more, others) ← readFlags switches anywhere rest
      return (flags ++ more, others)
    else if anywhere then
      (readFlags switches anywhere rest).map fun (flags, others) => (flags, a :: others)
    else .ok ([], a :: rest)

/-- The text that a flag asks for. -/
def askedText (page : Page) : Flag → Option String
  | .help => some page.text
  | .version => some versionLine
  | _ => none

/-- The flags and other arguments of a page, unless they end the run. -/
def readPage (page : Page) (anywhere : Bool) (args : List String) :
    Except Early (List Flag × List String) :=
  match readFlags page.switches anywhere args with
  | .error fault => .error (.refused page fault)
  | .ok (flags, others) =>
    match flags.findSome? (askedText page) with
    | some text => .error (.asked text)
    | none => .ok (flags, others)

/-! ## Commands -/

/-- The path of a text that leads to a file. -/
def filePath (page : Page) (tree : FileTree) (text : String) : Except Early FilePath :=
  if text.toList.contains '\x00' then .error .nullByte
  else
    match tree.locate text with
    | .error _ => .error (.refused page (.noFile text))
    | .ok (.folder _) => .error (.refused page (.isFolder text))
    | .ok (.file _) => .ok (.ofText text)

/-- The flags and the file of a command. -/
def readCommand (page : Page) (tree : FileTree) (args : List String) :
    Except Early (List Flag × FilePath) := do
  let (flags, others) ← readPage page true args
  match others with
  | [] => .error (.refused page .missingFile)
  | file :: rest =>
    let path ← filePath page tree file
    if rest.isEmpty then .ok (flags, path) else .error (.refused page (.extraArguments rest))

/-- What becomes of an unknown command: one that looks like a flag is first read as flags. -/
def unknownCommand (name : String) (args : List String) : Early :=
  let refused := Early.refused toolPage
    (.noSuchCommand name (closest name (toolPage.commands.map (·.1))))
  if "-".toList.isPrefixOf name.toList then
    match readPage toolPage false (name :: args) with
    | .error early => early
    | .ok _ => refused
  else refused

/-- The request of the arguments of a run. -/
def Request.ofArguments (tree : FileTree) (args : List String) : Except Early Request := do
  if args.isEmpty then .error .noArguments
  let (flags, others) ← readPage toolPage false args
  let request := fun (command : Command) (file : FilePath) =>
    (⟨.ofCount (flags.count .verbose), flags.contains .json, flags.contains .quiet, command, file⟩ :
      Request)
  match others with
  | [] => .error (.refused toolPage .missingCommand)
  | name :: rest =>
    if name = "show" then do
      let (own, file) ← readCommand showPage tree rest
      return request (.show (own.contains .yaml)) file
    else if name = "validate" then do
      let (_, file) ← readCommand validatePage tree rest
      return request .validate file
    else .error (unknownCommand name rest)

end ModelSearch.CommandLine
