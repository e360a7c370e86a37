import ModelSearch.CommandLine.Display
import ModelSearch.CommandLine.Request

/-!
# Answers

What the commands print about the criteria of a file, or about the fault that left none.  Faults of
loading and building are reported and end the run with code 1; any other fault escapes.
-/

namespace ModelSearch.CommandLine

open Text

/-! ## Endings -/

/-- A fault that no command reports. -/
inductive Escape where
  | nullByte
  | criteria (fault : CriteriaFault)
  | markup (fault : Console.MarkupFault)
  | json (fault : JsonFault)
  /-- What keeps a value from being put into words, most of all too many digits. -/
  | digits (fault : TellFault)
  deriving DecidableEq, Repr

def Escape.message : Escape → String
  | .nullByte => LoadFault.message .nullByte
  | .criteria fault => fault.message
  | .markup fault => fault.message
  | .json fault => fault.message
  | .digits fault => fault.message

inductive Ending where
  | code (n : Nat)
  | escaped (e : Escape)
  deriving DecidableEq, Repr

/-- What a command prints and how it ends. -/
structure Answer where
  output : String
  ending : Ending
  deriving DecidableEq, Repr

/-- An answer of one text, if there is one. -/
def Answer.ofText {ε : Type} (escape : ε → Escape) (code : Nat) (text : Except ε String) : Answer :=
  match text with
  | .ok text => ⟨text, .code code⟩
  | .error fault => ⟨"", .escaped (escape fault)⟩

/-! ## Faults -/

/-- Whether the commands report a fault of building. -/
def buildReported : BuildFault → Bool
  | .artifactId _ | .missingTypes | .zoo (.noUrls _) => true
  | .zoo (.url _) | .unhashable _ => false

/-- Whether the commands report a fault of getting criteria. -/
def reported : CriteriaFault → Bool
  | .load fault => fault.isOwn
  | .replay (.type (.stray _ _)) => false
  | .replay (.type _) => true
  | .replay (.device _) => false
  | .replay (.build fault) => buildReported fault

/-- The answer to a fault: the report, if there is one. -/
def faultAnswer (fault : CriteriaFault) (report : Answer) : Answer :=
  if reported fault then report else ⟨"", .escaped (.criteria fault)⟩

/-- Members of text on one line. -/
def jsonLine (members : List (String × String)) : String :=
  (JsonValue.object (members.map fun m => (m.1, .string m.2))).text .line ++ "\n"

/-- The report of a fault as a status and a message, or as text in markup. -/
def reportFault (json : Bool) (status markup message : String) : Answer :=
  if json then ⟨jsonLine [("status", status), ("error", message)], .code 1⟩
  else .ofText .markup 1 (Console.messageText (markup ++ message))

/-! ## Plain text -/

/-- What follows a sequence that colors text on a terminal. -/
def afterColor (xs : List Char) : Option (List Char) :=
  match xs with
  | '\x1b' :: '[' :: rest =>
    match rest.dropWhile fun c => c = ';' || c = '?' || isAsciiDigit c with
    | c :: after => if isAsciiLetter c then some after else none
    | [] => none
  | _ => none

def withoutColorsFrom : Nat → List Char → List Char
  | 0, _ => []
  | _ + 1, [] => []
  | fuel + 1, c :: cs =>
    match afterColor (c :: cs) with
    | some rest => withoutColorsFrom fuel rest
    | none => c :: withoutColorsFrom fuel cs

/-- A text without the sequences that color it on a terminal. -/
def withoutColors (s : String) : String := .ofList (withoutColorsFrom s.length s.toList)

/-- The fields one by one; a value that cannot be shown ends the answer. -/
def fieldLines : List (String × Except TellFault String) → Answer
  | [] => ⟨"", .code 0⟩
  | (_, .error fault) :: _ => ⟨"", .escaped (.digits fault)⟩
  | (name, .ok text) :: rest =>
    let answer := fieldLines rest
    { answer with output := withoutColors (name ++ "=" ++ text) ++ "\n" ++ answer.output }

/-! ## Commands -/

/-- The answer of `show`: JSON before YAML, YAML before the short form, the short form before the
table. -/
def showAnswer (r : Request) (yaml : Bool) (say : CriteriaFault → String)
    (loaded : Except CriteriaFault Display) : Answer :=
  match loaded with
  | .error fault =>
    let markup := "[red]Error:[/red] "
    faultAnswer fault (reportFault r.json "error" markup (say fault))
  | .ok d =>
    if r.json then .ofText .json 0 (d.json.map fun j => j.text .indented ++ "\n")
    else if yaml then .ofText .digits 0 d.yaml
    else if r.quiet then fieldLines d.fields
    else
      match d.table r.file.name with
      | .error fault => ⟨"", .escaped (.digits fault)⟩
      | .ok table => .ofText .markup 0 table.text

/-- The answer of `validate`. -/
def validateAnswer (r : Request) (say : CriteriaFault → String)
    (loaded : Except CriteriaFault Display) : Answer :=
  match loaded with
  | .error fault =>
    let markup := "[red]✗[/red] " ++ r.file.text ++ ": "
    faultAnswer fault (reportFault r.json "invalid" markup (say fault))
  | .ok d =>
    if r.json then
      ⟨jsonLine [("status", "valid"), ("config_file", r.file.text)], .code 0⟩
    else if r.quiet then ⟨"", .code 0⟩
    else
      .ofText .markup 0 (Console.messageText
        ("[green]✓[/green] " ++ r.file.text ++ " is valid ([cyan]" ++ d.inputType
          ++ "[/cyan] → [cyan]" ++ d.outputType ++ "[/cyan])"))

/-- The answer to what was loaded, where `say` are the words for a fault. -/
def Request.answer (r : Request) (say : CriteriaFault → String)
    (loaded : Except CriteriaFault Display) : Answer :=
  match r.command with
  | .show yaml => showAnswer r yaml say loaded
  | .validate => validateAnswer r say loaded

/-- The answer to what was loaded and logged.  The log comes first: a record that is shown and cannot
be put into words ends the run before there is an answer. -/
def Request.loggedAnswer (r : Request) (say : CriteriaFault → String)
    (loaded : Logged (Except CriteriaFault Display)) : Answer :=
  match Console.logFault r.verbosity loaded.records with
  | some fault => ⟨"", .escaped (.digits fault)⟩
  | none => r.answer say loaded.result

end ModelSearch.CommandLine
