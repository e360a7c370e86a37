import ModelSearch.Settings.Basic
import ModelSearch.Text.Utf8

/-!
# Validating settings

Settings come from a mapping of any values.  Every setting is checked on its own, whatever the
others are, and keys that are no setting are problems of their own, so the outcome lists every
problem: those of the settings in the order of their declaration, and then those of the other keys
in the order of the mapping.

Texts may be given as bytes.  The application is looked up in any case; the keys and values of the
filters become texts.
-/

namespace ModelSearch

/-- A step on the way to the place of a problem. -/
inductive PlaceStep where
  | name (s : String)
  | number (n : Int)
  deriving DecidableEq, Repr

inductive ProblemKind where
  | notMapping
  | notText
  | notUnicode
  | notDict
  | notApplication
  | value (message : String)
  | unknownKey
  | keyNotText
  deriving DecidableEq, Repr

structure Problem where
  place : List PlaceStep
  kind : ProblemKind
  deriving DecidableEq, Repr

/-- The applications as a choice. -/
def applicationChoice : String :=
  let names := Application.all.map fun a => Text.quoted a.path
  Text.joinWith ", " names.dropLast ++ " or " ++ names.getLast?.getD ""

def ProblemKind.code : ProblemKind → String
  | .notMapping => "model_type"
  | .notText => "string_type"
  | .notUnicode => "string_unicode"
  | .notDict => "dict_type"
  | .notApplication => "enum"
  | .value _ => "value_error"
  | .unknownKey => "extra_forbidden"
  | .keyNotText => "invalid_key"

def ProblemKind.message : ProblemKind → String
  | .notMapping => "Input should be a valid dictionary or instance of CriteriaConfig"
  | .notText => "Input should be a valid string"
  | .notUnicode => "Input should be a valid string, unable to parse raw data as a unicode string"
  | .notDict => "Input should be a valid dictionary"
  | .notApplication => "Input should be " ++ applicationChoice
  | .value message => "Value error, " ++ message
  | .unknownKey => "Extra inputs are not permitted"
  | .keyNotText => "Keys should be strings"

/-- A key in a place: as in messages, if every integer in it can be shown. -/
def keyName (key : Value) : String :=
  match key.shownLiteral with
  | .ok s => s
  | .error _ => "<unprintable " ++ key.kind ++ " object>"

/-- A key as a step: small integers are numbers, everything but a text is shown as in messages. -/
def keyStep (key : Value) : PlaceStep :=
  match key with
  | .text s => .name s
  | .bool b => .number (if b then 1 else 0)
  | .int n =>
    if -0x8000000000000000 ≤ n && n < 0x8000000000000000 then .number n else .name (keyName key)
  | v => .name (keyName v)

/-- What a check gives: the checked value or the problems. -/
abbrev Checked (α : Type) := Except (List Problem) α

namespace Settings

def refuse {α : Type} (field : Setting) (kind : ProblemKind) : Checked α :=
  .error [⟨[.name field.name], kind⟩]

/-! ## Single settings -/

/-- A text, perhaps given as bytes. -/
def textOf (v : Value) : Except ProblemKind String :=
  match v with
  | .text s => .ok s
  | .bytes bs =>
    match Text.decode bs with
    | .ok xs => .ok (.ofList xs)
    | .error _ => .error .notUnicode
  | _ => .error .notText

def checkText (field : Setting) (v : Value) : Checked (Option String) :=
  match v with
  | .null => .ok none
  | v =>
    match textOf v with
    | .ok s => .ok (some s)
    | .error kind => refuse field kind

def checkApplication (v : Value) : Checked (Option Application) :=
  match v with
  | .null => .ok none
  | .text s =>
    match Application.of? s with
    | some a => .ok (some a)
    | none => refuse .application (.value (Application.unknownMessage s))
  | v =>
    match (textOf v).toOption.bind Application.withPath? with
    | some a => .ok (some a)
    | none => refuse .application .notApplication

/-- A device name is kept as it is given, if it names one. -/
def checkDevice (v : Value) : Checked (Option String) := do
  match ← checkText .device v with
  | none => return none
  | some s =>
    match Device.ofName s with
    | .ok _ => return some s
    | .error fault => refuse .device (.value fault.message)

/-- Keys and values as texts; an integer may be too long to be shown. -/
def shownEntries : Entries → Except Text.IntegerFault Entries
  | [] => .ok []
  | (k, v) :: rest => do
    return (.text (← k.shown), .text (← v.shown)) :: (← shownEntries rest)

def checkFilters (v : Value) : Checked (Option Entries) :=
  match v with
  | .null => .ok none
  | .dict _ es =>
    match shownEntries es with
    | .ok es => .ok (some (Entries.assignAll [] es))
    | .error fault => refuse .filters (.value fault.message)
  | _ => refuse .filters .notDict

/-- Keys that have to be texts: the entries, and the problems of the keys that are none. -/
def textKeys (field : Setting) : Entries → Entries × List Problem
  | [] => ([], [])
  | (k, v) :: rest =>
    let (es, problems) := textKeys field rest
    match textOf k with
    | .ok s => ((.text s, v) :: es, problems)
    | .error kind => (es, ⟨[.name field.name, keyStep k, .name "[key]"], kind⟩ :: problems)

def checkEntries (field : Setting) (v : Value) : Checked (Option Entries) :=
  match v with
  | .null => .ok none
  | .dict _ es =>
    match textKeys field es with
    | (es, []) => .ok (some (Entries.assignAll [] es))
    | (_, problems) => .error problems
  | _ => refuse field .notDict

/-! ## All settings -/

/-- The value of a setting, null if it is missing. -/
def given (es : Entries) (field : Setting) : Value := (es.find (.text field.name)).getD .null

/-- The problem of a key that is no setting. -/
def keyProblem? (key : Value) : Option Problem :=
  match key with
  | .text s =>
    if Setting.all.any fun f => f.name = s then none else some ⟨[.name s], .unknownKey⟩
  | v => some ⟨[keyStep v], .keyNotText⟩

/-- The problems of a check. -/
def problemsOf {α : Type} : Checked α → List Problem
  | .ok _ => []
  | .error problems => problems

/-- Every check on the entries of a mapping. -/
structure Checks where
  application : Checked (Option Application)
  inputClass : Checked (Option String)
  outputClass : Checked (Option String)
  engine : Checked (Option String)
  device : Checked (Option String)
  groupId : Checked (Option String)
  artifactId : Checked (Option String)
  modelUrls : Checked (Option String)
  filters : Checked (Option Entries)
  arguments : Checked (Option Entries)
  options : Checked (Option Entries)
  modelName : Checked (Option String)
  unknown : List Problem

def checks (es : Entries) : Checks where
  application := checkApplication (given es .application)
  inputClass := checkText .inputClass (given es .inputClass)
  outputClass := checkText .outputClass (given es .outputClass)
  engine := checkText .engine (given es .engine)
  device := checkDevice (given es .device)
  groupId := checkText .groupId (given es .groupId)
  artifactId := checkText .artifactId (given es .artifactId)
  modelUrls := checkText .modelUrls (given es .modelUrls)
  filters := checkFilters (given es .filters)
  arguments := checkEntries .arguments (given es .arguments)
  options := checkEntries .options (given es .options)
  modelName := checkText .modelName (given es .modelName)
  unknown := es.filterMap fun e => keyProblem? e.1

/-- Every problem, in order. -/
def Checks.problems (c : Checks) : List Problem :=
  problemsOf c.application ++ problemsOf c.inputClass ++ problemsOf c.outputClass
    ++ problemsOf c.engine ++ problemsOf c.device ++ problemsOf c.groupId
    ++ problemsOf c.artifactId ++ problemsOf c.modelUrls ++ problemsOf c.filters
    ++ problemsOf c.arguments ++ problemsOf c.options ++ problemsOf c.modelName ++ c.unknown

/-- The value of a check, missing if it failed. -/
def valueOf {α : Type} : Checked (Option α) → Option α
  | .ok v => v
  | .error _ => none

/-- The settings of the checks that succeeded. -/
def Checks.settings (c : Checks) : Settings where
  application := valueOf c.application
  inputClass := valueOf c.inputClass
  outputClass := valueOf c.outputClass
  engine := valueOf c.engine
  device := valueOf c.device
  groupId := valueOf c.groupId
  artifactId := valueOf c.artifactId
  modelUrls := valueOf c.modelUrls
  filters := valueOf c.filters
  arguments := valueOf c.arguments
  options := valueOf c.options
  modelName := valueOf c.modelName

/-- The settings of a value, if it is a mapping without problems. -/
def validate (v : Value) : Checked Settings :=
  match v with
  | .dict _ es =>
    let c := checks es
    if c.problems.isEmpty then .ok c.settings else .error c.problems
  | _ => .error [⟨[], .notMapping⟩]

end Settings

end ModelSearch
