import ModelSearch.ConfigFile
import ModelSearch.Console.Table
import ModelSearch.Json.OfValue

/-!
# What there is to show

The forms in which criteria are shown, each of which may be missing for a reason of its own: JSON, YAML,
and texts of the fields for lines and tables.

A run has a platform, and something to say of its own: what follows in the reports of documents and
settings at fault are the words of those that read and check them.  And a run that is given a foreign
document comes to some end with it.  That end is not told, but it is one that a run can come to: a
fault, or something to show.

    runtime.load tree path        what loading a file gives to show, or the fault
-/

namespace ModelSearch

open Text

/-! ## Forms -/

/-- What there is to show of criteria. -/
structure Display where
  inputType : String
  outputType : String
  json : Except JsonFault JsonValue
  yaml : Except TellFault String
  /-- The fields that have a value, each with its text. -/
  fields : List (String × Except TellFault String)
  /-- The artifacts of the zoo, if there is one. -/
  artifacts : Option (List String)

/-- The text of a field's value. -/
def fieldText (reach : Reach) : Value → Except TellFault String
  | .dict _ [] => .ok "\x7b\x7d"
  | .dict _ es => do
    let parts ← es.mapM fun e => do
      return (← reach.shown .screen e.1) ++ "=" ++ (← reach.shown .screen e.2)
    return joinWith ", " parts
  | v => reach.shown .screen v

namespace Criteria

def json (c : Criteria) (reach : Reach) : Except JsonFault JsonValue := do
  let members ← c.describe.mapM fun e =>
    match e.2 with
    | some v => do return (e.1.name, ← v.reachedJson reach)
    | none => return (e.1.name, .null)
  return .object members

def display (c : Criteria) (reach : Reach) : Display where
  inputType := c.inputClass.name
  outputType := c.outputClass.name
  json := c.json reach
  yaml := c.toYaml reach
  fields := c.present.map fun e => (e.1.name, fieldText reach e.2)
  artifacts := c.modelZoo.map Zoo.artifacts

end Criteria

/-- The table of what is shown from a file of this name. -/
def Display.table (d : Display) (name : String) : Except TellFault Console.Table := do
  let rows ← d.fields.mapM fun e => do return (e.1, ← e.2)
  let artifacts := d.artifacts.toList.map fun a => ("zoo artifacts", joinWith ", " a)
  return ⟨"Criteria (" ++ name ++ ")", ("Field", "Value"), rows ++ artifacts⟩

/-! ## Runs -/

/-- What comes of a foreign document.  Only criteria have a record that may be one that cannot be told. -/
structure Foreign where
  result : Except CriteriaFault Display
  /-- What is logged behind the record of the settings, if there are any. -/
  details : Option (List LogRecord)
  debug : ∀ r ∈ details.getD [], r.level = .debug
  told : ∀ fault, result = .error fault → ∀ r ∈ details.getD [], r.fault = none

namespace Foreign

/-- Nothing that is told here. -/
def unknown : Foreign := ⟨.error (.load .foreign), none, nofun, fun _ _ => nofun⟩

/-- The records of loading a file. -/
def records (f : Foreign) (path : FilePath) : List LogRecord :=
  match f.details with
  | none => []
  | some details => loadRecord path :: details

end Foreign

/-- One run of the tool: what it runs on, what it says further of a fault, and what comes of its file
if the document in it is foreign. -/
structure Runtime extends Platform where
  words : CriteriaFault → String := fun _ => ""
  foreign : Foreign := .unknown

namespace Runtime

/-- What is said of a fault. -/
def message (runtime : Runtime) (fault : CriteriaFault) : String :=
  fault.message (runtime.words fault)

/-- What loading a file gives to show. -/
def load (runtime : Runtime) (tree : FileTree) (path : FilePath) :
    Logged (Except CriteriaFault Display) :=
  let loaded := loadCriteria 1 tree path runtime.toPlatform
  match loaded.result with
  | .error (.load .foreign) => ⟨runtime.foreign.result, runtime.foreign.records path⟩
  | .error fault => ⟨.error fault, loaded.records⟩
  | .ok c => ⟨.ok (c.display runtime.reach), loaded.records⟩

end Runtime

end ModelSearch
