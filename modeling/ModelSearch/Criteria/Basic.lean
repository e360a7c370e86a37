import ModelSearch.Application
import ModelSearch.Device
import ModelSearch.TypeName
import ModelSearch.Zoo.Basic

/-!
# Search criteria

What a caller looks for in a zoo: the types of the model's input and output, and a selection of
settings, each of which may be missing.  A missing text, an empty text and an empty mapping are
three different things.

    c.describe          the fields in order, with plain values
    c.sameAs d          equality field by field; zoos and collaborators by identity
-/

namespace ModelSearch

/-- An object that takes part in running a model: a translator, a block or a progress sink. -/
structure Collaborator where
  mark : Mark
  className : String
  deriving DecidableEq, Repr

def Collaborator.literal (o : Collaborator) : String := o.className ++ "()"

/-- The settings that builders and criteria share. -/
structure Selection where
  application : Option Application := none
  engine : Option String := none
  device : Option Device := none
  groupId : Option String := none
  artifactId : Option String := none
  modelZoo : Option Zoo := none
  filters : Option Entries := none
  arguments : Option Entries := none
  options : Option Entries := none
  translator : Option Collaborator := none
  block : Option Collaborator := none
  modelName : Option String := none
  progress : Option Collaborator := none
  deriving Repr, Inhabited

structure Criteria extends Selection where
  inputClass : ModelType
  outputClass : ModelType
  deriving Repr

/-! ## Fields -/

/-- The fields in the order in which they are described. -/
inductive Field where
  | application
  | inputClass
  | outputClass
  | engine
  | device
  | groupId
  | artifactId
  | modelZoo
  | filters
  | arguments
  | options
  | translator
  | block
  | modelName
  | progress
  deriving DecidableEq, Repr

def Field.all : List Field :=
  [.application, .inputClass, .outputClass, .engine, .device, .groupId, .artifactId, .modelZoo,
   .filters, .arguments, .options, .translator, .block, .modelName, .progress]

def Field.name : Field → String
  | .application => "application"
  | .inputClass => "input_class"
  | .outputClass => "output_class"
  | .engine => "engine"
  | .device => "device"
  | .groupId => "group_id"
  | .artifactId => "artifact_id"
  | .modelZoo => "model_zoo"
  | .filters => "filters"
  | .arguments => "arguments"
  | .options => "options"
  | .translator => "translator"
  | .block => "block"
  | .modelName => "model_name"
  | .progress => "progress"

namespace Criteria

def mapping (field : Field) (es : Option Entries) : Option Value :=
  es.map fun es => .dict (.part field.name) es

/-- A field as a plain value. -/
def plainField (c : Criteria) : Field → Option Value
  | .application => c.application.map fun a => .text a.path
  | .inputClass => some (.text c.inputClass.name)
  | .outputClass => some (.text c.outputClass.name)
  | .engine => c.engine.map .text
  | .device => c.device.map fun d => .text d.text
  | .groupId => c.groupId.map .text
  | .artifactId => c.artifactId.map .text
  | .modelZoo => c.modelZoo.map fun z => .text z.groupId
  | .filters => mapping .filters c.filters
  | .arguments => mapping .arguments c.arguments
  | .options => mapping .options c.options
  | .translator => c.translator.map fun o => .text o.className
  | .block => c.block.map fun o => .text o.className
  | .modelName => c.modelName.map .text
  | .progress => c.progress.map fun o => .text o.className

/-- Every field with its plain value. -/
def describe (c : Criteria) : List (Field × Option Value) :=
  Field.all.map fun f => (f, c.plainField f)

/-- The fields that have a value. -/
def present (c : Criteria) : List (Field × Value) :=
  Field.all.filterMap fun f => (c.plainField f).map fun v => (f, v)

def literal (c : Criteria) : String :=
  "Criteria(" ++ Text.joinWith ", " (c.present.map fun e => e.1.name ++ "=" ++ e.2.literal) ++ ")"

/-! ## Equality -/

def sameEntries (xs ys : Option Entries) : Bool :=
  match xs, ys with
  | none, none => true
  | some xs, some ys => (Value.dict default xs).sameAs (.dict default ys)
  | _, _ => false

def sameZoo (z w : Option Zoo) : Bool :=
  match z, w with
  | none, none => true
  | some z, some w => z.sameAs w
  | _, _ => false

def sameAs (c d : Criteria) : Bool :=
  c.inputClass = d.inputClass && c.outputClass = d.outputClass
    && c.application = d.application && c.engine = d.engine && c.device = d.device
    && c.groupId = d.groupId && c.artifactId = d.artifactId && sameZoo c.modelZoo d.modelZoo
    && sameEntries c.filters d.filters && sameEntries c.arguments d.arguments
    && sameEntries c.options d.options && c.translator = d.translator && c.block = d.block
    && c.modelName = d.modelName && c.progress = d.progress

/-! ## Lemmas -/

theorem sameZoo_self (o : Option Zoo) : sameZoo o o = true := by
  cases o <;> simp [sameZoo, Zoo.sameAs]

end Criteria

end ModelSearch
