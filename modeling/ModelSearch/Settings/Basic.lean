import ModelSearch.Criteria.Builder

/-!
# Settings

What a configuration file can say about criteria: twelve settings with plain values, each of which
may be missing.  Settings turn into a builder by replaying them.  The group comes before the
artifact, so that a qualified artifact id has the last word on the group.

    s.replay source     the builder, or the first setting that cannot be replayed
-/

namespace ModelSearch

structure Settings where
  application : Option Application := none
  inputClass : Option String := none
  outputClass : Option String := none
  engine : Option String := none
  device : Option String := none
  groupId : Option String := none
  artifactId : Option String := none
  modelUrls : Option String := none
  filters : Option Entries := none
  arguments : Option Entries := none
  options : Option Entries := none
  modelName : Option String := none
  deriving Repr, Inhabited

/-- The settings in the order in which they are declared. -/
inductive Setting where
  | application
  | inputClass
  | outputClass
  | engine
  | device
  | groupId
  | artifactId
  | modelUrls
  | filters
  | arguments
  | options
  | modelName
  deriving DecidableEq, Repr

def Setting.all : List Setting :=
  [.application, .inputClass, .outputClass, .engine, .device, .groupId, .artifactId, .modelUrls,
   .filters, .arguments, .options, .modelName]

def Setting.name : Setting → String
  | .application => "application"
  | .inputClass => "input_class"
  | .outputClass => "output_class"
  | .engine => "engine"
  | .device => "device"
  | .groupId => "group_id"
  | .artifactId => "artifact_id"
  | .modelUrls => "model_urls"
  | .filters => "filters"
  | .arguments => "arguments"
  | .options => "options"
  | .modelName => "model_name"

/-- Why settings make no builder. -/
inductive ReplayFault where
  | type (fault : TypeFault)
  | device (fault : DeviceFault)
  | build (fault : BuildFault)
  deriving DecidableEq, Repr

def ReplayFault.message : ReplayFault → String
  | .type fault => fault.message
  | .device fault => fault.message
  | .build fault => fault.message

namespace Settings

/-- The type of a name; a missing name and an empty one are no type. -/
def typeOf (name : Option String) (modules : List ModuleInfo := knownModules) :
    Except ReplayFault (Option ModelType) :=
  match name with
  | none => .ok none
  | some n =>
    if n.isEmpty then .ok none
    else
      match resolveType n modules with
      | .ok t => .ok (some t)
      | .error fault => .error (.type fault)

/-- The device of a name; a missing name is no device. -/
def deviceOf (name : Option String) : Except ReplayFault (Option Device) :=
  match name with
  | none => .ok none
  | some n =>
    match Device.ofName n with
    | .ok d => .ok (some d)
    | .error fault => .error (.device fault)

/-- The calls that replay settings, with the device they name. -/
def calls (s : Settings) (mark : Mark) (device : Option Device) : List Call :=
  [.application s.application, .engine s.engine]
    ++ (device.map fun d => Call.device (some d)).toList
    ++ [.groupId s.groupId]
    ++ (s.artifactId.map Call.artifactId).toList
    ++ (s.modelUrls.map fun urls => Call.modelUrls mark urls).toList
    ++ [.filters s.filters, .arguments s.arguments, .options s.options, .modelName s.modelName]

/-- The builder of settings from a source, and the records of making it. -/
def replay (s : Settings) (source : Nat) (modules : List ModuleInfo := knownModules) :
    Except ReplayFault (Builder × List LogRecord) := do
  let input ← typeOf s.inputClass modules
  let output ← typeOf s.outputClass modules
  let device ← deviceOf s.device
  let start : Builder := { inputClass := input, outputClass := output }
  let o := start.run (s.calls (.own source 0) device)
  match o.fault with
  | some fault => .error (.build fault)
  | none => return (o.builder, o.records)

end Settings

end ModelSearch
