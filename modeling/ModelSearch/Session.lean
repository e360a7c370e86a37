import ModelSearch.ConfigFile
import ModelSearch.Memory

/-!
# Sessions

Builders, criteria and the mappings of a caller, each under a name, and the steps that work on them.
Names stand for objects: a name that is given again leaves the object it stood for as it is.  Values
can be mappings in memory too.  What a step does beside changing the session is told by its fault and
its records.

    s.step a        the session after a step, its fault and its records
    s.run as        the session after all of them
    s.builders      the builders by name, with what their mappings show
-/

namespace ModelSearch

/-- Named things, each name once. -/
abbrev Named (α : Type) := List (String × α)

namespace Named

def find {α : Type} (xs : Named α) (name : String) : Option α :=
  (xs.find? fun x => x.1 = name).map (·.2)

/-- Set what a name stands for. -/
def set {α : Type} (xs : Named α) (name : String) (a : α) : Named α :=
  match xs with
  | [] => [(name, a)]
  | x :: xs => if x.1 = name then (name, a) :: xs else x :: set xs name a

end Named

structure Session where
  memory : Memory := []
  builderObjects : List (Object Builder) := []
  criteriaObjects : List (Object Criteria) := []
  /-- The mappings that the caller made. -/
  callerMappings : List Ref := []
  builderNames : Named Nat := []
  criteriaNames : Named Nat := []
  mappingNames : Named Ref := []
  deriving Repr, Inhabited

inductive Action where
  | create (builder : String) (input output : Option ModelType)
  /-- Keep a builder that was made elsewhere. -/
  | keep (builder : String) (b : Builder)
  | retype (builder target : String) (input output : Option ModelType)
  | call (builder : String) (c : Call)
  /-- Set a whole mapping from one of the caller's. -/
  | callWith (builder : String) (field : MappingField) (mapping : String)
  | build (builder target : String)
  | define (mapping : String) (es : Entries)
  | put (mapping : String) (key value : Value)
  | hash (criteria : String)
  | assign (criteria field : String)
  | delete (criteria field : String)
  /-- Set an entry of a field of criteria. -/
  | putField (criteria field : String)
  deriving Repr

/-- Why a step fails. -/
inductive ActionFault where
  | build (fault : BuildFault)
  | unhashableCriteria
  | frozenAssign (field : String)
  | frozenDelete (field : String)
  | readOnly (kind : String)
  | noField (field : String)
  /-- A name that stands for nothing. -/
  | unknown (name : String)
  deriving DecidableEq, Repr

def ActionFault.message : ActionFault → String
  | .build fault => fault.message
  | .unhashableCriteria => "unhashable type: 'Criteria'"
  | .frozenAssign field => "cannot assign to field " ++ Text.quoted field
  | .frozenDelete field => "cannot delete field " ++ Text.quoted field
  | .readOnly kind => "'" ++ kind ++ "' object does not support item assignment"
  | .noField field => "'Criteria' object has no attribute " ++ Text.quoted field
  | .unknown name => Text.quoted name

/-- What a step leaves behind. -/
structure ActionResult where
  session : Session
  fault : Option ActionFault := none
  records : List LogRecord := []

/-- What a field of criteria is, as far as setting an entry of it is concerned. -/
def Criteria.fieldKind (c : Criteria) : Field → String
  | .inputClass | .outputClass => "type"
  | .application => if c.application.isSome then "Application" else "NoneType"
  | .device => if c.device.isSome then "Device" else "NoneType"
  | .modelZoo => (c.modelZoo.map Zoo.kind).getD "NoneType"
  | .filters => if c.filters.isSome then "mappingproxy" else "NoneType"
  | .arguments => if c.arguments.isSome then "mappingproxy" else "NoneType"
  | .options => if c.options.isSome then "mappingproxy" else "NoneType"
  | .translator => (c.translator.map (·.className)).getD "NoneType"
  | .block => (c.block.map (·.className)).getD "NoneType"
  | .progress => (c.progress.map (·.className)).getD "NoneType"
  | f => if (c.plainField f).isSome then "str" else "NoneType"

namespace Session

/-! ## Objects -/

/-- A builder by its number. -/
def builder? (s : Session) (i : Nat) : Option Builder := s.builderObjects[i]?.map s.memory.builder

/-- Criteria by their number. -/
def criteria? (s : Session) (i : Nat) : Option Criteria :=
  s.criteriaObjects[i]?.map s.memory.criteria

/-- How deep mappings are shown: to their end, if none is inside itself. -/
def depth (s : Session) : Nat := s.memory.length

def builders (s : Session) : Named Builder :=
  s.builderNames.filterMap fun n => (s.builder? n.2).map fun b => (n.1, b.shown s.memory s.depth)

def criteria (s : Session) : Named Criteria :=
  s.criteriaNames.filterMap fun n => (s.criteria? n.2).map fun c => (n.1, c.shown s.memory s.depth)

def mappings (s : Session) : Named Entries :=
  s.mappingNames.map fun n => (n.1, s.memory.shown s.depth (s.memory.read n.2))

/-- A new builder with mappings of its own. -/
def addBuilder (s : Session) (name : String) (b : Builder) (memory : Memory) (rs : MappingRefs) :
    Session :=
  { s with
    memory := memory
    builderObjects := s.builderObjects ++ [⟨b.withMappings fun _ => none, rs⟩]
    builderNames := s.builderNames.set name s.builderObjects.length }

/-! ## Steps -/

/-- Nothing happens but a fault. -/
def fails (s : Session) (fault : ActionFault) : ActionResult := ⟨s, some fault, []⟩

/-- Work on a builder that has to exist. -/
def withBuilder (s : Session) (name : String) (f : Nat → Object Builder → ActionResult) :
    ActionResult :=
  match s.builderNames.find name with
  | none => s.fails (.unknown name)
  | some i =>
    match s.builderObjects[i]? with
    | none => s.fails (.unknown name)
    | some o => f i o

def withCriteria (s : Session) (name : String) (f : Criteria → ActionResult) : ActionResult :=
  match (s.criteriaNames.find name).bind s.criteria? with
  | some c => f c
  | none => s.fails (.unknown name)

def withMapping (s : Session) (name : String) (f : Ref → ActionResult) : ActionResult :=
  match s.mappingNames.find name with
  | some r => f r
  | none => s.fails (.unknown name)

/-- What a call of a builder leaves behind. -/
def afterCall (s : Session) (i : Nat) (e : Effect) : ActionResult :=
  ⟨{ s with memory := e.memory, builderObjects := s.builderObjects.set i e.builder },
    e.fault.map .build, e.records⟩

def step (s : Session) : Action → ActionResult
  | .create name input output =>
    ⟨s.addBuilder name { inputClass := input, outputClass := output } s.memory {}, none, []⟩
  | .keep name b =>
    let (memory, rs) := s.memory.placeAll b.toSelection.mapping
    ⟨s.addBuilder name b memory rs, none, []⟩
  | .retype name target input output =>
    s.withBuilder name fun _ o =>
      let (memory, rs) := s.memory.copyAll o.mappings
      ⟨s.addBuilder target (o.fields.retyped input output) memory rs, none,
        o.fields.retypeRecords input output⟩
  | .call name c => s.withBuilder name fun i o => s.afterCall i (s.memory.call o c)
  | .callWith name field mapping =>
    s.withMapping mapping fun r =>
      s.withBuilder name fun i o => s.afterCall i (s.memory.replace o field (some r))
  | .build name target =>
    s.withBuilder name fun _ o =>
      match o.fields.build with
      | .error fault => s.fails (.build fault)
      | .ok c =>
        let (memory, rs) := s.memory.copyAll o.mappings
        ⟨{ s with
            memory := memory
            criteriaObjects := s.criteriaObjects ++ [⟨c, rs⟩]
            criteriaNames := s.criteriaNames.set target s.criteriaObjects.length },
          none, [((memory.criteria ⟨c, rs⟩).shown s.memory s.depth).buildRecord]⟩
  | .define name es =>
    let (memory, r) := s.memory.add es
    ⟨{ s with
        memory := memory
        callerMappings := s.callerMappings ++ [r]
        mappingNames := s.mappingNames.set name r }, none, []⟩
  | .put name key value =>
    s.withMapping name fun r =>
      match key.unhashable? with
      | some kind => s.fails (.build (.unhashable kind))
      | none =>
        ⟨{ s with memory := s.memory.set r ((s.memory.read r).assign key value) }, none, []⟩
  | .hash name => s.withCriteria name fun _ => s.fails .unhashableCriteria
  | .assign name field => s.withCriteria name fun _ => s.fails (.frozenAssign field)
  | .delete name field => s.withCriteria name fun _ => s.fails (.frozenDelete field)
  | .putField name field =>
    s.withCriteria name fun c =>
      match Field.all.find? fun f => f.name = field with
      | some f => s.fails (.readOnly (c.fieldKind f))
      | none => s.fails (.noField field)

/-- The session after a sequence of steps, whether they fail or not. -/
def run (s : Session) (actions : List Action) : Session :=
  actions.foldl (fun s a => (s.step a).session) s

/-- The records of a sequence of steps. -/
def trail (s : Session) : List Action → List LogRecord
  | [] => []
  | a :: rest => let r := s.step a; r.records ++ trail r.session rest

end Session

end ModelSearch
