import ModelSearch.Criteria.Basic

/-!
# Building criteria

A builder is a selection in the making.  `Call` is what can be asked of it and `Builder.apply` is
what each call does: the builder afterwards, the fault if the call failed, and the records it
logged.

    b.apply c              one call
    b.run cs               one call after the other, up to the first that fails
    b.build                the criteria of the current selection
    b.retyped i o          a new builder for other types
-/

namespace ModelSearch

structure Builder extends Selection where
  inputClass : Option ModelType := none
  outputClass : Option ModelType := none
  deriving Repr, Inhabited

/-- Why a call fails. -/
inductive BuildFault where
  | artifactId (id : String)
  | zoo (fault : ZooFault)
  | unhashable (kind : String)
  | missingTypes
  deriving DecidableEq, Repr

def BuildFault.message : BuildFault → String
  | .artifactId id => "Invalid artifact id " ++ Text.quoted id ++ ": expected 'group:artifact'"
  | .zoo fault => fault.message
  | .unhashable kind => "unhashable type: '" ++ kind ++ "'"
  | .missingTypes => "Input and output type are required for a Criteria."

inductive Call where
  | application (a : Option Application)
  | engine (name : Option String)
  | device (d : Option Device)
  | groupId (id : Option String)
  | artifactId (id : String)
  /-- The mark is the identity of the zoo that the call makes. -/
  | modelUrls (mark : Mark) (text : String)
  | modelZoo (z : Option Zoo)
  | filters (es : Option Entries)
  | filter (key value : Value)
  | arguments (es : Option Entries)
  | argument (key value : Value)
  | options (es : Option Entries)
  | option (key value : Value)
  | translator (o : Option Collaborator)
  | block (o : Option Collaborator)
  | modelName (name : Option String)
  | progress (o : Option Collaborator)
  deriving Repr

/-- What a call leaves behind. -/
structure Outcome where
  builder : Builder
  fault : Option BuildFault := none
  records : List LogRecord := []
  deriving Repr

/-- What an artifact id says: an id alone, or a group and an id. -/
inductive ArtifactName where
  | bare (id : String)
  | qualified (group id : String)
  | malformed
  deriving DecidableEq, Repr

/-- Split an artifact id at its colons: one colon with something on both sides qualifies it. -/
def ArtifactName.of (text : String) : ArtifactName :=
  match Text.splitAt ':' text.toList with
  | [_] => .bare text
  | [g, a] => if g.isEmpty || a.isEmpty then .malformed else .qualified (.ofList g) (.ofList a)
  | _ => .malformed

/-- Set one entry of a mapping, which is made if it is missing.  A key that cannot be one is
told beside the mapping. -/
def putEntry (es : Option Entries) (key value : Value) : Entries × Option BuildFault :=
  let es := es.getD []
  match key.unhashable? with
  | some kind => (es, some (.unhashable kind))
  | none => (es.assign key value, none)

namespace Builder

/-! ## Calls -/

def setArtifactId (b : Builder) (text : String) : Outcome :=
  match ArtifactName.of text with
  | .bare id => ⟨{ b with artifactId := some id }, none, []⟩
  | .qualified g a => ⟨{ b with groupId := some g, artifactId := some a }, none, []⟩
  | .malformed => ⟨b, some (.artifactId text), []⟩

def setModelUrls (b : Builder) (mark : Mark) (text : String) : Outcome :=
  match Zoo.ofUrls mark text with
  | .ok z => ⟨{ b with modelZoo := some z }, none, [z.urlRecord]⟩
  | .error fault => ⟨b, some (.zoo fault), []⟩

def apply (b : Builder) : Call → Outcome
  | .application a => ⟨{ b with application := a }, none, []⟩
  | .engine name => ⟨{ b with engine := name }, none, []⟩
  | .device d => ⟨{ b with device := d }, none, []⟩
  | .groupId id => ⟨{ b with groupId := id }, none, []⟩
  | .artifactId id => b.setArtifactId id
  | .modelUrls mark text => b.setModelUrls mark text
  | .modelZoo z => ⟨{ b with modelZoo := z }, none, []⟩
  | .filters es => ⟨{ b with filters := es }, none, []⟩
  | .filter k v => let r := putEntry b.filters k v; ⟨{ b with filters := some r.1 }, r.2, []⟩
  | .arguments es => ⟨{ b with arguments := es }, none, []⟩
  | .argument k v => let r := putEntry b.arguments k v; ⟨{ b with arguments := some r.1 }, r.2, []⟩
  | .options es => ⟨{ b with options := es }, none, []⟩
  | .option k v => let r := putEntry b.options k v; ⟨{ b with options := some r.1 }, r.2, []⟩
  | .translator o => ⟨{ b with translator := o }, none, []⟩
  | .block o => ⟨{ b with block := o }, none, []⟩
  | .modelName name => ⟨{ b with modelName := name }, none, []⟩
  | .progress o => ⟨{ b with progress := o }, none, []⟩

/-- Calls one after the other, up to the first that fails. -/
def run (b : Builder) : List Call → Outcome
  | [] => ⟨b, none, []⟩
  | c :: cs =>
    let o := b.apply c
    match o.fault with
    | some _ => o
    | none => let rest := run o.builder cs; { rest with records := o.records ++ rest.records }

/-! ## Types -/

/-- The settings that were chosen for the old types and that new types drop. -/
def dropped (b : Builder) : List Field :=
  (if b.translator.isSome then [.translator] else [])
    ++ (if b.artifactId.isSome then [.artifactId] else [])
    ++ (if b.modelZoo.isSome then [.modelZoo] else [])

/-- A new builder for other types, with the settings that do not depend on them. -/
def retyped (b : Builder) (input output : Option ModelType) : Builder :=
  { b with
    inputClass := input, outputClass := output, translator := none, artifactId := none,
    modelZoo := none }

def typeText (t : Option ModelType) : String := (t.map (·.name)).getD "None"

/-- The record of new types, if they drop anything. -/
def retypeRecords (b : Builder) (input output : Option ModelType) : List LogRecord :=
  if b.dropped.isEmpty then []
  else
    [{ level := .debug
       source := .criteria
       message :=
         s!"Re-typing criteria to ({typeText input}, {typeText output}) drops "
           ++ Text.joinWith ", " (b.dropped.map Field.name) }]

/-! ## Criteria -/

/-- The criteria of the current selection. -/
def build (b : Builder) : Except BuildFault Criteria :=
  match b.inputClass, b.outputClass with
  | some i, some o => .ok { b.toSelection with inputClass := i, outputClass := o }
  | _, _ => .error .missingTypes

end Builder

/-- The record of a build, which tells all fields. -/
def Criteria.buildRecord (c : Criteria) (reach : Reach := .endless) : LogRecord where
  level := .debug
  source := .criteria
  message := "Built " ++ c.literal
  fault := c.present.findSome? fun e => reach.fault? .log e.2

end ModelSearch
