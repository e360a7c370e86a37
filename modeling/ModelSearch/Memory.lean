import ModelSearch.Criteria.Builder

/-!
# Mappings in memory

A mapping is an object of its own, which several owners can refer to.  Builders and criteria refer
to their mappings.  Whole mappings are copied when they are handed over, single entries are set in
place, and neither looks into the values: a value that is a mapping of somebody else, or has one in it,
is one for good, and shows what is in that mapping at the time.

    m.call o c          a call of a builder that refers to its mappings
    m.copyAll rs        new mappings with the contents of the old ones
    m.builder o         the builder with the contents of its mappings
    m.shown depth es    what entries show, mappings in mappings down to a depth
-/

namespace ModelSearch

/-- The fields of a builder that take a whole mapping. -/
inductive MappingField where
  | filters
  | arguments
  | options
  deriving DecidableEq, Repr

def MappingField.call (f : MappingField) (es : Option Entries) : Call :=
  match f with
  | .filters => .filters es
  | .arguments => .arguments es
  | .options => .options es

/-- The number of a mapping. -/
abbrev Ref := Nat

/-- The mappings that an object refers to. -/
structure MappingRefs where
  filters : Option Ref := none
  arguments : Option Ref := none
  options : Option Ref := none
  deriving DecidableEq, Repr, Inhabited

namespace MappingRefs

def get (rs : MappingRefs) : MappingField → Option Ref
  | .filters => rs.filters
  | .arguments => rs.arguments
  | .options => rs.options

def set (rs : MappingRefs) (f : MappingField) (r : Option Ref) : MappingRefs :=
  match f with
  | .filters => { rs with filters := r }
  | .arguments => { rs with arguments := r }
  | .options => { rs with options := r }

end MappingRefs

/-- A builder or criteria whose mappings stand in memory: the fields, in which the mappings are
left out, and the references that stand for them. -/
structure Object (α : Type) where
  fields : α
  mappings : MappingRefs := {}
  deriving Repr

/-! ## Contents -/

/-- A selection with other mappings. -/
def Selection.withMappings (s : Selection) (content : MappingField → Option Entries) : Selection :=
  { s with
    filters := content .filters, arguments := content .arguments, options := content .options }

def Builder.withMappings (b : Builder) (content : MappingField → Option Entries) : Builder :=
  { b with toSelection := b.toSelection.withMappings content }

def Criteria.withMappings (c : Criteria) (content : MappingField → Option Entries) : Criteria :=
  { c with toSelection := c.toSelection.withMappings content }

/-- The mappings of a selection. -/
def Selection.mapping (s : Selection) : MappingField → Option Entries
  | .filters => s.filters
  | .arguments => s.arguments
  | .options => s.options

/-- Every mapping by its number. -/
abbrev Memory := List Entries

namespace Memory

def read (m : Memory) (r : Ref) : Entries := m.getD r []

/-- The contents of some mappings. -/
def contents (m : Memory) (rs : MappingRefs) (f : MappingField) : Option Entries :=
  (rs.get f).map m.read

def builder (m : Memory) (o : Object Builder) : Builder := o.fields.withMappings (m.contents o.mappings)

def criteria (m : Memory) (o : Object Criteria) : Criteria :=
  o.fields.withMappings (m.contents o.mappings)

end Memory

/-! ## Values that are mappings in memory -/

namespace Value

mutual

/-- The value with other entries in the mappings in memory. -/
def filled (content : Ref → Entries) : Value → Value
  | .list m xs => .list m (filledAll content xs)
  | .tuple m xs => .tuple m (filledAll content xs)
  | .set m xs => .set m (filledAll content xs)
  | .dict (.shared r) _ => .dict (.shared r) (content r)
  | .dict m es => .dict m (filledEntries content es)
  | v => v

def filledAll (content : Ref → Entries) : List Value → List Value
  | [] => []
  | v :: vs => filled content v :: filledAll content vs

def filledEntries (content : Ref → Entries) : List (Value × Value) → List (Value × Value)
  | [] => []
  | (k, v) :: es => (filled content k, filled content v) :: filledEntries content es

end

end Value

namespace Memory

/-- What entries show, mappings in mappings down to a depth.  Below it there is only which mappings
they are. -/
def shown (m : Memory) : Nat → Entries → Entries
  | 0, es => Value.filledEntries (fun _ => []) es
  | depth + 1, es => Value.filledEntries (fun r => m.shown depth (m.read r)) es

/-! ## New mappings -/

/-- A new mapping. -/
def add (m : Memory) (es : Entries) : Memory × Ref := (m ++ [es], m.length)

/-- A new mapping for a content, if there is one. -/
def place (m : Memory) : Option Entries → Memory × Option Ref
  | none => (m, none)
  | some es => let (m, r) := m.add es; (m, some r)

/-- A new mapping with the content of another one, if there is one. -/
def copy (m : Memory) (r : Option Ref) : Memory × Option Ref := m.place (r.map m.read)

/-- New mappings for the contents of every field. -/
def placeAll (m : Memory) (content : MappingField → Option Entries) : Memory × MappingRefs :=
  let (m, filters) := m.place (content .filters)
  let (m, arguments) := m.place (content .arguments)
  let (m, options) := m.place (content .options)
  (m, ⟨filters, arguments, options⟩)

/-- New mappings with the contents of others. -/
def copyAll (m : Memory) (rs : MappingRefs) : Memory × MappingRefs :=
  let (m, filters) := m.copy rs.filters
  let (m, arguments) := m.copy rs.arguments
  let (m, options) := m.copy rs.options
  (m, ⟨filters, arguments, options⟩)

end Memory

/-- What criteria show, mappings in mappings down to a depth. -/
def Criteria.shown (c : Criteria) (m : Memory) (depth : Nat) : Criteria :=
  c.withMappings fun f => (c.toSelection.mapping f).map (m.shown depth)

def Builder.shown (b : Builder) (m : Memory) (depth : Nat) : Builder :=
  b.withMappings fun f => (b.toSelection.mapping f).map (m.shown depth)

/-! ## Calls -/

/-- What a call does to a mapping. -/
inductive MappingEdit where
  | replace (es : Option Entries)
  | put (key value : Value)
  deriving Repr

/-- The mapping that a call works on, if it works on one. -/
def Call.edit? : Call → Option (MappingField × MappingEdit)
  | .filters es => some (.filters, .replace es)
  | .filter k v => some (.filters, .put k v)
  | .arguments es => some (.arguments, .replace es)
  | .argument k v => some (.arguments, .put k v)
  | .options es => some (.options, .replace es)
  | .option k v => some (.options, .put k v)
  | _ => none

/-- What a call leaves behind in memory. -/
structure Effect where
  memory : Memory
  builder : Object Builder
  fault : Option BuildFault := none
  records : List LogRecord := []

namespace Memory

/-- Take a copy of a mapping for a field. -/
def replace (m : Memory) (o : Object Builder) (f : MappingField) (r : Option Ref) : Effect :=
  let (m, r) := m.copy r
  ⟨m, { o with mappings := o.mappings.set f r }, none, []⟩

/-- The mapping of a field, a new one if it is missing. -/
def ensure (m : Memory) (rs : MappingRefs) (f : MappingField) : Memory × Ref :=
  match rs.get f with
  | some r => (m, r)
  | none => m.add []

/-- Set an entry of a field in place. -/
def put (m : Memory) (o : Object Builder) (f : MappingField) (key value : Value) : Effect :=
  let (m, r) := m.ensure o.mappings f
  let o := { o with mappings := o.mappings.set f (some r) }
  match key.unhashable? with
  | some kind => ⟨m, o, some (.unhashable kind), []⟩
  | none => ⟨m.set r ((m.read r).assign key value), o, none, []⟩

def edit (m : Memory) (o : Object Builder) (f : MappingField) : MappingEdit → Effect
  | .replace es => let (m, r) := m.place es; m.replace o f r
  | .put key value => m.put o f key value

def call (m : Memory) (o : Object Builder) (c : Call) : Effect :=
  match c.edit? with
  | some (f, e) => m.edit o f e
  | none =>
    let out := o.fields.apply c
    ⟨m, { o with fields := out.builder }, out.fault, out.records⟩

end Memory

end ModelSearch
