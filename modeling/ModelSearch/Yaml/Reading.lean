import ModelSearch.Yaml.Node
import ModelSearch.Yaml.ScalarValue

/-!
# From nodes to values

The value of a node follows from its tag.  Mappings take in the entries of the mappings they merge,
before their own.  Nodes are looked at in rounds, the items of all collections of one round in order
and the collections among them in the next one; `inspect` finds the first fault in that order, and
`construct` makes the value of a document that has none.

    read source text       the value of a document, null if it is empty
-/

namespace ModelSearch.Yaml

/-! ## Kinds of nodes -/

/-- What a tag makes of a node. -/
inductive Shape where
  | scalar
  | sequence
  | mapping
  | set
  | pairs
  | unknown
  deriving DecidableEq, Repr

def Tag.shape : Tag → Shape
  | .null | .bool | .int | .float | .binary | .timestamp | .text => .scalar
  | .sequence => .sequence
  | .mapping => .mapping
  | .set => .set
  | .omap | .pairs => .pairs
  | .merge | .value | .other _ => .unknown

/-! ## Scalars -/

mutual

/-- The text of a node: a scalar's own, or that of the value of a mapping's default key. -/
def scalarText : Node → Except Fault String
  | .scalar _ _ text => .ok text
  | .sequence _ _ _ => .error .document
  | .mapping _ _ entries => defaultText entries

def defaultText : List (Node × Node) → Except Fault String
  | [] => .error .document
  | (k, v) :: rest => if k.tag = .value then scalarText v else defaultText rest

end

def isScalar : Node → Bool
  | .scalar _ _ _ => true
  | _ => false

/-- The value of a node with a scalar tag. -/
def scalarNodeValue (source : Nat) (n : Node) : Except Fault Value := do
  let text ← scalarText n
  if n.tag = .timestamp && !isScalar n then .error .timestampKind
  else
    match scalarValue? (.own source n.serial) n.tag text with
    | some v => v
    | none => .error .document

/-! ## Merging -/

/-- A default key among other keys is the text it is written as. -/
def plainKey : Node → Node
  | .scalar n .value text => .scalar n .text text
  | n => n

mutual

/-- The entries that a mapping merges, and then its own. -/
def mergedEntries : List (Node × Node) → Except Fault (List (Node × Node) × List (Node × Node))
  | [] => .ok ([], [])
  | (k, v) :: rest => do
    if k.tag = .merge then
      let taken ← mergedFrom v
      let (merged, own) ← mergedEntries rest
      return (taken ++ merged, own)
    else
      let (merged, own) ← mergedEntries rest
      return (merged, (plainKey k, v) :: own)

/-- The entries that a merge key takes from its value: a mapping, or mappings of which the
first has the last word. -/
def mergedFrom : Node → Except Fault (List (Node × Node))
  | .mapping _ _ entries => do
    let (merged, own) ← mergedEntries entries
    return merged ++ own
  | .sequence _ _ items => do
    let parts ← mergedItems items
    return parts.reverse.flatten
  | .scalar _ _ _ => .error .document

def mergedItems : List Node → Except Fault (List (List (Node × Node)))
  | [] => .ok []
  | n :: rest => do
    let part ←
      match n with
      | .mapping _ _ entries => do
        let (merged, own) ← mergedEntries entries
        .ok (merged ++ own)
      | _ => .error .document
    return part :: (← mergedItems rest)

end

/-- The entries of a mapping with those that it merges. -/
def allEntries (entries : List (Node × Node)) : Except Fault (List (Node × Node)) := do
  let (merged, own) ← mergedEntries entries
  return merged ++ own

/-- The entries of a mapping whose keys are all scalars; a collection is no key. -/
def keyedEntries (entries : List (Node × Node)) : Except Fault (List (Node × Node)) := do
  let all ← allEntries entries
  if all.all fun e => e.1.tag.shape = .scalar then return all else .error .document

/-- The entries of a sequence of mappings of one entry each. -/
def pairEntries : List Node → Except Fault (List (Node × Node))
  | [] => .ok []
  | .mapping _ _ [e] :: rest => return e :: (← pairEntries rest)
  | _ => .error .document

/-! ## Faults -/

/-- The collections that were met, and those of them that are still to be looked into. -/
structure Met where
  serials : List Nat := []
  waiting : List Node := []

/-- Look at a node: a scalar at once, a collection in the next round. -/
def meet (m : Met) (n : Node) : Except Fault Met :=
  match n.tag.shape with
  | .scalar => (scalarNodeValue 0 n).map fun _ => m
  | .unknown => .error .document
  | _ =>
    if m.serials.contains n.serial then .ok m
    else .ok ⟨n.serial :: m.serials, m.waiting ++ [n]⟩

def meetAll (m : Met) : List Node → Except Fault Met
  | [] => .ok m
  | n :: rest => do meetAll (← meet m n) rest

/-- Look at keys and values; a collection is no key. -/
def meetEntries (m : Met) : List (Node × Node) → Except Fault Met
  | [] => .ok m
  | (k, v) :: rest => do
    let m ← meet m k
    if k.tag.shape = .scalar then meetEntries (← meet m v) rest else .error .document

/-- Look at the pairs of a sequence one after the other. -/
def meetPairs (m : Met) : List Node → Except Fault Met
  | [] => .ok m
  | .mapping _ _ [(k, v)] :: rest => do meetPairs (← meet (← meet m k) v) rest
  | _ => .error .document

/-- Look into a collection. -/
def lookInto (m : Met) (n : Node) : Except Fault Met :=
  match n.tag.shape, n with
  | .sequence, .sequence _ _ items => meetAll m items
  | .pairs, .sequence _ _ items => meetPairs m items
  | .mapping, .mapping _ _ entries | .set, .mapping _ _ entries => do
    meetEntries m (← allEntries entries)
  | _, _ => .error .document

def lookIntoAll (m : Met) : List Node → Except Fault Met
  | [] => .ok m
  | n :: rest => do lookIntoAll (← lookInto m n) rest

/-- Round after round, until no collection waits. -/
def rounds (m : Met) : Nat → Except Fault Unit
  | 0 => .ok ()
  | fuel + 1 =>
    if m.waiting.isEmpty then .ok ()
    else do rounds (← lookIntoAll { m with waiting := [] } m.waiting) fuel

/-- The first fault of a document. -/
def inspect (n : Node) : Except Fault Unit := do
  rounds (← meet {} n) (n.serial + 1)

/-! ## Values -/

/-- Tuples of pairs, marked by the numbers that their sequence reserves. -/
def tupled (source : Nat) : Nat → List (Value × Value) → List Value
  | _, [] => []
  | n, (k, v) :: rest => .tuple (.own source n) [k, v] :: tupled source (n + 1) rest

def constructEntries (construct : Node → Except Fault Value) :
    List (Node × Node) → Except Fault (List (Value × Value))
  | [] => .ok []
  | (k, v) :: rest => do
    return (← construct k, ← construct v) :: (← constructEntries construct rest)

/-- The value of a node of a source, collections nested at most `fuel` deep. -/
def construct (source : Nat) : Nat → Node → Except Fault Value
  | 0, _ => .error .document
  | fuel + 1, n =>
    match n.tag.shape, n with
    | .scalar, n => scalarNodeValue source n
    | .sequence, .sequence s _ items =>
      return .list (.own source s) (← items.mapM (construct source fuel))
    | .mapping, .mapping s _ entries => do
      let es ← constructEntries (construct source fuel) (← keyedEntries entries)
      return .dict (.own source s) (Entries.assignAll [] es)
    | .set, .mapping s _ entries => do
      let es ← constructEntries (construct source fuel) (← keyedEntries entries)
      return .set (.own source s) ((Entries.assignAll [] es).map (·.1))
    | .pairs, .sequence s _ items => do
      let es ← constructEntries (construct source fuel) (← pairEntries items)
      return .list (.own source s) (tupled source (s + 1) es)
    | _, _ => .error .document

/-- The value of a document, whose objects are those of the source. -/
def read (source : Nat) (text : List Char) : Except Fault Value := do
  match ← document text with
  | none => return .null
  | some n =>
    inspect n
    construct source (n.serial + 2) n

end ModelSearch.Yaml
