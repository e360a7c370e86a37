import ModelSearch.Number.Shortest
import ModelSearch.Text.Base64
import ModelSearch.Value.Basic
import ModelSearch.Yaml.Implicit

/-!
# From values to a document

What a document is to say of a value, before it is laid out: the tag and the text of every scalar,
the tags of the collections, and an anchor on every object that occurs more than once, with aliases
for its later occurrences.  Anchors are numbered in the order in which objects are met again.
-/

namespace ModelSearch.Yaml

inductive Doc where
  | alias (name : String)
  /-- A scalar: whether its tag goes without saying if it is plain, or quoted, and whether it asks
  for a block. -/
  | scalar (anchor : Option String) (tag : String) (plainImplied quotedImplied block : Bool)
      (text : String)
  | sequence (anchor : Option String) (tag : String) (implied : Bool) (items : List Doc)
  | mapping (anchor : Option String) (tag : String) (implied : Bool) (entries : List (Doc × Doc))
  deriving Repr

/-! ## Anchors -/

/-- The objects met so far, and those met again. -/
structure Marks where
  seen : List Mark := []
  again : List Mark := []

/-- Meet an object: whether it is new. -/
def Marks.meet (m : Marks) (mark : Mark) : Bool × Marks :=
  if m.seen.contains mark then
    (false, if m.again.contains mark then m else { m with again := m.again ++ [mark] })
  else (true, { m with seen := mark :: m.seen })

mutual

/-- Meet the objects of a value; those inside an object only the first time. -/
def markValue (m : Marks) : Value → Marks
  | .date k _ => (m.meet k).2
  | .moment k _ => (m.meet k).2
  | .list k items =>
    let (new, m) := m.meet k
    if new then markValues m items else m
  | .set k items =>
    let (new, m) := m.meet k
    if new then markValues m items else m
  | .dict k entries =>
    let (new, m) := m.meet k
    if new then markEntries m entries else m
  | .tuple k items =>
    if items.isEmpty then m
    else
      let (new, m) := m.meet k
      if new then markValues m items else m
  | _ => m

def markValues (m : Marks) : List Value → Marks
  | [] => m
  | v :: vs => markValues (markValue m v) vs

def markEntries (m : Marks) : List (Value × Value) → Marks
  | [] => m
  | (k, v) :: es => markEntries (markValue (markValue m k) v) es

end

/-- The name of the anchor of an object, if it has one. -/
def anchorOf (again : List Mark) (mark : Mark) : Option String :=
  (again.findIdx? fun m => m = mark).map fun i => "id" ++ Text.padded 3 (i + 1)

/-! ## Scalars -/

/-- The short form of a scalar tag. -/
def Tag.short : Tag → String
  | .null => "!!null"
  | .bool => "!!bool"
  | .int => "!!int"
  | .float => "!!float"
  | .binary => "!!binary"
  | .timestamp => "!!timestamp"
  | .text => "!!str"
  | .omap => "!!omap"
  | .pairs => "!!pairs"
  | .set => "!!set"
  | .sequence => "!!seq"
  | .mapping => "!!map"
  | .merge => "!!merge"
  | .value => "!!value"
  | .other name => name

def tupleTag : String := "!!python/tuple"

def scalarDoc (anchor : Option String) (tag : Tag) (text : String) : Doc :=
  .scalar anchor tag.short (implicitTag text = tag) (tag = .text) (tag = .binary) text

/-- The text of a number with a point in front of its exponent. -/
def pointed (xs : List Char) : List Char :=
  match Text.firstCut 'e' xs with
  | some (digits, exponent) =>
    if xs.contains '.' then xs else digits ++ ".0e".toList ++ exponent
  | none => xs

def floatText (x : Binary64) : String :=
  match x with
  | .infinite neg => if neg then "-.inf" else ".inf"
  | x => .ofList (pointed x.text.toList)

/-! ## Documents -/

/-- The document of an object that is met: an alias, or what `build` makes of it. -/
def once (again : List Mark) (mark : Mark) (seen : List Mark)
    (build : Option String → List Mark → Doc × List Mark) : Doc × List Mark :=
  let anchor := anchorOf again mark
  match anchor with
  | some name => if seen.contains mark then (.alias name, seen) else build anchor (mark :: seen)
  | none => build none seen

mutual

/-- The document of a value, and the objects written so far. -/
def docOf (again seen : List Mark) : Value → Doc × List Mark
  | .null => (scalarDoc none .null "null", seen)
  | .bool b => (scalarDoc none .bool (if b then "true" else "false"), seen)
  | .int n => (scalarDoc none .int (toString n), seen)
  | .float x => (scalarDoc none .float (floatText x), seen)
  | .notANumber _ => (scalarDoc none .float ".nan", seen)
  | .text s => (scalarDoc none .text s, seen)
  | .bytes bs => (scalarDoc none .binary (.ofList (Text.base64Lines bs)), seen)
  | .date k d => once again k seen fun a seen => (scalarDoc a .timestamp d.iso, seen)
  | .moment k t => once again k seen fun a seen => (scalarDoc a .timestamp (t.iso " "), seen)
  | .list k items => once again k seen fun a seen =>
    let (docs, seen) := docsOf again seen items
    (.sequence a "!!seq" true docs, seen)
  | .tuple k items =>
    if items.isEmpty then (.sequence none tupleTag false [], seen)
    else once again k seen fun a seen =>
      let (docs, seen) := docsOf again seen items
      (.sequence a tupleTag false docs, seen)
  | .set k items => once again k seen fun a seen =>
    let (docs, seen) := docsOf again seen items
    (.mapping a "!!set" false (docs.map fun d => (d, scalarDoc none .null "null")), seen)
  | .dict k entries => once again k seen fun a seen =>
    let (docs, seen) := pairDocs again seen entries
    (.mapping a "!!map" true docs, seen)

def docsOf (again seen : List Mark) : List Value → List Doc × List Mark
  | [] => ([], seen)
  | v :: vs =>
    let (d, seen) := docOf again seen v
    let (ds, seen) := docsOf again seen vs
    (d :: ds, seen)

def pairDocs (again seen : List Mark) : List (Value × Value) → List (Doc × Doc) × List Mark
  | [] => ([], seen)
  | (k, v) :: es =>
    let (dk, seen) := docOf again seen k
    let (dv, seen) := docOf again seen v
    let (ds, seen) := pairDocs again seen es
    ((dk, dv) :: ds, seen)

end

/-- The document of a value. -/
def present (v : Value) : Doc := (docOf (markValue {} v).again [] v).1

end ModelSearch.Yaml
