import ModelSearch.Yaml.Fault
import ModelSearch.Yaml.Implicit
import ModelSearch.Yaml.Tokens

/-!
# From tokens to nodes

The grammar of documents.  A node is a scalar, a sequence or a mapping with its tag and a serial
number; a node that an alias names again has the same number at both places.  A sequence
reserves a number for each of its items as well.  Nodes are trees: one that is a part of itself is well
formed, but it is no node here, and reading ends at its alias with a fault of its own.

    document text       the one node of a document, if it has one
-/

namespace ModelSearch.Yaml

inductive Node where
  | scalar (serial : Nat) (tag : Tag) (text : String)
  | sequence (serial : Nat) (tag : Tag) (items : List Node)
  | mapping (serial : Nat) (tag : Tag) (entries : List (Node × Node))
  deriving Repr

instance : Inhabited Node := ⟨.scalar 0 .null ""⟩

def Node.serial : Node → Nat
  | .scalar n _ _ | .sequence n _ _ | .mapping n _ _ => n

def Node.tag : Node → Tag
  | .scalar _ t _ | .sequence _ t _ | .mapping _ t _ => t

structure NodeReader where
  tokens : List Token
  /-- What the handles of tags stand for. -/
  handles : List (String × String) := []
  /-- The anchors of the nodes that were begun. -/
  opened : List String := []
  /-- The nodes that are complete, under their anchors. -/
  anchors : List (String × Node) := []
  nextSerial : Nat := 0
  deriving Repr

namespace NodeReader

/-- What was read, and the reader behind it. -/
abbrev Parsed (α : Type) := α × NodeReader

/-- The next token; a fault among the tokens is met when it is looked at. -/
def peek (p : NodeReader) : Except Fault (Option Token) :=
  match p.tokens with
  | .fault f :: _ => .error f.fault
  | t :: _ => .ok (some t)
  | [] => .ok none

def skip (p : NodeReader) : NodeReader := { p with tokens := p.tokens.drop 1 }

/-- Whether the next token is one of some; the end of the tokens is none of them. -/
def sees (p : NodeReader) (ts : List Token) : Except Fault Bool := do
  match ← p.peek with
  | some t => return ts.contains t
  | none => return false

def take (p : NodeReader) (n : Nat) : Nat × NodeReader :=
  (p.nextSerial, { p with nextSerial := p.nextSerial + n })

/-- The scalar of nothing. -/
def emptyScalar (p : NodeReader) : Node × NodeReader :=
  let (n, p) := p.take 1
  (.scalar n .null "", p)

/-- Begin a node under its anchor, which has to be new. -/
def opens (p : NodeReader) (anchor : Option String) : Except Fault NodeReader :=
  match anchor with
  | none => .ok p
  | some a =>
    if p.opened.contains a then .error .document else .ok { p with opened := a :: p.opened }

/-- Complete a node under its anchor. -/
def named (p : NodeReader) (anchor : Option String) (node : Node) : Parsed Node :=
  match anchor with
  | none => (node, p)
  | some a => (node, { p with anchors := (a, node) :: p.anchors })

/-- The node that an alias names.  One that is not complete would be a part of itself. -/
def aliased (p : NodeReader) (anchor : String) : Except Fault Node :=
  match p.anchors.find? fun e => e.1 = anchor with
  | some (_, n) => .ok n
  | none => .error (if p.opened.contains anchor then .recursive else .document)

/-- The full name of a tag. -/
def tagName (p : NodeReader) (handle : Option String) (suffix : String) : Except Fault String :=
  match handle with
  | none => .ok suffix
  | some h =>
    match p.handles.find? fun e => e.1 = h with
    | some (_, text) => .ok (text ++ suffix)
    | none => .error .document

/-- What stands in front of a node: an anchor and a tag, in either order. -/
def properties (p : NodeReader) : Except Fault (Parsed (Option String × Option String)) := do
  match ← p.peek with
  | some (.anchor a) =>
    let p := p.skip
    match ← p.peek with
    | some (.tag h s) => return ((some a, some (← p.tagName h s)), p.skip)
    | _ => return ((some a, none), p)
  | some (.tag h s) =>
    let q := p.skip
    match ← q.peek with
    | some (.anchor a) => return ((some a, some (← p.tagName h s)), q.skip)
    | _ => return ((none, some (← p.tagName h s)), q)
  | _ => return ((none, none), p)

/-- The tag of a scalar: the one that is given, or the one of its form. -/
def scalarTag (tag : Option String) (plain : Bool) (text : String) : Tag :=
  match tag with
  | none => if plain then implicitTag text else .text
  | some t => if t = "!" then resolvedTag text else .ofName t

def collectionTag (tag : Option String) (default : Tag) : Tag :=
  match tag with
  | none => default
  | some t => if t = "!" then default else .ofName t

def sequenceNode (p : NodeReader) (anchor tag : Option String) (items : List Node) : Parsed Node :=
  let (n, p) := p.take (items.length + 1)
  p.named anchor (.sequence n (collectionTag tag .sequence) items)

def mappingNode (p : NodeReader) (anchor tag : Option String) (entries : List (Node × Node)) :
    Parsed Node :=
  let (n, p) := p.take 1
  p.named anchor (.mapping n (collectionTag tag .mapping) entries)

def scalarNode (p : NodeReader) (anchor : Option String) (tag : Tag) (text : String) : Parsed Node :=
  let (n, p) := p.take 1
  p.named anchor (.scalar n tag text)

/-- Behind the comma in front of every item of a flow collection but the first. -/
def separated (first : Bool) (p : NodeReader) : Except Fault NodeReader := do
  if first then return p
  else if ← p.sees [.flowEntry] then return p.skip
  else .error .document

/-! ## The grammar -/

/-- Properties without content make an empty scalar. -/
def emptyNode (p : NodeReader) (anchor tag : Option String) : Except Fault (Parsed Node) :=
  if anchor.isNone && tag.isNone then .error .document
  else .ok (p.scalarNode anchor (scalarTag tag true "") "")

mutual

/-- A node.  Blocks can only stand in blocks, and a sequence that is not indented only in a
mapping. -/
def node (block indentless : Bool) (p : NodeReader) : Nat → Except Fault (Parsed Node)
  | 0 => .error .document
  | fuel + 1 => do
    if let some (.alias a) ← p.peek then return (← p.aliased a, p.skip)
    else
      let ((anchor, tag), p) ← p.properties
      let t ← p.peek
      let p ← p.opens anchor
      match t with
      | some .entry =>
        if indentless then
          let (items, p) ← indentlessItems p fuel
          return p.sequenceNode anchor tag items
        else p.emptyNode anchor tag
      | some (.scalar text plain) =>
        return p.skip.scalarNode anchor (scalarTag tag plain text) text
      | some .flowSequenceStart =>
        let (items, p) ← flowItems true p.skip fuel
        return p.sequenceNode anchor tag items
      | some .flowMappingStart =>
        let (entries, p) ← flowEntries true p.skip fuel
        return p.mappingNode anchor tag entries
      | some .sequenceStart =>
        if block then
          let (items, p) ← blockItems p.skip fuel
          return p.sequenceNode anchor tag items
        else p.emptyNode anchor tag
      | some .mappingStart =>
        if block then
          let (entries, p) ← blockEntries p.skip fuel
          return p.mappingNode anchor tag entries
        else p.emptyNode anchor tag
      | _ => p.emptyNode anchor tag

/-- The items of an indented sequence, and its end. -/
def blockItems (p : NodeReader) : Nat → Except Fault (Parsed (List Node))
  | 0 => .error .document
  | fuel + 1 => do
    match ← p.peek with
    | some .entry =>
      let p := p.skip
      let (item, p) ←
        if ← p.sees [.entry, .blockEnd] then .ok p.emptyScalar else node true false p fuel
      let (items, p) ← blockItems p fuel
      return (item :: items, p)
    | some .blockEnd => return ([], p.skip)
    | _ => .error .document

/-- The items of a sequence that is not indented. -/
def indentlessItems (p : NodeReader) : Nat → Except Fault (Parsed (List Node))
  | 0 => .error .document
  | fuel + 1 => do
    match ← p.peek with
    | some .entry =>
      let p := p.skip
      let (item, p) ←
        if ← p.sees [.entry, .key, .value, .blockEnd] then .ok p.emptyScalar
        else node true false p fuel
      let (items, p) ← indentlessItems p fuel
      return (item :: items, p)
    | _ => return ([], p)

/-- A key or a value of a block mapping, behind its sign. -/
def blockPart (p : NodeReader) : Nat → Except Fault (Parsed Node)
  | 0 => .error .document
  | fuel + 1 => do
    if ← p.sees [.key, .value, .blockEnd] then .ok p.emptyScalar else node true true p fuel

/-- The entries of a block mapping, and its end. -/
def blockEntries (p : NodeReader) : Nat → Except Fault (Parsed (List (Node × Node)))
  | 0 => .error .document
  | fuel + 1 => do
    match ← p.peek with
    | some .blockEnd => return ([], p.skip)
    | some .key =>
      let (key, p) ← blockPart p.skip fuel
      let (value, p) ←
        if ← p.sees [.value] then blockPart p.skip fuel else .ok p.emptyScalar
      let (entries, p) ← blockEntries p fuel
      return ((key, value) :: entries, p)
    | _ => .error .document

/-- A key or a value of a flow collection, behind its sign. -/
def flowPart (close : Token) (key : Bool) (p : NodeReader) : Nat → Except Fault (Parsed Node)
  | 0 => .error .document
  | fuel + 1 => do
    let stops := if key then [.value, .flowEntry, close] else [.flowEntry, close]
    if ← p.sees stops then .ok p.emptyScalar else node false false p fuel

/-- The value of an entry of a flow collection, or nothing. -/
def flowValue (close : Token) (p : NodeReader) : Nat → Except Fault (Parsed Node)
  | 0 => .error .document
  | fuel + 1 => do
    if ← p.sees [.value] then flowPart close false p.skip fuel else .ok p.emptyScalar

/-- The items of a flow sequence, and its end.  A key makes a mapping of one entry. -/
def flowItems (first : Bool) (p : NodeReader) : Nat → Except Fault (Parsed (List Node))
  | 0 => .error .document
  | fuel + 1 => do
    if ← p.sees [.flowSequenceEnd] then return ([], p.skip)
    else
      let p ← separated first p
      match ← p.peek with
      | some .flowSequenceEnd => return ([], p.skip)
      | some .key =>
        let (key, p) ← flowPart .flowSequenceEnd true p.skip fuel
        let (value, p) ← flowValue .flowSequenceEnd p fuel
        let (item, p) := p.mappingNode none none [(key, value)]
        let (items, p) ← flowItems false p fuel
        return (item :: items, p)
      | _ =>
        let (item, p) ← node false false p fuel
        let (items, p) ← flowItems false p fuel
        return (item :: items, p)

/-- The entries of a flow mapping, and its end.  Something that is no key is one without a value. -/
def flowEntries (first : Bool) (p : NodeReader) : Nat → Except Fault (Parsed (List (Node × Node)))
  | 0 => .error .document
  | fuel + 1 => do
    if ← p.sees [.flowMappingEnd] then return ([], p.skip)
    else
      let p ← separated first p
      match ← p.peek with
      | some .flowMappingEnd => return ([], p.skip)
      | some .key =>
        let (key, p) ← flowPart .flowMappingEnd true p.skip fuel
        let (value, p) ← flowValue .flowMappingEnd p fuel
        let (entries, p) ← flowEntries false p fuel
        return ((key, value) :: entries, p)
      | _ =>
        let (key, p) ← node false false p fuel
        let (value, p) := p.emptyScalar
        let (entries, p) ← flowEntries false p fuel
        return ((key, value) :: entries, p)

end

/-! ## Documents -/

/-- Handles that are not declared. -/
def commonHandles : List (String × String) := [("!", "!"), ("!!", commonTags)]

/-- The directives of a document: one version, of the first kind, and each handle once. -/
def directives (version : Bool) (handles : List (String × String)) :
    List Token → Except Fault (List (String × String) × List Token)
  | .directive (.version major) :: rest =>
    if version || major ≠ 1 then .error .document else directives true handles rest
  | .directive (.tag h t) :: rest =>
    if handles.any fun e => e.1 = h then .error .document
    else directives version (handles ++ [(h, t)]) rest
  | .directive .other :: rest => directives version handles rest
  | rest => .ok (handles ++ commonHandles, rest)

/-- Nothing but marks of the end may follow a document. -/
def atEnd : List Token → Except Fault Unit
  | [] => .ok ()
  | .documentEnd :: rest => atEnd rest
  | .fault f :: _ => .error f.fault
  | _ => .error .document

/-- A document behind its directives and the mark of its start; it may be empty. -/
def markedDocument (p : NodeReader) (fuel : Nat) : Except Fault (Option Node) := do
  let (handles, rest) ← directives false [] p.tokens
  let p := { p with tokens := rest, handles := handles }
  if ← p.sees [.documentStart] then
    let p := p.skip
    let empty :=
      match ← p.peek with
      | none | some (.directive _) | some .documentStart | some .documentEnd => true
      | _ => false
    let (n, p) ← if empty then .ok p.emptyScalar else node true false p fuel
    atEnd p.tokens
    return some n
  else .error .document

/-- The one document of the tokens. -/
def document (p : NodeReader) : Except Fault (Option Node) := do
  let fuel := 4 * p.tokens.length + 8
  match ← p.peek with
  | none => return none
  | some (.directive _) | some .documentStart => markedDocument p fuel
  | _ =>
    let p := { p with handles := commonHandles }
    let (n, p) ← node true false p fuel
    atEnd p.tokens
    return some n

end NodeReader

/-- The one node of a document. -/
def document (text : List Char) : Except Fault (Option Node) :=
  NodeReader.document { tokens := tokens text }

end ModelSearch.Yaml
