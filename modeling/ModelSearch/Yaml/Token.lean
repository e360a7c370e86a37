import ModelSearch.Yaml.Cursor

/-!
# Tokens

The pieces that a document is made of.  Indentation is spelled out: blocks that begin and end by it
have tokens of their own.  A place that is no token is the last one of its document, with its
fault.
-/

namespace ModelSearch.Yaml

/-- Why a place in a document is no token. -/
inductive ScanFault where
  | malformed
  /-- An escape of a number beyond the last character. -/
  | character
  /-- An escape of a number beyond 31 bits. -/
  | characterNumber
  /-- An escape of half a pair, which no text here can hold. -/
  | surrogate
  deriving DecidableEq, Repr

inductive Directive where
  | version (major : Nat)
  | tag (handle text : String)
  | other
  deriving DecidableEq, Repr

inductive Token where
  | directive (d : Directive)
  | documentStart
  | documentEnd
  | sequenceStart
  | mappingStart
  | blockEnd
  | flowSequenceStart
  | flowSequenceEnd
  | flowMappingStart
  | flowMappingEnd
  | entry
  | flowEntry
  | key
  | value
  | alias (name : String)
  | anchor (name : String)
  /-- A tag: a handle, if it has one, and the rest. -/
  | tag (handle : Option String) (suffix : String)
  | scalar (text : String) (plain : Bool)
  | fault (f : ScanFault)
  deriving DecidableEq, Repr

end ModelSearch.Yaml
