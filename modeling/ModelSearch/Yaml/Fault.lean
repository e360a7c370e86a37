import ModelSearch.Calendar
import ModelSearch.Text.Integer
import ModelSearch.Yaml.Token

/-!
# Faults of documents

Why a document gives no value.  Most reasons are about the document; the others are about one scalar
whose text is not what its tag says, and each of them has its own message.
-/

namespace ModelSearch.Yaml

inductive Fault where
  /-- The document is malformed, or has a part that nothing can be made of. -/
  | document
  /-- An escape of a number beyond the last character. -/
  | character
  /-- An escape of a number beyond 31 bits. -/
  | characterNumber
  | bool (text : String)
  | emptyNumber
  | integer (fault : Text.IntegerFault)
  | float (text : String)
  | tooLarge
  | timestamp
  /-- A timestamp that is no scalar. -/
  | timestampKind
  | calendar (fault : CalendarFault)
  /-- A node with an alias of it inside, which no value here is. -/
  | recursive
  /-- An escape of half a pair, which no text here can hold. -/
  | surrogate
  deriving DecidableEq, Repr

def Fault.message : Fault → String
  | .document => ""
  | .character => "chr() arg not in range(0x110000)"
  | .characterNumber => "Python int too large to convert to C int"
  | .bool text => Text.quoted text
  | .emptyNumber => "string index out of range"
  | .integer f => f.message
  | .float text => "could not convert string to float: " ++ Text.quoted text
  | .tooLarge => "int too large to convert to float"
  | .timestamp => "'NoneType' object has no attribute 'groupdict'"
  | .timestampKind => "expected string or bytes-like object, got 'list'"
  | .calendar f => f.message
  | .recursive | .surrogate => ""

/-- Whether a document is none that reading refuses, but one that no value here stands for. -/
def Fault.isForeign : Fault → Bool
  | .recursive | .surrogate => true
  | _ => false

def ScanFault.fault : ScanFault → Fault
  | .malformed => .document
  | .character => .character
  | .characterNumber => .characterNumber
  | .surrogate => .surrogate

end ModelSearch.Yaml
