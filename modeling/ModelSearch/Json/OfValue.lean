import ModelSearch.Json.Basic
import ModelSearch.Platform

/-!
# Values as JSON

Tuples become lists, and the keys of a mapping texts.  Dates, byte strings and sets have no JSON
form, neither as values nor, with tuples, as keys.
-/

namespace ModelSearch

/-- Why a value has no JSON form. -/
inductive JsonFault where
  | noForm (kind : String)
  | noKey (kind : String)
  | digits (fault : Text.IntegerFault)
  | exhausted
  /-- A collection inside itself.  It is no value here. -/
  | circular
  deriving DecidableEq, Repr

def JsonFault.message : JsonFault → String
  | .noForm kind => "Object of type " ++ kind ++ " is not JSON serializable"
  | .noKey kind => "keys must be str, int, float, bool or None, not " ++ kind
  | .digits fault => fault.message
  | .exhausted => exhaustedMessage
  | .circular => "Circular reference detected"

namespace Value

def jsonInteger (n : Int) : Except JsonFault String :=
  ((Value.int n).shown).mapError .digits

/-- The text of a float, which JSON itself has none for when it is not finite. -/
def jsonFloat (x : Binary64) : String :=
  if x.text = "inf" then "Infinity" else if x.text = "-inf" then "-Infinity" else x.text

/-- A key as text. -/
def jsonKey : Value → Except JsonFault String
  | .text s => .ok s
  | .float x => .ok (jsonFloat x)
  | .notANumber _ => .ok "NaN"
  | .bool b => .ok (if b then "true" else "false")
  | .null => .ok "null"
  | .int n => jsonInteger n
  | v => .error (.noKey v.kind)

mutual

/-- The JSON form of a value. -/
def toJson : Value → Except JsonFault JsonValue
  | .null => .ok .null
  | .bool b => .ok (.bool b)
  | .int n => (jsonInteger n).map .number
  | .float x => .ok (.number (jsonFloat x))
  | .notANumber _ => .ok (.number "NaN")
  | .text s => .ok (.string s)
  | .list _ xs | .tuple _ xs => (allToJson xs).map .list
  | .dict _ es => (entriesToJson es).map .object
  | v => .error (.noForm v.kind)

def allToJson : List Value → Except JsonFault (List JsonValue)
  | [] => .ok []
  | v :: vs => do return (← toJson v) :: (← allToJson vs)

def entriesToJson : List (Value × Value) → Except JsonFault (List (String × JsonValue))
  | [] => .ok []
  | (k, v) :: es => do
    let key ← jsonKey k
    let value ← toJson v
    return (key, value) :: (← entriesToJson es)

end

/-- The JSON form of a value, if the interpreter follows it to its end. -/
def reachedJson (reach : Reach) (v : Value) : Except JsonFault JsonValue :=
  if reach.fault? .json v = some .exhausted then .error .exhausted else v.toJson

end Value

end ModelSearch
