import ModelSearch.TypeCatalogue
import ModelSearch.Value.Literal

/-!
# Platforms

What the library runs on decides some of what it does: which modules can be imported, in which order a
set gives its items, how deep the interpreter follows what is nested, and what of a file is looked at
before all of it was read.  What depends on that takes a platform.  The default one has the sample of
modules, leaves sets as they were written, and has no limit.

    v.arranged o                   the value, its sets in an order
    p.reach.shown purpose v        the words for a value, if the interpreter gets to their end
-/

namespace ModelSearch

/-! ## Sets -/

/-- The order in which sets give their items. -/
structure SetOrder where
  arrange : Mark → List Value → List Value
  perm : ∀ m xs, (arrange m xs).Perm xs

/-- The order in which the items were written. -/
def SetOrder.written : SetOrder := ⟨fun _ xs => xs, fun _ xs => .refl xs⟩

namespace Value

mutual

/-- The value whose sets give their items in an order. -/
def arranged (o : SetOrder) : Value → Value
  | .list m xs => .list m (arrangedAll o xs)
  | .tuple m xs => .tuple m (arrangedAll o xs)
  | .set m xs => .set m (o.arrange m (arrangedAll o xs))
  | .dict m es => .dict m (arrangedEntries o es)
  | v => v

def arrangedAll (o : SetOrder) : List Value → List Value
  | [] => []
  | v :: vs => arranged o v :: arrangedAll o vs

def arrangedEntries (o : SetOrder) : List (Value × Value) → List (Value × Value)
  | [] => []
  | (k, v) :: es => (arranged o k, arranged o v) :: arrangedEntries o es

end

/-- Whether a value is made of others. -/
def isCollection : Value → Bool
  | .list _ _ | .tuple _ _ | .set _ _ | .dict _ _ => true
  | _ => false

end Value

/-! ## Limits -/

/-- What keeps a value from being put into words. -/
inductive TellFault where
  | digits (fault : Text.IntegerFault)
  /-- The interpreter follows what is nested only so far. -/
  | exhausted
  /-- Half a pair, which no stream takes.  It is in no text here. -/
  | surrogate
  deriving DecidableEq, Repr

/-- What is said of an interpreter that went too deep; words about what it was doing may follow. -/
def exhaustedMessage : String := "maximum recursion depth exceeded"

def TellFault.message : TellFault → String
  | .digits fault => fault.message
  | .exhausted => exhaustedMessage
  | .surrogate => ""

/-- What values are put into words for. -/
inductive Purpose where
  | filter
  | log
  | screen
  | json
  | yaml
  deriving DecidableEq, Repr

/-- What can stop the reading of a document whose end is not there yet. -/
inductive EarlyFault where
  | malformed
  /-- An escape of a number beyond the last character. -/
  | character
  /-- An escape of a number beyond 31 bits. -/
  | characterNumber
  | exhausted
  deriving DecidableEq, Repr

/-- Whether the interpreter follows a collection that is put into words up to its end, or up to
another fault. -/
abbrev Reach := Purpose → Value → Bool

/-- An interpreter that follows everything. -/
def Reach.endless : Reach := fun _ _ => true

/-- What keeps a value from being put into words.  Only collections can be too deep. -/
def Reach.fault? (reach : Reach) (purpose : Purpose) (v : Value) : Option TellFault :=
  if v.isCollection && !reach purpose v then some .exhausted
  else if v.withinDigits then none
  else some (.digits .unprintable)

/-- The words for a value. -/
def Reach.shown (reach : Reach) (purpose : Purpose) (v : Value) : Except TellFault String :=
  match reach.fault? purpose v with
  | some fault => .error fault
  | none => .ok v.plain

structure Platform where
  /-- The modules that can be imported. -/
  modules : List ModuleInfo := knownModules
  sets : SetOrder := .written
  /-- Whether the interpreter follows a document to its end. -/
  reads : List Char → Bool := fun _ => true
  reach : Reach := .endless
  /-- What stops the reading of a file in its first blocks, before one is read that is no text or has
  a character that stands in no document. -/
  ahead : List UInt8 → Option EarlyFault := fun _ => none

end ModelSearch
