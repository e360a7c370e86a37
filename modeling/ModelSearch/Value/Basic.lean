import ModelSearch.Calendar
import ModelSearch.Number.Binary64

/-!
# Values

The values that settings hold.  A value that is an object of its own carries a mark: two occurrences
of one object have one mark, which decides where a document refers back to an object it has shown
before, and whether what is not a number is the same as itself.  Otherwise marks do not
matter.

    sameAs v w          equality: 1, 1.0 and true are the same, a list is never a tuple
    hashable v          whether v can be a key: no list, set or mapping in it
-/

namespace ModelSearch

/-- The identity of an object. -/
inductive Mark where
  /-- An object by its number among those of one source: a document, or what a caller made at
  once. -/
  | own (source serial : Nat)
  /-- The mapping that stands for one field of a description. -/
  | part (field : String)
  /-- The one object that every document's `.nan` is read as. -/
  | notANumber
  /-- A mapping that stands in memory, by its number there.  What is in it is not in the value. -/
  | shared (ref : Nat)
  deriving DecidableEq, Repr, Inhabited

inductive Value where
  | null
  | bool (b : Bool)
  | int (n : Int)
  | float (x : Binary64)
  | notANumber (mark : Mark)
  | text (s : String)
  | bytes (bs : List UInt8)
  | date (mark : Mark) (d : Date)
  | moment (mark : Mark) (t : Moment)
  | list (mark : Mark) (items : List Value)
  | tuple (mark : Mark) (items : List Value)
  | set (mark : Mark) (items : List Value)
  | dict (mark : Mark) (entries : List (Value × Value))
  deriving Repr, Inhabited

/-- Keys and values in the order in which the keys were first inserted. -/
abbrev Entries := List (Value × Value)

namespace Value

/-! ## Equality -/

/-- The integer that a value of a numeric kind is the same as, if it is one of the exact kinds. -/
def exactInt? : Value → Option Int
  | .bool b => some (if b then 1 else 0)
  | .int n => some n
  | _ => none

/-- Equality of numbers of any kind; `none` if one of the two is no number. -/
def sameNumber (v w : Value) : Option Bool :=
  match v, w with
  | .float x, .float y => some (x.sameAs y)
  | .float x, w => w.exactInt?.map x.isInteger
  | v, .float y => v.exactInt?.map y.isInteger
  | v, w =>
    match v.exactInt?, w.exactInt? with
    | some m, some n => some (m = n)
    | _, _ => none

mutual

def sameAs (v w : Value) : Bool :=
  match v with
  | .null => match w with | .null => true | _ => false
  | .bool b => (sameNumber (.bool b) w).getD false
  | .int n => (sameNumber (.int n) w).getD false
  | .float x => (sameNumber (.float x) w).getD false
  | .notANumber m => match w with | .notANumber n => m = n | _ => false
  | .text s => match w with | .text t => s = t | _ => false
  | .bytes b => match w with | .bytes c => b = c | _ => false
  | .date _ d => match w with | .date _ e => d = e | _ => false
  | .moment _ t => match w with | .moment _ u => t.sameAs u | _ => false
  | .list _ xs => match w with | .list _ ys => sameItems xs ys | _ => false
  | .tuple _ xs => match w with | .tuple _ ys => sameItems xs ys | _ => false
  | .set _ xs =>
    match w with
    | .set _ ys => xs.length = ys.length && containedIn xs ys
    | _ => false
  | .dict _ xs =>
    match w with
    | .dict _ ys => xs.length = ys.length && agreesWith xs ys
    | _ => false
termination_by structural v

def sameItems (xs ys : List Value) : Bool :=
  match xs, ys with
  | [], [] => true
  | x :: xs, y :: ys => sameAs x y && sameItems xs ys
  | _, _ => false
termination_by structural xs

/-- Every item is the same as one of `ys`. -/
def containedIn (xs ys : List Value) : Bool :=
  match xs with
  | [] => true
  | x :: xs => ys.any (fun y => sameAs x y) && containedIn xs ys
termination_by structural xs

/-- Every key is a key of `ys`, with the same value. -/
def agreesWith (xs ys : List (Value × Value)) : Bool :=
  match xs with
  | [] => true
  | (k, v) :: xs =>
    (match ys.find? fun e => sameAs k e.1 with
      | some e => sameAs v e.2
      | none => false)
      && agreesWith xs ys
termination_by structural xs

end

/-! ## Keys -/

/-- The name of a value's kind. -/
def kind : Value → String
  | .null => "NoneType"
  | .bool _ => "bool"
  | .int _ => "int"
  | .float _ => "float"
  | .notANumber _ => "float"
  | .text _ => "str"
  | .bytes _ => "bytes"
  | .date _ _ => "date"
  | .moment _ _ => "datetime"
  | .list _ _ => "list"
  | .tuple _ _ => "tuple"
  | .set _ _ => "set"
  | .dict _ _ => "dict"

mutual

/-- The kind of the first part that keeps a value from being a key. -/
def unhashable? : Value → Option String
  | .list _ _ => some "list"
  | .set _ _ => some "set"
  | .dict _ _ => some "dict"
  | .tuple _ items => unhashableIn? items
  | _ => none

def unhashableIn? : List Value → Option String
  | [] => none
  | v :: vs =>
    match unhashable? v with
    | some k => some k
    | none => unhashableIn? vs

end

def hashable (v : Value) : Bool := v.unhashable?.isNone

/-- The mark of a value that documents refer back to: texts, numbers and the empty tuple are written
out each time. -/
def mark? : Value → Option Mark
  | .date m _ | .moment m _ | .list m _ | .set m _ | .dict m _ => some m
  | .tuple m items => if items.isEmpty then none else some m
  | _ => none

end Value

namespace Entries

/-- The value of a key. -/
def find (es : Entries) (k : Value) : Option Value := (es.find? fun e => k.sameAs e.1).map (·.2)

/-- Set the value of a key: a key that is there keeps its place and its first form, another one is
added at the end. -/
def assign (es : Entries) (k v : Value) : Entries :=
  match es with
  | [] => [(k, v)]
  | e :: es => if k.sameAs e.1 then (e.1, v) :: es else e :: assign es k v

/-- The entries of `more` assigned one after the other. -/
def assignAll (es more : Entries) : Entries := more.foldl (fun acc e => acc.assign e.1 e.2) es

end Entries

end ModelSearch
