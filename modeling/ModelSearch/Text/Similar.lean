import ModelSearch.Text.Basic

/-!
# Similar words

Two words are as similar as the characters that they have in common in matching runs: the longest
common run, and then the runs to the left and to the right of it.

    matched xs ys         the characters in matching runs
    closest word names    the names that are most similar to a word
-/

namespace ModelSearch.Text

/-- The length of the run that both lists start with. -/
def commonStart : List Char → List Char → Nat
  | x :: xs, y :: ys => if x = y then commonStart xs ys + 1 else 0
  | _, _ => 0

/-- A run that two lists have in common: where it starts in each, and its length. -/
structure CommonRun where
  left : Nat
  right : Nat
  length : Nat
  deriving DecidableEq, Repr

/-- The first run among the longest of those that start in every place. -/
def longestRun (xs ys : List Char) : CommonRun :=
  (List.range xs.length).foldl (fun best i =>
    (List.range ys.length).foldl (fun best j =>
      let n := commonStart (xs.drop i) (ys.drop j)
      if best.length < n then ⟨i, j, n⟩ else best) best) ⟨0, 0, 0⟩

/-- The characters in matching runs; each round uses at least one character of the first list. -/
def matchedWithin : Nat → List Char → List Char → Nat
  | 0, _, _ => 0
  | fuel + 1, xs, ys =>
    let run := longestRun xs ys
    if run.length = 0 then 0
    else
      matchedWithin fuel (xs.take run.left) (ys.take run.right) + run.length
        + matchedWithin fuel (xs.drop (run.left + run.length)) (ys.drop (run.right + run.length))

def matched (xs ys : List Char) : Nat := matchedWithin xs.length xs ys

/-- How similar a name is to a word: the matched characters and all of them. -/
structure Similarity where
  name : String
  matched : Nat
  total : Nat
  deriving DecidableEq, Repr

def similarity (word name : String) : Similarity :=
  ⟨name, Text.matched name.toList word.toList, name.length + word.length⟩

/-- Names count as similar from three matched characters in ten. -/
def Similarity.isClose (s : Similarity) : Bool := 3 * s.total ≤ 10 * s.matched

/-- The more similar one comes first; of two that are equally similar, the greater name. -/
def Similarity.before (s t : Similarity) : Bool :=
  let a := s.matched * t.total
  let b := t.matched * s.total
  b < a || (a = b && t.name ≤ s.name)

def closeLimit : Nat := 3

/-- The names that are most similar to a word, at most three. -/
def closest (word : String) (names : List String) : List String :=
  let close := (names.map (similarity word)).filter (·.isClose)
  ((close.mergeSort Similarity.before).take closeLimit).map (·.name)

end ModelSearch.Text
