import ModelSearch.Console.Markup
import ModelSearch.Console.Wrap

/-!
# Tables

A table of two columns between box lines, under a centered title.  Title and cells are markup.  The
first column is as wide as its cells; the second gives way when the two do not fit on a line.
-/

namespace ModelSearch.Console

/-- The columns of a console that is not a terminal. -/
def consoleWidth : Nat := 80

structure Table where
  title : String
  heads : String × String
  rows : List (String × String)
  deriving Repr

namespace Table

/-- The spaces beside the text of a cell. -/
def cellPadding : Nat := 2

/-- The columns that are left to cells between the three upright lines. -/
def available : Nat := consoleWidth - 3

/-- The width of a column with these cells in the columns that are left. -/
def columnWidth (left : Nat) (cells : List (List Char)) : Nat :=
  min ((cells.map naturalWidth).foldl max 0 + cellPadding) left

def rule (start line middle finish : Char) (first second : Nat) : List Char :=
  start :: List.replicate first line ++ middle :: List.replicate second line ++ [finish]

/-- The lines of a cell with the padding. -/
def cellLines (width : Nat) (cell : List Char) : List (List Char) :=
  (wrap .left .ellipsis (width - cellPadding) cell).map fun l => ' ' :: l ++ [' ']

/-- Lines and blank lines up to a height. -/
def filled (width height : Nat) (lines : List (List Char)) : List (List Char) :=
  lines ++ List.replicate (height - lines.length) (spaces width)

/-- The lines of a row between upright lines. -/
def rowLines (upright : Char) (first second : Nat) (row : List Char × List Char) :
    List (List Char) :=
  let left := cellLines first row.1
  let right := cellLines second row.2
  let height := max left.length right.length
  List.zipWith (fun l r => upright :: l ++ upright :: r ++ [upright])
    (filled first height left) (filled second height right)

/-- The lines of a table. -/
def lines (t : Table) : Except MarkupFault (List (List Char)) := do
  let cells := t.heads :: t.rows
  let left ← cells.mapM fun r => render r.1.toList
  let right ← cells.mapM fun r => render r.2.toList
  let first := columnWidth available left
  let second := columnWidth (available - first) right
  let title ← render t.title.toList
  let heading := wrap .center .fold (first + second + 3) title
  let rows := List.zip left right
  return heading
    ++ [rule '┏' '━' '┳' '┓' first second]
    ++ (rows.take 1).flatMap (rowLines '┃' first second)
    ++ [rule '┡' '━' '╇' '┩' first second]
    ++ (rows.drop 1).flatMap (rowLines '│' first second)
    ++ [rule '└' '─' '┴' '┘' first second]

end Table

/-- Lines as text, each with its end. -/
def textOfLines (lines : List (List Char)) : String :=
  .ofList (lines.flatMap fun l => l ++ ['\n'])

/-- A table as text. -/
def Table.text (t : Table) : Except MarkupFault String := t.lines.map textOfLines

/-- A message in markup as text. -/
def messageText (markup : String) : Except MarkupFault String :=
  (render markup.toList).map fun xs => textOfLines (wrap .ragged .fold consoleWidth xs)

end ModelSearch.Console
