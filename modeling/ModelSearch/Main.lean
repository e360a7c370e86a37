import ModelSearch.CommandLine.Run

/-!
# The command line tool

Reads the files that the arguments name and the clock, and prints the outcome of the run.
-/

open ModelSearch

/-- The names of a path from the root. -/
def namesFrom (here : List String) (text : String) : List String :=
  let path := FilePath.ofText text
  (if path.root.isEmpty then here else []) ++ path.names |>.foldl
    (fun names n => if n = ".." then names.dropLast else names ++ [n]) []

/-- What an argument leads to, if it is a path. -/
def look (here : List String) (argument : String) : IO FileTree := do
  let names := namesFrom here argument
  try
    let content ← IO.FS.readBinFile argument
    return ⟨here, [(names, content.toList)], []⟩
  catch _ =>
    if ← ((← IO.currentDir) / argument).isDir then return ⟨here, [], [names]⟩
    return ⟨here, [], []⟩

/-- The seconds on the system's clock: the age of the process's own folder. -/
def clock : IO Nat := do
  let folder := (← IO.currentDir) / "/proc/self"
  return (← folder.metadata).modified.sec.toNat

def main (args : List String) : IO UInt32 := do
  let folder ← IO.currentDir
  let here := (FilePath.ofText folder.toString).names
  let seen ← (args.filter (!·.isEmpty)).mapM (look here)
  let tree : FileTree := ⟨here, seen.flatMap (·.files), seen.flatMap (·.folders)⟩
  let seconds ← try clock catch _ => pure 0
  let outcome := CommandLine.run tree (Console.stampOf (.ofEpoch seconds)) args
  IO.print outcome.output
  IO.eprint outcome.errors
  match outcome.ending with
  | .code n => return n.toUInt32
  | .escaped e => do
    IO.eprintln e.message
    return 1
