import ModelSearch.Text.Basic
import ModelSearch.Text.Quote

/-!
# Paths and files

A path is a root and names, where empty names and single dots are left out.  Files are found in a
tree of folders around a working folder.  Looking a path up fails at the first name that leads
nowhere, in the way the system tells it.
-/

namespace ModelSearch

structure FilePath where
  /-- Nothing, or the slashes of an absolute path. -/
  root : String
  names : List String
  deriving DecidableEq, Repr

namespace FilePath

def rootOf (xs : List Char) : String :=
  match xs with
  | '/' :: '/' :: '/' :: _ => "/"
  | '/' :: '/' :: _ => "//"
  | '/' :: _ => "/"
  | _ => ""

/-- The path of a text. -/
def ofText (text : String) : FilePath :=
  let xs := text.toList
  ⟨rootOf xs, ((Text.splitAt '/' xs).filter fun p => !p.isEmpty && p ≠ ['.']).map .ofList⟩

def text (p : FilePath) : String :=
  let body := Text.joinWith "/" p.names
  if p.root.isEmpty && p.names.isEmpty then "." else p.root ++ body

/-- The last name. -/
def name (p : FilePath) : String := p.names.getLast?.getD ""

end FilePath

/-- Why a file cannot be read. -/
inductive FileFault where
  | missing
  | notFolder
  | isFolder
  | nameTooLong
  deriving DecidableEq, Repr

def FileFault.text : FileFault → String
  | .missing => "[Errno 2] No such file or directory"
  | .notFolder => "[Errno 20] Not a directory"
  | .isFolder => "[Errno 21] Is a directory"
  | .nameTooLong => "[Errno 36] File name too long"

/-- Files and folders, by their names from the root, and the folder where paths start. -/
structure FileTree where
  here : List String
  files : List (List String × List UInt8)
  folders : List (List String)
  deriving Repr

namespace FileTree

/-- A tree whose files and folders are named from the working folder. -/
def around (here : List String) (files : List (List String × List UInt8))
    (folders : List (List String)) : FileTree :=
  ⟨here, files.map fun f => (here ++ f.1, f.2), folders.map (here ++ ·)⟩

/-- What a path leads to. -/
inductive Target where
  | folder (names : List String)
  | file (content : List UInt8)
  deriving Repr

def nameLimit : Nat := 255

def pathLimit : Nat := 4096

/-- A folder is one that is listed, that leads to the working folder or that holds something. -/
def hasFolder (t : FileTree) (names : List String) : Bool :=
  names.isPrefixOf t.here || t.folders.contains names
    || t.files.any fun f => names.isPrefixOf f.1 && names.length < f.1.length

/-- One step from a place.  An empty name and a dot stay in a folder; a file has nowhere to go. -/
def step (t : FileTree) (place : Target) (name : String) : Except FileFault Target :=
  match place with
  | .file _ => .error .notFolder
  | .folder names =>
    if name = "" || name = "." then .ok place
    else if name = ".." then .ok (.folder names.dropLast)
    else if nameLimit < name.utf8ByteSize then .error .nameTooLong
    else
      let path := names ++ [name]
      match t.files.find? fun f => f.1 = path with
      | some (_, content) => .ok (.file content)
      | none => if t.hasFolder path then .ok (.folder path) else .error .missing

def walk (t : FileTree) (place : Target) : List String → Except FileFault Target
  | [] => .ok place
  | name :: rest => do walk t (← step t place name) rest

/-- Where a path that has the root starts. -/
def start (t : FileTree) (root : String) : Target := .folder (if root.isEmpty then t.here else [])

/-- What a path leads to. -/
def find (t : FileTree) (p : FilePath) : Except FileFault Target :=
  if pathLimit ≤ p.text.utf8ByteSize then .error .nameTooLong else walk t (t.start p.root) p.names

/-- What a text leads to when it is taken as it is: no name is left out, so a slash at the end asks
for a folder, and the empty text leads nowhere. -/
def locate (t : FileTree) (text : String) : Except FileFault Target :=
  if text.isEmpty then .error .missing
  else if pathLimit ≤ text.utf8ByteSize then .error .nameTooLong
  else walk t (t.start (FilePath.rootOf text.toList)) ((Text.splitAt '/' text.toList).map .ofList)

/-- The content of a file. -/
def read (t : FileTree) (p : FilePath) : Except FileFault (List UInt8) :=
  match t.find p with
  | .error f => .error f
  | .ok (.file content) => .ok content
  | .ok (.folder _) => .error .isFolder

end FileTree

/-- What is said of a file that cannot be read. -/
def FileFault.message (f : FileFault) (path : String) : String :=
  f.text ++ ": " ++ Text.quoted path

end ModelSearch
