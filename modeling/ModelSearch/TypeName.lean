import ModelSearch.Text.Quote
import ModelSearch.TypeCatalogue

/-!
# Type names

A type is named by a module and a member of it, `module:member` or `module.member`, or by a member
alone, which is then one of the built-in types.  `resolveType` looks the form of the name at first,
then the module, one package after the other, then the member.  The modules that can be imported are
given, with what importing them raises.
-/

namespace ModelSearch

/-- Why a name is no type. -/
inductive TypeFault where
  | relative (name : String)
  | noModule (name missing : String)
  | notPackage (name missing parent : String)
  /-- Importing a module raises a fault that says why. -/
  | notImported (name text : String)
  | noMember (name : String)
  | notType (name : String)
  /-- A fault of a module itself, which is no refusal of the name. -/
  | stray (kind text : String)
  deriving DecidableEq, Repr

def TypeFault.message : TypeFault → String
  | .relative name => "Type " ++ Text.quoted name ++ " needs an absolute module name"
  | .noModule name missing =>
    "Cannot import module for type " ++ Text.quoted name ++ ": No module named "
      ++ Text.quoted missing
  | .notPackage name missing parent =>
    "Cannot import module for type " ++ Text.quoted name ++ ": No module named "
      ++ Text.quoted missing ++ "; " ++ Text.quoted parent ++ " is not a package"
  | .notImported name text =>
    "Cannot import module for type " ++ Text.quoted name ++ ": " ++ text
  | .noMember name => "Type " ++ Text.quoted name ++ " not found"
  | .notType name => Text.quoted name ++ " is not a type"
  | .stray _ text => text

/-- What becomes of a fault of importing a module for a name. -/
def ImportFault.ofType (name : String) : ImportFault → TypeFault
  | .told text => .notImported name text
  | .stray kind text => .stray kind text

/-- The module and the member that a name gives. -/
def nameTarget (name : String) : String × String :=
  match Text.firstCut ':' name.toList with
  | some (m, a) => (.ofList m, .ofList a)
  | none =>
    match Text.lastCut '.' name.toList with
    | some (m, a) => (.ofList m, .ofList a)
    | none => ("builtins", name)

/-- The module of a name, among those that can be imported. -/
def findModule (modules : List ModuleInfo) (name : String) : Option ModuleInfo :=
  modules.find? fun m => m.name = name

/-- The names of the packages around a module and its own, from the outermost. -/
def dottedPrefixes (parts : List (List Char)) : List String :=
  (List.range parts.length).map fun i =>
    .ofList ((['.'] : List Char).intercalate (parts.take (i + 1)))

/-- Walk from package to package to the module; `parent` is the last one found. -/
def walkModules (modules : List ModuleInfo) (name : String) (parent : Option ModuleInfo) :
    List String → Except TypeFault (Option ModuleInfo)
  | [] => .ok parent
  | m :: rest =>
    match findModule modules m with
    | some info =>
      match info.fault with
      | none => walkModules modules name (some info) rest
      | some fault => .error (fault.ofType name)
    | none =>
      match parent with
      | some p => .error (if p.isPackage then .noModule name m else .notPackage name m p.name)
      | none => .error (.noModule name m)

/-- The type that a name stands for. -/
def resolveType (text : String) (modules : List ModuleInfo := knownModules) :
    Except TypeFault ModelType :=
  let name := Text.stripped text
  let (home, member) := nameTarget name
  if home.isEmpty || home.toList.head? = some '.' then .error (.relative name)
  else do
    match ← walkModules modules name none (dottedPrefixes (Text.splitAt '.' home.toList)) with
    | none => .error (.noModule name home)
    | some info =>
      match info.members.find? fun e => e.1 = member with
      | none => .error (.noMember name)
      | some (_, .other) => .error (.notType name)
      | some (_, .stray kind text) => .error (.stray kind text)
      | some (_, .type t) => .ok t

end ModelSearch
