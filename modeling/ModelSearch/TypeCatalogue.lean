import ModelSearch.Text.Basic

/-!
# Types and modules

The modules that a type name can lead to: whether a module can hold others, what importing it
raises, and what its dotted members are, a type or something that is no type.  A type is an object
of its own that says in which module and where there it was made, so several members can be one
type, and two types can have one name.
-/

namespace ModelSearch

/-- A type that models take or give. -/
structure ModelType where
  /-- The module that the type names as its own, if it names one. -/
  home : Option String
  /-- Its place in that module. -/
  place : String
  /-- Its number among the types that say the same of themselves. -/
  serial : Nat
  deriving DecidableEq, Repr

namespace ModelType

/-- What a type is called: its module and its place there, or its place alone if it is a built-in
one or names no module. -/
def name (t : ModelType) : String :=
  match t.home with
  | none => t.place
  | some home => if home = "builtins" then t.place else home ++ ":" ++ t.place

def builtin (place : String) : ModelType := ⟨some "builtins", place, 0⟩

/-- The first type of a name. -/
def ofName (name : String) : ModelType :=
  match Text.firstCut ':' name.toList with
  | some (home, place) => ⟨some (.ofList home), .ofList place, 0⟩
  | none => builtin name

end ModelType

/-- What importing a module raises. -/
inductive ImportFault where
  /-- A fault that says of what kind the refusal of the name is. -/
  | told (text : String)
  /-- A fault that no one expects: its kind and what it says. -/
  | stray (kind text : String)
  deriving DecidableEq, Repr

/-- What a member of a module is. -/
inductive Member where
  | type (t : ModelType)
  | other
  /-- Looking the member up raises something else than that it is missing. -/
  | stray (kind text : String)
  deriving DecidableEq, Repr

structure ModuleInfo where
  name : String
  /-- Whether the module can hold others. -/
  isPackage : Bool
  members : List (String × Member)
  /-- What importing the module raises, if it does. -/
  fault : Option ImportFault
  deriving Repr

namespace ModuleInfo

/-- A module that can be imported. -/
def holding (name : String) (isPackage : Bool) (members : List (String × Member)) : ModuleInfo :=
  ⟨name, isPackage, members, none⟩

/-- Members that are built-in types, under their own names. -/
def own (names : List String) : List (String × Member) := names.map fun n => (n, .type (.builtin n))

/-- Members that are types made in the module `home`. -/
def madeIn (home : String) (names : List String) : List (String × Member) :=
  names.map fun n => (n, .type ⟨some home, n, 0⟩)

/-- Members that are types with other names. -/
def aliases (pairs : List (String × String)) : List (String × Member) :=
  pairs.map fun p => (p.1, .type (.ofName p.2))

/-- Members that are no types. -/
def plain (names : List String) : List (String × Member) := names.map fun n => (n, .other)

end ModuleInfo

open ModuleInfo

/-- Some modules, as a sample and for a tool that can import none. -/
def knownModules : List ModuleInfo :=
  [.holding "builtins" false
      (own
        ["Exception", "KeyError", "OSError", "ValueError", "bool", "bytearray", "bytes",
         "complex", "dict", "float", "frozenset", "int", "list", "object", "range", "set", "str",
         "tuple", "type"]
      ++ aliases
        [("EnvironmentError", "OSError"), ("IOError", "OSError")]
      ++ plain
        ["Ellipsis", "None", "NotImplemented", "True", "__import__", "__name__", "len", "print"]),
   .holding "_io" false
      (madeIn "_io"
        ["BytesIO", "StringIO"]),
   .holding "collections" true
      (madeIn "collections"
        ["Counter", "OrderedDict", "deque"]
      ++ aliases
        [("abc.Mapping", "collections.abc:Mapping")]
      ++ plain
        ["abc", "namedtuple"]),
   .holding "collections.abc" false
      (madeIn "collections.abc"
        ["Mapping"]),
   .holding "datetime" false
      (madeIn "datetime"
        ["date", "datetime", "timedelta"]),
   .holding "decimal" false
      (madeIn "decimal"
        ["Decimal"]),
   .holding "enum" false
      (madeIn "enum"
        ["Enum"]),
   .holding "fixtures" false
      (madeIn "fixtures"
        ["Envelope", "Envelope.Payload", "Envelope.Payload.Inner", "IdentityBlock", "Plain",
         "StaticZoo", "UpperTranslator"]
      ++ aliases
        [("Envelope.Alias", "int"), ("Local", "fixtures:make_local.<locals>.Local"),
         ("ModelZoo", "zoo_criteria.zoo.base:ModelZoo"), ("Renamed", "fixtures:Plain"),
         ("Translator", "zoo_criteria.translate:Translator")]
      ++ [("NoModule", .type ⟨none, "NoModule", 0⟩)]
      ++ plain
        ["CONSTANT", "Plain.attribute", "Plain.method", "TEXT", "function", "make_local"]),
   .holding "fractions" false
      (madeIn "fractions"
        ["Fraction"]),
   .holding "http" true
      ([]),
   .holding "io" false
      (aliases
        [("BytesIO", "_io:BytesIO"), ("StringIO", "_io:StringIO")]),
   .holding "os" false
      (plain
        ["path", "path.join"]),
   .holding "os.path" false
      (plain
        ["join"]),
   .holding "pathlib" false
      (madeIn "pathlib"
        ["Path", "PurePosixPath"]),
   .holding "typing" false
      (madeIn "typing"
        ["Any"]),
   .holding "uuid" false
      (madeIn "uuid"
        ["UUID"]),
   .holding "zoo_criteria" true
      (aliases
        [("Application", "zoo_criteria.application:Application"),
         ("Block", "zoo_criteria.translate:Block"),
         ("ConfigLoadError", "zoo_criteria.exceptions:ConfigLoadError"),
         ("Criteria", "zoo_criteria.criteria:Criteria"),
         ("CriteriaBuilder", "zoo_criteria.criteria:CriteriaBuilder"),
         ("DefaultModelZoo", "zoo_criteria.zoo.default:DefaultModelZoo"),
         ("Device", "zoo_criteria.device:Device"), ("ModelZoo", "zoo_criteria.zoo.base:ModelZoo"),
         ("Progress", "zoo_criteria.progress:Progress"),
         ("ProgressBar", "zoo_criteria.progress:ProgressBar"),
         ("Translator", "zoo_criteria.translate:Translator"),
         ("TypeResolutionError", "zoo_criteria.exceptions:TypeResolutionError"),
         ("application.Application", "zoo_criteria.application:Application"),
         ("config.CriteriaConfig", "zoo_criteria.config:CriteriaConfig"),
         ("criteria.Criteria", "zoo_criteria.criteria:Criteria"),
         ("criteria.CriteriaBuilder", "zoo_criteria.criteria:CriteriaBuilder"),
         ("device.Device", "zoo_criteria.device:Device"),
         ("exceptions.ConfigLoadError", "zoo_criteria.exceptions:ConfigLoadError"),
         ("exceptions.CriteriaError", "zoo_criteria.exceptions:CriteriaError"),
         ("exceptions.TypeResolutionError", "zoo_criteria.exceptions:TypeResolutionError"),
         ("progress.Progress", "zoo_criteria.progress:Progress"),
         ("progress.ProgressBar", "zoo_criteria.progress:ProgressBar"),
         ("translate.Block", "zoo_criteria.translate:Block"),
         ("translate.Translator", "zoo_criteria.translate:Translator"),
         ("zoo.DefaultModelZoo", "zoo_criteria.zoo.default:DefaultModelZoo"),
         ("zoo.base.ModelLoader", "zoo_criteria.zoo.base:ModelLoader"),
         ("zoo.base.ModelZoo", "zoo_criteria.zoo.base:ModelZoo"),
         ("zoo.default.DefaultModelZoo", "zoo_criteria.zoo.default:DefaultModelZoo")]
      ++ plain
        ["__version__", "application", "config", "config.resolve_type", "criteria", "device",
         "exceptions", "progress", "translate", "zoo", "zoo.base", "zoo.default"]),
   .holding "zoo_criteria.application" false
      (madeIn "zoo_criteria.application"
        ["Application"]),
   .holding "zoo_criteria.config" false
      (madeIn "zoo_criteria.config"
        ["CriteriaConfig"]
      ++ plain
        ["resolve_type"]),
   .holding "zoo_criteria.criteria" false
      (madeIn "zoo_criteria.criteria"
        ["Criteria", "CriteriaBuilder"]),
   .holding "zoo_criteria.device" false
      (madeIn "zoo_criteria.device"
        ["Device"]),
   .holding "zoo_criteria.exceptions" false
      (madeIn "zoo_criteria.exceptions"
        ["ConfigLoadError", "CriteriaError", "TypeResolutionError"]),
   .holding "zoo_criteria.progress" false
      (madeIn "zoo_criteria.progress"
        ["Progress", "ProgressBar"]),
   .holding "zoo_criteria.translate" false
      (madeIn "zoo_criteria.translate"
        ["Block", "Translator"]),
   .holding "zoo_criteria.zoo" true
      (aliases
        [("DefaultModelZoo", "zoo_criteria.zoo.default:DefaultModelZoo"),
         ("base.ModelLoader", "zoo_criteria.zoo.base:ModelLoader"),
         ("base.ModelZoo", "zoo_criteria.zoo.base:ModelZoo"),
         ("default.DefaultModelZoo", "zoo_criteria.zoo.default:DefaultModelZoo")]
      ++ plain
        ["base", "default"]),
   .holding "zoo_criteria.zoo.base" false
      (madeIn "zoo_criteria.zoo.base"
        ["ModelLoader", "ModelZoo"]),
   .holding "zoo_criteria.zoo.default" false
      (madeIn "zoo_criteria.zoo.default"
        ["DefaultModelZoo"])]

end ModelSearch
