import ModelSearch.Files
import ModelSearch.Settings.Validate
import ModelSearch.Yaml.Reading
import ModelSearch.Yaml.Writer

/-!
# Configuration files

A configuration file is a YAML document that is a mapping of settings.  Loading goes through the
file, the document, the settings and the builder, and each of these can refuse.

    loadSettings source tree path p      the settings of a file on a platform
    loadCriteria source tree path p      the criteria that they build
    c.toYaml reach                       the text of the settings that give c back

A document that comes to a collection inside itself, or to half a pair that is escaped, before anything
of its form is at fault is foreign: no value here stands for it, and what comes of it is not told.
-/

namespace ModelSearch

/-- Why a file gives no settings. -/
inductive LoadFault where
  | unreadable (path : String) (fault : FileFault)
  /-- A path that cannot be one. -/
  | nullByte
  | encoding (fault : Text.Utf8Fault)
  | malformed (path : String)
  /-- A scalar that is not what its tag says. -/
  | scalar (fault : Yaml.Fault)
  | notMapping (path : String)
  | invalid (path : String) (problems : List Problem)
  /-- The interpreter does not follow the document, or a filter, to its end. -/
  | exhausted
  /-- The document is no value here. -/
  | foreign
  deriving DecidableEq, Repr

/-- What is said of a fault.  For a document or settings at fault `details` follow: the words of those
that read documents and check settings, which are not told here. -/
def LoadFault.message (fault : LoadFault) (details : String := "") : String :=
  match fault with
  | .unreadable path fault => "Cannot read " ++ path ++ ": " ++ fault.message path
  | .nullByte => "embedded null byte"
  | .encoding fault => fault.message
  | .malformed path => "Invalid YAML in " ++ path ++ ":" ++ details
  | .scalar fault => fault.message
  | .notMapping path => path ++ ": expected a mapping at the top level"
  | .invalid path _ => "Invalid criteria configuration in " ++ path ++ ":" ++ details
  | .exhausted => exhaustedMessage
  | .foreign => ""

/-- Whether a fault is one that loading tells of itself; the others are those of its parts. -/
def LoadFault.isOwn : LoadFault → Bool
  | .unreadable _ _ | .malformed _ | .notMapping _ | .invalid _ _ => true
  | .nullByte | .encoding _ | .scalar _ | .exhausted | .foreign => false

/-- Why a file gives no settings whose document has a fault. -/
def LoadFault.ofDocument (path : String) : Yaml.Fault → LoadFault
  | .document => .malformed path
  | .recursive | .surrogate => .foreign
  | fault => .scalar fault

/-- Why a file gives no settings that is not read to its end. -/
def LoadFault.ofEarly (path : String) : EarlyFault → LoadFault
  | .malformed => .malformed path
  | .character => .scalar .character
  | .characterNumber => .scalar .characterNumber
  | .exhausted => .exhausted

/-! ## Loading -/

/-- The content of a file. -/
def readFile (tree : FileTree) (path : FilePath) : Except LoadFault (List UInt8) :=
  if path.text.toList.contains '\x00' then .error .nullByte
  else
    match tree.read path with
    | .ok bytes => .ok bytes
    | .error fault => .error (.unreadable path.text fault)

/-- The value of a document. -/
def readText (source : Nat) (path : String) (text : List Char) (p : Platform := {}) :
    Except LoadFault Value :=
  if !p.reads text then .error .exhausted
  else
    match Yaml.read source text with
    | .ok v => .ok (v.arranged p.sets)
    | .error fault => .error (.ofDocument path fault)

/-- The value of the document in a file.  A file is read block by block, and what is at fault in one
block is met before the next one is looked at. -/
def readDocument (source : Nat) (path : String) (bytes : List UInt8) (p : Platform := {}) :
    Except LoadFault Value :=
  let early := (p.ahead bytes).map (LoadFault.ofEarly path)
  match Text.decode bytes with
  | .error fault => .error (early.getD (.encoding fault))
  | .ok chars =>
    let text := Text.unifyBreaks chars
    if text.all Yaml.documentChars.has then readText source path text p
    else .error (early.getD (.malformed path))

/-- The first fault of putting filters into words, keys and values in order. -/
def filterFault? (reach : Reach) (filters : Value) : Option TellFault :=
  match filters with
  | .dict _ es => (es.flatMap fun e => [e.1, e.2]).findSome? (reach.fault? .filter)
  | _ => none

/-- The settings of a value read from a file; an empty document has none.  A filter that is too deep
ends the validation. -/
def settingsOf (path : String) (v : Value) (reach : Reach := .endless) : Except LoadFault Settings :=
  match v with
  | .null => .ok {}
  | .dict _ es =>
    if filterFault? reach (Settings.given es .filters) = some .exhausted then .error .exhausted
    else
      match Settings.validate v with
      | .ok s => .ok s
      | .error problems => .error (.invalid path problems)
  | _ => .error (.notMapping path)

/-- The settings of a file, which is the given source of objects. -/
def loadSettings (source : Nat) (tree : FileTree) (path : FilePath) (p : Platform := {}) :
    Except LoadFault Settings := do
  let bytes ← readFile tree path
  settingsOf path.text (← readDocument source path.text bytes p) p.reach

/-- The record of a file that was loaded. -/
def loadRecord (path : FilePath) : LogRecord where
  level := .info
  source := .config
  message := "Loaded criteria configuration from " ++ path.text

/-- Why a file gives no criteria. -/
inductive CriteriaFault where
  | load (fault : LoadFault)
  | replay (fault : ReplayFault)
  deriving DecidableEq, Repr

def CriteriaFault.message (fault : CriteriaFault) (details : String := "") : String :=
  match fault with
  | .load fault => fault.message details
  | .replay fault => fault.message

/-- A result and the records of getting it. -/
structure Logged (α : Type) where
  result : α
  records : List LogRecord

/-- The criteria of settings from a source. -/
def buildSettings (source : Nat) (s : Settings) (modules : List ModuleInfo := knownModules)
    (reach : Reach := .endless) : Logged (Except ReplayFault Criteria) :=
  match s.replay source modules with
  | .error fault => ⟨.error fault, []⟩
  | .ok (b, records) =>
    match b.build with
    | .error fault => ⟨.error (.build fault), records⟩
    | .ok c => ⟨.ok c, records ++ [c.buildRecord reach]⟩

/-- The criteria of a file. -/
def loadCriteria (source : Nat) (tree : FileTree) (path : FilePath) (p : Platform := {}) :
    Logged (Except CriteriaFault Criteria) :=
  match loadSettings source tree path p with
  | .error fault => ⟨.error (.load fault), []⟩
  | .ok s =>
    let built := buildSettings source s p.modules p.reach
    ⟨built.result.mapError .replay, loadRecord path :: built.records⟩

/-! ## Writing -/

/-- The fields of criteria that are settings. -/
def settingFields : List Field :=
  Field.all.filter fun f => Setting.all.any fun s => s.name = f.name

namespace Criteria

/-- The settings of criteria as a mapping: the fields that have a value, and the URLs of a zoo made
from URLs.  Zoos of other kinds and collaborators are left out. -/
def settingEntries (c : Criteria) : Entries :=
  let fields := c.present.filterMap fun e =>
    if settingFields.contains e.1 then some (Value.text e.1.name, e.2) else none
  match c.modelZoo.bind Zoo.urls? with
  | some urls => fields ++ [(.text Setting.modelUrls.name, .text (Text.joinWith "," urls))]
  | none => fields

/-- The mapping of the settings of criteria, as it is written. -/
def written (c : Criteria) : Value := .dict (.part "") c.settingEntries

/-- The YAML text of criteria, if their integers can be written and the interpreter gets to the end. -/
def toYaml (c : Criteria) (reach : Reach := .endless) : Except TellFault String :=
  if reach.fault? .yaml c.written = some .exhausted then .error .exhausted
  else (Yaml.write c.written).mapError .digits

end Criteria

end ModelSearch
