import ModelSearch.Log
import ModelSearch.Value.Basic
import ModelSearch.Value.Literal
import ModelSearch.Zoo.Url

/-!
# Model zoos

A zoo publishes artifacts under a group.  Its listing decides every lookup:

    (z.find? id).isSome ↔ id ∈ z.artifacts          (Zoo.find?_isSome)

A zoo made from URLs has one artifact for each of them.  Zoos are objects of their own: two are the
same only if they have one mark.
-/

namespace ModelSearch

/-- One artifact of a zoo. -/
structure ModelLoader where
  groupId : String
  artifactId : String
  url : Option String
  properties : Entries
  deriving Repr

def ModelLoader.coordinates (l : ModelLoader) : String := l.groupId ++ ":" ++ l.artifactId

/-- What a zoo is made from. -/
inductive ZooSource where
  /-- URLs, one artifact for each. -/
  | urls (urls : List String)
  /-- A listing that was given. -/
  | listing (kind : String)
  deriving DecidableEq, Repr

structure Zoo where
  mark : Mark
  source : ZooSource
  groupId : String
  loaders : List ModelLoader
  /-- The engines that the zoo has models for, any if there are none. -/
  engines : List String
  deriving Repr

/-- Why URLs make no zoo. -/
inductive ZooFault where
  | noUrls (text : String)
  | url (fault : Url.Fault)
  deriving DecidableEq, Repr

def ZooFault.message : ZooFault → String
  | .noUrls text => "No model URLs found in " ++ Text.quoted text
  | .url fault => fault.message

namespace Zoo

/-- The group of every zoo made from URLs. -/
def urlGroup : String := "ai.djl.localmodelzoo"

/-- The URLs of a text with commas between them, blank ones left out. -/
def splitUrls (text : String) : List String :=
  ((Text.splitAt ',' text.toList).map Text.strip).filterMap fun url =>
    if url.isEmpty then none else some (.ofList url)

def urlLoader (url : String) : Except Url.Fault ModelLoader := do
  return ⟨urlGroup, ← Url.artifactName url, some url, []⟩

/-- The zoo of a text of URLs. -/
def ofUrls (mark : Mark) (text : String) : Except ZooFault Zoo :=
  let urls := splitUrls text
  if urls.isEmpty then .error (.noUrls text)
  else
    match urls.mapM urlLoader with
    | .ok loaders => .ok ⟨mark, .urls urls, urlGroup, loaders, []⟩
    | .error fault => .error (.url fault)

/-- The record of a zoo made from URLs. -/
def urlRecord (z : Zoo) : LogRecord :=
  let urls := match z.source with | .urls us => us | .listing _ => []
  { level := .debug
    source := .urlZoo
    message :=
      s!"Created model zoo for {urls.length} url(s): "
        ++ (Value.list default (urls.map .text)).literal }

/-- A zoo with exactly these loaders. -/
def ofListing (mark : Mark) (kind groupId : String) (loaders : List ModelLoader)
    (engines : List String) : Zoo :=
  ⟨mark, .listing kind, groupId, loaders, engines⟩

def kind (z : Zoo) : String :=
  match z.source with
  | .urls _ => "DefaultModelZoo"
  | .listing kind => kind

/-- The URLs of a zoo made from them. -/
def urls? (z : Zoo) : Option (List String) :=
  match z.source with
  | .urls us => some us
  | .listing _ => none

/-- The artifact ids in the order of the listing. -/
def artifacts (z : Zoo) : List String := z.loaders.map (·.artifactId)

/-- The first loader of an artifact. -/
def find? (z : Zoo) (artifactId : String) : Option ModelLoader :=
  z.loaders.find? fun l => l.artifactId = artifactId

/-- The engines in order, each once. -/
def supportedEngines (z : Zoo) : List String :=
  (z.engines.eraseDups.toArray.qsort (· < ·)).toList

def literal (z : Zoo) : String := z.kind ++ "(group_id=" ++ Text.quoted z.groupId ++ ")"

def sameAs (z w : Zoo) : Bool := z.mark = w.mark

/-! ## Lemmas -/

theorem find?_isSome (z : Zoo) (id : String) : (z.find? id).isSome ↔ id ∈ z.artifacts := by
  simp [find?, artifacts, List.find?_isSome]

end Zoo

end ModelSearch
