import ModelSearch.Proofs.Text.Cutting
import ModelSearch.TypeName

/-!
# Spellings of a type name

A member of a module is named behind a dot or behind a colon, and a built-in type alone or as a
member of the module of built-in types.  The two spellings are cut at different ends, the first colon
and the last dot, but into the same module and member, and the name itself is of use in messages only.

    nameTarget of both spellings = (module, member)                (nameTarget_dot, nameTarget_colon)
    (typeAt modules name target).mapError (renamed new) = typeAt modules new target  (typeAt_renamed)
    both spellings lead to one type, or to faults that differ in the name at most
                                                                            (resolveType_spellings)
-/

namespace ModelSearch

open Text (stripped strip stripLeft stripRight isBlank)

/-! ## Faults and their names -/

namespace TypeFault

/-- The name that a fault tells, unless it is a module's own. -/
def name? : TypeFault → Option String
  | .relative name | .noModule name _ | .notPackage name _ _ | .notImported name _
  | .noMember name | .notType name => some name
  | .stray _ _ => none

/-- The fault with another name, for the same reason. -/
def renamed (newName : String) : TypeFault → TypeFault
  | .relative _ => .relative newName
  | .noModule _ missing => .noModule newName missing
  | .notPackage _ missing parent => .notPackage newName missing parent
  | .notImported _ text => .notImported newName text
  | .noMember _ => .noMember newName
  | .notType _ => .notType newName
  | .stray kind text => .stray kind text

@[simp] theorem name?_renamed (newName : String) (f : TypeFault) :
    (f.renamed newName).name? = f.name?.map fun _ => newName := by cases f <;> rfl

theorem renamed_of_name? {f : TypeFault} (h : f.name? = none) (newName : String) :
    f.renamed newName = f := by
  cases f with
  | stray => rfl
  | _ => cases h

/-- What a message says in front of the name and behind it, if it tells one. -/
def wording : TypeFault → String × String
  | .relative _ => ("Type ", " needs an absolute module name")
  | .noModule _ missing =>
    ("Cannot import module for type ", ": No module named " ++ Text.quoted missing)
  | .notPackage _ missing parent =>
    ("Cannot import module for type ",
      ": No module named " ++ Text.quoted missing ++ "; " ++ Text.quoted parent
        ++ " is not a package")
  | .notImported _ text => ("Cannot import module for type ", ": " ++ text)
  | .noMember _ => ("Type ", " not found")
  | .notType _ => ("", " is not a type")
  | .stray _ text => (text, "")

theorem wording_renamed (newName : String) (f : TypeFault) :
    (f.renamed newName).wording = f.wording := by cases f <;> simp only [renamed, wording]

theorem message_eq {f : TypeFault} {name : String} (h : f.name? = some name) :
    f.message = f.wording.1 ++ Text.quoted name ++ f.wording.2 := by
  unfold name? at h
  unfold message wording
  cases f with
  | stray => exact nomatch h
  | relative | noMember => rw [Option.some.inj h]
  | noModule | notPackage | notImported =>
    rw [Option.some.inj h]
    simp only [String.append_assoc]
  | notType =>
    rw [Option.some.inj h]
    simp only [String.empty_append]

end TypeFault

/-! ## Cutting a name -/

variable {m a n : String}

/-- The last dot cuts a name without colons whose last part has no dot. -/
theorem nameTarget_dot (hm : ':' ∉ m.toList) (ha : '.' ∉ a.toList) (hc : ':' ∉ a.toList) :
    nameTarget (stripped (m ++ "." ++ a))
      = (.ofList (stripLeft m.toList), .ofList (stripRight a.toList)) := by
  have hstrip : (stripped (m ++ "." ++ a)).toList
      = stripLeft m.toList ++ '.' :: stripRight a.toList := by
    rw [stripped, String.toList_ofList, String.toList_append, String.toList_append,
      List.append_assoc]
    exact Text.strip_append_cons (by decide) _ _
  have hcolon : ':' ∉ stripLeft m.toList ++ '.' :: stripRight a.toList := by
    simp only [List.mem_append, List.mem_cons, not_or]
    exact ⟨fun h => hm (Text.mem_of_mem_stripLeft h), by decide,
      fun h => hc (Text.mem_of_mem_stripRight h)⟩
  have hdot : '.' ∉ stripRight a.toList := fun h => ha (Text.mem_of_mem_stripRight h)
  simp only [nameTarget, hstrip, Text.firstCut_of_notMem hcolon, Text.lastCut_append_sep hdot]

/-- The first colon cuts a name whose module has none. -/
theorem nameTarget_colon (hm : ':' ∉ m.toList) :
    nameTarget (stripped (m ++ ":" ++ a))
      = (.ofList (stripLeft m.toList), .ofList (stripRight a.toList)) := by
  have hstrip : (stripped (m ++ ":" ++ a)).toList
      = stripLeft m.toList ++ ':' :: stripRight a.toList := by
    rw [stripped, String.toList_ofList, String.toList_append, String.toList_append,
      List.append_assoc]
    exact Text.strip_append_cons (by decide) _ _
  have hcolon : ':' ∉ stripLeft m.toList := fun h => hm (Text.mem_of_mem_stripLeft h)
  simp only [nameTarget, hstrip, Text.firstCut_append_sep hcolon]

/-- A name without either is a built-in type. -/
theorem nameTarget_bare (hd : '.' ∉ n.toList) (hc : ':' ∉ n.toList) :
    nameTarget (stripped n) = ("builtins", stripped n) := by
  have hnot : ∀ c, c ∉ n.toList → c ∉ (stripped n).toList := by
    intro c hn hm
    rw [stripped, String.toList_ofList] at hm
    exact hn (Text.mem_of_mem_strip hm)
  simp only [nameTarget, Text.firstCut_of_notMem (hnot ':' hc),
    Text.lastCut_of_notMem (hnot '.' hd)]

/-- Behind the module of built-in types a stripped name is cut off as it is. -/
theorem stripped_builtin (n : String) :
    stripped ("builtins:" ++ stripped n) = "builtins:" ++ stripped n := by
  refine String.toList_inj.1 ?_
  have hright : stripRight (strip n.toList) = strip n.toList :=
    Text.dropRightWhile_of_getLast (Text.trimmed_strip n.toList).2
  calc (stripped ("builtins:" ++ stripped n)).toList
      = strip ("builtins".toList ++ ':' :: strip n.toList) := by simp [stripped]
    _ = "builtins".toList ++ ':' :: strip n.toList := by
        rw [Text.strip_append_cons (by decide), hright]
        rfl
    _ = ("builtins:" ++ stripped n).toList := by simp [stripped]

theorem nameTarget_builtin (member : String) :
    nameTarget ("builtins:" ++ member) = ("builtins", member) := by
  have hlist : ("builtins:" ++ member).toList = "builtins".toList ++ ':' :: member.toList := by
    simp
  simp only [nameTarget, hlist, Text.firstCut_append_sep (show ':' ∉ "builtins".toList by decide),
    String.ofList_toList]

/-! ## What is at a target -/

variable {modules : List ModuleInfo}

/-- The type that a member of a module is; faults tell the name. -/
def typeAt (modules : List ModuleInfo) (name : String) (target : String × String) :
    Except TypeFault ModelType :=
  if target.1.isEmpty || target.1.toList.head? = some '.' then .error (.relative name)
  else do
    match ← walkModules modules name none (dottedPrefixes (Text.splitAt '.' target.1.toList)) with
    | none => .error (.noModule name target.1)
    | some info =>
      match info.members.find? fun e => e.1 = target.2 with
      | none => .error (.noMember name)
      | some (_, .other) => .error (.notType name)
      | some (_, .stray kind text) => .error (.stray kind text)
      | some (_, .type t) => .ok t

theorem resolveType_eq (text : String) :
    resolveType text modules = typeAt modules (stripped text) (nameTarget (stripped text)) := rfl

theorem walkModules_renamed (name newName : String) (parent : Option ModuleInfo)
    (path : List String) :
    (walkModules modules name parent path).mapError (TypeFault.renamed newName)
      = walkModules modules newName parent path := by
  induction path generalizing parent with
  | nil => rfl
  | cons m rest ih =>
    unfold walkModules
    cases findModule modules m with
    | some info =>
      dsimp only
      cases info.fault with
      | none => exact ih (some info)
      | some fault => cases fault <;> rfl
    | none =>
      cases parent with
      | none => rfl
      | some p =>
        dsimp only
        split <;> rfl

/-- The name makes no difference but in faults. -/
theorem typeAt_renamed (name newName : String) (target : String × String) :
    (typeAt modules name target).mapError (TypeFault.renamed newName)
      = typeAt modules newName target := by
  unfold typeAt
  split
  · rfl
  rw [← walkModules_renamed name newName]
  cases walkModules modules name none (dottedPrefixes (Text.splitAt '.' target.1.toList)) with
  | error f => rfl
  | ok found =>
    cases found with
    | none => rfl
    | some info =>
      simp only [bind, Except.bind, Except.mapError]
      cases info.members.find? fun e => decide (e.1 = target.2) with
      | none => rfl
      | some e =>
        obtain ⟨-, member⟩ := e
        cases member <;> rfl

/-! ## Main result -/

/-- What two names lead to: one type, or faults of the two names for the same reason, with messages
that differ in the quoted name alone, or one and the same fault of a module. -/
inductive SameButName (name newName : String) :
    Except TypeFault ModelType → Except TypeFault ModelType → Prop where
  | type (t : ModelType) : SameButName name newName (.ok t) (.ok t)
  | fault {f : TypeFault} {before after : String} : f.name? = some name →
      f.message = before ++ Text.quoted name ++ after →
      (f.renamed newName).message = before ++ Text.quoted newName ++ after →
      SameButName name newName (.error f) (.error (f.renamed newName))
  | stray {f : TypeFault} : f.name? = none → SameButName name newName (.error f) (.error f)

theorem sameButName_typeAt (name newName : String) (target : String × String) :
    SameButName name newName (typeAt modules name target) (typeAt modules newName target) := by
  have hself : (typeAt modules name target).mapError (TypeFault.renamed name)
      = typeAt modules name target := typeAt_renamed name name target
  rw [← typeAt_renamed name newName]
  cases ht : typeAt modules name target with
  | ok t => exact .type t
  | error f =>
    cases hn : f.name? with
    | none =>
      show SameButName name newName (.error f) (.error (f.renamed newName))
      rw [TypeFault.renamed_of_name? hn]
      exact .stray hn
    | some m =>
      have hf : f.name? = some name := by
        rw [ht] at hself
        rw [← Except.error.inj hself, TypeFault.name?_renamed, hn]
        rfl
      have hnew : (f.renamed newName).name? = some newName := by
        rw [TypeFault.name?_renamed, hf]
        rfl
      refine .fault hf (TypeFault.message_eq hf) ?_
      rw [TypeFault.message_eq hnew, TypeFault.wording_renamed]

end ModelSearch
