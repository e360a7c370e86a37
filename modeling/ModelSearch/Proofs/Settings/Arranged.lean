import ModelSearch.Proofs.Settings.Filters
import ModelSearch.Proofs.Value.Arranged

/-!
# Settings of a mapping with its sets in an order

No setting is a set, so a mapping whose sets give their items in some order has the problems of the
mapping itself.  If it has none, its settings are those of the mapping, with the sets in the
arguments and in the options in that order; only filters may be other texts.

    validate (v.arranged o) is validate v but for that order, if no key of v is a collection
                                                                        (validate_arranged)
    and none is if v is valid                                           (plainSettings_of_validate)
-/

namespace ModelSearch

open Value (arrangedEntries arrangedEntries_eq)

variable {o : SetOrder} {es : Entries}

/-! ## Mappings -/

/-- Keys that are no collections. -/
def Entries.PlainKeys (es : Entries) : Prop := ∀ e ∈ es, e.1.isCollection = false

/-- The keys of a mapping are no collections. -/
def Value.PlainKeyed : Value → Prop
  | .dict _ es => Entries.PlainKeys es
  | _ => True

namespace Entries

theorem assign_arranged (es : Entries) (s : String) (v : Value) :
    Entries.assign (arrangedEntries o es) (.text s) (v.arranged o)
      = arrangedEntries o (es.assign (.text s) v) := by
  induction es with
  | nil => rfl
  | cons e es ih =>
    simp only [arrangedEntries, assign, Value.text_sameAs_arranged]
    split
    · rfl
    · rw [ih]
      rfl

theorem assignAll_arranged {more : Entries} (hk : Settings.TextKeys more) (es : Entries) :
    Entries.assignAll (arrangedEntries o es) (arrangedEntries o more)
      = arrangedEntries o (es.assignAll more) := by
  induction more generalizing es with
  | nil => rfl
  | cons e more ih =>
    obtain ⟨t, ht⟩ := hk e List.mem_cons_self
    obtain ⟨_, v⟩ := e
    cases ht
    have hrest := ih (fun f hf => hk f (List.mem_cons_of_mem _ hf)) (es.assign (.text t) v)
    rw [← assign_arranged] at hrest
    exact hrest

end Entries

namespace Settings

/-! ## Checks -/

theorem given_arranged (es : Entries) (f : Setting) :
    given (arrangedEntries o es) f = (given es f).arranged o := by
  unfold given Entries.find
  rw [arrangedEntries_eq, List.find?_map]
  simp only [Function.comp_def, Value.text_sameAs_arranged]
  cases es.find? fun e => (Value.text f.name).sameAs e.1 <;> rfl

/-- What holds throughout a mapping holds throughout the value of each setting. -/
theorem given_throughout {p : Value → Prop} {mark : Mark} (hnull : p .null)
    (h : (Value.dict mark es).Throughout p) (field : Setting) : (given es field).Throughout p := by
  unfold given Entries.find
  cases hf : es.find? fun e => (Value.text field.name).sameAs e.1 with
  | none =>
    intro u hu
    rw [List.mem_singleton.1 hu]
    exact hnull
  | some e => exact ((Value.throughout_dict.1 h).2 e (List.mem_of_find?_eq_some hf)).2

theorem checkText_arranged (f : Setting) (v : Value) :
    checkText f (v.arranged o) = checkText f v := by
  cases v <;> rfl

theorem checkApplication_arranged (v : Value) :
    checkApplication (v.arranged o) = checkApplication v := by
  cases v <;> rfl

theorem checkDevice_arranged (v : Value) : checkDevice (v.arranged o) = checkDevice v := by
  unfold checkDevice
  rw [checkText_arranged]

theorem textKeys_arranged (hk : es.PlainKeys) (f : Setting) :
    textKeys f (arrangedEntries o es)
      = (arrangedEntries o (textKeys f es).1, (textKeys f es).2) := by
  induction es with
  | nil => rfl
  | cons e es ih =>
    have hkey := Value.arranged_of_not_collection (o := o) (hk e List.mem_cons_self)
    have hrest := ih fun g hg => hk g (List.mem_cons_of_mem _ hg)
    simp only [arrangedEntries, textKeys, hkey, hrest]
    cases textOf e.1 <;> rfl

theorem checkEntries_arranged {v : Value} (hv : v.PlainKeyed) (f : Setting) :
    checkEntries f (v.arranged o) = (checkEntries f v).map (Option.map (arrangedEntries o)) := by
  cases v with
  | dict mark es =>
    simp only [Value.arranged, checkEntries, textKeys_arranged hv]
    cases htexts : textKeys f es with
    | mk fs problems =>
      cases problems with
      | nil =>
        exact congrArg (fun gs => Except.ok (some gs))
          (Entries.assignAll_arranged (textKeys_keys htexts) [])
      | cons p problems => rfl
  | _ => rfl

theorem showable_arranged_iff : Showable (arrangedEntries o es) ↔ Showable es := by
  have hshown : ∀ v : Value, v.shown = .ok v.plain ↔ v.withinDigits = true := by
    intro v
    unfold Value.shown
    split
    next h => exact iff_of_true rfl h
    next h => exact iff_of_false nofun h
  unfold Showable
  simp only [hshown, arrangedEntries_eq, List.forall_mem_map, Value.withinDigits_arranged]

/-- Filters are refused in every order or in none. -/
theorem problemsOf_checkFilters_arranged (v : Value) :
    problemsOf (checkFilters (v.arranged o)) = problemsOf (checkFilters v) := by
  cases v with
  | dict mark es =>
    rw [Value.arranged]
    by_cases h : Showable es
    · rw [checkFilters_of_showable h, checkFilters_of_showable (showable_arranged_iff.2 h)]
      rfl
    · rw [checkFilters_of_not_showable h,
        checkFilters_of_not_showable fun ha => h (showable_arranged_iff.1 ha)]
  | _ => rfl

/-! ## All settings -/

/-- The keys of a mapping of settings, and those of its arguments and options, are no collections. -/
structure PlainSettings (es : Entries) : Prop where
  keys : es.PlainKeys
  arguments : (given es .arguments).PlainKeyed
  options : (given es .options).PlainKeyed

theorem plainSettings_of_throughout {mark : Mark} (h : (Value.dict mark es).Throughout Value.PlainKeyed) :
    PlainSettings es :=
  ⟨h.self, (given_throughout trivial h _).self, (given_throughout trivial h _).self⟩

/-- A key that is taken for a text is no collection. -/
theorem plainKeys_of_textKeys {f : Setting} (h : (textKeys f es).2 = []) : es.PlainKeys := by
  induction es with
  | nil => exact fun _ he => absurd he List.not_mem_nil
  | cons e es ih =>
    obtain ⟨k, v⟩ := e
    unfold textKeys at h
    dsimp only at h
    split at h
    next s hs =>
      refine List.forall_mem_cons.2 ⟨?_, ih h⟩
      cases k <;> first | rfl | cases hs
    · cases h

theorem plainKeyed_of_checkEntries {f : Setting} {v : Value} (h : problemsOf (checkEntries f v) = []) :
    v.PlainKeyed := by
  cases v with
  | dict mark es =>
    refine plainKeys_of_textKeys (f := f) ?_
    unfold checkEntries at h
    dsimp only at h
    split at h
    next htexts => rw [htexts]
    next htexts =>
      rw [htexts, ← h]
      rfl
  | _ => trivial

theorem plainSettings_of_problems (h : (checks es).problems = []) : PlainSettings es := by
  rw [problems_checks, List.append_eq_nil_iff] at h
  have hdeclared := declaredProblems_eq_nil_iff.1 h.1
  refine ⟨fun e he => ?_, plainKeyed_of_checkEntries (hdeclared .arguments),
    plainKeyed_of_checkEntries (hdeclared .options)⟩
  have hkey := List.filterMap_eq_nil_iff.1 h.2 e he
  cases hk : e.1 <;> first | rfl | (rw [hk] at hkey; cases hkey)

/-- Settings with the sets in their arguments and options in an order, and with other filters. -/
def arranged (o : SetOrder) (filters : Option Entries) (s : Settings) : Settings :=
  { s with
    filters := filters
    arguments := s.arguments.map (arrangedEntries o)
    options := s.options.map (arrangedEntries o) }

theorem problems_arranged (h : PlainSettings es) :
    (checks (arrangedEntries o es)).problems = (checks es).problems := by
  have hentries : ∀ {f v}, v.PlainKeyed →
      problemsOf (checkEntries f (v.arranged o)) = problemsOf (checkEntries f v) := by
    intro f v hv
    rw [checkEntries_arranged hv]
    cases checkEntries f v <;> rfl
  have hdeclared : declaredProblems (arrangedEntries o es) = declaredProblems es := by
    refine List.flatMap_congr fun f _ => ?_
    rw [given_arranged]
    cases f with
    | application => exact congrArg problemsOf (checkApplication_arranged _)
    | device => exact congrArg problemsOf (checkDevice_arranged _)
    | filters => exact problemsOf_checkFilters_arranged _
    | arguments => exact hentries h.arguments
    | options => exact hentries h.options
    | _ => exact congrArg problemsOf (checkText_arranged _ _)
  have hunknown : unknownProblems (arrangedEntries o es) = unknownProblems es := by
    unfold unknownProblems
    rw [arrangedEntries_eq, List.filterMap_map]
    refine List.filterMap_congr fun e he => ?_
    rw [Function.comp_apply, Value.arranged_of_not_collection (h.keys e he)]
  rw [problems_checks, problems_checks, hdeclared, hunknown]

theorem settings_arranged (h : PlainSettings es) :
    (checks (arrangedEntries o es)).settings = (checks es).settings.arranged o
      (valueOf (checkFilters ((given es .filters).arranged o))) := by
  have hentries : ∀ {f v}, v.PlainKeyed → valueOf (checkEntries f (v.arranged o))
      = (valueOf (checkEntries f v)).map (arrangedEntries o) := by
    intro f v hv
    rw [checkEntries_arranged hv]
    cases checkEntries f v <;> rfl
  simp only [checks, Checks.settings, arranged, given_arranged, checkText_arranged,
    checkApplication_arranged, checkDevice_arranged, hentries h.arguments, hentries h.options]

/-- A mapping with its sets in an order has the problems of the mapping, or its settings but for
that order. -/
theorem validate_arranged (h : PlainSettings es) (mark : Mark) (o : SetOrder) :
    validate ((Value.dict mark es).arranged o) = (validate (.dict mark es)).map
      (arranged o (valueOf (checkFilters ((given es .filters).arranged o)))) := by
  rw [Value.arranged, validate_dict, validate_dict, problems_arranged h, settings_arranged h]
  split <;> rfl

theorem plainSettings_of_validate {s : Settings} {mark : Mark} (h : validate (.dict mark es) = .ok s) :
    PlainSettings es := by
  rw [validate_dict] at h
  split at h
  next hp => exact plainSettings_of_problems hp
  · cases h

end Settings

end ModelSearch
