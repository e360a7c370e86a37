import ModelSearch.Proofs.ConfigFile.Reread
import ModelSearch.Proofs.ConfigFile.Written
import ModelSearch.Proofs.Text.Utf8
import ModelSearch.Proofs.Yaml.Faultless
import ModelSearch.Proofs.Yaml.Presented

/-!
# Loading what was written of loaded criteria

When the text of loaded criteria composes to a node that holds their mapping, the file gives criteria
that agree with them if and only if the names of both types lead back to the types and there is no
tuple in the arguments or in the options: a tuple is written under a tag that no reader knows.  The
text does compose to such a node where it is legible.  It is written if the integers can be printed
and the interpreter gets to the end of it, and read if it gets to the end again; the platforms may be
two, with sets in two orders.

    the reloaded criteria agree with c ↔ c.LeadsBack ms and c is free of tuples   (reload_of_holds_iff)
    c is legible → the same of the file that c is written to                      (reload_iff)
-/

namespace ModelSearch

namespace Value

open Yaml (WithinDigits)

mutual

theorem withinDigits_iff_parts : ∀ v : Value, v.withinDigits = true ↔ v.Throughout WithinDigits
  | .null | .bool _ | .int _ | .float _ | .notANumber _ | .text _ | .bytes _ | .date _ _
  | .moment _ _ => by simp [withinDigits, Throughout, parts, WithinDigits]
  | .list _ xs => by
    rw [throughout_list]
    simpa [withinDigits, WithinDigits] using allWithinDigits_iff_parts xs
  | .tuple _ xs => by
    rw [throughout_tuple]
    simpa [withinDigits, WithinDigits] using allWithinDigits_iff_parts xs
  | .set _ xs => by
    rw [throughout_set]
    simpa [withinDigits, WithinDigits] using allWithinDigits_iff_parts xs
  | .dict _ es => by
    rw [throughout_dict]
    simpa [withinDigits, WithinDigits] using entriesWithinDigits_iff_parts es

theorem allWithinDigits_iff_parts : ∀ xs : List Value,
    allWithinDigits xs = true ↔ ∀ x ∈ xs, x.Throughout WithinDigits
  | [] => by simp [allWithinDigits]
  | x :: xs => by
    simp only [allWithinDigits, Bool.and_eq_true, withinDigits_iff_parts x,
      allWithinDigits_iff_parts xs, List.forall_mem_cons]

theorem entriesWithinDigits_iff_parts : ∀ es : List (Value × Value),
    entriesWithinDigits es = true ↔
      ∀ e ∈ es, e.1.Throughout WithinDigits ∧ e.2.Throughout WithinDigits
  | [] => by simp [entriesWithinDigits]
  | (k, v) :: es => by
    simp only [entriesWithinDigits, Bool.and_eq_true, withinDigits_iff_parts k,
      withinDigits_iff_parts v, entriesWithinDigits_iff_parts es, List.forall_mem_cons]

end

/-- A value is a number, or something else, but it is not what is not a number. -/
def IsProper : Value → Prop
  | .notANumber _ => False
  | _ => True

end Value

open Value (IsProper)

namespace Yaml

/-! ## Readable values -/

theorem isKey_of_proper {v : Value} (hs : (scalarForm? v).isSome) (hv : v.IsProper) : IsKey v := by
  refine ⟨hs, ?_⟩
  rintro m rfl
  exact hv

/-- What reading gave is read again, once it is without tuples and everything in it is the same as
itself. -/
theorem readable_throughout {v : Value} (hg : v.Throughout Genuine) (hd : v.Throughout WithinDigits)
    (hp : v.Throughout IsProper) (ht : v.Throughout fun u => ¬IsTuple u) :
    v.Throughout ReadablePart := by
  intro u hu
  have hgu := hg u hu
  have hpu := hp.part hu
  cases u with
  | tuple => exact ht _ hu trivial
  | list => trivial
  | set k xs =>
    refine ⟨fun x hx => ?_, hgu.2⟩
    exact isKey_of_proper (hgu.1 x hx) ((Value.throughout_set.1 hpu).2 x hx).self
  | dict k es =>
    refine ⟨fun e he => ?_, hgu.2⟩
    exact isKey_of_proper (hgu.1 e he) ((Value.throughout_dict.1 hpu).2 e he).1.self
  | _ => exact readsBack_of_genuine hgu (hd _ hu)

theorem keyed_of_genuine {v : Value} (hg : v.Throughout Genuine) : v.Throughout KeyedPart :=
  hg.imp fun u hu => by
    cases u with
    | set | dict => exact hu.1
    | _ => trivial

/-- Reading a text whose node holds a value. -/
theorem read_of_holds {text : List Char} {n : Node} {v : Value} (source : Nat)
    (hn : document text = .ok (some n)) (h : n.Holds v) (hr : v.Throughout ReadablePart) :
    ∃ w, read source text = .ok w ∧ w.unmarked = v.unmarked := by
  obtain ⟨next, made, hp, hm⟩ := exists_pool hn
  obtain ⟨w, hw, hu⟩ := construct_of_holds source (n.serial + 2) n v h hr (hp.descending hm) (by omega)
  refine ⟨w, ?_, hu⟩
  simp only [read, hn, inspect_of_holds h hr, bind, Except.bind, hw]

/-- A text with a character that stands in no document is none. -/
theorem printable_of_document {text : List Char} {o : Option Node} (h : document text = .ok o) :
    text.all documentChars.has = true := by
  by_contra hn
  rw [document, tokens, if_neg hn] at h
  cases h

theorem read_of_holds_tuple {text : List Char} {n : Node} {v : Value} (source : Nat)
    (hn : document text = .ok (some n)) (h : n.Holds v) (hk : v.Throughout KeyedPart)
    (ht : ¬v.Throughout fun u => ¬IsTuple u) : ∀ w, read source text ≠ .ok w := by
  intro w hw
  unfold read at hw
  rw [hn] at hw
  replace hw : (inspect n >>= fun _ => construct source (n.serial + 2) n) = .ok w := hw
  obtain ⟨_, -, hw⟩ := bind_eq_ok.1 hw
  simp only [Value.Throughout, not_forall, not_not] at ht
  obtain ⟨u, hu, htu⟩ := ht
  exact construct_of_holds_tuple source _ n v h hk ⟨u, hu, htu⟩ w hw

end Yaml

namespace Criteria

open Yaml (WithinDigits IsTuple)

variable {ms : List ModuleInfo} {c : Criteria} {p p' : Platform}

/-- The values of the arguments and the options hold nothing that is not a number. -/
def Proper (c : Criteria) : Prop := c.Throughout IsProper

/-- There is no tuple in the values of the arguments and the options. -/
def TupleFree (c : Criteria) : Prop := c.Throughout fun u => ¬IsTuple u

/-- Criteria are written if their integers can be printed and the interpreter gets to the end. -/
theorem toYaml_eq_ok_iff {reach : Reach} {text : String} :
    c.toYaml reach = .ok text ↔ c.written.withinDigits = true ∧ reach .yaml c.written = true ∧
      text = Yaml.layOut (Yaml.present c.written) := by
  have hcollection : c.written.isCollection = true := rfl
  unfold toYaml Reach.fault? Yaml.write
  rw [hcollection, Bool.true_and]
  cases reach .yaml c.written <;> cases c.written.withinDigits <;> simp [Except.mapError, eq_comm]

theorem written_proper (hl : c.Loaded ms) (h : c.Proper) : c.written.Throughout IsProper :=
  written_throughout hl (fun _ => trivial) (fun _ _ _ _ _ => trivial) h

theorem written_tupleFree (hl : c.Loaded ms) (h : c.TupleFree) :
    c.written.Throughout fun u => ¬IsTuple u :=
  written_throughout hl (fun _ => id) (fun _ _ _ _ _ => id) h

/-- Proper criteria that were loaded can be compared. -/
theorem Proper.comparable (hl : c.Loaded ms) (h : c.Proper)
    (hg : c.written.Throughout Yaml.Genuine) : c.Comparable := by
  intro es hes
  have hproper := h es hes
  have hgenuine := throughout_of_written hg es hes
  rw [Value.entriesComparable_iff_parts]
  intro e he
  constructor
  · have hk : ∃ t, e.1 = .text t := by
      rcases hes with hes | hes
      · exact hl.arguments es hes e he
      · exact hl.options es hes e he
    obtain ⟨t, ht⟩ := hk
    rw [ht]
    exact throughout_text (fun _ => trivial) t
  · refine ((hproper e he).and (hgenuine e he)).imp ?_
    rintro u ⟨hu, hgu⟩
    cases u with
    | notANumber => exact hu
    | dict => exact hgu.2
    | _ => trivial

/-- Loading the text of loaded criteria, which composes to a node that holds their mapping, gives
criteria that agree with them if and only if their types lead back and there are no tuples. -/
theorem reload_of_holds_iff {source source' : Nat} {tree tree' : FileTree} {path path' : FilePath}
    (hm : NamedMembers p'.modules) (hload : (loadCriteria source tree path p).result = .ok c)
    (hproper : c.Proper) (hw : c.written.withinDigits = true) {bytes : List UInt8}
    (hf : readFile tree' path' = .ok bytes) {xs : List Char} (hx : Text.decode bytes = .ok xs)
    (hreads : p'.reads (Text.unifyBreaks xs) = true) {n : Yaml.Node}
    (hn : Yaml.document (Text.unifyBreaks xs) = .ok (some n)) (hh : n.Holds c.written) :
    (∃ d, (loadCriteria source' tree' path' p').result = .ok d ∧ d.Agrees c) ↔
      c.LeadsBack p'.modules ∧ c.TupleFree := by
  have hl := loaded_of_loadCriteria hload
  have hgenuine := written_genuine hload
  have hcomparable := hproper.comparable hl hgenuine
  by_cases ht : c.TupleFree
  · have hreadable := Yaml.readable_throughout hgenuine ((Value.withinDigits_iff_parts _).1 hw)
      (written_proper hl hproper) (written_tupleFree hl ht)
    obtain ⟨w, hr, hu⟩ := Yaml.read_of_holds source' hn hh hreadable
    have hdoc : readDocument source' path'.text bytes p' = .ok (w.arranged p'.sets) :=
      readDocument_eq_ok_iff.2 ⟨xs, w, hx, Yaml.printable_of_document hn, hreads, hr, rfl⟩
    rw [agrees_iff_leadsBack hm hl hcomparable hf hdoc hu]
    exact ⟨fun h => ⟨h, ht⟩, And.left⟩
  · refine iff_of_false ?_ fun h => ht h.2
    rintro ⟨d, hd, -⟩
    obtain ⟨bytes', v, s, b, records, hf', hv, -⟩ := loadCriteria_eq_ok_iff.1 hd
    cases hf.symm.trans hf'
    obtain ⟨ys, w, hy, -, -, hr, -⟩ := readDocument_eq_ok_iff.1 hv
    cases hx.symm.trans hy
    exact Yaml.read_of_holds_tuple source' hn hh (Yaml.keyed_of_genuine hgenuine)
      (fun h => ht (throughout_of_written h)) w hr

theorem settingEntries_ne_nil (c : Criteria) : c.settingEntries ≠ [] := by
  rw [settingEntries_eq]
  exact List.ne_nil_of_mem
    (List.mem_append_left _ (List.mem_filterMap.2 ⟨.inputClass, by decide, rfl⟩))

/-- The written mapping of criteria is read as it was laid out: no next line sign stands in single
quotes, no space behind an escape far to the right, and no key is too long for its colon. -/
def Legible (c : Criteria) : Prop := Yaml.legible .root 0 true (Yaml.present c.written) = true

/-- The characters of criteria as they are written. -/
def characters (c : Criteria) : List Char := (Yaml.layOut (Yaml.present c.written)).toList

/-- Loaded criteria that are legible can be written and the file that holds the text gives criteria
that agree with them, if and only if their integers can be printed, the interpreter gets to the end of
the writing and of the reading, their types lead back and there are no tuples. -/
theorem reload_iff {source source' : Nat} {tree tree' : FileTree} {path path' : FilePath}
    (hm : NamedMembers p'.modules) (hload : (loadCriteria source tree path p).result = .ok c)
    (hproper : c.Proper)
    (hf : ∀ text, c.toYaml p.reach = .ok text →
      readFile tree' path' = .ok (Text.encode text.toList))
    (hlegible : c.Legible) :
    (∃ text, c.toYaml p.reach = .ok text ∧
      ∃ d, (loadCriteria source' tree' path' p').result = .ok d ∧ d.Agrees c) ↔
      c.written.withinDigits = true ∧ p.reach .yaml c.written = true ∧
        p'.reads c.characters = true ∧ c.LeadsBack p'.modules ∧ c.TupleFree := by
  have hkeyed := Yaml.keyed_of_genuine (written_genuine hload)
  have hprinted : Text.unifyBreaks c.characters = c.characters :=
    Yaml.unifyBreaks_of_printed (Yaml.isPrinted_layOut (Yaml.sound_present hkeyed))
  have htokens := Yaml.tokens_present c.settingEntries_ne_nil hkeyed hlegible
  obtain ⟨n, hn, hh⟩ := Yaml.document_present (written_coherent hload) htokens
  by_cases hw : c.written.withinDigits = true ∧ p.reach .yaml c.written = true
  · have htext : c.toYaml p.reach = .ok (Yaml.layOut (Yaml.present c.written)) :=
      toYaml_eq_ok_iff.2 ⟨hw.1, hw.2, rfl⟩
    have hfile : readFile tree' path' = .ok (Text.encode c.characters) := hf _ htext
    by_cases hreads : p'.reads c.characters = true
    · rw [← hprinted] at hreads
      have hiff : (∃ d, (loadCriteria source' tree' path' p').result = .ok d ∧ d.Agrees c) ↔ _ :=
        reload_of_holds_iff hm hload hproper hw.1 hfile (Text.decode_encode _) hreads hn hh
      rw [hprinted] at hreads
      constructor
      · rintro ⟨text, -, hd⟩
        exact ⟨hw.1, hw.2, hreads, hiff.1 hd⟩
      · rintro ⟨-, -, -, hd⟩
        exact ⟨_, htext, hiff.2 hd⟩
    · refine iff_of_false ?_ fun h => hreads h.2.2.1
      rintro ⟨text, -, d, hd, -⟩
      obtain ⟨bytes, v, s, b, records, hfile', hv, -⟩ := loadCriteria_eq_ok_iff.1 hd
      cases hfile.symm.trans hfile'
      obtain ⟨xs, w, hx, -, hr, -⟩ := readDocument_eq_ok_iff.1 hv
      cases (Text.decode_encode _).symm.trans hx
      rw [hprinted] at hr
      exact hreads hr
  · refine iff_of_false ?_ fun h => hw ⟨h.1, h.2.1⟩
    rintro ⟨text, htext, -⟩
    obtain ⟨hdigits, hreach, -⟩ := toYaml_eq_ok_iff.1 htext
    exact hw ⟨hdigits, hreach⟩

/-- A working folder with one file. -/
def oneFile (text : String) : FileTree := ⟨[], [(["c.yaml"], Text.encode text.toList)], []⟩

/-- The path of that file. -/
def filePath : FilePath := ⟨"", ["c.yaml"]⟩

/-- A platform with the module of one type. -/
def oneType : Platform where
  modules := [.holding "builtins" false [("str", .type (.builtin "str"))]]

/-- A file with options. -/
def sampleText : String := "input_class: str\noutput_class: str\noptions:\n  k: 1\n"

/-- What is asked of the sample, in a form that is computed. -/
def isSample (c : Criteria) : Bool :=
  (match c.arguments, c.options with
    | none, some [(.text _, .int _)] => true
    | _, _ => false)
  && (match c.toYaml with
    | .ok text => decide (text = sampleText)
    | .error _ => false)
  && Yaml.legible .root 0 true (Yaml.present c.written)

theorem reload_iff_sample : ∃ c, (loadCriteria 0 (oneFile sampleText) filePath oneType).result = .ok c ∧
    ((∃ text, c.toYaml oneType.reach = .ok text ∧
      ∃ d, (loadCriteria 1 (oneFile sampleText) filePath oneType).result = .ok d ∧ d.Agrees c) ↔
      c.written.withinDigits = true ∧ oneType.reach .yaml c.written = true ∧
        oneType.reads c.characters = true ∧ c.LeadsBack oneType.modules ∧ c.TupleFree) := by
  have h : ((loadCriteria 0 (oneFile sampleText) filePath oneType).result.toOption.any isSample) = true := by
    decide +kernel
  cases hc : (loadCriteria 0 (oneFile sampleText) filePath oneType).result with
  | error f =>
    rw [hc] at h
    cases h
  | ok c =>
    rw [hc] at h
    replace h : isSample c = true := h
    simp only [isSample, Bool.and_eq_true] at h
    obtain ⟨⟨hvalues, htext⟩, hlegible⟩ := h
    refine ⟨c, rfl, reload_iff (by decide) hc ?_ ?_ hlegible⟩
    · split at hvalues
      next ha ho =>
        rintro es (hes | hes)
        · rw [ha] at hes
          cases hes
        · rw [ho] at hes
          cases hes
          intro e he
          rw [List.mem_singleton.1 he]
          intro u hu
          rw [List.mem_singleton.1 hu]
          trivial
      · cases hvalues
    · intro text ht
      replace ht : c.toYaml = .ok text := ht
      rw [ht] at htext
      rw [of_decide_eq_true htext]
      decide +kernel

end Criteria

end ModelSearch
