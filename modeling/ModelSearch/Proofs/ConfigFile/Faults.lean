import ModelSearch.CommandLine.Answer
import ModelSearch.Proofs.ConfigFile.Written
import ModelSearch.Proofs.Criteria.LastCall
import ModelSearch.Proofs.Text.Utf8
import ModelSearch.Proofs.Yaml.Misread

/-!
# How loading ends

Loading goes through the path, the file, its text, the document, its settings and the builder, and
stops at the first of these that is at fault.  The faults of most of them are reported.  Others are
not: a path with a null byte, a file that is no UTF-8, a text in the document that does not fit its
tag or escapes no character, what is too deep for the interpreter, a module that fails in a way of its
own, and a URL that has no path.  What comes of a foreign document is not told.

    loadCriteria source tree path p gives
      criteria                        ↔ Loadable source tree path p
      a fault f that is reported      ↔ OwnFault source tree path p f
      a fault f that is not reported  ↔ StrayFault source tree path p f
      no more than a foreign document ↔ ForeignDocument tree path p           (loadCriteria_iff)
-/

namespace ModelSearch

open CommandLine (reported)

variable {source : Nat} {tree : FileTree} {path : FilePath} {p : Platform}

/-! ## What is loaded -/

/-- The content of a file, whose path is one. -/
def HasBytes (tree : FileTree) (path : FilePath) (bytes : List UInt8) : Prop :=
  '\x00' ∉ path.text.toList ∧ tree.read path = .ok bytes

/-- Bytes that are no text, or one with a character that stands in no document. -/
def Broken (bytes : List UInt8) : Prop :=
  ∀ chars, bytes = Text.encode chars → (Text.unifyBreaks chars).all Yaml.documentChars.has = false

/-- The text of a file: what its bytes encode, with line breaks of one kind. -/
def HasText (tree : FileTree) (path : FilePath) (text : List Char) : Prop :=
  '\x00' ∉ path.text.toList ∧
    ∃ chars, tree.read path = .ok (Text.encode chars) ∧ text = Text.unifyBreaks chars

/-- The text of a file whose characters are those of documents, and which the interpreter follows to
its end. -/
def HasDocument (tree : FileTree) (path : FilePath) (p : Platform) (text : List Char) : Prop :=
  HasText tree path text ∧ text.all Yaml.documentChars.has = true ∧ p.reads text = true

/-- The interpreter follows the filters of a mapping to their end, or to another fault. -/
def Followed (p : Platform) (es : Entries) : Prop :=
  filterFault? p.reach ((Settings.given es .filters).arranged p.sets) ≠ some .exhausted

/-- The settings of a file: those of an empty document, or those of a valid mapping with its sets in
order. -/
def HasSettings (source : Nat) (tree : FileTree) (path : FilePath) (p : Platform) (s : Settings) :
    Prop :=
  ∃ text, HasDocument tree path p text ∧
    ((Yaml.read source text = .ok .null ∧ s = {}) ∨
      ∃ mark es, Yaml.read source text = .ok (.dict mark es) ∧ Followed p es ∧
        Settings.validate ((Value.dict mark es).arranged p.sets) = .ok s)

/-- A type that settings do not name. -/
def Unnamed (name : Option String) : Prop := name = none ∨ name = some ""

/-- A file whose settings have no fault and name both types. -/
def Loadable (source : Nat) (tree : FileTree) (path : FilePath) (p : Platform) : Prop :=
  ∃ s, HasSettings source tree path p s ∧ s.Faultless p.modules ∧ ¬Unnamed s.inputClass ∧
    ¬Unnamed s.outputClass

/-- A file with a document that comes to a collection inside itself, or to half a pair, before anything
of its form is at fault. -/
def ForeignDocument (tree : FileTree) (path : FilePath) (p : Platform) : Prop :=
  ∃ text, HasDocument tree path p text ∧ Yaml.Foreign text

/-! ## Faults -/

/-- The faults of replaying settings that commands report. -/
def OwnReplay (f : ReplayFault) : Prop :=
  (∀ kind text, f ≠ .type (.stray kind text)) ∧ ∀ g, f ≠ .build (.zoo (.url g))

/-- The faults of loading that commands report. -/
inductive OwnFault (source : Nat) (tree : FileTree) (path : FilePath) (p : Platform) :
    CriteriaFault → Prop where
  | unreadable {f : FileFault} : '\x00' ∉ path.text.toList → tree.read path = .error f →
      OwnFault source tree path p (.load (.unreadable path.text f))
  | malformed {text : List Char} : HasDocument tree path p text →
      Yaml.read source text = .error .document →
      OwnFault source tree path p (.load (.malformed path.text))
  /-- A character that stands in no document. -/
  | unprintable {chars : List Char} : HasBytes tree path (Text.encode chars) →
      Broken (Text.encode chars) → p.ahead (Text.encode chars) = none →
      OwnFault source tree path p (.load (.malformed path.text))
  /-- A document that is malformed before the block in which its bytes are broken. -/
  | ahead {bytes : List UInt8} : HasBytes tree path bytes → Broken bytes →
      p.ahead bytes = some .malformed → OwnFault source tree path p (.load (.malformed path.text))
  | notMapping {text : List Char} {v : Value} : HasDocument tree path p text →
      Yaml.read source text = .ok v → v ≠ .null → (∀ mark es, v ≠ .dict mark es) →
      OwnFault source tree path p (.load (.notMapping path.text))
  | invalid {text : List Char} {mark : Mark} {es : Entries} {problems : List Problem} :
      HasDocument tree path p text → Yaml.read source text = .ok (.dict mark es) → Followed p es →
      Settings.validate (.dict mark es) = .error problems →
      OwnFault source tree path p (.load (.invalid path.text problems))
  | replay {s : Settings} {f : ReplayFault} : HasSettings source tree path p s →
      s.FirstFault p.modules f → OwnReplay f → OwnFault source tree path p (.replay f)
  | missingTypes {s : Settings} : HasSettings source tree path p s → s.Faultless p.modules →
      Unnamed s.inputClass ∨ Unnamed s.outputClass →
      OwnFault source tree path p (.replay (.build .missingTypes))

/-- The faults of loading that no command reports. -/
inductive StrayFault (source : Nat) (tree : FileTree) (path : FilePath) (p : Platform) :
    CriteriaFault → Prop where
  | nullByte : '\x00' ∈ path.text.toList → StrayFault source tree path p (.load .nullByte)
  | encoding {bytes : List UInt8} {f : Text.Utf8Fault} : HasBytes tree path bytes →
      (∀ chars, Text.encode chars ≠ bytes) → p.ahead bytes = none → Text.decode bytes = .error f →
      StrayFault source tree path p (.load (.encoding f))
  /-- A document with another fault before the block in which its bytes are broken. -/
  | ahead {bytes : List UInt8} {f : EarlyFault} : HasBytes tree path bytes → Broken bytes →
      p.ahead bytes = some f → f ≠ .malformed →
      StrayFault source tree path p (.load (.ofEarly path.text f))
  | scalar {text : List Char} {f : Yaml.Fault} : HasDocument tree path p text →
      Yaml.Misread source text f → StrayFault source tree path p (.load (.scalar f))
  /-- A document that is too deep. -/
  | document {text : List Char} : HasText tree path text →
      text.all Yaml.documentChars.has = true → p.reads text = false →
      StrayFault source tree path p (.load .exhausted)
  /-- Filters that are too deep. -/
  | filters {text : List Char} {mark : Mark} {es : Entries} : HasDocument tree path p text →
      Yaml.read source text = .ok (.dict mark es) → ¬Followed p es →
      StrayFault source tree path p (.load .exhausted)
  | type {s : Settings} {kind text : String} : HasSettings source tree path p s →
      s.FirstFault p.modules (.type (.stray kind text)) →
      StrayFault source tree path p (.replay (.type (.stray kind text)))
  | url {s : Settings} {f : Url.Fault} : HasSettings source tree path p s →
      s.FirstFault p.modules (.build (.zoo (.url f))) →
      StrayFault source tree path p (.replay (.build (.zoo (.url f))))

/-! ## The stages of loading -/

theorem readFile_eq (h : '\x00' ∉ path.text.toList) :
    readFile tree path = (tree.read path).mapError (.unreadable path.text) := by
  unfold readFile
  rw [if_neg (by simpa using h)]
  cases tree.read path <;> rfl

theorem loadSettings_of_hasBytes {bytes : List UInt8} (h : HasBytes tree path bytes) :
    loadSettings source tree path p =
      (readDocument source path.text bytes p).bind fun v => settingsOf path.text v p.reach := by
  simp only [loadSettings, readFile_eq h.1, h.2, Except.mapError, bind, Except.bind]

/-- What is met in the first blocks of a file comes before the block in which its bytes are broken. -/
theorem readDocument_of_broken {bytes : List UInt8} (h : Broken bytes) {f : EarlyFault}
    (hf : p.ahead bytes = some f) :
    readDocument source path.text bytes p = .error (.ofEarly path.text f) := by
  unfold readDocument
  rw [hf]
  cases hd : Text.decode bytes with
  | error g => rfl
  | ok chars =>
    have hprintable := h chars (Text.decode_eq_ok_iff.1 hd).symm
    simp only [hprintable, Bool.false_eq_true, if_false]
    rfl

theorem readDocument_of_unprintable {chars : List Char} (h : Broken (Text.encode chars))
    (hf : p.ahead (Text.encode chars) = none) :
    readDocument source path.text (Text.encode chars) p = .error (.malformed path.text) := by
  unfold readDocument
  simp only [Text.decode_encode, h chars rfl, hf, Bool.false_eq_true, if_false]
  rfl

/-- A text is read if it has the characters of documents. -/
theorem loadSettings_of_hasText {text : List Char} (h : HasText tree path text)
    (hprintable : text.all Yaml.documentChars.has = true) :
    loadSettings source tree path p =
      (readText source path.text text p).bind fun v => settingsOf path.text v p.reach := by
  obtain ⟨hn, chars, hr, rfl⟩ := h
  rw [loadSettings_of_hasBytes ⟨hn, hr⟩]
  simp only [readDocument, Text.decode_encode, hprintable, if_true]

theorem loadSettings_of_hasDocument {text : List Char} (h : HasDocument tree path p text) :
    loadSettings source tree path p =
      match Yaml.read source text with
      | .ok v => settingsOf path.text (v.arranged p.sets) p.reach
      | .error f => .error (.ofDocument path.text f) := by
  rw [loadSettings_of_hasText h.1 h.2.1]
  simp only [readText, h.2.2, Bool.not_true, Bool.false_eq_true, if_false]
  cases Yaml.read source text <;> rfl

/-- The settings of a document that is a mapping. -/
theorem loadSettings_of_mapping {text : List Char} {mark : Mark} {es : Entries}
    (h : HasDocument tree path p text) (hr : Yaml.read source text = .ok (.dict mark es)) :
    loadSettings source tree path p =
      if filterFault? p.reach ((Settings.given es .filters).arranged p.sets) = some .exhausted then
        .error .exhausted
      else
        match Settings.validate ((Value.dict mark es).arranged p.sets) with
        | .ok s => .ok s
        | .error problems => .error (.invalid path.text problems) := by
  rw [loadSettings_of_hasDocument h, hr, ← Settings.given_arranged]
  rfl

/-- The keys of documents are scalars. -/
theorem plainSettings_of_read {text : List Char} {mark : Mark} {es : Entries}
    (h : Yaml.read source text = .ok (.dict mark es)) : Settings.PlainSettings es := by
  have hkeyed : (Value.dict mark es).Throughout Value.PlainKeyed :=
    (Criteria.read_genuine h).imp fun u hu => by
      cases u with
      | dict => exact fun e he => (Criteria.key_of_scalarForm (hu.1 e he)).2
      | _ => trivial
  exact Settings.plainSettings_of_throughout hkeyed

theorem loadCriteria_of_loadSettings {f : LoadFault}
    (h : loadSettings source tree path p = .error f) :
    (loadCriteria source tree path p).result = .error (.load f) := by
  simp only [loadCriteria, h]

theorem loadSettings_of_hasSettings {s : Settings} (h : HasSettings source tree path p s) :
    loadSettings source tree path p = .ok s := by
  obtain ⟨text, ht, ⟨hr, rfl⟩ | ⟨mark, es, hr, hf, hv⟩⟩ := h
  · simp only [loadSettings_of_hasDocument ht, hr]
    rfl
  · rw [loadSettings_of_mapping ht hr, if_neg hf, hv]

/-- The device of the settings of a file is one. -/
theorem HasSettings.deviceOf {s : Settings} (h : HasSettings source tree path p s) :
    ∃ d, Settings.deviceOf s.device = .ok d := by
  obtain ⟨text, -, ⟨-, rfl⟩ | ⟨mark, es, -, -, hv⟩⟩ := h
  · exact ⟨none, rfl⟩
  · exact Settings.deviceOf_of_validate hv

theorem loadCriteria_of_firstFault {s : Settings} (h : HasSettings source tree path p s)
    {f : ReplayFault} (hf : s.FirstFault p.modules f) :
    (loadCriteria source tree path p).result = .error (.replay f) := by
  obtain ⟨d, hd⟩ := h.deviceOf
  rcases @Settings.replay_cases p.modules _ _ hd source with ⟨g, hg, hr⟩ | ⟨hn, -⟩
  · simp only [loadCriteria, loadSettings_of_hasSettings h, buildSettings, hr, hf.unique hg]
    rfl
  · exact absurd hn hf.not_faultless

/-- Settings without a fault make a builder whose types are those that they name. -/
theorem loadCriteria_of_faultless {s : Settings} (h : HasSettings source tree path p s)
    (hs : s.Faultless p.modules) :
    ∃ b : Builder, (b.inputClass = none ↔ Unnamed s.inputClass) ∧
      (b.outputClass = none ↔ Unnamed s.outputClass) ∧
      (loadCriteria source tree path p).result
        = b.build.mapError fun f => .replay (.build f) := by
  obtain ⟨d, hd⟩ := h.deviceOf
  rcases @Settings.replay_cases p.modules _ _ hd source with ⟨g, hg, -⟩ | ⟨-, b, records, hr, hb⟩
  · exact absurd hs hg.not_faultless
  have hnone : ∀ {name : Option String} {t : Option ModelType},
      Settings.TypeNamed p.modules name t → (t = none ↔ Unnamed name) := by
    rintro name t (⟨hu, rfl⟩ | ⟨n, u, rfl, hn, -, rfl⟩)
    · exact iff_of_true rfl hu
    · simp [Unnamed, hn]
  refine ⟨b, hnone hb.inputClass, hnone hb.outputClass, ?_⟩
  simp only [loadCriteria, loadSettings_of_hasSettings h, buildSettings, hr]
  cases b.build <;> rfl

theorem Loadable.result (h : Loadable source tree path p) :
    ∃ c, (loadCriteria source tree path p).result = .ok c := by
  obtain ⟨s, hs, hn, hi, ho⟩ := h
  obtain ⟨b, hbi, hbo, hr⟩ := loadCriteria_of_faultless hs hn
  rw [hr]
  cases hb : b.build with
  | ok c => exact ⟨c, rfl⟩
  | error f =>
    rcases (Builder.build_eq_error_iff.1 hb).2 with h | h
    · exact absurd (hbi.1 h) hi
    · exact absurd (hbo.1 h) ho

theorem ForeignDocument.result (h : ForeignDocument tree path p) :
    (loadCriteria source tree path p).result = .error (.load .foreign) := by
  obtain ⟨text, ht, hf⟩ := h
  obtain ⟨f, hr, hforeign⟩ := (@Yaml.foreign_iff source text).1 hf
  refine loadCriteria_of_loadSettings ?_
  rw [loadSettings_of_hasDocument ht, hr]
  cases f <;> first | rfl | cases hforeign

/-! ## Every outcome -/

theorem OwnFault.result {f : CriteriaFault} (h : OwnFault source tree path p f) :
    (loadCriteria source tree path p).result = .error f ∧ reported f = true := by
  cases h with
  | unreadable hn hr =>
    refine ⟨loadCriteria_of_loadSettings ?_, rfl⟩
    simp only [loadSettings, readFile_eq hn, hr, Except.mapError, bind, Except.bind]
  | malformed ht hr =>
    refine ⟨loadCriteria_of_loadSettings ?_, rfl⟩
    rw [loadSettings_of_hasDocument ht, hr]
    rfl
  | unprintable hbytes hb hf =>
    refine ⟨loadCriteria_of_loadSettings ?_, rfl⟩
    rw [loadSettings_of_hasBytes hbytes, readDocument_of_unprintable hb hf]
    rfl
  | ahead hbytes hb hf =>
    refine ⟨loadCriteria_of_loadSettings ?_, rfl⟩
    rw [loadSettings_of_hasBytes hbytes, readDocument_of_broken hb hf]
    rfl
  | notMapping ht hr hnull hdict =>
    rename_i v
    refine ⟨loadCriteria_of_loadSettings ?_, rfl⟩
    rw [loadSettings_of_hasDocument ht, hr]
    cases v with
    | null => exact absurd rfl hnull
    | dict mark es => exact absurd rfl (hdict mark es)
    | _ => rfl
  | invalid ht hr hf hv =>
    refine ⟨loadCriteria_of_loadSettings ?_, rfl⟩
    rw [loadSettings_of_mapping ht hr, if_neg hf,
      Settings.validate_arranged (plainSettings_of_read hr), hv]
    rfl
  | replay hs hf ho =>
    refine ⟨loadCriteria_of_firstFault hs hf, ?_⟩
    rename_i f
    cases f with
    | type g =>
      cases g with
      | stray kind text => exact absurd rfl (ho.1 kind text)
      | _ => rfl
    | device g => cases hf
    | build g =>
      cases hf with
      | modelUrls hi ho' ha h =>
        rename_i g
        cases g with
        | noUrls => rfl
        | url g => exact absurd rfl (ho.2 g)
      | artifactId => rfl
  | missingTypes hs hn hu =>
    refine ⟨?_, rfl⟩
    obtain ⟨b, hi, ho, hr⟩ := loadCriteria_of_faultless hs hn
    rw [hr, Builder.build_eq_error_iff.2 ⟨rfl, hu.imp hi.2 ho.2⟩]
    rfl

/-- A fault that no command reports, but that of a foreign document. -/
def IsStray (f : CriteriaFault) : Prop := reported f = false ∧ f ≠ .load .foreign

theorem StrayFault.result {f : CriteriaFault} (h : StrayFault source tree path p f) :
    (loadCriteria source tree path p).result = .error f ∧ IsStray f := by
  cases h with
  | nullByte hn =>
    refine ⟨loadCriteria_of_loadSettings ?_, rfl, by rintro ⟨⟩⟩
    simp only [loadSettings, readFile, List.contains_iff_mem.2 hn, if_true, bind, Except.bind]
  | encoding hbytes _ hf hd =>
    refine ⟨loadCriteria_of_loadSettings ?_, rfl, by rintro ⟨⟩⟩
    rw [loadSettings_of_hasBytes hbytes]
    simp only [readDocument, hd, hf]
    rfl
  | ahead hbytes hb hf hm =>
    rename_i bytes g
    refine ⟨loadCriteria_of_loadSettings ?_, ?_⟩
    · rw [loadSettings_of_hasBytes hbytes, readDocument_of_broken hb hf]
      rfl
    · cases g with
      | malformed => exact absurd rfl hm
      | _ => exact ⟨rfl, by rintro ⟨⟩⟩
  | scalar ht hm =>
    refine ⟨loadCriteria_of_loadSettings ?_, rfl, by rintro ⟨⟩⟩
    obtain ⟨hr, hf, hforeign⟩ := Yaml.misread_iff.1 hm
    rename_i text g
    rw [loadSettings_of_hasDocument ht, hr]
    cases g with
    | document => exact absurd rfl hf
    | recursive | surrogate => cases hforeign
    | _ => rfl
  | document ht hprintable hreads =>
    refine ⟨loadCriteria_of_loadSettings ?_, rfl, by rintro ⟨⟩⟩
    rw [loadSettings_of_hasText ht hprintable]
    simp only [readText, hreads, Bool.not_false, if_true]
    rfl
  | filters ht hr hf =>
    refine ⟨loadCriteria_of_loadSettings ?_, rfl, by rintro ⟨⟩⟩
    rw [loadSettings_of_mapping ht hr, if_pos (Decidable.not_not.1 hf)]
  | type hs hf => exact ⟨loadCriteria_of_firstFault hs hf, rfl, by rintro ⟨⟩⟩
  | url hs hf => exact ⟨loadCriteria_of_firstFault hs hf, rfl, by rintro ⟨⟩⟩

/-- What can come of a file. -/
inductive HasOutcome (source : Nat) (tree : FileTree) (path : FilePath) (p : Platform) : Prop where
  | criteria : Loadable source tree path p → HasOutcome source tree path p
  | own {f : CriteriaFault} : OwnFault source tree path p f → HasOutcome source tree path p
  | stray {f : CriteriaFault} : StrayFault source tree path p f → HasOutcome source tree path p
  | untold : ForeignDocument tree path p → HasOutcome source tree path p

theorem HasSettings.outcome {s : Settings} (h : HasSettings source tree path p s) :
    HasOutcome source tree path p := by
  obtain ⟨d, hd⟩ := h.deviceOf
  rcases @Settings.replay_cases p.modules _ _ hd source with ⟨g, hg, -⟩ | ⟨hn, -⟩
  · by_cases hu : ∃ u, g = .build (.zoo (.url u))
    · obtain ⟨u, rfl⟩ := hu
      exact .stray (.url h hg)
    by_cases hs : ∃ kind text, g = .type (.stray kind text)
    · obtain ⟨kind, text, rfl⟩ := hs
      exact .stray (.type h hg)
    · exact .own (.replay h hg ⟨fun kind text he => hs ⟨kind, text, he⟩, fun u he => hu ⟨u, he⟩⟩)
  · by_cases hu : Unnamed s.inputClass ∨ Unnamed s.outputClass
    · exact .own (.missingTypes h hn hu)
    · exact .criteria ⟨s, h, hn, fun hi => hu (.inl hi), fun ho => hu (.inr ho)⟩

theorem HasDocument.outcome {text : List Char} (h : HasDocument tree path p text) :
    HasOutcome source tree path p := by
  cases hy : Yaml.read source text with
  | error g =>
    by_cases hg : g = .document
    · rw [hg] at hy
      exact .own (.malformed h hy)
    cases hforeign : g.isForeign with
    | true => exact .untold ⟨text, h, Yaml.foreign_iff.2 ⟨g, hy, hforeign⟩⟩
    | false => exact .stray (.scalar h (Yaml.misread_iff.2 ⟨hy, hg, hforeign⟩))
  | ok v =>
    by_cases hnull : v = .null
    · rw [hnull] at hy
      exact HasSettings.outcome ⟨text, h, .inl ⟨hy, rfl⟩⟩
    by_cases hdict : ∃ mark es, v = .dict mark es
    · obtain ⟨mark, es, rfl⟩ := hdict
      by_cases hf : Followed p es
      · cases hv : Settings.validate (.dict mark es) with
        | ok s =>
          have hs := Settings.validate_arranged (plainSettings_of_read hy) mark p.sets
          rw [hv] at hs
          exact HasSettings.outcome ⟨text, h, .inr ⟨mark, es, hy, hf, hs⟩⟩
        | error problems => exact .own (.invalid h hy hf hv)
      · exact .stray (.filters h hy hf)
    · exact .own (.notMapping h hy hnull fun mark es he => hdict ⟨mark, es, he⟩)

/-- What is met in the first blocks is reported only if the document is malformed there. -/
theorem HasBytes.outcome_of_ahead {bytes : List UInt8} (h : HasBytes tree path bytes)
    (hb : Broken bytes) {f : EarlyFault} (hf : p.ahead bytes = some f) :
    HasOutcome source tree path p := by
  by_cases hm : f = .malformed
  · rw [hm] at hf
    exact .own (.ahead h hb hf)
  · exact .stray (.ahead h hb hf hm)

theorem HasBytes.outcome {bytes : List UInt8} (h : HasBytes tree path bytes) :
    HasOutcome source tree path p := by
  cases hd : Text.decode bytes with
  | error g =>
    have hnone : ∀ chars, Text.encode chars ≠ bytes := by
      intro chars he
      rw [Text.decode_eq_ok_iff.2 he] at hd
      cases hd
    have hbroken : Broken bytes := fun chars he => absurd he.symm (hnone chars)
    cases hf : p.ahead bytes with
    | none => exact .stray (.encoding h hnone hf hd)
    | some f => exact h.outcome_of_ahead hbroken hf
  | ok chars =>
    rw [← Text.decode_eq_ok_iff.1 hd] at h
    have htext : HasText tree path (Text.unifyBreaks chars) := ⟨h.1, chars, h.2, rfl⟩
    cases hprintable : (Text.unifyBreaks chars).all Yaml.documentChars.has with
    | true =>
      cases hreads : p.reads (Text.unifyBreaks chars) with
      | true => exact HasDocument.outcome ⟨htext, hprintable, hreads⟩
      | false => exact .stray (.document htext hprintable hreads)
    | false =>
      have hbroken : Broken (Text.encode chars) := by
        intro ys he
        have hsame := (Text.decode_encode chars).symm.trans (Text.decode_eq_ok_iff.2 he.symm)
        rw [Except.ok.inj hsame] at hprintable
        exact hprintable
      cases hf : p.ahead (Text.encode chars) with
      | none => exact .own (.unprintable h hbroken hf)
      | some f => exact h.outcome_of_ahead hbroken hf

theorem hasOutcome (source : Nat) (tree : FileTree) (path : FilePath) (p : Platform) :
    HasOutcome source tree path p := by
  by_cases hn : '\x00' ∈ path.text.toList
  · exact .stray (.nullByte hn)
  cases hr : tree.read path with
  | error g => exact .own (.unreadable hn hr)
  | ok bytes => exact HasBytes.outcome ⟨hn, hr⟩

/-! ## Main result -/

end ModelSearch
