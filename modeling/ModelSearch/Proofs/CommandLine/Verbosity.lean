import Mathlib.Data.List.Basic
import Mathlib.Data.List.Count
import ModelSearch.Proofs.CommandLine.Log

/-!
# Runs that differ in verbosity

Flags of the tool before a command, and the same flags with more of those that ask for a log.  The
answer and the ending are the same, and the log goes on where that of the plainer run ends, with
records of the loading.  There is one exception: criteria that cannot be put into words, once their
details are asked for, end the run before there is an answer.

    Louder fs gs → the runs of fs and gs agree, or gs tells such criteria    (run_of_louder)
    a command that gives criteria sinks ↔ details are asked for and a field of them cannot be told
                                                                             (sinks_iff)
-/

namespace ModelSearch.CommandLine

open Console (Verbosity logText recordLines recordsText shownRecords textOfLines)

/-! ## Flags of the tool -/

/-- The flags of the tool that leave the command to run. -/
inductive ToolFlag where
  | json
  | quiet
  | verbose
  deriving DecidableEq, Repr

namespace ToolFlag

def text : ToolFlag → String
  | .json => "--json"
  | .quiet => "--quiet"
  | .verbose => "-v"

def flag : ToolFlag → Flag
  | .json => .json
  | .quiet => .quiet
  | .verbose => .verbose

theorem flag_injective : Function.Injective flag := by
  intro f g h
  cases f <;> cases g <;> first | rfl | cases h

theorem text_ne (f : ToolFlag) : f.text ≠ "--" := by
  cases f <;> decide

theorem isFlagArgument_text (f : ToolFlag) : isFlagArgument f.text = true := by
  cases f <;> rfl

theorem argumentFlags_text (f : ToolFlag) :
    argumentFlags toolPage.switches f.text = .ok [f.flag] := by
  cases f <;> rfl

theorem askedText_flag (page : Page) (f : ToolFlag) : askedText page f.flag = none := by
  cases f <;> rfl

end ToolFlag

/-- `gs` are the flags `fs` with any number of requests for a log put in. -/
inductive Louder : List ToolFlag → List ToolFlag → Prop where
  | nil : Louder [] []
  | keep (f : ToolFlag) {fs gs : List ToolFlag} : Louder fs gs → Louder (f :: fs) (f :: gs)
  | more {fs gs : List ToolFlag} : Louder fs gs → Louder fs (.verbose :: gs)

/-- How many requests for a log there are. -/
def volume (fs : List ToolFlag) : Nat := fs.count .verbose

namespace Louder

variable {fs gs : List ToolFlag}

theorem volume_le (h : Louder fs gs) : volume fs ≤ volume gs := by
  induction h with
  | nil => exact Nat.le_refl _
  | keep f _ ih =>
    simp only [volume, List.count_cons] at ih ⊢
    exact Nat.add_le_add_right ih _
  | more _ ih =>
    simp only [volume, List.count_cons_self] at ih ⊢
    exact Nat.le_succ_of_le ih

theorem mem_iff (h : Louder fs gs) {f : ToolFlag} (hf : f ≠ .verbose) : f ∈ gs ↔ f ∈ fs := by
  induction h with
  | nil => exact Iff.rfl
  | keep g _ ih => rw [List.mem_cons, List.mem_cons, ih]
  | more _ ih => rw [List.mem_cons, ih, or_iff_right hf]

theorem contains_eq (h : Louder fs gs) {f : ToolFlag} (hf : f ≠ .verbose) :
    gs.contains f = fs.contains f := by
  rw [Bool.eq_iff_iff, List.contains_iff_mem, List.contains_iff_mem, h.mem_iff hf]

end Louder

/-! ## Reading them -/

section

variable {fs : List ToolFlag} {name : String} {rest : List String}

/-- Flags of the tool are read one by one, up to the command. -/
theorem readFlags_flags (hname : isFlagArgument name = false) (fs : List ToolFlag) :
    readFlags toolPage.switches false (fs.map ToolFlag.text ++ name :: rest)
      = .ok (fs.map ToolFlag.flag, name :: rest) := by
  induction fs with
  | nil =>
    have hdashes : name ≠ "--" := by
      rintro rfl
      cases hname
    rw [List.map_nil, List.nil_append, readFlags, if_neg hdashes, hname]
    rfl
  | cons f fs ih =>
    rw [List.map_cons, List.cons_append, readFlags, if_neg f.text_ne, if_pos f.isFlagArgument_text,
      f.argumentFlags_text, ih]
    rfl

theorem readPage_flags (hname : isFlagArgument name = false) (fs : List ToolFlag) :
    readPage toolPage false (fs.map ToolFlag.text ++ name :: rest)
      = .ok (fs.map ToolFlag.flag, name :: rest) := by
  have hasked : (fs.map ToolFlag.flag).findSome? (askedText toolPage) = none := by
    rw [List.findSome?_eq_none_iff]
    intro flag hflag
    obtain ⟨f, -, rfl⟩ := List.mem_map.1 hflag
    exact f.askedText_flag toolPage
  simp only [readPage, readFlags_flags hname, hasked]

/-- The request of `show` behind flags that were read. -/
theorem ofArguments_show {tree : FileTree} {args : List String} {flags : List Flag}
    (hread : readPage toolPage false args = .ok (flags, "show" :: rest)) (hargs : args ≠ []) :
    Request.ofArguments tree args = (readCommand showPage tree rest).map fun read =>
      ⟨.ofCount (flags.count .verbose), flags.contains .json, flags.contains .quiet,
        .show (read.1.contains .yaml), read.2⟩ := by
  unfold Request.ofArguments
  rw [if_neg (by simpa using hargs), hread]
  simp only [bind, Except.bind, pure, Except.pure, if_true]
  cases readCommand showPage tree rest <;> rfl

/-- The request of `validate` behind flags that were read. -/
theorem ofArguments_validate {tree : FileTree} {args : List String} {flags : List Flag}
    (hread : readPage toolPage false args = .ok (flags, "validate" :: rest)) (hargs : args ≠ []) :
    Request.ofArguments tree args = (readCommand validatePage tree rest).map fun read =>
      ⟨.ofCount (flags.count .verbose), flags.contains .json, flags.contains .quiet,
        .validate, read.2⟩ := by
  unfold Request.ofArguments
  rw [if_neg (by simpa using hargs), hread]
  have hname : "validate" ≠ "show" := by decide
  simp only [bind, Except.bind, pure, Except.pure, if_true, if_neg hname]
  cases readCommand validatePage tree rest <;> rfl

/-- A request with what flags of the tool set. -/
def Request.flagged (fs : List ToolFlag) (r : Request) : Request :=
  { r with
    verbosity := .ofCount (volume fs)
    json := fs.contains .json
    quiet := fs.contains .quiet }

theorem count_flag (fs : List ToolFlag) : (fs.map ToolFlag.flag).count .verbose = volume fs :=
  List.count_map_of_injective fs _ ToolFlag.flag_injective .verbose

theorem contains_flag (fs : List ToolFlag) (f : ToolFlag) :
    (fs.map ToolFlag.flag).contains f.flag = fs.contains f := by
  rw [Bool.eq_iff_iff, List.contains_iff_mem, List.contains_iff_mem,
    List.mem_map_of_injective ToolFlag.flag_injective]

/-- Flags of the tool before a command set what they set, and nothing else of the request. -/
theorem ofArguments_flags (tree : FileTree) (hname : name = "show" ∨ name = "validate")
    (fs : List ToolFlag) :
    Request.ofArguments tree (fs.map ToolFlag.text ++ name :: rest)
      = (Request.ofArguments tree (name :: rest)).map (Request.flagged fs) := by
  have hflag : isFlagArgument name = false := by
    rcases hname with rfl | rfl <;> rfl
  have hread : readPage toolPage false (fs.map ToolFlag.text ++ name :: rest)
      = .ok (fs.map ToolFlag.flag, name :: rest) := readPage_flags hflag fs
  have hplain : readPage toolPage false (name :: rest) = .ok ([], name :: rest) :=
    readPage_flags hflag []
  have hargs : fs.map ToolFlag.text ++ name :: rest ≠ [] := by simp
  have hjson := contains_flag fs .json
  have hquiet := contains_flag fs .quiet
  dsimp only [ToolFlag.flag] at hjson hquiet
  rcases hname with rfl | rfl
  · rw [ofArguments_show hread hargs, ofArguments_show hplain nofun, count_flag, hjson, hquiet]
    cases readCommand showPage tree rest <;> rfl
  · rw [ofArguments_validate hread hargs, ofArguments_validate hplain nofun, count_flag, hjson,
      hquiet]
    cases readCommand validatePage tree rest <;> rfl

end

section

variable {fs gs : List ToolFlag}

/-- What is answered does not depend on how much is logged. -/
theorem answer_flagged (h : Louder fs gs) (r : Request) (say : CriteriaFault → String)
    (loaded : Except CriteriaFault Display) :
    (r.flagged gs).answer say loaded = (r.flagged fs).answer say loaded := by
  have hjson : gs.contains .json = fs.contains .json := h.contains_eq nofun
  have hquiet : gs.contains .quiet = fs.contains .quiet := h.contains_eq nofun
  unfold Request.flagged
  rw [hjson, hquiet]
  rfl

end

/-! ## The log -/

section

variable {path : FilePath} {records details : List LogRecord} {stamp : String}

theorem textOfLines_append (xs ys : List (List Char)) :
    textOfLines (xs ++ ys) = textOfLines xs ++ textOfLines ys := by
  rw [textOfLines, List.flatMap_append, String.ofList_append]
  rfl

/-- Records after others stand there as after a record of the same time. -/
theorem recordsText_append (r : LogRecord) (xs ys : List LogRecord) :
    recordsText stamp (r :: xs ++ ys) = recordsText stamp (r :: xs) ++ recordsText "" ys := by
  have hrest : recordsText "" ys = textOfLines (ys.flatMap (recordLines [])) := by
    cases ys <;> rfl
  show textOfLines (recordLines stamp.toList r ++ (xs ++ ys).flatMap (recordLines []))
    = textOfLines (recordLines stamp.toList r ++ xs.flatMap (recordLines [])) ++ recordsText "" ys
  rw [hrest, ← textOfLines_append, List.append_assoc, ← List.flatMap_append]

/-- The records that are told: those shown, up to one that cannot be put into words. -/
def toldRecords (v : Verbosity) (records : List LogRecord) : List LogRecord :=
  (shownRecords v records).takeWhile (·.fault.isNone)

theorem mem_of_told {v : Verbosity} {x : LogRecord} (h : x ∈ toldRecords v records) :
    x ∈ records ∧ v.shows x.level = true :=
  List.mem_filter.1 ((List.takeWhile_sublist _).mem h)

theorem told_silent (records : List LogRecord) : toldRecords .silent records = [] := by
  refine List.eq_nil_iff_forall_not_mem.2 fun x hx => ?_
  cases (mem_of_told hx).2

theorem told_informed (hd : ∀ r ∈ details, r.level = .debug) :
    toldRecords .informed (loadRecord path :: details) = [loadRecord path] := by
  have hnone : shownRecords .informed details = [] := by
    refine List.filter_eq_nil_iff.2 fun r hr => ?_
    rw [hd r hr]
    exact nofun
  have hshown : shownRecords .informed (loadRecord path :: details)
      = loadRecord path :: shownRecords .informed details := rfl
  rw [toldRecords, hshown, hnone]
  rfl

theorem told_detailed (details : List LogRecord) :
    toldRecords .detailed (loadRecord path :: details)
      = loadRecord path :: details.takeWhile (·.fault.isNone) := by
  have hall : shownRecords .detailed (loadRecord path :: details) = loadRecord path :: details :=
    List.filter_eq_self.2 fun r _ => rfl
  rw [toldRecords, hall]
  rfl

/-- A log with more requests goes on where one with fewer ends, with what only they show. -/
theorem logText_of_le {n m : Nat} (h : n ≤ m) (runtime : Runtime) (tree : FileTree)
    (path : FilePath) (stamp : String) :
    let records := (runtime.load tree path).records
    ∃ gained, logText (.ofCount m) stamp records
        = logText (.ofCount n) stamp records ++ recordsText (if n = 0 then stamp else "") gained ∧
      ∀ x ∈ gained, x ∈ records ∧ (Verbosity.ofCount n).shows x.level = false ∧
        (Verbosity.ofCount m).shows x.level = true := by
  intro records
  match n, m with
  | 0, m =>
    refine ⟨toldRecords (.ofCount m) records, ?_, fun x hx => ?_⟩
    · show _ = recordsText stamp (toldRecords .silent records) ++ _
      rw [told_silent]
      exact (String.empty_append ..).symm
    · exact ⟨(mem_of_told hx).1, rfl, (mem_of_told hx).2⟩
  | 1, 1 => exact ⟨[], (String.append_empty ..).symm, nofun⟩
  | n + 2, m + 2 => exact ⟨[], (String.append_empty ..).symm, nofun⟩
  | 1, m + 2 =>
    rcases (records_load runtime tree path).1 with hrecords | ⟨details, hd, hrecords⟩
    · simp only [records, hrecords]
      exact ⟨[], rfl, nofun⟩
    · have hgained : ∀ x ∈ details.takeWhile (·.fault.isNone), x ∈ details := fun x hx =>
        (List.takeWhile_sublist _).mem hx
      refine ⟨details.takeWhile (·.fault.isNone), ?_, fun x hx => ?_⟩
      · show recordsText stamp (toldRecords .detailed records)
          = recordsText stamp (toldRecords .informed records) ++ _
        simp only [records, hrecords]
        rw [told_detailed, told_informed hd]
        exact recordsText_append _ [] _
      · simp only [records, hrecords]
        refine ⟨List.mem_cons_of_mem _ (hgained x hx), ?_, rfl⟩
        rw [hd x (hgained x hx)]
        rfl

end

/-! ## Main results -/

/-- The log of a command has to tell what cannot be put into words, behind such flags of the tool. -/
def Sinks (runtime : Runtime) (tree : FileTree) (fs : List ToolFlag) (command : List String) :
    Prop :=
  ∃ r, Request.ofArguments tree command = .ok r ∧
    Untold (.ofCount (volume fs)) (runtime.load tree r.file).records

variable {fs gs : List ToolFlag} {tree : FileTree} {runtime : Runtime} {command : List String}
  {name : String}

/-- Where a command gives criteria, it sinks if their details are asked for and one of their fields
cannot be told. -/
theorem sinks_iff {r : Request} {c : Criteria} (hr : Request.ofArguments tree command = .ok r)
    (hload : (loadCriteria 1 tree r.file runtime.toPlatform).result = .ok c) :
    Sinks runtime tree fs command ↔ 2 ≤ volume fs ∧ Unsaid runtime.reach c := by
  have hcount : Verbosity.ofCount (volume fs) = .detailed ↔ 2 ≤ volume fs := by
    match volume fs with
    | 0 | 1 => exact iff_of_false nofun (by decide)
    | n + 2 => exact iff_of_true rfl (Nat.le_add_left 2 n)
  rw [← hcount, ← untold_criteria_iff hload]
  constructor
  · rintro ⟨r', hr', hu⟩
    cases hr.symm.trans hr'
    exact hu
  · exact fun hu => ⟨r, hr, hu⟩

theorem shows_of_le {n m : Nat} {level : LogLevel} (h : n ≤ m)
    (hs : (Verbosity.ofCount n).shows level = true) : (Verbosity.ofCount m).shows level = true := by
  match n, m, level with
  | 0, _, _ => cases hs
  | 1, _, .debug => cases hs
  | 1, 1, .info | 1, _ + 2, .info => rfl
  | _ + 2, _ + 2, _ => rfl

theorem Untold.of_le {n m : Nat} {records : List LogRecord} (h : n ≤ m)
    (hu : Untold (.ofCount n) records) : Untold (.ofCount m) records := by
  obtain ⟨x, hx, hs, hf⟩ := hu
  exact ⟨x, hx, shows_of_le h hs, hf⟩

/-- A run behind flags of the tool that ends before there is a request. -/
theorem run_flags_of_early {rest : List String} {early : Early}
    (hname : name = "show" ∨ name = "validate")
    (hearly : Request.ofArguments tree (name :: rest) = .error early) (fs : List ToolFlag)
    (stamp : String) (runtime : Runtime) :
    run tree stamp (fs.map ToolFlag.text ++ name :: rest) runtime = .ofEarly early := by
  rw [run, ofArguments_flags tree hname, hearly]
  rfl

/-- A run behind flags of the tool that has a request. -/
theorem run_flags_of_request {rest : List String} {r : Request}
    (hname : name = "show" ∨ name = "validate")
    (hr : Request.ofArguments tree (name :: rest) = .ok r) (fs : List ToolFlag)
    (stamp : String) (runtime : Runtime) :
    run tree stamp (fs.map ToolFlag.text ++ name :: rest) runtime =
      let loaded := runtime.load tree r.file
      let answer := (r.flagged fs).loggedAnswer runtime.message loaded
      ⟨answer.output, logText (.ofCount (volume fs)) stamp loaded.records, answer.ending⟩ := by
  have hflags : Request.ofArguments tree (fs.map ToolFlag.text ++ name :: rest)
      = .ok (r.flagged fs) := by
    rw [ofArguments_flags tree hname, hr]
    rfl
  exact run_of_ofArguments hflags stamp runtime

/-- The answer behind flags that do not sink it is that behind fewer. -/
theorem loggedAnswer_flagged (h : Louder fs gs) {r : Request}
    (hr : Request.ofArguments tree command = .ok r)
    (hs : Sinks runtime tree gs command → Sinks runtime tree fs command) :
    (r.flagged gs).loggedAnswer runtime.message (runtime.load tree r.file)
      = (r.flagged fs).loggedAnswer runtime.message (runtime.load tree r.file) := by
  by_cases hu : Untold (.ofCount (volume gs)) (runtime.load tree r.file).records
  · obtain ⟨r', hr', hu'⟩ := hs ⟨r, hr, hu⟩
    cases hr.symm.trans hr'
    -- Only a log with details sinks, and with details both logs are the same.
    have hv : (r.flagged gs).verbosity = (r.flagged fs).verbosity :=
      (detailed_of_untold hu).trans (detailed_of_untold hu').symm
    rw [Request.loggedAnswer, Request.loggedAnswer, hv, answer_flagged h]
  · have hu' : ¬Untold (.ofCount (volume fs)) (runtime.load tree r.file).records := fun h' =>
      hu (h'.of_le h.volume_le)
    have hloud : (r.flagged gs).loggedAnswer runtime.message _ = _ := loggedAnswer_of_told hu
    have hplain : (r.flagged fs).loggedAnswer runtime.message _ = _ := loggedAnswer_of_told hu'
    exact hloud.trans ((answer_flagged h r _ _).trans hplain.symm)

/-- A run with more requests for a log has the answer and the ending of the plainer run, unless only
it sinks: then it prints no answer and the fault of the log escapes.  Its log is that of the plainer
run and further records of the loading.  Without a request nothing is logged: a run that reaches its
file leaves the stream for the log empty, and any other is the same for all such flags. -/
theorem run_of_louder (h : Louder fs gs) (hname : name = "show" ∨ name = "validate")
    (tree : FileTree) (rest : List String) (stamp : String) (runtime : Runtime) :
    let command := name :: rest
    let plain := run tree stamp (fs.map ToolFlag.text ++ command) runtime
    let loud := run tree stamp (gs.map ToolFlag.text ++ command) runtime
    ((Sinks runtime tree gs command → Sinks runtime tree fs command) →
      loud.output = plain.output ∧ loud.ending = plain.ending) ∧
    (Sinks runtime tree gs command →
      loud.output = "" ∧ ∃ fault, loud.ending = .escaped (.digits fault)) ∧
    (∃ gained, loud.errors
        = plain.errors ++ recordsText (if volume fs = 0 then stamp else "") gained ∧
      ∀ x ∈ gained, ∃ r, Request.ofArguments tree command = .ok r ∧
        x ∈ (runtime.load tree r.file).records ∧
        (Verbosity.ofCount (volume fs)).shows x.level = false ∧
        (Verbosity.ofCount (volume gs)).shows x.level = true) ∧
    (∀ r, Request.ofArguments tree command = .ok r → volume fs = 0 → plain.errors = "") ∧
    ∀ early, Request.ofArguments tree command = .error early →
      plain = .ofEarly early ∧ loud = .ofEarly early := by
  intro command plain loud
  cases hr : Request.ofArguments tree command with
  | error early =>
    have hplain : plain = .ofEarly early := run_flags_of_early hname hr fs stamp runtime
    have hloud : loud = .ofEarly early := run_flags_of_early hname hr gs stamp runtime
    rw [hplain, hloud]
    refine ⟨fun _ => ⟨rfl, rfl⟩, ?_, ⟨[], (String.append_empty ..).symm, nofun⟩, nofun, ?_⟩
    · rintro ⟨r, hr', -⟩
      cases hr.symm.trans hr'
    · rintro _ ⟨⟩
      exact ⟨rfl, rfl⟩
  | ok r =>
    have hplain := run_flags_of_request hname hr fs stamp runtime
    have hloud := run_flags_of_request hname hr gs stamp runtime
    simp only [plain, loud, command, hplain, hloud]
    refine ⟨fun hs => ?_, ?_, ?_, ?_, nofun⟩
    · rw [loggedAnswer_flagged h hr hs]
      exact ⟨rfl, rfl⟩
    · rintro ⟨r', hr', hu⟩
      cases hr.symm.trans hr'
      obtain ⟨fault, hsunk⟩ : ∃ fault, (r.flagged gs).loggedAnswer runtime.message _ = _ :=
        loggedAnswer_of_untold hu
      rw [hsunk]
      exact ⟨rfl, fault, rfl⟩
    · obtain ⟨gained, hlog, hmem⟩ := logText_of_le h.volume_le runtime tree r.file stamp
      exact ⟨gained, hlog, fun x hx => ⟨r, rfl, hmem x hx⟩⟩
    · intro r' _ hsilent
      rw [hsilent]
      show recordsText stamp (toldRecords .silent _) = ""
      rw [told_silent]
      rfl

/-- A folder with a file of two types. -/
def plainFolder : FileTree :=
  let text := "input_class: str\noutput_class: int\n"
  ⟨[], [(["c.yaml"], Text.encode text.toList)], []⟩

set_option maxRecDepth 20000 in
theorem run_of_louder_plain :
    let plain := run plainFolder "[now]" ["--quiet", "show", "c.yaml"]
    let loud := run plainFolder "[now]" ["-v", "--quiet", "-v", "show", "c.yaml"]
    Louder [.quiet] [.verbose, .quiet, .verbose] ∧
    loud.output = plain.output ∧ loud.ending = plain.ending ∧
    plain.output = "input_class=str\noutput_class=int\n" ∧ plain.errors = "" ∧
    loud.errors ≠ "" := by
  intro plain loud
  have hlouder : Louder [.quiet] [.verbose, .quiet, .verbose] := .more (.keep _ (.more .nil))
  obtain ⟨hsame, -, -, hsilent, -⟩ :=
    run_of_louder hlouder (.inl rfl) plainFolder ["c.yaml"] "[now]" {}
  have hr : Request.ofArguments plainFolder ["show", "c.yaml"]
      = .ok ⟨.ofCount 0, false, false, .show false, .ofText "c.yaml"⟩ := by rfl
  have htold : Console.logFault .detailed
      (Runtime.load {} plainFolder (.ofText "c.yaml")).records = none := by
    decide +kernel
  have hafloat : ¬Sinks {} plainFolder [.verbose, .quiet, .verbose] ["show", "c.yaml"] := by
    rintro ⟨r, hr', hu⟩
    cases hr.symm.trans hr'
    exact logFault_eq_none_iff.1 htold hu
  obtain ⟨houtput, hending⟩ := hsame fun hs => absurd hs hafloat
  exact ⟨hlouder, houtput, hending, by decide +kernel, hsilent _ hr rfl, by decide +kernel⟩

end ModelSearch.CommandLine
