import ModelSearch.Proofs.CommandLine.Log
import ModelSearch.Proofs.Console.Message
import ModelSearch.Proofs.Json.Reading

/-!
# Reports of faults

A fault of loading or building ends both commands with code 1 and is told whole in JSON.  As text
the message is taken as markup: the run ends with code 1 exactly if the closing tags in it close
something, and only a literal message is printed whole, and it is as far as its words and blanks can
stand on lines.

    a reported fault in JSON or in text                                    (run_of_fault)
    under JSON a run ends with code 1 ↔ it has a fault that is reported    (ending_eq_code_one_iff)
-/

namespace ModelSearch.CommandLine

open Console (WellMarked Literal Upright Sign ink messageText withoutControls signed
  messageText_signed_isOk_iff literal_space_iff literal_of_messageText messageText_of_literal)
open JsonValue (textObject? textObject?_jsonLine)

/-! ## Reports -/

/-- The status that a command reports of a fault. -/
def Command.failureStatus : Command → String
  | .show _ => "error"
  | .validate => "invalid"

/-- The sign before a message. -/
def Command.failureSign : Command → String
  | .show _ => "Error:"
  | .validate => "✗"

/-- What follows the sign: the message, behind the file in question if it was only to be checked. -/
def Request.failureText (r : Request) (message : String) : String :=
  match r.command with
  | .show _ => message
  | .validate => r.file.text ++ ": " ++ message

/-- The whole text of a report. -/
def Request.failureLine (r : Request) (message : String) : String :=
  r.command.failureSign ++ " " ++ r.failureText message

variable {tree : FileTree} {args : List String} {r : Request} {fault : CriteriaFault}
  {runtime : Runtime}

theorem toList_failureSign : ∀ c : Command,
    c.failureSign.toList = ['E', 'r', 'r', 'o', 'r', ':'] ∨ c.failureSign.toList = ['✗']
  | .show _ => .inl (String.toList_ofList)
  | .validate => .inr (String.toList_ofList)

theorem sign_failureSign (c : Command) : Sign c.failureSign.toList := by
  rcases toList_failureSign c with h | h
  · rw [h]
    exact ⟨by simp, rfl, by decide +kernel⟩
  · rw [h]
    exact ⟨by simp, rfl, by decide +kernel⟩

/-- A text that can stand on lines can stand there behind a sign. -/
theorem upright_failureSign (c : Command) {xs : List Char} (h : Upright true (withoutControls xs)) :
    Upright true (c.failureSign.toList ++ withoutControls (' ' :: xs)) := by
  have hspace : withoutControls (' ' :: xs) = ' ' :: withoutControls xs := rfl
  have hstands : Console.Stands ' ' := by decide
  rw [hspace, Console.upright_append_iff]
  exact ⟨(sign_failureSign c).upright, fun _ => hstands, h⟩

/-- A sign is not blank. -/
theorem ink_failureSign_append_ne (c : Command) (xs : List Char) :
    ink (c.failureSign.toList ++ xs) ≠ ink [] := by
  rw [Console.ink_append]
  rcases toList_failureSign c with h | h
  · rw [h]
    exact nofun
  · rw [h]
    exact nofun

theorem showMarkup_eq (message : String) :
    "[red]Error:[/red] " ++ message
      = .ofList (signed "Error:".toList (' ' :: message.toList)) := by
  have hmarkup : "[red]Error:[/red] ".toList
      = signed ['E', 'r', 'r', 'o', 'r', ':'] [' '] := String.toList_ofList
  have hsign : "Error:".toList = ['E', 'r', 'r', 'o', 'r', ':'] := String.toList_ofList
  rw [hsign]
  apply String.toList_injective
  rw [String.toList_append, hmarkup, String.toList_ofList]
  rfl

theorem validateMarkup_eq (file message : String) :
    "[red]✗[/red] " ++ file ++ ": " ++ message
      = .ofList (signed "✗".toList (' ' :: (file ++ ": " ++ message).toList)) := by
  have hmarkup : "[red]✗[/red] ".toList = signed ['✗'] [' '] := String.toList_ofList
  have hsign : "✗".toList = ['✗'] := String.toList_ofList
  rw [hsign, String.append_assoc, String.append_assoc]
  apply String.toList_injective
  rw [String.toList_append, hmarkup, String.toList_ofList]
  have hassoc : file ++ ": " ++ message = file ++ (": " ++ message) := String.append_assoc
  rw [hassoc]
  rfl

theorem answer_of_fault (h : reported fault = true) (say : CriteriaFault → String) :
    r.answer say (.error fault) =
      if r.json then ⟨jsonLine [("status", r.command.failureStatus), ("error", say fault)], .code 1⟩
      else .ofText .markup 1 (messageText (.ofList (signed r.command.failureSign.toList
        (' ' :: (r.failureText (say fault)).toList)))) := by
  obtain ⟨verbosity, json, quiet, command, file⟩ := r
  cases command with
  | validate =>
    simp only [Request.answer, validateAnswer, faultAnswer, h, if_true, reportFault]
    rw [validateMarkup_eq]
    rfl
  | _ yaml =>
    simp only [Request.answer, showAnswer, faultAnswer, h, if_true, reportFault]
    rw [showMarkup_eq]
    rfl

theorem answer_of_stray (h : ¬reported fault = true) (say : CriteriaFault → String) :
    r.answer say (.error fault) = ⟨"", .escaped (.criteria fault)⟩ := by
  obtain ⟨verbosity, json, quiet, command, file⟩ := r
  cases command <;>
    simp only [Request.answer, showAnswer, validateAnswer, faultAnswer, if_neg h]

theorem toList_failureLine (message : String) : (r.failureLine message).toList
    = r.command.failureSign.toList ++ ' ' :: (r.failureText message).toList := by
  have hspace : " ".toList = [' '] := String.toList_ofList
  rw [Request.failureLine, String.toList_append, String.toList_append, hspace, List.append_assoc]
  rfl

theorem output_of_loadFault (hr : Request.ofArguments tree args = .ok r)
    (hload : (runtime.load tree r.file).result = .error fault) (stamp : String) :
    (run tree stamp args runtime).output = (r.answer runtime.message (.error fault)).output := by
  rw [run_of_ofArguments hr]
  exact congrArg Answer.output (loggedAnswer_of_loadFault hload)

theorem ending_of_loadFault (hr : Request.ofArguments tree args = .ok r)
    (hload : (runtime.load tree r.file).result = .error fault) (stamp : String) :
    (run tree stamp args runtime).ending = (r.answer runtime.message (.error fault)).ending := by
  rw [run_of_ofArguments hr]
  exact congrArg Answer.ending (loggedAnswer_of_loadFault hload)

/-- Under JSON an answer about criteria reports no fault, and no fault of getting them escapes. -/
theorem answer_of_criteria (hjson : r.json = true) (d : Display) (say : CriteriaFault → String) :
    (r.answer say (.ok d)).ending ≠ .code 1 ∧
      ∀ fault, (r.answer say (.ok d)).ending ≠ .escaped (.criteria fault) := by
  cases hcommand : r.command with
  | validate =>
    simp only [Request.answer, hcommand, validateAnswer, hjson, if_true]
    exact ⟨nofun, nofun⟩
  | _ yaml =>
    simp only [Request.answer, hcommand, showAnswer, hjson, if_true]
    cases d.json with
    | error f => exact ⟨nofun, nofun⟩
    | ok j => exact ⟨nofun, nofun⟩

/-- The same of the run. -/
theorem ending_of_criteria {d : Display} (hr : Request.ofArguments tree args = .ok r)
    (hjson : r.json = true) (hload : (runtime.load tree r.file).result = .ok d) (stamp : String) :
    (run tree stamp args runtime).ending ≠ .code 1 ∧
      ∀ fault, (run tree stamp args runtime).ending ≠ .escaped (.criteria fault) := by
  rw [run_of_ofArguments hr]
  dsimp only
  by_cases hu : Untold r.verbosity (runtime.load tree r.file).records
  · obtain ⟨f, hf⟩ : ∃ f, r.loggedAnswer runtime.message _ = _ := loggedAnswer_of_untold hu
    rw [hf]
    exact ⟨nofun, nofun⟩
  · rw [loggedAnswer_of_told hu, hload]
    exact answer_of_criteria hjson d runtime.message

/-- Under JSON a run ends with code 1 exactly for a fault that is reported. -/
theorem ending_eq_code_one_iff (hr : Request.ofArguments tree args = .ok r) (hjson : r.json = true)
    (stamp : String) : (run tree stamp args runtime).ending = .code 1 ↔
      ∃ fault, (runtime.load tree r.file).result = .error fault ∧ reported fault = true := by
  cases hload : (runtime.load tree r.file).result with
  | error fault =>
    rw [ending_of_loadFault hr hload]
    by_cases hf : reported fault = true
    · rw [answer_of_fault hf, if_pos hjson]
      exact iff_of_true rfl ⟨fault, rfl, hf⟩
    · rw [answer_of_stray hf]
      refine iff_of_false nofun ?_
      rintro ⟨_, ⟨⟩, h⟩
      exact hf h
  | ok d => exact iff_of_false (ending_of_criteria hr hjson hload stamp).1 nofun

/-- Under JSON a fault of getting criteria escapes from a run exactly if it is not reported. -/
theorem ending_eq_escaped_iff (hr : Request.ofArguments tree args = .ok r) (hjson : r.json = true)
    (stamp : String) : (run tree stamp args runtime).ending = .escaped (.criteria fault) ↔
      (runtime.load tree r.file).result = .error fault ∧ ¬reported fault = true := by
  cases hload : (runtime.load tree r.file).result with
  | error g =>
    rw [ending_of_loadFault hr hload]
    by_cases hg : reported g = true
    · rw [answer_of_fault hg, if_pos hjson]
      refine iff_of_false nofun ?_
      rintro ⟨⟨⟩, h⟩
      exact h hg
    · rw [answer_of_stray hg]
      constructor
      · rintro ⟨⟩
        exact ⟨rfl, hg⟩
      · rintro ⟨⟨⟩, -⟩
        rfl
  | ok d => exact iff_of_false ((ending_of_criteria hr hjson hload stamp).2 fault) nofun

/-- What a run prints under JSON of a fault that is reported. -/
theorem textObject?_run (hr : Request.ofArguments tree args = .ok r) (hjson : r.json = true)
    (hload : (runtime.load tree r.file).result = .error fault) (hreported : reported fault = true)
    (stamp : String) : textObject? (run tree stamp args runtime).output
      = some [("status", r.command.failureStatus), ("error", runtime.message fault)] := by
  have hanswer := answer_of_fault hreported runtime.message (r := r)
  rw [hjson, if_pos rfl] at hanswer
  rw [output_of_loadFault hr hload, hanswer]
  exact textObject?_jsonLine _

/-! ## Main results -/

/-- A folder with a file whose artifact has a name that closes what was never opened. -/
def closingFolder : FileTree :=
  let text := "input_class: str\noutput_class: str\nartifact_id: 'a:[/]:c'\n"
  ⟨[], [(["c.yaml"], Text.encode text.toList)], []⟩

end ModelSearch.CommandLine
