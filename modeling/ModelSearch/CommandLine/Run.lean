import ModelSearch.CommandLine.Answer

/-!
# Runs

A run of the command line: its arguments, the files around it and what it runs on give what it prints
on the two streams and how it ends.  Only log lines show the time.

    run tree stamp args runtime
-/

namespace ModelSearch.CommandLine

structure Outcome where
  output : String
  errors : String
  ending : Ending
  deriving DecidableEq, Repr

namespace Outcome

/-- The outcome of a run that ends early. -/
def ofEarly : Early → Outcome
  | .asked text => ⟨text, "", .code 0⟩
  | .noArguments => ⟨"", toolPage.text, .code 2⟩
  | .refused page fault => ⟨"", withoutColors (fault.text page), .code 2⟩
  | .nullByte => ⟨"", "", .escaped .nullByte⟩

/-- The outcome of a request: the answer, and the log on the other stream. -/
def ofRequest (tree : FileTree) (stamp : String) (r : Request) (runtime : Runtime := {}) : Outcome :=
  let loaded := runtime.load tree r.file
  let answer := r.loggedAnswer runtime.message loaded
  ⟨answer.output, Console.logText r.verbosity stamp loaded.records, answer.ending⟩

end Outcome

/-- The outcome of a run at a time that log lines show as `stamp`. -/
def run (tree : FileTree) (stamp : String) (args : List String) (runtime : Runtime := {}) :
    Outcome :=
  match Request.ofArguments tree args with
  | .error early => .ofEarly early
  | .ok r => .ofRequest tree stamp r runtime

end ModelSearch.CommandLine
