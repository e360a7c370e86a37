/-!
# Progress bars

A progress bar counts the steps of one unit of work.  It keeps its own state and, beside it, the
display's list of tasks, where it has at most one: `reset` replaces the task, and every other
call changes the one that is there.  `start`, `increment` and `update` need a task.

    p.apply c        the bar after a call, and the fault if the call failed
-/

namespace ModelSearch

/-- A task of the display. -/
structure ProgressTask where
  id : Nat
  description : String
  completed : Int
  total : Int
  deriving DecidableEq, Repr

structure ProgressBar where
  message : String := ""
  maxValue : Int := 0
  value : Int := 0
  running : Bool := false
  /-- The display's tasks. -/
  tasks : List ProgressTask := []
  /-- The id of the display's next task. -/
  nextId : Nat := 0
  /-- The bar's own task. -/
  current : Option Nat := none
  deriving DecidableEq, Repr, Inhabited

/-- The calls that need a task. -/
inductive ProgressFault where
  | start
  | update
  deriving DecidableEq, Repr

def ProgressFault.message : ProgressFault → String
  | .start => "reset() must be called before start()"
  | .update => "reset() must be called before update()"

inductive ProgressCall where
  | reset (message : String) (maxValue : Int)
  | start (initial : Int)
  | finish
  | increment (n : Int)
  | update (value : Int) (message : Option String)
  deriving DecidableEq, Repr

namespace ProgressBar

/-- How the display shows a message. -/
def describe (message : String) : String := "[cyan]" ++ message

/-- Change one task of the display. -/
def changeTask (id : Nat) (f : ProgressTask → ProgressTask) (tasks : List ProgressTask) :
    List ProgressTask :=
  tasks.map fun t => if t.id = id then f t else t

/-- Begin a new unit of work, in place of the one before. -/
def reset (p : ProgressBar) (message : String) (maxValue : Int) : ProgressBar :=
  let kept :=
    match p.current with
    | some id => p.tasks.filter fun t => t.id ≠ id
    | none => p.tasks
  { p with
    message := message, maxValue := maxValue, value := 0,
    tasks := kept ++ [⟨p.nextId, describe message, 0, maxValue⟩],
    current := some p.nextId, nextId := p.nextId + 1 }

/-- The value that the bar takes on: at most the maximum, unless that is zero. -/
def bounded (p : ProgressBar) (value : Int) : Int :=
  if p.maxValue = 0 then value else min value p.maxValue

/-- Set the value, and the message if there is one. -/
def update (p : ProgressBar) (value : Int) (message : Option String) :
    ProgressBar × Option ProgressFault :=
  match p.current with
  | none => (p, some .update)
  | some id =>
    let v := p.bounded value
    match message with
    | none =>
      ({ p with value := v, tasks := changeTask id (fun t => { t with completed := v }) p.tasks },
        none)
    | some m =>
      ({ p with
          value := v, message := m,
          tasks :=
            changeTask id (fun t => { t with completed := v, description := describe m }) p.tasks },
        none)

def start (p : ProgressBar) (initial : Int) : ProgressBar × Option ProgressFault :=
  if p.current.isNone then (p, some .start) else { p with running := true }.update initial none

/-- Fill the bar, if it has a task, and stop it. -/
def finish (p : ProgressBar) : ProgressBar × Option ProgressFault :=
  let filled := if p.current.isSome then p.update p.maxValue none else (p, none)
  match filled with
  | (q, some fault) => (q, some fault)
  | (q, none) => ({ q with running := false }, none)

def increment (p : ProgressBar) (n : Int) : ProgressBar × Option ProgressFault :=
  p.update (p.value + n) none

/-- The bar after a call, changed as far as the call came, and the fault if it failed. -/
def apply (p : ProgressBar) : ProgressCall → ProgressBar × Option ProgressFault
  | .reset message maxValue => (p.reset message maxValue, none)
  | .start initial => p.start initial
  | .finish => p.finish
  | .increment n => p.increment n
  | .update value message => p.update value message

/-- The bar after a sequence of calls. -/
def run (p : ProgressBar) (cs : List ProgressCall) : ProgressBar :=
  cs.foldl (fun q c => (q.apply c).1) p

end ProgressBar

end ModelSearch
