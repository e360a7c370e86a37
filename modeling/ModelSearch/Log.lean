import ModelSearch.Platform

/-!
# Log records

What the library tells about its work: records at two levels, each from a named source.  An
operation that logs gives its records beside its result, in order.  A message is put into words only
when its record is shown, which the values it tells can keep from being done.
-/

namespace ModelSearch

inductive LogLevel where
  | debug
  | info
  deriving DecidableEq, Repr

def LogLevel.name : LogLevel → String
  | .debug => "DEBUG"
  | .info => "INFO"

/-- The parts of the library that log. -/
inductive LogSource where
  | criteria
  | config
  | urlZoo
  deriving DecidableEq, Repr

def LogSource.name : LogSource → String
  | .criteria => "zoo_criteria.criteria"
  | .config => "zoo_criteria.config"
  | .urlZoo => "zoo_criteria.zoo.default"

structure LogRecord where
  level : LogLevel
  source : LogSource
  message : String
  /-- What keeps the message from being put into words. -/
  fault : Option TellFault := none
  deriving DecidableEq, Repr

end ModelSearch
