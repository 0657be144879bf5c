/-!
# Log records
-/

namespace EventRules.Log

inductive Level where
  | trace
  | debug
  | info
  | warn
  deriving DecidableEq, Repr

def Level.name : Level → String
  | trace => "TRACE"
  | debug => "DEBUG"
  | info => "INFO"
  | warn => "WARN"

structure Record where
  level : Level
  message : String
  deriving DecidableEq, Repr

def Record.render (r : Record) : String :=
  r.level.name ++ " " ++ r.message

end EventRules.Log
