set_option autoImplicit false

/-!
Lines of the log.
-/

namespace ReadoutControl

inductive LogLevel where
  | debug
  | info
  | warn
  deriving DecidableEq

namespace LogLevel

def name : LogLevel → String
  | debug => "DEBUG"
  | info => "INFO"
  | warn => "WARN"

end LogLevel

structure LogLine where
  level : LogLevel
  message : String
  deriving DecidableEq

namespace LogLine

def text (l : LogLine) : String := s!"{l.level.name} {l.message}"

end LogLine

end ReadoutControl
