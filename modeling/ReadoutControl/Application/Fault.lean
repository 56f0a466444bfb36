import ReadoutControl.Command.Check

set_option autoImplicit false

/-!
Why an application cannot be generated.
-/

namespace ReadoutControl

/-- A count that leaves its range. -/
inductive Overflow where
  | addition
  | negation
  deriving DecidableEq

namespace Overflow

def message : Overflow → String
  | addition => "attempt to add with overflow"
  | negation => "attempt to negate with overflow"

end Overflow

inductive Fault where
  | overflow (o : Overflow)
  | topology (e : TopologyError)
  | sequence (e : SchemaError)
  deriving DecidableEq

namespace Fault

/-- The message for an application of the given name. -/
def message (application : String) : Fault → String
  | overflow o => o.message
  | topology e => s!"Failed to build {application} topology: {e.message}"
  | sequence e => s!"Generated command sequence does not match the plugin schema: {e.message}"

end Fault

end ReadoutControl
