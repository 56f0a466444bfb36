import ReadoutControl.Command.Basic
import ReadoutControl.Log
import ReadoutControl.Text.Quoted

set_option autoImplicit false

/-!
What is logged about the parts of an application as they come to be.
-/

namespace ReadoutControl

/-- Logged when a topology has passed its checks. -/
def Topology.builtLine (t : Topology) : LogLine :=
  ⟨.debug, s!"Built topology with {t.queues.length} queues and {t.modules.length} modules"⟩

def Topology.sizeLine (t : Topology) : LogLine :=
  ⟨.info, s!"Topology: {t.queues.length} queues, {t.modules.length} modules"⟩

def CommandSequence.idsLine (s : CommandSequence) : LogLine :=
  ⟨.debug, s!"Commands: {Text.quoteList s.ids}"⟩

end ReadoutControl
