import ReadoutControl.Command.Address

set_option autoImplicit false

/-!
Families of modules: one module for each link, named by a stem and the number of the link.
-/

namespace ReadoutControl

/-- The names that begin with a stem and hold no line break after it. -/
def Regex.ofStem (stem : String) : Regex :=
  let rest := [.rep (.chars (CharSet.single '\n').compl) 0 none false]
  .seq (.look .textStart)
    (.seq (.group (.concat (stem.toList.map (fun c => .chars (CharSet.single c)) ++ rest)) false)
      (.look .textEnd))

namespace NamePattern

def dataHandlers : NamePattern := ⟨"datahandler_.*", .ofStem "datahandler_", by decide +kernel⟩

def tpHandlers : NamePattern := ⟨"tp_datahandler_.*", .ofStem "tp_datahandler_", by decide +kernel⟩

def recorders : NamePattern := ⟨"data_recorder_.*", .ofStem "data_recorder_", by decide +kernel⟩

end NamePattern

end ReadoutControl
