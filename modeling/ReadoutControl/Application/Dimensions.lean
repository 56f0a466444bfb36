import ReadoutControl.Number.Decimal

set_option autoImplicit false

/-!
Depths and waiting times that all applications share.
-/

namespace ReadoutControl.Dimensions

def linkQueue : UInt64 := 100000

/-- The depth of the queues for time synchronisation and fragments. -/
def sharedQueue : UInt64 := 100

/-- How long a module waits on an empty queue. -/
def queueWaitMs : UInt64 := 100

/-- The frames that the card reader replays before it starts again. -/
def readerInput : UInt64 := 10485100

/-- The fill level at which the latency buffer is trimmed, and how much of it goes then. -/
def popLimit : Binary64 := Decimal.toBinary64 false ⟨8, -1⟩

def popSize : Binary64 := Decimal.toBinary64 false ⟨1, -1⟩

end ReadoutControl.Dimensions
