import ReadoutControl.Number.Decimal

set_option autoImplicit false

/-!
The clock of the emulated readout and what follows from it. A superchunk of twelve frames with
twenty-five ticks each is sent every 300 ticks, and slowing the data down divides every rate.
-/

namespace ReadoutControl

structure Clock where
  speedHz : UInt64
  slowdown : Binary64
  deriving DecidableEq

namespace Clock

/-- The clock of the readout electronics. -/
def electronicsHz : UInt64 := 50000000

def ofSlowdown (slowdown : Binary64) : Clock := ⟨electronicsHz, slowdown⟩

def ticksPerSuperchunk : Binary64 := .ofNat 300

def speed (c : Clock) : Binary64 := .ofNat c.speedHz.toNat

/-- Superchunks in a millisecond. -/
def rateKhz (c : Clock) : Binary64 :=
  c.speed / (ticksPerSuperchunk * c.slowdown * .ofNat 1000)

/-- Three seconds of superchunks. -/
def latencyBufferSize (c : Clock) : Binary64 :=
  .ofNat 3 * c.speed / (ticksPerSuperchunk * c.slowdown)

def frequencyHz (c : Clock) : Binary64 := c.speed / c.slowdown

/-- Ticks between triggers for a rate in wall-clock time. -/
def triggerInterval (c : Clock) (rateHz : Binary64) : Int64 :=
  .ofInt (.ofNat 1 / rateHz * c.speed / c.slowdown : Binary64).floorTicks

/-- Two seconds, which lies well inside the latency buffer. -/
def triggerDelay (c : Clock) : Int64 :=
  .ofInt (.ofNat 2 * c.speed / c.slowdown : Binary64).floorTicks

end Clock

end ReadoutControl
