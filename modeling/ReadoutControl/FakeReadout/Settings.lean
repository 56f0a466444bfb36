import ReadoutControl.Application.Clock
import ReadoutControl.Json.Record

set_option autoImplicit false

/-!
What a user chooses for the fake readout: a card reader that replays raw frames into one handler
for each data link.
-/

namespace ReadoutControl

open Json.Node

structure FakeReadout where
  dataLinks : UInt32
  /-- Links with trigger primitives, numbered after the data links. -/
  tpLinks : UInt32
  slowdown : Binary64
  run : UInt64
  dataFile : String
  tpDataFile : String
  /-- Whether trigger primitives are made in software from every data link. -/
  softwareTpg : Bool
  deriving DecidableEq

namespace FakeReadout

def standard : FakeReadout where
  dataLinks := 1
  tpLinks := 0
  slowdown := .ofNat 10
  run := 333
  dataFile := "./frames.bin"
  tpDataFile := "./tp_frames.bin"
  softwareTpg := false

def defaultFile : String := "fake_readout.json"

def clock (f : FakeReadout) : Clock := .ofSlowdown f.slowdown

/-- The numbers of the data links. -/
def dataIndices (f : FakeReadout) : List Nat := List.range f.dataLinks.toNat

/-- The numbers of the links with trigger primitives. -/
def tpIndices (f : FakeReadout) : List Nat := List.range' f.dataLinks.toNat f.tpLinks.toNat

def names : List String :=
  ["data_producers", "tp_producers", "data_rate_slowdown_factor", "run_number", "data_file",
    "tp_data_file", "enable_software_tpg"]

def toJson (f : FakeReadout) : Json :=
  .obj [
    ("data_producers", .ofNat f.dataLinks.toNat),
    ("tp_producers", .ofNat f.tpLinks.toNat),
    ("data_rate_slowdown_factor", .ofBinary64 f.slowdown),
    ("run_number", .ofNat f.run.toNat),
    ("data_file", .str f.dataFile),
    ("tp_data_file", .str f.tpDataFile),
    ("enable_software_tpg", .bool f.softwareTpg)]

def read? (node : Json.Node) : Option FakeReadout := do
  let record ← node.record? names []
  return {
    dataLinks := ← required? record "data_producers" uint32?
    tpLinks := ← required? record "tp_producers" uint32?
    slowdown := ← required? record "data_rate_slowdown_factor" float?
    run := ← required? record "run_number" uint64?
    dataFile := ← required? record "data_file" text?
    tpDataFile := ← required? record "tp_data_file" text?
    softwareTpg := ← required? record "enable_software_tpg" bool? }

end FakeReadout

end ReadoutControl
