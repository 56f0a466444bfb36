import ReadoutControl.Json.Record

set_option autoImplicit false

/-!
Configuration of the modules that turn emulated triggers into data requests and collect what
comes back.
-/

namespace ReadoutControl

open Json.Node

structure TriggerConf where
  links : List UInt32
  minLinks : UInt32
  maxLinks : UInt32
  minWindow : UInt64
  maxWindow : UInt64
  windowOffset : UInt64
  triggerDelay : Int64
  triggerInterval : Int64
  clockFrequency : Binary64
  initialTokens : Int64
  deriving DecidableEq

namespace TriggerConf

def names : List String :=
  ["links", "min_links_in_request", "max_links_in_request", "min_readout_window_ticks",
    "max_readout_window_ticks", "trigger_window_offset", "trigger_delay_ticks",
    "trigger_interval_ticks", "clock_frequency_hz", "initial_token_count"]

def toJson (c : TriggerConf) : Json :=
  .obj [
    ("links", .arr (c.links.map fun n => .ofNat n.toNat)),
    ("min_links_in_request", .ofNat c.minLinks.toNat),
    ("max_links_in_request", .ofNat c.maxLinks.toNat),
    ("min_readout_window_ticks", .ofNat c.minWindow.toNat),
    ("max_readout_window_ticks", .ofNat c.maxWindow.toNat),
    ("trigger_window_offset", .ofNat c.windowOffset.toNat),
    ("trigger_delay_ticks", .int c.triggerDelay.toInt),
    ("trigger_interval_ticks", .int c.triggerInterval.toInt),
    ("clock_frequency_hz", .ofBinary64 c.clockFrequency),
    ("initial_token_count", .int c.initialTokens.toInt)]

def read? (node : Json.Node) : Option TriggerConf := do
  let record ← node.record? names []
  return {
    links := ← required? record "links" (list? uint32?)
    minLinks := ← required? record "min_links_in_request" uint32?
    maxLinks := ← required? record "max_links_in_request" uint32?
    minWindow := ← required? record "min_readout_window_ticks" uint64?
    maxWindow := ← required? record "max_readout_window_ticks" uint64?
    windowOffset := ← required? record "trigger_window_offset" uint64?
    triggerDelay := ← required? record "trigger_delay_ticks" int64?
    triggerInterval := ← required? record "trigger_interval_ticks" int64?
    clockFrequency := ← required? record "clock_frequency_hz" float?
    initialTokens := ← required? record "initial_token_count" int64? }

end TriggerConf

/-- The request queue that serves a link. -/
structure RequestRoute where
  apa : UInt32
  link : UInt32
  queue : String
  deriving DecidableEq

namespace RequestRoute

def toJson (r : RequestRoute) : Json :=
  .obj [("apa", .ofNat r.apa.toNat), ("link", .ofNat r.link.toNat), ("queueinstance", .str r.queue)]

def read? (node : Json.Node) : Option RequestRoute := do
  let record ← node.record? ["apa", "link", "queueinstance"] []
  return {
    apa := ← required? record "apa" uint32?
    link := ← required? record "link" uint32?
    queue := ← required? record "queueinstance" text? }

end RequestRoute

structure RequestConf where
  routes : List RequestRoute
  deriving DecidableEq

namespace RequestConf

def toJson (c : RequestConf) : Json := .obj [("map", .arr (c.routes.map RequestRoute.toJson))]

def read? (node : Json.Node) : Option RequestConf := do
  let record ← node.record? ["map"] []
  return { routes := ← required? record "map" (list? RequestRoute.read?) }

end RequestConf

structure FragmentConf where
  queueTimeout : UInt64
  deriving DecidableEq

namespace FragmentConf

def toJson (c : FragmentConf) : Json :=
  .obj [("general_queue_timeout", .ofNat c.queueTimeout.toNat)]

def read? (node : Json.Node) : Option FragmentConf := do
  let record ← node.record? ["general_queue_timeout"] []
  return { queueTimeout := ← required? record "general_queue_timeout" uint64? }

end FragmentConf

end ReadoutControl
