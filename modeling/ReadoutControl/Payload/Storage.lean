import ReadoutControl.Json.Record

set_option autoImplicit false

/-!
Configuration of the data writer and of the data store it writes to.
-/

namespace ReadoutControl

open Json.Node

/-- How data files are named. -/
structure FileNaming where
  overallPrefix : String
  runDigits : UInt32
  indexPrefix : String
  indexDigits : UInt32
  deriving DecidableEq

namespace FileNaming

def toJson (n : FileNaming) : Json :=
  .obj [
    ("overall_prefix", .str n.overallPrefix),
    ("digits_for_run_number", .ofNat n.runDigits.toNat),
    ("file_index_prefix", .str n.indexPrefix),
    ("digits_for_file_index", .ofNat n.indexDigits.toNat)]

def read? (node : Json.Node) : Option FileNaming := do
  let record ← node.record?
    ["overall_prefix", "digits_for_run_number", "file_index_prefix", "digits_for_file_index"] []
  return {
    overallPrefix := ← required? record "overall_prefix" text?
    runDigits := ← required? record "digits_for_run_number" uint32?
    indexPrefix := ← required? record "file_index_prefix" text?
    indexDigits := ← required? record "digits_for_file_index" uint32? }

end FileNaming

/-- How records are named inside a data file. -/
structure FileLayout where
  recordPrefix : String
  triggerDigits : UInt32
  apaDigits : UInt32
  linkDigits : UInt32
  deriving DecidableEq

namespace FileLayout

def toJson (l : FileLayout) : Json :=
  .obj [
    ("trigger_record_name_prefix", .str l.recordPrefix),
    ("digits_for_trigger_number", .ofNat l.triggerDigits.toNat),
    ("digits_for_apa_number", .ofNat l.apaDigits.toNat),
    ("digits_for_link_number", .ofNat l.linkDigits.toNat)]

def read? (node : Json.Node) : Option FileLayout := do
  let record ← node.record? ["trigger_record_name_prefix", "digits_for_trigger_number",
    "digits_for_apa_number", "digits_for_link_number"] []
  return {
    recordPrefix := ← required? record "trigger_record_name_prefix" text?
    triggerDigits := ← required? record "digits_for_trigger_number" uint32?
    apaDigits := ← required? record "digits_for_apa_number" uint32?
    linkDigits := ← required? record "digits_for_link_number" uint32? }

end FileLayout

structure DataStoreConf where
  name : String
  kind : String
  directory : String
  mode : String
  maxFileSize : UInt64
  naming : FileNaming
  layout : FileLayout
  deriving DecidableEq

namespace DataStoreConf

def toJson (c : DataStoreConf) : Json :=
  .obj [
    ("name", .str c.name),
    ("type", .str c.kind),
    ("directory_path", .str c.directory),
    ("mode", .str c.mode),
    ("max_file_size_bytes", .ofNat c.maxFileSize.toNat),
    ("filename_parameters", c.naming.toJson),
    ("file_layout_parameters", c.layout.toJson)]

def read? (node : Json.Node) : Option DataStoreConf := do
  let record ← node.record? ["name", "type", "directory_path", "mode", "max_file_size_bytes",
    "filename_parameters", "file_layout_parameters"] []
  return {
    name := ← required? record "name" text?
    kind := ← required? record "type" text?
    directory := ← required? record "directory_path" text?
    mode := ← required? record "mode" text?
    maxFileSize := ← required? record "max_file_size_bytes" uint64?
    naming := ← required? record "filename_parameters" FileNaming.read?
    layout := ← required? record "file_layout_parameters" FileLayout.read? }

end DataStoreConf

structure DataWriterConf where
  initialTokens : Int64
  store : DataStoreConf
  deriving DecidableEq

namespace DataWriterConf

def toJson (c : DataWriterConf) : Json :=
  .obj [("initial_token_count", .int c.initialTokens.toInt),
    ("data_store_parameters", c.store.toJson)]

def read? (node : Json.Node) : Option DataWriterConf := do
  let record ← node.record? ["initial_token_count", "data_store_parameters"] []
  return {
    initialTokens := ← required? record "initial_token_count" int64?
    store := ← required? record "data_store_parameters" DataStoreConf.read? }

end DataWriterConf

end ReadoutControl
