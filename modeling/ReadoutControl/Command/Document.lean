import ReadoutControl.Command.Basic
import ReadoutControl.Json.Printer
import ReadoutControl.Unicode.UpperCase

set_option autoImplicit false

/-!
The document of a command sequence, and a block of text for each command.
-/

namespace ReadoutControl

/-- The text with its first character in upper case. -/
def title (cs : List Char) : List Char :=
  match cs with
  | [] => []
  | c :: rest => Unicode.upperCase c ++ rest

def bannerWidth : Nat := 80

/-- A rule, a title and the command. -/
def Command.banner (c : Command) : String :=
  String.ofList (List.replicate bannerWidth '=' ++ '\n' :: title c.id.toList ++ ['\n', '\n', ' '])

/-- A topology stands alone and `conf` without a banner. -/
def Command.block (c : Command) : String :=
  match c.body with
  | .topology t => t.toJson.document
  | .payloads _ =>
    if c.id = "conf" then c.toJson.document else c.banner ++ c.toJson.document

namespace CommandSequence

def document (s : CommandSequence) : String := s.toJson.document

def blocks (s : CommandSequence) : List String := s.commands.map Command.block

end CommandSequence

end ReadoutControl
