import ReadoutControl.Json.Basic
import ReadoutControl.Net.Address
import ReadoutControl.Text.Blank
import ReadoutControl.Text.Numeral

set_option autoImplicit false

/-!
Sockets and the tables in which the kernel lists them. A table has a header line, then a line for
each socket; lines that cannot be read are passed over.
-/

namespace ReadoutControl

inductive Protocol where
  | tcp
  | tcp6
  | udp
  | udp6
  deriving DecidableEq

namespace Protocol

def name : Protocol → String
  | tcp => "tcp"
  | tcp6 => "tcp6"
  | udp => "udp"
  | udp6 => "udp6"

def all : List Protocol := [tcp, tcp6, udp, udp6]

def ofName? (name : String) : Option Protocol := all.find? (·.name = name)

def hasStates : Protocol → Bool
  | tcp => true
  | tcp6 => true
  | udp => false
  | udp6 => false

end Protocol

structure Socket where
  protocol : Protocol
  localEnd : Endpoint
  /-- Absent when the socket is not connected. -/
  remoteEnd : Option Endpoint
  state : String
  inode : UInt64
  deriving DecidableEq

namespace Socket

def text (s : Socket) : String :=
  let remote := match s.remoteEnd with
    | some e => s!" -> {e.text}"
    | none => ""
  s!"{s.protocol.name} {s.localEnd.text}{remote} {s.state}"

def toJson (s : Socket) : Json :=
  .obj [
    ("protocol", .str s.protocol.name),
    ("local", .str s.localEnd.text),
    ("remote", match s.remoteEnd with
      | some e => .str e.text
      | none => .null),
    ("state", .str s.state),
    ("inode", .ofNat s.inode.toNat)]

/-- The states of a connection by their codes. -/
def states : List (String × String) :=
  [("01", "ESTABLISHED"), ("02", "SYN_SENT"), ("03", "SYN_RECV"), ("04", "FIN_WAIT1"),
    ("05", "FIN_WAIT2"), ("06", "TIME_WAIT"), ("07", "CLOSE"), ("08", "CLOSE_WAIT"),
    ("09", "LAST_ACK"), ("0A", "LISTEN"), ("0B", "CLOSING")]

def stateName (protocol : Protocol) (code : String) : String :=
  if protocol.hasStates then (states.lookup code).getD "UNKNOWN" else "NONE"

/-- The octets of a word of eight hexadecimal digits, the last pair of digits first. -/
def word? (cs : List Char) : Option (Vector UInt8 4) :=
  (Text.natural? 16 UInt32.size cs).map fun n =>
    #v[.ofNat n, .ofNat (n / 0x100), .ofNat (n / 0x10000), .ofNat (n / 0x1000000)]

/-- An address is one word or four. -/
def address? (cs : List Char) : Option IpAddress :=
  if cs.length = 8 then (word? cs).map .v4
  else if cs.length = 32 then do
    let a ← word? (cs.take 8)
    let b ← word? ((cs.drop 8).take 8)
    let c ← word? ((cs.drop 16).take 8)
    let d ← word? (cs.drop 24)
    return .v6 (a ++ b ++ c ++ d)
  else none

/-- An address and a port in hexadecimal, with a colon between them. -/
def endpoint? (cs : List Char) : Option Endpoint :=
  match cs.dropWhile (· ≠ ':') with
  | [] => none
  | _ :: port => do
    let port ← Text.natural? 16 UInt16.size port
    let address ← address? (cs.takeWhile (· ≠ ':'))
    return ⟨address, .ofNat port⟩

/-- The socket of a line, from its second, third, fourth and tenth field. -/
def ofLine? (protocol : Protocol) (line : List Char) : Option Socket := do
  let fields := Text.fields line
  let localEnd ← endpoint? (← fields[1]?)
  let remote ← endpoint? (← fields[2]?)
  let state ← fields[3]?
  let inode ← Text.natural? 10 UInt64.size (← fields[9]?)
  return {
    protocol := protocol
    localEnd := localEnd
    remoteEnd := if remote.address.isUnspecified && remote.port == 0 then none else some remote
    state := stateName protocol (String.ofList state)
    inode := .ofNat inode }

/-- The sockets of a table. -/
def ofTable (protocol : Protocol) (table : String) : List Socket :=
  ((Text.lines table.toList).drop 1).filterMap (ofLine? protocol)

/-- The inode in the target of a descriptor that is a socket. -/
def inodeOfLink? (link : String) : Option Nat :=
  let cs := link.toList
  let opening := ['s', 'o', 'c', 'k', 'e', 't', ':', '[']
  if opening.isPrefixOf cs && cs.getLast? == some ']' && opening.length < cs.length then
    Text.natural? 10 UInt64.size ((cs.drop opening.length).dropLast)
  else none

end Socket

end ReadoutControl
