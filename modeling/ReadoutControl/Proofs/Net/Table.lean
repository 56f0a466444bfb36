import Mathlib.Data.List.Forall2
import ReadoutControl.Proofs.Net.Raw
import ReadoutControl.Proofs.Text.Words

set_option autoImplicit false

/-!
Tables of sockets as the kernel prints them. The second and the third word of a line are the two
ends of a socket, the fourth is the code of its state and the tenth its inode; the other words may
be any. From a table the sockets are read back in order, whatever lines of fewer words stand among
theirs.
-/

namespace ReadoutControl

open Text (Words ended)

/-- No end: the address is all zero and so is the port. -/
def Endpoint.IsZero (e : Endpoint) : Prop := (∀ o ∈ e.address.octets, o = 0) ∧ e.port = 0

/-- A socket as the kernel lists it, with a remote end in any case. -/
structure SocketEntry where
  localEnd : Endpoint
  remoteEnd : Endpoint
  code : List Char
  inode : UInt64

namespace SocketEntry

/-- How a socket is listed in a line of its own. -/
structure Listed (entry : SocketEntry) (line : List Char) : Prop where
  single : '\n' ∉ line
  words : ∃ words, Words words line ∧ words[1]? = some entry.localEnd.raw ∧
    words[2]? = some entry.remoteEnd.raw ∧ words[3]? = some entry.code ∧
    words[9]? = some (Nat.toDigits 10 entry.inode.toNat)

/-- The lines of sockets in order, with short lines anywhere among them. -/
inductive Rows : List SocketEntry → List (List Char) → Prop
  | done : Rows [] []
  | entry {entry : SocketEntry} {line : List Char} {entries : List SocketEntry}
      {lines : List (List Char)} :
    entry.Listed line → Rows entries lines → Rows (entry :: entries) (line :: lines)
  | short {words : List (List Char)} {line : List Char} {entries : List SocketEntry}
      {lines : List (List Char)} :
    '\n' ∉ line → Words words line → words.length < 10 → Rows entries lines →
      Rows entries (line :: lines)

theorem Rows.single {entries : List SocketEntry} {lines : List (List Char)}
    (rows : Rows entries lines) : ∀ line ∈ lines, '\n' ∉ line := by
  induction rows with
  | done => simp
  | entry listed _ ih => exact List.forall_mem_cons.mpr ⟨listed.single, ih⟩
  | short single _ _ _ ih => exact List.forall_mem_cons.mpr ⟨single, ih⟩

theorem exists_listed {entry : SocketEntry} (code : Text.IsWord entry.code) :
    ∃ line, entry.Listed line := by
  have decimal (n : Nat) : Text.IsWord (Nat.toDigits 10 n) :=
    Text.isWord_of_digits? (Text.digits?_toDigits (by decide) (by decide) n)
  have zero : Text.IsWord ['0'] := decimal 0
  -- The words that say nothing about the socket are all zero.
  have solid : ∀ word ∈ [['0'], entry.localEnd.raw, entry.remoteEnd.raw, entry.code, ['0'], ['0'],
      ['0'], ['0'], ['0'], Nat.toDigits 10 entry.inode.toNat], Text.IsWord word := by
    simp [zero, decimal, code, Endpoint.isWord_raw]
  exact ⟨_, Text.newline_notMem_spaced solid, _, Text.words_spaced solid, rfl, rfl, rfl, rfl⟩

/-- Any sockets can be listed, as long as their codes are words. -/
theorem exists_rows {entries : List SocketEntry} (codes : ∀ e ∈ entries, Text.IsWord e.code) :
    ∃ lines, Rows entries lines := by
  induction entries with
  | nil => exact ⟨[], .done⟩
  | cons entry rest ih =>
    rw [List.forall_mem_cons] at codes
    obtain ⟨line, listed⟩ := exists_listed codes.1
    obtain ⟨lines, rows⟩ := ih codes.2
    exact ⟨line :: lines, .entry listed rows⟩

end SocketEntry

namespace Socket

/-- The states of a connection in the order of their numbers, which begin at one. -/
def numberedStates : List String :=
  ["ESTABLISHED", "SYN_SENT", "SYN_RECV", "FIN_WAIT1", "FIN_WAIT2", "TIME_WAIT", "CLOSE",
    "CLOSE_WAIT", "LAST_ACK", "LISTEN", "CLOSING"]

/-- What a state is called. A code is the number of a state in two hexadecimal digits. -/
inductive StateNamed : Protocol → List Char → String → Prop
  | known {protocol : Protocol} {i : Nat} {name : String} :
    protocol = .tcp ∨ protocol = .tcp6 → numberedStates[i]? = some name →
      StateNamed protocol (Text.paddedHex 2 (i + 1)) name
  | unknown {protocol : Protocol} {code : List Char} :
    protocol = .tcp ∨ protocol = .tcp6 →
      (∀ i < numberedStates.length, code ≠ Text.paddedHex 2 (i + 1)) →
      StateNamed protocol code "UNKNOWN"
  | datagram {protocol : Protocol} {code : List Char} :
    protocol = .udp ∨ protocol = .udp6 → StateNamed protocol code "NONE"

/-- What is read of a listed socket. -/
structure Shows (protocol : Protocol) (entry : SocketEntry) (socket : Socket) : Prop where
  protocol_eq : socket.protocol = protocol
  localEnd_eq : socket.localEnd = entry.localEnd
  remoteEnd_eq_none_iff : socket.remoteEnd = none ↔ entry.remoteEnd.IsZero
  remoteEnd_eq : ¬ entry.remoteEnd.IsZero → socket.remoteEnd = some entry.remoteEnd
  state_named : StateNamed protocol entry.code socket.state
  inode_eq : socket.inode = entry.inode

theorem states_eq : states =
    numberedStates.mapIdx fun i name => (String.ofList (Text.paddedHex 2 (i + 1)), name) := by
  decide

theorem mem_states_iff {code : List Char} {name : String} :
    (String.ofList code, name) ∈ states ↔
      ∃ i, numberedStates[i]? = some name ∧ Text.paddedHex 2 (i + 1) = code := by
  rw [states_eq, List.mem_mapIdx]
  constructor
  · rintro ⟨i, bound, same⟩
    rw [Prod.mk.injEq, String.ofList_inj] at same
    exact ⟨i, List.getElem?_eq_some_iff.mpr ⟨bound, same.2⟩, same.1⟩
  · rintro ⟨i, named, rfl⟩
    obtain ⟨bound, rfl⟩ := List.getElem?_eq_some_iff.mp named
    exact ⟨i, bound, rfl⟩

theorem stateNamed_lookup {protocol : Protocol} (connected : protocol = .tcp ∨ protocol = .tcp6)
    (code : List Char) :
    StateNamed protocol code ((states.lookup (String.ofList code)).getD "UNKNOWN") := by
  cases found : states.lookup (String.ofList code) with
  | some name =>
    obtain ⟨before, after, split, _⟩ := List.lookup_eq_some_iff.mp found
    have member : (String.ofList code, name) ∈ states := by simp [split]
    obtain ⟨i, named, rfl⟩ := mem_states_iff.mp member
    exact .known connected named
  | none =>
    refine .unknown connected fun i bound same => ?_
    have member := mem_states_iff.mpr ⟨i, List.getElem?_eq_getElem bound, same.symm⟩
    simpa using List.lookup_eq_none_iff.mp found _ member

theorem stateNamed_stateName (protocol : Protocol) (code : List Char) :
    StateNamed protocol code (stateName protocol (String.ofList code)) := by
  cases protocol with
  | tcp => exact stateNamed_lookup (.inl rfl) code
  | tcp6 => exact stateNamed_lookup (.inr rfl) code
  | udp => exact .datagram (.inl rfl)
  | udp6 => exact .datagram (.inr rfl)

theorem isZero_iff (e : Endpoint) :
    (e.address.isUnspecified && e.port == 0) = true ↔ e.IsZero := by
  simp [IpAddress.isUnspecified, Endpoint.IsZero]

theorem ofLine?_dropReturn (protocol : Protocol) (line : List Char) :
    ofLine? protocol (Text.dropReturn line) = ofLine? protocol line := by
  simp only [ofLine?, Text.fields_dropReturn]

theorem ofLine?_short {words : List (List Char)} {line : List Char} (h : Words words line)
    (short : words.length < 10) (protocol : Protocol) : ofLine? protocol line = none := by
  have missing : words[9]? = none := List.getElem?_eq_none (by omega)
  simp [ofLine?, h.fields_eq, missing]

theorem ofLine?_listed {entry : SocketEntry} {line : List Char} (listed : entry.Listed line)
    (protocol : Protocol) :
    ∃ socket, ofLine? protocol line = some socket ∧ Shows protocol entry socket := by
  obtain ⟨words, h, localEnd, remoteEnd, code, inode⟩ := listed.words
  have decimal : Text.natural? 10 UInt64.size (Nat.toDigits 10 entry.inode.toNat) =
      some entry.inode.toNat :=
    Text.natural?_of_digits? (Text.digits?_toDigits (by decide) (by decide) _) entry.inode.toNat_lt
  have read : ofLine? protocol line = some {
      protocol := protocol
      localEnd := entry.localEnd
      remoteEnd := if entry.remoteEnd.address.isUnspecified && entry.remoteEnd.port == 0 then none
        else some entry.remoteEnd
      state := stateName protocol (String.ofList entry.code)
      inode := entry.inode } := by
    simp [ofLine?, h.fields_eq, localEnd, remoteEnd, code, inode, endpoint?_raw, decimal]
  refine ⟨_, read, ?_⟩
  constructor
  case remoteEnd_eq_none_iff =>
    rw [← isZero_iff]
    simp
  case remoteEnd_eq =>
    intro present
    exact if_neg (mt (isZero_iff entry.remoteEnd).mp present)
  case state_named => exact stateNamed_stateName protocol entry.code
  all_goals rfl

theorem filterMap_rows {entries : List SocketEntry} {lines : List (List Char)}
    (rows : SocketEntry.Rows entries lines) (protocol : Protocol) :
    List.Forall₂ (Shows protocol) entries (lines.filterMap (ofLine? protocol)) := by
  induction rows with
  | done => exact .nil
  | entry listed _ ih =>
    obtain ⟨socket, read, shows⟩ := ofLine?_listed listed protocol
    rw [List.filterMap_cons_some read]
    exact .cons shows ih
  | short _ words short _ ih =>
    rw [List.filterMap_cons_none (ofLine?_short words short protocol)]
    exact ih

/-- Sockets whose codes are words can be listed, and from any table in which they are listed they
are read back: all of them in order, and nothing else. -/
theorem ofTable_rows (protocol : Protocol) (entries : List SocketEntry) :
    ((∀ e ∈ entries, Text.IsWord e.code) → ∃ lines, SocketEntry.Rows entries lines) ∧
      ∀ header lines, '\n' ∉ header → SocketEntry.Rows entries lines →
        List.Forall₂ (Shows protocol) entries
          (ofTable protocol (String.ofList (ended (header :: lines)))) := by
  refine ⟨SocketEntry.exists_rows, fun header lines single rows => ?_⟩
  have alone : ∀ line ∈ header :: lines, '\n' ∉ line :=
    List.forall_mem_cons.mpr ⟨single, rows.single⟩
  have whole : ofLine? protocol ∘ Text.dropReturn = ofLine? protocol :=
    funext fun line => ofLine?_dropReturn protocol line
  rw [ofTable, String.toList_ofList, Text.lines_ended alone, List.map_cons, List.drop_one,
    List.tail_cons, List.filterMap_map, whole]
  exact filterMap_rows rows protocol

/-- A table with a line that is no socket, addresses of both versions and a state without a name. -/
theorem ofTable_rows_listening :
    let header := "  sl  local_address rem_address   st".toList
    let lines := [
      "   0: 0100007F:1F90 00000000:0000 0A 0:0 00:0 0  1000  0 48213 1",
      "   1: garbage",
      "  12: 00000000000000000000000001000000:14E9 0100007F:D2F0 0C 0:0 00:0 0 104 0 17722 2"]
    let entries : List SocketEntry := [
      ⟨⟨.v4 #v[127, 0, 0, 1], 8080⟩, ⟨.v4 #v[0, 0, 0, 0], 0⟩, ['0', 'A'], 48213⟩,
      ⟨⟨.v6 #v[0, 0, 0, 0, 0, 0, 0, 0, 0, 0, 0, 0, 0, 0, 0, 1], 5353⟩,
        ⟨.v4 #v[127, 0, 0, 1], 54000⟩, ['0', 'C'], 17722⟩]
    '\n' ∉ header ∧ SocketEntry.Rows entries (lines.map String.toList) ∧
      List.Forall₂ (Shows .tcp6) entries
        (ofTable .tcp6 (String.ofList (ended (header :: lines.map String.toList)))) := by
  intro header lines entries
  have single : '\n' ∉ header := by decide
  have rows : SocketEntry.Rows entries (lines.map String.toList) := by
    have words : ∀ line, Words (Text.fields line) line := fun line => Text.fields_eq_iff.mp rfl
    apply SocketEntry.Rows.entry ⟨by decide, _, words _, by decide⟩
    apply SocketEntry.Rows.short (by decide) (words _) (by decide)
    apply SocketEntry.Rows.entry ⟨by decide, _, words _, by decide⟩
    exact .done
  exact ⟨single, rows, (ofTable_rows .tcp6 entries).2 header _ single rows⟩

end Socket

end ReadoutControl
