import Mathlib.Data.List.TakeWhile
import ReadoutControl.Proofs.Net.Table

set_option autoImplicit false

/-!
Which lines of a table of sockets are read: those of ten words or more in which both ends and the
inode are spelled in numerals. An address is one word or four of eight characters each, and the
port follows a colon. A plus sign may begin each numeral, though the kernel prints none, so a row
that is malformed by such a sign is not passed over.
-/

namespace ReadoutControl

open Text (Lines Numeral Signed Words)

variable {number other : Nat → List Char → Nat → Prop} {field : List Char}

/-- How an end of a socket is spelled, given what is a numeral of a base. -/
inductive Endpoint.Spelled (number : Nat → List Char → Nat → Prop) : List Char → Prop
  | mk {words : List (List Char)} {port : List Char} {n : Nat} :
    words.length = 1 ∨ words.length = 4 →
      (∀ word ∈ words, word.length = 8 ∧ ∃ m, number 16 word m) →
      number 16 port n → n ≤ 65535 → Spelled number (words.flatten ++ ':' :: port)

namespace Socket

/-- The words of a line that lists a socket, as far as it is read. -/
structure IsRow (number : Nat → List Char → Nat → Prop) (words : List (List Char)) : Prop where
  length_ge : 10 ≤ words.length
  localEnd : ∃ field, words[1]? = some field ∧ Endpoint.Spelled number field
  remoteEnd : ∃ field, words[2]? = some field ∧ Endpoint.Spelled number field
  inode : ∃ field n, words[9]? = some field ∧ number 10 field n ∧ n < 2 ^ 64

/-- The sockets of a table are those of its lines after the first, and a line has one exactly when
its words are a row. -/
def ReadsRows (number : Nat → List Char → Nat → Prop) (protocol : Protocol) (table : String) :
    Prop :=
  ∃ lines, Lines lines table.toList ∧
    ofTable protocol table = (lines.drop 1).filterMap (ofLine? protocol) ∧
      ∀ line ∈ lines.drop 1, (ofLine? protocol line).isSome = true ↔
        ∃ words, Words words line ∧ IsRow number words

end Socket

/-- Only the numerals that stand in the field matter. -/
theorem Endpoint.Spelled.mono (spelled : Endpoint.Spelled number field)
    (same : ∀ base cs n, (∀ c ∈ cs, c ∈ field) → number base cs n → other base cs n) :
    Endpoint.Spelled other field := by
  obtain ⟨count, address, port, bound⟩ := spelled
  refine .mk count (fun word member => ?_) (same _ _ _ (fun c inside => ?_) port) bound
  · obtain ⟨length, m, numeral⟩ := address word member
    refine ⟨length, m, same _ _ _ (fun c inside => ?_) numeral⟩
    exact List.mem_append_left _ (List.mem_flatten_of_mem member inside)
  · exact List.mem_append_right _ (List.mem_cons_of_mem _ inside)

/-- Without signs a field has nothing but digits beside its colon. -/
theorem Endpoint.Spelled.digit_of_mem (spelled : Endpoint.Spelled Numeral field) {c : Char}
    (member : c ∈ field) : c = ':' ∨ (Text.digitValue? 16 c).isSome = true := by
  obtain ⟨count, address, port, bound⟩ := spelled
  rcases List.mem_append.mp member with inside | inside
  · obtain ⟨word, here, inside⟩ := List.mem_flatten.mp inside
    obtain ⟨-, m, numeral⟩ := address word here
    exact .inr (numeral.isSome_digitValue?_of_mem (by decide) inside)
  · refine (List.mem_cons.mp inside).imp_right fun inside => ?_
    exact port.isSome_digitValue?_of_mem (by decide) inside

namespace Socket

theorem IsRow.mono {words : List (List Char)} (row : IsRow number words)
    (same : ∀ base cs n, (∀ c ∈ cs, ∃ word ∈ words, c ∈ word) → number base cs n →
      other base cs n) : IsRow other words := by
  have within {field : List Char} {i : Nat} (here : words[i]? = some field) :
      ∀ base cs n, (∀ c ∈ cs, c ∈ field) → number base cs n → other base cs n :=
    fun base cs n inside =>
      same base cs n fun c member => ⟨field, List.mem_of_getElem? here, inside c member⟩
  obtain ⟨localField, localHere, localEnd⟩ := row.localEnd
  obtain ⟨remoteField, remoteHere, remoteEnd⟩ := row.remoteEnd
  obtain ⟨field, n, here, numeral, bound⟩ := row.inode
  exact ⟨row.length_ge, ⟨localField, localHere, localEnd.mono (within localHere)⟩,
    ⟨remoteField, remoteHere, remoteEnd.mono (within remoteHere)⟩,
    ⟨field, n, here, within here _ _ _ (fun _ inside => inside) numeral, bound⟩⟩

theorem isSome_word?_iff {word : List Char} (length : word.length = 8) :
    (word? word).isSome = true ↔ ∃ m, Signed 16 word m := by
  rw [word?, Option.isSome_map, Text.isSome_natural?_iff (by decide)]
  refine exists_congr fun m => and_iff_left_of_imp fun signed => ?_
  have bound : m < 16 ^ word.length := signed.lt
  rwa [length] at bound

/-- A long address falls into four words, each of them read by itself. -/
theorem exists_words_of_long {address : List Char} (length : address.length = 32)
    (read : (address? address).isSome = true) : ∃ words : List (List Char), words.length = 4 ∧
      (∀ word ∈ words, word.length = 8 ∧ (word? word).isSome = true) ∧ words.flatten = address := by
  rw [address?, if_neg (by omega), if_pos length] at read
  simp only [Option.isSome_iff_exists, Option.bind_eq_bind, Option.bind_eq_some_iff] at read
  obtain ⟨_, _, first, _, second, _, third, _, fourth, -⟩ := read
  have split (n : Nat) :
      (address.drop n).take 8 ++ address.drop (n + 8) = address.drop n := by
    rw [← List.drop_drop, List.take_append_drop]
  refine ⟨[address.take 8, (address.drop 8).take 8, (address.drop 16).take 8, address.drop 24],
    rfl, ?_, ?_⟩
  · simp [length, first, second, third, fourth]
  · simp only [List.flatten_cons, List.flatten_nil, List.append_nil, split]
    exact split 0

theorem isSome_address?_iff {address : List Char} :
    (address? address).isSome = true ↔ ∃ words : List (List Char),
      (words.length = 1 ∨ words.length = 4) ∧
        (∀ word ∈ words, word.length = 8 ∧ (word? word).isSome = true) ∧
          words.flatten = address := by
  constructor
  · intro read
    by_cases short : address.length = 8
    · have word : (word? address).isSome = true := by simpa [address?, short] using read
      exact ⟨[address], .inl rfl, by simpa using ⟨short, word⟩, by simp⟩
    · have long : address.length = 32 := by
        by_contra other
        simp [address?, short, other] at read
      obtain ⟨words, count, each, whole⟩ := exists_words_of_long long read
      exact ⟨words, .inr count, each, whole⟩
  · rintro ⟨words, count, read, rfl⟩
    rcases count with one | four
    · obtain ⟨word, rfl⟩ := List.length_eq_one_iff.mp one
      obtain ⟨length, found⟩ := read word List.mem_cons_self
      simp [address?, length, found]
    · obtain ⟨as, bs, cs, ds, rfl⟩ := List.length_eq_four.mp four
      simp only [List.mem_cons, forall_eq_or_imp, List.not_mem_nil, false_imp_iff, forall_const,
        and_true, Option.isSome_iff_exists] at read
      obtain ⟨⟨ha, a, first⟩, ⟨hb, b, second⟩, ⟨hc, c, third⟩, ⟨hd, d, fourth⟩⟩ := read
      exact Option.isSome_iff_exists.mpr ⟨_, address?_words ha hb hc hd first second third fourth⟩

/-- A colon stands in no numeral. -/
theorem colon_notMem {word : List Char} {m : Nat} (signed : Signed 16 word m) : ':' ∉ word := by
  have bare {cs : List Char} (numeral : Numeral 16 cs m) : ':' ∉ cs := by
    intro member
    have digit := numeral.isSome_digitValue?_of_mem (by decide) member
    simp [Text.digitValue?] at digit
  cases signed with
  | plain numeral => exact bare numeral
  | plus numeral => simpa using bare numeral

theorem endpoint?_eq_none (missing : ':' ∉ field) : endpoint? field = none := by
  have all : field.dropWhile (· ≠ ':') = [] := by
    refine List.dropWhile_eq_nil_iff.mpr fun c member => ?_
    simpa using ne_of_mem_of_not_mem member missing
  rw [endpoint?, all]

theorem isSome_endpoint?_iff : (endpoint? field).isSome = true ↔ Endpoint.Spelled Signed field := by
  constructor
  · intro read
    by_cases colon : ':' ∈ field
    · obtain ⟨address, port, rfl, bare⟩ := List.eq_append_cons_of_mem colon
      rw [endpoint?_colon bare] at read
      simp only [Option.isSome_iff_exists, Option.bind_eq_bind, Option.bind_eq_some_iff] at read
      obtain ⟨_, n, number, a, found, -⟩ := read
      obtain ⟨signed, bound⟩ := (Text.natural?_eq_some_iff (by decide)).mp number
      obtain ⟨words, count, each, rfl⟩ :=
        isSome_address?_iff.mp (Option.isSome_iff_exists.mpr ⟨a, found⟩)
      refine .mk count (fun word member => ?_) signed (Nat.le_of_lt_succ bound)
      exact (each word member).imp_right (isSome_word?_iff (each word member).1).mp
    · rw [endpoint?_eq_none colon] at read
      contradiction
  · intro whole
    obtain @⟨words, port, n, count, spelled, signed, bound⟩ := whole
    have bare : ':' ∉ words.flatten := by
      rw [List.mem_flatten]
      rintro ⟨word, member, inside⟩
      obtain ⟨-, m, numeral⟩ := spelled word member
      exact colon_notMem numeral inside
    have number : Text.natural? 16 UInt16.size port = some n :=
      (Text.natural?_eq_some_iff (by decide)).mpr ⟨signed, Nat.lt_succ_of_le bound⟩
    have address : (address? words.flatten).isSome = true := by
      refine isSome_address?_iff.mpr ⟨words, count, fun word member => ?_, rfl⟩
      exact (spelled word member).imp_right (isSome_word?_iff (spelled word member).1).mpr
    obtain ⟨a, found⟩ := Option.isSome_iff_exists.mp address
    simp [endpoint?_colon bare, number, found]

theorem isSome_ofLine?_iff {words : List (List Char)} {line : List Char} (h : Words words line)
    (protocol : Protocol) : (ofLine? protocol line).isSome = true ↔ IsRow Signed words := by
  rw [ofLine?, h.fields_eq]
  constructor
  · intro read
    simp only [Option.isSome_iff_exists, Option.bind_eq_bind, Option.bind_eq_some_iff] at read
    obtain ⟨_, localField, localHere, localEnd, localRead, remoteField, remoteHere, remoteEnd,
      remoteRead, _, _, field, here, n, inode, -⟩ := read
    have long : 9 < words.length := (List.getElem?_eq_some_iff.mp here).1
    have localSpelled : Endpoint.Spelled Signed localField := by
      rw [← isSome_endpoint?_iff, localRead, Option.isSome_some]
    have remoteSpelled : Endpoint.Spelled Signed remoteField := by
      rw [← isSome_endpoint?_iff, remoteRead, Option.isSome_some]
    exact ⟨long, ⟨localField, localHere, localSpelled⟩, ⟨remoteField, remoteHere, remoteSpelled⟩,
      field, n, here, (Text.natural?_eq_some_iff (by decide)).mp inode⟩
  · rintro ⟨length, ⟨localField, localHere, localEnd⟩, ⟨remoteField, remoteHere, remoteEnd⟩,
      field, n, here, inode⟩
    rw [← isSome_endpoint?_iff, Option.isSome_iff_exists] at localEnd remoteEnd
    obtain ⟨localEnd, localRead⟩ := localEnd
    obtain ⟨remoteEnd, remoteRead⟩ := remoteEnd
    have code : words[3]? = some words[3] := List.getElem?_eq_getElem _
    have read : Text.natural? 10 UInt64.size field = some n :=
      (Text.natural?_eq_some_iff (by decide)).mpr inode
    simp [localHere, localRead, remoteHere, remoteRead, code, here, read]

/-- What is taken of each line is read from the table, whatever returns stand before the ends of
its lines. -/
theorem ofTable_lines {table : String} {lines : List (List Char)} (h : Lines lines table.toList)
    (protocol : Protocol) :
    ofTable protocol table = (lines.drop 1).filterMap (ofLine? protocol) :=
  h.filterMap_lines rfl (ofLine?_dropReturn protocol)

/-- Exactly the lines whose words are a row are read, with plus signs or without; so in a table
without a plus sign exactly those in which the numerals are digits only. -/
theorem ofTable_readsRows (protocol : Protocol) (table : String) :
    ReadsRows Signed protocol table ∧
      ('+' ∉ table.toList → ReadsRows Numeral protocol table) := by
  obtain ⟨lines, h⟩ := Text.exists_lines table.toList
  have read (line : List Char) : (ofLine? protocol line).isSome = true ↔
      ∃ words, Words words line ∧ IsRow Signed words := by
    obtain ⟨words, here⟩ := Text.exists_words line
    rw [isSome_ofLine?_iff here]
    refine ⟨fun row => ⟨words, here, row⟩, ?_⟩
    rintro ⟨others, there, row⟩
    rwa [← here.fields_eq, there.fields_eq]
  refine ⟨⟨lines, h, ofTable_lines h protocol, fun line _ => read line⟩, fun plain => ?_⟩
  refine ⟨lines, h, ofTable_lines h protocol, fun line member => (read line).trans ?_⟩
  refine exists_congr fun words => and_congr_right fun here => ?_
  constructor
  · intro row
    refine row.mono fun base cs n inside signed => signed.numeral fun plus => plain ?_
    obtain ⟨word, within, sign⟩ := inside '+' plus
    exact h.mem_text (List.mem_of_mem_drop member) (here.mem_line within sign)
  · intro row
    exact row.mono fun base cs n _ numeral => .plain numeral

/-- Loopback addresses of both versions, then a line with too few words. -/
theorem ofTable_readsRows_loopback :
    let table := "  sl  local_address rem_address   st\n" ++
      "   0: 0100007F:1F90 00000000:0000 0A 0:0 00:0 0  1000  0 48213 1\r\n" ++
      "   1: 00000000000000000000000001000000:14E9 0100007f:d2f0 0C 0:0 00:0 0 104 0 17722 2\n" ++
      "   2: 0100007F:1F90"
    '+' ∉ table.toList ∧ ReadsRows Numeral .tcp6 table := by
  intro table
  have plain : '+' ∉ table.toList := by decide +kernel
  exact ⟨plain, (ofTable_readsRows .tcp6 table).2 plain⟩

/-- The sign of a port does not keep its row from being read. -/
theorem ofTable_not_readsRows_sign :
    ¬ ∀ protocol table, ReadsRows Numeral protocol table := by
  intro claim
  let line := "   0: 0100007F:+1F90 00000000:0000 0A 0:0 00:0 0  1000  0 48213 1".toList
  obtain ⟨lines, h, -, rows⟩ := claim .tcp (String.ofList ('\n' :: line))
  have split : lines = [[], line] := by
    rw [← h.splitAt_eq, String.toList_ofList]
    decide
  have member : line ∈ lines.drop 1 := by simp [split]
  have read : (ofLine? .tcp line).isSome = true := by decide
  obtain ⟨words, here, row⟩ := (rows line member).mp read
  obtain ⟨field, second, spelled⟩ := row.localEnd
  have spelling : field = "0100007F:+1F90".toList := by
    rw [← here.fields_eq] at second
    exact Option.some.inj (second.symm.trans (by decide))
  have sign : '+' ∈ field := by
    rw [spelling]
    decide
  simpa [Text.digitValue?] using spelled.digit_of_mem sign

end Socket

end ReadoutControl
