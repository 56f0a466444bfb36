import Mathlib.Algebra.Group.Nat.Defs
import ReadoutControl.Net.Socket
import ReadoutControl.Proofs.Text.Numeral

set_option autoImplicit false

/-!
Endpoints as the kernel prints them: the octets of an address in words of four, the first octet of
a word its lowest part, every word in eight hexadecimal digits; then a colon and the port in four.
Reading gives the endpoint back.
-/

namespace ReadoutControl

open Text (paddedHex digits?_paddedHex length_paddedHex natural?_of_digits?)

/-- The number whose lowest part is the first octet. -/
def littleEndian (os : List UInt8) : Nat := os.foldr (fun o n => o.toNat + 256 * n) 0

/-- Octets in words of four, without anything between the words. -/
def rawWords : List UInt8 → List Char
  | a :: b :: c :: d :: rest => paddedHex 8 (littleEndian [a, b, c, d]) ++ rawWords rest
  | _ => []

def IpAddress.raw (a : IpAddress) : List Char := rawWords a.octets

def Endpoint.raw (e : Endpoint) : List Char := e.address.raw ++ ':' :: paddedHex 4 e.port.toNat

theorem littleEndian_lt (os : List UInt8) : littleEndian os < 256 ^ os.length := by
  induction os with
  | nil => decide
  | cons o rest ih =>
    have octet := o.toNat_lt
    change o.toNat + 256 * littleEndian rest < 256 ^ (rest.length + 1)
    omega

theorem littleEndian_word_lt (a b c d : UInt8) : littleEndian [a, b, c, d] < 16 ^ 8 := by
  simpa using littleEndian_lt [a, b, c, d]

theorem length_word (a b c d : UInt8) :
    (paddedHex 8 (littleEndian [a, b, c, d])).length = 8 :=
  length_paddedHex (by decide) (littleEndian_word_lt a b c d)

/-- Nothing but digits stands in an address. -/
theorem isSome_digitValue?_of_mem_rawWords {os : List UInt8} {c : Char}
    (member : c ∈ rawWords os) : (Text.digitValue? 16 c).isSome = true := by
  induction os using rawWords.induct with
  | case1 a b c d rest ih =>
    rw [rawWords, List.mem_append] at member
    rcases member with here | later
    · exact Text.isSome_digitValue?_of_mem (digits?_paddedHex 8 _) here
    · exact ih later
  | case2 os other =>
    rw [rawWords] at member
    · contradiction
    · exact other

theorem Endpoint.isWord_raw (e : Endpoint) : Text.IsWord e.raw := by
  refine ⟨by simp [raw], fun c member => ?_⟩
  rw [raw, List.mem_append, List.mem_cons] at member
  rcases member with address | rfl | port
  · exact Text.isBlank_of_digit (isSome_digitValue?_of_mem_rawWords address)
  · decide
  · exact Text.isBlank_of_digit (Text.isSome_digitValue?_of_mem (digits?_paddedHex 4 _) port)

namespace Socket

theorem word?_raw (a b c d : UInt8) :
    word? (paddedHex 8 (littleEndian [a, b, c, d])) = some #v[a, b, c, d] := by
  have fits : littleEndian [a, b, c, d] < UInt32.size := by
    simpa [UInt32.size] using littleEndian_word_lt a b c d
  rw [word?, natural?_of_digits? (digits?_paddedHex 8 _) fits, Option.map_some]
  have ha := a.toNat_lt
  have hb := b.toNat_lt
  have hc := c.toNat_lt
  have hd := d.toNat_lt
  have value : littleEndian [a, b, c, d] =
      a.toNat + 256 * (b.toNat + 256 * (c.toNat + 256 * d.toNat)) := by
    simp [littleEndian]
  rw [value]
  congr 2
  apply Array.toList_inj.mp
  simp only [List.cons.injEq, and_true]
  refine ⟨?_, ?_, ?_, ?_⟩ <;> apply UInt8.toNat_inj.mp <;> rw [UInt8.toNat_ofNat'] <;> omega

/-- Four words side by side are read each by itself. -/
theorem address?_words {as bs cs ds : List Char} (ha : as.length = 8) (hb : bs.length = 8)
    (hc : cs.length = 8) (hd : ds.length = 8) {a b c d : Vector UInt8 4}
    (first : word? as = some a) (second : word? bs = some b) (third : word? cs = some c)
    (fourth : word? ds = some d) :
    address? (as ++ (bs ++ (cs ++ (ds ++ [])))) = some (.v6 (a ++ b ++ c ++ d)) := by
  have short : ∀ {cs : List Char} {n : Nat}, cs.length ≤ n → cs.drop n = [] :=
    List.drop_eq_nil_of_le
  simp [address?, List.drop_append, short, ha, hb, hc, hd, first, second, third, fourth]

/-- Four vectors of octets, one after another. -/
theorem toList_words {α : Type} (a b c d : Vector α 4) :
    (a ++ b ++ c ++ d).toList = a.toList ++ b.toList ++ c.toList ++ d.toList := by
  simp only [Vector.toList_append]

theorem address?_raw (a : IpAddress) : address? a.raw = some a := by
  -- The number of octets is fixed, so their list can be taken apart into words.
  cases a with
  | v4 os =>
    obtain ⟨⟨os⟩, size⟩ := os
    match os, size with
    | [a, b, c, d], _ =>
      have raw : (IpAddress.v4 #v[a, b, c, d]).raw = paddedHex 8 (littleEndian [a, b, c, d]) := by
        apply List.append_nil
      change address? (IpAddress.v4 #v[a, b, c, d]).raw = _
      rw [raw, address?, if_pos (length_word a b c d), word?_raw]
      rfl
  | v6 os =>
    obtain ⟨⟨os⟩, size⟩ := os
    match os, size with
    | [a₀, a₁, a₂, a₃, b₀, b₁, b₂, b₃, c₀, c₁, c₂, c₃, d₀, d₁, d₂, d₃], _ =>
      have read := address?_words (length_word a₀ a₁ a₂ a₃) (length_word b₀ b₁ b₂ b₃)
        (length_word c₀ c₁ c₂ c₃) (length_word d₀ d₁ d₂ d₃) (word?_raw ..) (word?_raw ..)
        (word?_raw ..) (word?_raw ..)
      apply read.trans
      refine congrArg (fun os => some (IpAddress.v6 os)) (Vector.toList_inj.mp ?_)
      exact toList_words ..

/-- The first colon ends the address. -/
theorem endpoint?_colon {address : List Char} (bare : ':' ∉ address) (port : List Char) :
    endpoint? (address ++ ':' :: port) = do
      let n ← Text.natural? 16 UInt16.size port
      let a ← address? address
      return ⟨a, .ofNat n⟩ := by
  have word : ∀ c ∈ address, (c ≠ ':' : Bool) = true := by
    intro c member
    simpa using ne_of_mem_of_not_mem member bare
  have rest : (address ++ ':' :: port).dropWhile (· ≠ ':') = ':' :: port := by
    rw [List.dropWhile_append_of_pos word]
    rfl
  have front : (address ++ ':' :: port).takeWhile (· ≠ ':') = address := by
    rw [List.takeWhile_append_of_pos word]
    simp
  unfold endpoint?
  rw [rest, front]

theorem endpoint?_raw (e : Endpoint) : endpoint? e.raw = some e := by
  have bare : ':' ∉ e.address.raw := by
    intro member
    have digit := isSome_digitValue?_of_mem_rawWords member
    simp [Text.digitValue?] at digit
  have port : Text.natural? 16 UInt16.size (paddedHex 4 e.port.toNat) = some e.port.toNat :=
    natural?_of_digits? (digits?_paddedHex 4 _) e.port.toNat_lt
  rw [Endpoint.raw, endpoint?_colon bare, port, address?_raw]
  simp

end Socket

end ReadoutControl
