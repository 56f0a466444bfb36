set_option autoImplicit false

/-!
The bytes of UTF-8. Those of a range of characters are sequences of ranges of bytes: each sequence
stands for all choices of one byte from each of its ranges.
-/

namespace ReadoutControl.Unicode.Utf8

/-- The bytes of a code. -/
def encode (code : Nat) : List Nat :=
  if code < 0x80 then [code]
  else if code < 0x800 then [0xC0 + code / 0x40, 0x80 + code % 0x40]
  else if code < 0x10000 then
    [0xE0 + code / 0x1000, 0x80 + code / 0x40 % 0x40, 0x80 + code % 0x40]
  else
    [0xF0 + code / 0x40000, 0x80 + code / 0x1000 % 0x40, 0x80 + code / 0x40 % 0x40,
      0x80 + code % 0x40]

/-- How many bytes characters take. -/
def byteCount (cs : List Char) : Nat := cs.foldl (fun n c => n + c.utf8Size) 0

/-- Cuts a range so that each piece lies in one block of every given size, or fills blocks of it. -/
def aligned : List Nat → Nat → Nat → List (Nat × Nat)
  | [], low, high => [(low, high)]
  | block :: larger, low, high =>
    if low / block = high / block then [(low, high)]
    else
      let start := if low % block = 0 then low else (low / block + 1) * block
      let front := if low % block = 0 then [] else [(low, start - 1)]
      let back := high / block * block
      front ++
        if start / block = high / block then [(start, high)]
        else if high % block = block - 1 then aligned larger start high
        else aligned larger start (back - 1) ++ [(back, high)]

/-- The codes whose encodings have the same length, with the blocks in which they are cut. -/
def lengthClasses : List (Nat × Nat × List Nat) :=
  let blocks := [0x40, 0x1000, 0x40000]
  [(0, 0x7F, []), (0x80, 0x7FF, blocks), (0x800, 0xD7FF, blocks), (0xE000, 0xFFFF, blocks),
   (0x10000, 0x10FFFF, blocks)]

/-- The sequences of a range, in increasing order. -/
def sequences (low high : Nat) : List (List (Nat × Nat)) :=
  lengthClasses.flatMap fun (first, last, blocks) =>
    if max low first ≤ min high last then
      (aligned blocks (max low first) (min high last)).map fun (a, b) =>
        (encode a).zip (encode b)
    else []

end ReadoutControl.Unicode.Utf8
