/-!
# UTF-8 with replacement

Decoding of arbitrary bytes: a well-formed sequence gives its character, and every maximal part of
a sequence that cannot be completed gives one replacement character.
-/

namespace SqlClient

namespace Text

/-- What a lead byte announces about the bytes after it. -/
structure Lead where
  /-- Bits of the code point held by the lead byte. -/
  bits : Nat
  /-- Number of continuation bytes owed. -/
  owed : Nat
  /-- Least value of the first continuation byte. -/
  low : Nat
  /-- Greatest value of the first continuation byte. -/
  high : Nat

/-- The announcement of a lead byte of two to four bytes. -/
def lead? (byte : UInt8) : Option Lead :=
  let value := byte.toNat
  if 0xC2 ≤ value ∧ value ≤ 0xDF then some ⟨value - 0xC0, 1, 0x80, 0xBF⟩
  else if value = 0xE0 then some ⟨0, 2, 0xA0, 0xBF⟩
  else if value = 0xED then some ⟨0xD, 2, 0x80, 0x9F⟩
  else if 0xE1 ≤ value ∧ value ≤ 0xEF then some ⟨value - 0xE0, 2, 0x80, 0xBF⟩
  else if value = 0xF0 then some ⟨0, 3, 0x90, 0xBF⟩
  else if 0xF1 ≤ value ∧ value ≤ 0xF3 then some ⟨value - 0xF0, 3, 0x80, 0xBF⟩
  else if value = 0xF4 then some ⟨4, 3, 0x80, 0x8F⟩
  else none

/-- The code point completed by the continuation bytes owed, or nothing where they break off, and
the bytes left over. -/
def continuation : (bits owed low high : Nat) → List UInt8 → Option Nat × List UInt8
  | bits, 0, _, _, bytes => (some bits, bytes)
  | _, _ + 1, _, _, [] => (none, [])
  | bits, owed + 1, low, high, byte :: bytes =>
      if low ≤ byte.toNat ∧ byte.toNat ≤ high then
        continuation (bits * 64 + (byte.toNat - 0x80)) owed 0x80 0xBF bytes
      else (none, byte :: bytes)

theorem continuation_length (bits owed low high : Nat) (bytes : List UInt8) :
    (continuation bits owed low high bytes).2.length ≤ bytes.length := by
  fun_induction continuation bits owed low high bytes with
  | case1 => simp
  | case2 => simp
  | case3 bits owed low high byte bytes _ ih => simp only [List.length_cons]; omega
  | case4 => simp

def replacement : Char := '\uFFFD'

/-- The characters of a byte sequence, malformed parts replaced. -/
def decodeLossy : List UInt8 → List Char
  | [] => []
  | byte :: bytes =>
      if byte.toNat < 0x80 then Char.ofNat byte.toNat :: decodeLossy bytes
      else
        match lead? byte with
        | none => replacement :: decodeLossy bytes
        | some lead =>
            let completed := continuation lead.bits lead.owed lead.low lead.high bytes
            (completed.1.map Char.ofNat).getD replacement :: decodeLossy completed.2
termination_by bytes => bytes.length
decreasing_by
  · simp
  · simp
  · exact Nat.lt_succ_of_le (continuation_length ..)

end Text

end SqlClient
