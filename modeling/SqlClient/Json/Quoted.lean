import SqlClient.Json.Scanner
import SqlClient.Steps
import SqlClient.Text.Hex

/-!
# Quoted strings

The characters between two quotes, with short and numeric escapes. A character beyond the first
plane may be written as two escapes, its leading and its trailing surrogate.
-/

namespace SqlClient

namespace Json

/-- The number of bytes of a text in UTF-8. -/
def byteLength (chars : List Char) : Nat :=
  chars.foldl (fun total char => total + char.utf8Size) 0

/-- The code unit of four hexadecimal digits. -/
def codeUnit (chars : List Char) : Except Fault (Nat × List Char) :=
  if byteLength chars < 4 then .error .unfinished
  else if (chars.take 4).length < 4 then .error .malformed
  else
    match Text.hexNumber? (chars.take 4) with
    | some unit => .ok (unit, chars.drop 4)
    | none => .error .malformed

/-- The character of a numeric escape, after its letter. A leading surrogate needs the escape of a
trailing surrogate right behind it. -/
def unicodeEscape (chars : List Char) : Except Fault (Char × List Char) := do
  let (unit, rest) ← codeUnit chars
  if 0xDC00 ≤ unit ∧ unit ≤ 0xDFFF then .error .malformed
  else if 0xD800 ≤ unit ∧ unit ≤ 0xDBFF then
    match rest with
    | [] => .error .unfinished
    | '\\' :: [] => .error .unfinished
    | '\\' :: 'u' :: rest => do
        let (second, rest) ← codeUnit rest
        if 0xDC00 ≤ second ∧ second ≤ 0xDFFF then
          .ok (Char.ofNat (0x10000 + (unit - 0xD800) * 0x400 + (second - 0xDC00)), rest)
        else .error .malformed
    | _ => .error .malformed
  else .ok (Char.ofNat unit, rest)

/-- The character of a short escape. -/
def unescape? (letter : Char) : Option Char :=
  match letter with
  | '"' => some '"'
  | '\\' => some '\\'
  | '/' => some '/'
  | 'b' => some '\x08'
  | 'f' => some '\x0c'
  | 'n' => some '\n'
  | 'r' => some '\r'
  | 't' => some '\t'
  | _ => none

/-- The character of an escape, after its backslash. -/
def escape : List Char → Except Fault (Char × List Char)
  | [] => .error .unfinished
  | letter :: rest =>
      if letter = 'u' then unicodeEscape rest
      else
        match unescape? letter with
        | some char => .ok (char, rest)
        | none => .error .malformed

theorem codeUnit_length {chars rest : List Char} {unit : Nat}
    (read : codeUnit chars = .ok (unit, rest)) : rest.length ≤ chars.length := by
  unfold codeUnit at read
  split at read
  · cases read
  · split at read
    · cases read
    · split at read <;> cases read
      simp

theorem unicodeEscape_length {chars rest : List Char} {char : Char}
    (read : unicodeEscape chars = .ok (char, rest)) : rest.length ≤ chars.length := by
  obtain ⟨⟨unit, middle⟩, first, read⟩ := bind_eq_ok.1 read
  have firstLength := codeUnit_length first
  dsimp only at read
  split at read
  · cases read
  · split at read
    · split at read
      · cases read
      · cases read
      · obtain ⟨⟨unit', last⟩, second, read⟩ := bind_eq_ok.1 read
        have secondLength := codeUnit_length second
        dsimp only at read
        split at read
        · rw [← (Prod.mk.inj (Except.ok.inj read)).2]
          simp only [List.length_cons] at firstLength
          omega
        · cases read
      · cases read
    · cases read
      exact firstLength

theorem escape_length {chars rest : List Char} {char : Char}
    (read : escape chars = .ok (char, rest)) : rest.length < chars.length := by
  cases chars with
  | nil => cases read
  | cons letter tail =>
    simp only [escape] at read
    split at read
    · exact Nat.lt_succ_of_le (unicodeEscape_length read)
    · split at read <;> cases read
      simp

/-- The characters of a string up to its closing quote, after the opening quote. -/
def stringBody (chars : List Char) : Except Fault (List Char × List Char) :=
  match chars with
  | [] => .error .unfinished
  | char :: rest =>
      if char = '"' then .ok ([], rest)
      else if char = '\\' then
        match _escaped : escape rest with
        | .error fault => .error fault
        | .ok (char, after) => do
            let (body, rest) ← stringBody after
            .ok (char :: body, rest)
      else if char.toNat < 0x20 then .error .malformed
      else do
        let (body, rest) ← stringBody rest
        .ok (char :: body, rest)
termination_by chars.length
decreasing_by
  · have := escape_length _escaped
    simp only [List.length_cons]
    omega
  · simp

theorem stringBody_length {chars body rest : List Char}
    (read : stringBody chars = .ok (body, rest)) : rest.length < chars.length := by
  fun_induction stringBody chars generalizing body rest with
  | case1 => cases read
  | case2 =>
    cases read
    simp
  | case3 => cases read
  | case4 tail char after escaped _ ih =>
    obtain ⟨⟨found, last⟩, inner, read⟩ := bind_eq_ok.1 read
    cases read
    exact Nat.lt_succ_of_lt (Nat.lt_trans (ih inner) (escape_length escaped))
  | case5 => cases read
  | case6 char tail _ _ _ ih =>
    obtain ⟨⟨found, last⟩, inner, read⟩ := bind_eq_ok.1 read
    cases read
    exact Nat.lt_succ_of_lt (ih inner)

end Json

end SqlClient
