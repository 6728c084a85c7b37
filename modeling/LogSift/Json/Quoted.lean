import LogSift.Text.Digits

/-!
Quoted text of JSON: how it is written, and how it is read after its opening quotation mark.
-/

namespace LogSift.Json.Quoted

/-- How a character is written: quotation marks, backslashes and control characters as escapes. -/
def escape (c : Char) : List Char :=
  if c = '"' then ['\\', '"']
  else if c = '\\' then ['\\', '\\']
  else if c = '\n' then ['\\', 'n']
  else if c = '\r' then ['\\', 'r']
  else if c = '\t' then ['\\', 't']
  else if c.toNat = 8 then ['\\', 'b']
  else if c.toNat = 12 then ['\\', 'f']
  else if c.toNat < 32 then
    ['\\', 'u', '0', '0', Digits.ofValue (c.toNat / 16), Digits.ofValue (c.toNat % 16)]
  else [c]

/-- A text as it is written, between quotation marks. -/
def write (text : List Char) : List Char := '"' :: text.flatMap escape ++ ['"']

/-- The character of a short escape. -/
def short? (c : Char) : Option Nat :=
  match c with
  | '"' => some 34
  | '\\' => some 92
  | '/' => some 47
  | 'b' => some 8
  | 'f' => some 12
  | 'n' => some 10
  | 'r' => some 13
  | 't' => some 9
  | _ => none

/-- Reads up to the closing quotation mark. Gives the code points and what follows the mark; an
    escape may stand for one half of a pair of surrogates. No control character stands for
    itself. -/
def read : List Char → Option (List Nat × List Char)
  | [] => none
  | '"' :: rest => some ([], rest)
  | '\\' :: 'u' :: a :: b :: c :: d :: rest =>
    match Digits.read? 16 [a, b, c, d] with
    | none => none
    | some n => (read rest).map fun (more, rest) => (n :: more, rest)
  | '\\' :: c :: rest =>
    match short? c with
    | none => none
    | some n => (read rest).map fun (more, rest) => (n :: more, rest)
  | c :: rest =>
    if c.toNat < 32 ∨ c = '\\' then none
    else (read rest).map fun (more, rest) => (c.toNat :: more, rest)

/-- The text of code points, where two halves of a pair make up one character; a half without
    its partner makes up none. -/
def join : List Nat → Option (List Char)
  | [] => some []
  | n :: rest =>
    if 0xD800 ≤ n ∧ n < 0xDC00 then
      match rest with
      | m :: rest =>
        if 0xDC00 ≤ m ∧ m < 0xE000 then
          (join rest).map (Char.ofNat (0x10000 + (n - 0xD800) * 1024 + (m - 0xDC00)) :: ·)
        else none
      | [] => none
    else if 0xDC00 ≤ n ∧ n < 0xE000 then none
    else (join rest).map (Char.ofNat n :: ·)

end LogSift.Json.Quoted
