import LogSift.Regex.Expr
import LogSift.Text.Utf8
import LogSift.Unicode.Letter

/-!
What is searched: a text, whose positions count characters, or bytes, whose positions count
bytes and where a character may begin anywhere. And what conditions say of positions in it.
-/

namespace LogSift.Regex

/-- A text or bytes with positions from 0 to `size`. -/
structure Subject where
  size : Nat
  /-- The character that begins at a position, and the position after it. -/
  next? : Nat → Option (Char × Nat)
  /-- The character that ends at a position. -/
  previous? : Nat → Option Char
  /-- The code point or byte after a position. -/
  unit? : Nat → Option Nat

namespace Subject

/-- A text, given by its characters. -/
def ofText (cs : Array Char) : Subject where
  size := cs.size
  next? p := cs[p]?.map fun c => (c, p + 1)
  previous? p := if p = 0 then none else cs[p - 1]?
  unit? p := cs[p]?.map Char.toNat

/-- The character that bytes end with, given from the last one back: it is looked for where a
    byte begins a character, three bytes back at most. -/
def decodeLast? (back : List UInt8) : Option Char :=
  let isTail (b : UInt8) : Bool := 0x80 ≤ b.toNat && b.toNat < 0xC0
  let tails := ((back.takeWhile isTail).take 3).length
  (Utf8.decode? (back.take (tails + 1)).reverse).map (·.1)

/-- For every position, the bytes after it. -/
def suffixes : List UInt8 → List (List UInt8)
  | [] => [[]]
  | b :: rest => (b :: rest) :: suffixes rest

/-- Bytes, in which the characters are those that make up UTF-8. -/
def ofBytes (bytes : List UInt8) : Subject :=
  let all := bytes.toArray
  let after := ((suffixes bytes).map fun suffix => Utf8.decode? (suffix.take 4)).toArray
  let before := (List.range (all.size + 1)).map (fun p =>
    decodeLast? (all.extract (p - 4) p).toList.reverse) |>.toArray
  { size := all.size
    next? := fun p => (after[p]?.join).map fun (c, width) => (c, p + width)
    previous? := fun p => before[p]?.join
    unit? := fun p => all[p]?.map UInt8.toNat }

/-- Is a code point or byte a word character of ASCII? -/
def isAsciiWord (n : Nat) : Bool :=
  (48 ≤ n && n ≤ 57) || (65 ≤ n && n ≤ 90) || n == 95 || (97 ≤ n && n ≤ 122)

/-- The code point or byte before a position. -/
def unitBefore? (s : Subject) (p : Nat) : Option Nat := if p = 0 then none else s.unit? (p - 1)

/-- Is there a word character after a position? -/
def wordAfter (s : Subject) (unicode : Bool) (p : Nat) : Bool :=
  if unicode then (s.next? p).any fun (c, _) => Unicode.isWord c else (s.unit? p).any isAsciiWord

/-- Is there a word character before a position? -/
def wordBefore (s : Subject) (unicode : Bool) (p : Nat) : Bool :=
  if unicode then (s.previous? p).any Unicode.isWord else (s.unitBefore? p).any isAsciiWord

/-- Is there an end of the subject or a whole character after a position? -/
def wholeAfter (s : Subject) (unicode : Bool) (p : Nat) : Bool :=
  !unicode || s.size ≤ p || (s.next? p).isSome

/-- Is there an end of the subject or a whole character before a position? -/
def wholeBefore (s : Subject) (unicode : Bool) (p : Nat) : Bool :=
  !unicode || p == 0 || (s.previous? p).isSome

end Subject

/-- Does a condition hold at a position? Conditions that deny a word do not hold beside bytes
    that make up no character. -/
def Look.holds (look : Look) (s : Subject) (p : Nat) : Bool :=
  let newline : Nat := 10
  let back : Nat := 13
  match look with
  | textStart => p == 0
  | textEnd => p == s.size
  | lineStart returns =>
    p == 0 || s.unitBefore? p == some newline ||
      (returns && s.unitBefore? p == some back && s.unit? p != some newline)
  | lineEnd returns =>
    p == s.size ||
      (if returns then
        s.unit? p == some back || (s.unit? p == some newline && s.unitBefore? p != some back)
      else s.unit? p == some newline)
  | wordBoundary u => s.wordBefore u p != s.wordAfter u p
  | noWordBoundary u =>
    s.wholeBefore u p && s.wholeAfter u p && s.wordBefore u p == s.wordAfter u p
  | wordStart u => !s.wordBefore u p && s.wordAfter u p
  | wordEnd u => s.wordBefore u p && !s.wordAfter u p
  | wordStartHalf u => s.wholeBefore u p && !s.wordBefore u p
  | wordEndHalf u => s.wholeAfter u p && !s.wordAfter u p

end LogSift.Regex
