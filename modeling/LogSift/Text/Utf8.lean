/-!
UTF-8: characters read from bytes, and lossy reading, which puts a replacement character where
bytes do not make up a character.
-/

namespace LogSift.Utf8

/-- What may follow the first byte of a character: the number of further bytes, the least and
    the greatest second byte, and the bits that the first byte gives to the character. A byte
    that begins no character has none. -/
def lead? (b : UInt8) : Option (Nat × Nat × Nat × Nat) :=
  let n := b.toNat
  if n < 0x80 then some (0, 0, 0, n)
  else if n < 0xC2 then none
  else if n < 0xE0 then some (1, 0x80, 0xBF, n - 0xC0)
  else if n < 0xF0 then
    some (2, if n = 0xE0 then 0xA0 else 0x80, if n = 0xED then 0x9F else 0xBF, n - 0xE0)
  else if n < 0xF5 then
    some (3, if n = 0xF0 then 0x90 else 0x80, if n = 0xF4 then 0x8F else 0xBF, n - 0xF0)
  else none

/-- Reads the further bytes of a character: its bits, how many bytes fit, and the bytes after
    them; the flag says whether the character is whole. -/
def tail (count low high bits : Nat) (fit : Nat) : List UInt8 → Bool × Nat × Nat × List UInt8
  | [] => (count == 0, bits, fit, [])
  | b :: rest =>
    match count with
    | 0 => (true, bits, fit, b :: rest)
    | count + 1 =>
      let n := b.toNat
      if low ≤ n ∧ n ≤ high then tail count 0x80 0xBF (bits * 64 + n % 64) (fit + 1) rest
      else (false, bits, fit, b :: rest)

/-- The character that bytes begin with and the number of its bytes. -/
def decode? : List UInt8 → Option (Char × Nat)
  | [] => none
  | b :: rest =>
    match lead? b with
    | none => none
    | some (count, low, high, bits) =>
      match tail count low high bits 1 rest with
      | (true, bits, width, _) => some (Char.ofNat bits, width)
      | _ => none

/-- The bytes of the first character, or the longest beginning of one that is broken off, or one
    byte that begins none; with the bytes after it. There are no bytes only where none are left. -/
def chunk : List UInt8 → Option (Option Char × List UInt8)
  | [] => none
  | b :: rest =>
    match lead? b with
    | none => some (none, rest)
    | some (count, low, high, bits) =>
      match tail count low high bits 1 rest with
      | (true, bits, _, rest) => some (some (Char.ofNat bits), rest)
      | (false, _, _, rest) => some (none, rest)

/-- Reads characters one after another; `fuel` bounds their number. -/
def chunks (fuel : Nat) (bytes : List UInt8) : List (Option Char) :=
  match fuel with
  | 0 => []
  | fuel + 1 =>
    match chunk bytes with
    | none => []
    | some (c, rest) => c :: chunks fuel rest

/-- What a lossy reading puts for bytes that make up no character. -/
def replacement : Char := Char.ofNat 0xFFFD

/-- The text of bytes, with a replacement character for every broken part. -/
def decodeLossy (bytes : List UInt8) : String :=
  .ofList ((chunks bytes.length bytes).map fun c => c.getD replacement)

/-- The text of bytes that are UTF-8 throughout. -/
def decodeText? (bytes : List UInt8) : Option String :=
  ((chunks bytes.length bytes).mapM id).map String.ofList

/-- The bytes of a text. -/
def encode (text : String) : List UInt8 := text.toUTF8.toList

end LogSift.Utf8
