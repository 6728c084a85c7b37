import LogSift.Decimal.Binary64
import LogSift.Text.Digits

/-!
Numbers read from text: whole numbers of 64 bits with a sign, floating-point numbers, and truth
values. Each reader says why it refuses a text.
-/

namespace LogSift.Decimal

/-- Why a text is no number or truth value of the wanted kind. -/
inductive ReadError where
  | emptyInteger
  | invalidDigit
  | tooLarge
  | tooSmall
  | emptyFloat
  | invalidFloat
  | notBoolean
  deriving DecidableEq, Repr

/-- The reason as it is shown. -/
def ReadError.message : ReadError → String
  | .emptyInteger => "cannot parse integer from empty string"
  | .invalidDigit => "invalid digit found in string"
  | .tooLarge => "number too large to fit in target type"
  | .tooSmall => "number too small to fit in target type"
  | .emptyFloat => "cannot parse float from empty string"
  | .invalidFloat => "invalid float literal"
  | .notBoolean => "provided string was not `true` or `false`"

/-- The value of a decimal digit. -/
def digitValue? (c : Char) : Option Nat :=
  if '0' ≤ c ∧ c ≤ '9' then some (c.toNat - '0'.toNat) else none

/-- Reads digits after a number `sum` of digits already read. The first character that is no
    digit, or that takes the number past the limit, decides the error. -/
def readDigits (limit : Nat) (overflow : ReadError) (sum : Nat) : List Char → Except ReadError Nat
  | [] => .ok sum
  | c :: rest =>
    match digitValue? c with
    | none => .error .invalidDigit
    | some d =>
      if limit < sum * 10 + d then .error overflow
      else readDigits limit overflow (sum * 10 + d) rest

/-- Digits, at least one of them. -/
def readMagnitude (limit : Nat) (overflow : ReadError) : List Char → Except ReadError Nat
  | [] => .error .invalidDigit
  | cs => readDigits limit overflow 0 cs

/-- A whole number of 64 bits: an optional sign and digits. -/
def readInteger : List Char → Except ReadError Int
  | [] => .error .emptyInteger
  | '-' :: rest => (readMagnitude (Nat.pow 2 63) .tooSmall rest).map fun n : Nat => -(n : Int)
  | '+' :: rest => (readMagnitude (Nat.pow 2 63 - 1) .tooLarge rest).map fun n : Nat => (n : Int)
  | cs => (readMagnitude (Nat.pow 2 63 - 1) .tooLarge cs).map fun n : Nat => (n : Int)

/-- The exponent part of a number, zero where there is none. -/
def readExponent : List Char → Option Int
  | [] => some 0
  | e :: rest =>
    if e != 'e' && e != 'E' then none
    else
      let (negative, digits) : Bool × List Char :=
        match rest with
        | '-' :: digits => (true, digits)
        | '+' :: digits => (false, digits)
        | digits => (false, digits)
      if digits.isEmpty || !digits.all Char.isDigit then none
      else some (if negative then -(Digits.decimal 0 digits : Int) else Digits.decimal 0 digits)

/-- A number without its sign: digits around an optional point, at least one of them, and an
    optional exponent; or one of the names of infinity and of what is not a number. -/
def readUnsigned (negative : Bool) (cs : List Char) : Option Binary64 :=
  let word := cs.map Char.toLower
  if word = "inf".toList ∨ word = "infinity".toList then some (.infinity negative)
  else if word = "nan".toList then some .nan
  else
    let whole := cs.takeWhile Char.isDigit
    let rest := cs.dropWhile Char.isDigit
    let (fraction, rest) : List Char × List Char :=
      match rest with
      | '.' :: more => (more.takeWhile Char.isDigit, more.dropWhile Char.isDigit)
      | rest => ([], rest)
    if whole.isEmpty && fraction.isEmpty then none
    else (readExponent rest).map fun exponent =>
      .ofDecimal negative (Digits.decimal 0 (whole ++ fraction)) (exponent - fraction.length)

/-- A floating-point number: the one nearest to what the text says. -/
def readFloat : List Char → Except ReadError Binary64
  | [] => .error .emptyFloat
  | cs =>
    let result :=
      match cs with
      | '-' :: rest => readUnsigned true rest
      | '+' :: rest => readUnsigned false rest
      | cs => readUnsigned false cs
    match result with
    | some x => .ok x
    | none => .error .invalidFloat

/-- A truth value: exactly `true` or `false`. -/
def readBool (text : String) : Except ReadError Bool :=
  if text = "true" then .ok true
  else if text = "false" then .ok false
  else .error .notBoolean

end LogSift.Decimal
