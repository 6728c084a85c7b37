import LogSift.Decimal.Binary64
import LogSift.Text.Digits

/-!
Numbers of JSON as they are written, and their values. Whole numbers of 64 bits are kept exactly.
Every other number becomes a floating-point number from the digits that fit a significand of 64
bits; the digits after those only move the point, or are dropped after the point.
-/

namespace LogSift.Json

open Decimal (Binary64)

/-- A number as it is written. -/
structure Number where
  negative : Bool
  whole : List Char
  fraction : Option (List Char)
  /-- Is the exponent negative, and its digits. -/
  exponent : Option (Bool × List Char)
  deriving DecidableEq, Repr

namespace Number

/-- Reads the digits of a whole part: a zero stands alone. -/
def readWhole (cs : List Char) : Option (List Char × List Char) :=
  match cs with
  | '0' :: rest => if (rest.head?.any Char.isDigit) then none else some (['0'], rest)
  | cs =>
    let digits := cs.takeWhile Char.isDigit
    if digits.isEmpty then none else some (digits, cs.dropWhile Char.isDigit)

/-- Reads digits, at least one. -/
def readDigits (cs : List Char) : Option (List Char × List Char) :=
  let digits := cs.takeWhile Char.isDigit
  if digits.isEmpty then none else some (digits, cs.dropWhile Char.isDigit)

/-- Reads a point with digits, if there is one. -/
def readFraction : List Char → Option (Option (List Char) × List Char)
  | '.' :: rest => (readDigits rest).map fun (digits, rest) => (some digits, rest)
  | cs => some (none, cs)

/-- Reads an exponent, if there is one. -/
def readExponent : List Char → Option (Option (Bool × List Char) × List Char)
  | e :: rest =>
    if e = 'e' ∨ e = 'E' then
      let (negative, rest) : Bool × List Char :=
        match rest with
        | '-' :: rest => (true, rest)
        | '+' :: rest => (false, rest)
        | rest => (false, rest)
      (readDigits rest).map fun (digits, rest) => (some (negative, digits), rest)
    else some (none, e :: rest)
  | [] => some (none, [])

/-- Reads a number. -/
def read (cs : List Char) : Option (Number × List Char) := do
  let (negative, cs) : Bool × List Char :=
    match cs with
    | '-' :: rest => (true, rest)
    | cs => (false, cs)
  let (whole, cs) ← readWhole cs
  let (fraction, cs) ← readFraction cs
  let (exponent, cs) ← readExponent cs
  return (⟨negative, whole, fraction, exponent⟩, cs)

/-- Is the number written without fraction and exponent? -/
def isWhole (n : Number) : Bool := n.fraction.isNone && n.exponent.isNone

/-- The value of the whole part. -/
def magnitude (n : Number) : Nat := Digits.decimal 0 n.whole

/-- A natural number of 64 bits. -/
def asNat? (n : Number) : Option Nat :=
  if n.isWhole ∧ !n.negative ∧ n.magnitude < Nat.pow 2 64 then some n.magnitude else none

/-- Takes digits of the whole part into a significand until one does not fit; every digit from
    there on raises the exponent. -/
def takeWhole (significand exponent : Nat) : List Char → Nat × Nat
  | [] => (significand, exponent)
  | c :: rest =>
    let next := significand * 10 + (c.toNat - '0'.toNat)
    if exponent = 0 ∧ next < Nat.pow 2 64 then takeWhole next 0 rest
    else takeWhole significand (exponent + 1) rest

/-- Takes digits of the fraction into a significand, each lowering the exponent, until one does
    not fit; the rest is dropped. -/
def takeFraction (significand : Nat) (exponent : Int) : List Char → Nat × Int
  | [] => (significand, exponent)
  | c :: rest =>
    let next := significand * 10 + (c.toNat - '0'.toNat)
    if next < Nat.pow 2 64 then takeFraction next (exponent - 1) rest else (significand, exponent)

/-- A power of ten as a floating-point number. -/
def powerOfTen (n : Nat) : Binary64 := .ofRatio false (Nat.pow 10 n) 1

/-- A significand with a negative exponent: it is divided by powers of ten of at most 308. -/
def divide (x : Binary64) (fuel exponent : Nat) : Binary64 :=
  match fuel with
  | 0 => x
  | fuel + 1 =>
    if exponent ≤ 308 then x.div (powerOfTen exponent)
    else if x.isZero then x
    else divide (x.div (powerOfTen 308)) fuel (exponent - 308)

/-- A significand times a power of ten; no number beyond the finite ones. -/
def scale (significand : Nat) (exponent : Int) : Option Binary64 :=
  let x := Binary64.ofRatio false significand 1
  if exponent < 0 then some (divide x 8 exponent.natAbs)
  else if x.isZero then some x
  else if 308 < exponent then none
  else
    let product := x.mul (powerOfTen exponent.natAbs)
    if product.isInfinite then none else some product

/-- The value as a floating-point number, if it is finite. -/
def asFloat? (n : Number) : Option Binary64 :=
  let (significand, raised) := takeWhole 0 0 n.whole
  let (significand, exponent) := takeFraction significand raised (n.fraction.getD [])
  let given : Int :=
    match n.exponent with
    | none => 0
    | some (negative, digits) =>
      let value : Int := Digits.decimal 0 digits
      if negative then -value else value
  (scale significand (exponent + given)).map fun x => if n.negative then x.neg else x

end Number

end LogSift.Json
