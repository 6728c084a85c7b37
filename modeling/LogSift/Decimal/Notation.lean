import LogSift.Decimal.Shortest

/-!
How numbers are written. Whole numbers are written in decimal digits; floating-point numbers
either always positionally, as values are shown, or with an exponent where the positional form
would be long, as in JSON.
-/

namespace LogSift.Decimal

/-- The character of a digit below ten. -/
def digitChar (d : Nat) : Char := Char.ofNat ('0'.toNat + d)

/-- The decimal digits of a whole number. -/
def natDigits (n : Nat) : List Char :=
  if n < 10 then [digitChar n] else natDigits (n / 10) ++ [digitChar (n % 10)]

def intDigits (n : Int) : List Char :=
  if n < 0 then '-' :: natDigits n.natAbs else natDigits n.natAbs

/-- The text of a whole number. -/
def showNat (n : Nat) : String := .ofList (natDigits n)

def showInt (n : Int) : String := .ofList (intDigits n)

namespace Binary64

/-- Digits with the point after the first `point` of them, and zeros where digits are missing.
    `whole` tells how a number without a fraction ends. -/
def positional (x : Digits) (whole : String) : String :=
  let ds := natDigits x.digits
  if x.point ≤ 0 then
    .ofList ("0.".toList ++ List.replicate (-x.point).toNat '0' ++ ds)
  else
    let n := x.point.toNat
    if ds.length ≤ n then .ofList (ds ++ List.replicate (n - ds.length) '0') ++ whole
    else .ofList (ds.take n ++ '.' :: ds.drop n)

/-- The first digit, the other digits after a point, and the power of ten with its sign. -/
def exponential (x : Digits) : String :=
  let ds := natDigits x.digits
  let fraction := if ds.length ≤ 1 then [] else '.' :: ds.drop 1
  let power := x.point - 1
  let sign := if power < 0 then ['-'] else ['+']
  .ofList (ds.take 1 ++ fraction ++ 'e' :: sign ++ natDigits power.natAbs)

/-- A value as it is shown: the shortest digits, never an exponent, and no fraction for a whole
    number. Equally near digits go up. -/
def display (x : Binary64) : String :=
  if x.isNaN then "NaN"
  else
    let sign := if x.isNegative then "-" else ""
    let body :=
      if x.isInfinite then "inf"
      else if x.isZero then "0"
      else positional (Shortest.ofBinary64 x .up) ""
    sign ++ body

/-- A value in JSON: the shortest digits, with a fraction from 1e-5 up to below 1e16 and with an
    exponent elsewhere. What is no finite number is `null`. -/
def json (x : Binary64) : String :=
  if x.isNaN || x.isInfinite then "null"
  else
    let sign := if x.isNegative then "-" else ""
    let body :=
      if x.isZero then "0.0"
      else
        let digits := Shortest.ofBinary64 x .toEven
        if -4 ≤ digits.point ∧ digits.point ≤ 16 then positional digits ".0"
        else exponential digits
    sign ++ body

end Binary64

end LogSift.Decimal
