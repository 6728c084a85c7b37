/-!
Floating-point numbers of 64 bits, kept as their bits. A finite number is a whole significand
times a power of two, and `ofRatio` rounds any ratio to the nearest number, a half to the even
significand.
-/

namespace LogSift.Decimal

/-- A number of the 64-bit binary floating-point format, as its bits. -/
structure Binary64 where
  bits : UInt64
  deriving DecidableEq, Repr, Inhabited

namespace Binary64

/-- The bits of infinity without a sign; numbers with larger ones are not numbers. -/
def infinityBits : Nat := 2047 * Nat.pow 2 52

/-- A number from its sign and the other 63 bits. -/
def ofParts (negative : Bool) (magnitude : Nat) : Binary64 :=
  ⟨.ofNat (magnitude + if negative then Nat.pow 2 63 else 0)⟩

/-- The bits without the sign. -/
def magnitude (x : Binary64) : Nat := x.bits.toNat % Nat.pow 2 63

def isNegative (x : Binary64) : Bool := Nat.pow 2 63 ≤ x.bits.toNat

def isNaN (x : Binary64) : Bool := infinityBits < x.magnitude

def isInfinite (x : Binary64) : Bool := x.magnitude == infinityBits

def isZero (x : Binary64) : Bool := x.magnitude == 0

def zero (negative : Bool) : Binary64 := ofParts negative 0

def infinity (negative : Bool) : Binary64 := ofParts negative infinityBits

def nan : Binary64 := ofParts false (infinityBits + Nat.pow 2 51)

/-- The number with the other sign. -/
def neg (x : Binary64) : Binary64 := ofParts (!x.isNegative) x.magnitude

/-- The significand of a finite number; its unit is `2 ^ x.exponent`. -/
def significand (x : Binary64) : Nat :=
  if x.magnitude < Nat.pow 2 52 then x.magnitude
  else x.magnitude % Nat.pow 2 52 + Nat.pow 2 52

/-- The exponent of a finite number, raised by 1074 so that it is natural. -/
def raisedExponent (x : Binary64) : Nat := x.magnitude / Nat.pow 2 52 - 1

/-- A finite number without its sign, as a numerator and a denominator. -/
def ratio (x : Binary64) : Nat × Nat :=
  (x.significand * Nat.pow 2 (x.raisedExponent - 1074), Nat.pow 2 (1074 - x.raisedExponent))

/-- The quotient of naturals at the nearest whole number, a half at the even one. -/
def roundDiv (num den : Nat) : Nat :=
  let quotient := num / den
  let twice := 2 * (num % den)
  if den < twice ∨ (twice = den ∧ quotient % 2 = 1) then quotient + 1 else quotient

/-- The number nearest to a ratio, a half going to the even significand; beyond the largest
    finite number it is infinity. -/
def ofRatio (negative : Bool) (num den : Nat) : Binary64 :=
  if num = 0 then zero negative
  else
    -- The ratio lies between the powers of two at `scale - 1` and `scale + 1`, less 1126.
    let scale := num.log2 + 1126 - den.log2
    let unit (raised : Nat) : Nat × Nat :=
      (num * Nat.pow 2 (1074 - raised), den * Nat.pow 2 (raised - 1074))
    let first := scale - 104
    let (top, bottom) := unit first
    let raised := if top / bottom < Nat.pow 2 52 then first - 1 else first
    let (top, bottom) := unit raised
    ofParts negative (min (raised * Nat.pow 2 52 + roundDiv top bottom) infinityBits)

/-- The number nearest to a whole number. -/
def ofInt (n : Int) : Binary64 := ofRatio (n < 0) n.natAbs 1

/-- The product of finite numbers without their signs. -/
def mul (x y : Binary64) : Binary64 :=
  ofRatio false (x.ratio.1 * y.ratio.1) (x.ratio.2 * y.ratio.2)

/-- The quotient of finite numbers without their signs, the second not zero. -/
def div (x y : Binary64) : Binary64 :=
  ofRatio false (x.ratio.1 * y.ratio.2) (x.ratio.2 * y.ratio.1)

/-- The number nearest to `digits * 10 ^ exponent`. Beyond 400 places from the point every
    number is infinite or zero. -/
def ofDecimal (negative : Bool) (digits : Nat) (exponent : Int) : Binary64 :=
  let places := (digits.log2 * 3 / 10 : Nat) + exponent
  if digits = 0 ∨ places < -400 then zero negative
  else if 400 < places then infinity negative
  else ofRatio negative (digits * Nat.pow 10 exponent.toNat) (Nat.pow 10 (-exponent).toNat)

end Binary64

end LogSift.Decimal
