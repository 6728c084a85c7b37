import LogSift.Decimal.Binary64

/-!
The shortest decimal digits that read back as a given floating-point number, found by exact
arithmetic: on the grids of one digit, two digits, and so on, the first grid with a point that
rounds to the number gives the digits, and of two such points the nearer one does.
-/

namespace LogSift.Decimal

/-- Which of two equally near points is taken. -/
inductive Tie where
  | up
  | toEven
  deriving DecidableEq, Repr

/-- A positive decimal number: digits without a leading zero, read as `0.digits * 10 ^ point`. -/
structure Digits where
  digits : Nat
  point : Int
  deriving DecidableEq, Repr

namespace Shortest

/-- A ratio scaled by a power of ten. -/
def scaled (num den : Nat) (exponent : Int) : Nat × Nat :=
  (num * Nat.pow 10 exponent.toNat, den * Nat.pow 10 (-exponent).toNat)

/-- Does a whole number of grid units round to the number? `(num, den)` is the number in grid
    units and `gap` the distance to its upper neighbour over the same denominator. The lower
    neighbour is half as far at a power of two; the ends count when the significand is even. -/
def roundsTo (num den gap : Nat) (nearBelow even : Bool) (n : Nat) : Bool :=
  let below := if nearBelow then gap else 2 * gap
  let low := 4 * num - below
  let high := 4 * num + 2 * gap
  let point := 4 * n * den
  if even then low ≤ point && point ≤ high else low < point && point < high

/-- The point of one grid that rounds to the number and is nearest to it. -/
def onGrid (num den gap : Nat) (nearBelow even : Bool) (tie : Tie) : Option Nat :=
  let floor := num / den
  let fits := roundsTo num den gap nearBelow even
  match fits floor, fits (floor + 1) with
  | true, true =>
    let twice := 2 * (num % den)
    let upper := den < twice ∨ twice = den ∧ (tie = .up ∨ floor % 2 = 1)
    some (if upper then floor + 1 else floor)
  | true, false => some floor
  | false, true => some (floor + 1)
  | false, false => none

/-- Tries the grids of `count` digits and more, `fuel` of them. The number lies below
    `10 ^ point` and not below `10 ^ (point - 1)`. -/
def search (x : Binary64) (tie : Tie) (point : Int) (fuel count : Nat) : Digits :=
  let nearBelow := x.significand == Nat.pow 2 52 && x.raisedExponent != 0
  let even := x.significand % 2 == 0
  let (num, den) := scaled x.ratio.1 x.ratio.2 (count - point)
  let gap := num / x.significand
  match fuel with
  | 0 => ⟨num / den, point⟩
  | fuel + 1 =>
    match onGrid num den gap nearBelow even tie with
    | some n => if n = Nat.pow 10 count then ⟨1, point + 1⟩ else ⟨n, point⟩
    | none => search x tie point fuel (count + 1)

/-- The power of ten just above a positive ratio: the least `p` with `num / den < 10 ^ p`. -/
def pointOf (num den : Nat) : Int :=
  let guess : Int := ((num.log2 : Int) - den.log2) * 30103 / 100000 - 1
  let above (p : Int) : Bool := num * Nat.pow 10 (-p).toNat < den * Nat.pow 10 p.toNat
  if above guess then guess
  else if above (guess + 1) then guess + 1
  else if above (guess + 2) then guess + 2
  else guess + 3

/-- A whole number without its trailing zeros. -/
def strip (fuel n : Nat) : Nat :=
  match fuel with
  | 0 => n
  | fuel + 1 => if n % 10 = 0 ∧ n ≠ 0 then strip fuel (n / 10) else n

/-- The shortest digits of a finite number other than zero. -/
def ofBinary64 (x : Binary64) (tie : Tie) : Digits :=
  let found := search x tie (pointOf x.ratio.1 x.ratio.2) 17 1
  { found with digits := strip 20 found.digits }

end Shortest

end LogSift.Decimal
