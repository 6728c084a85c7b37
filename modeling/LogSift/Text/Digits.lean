/-!
Digits of any base up to sixteen, and the numbers they make up.
-/

namespace LogSift.Digits

/-- The value of a digit. Digits beyond nine are letters of either case. -/
def value? (c : Char) : Option Nat :=
  if '0' ≤ c ∧ c ≤ '9' then some (c.toNat - '0'.toNat)
  else if 'a' ≤ c ∧ c ≤ 'f' then some (c.toNat - 'a'.toNat + 10)
  else if 'A' ≤ c ∧ c ≤ 'F' then some (c.toNat - 'A'.toNat + 10)
  else none

/-- The digit of a value below sixteen, as a small letter beyond nine. -/
def ofValue (n : Nat) : Char := if n < 10 then Char.ofNat (48 + n) else Char.ofNat (87 + n)

/-- The number of digit values, the first one counting most. -/
def combine (base : Nat) (values : List Nat) : Nat :=
  values.foldl (fun sum d => sum * base + d) 0

/-- The number of digits of a base, at least one of them. -/
def read? (base : Nat) (cs : List Char) : Option Nat :=
  if cs.isEmpty then none
  else
    (cs.mapM fun c => (value? c).filter (· < base)).map (combine base)

/-- The value of decimal digits, read after a number `sum`. -/
def decimal (sum : Nat) : List Char → Nat
  | [] => sum
  | c :: rest => decimal (sum * 10 + (c.toNat - '0'.toNat)) rest

end LogSift.Digits
