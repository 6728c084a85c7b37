import LogSift.Regex.Expr

/-!
Expressions that are nothing but a few short texts. These are looked for as they are, and no
automaton is built (`Expr.isFewTexts`). A search for many texts begins with what a match begins
with (`Opening`); where that is not the whole of a text, an automaton has to finish the match.
-/

namespace LogSift.Regex

/-- What a search looks for first: a text in UTF-8, which is a match if it is `whole`. -/
structure Opening where
  bytes : List UInt8
  whole : Bool := true
  deriving DecidableEq, Repr

namespace Opening

/-- Cuts an opening to a number of bytes. -/
def cut (count : Nat) (o : Opening) : Opening :=
  if o.bytes.length ≤ count then o else ⟨o.bytes.take count, false⟩

/-- Leaves out openings that begin with an earlier one. -/
def minimal (os : List Opening) : List Opening :=
  (os.foldl (fun kept o =>
    if kept.any fun k => k.bytes.isPrefixOf o.bytes then kept else o :: kept) []).reverse

/-- The bytes that two texts begin with alike. -/
def common : List UInt8 → List UInt8 → List UInt8
  | a :: as, b :: bs => if a = b then a :: common as bs else []
  | _, _ => []

/-- The bytes that all openings begin with. -/
def shared : List Opening → List UInt8
  | [] => []
  | o :: os => os.foldl (fun found o => common found o.bytes) o.bytes

/-- How common the bytes below 192 are in texts, from 0 to 255. -/
def commonnessTable : Array Nat :=
  #[55, 52, 51, 50, 49, 48, 47, 46, 45, 103, 242, 66, 67, 229, 44, 43,
    42, 41, 40, 39, 38, 37, 36, 35, 34, 33, 56, 32, 31, 30, 29, 28,
    255, 148, 164, 149, 136, 160, 155, 173, 221, 222, 134, 122, 232, 202, 215, 224,
    208, 220, 204, 187, 183, 179, 177, 168, 178, 200, 226, 195, 154, 184, 174, 126,
    120, 191, 157, 194, 170, 189, 162, 161, 150, 193, 142, 137, 171, 176, 185, 167,
    186, 112, 175, 192, 188, 156, 140, 143, 123, 133, 128, 147, 138, 146, 114, 223,
    151, 249, 216, 238, 236, 253, 227, 218, 230, 247, 135, 180, 241, 233, 246, 244,
    231, 139, 245, 243, 251, 235, 201, 196, 240, 214, 152, 182, 205, 181, 127, 27,
    212, 211, 210, 213, 228, 197, 169, 159, 131, 172, 105, 80, 98, 96, 97, 81,
    207, 145, 116, 115, 144, 130, 153, 121, 107, 132, 109, 110, 124, 111, 82, 108,
    118, 141, 113, 129, 119, 125, 165, 117, 92, 106, 83, 72, 99, 93, 65, 79,
    166, 237, 163, 199, 190, 225, 209, 203, 198, 217, 219, 206, 234, 248, 158, 239]

/-- How common a byte is in texts, from 0 to 255. -/
def commonness (b : UInt8) : Nat := commonnessTable.getD b.toNat 255

/-- Are openings worth looking for in place of the texts: few, longer than two bytes? -/
def areWorthwhile (os : List Opening) : Bool :=
  os.length ≤ 64 && os.all fun o => 2 < o.bytes.length

/-- Cuts openings to a number of bytes as long as there are more than a number of them, step by
    step. -/
def shorten : List (Nat × Nat) → List Opening → List Opening
  | [], os => os
  | (count, most) :: steps, os =>
    if os.length ≤ most then os else shorten steps (minimal (os.map (cut count)))

/-- The openings that a search for texts begins with: a rare byte that all begin with, a longer
    beginning of all, beginnings that are fewer than the texts, or the texts. -/
def ofTexts (texts : List (List UInt8)) : List Opening :=
  let os := minimal (texts.map fun bytes => { bytes })
  let alike := shared os
  let rare := alike.head?.any fun b => commonness b < 200
  if 1 < texts.length && alike.length ≤ 3 && rare then os.map (cut 1)
  else if 4 < alike.length || (1 < alike.length && 16 < os.length) then
    os.map (cut alike.length)
  else
    let fewer := shorten [(5, 10), (4, 10), (3, 64), (2, 64), (1, 10)] os
    if areWorthwhile fewer then fewer else os

end Opening

namespace Expr

/-- The texts of a set, if it has at most ten characters. -/
def textsOfSet? (s : Unicode.CharSet) : Option (List (List UInt8)) :=
  if 10 < (s.ranges.map fun r => r.2 + 1 - r.1).foldr (· + ·) 0 then none
  else
    some (s.ranges.flatMap fun (low, high) =>
      (List.range (high + 1 - low)).map fun k => String.utf8EncodeChar (Char.ofNat (low + k)))

/-- Every text of a list followed by every text of another, if these are at most 250 and none is
    longer than a hundred bytes. -/
def joinTexts? (first second : List (List UInt8)) : Option (List (List UInt8)) :=
  if 250 < first.length * second.length then none
  else
    let joined := first.flatMap fun a => second.map fun b => a ++ b
    if joined.all (·.length ≤ 100) then some joined.eraseReps else none

/-- The texts of two lists, if they are at most 250. -/
def addTexts? (first second : List (List UInt8)) : Option (List (List UInt8)) :=
  if first.length + second.length ≤ 250 then some (first ++ second).eraseReps else none

/-- The sets that an expression chooses between, if it is a choice between sets. -/
def choices? : Expr → Option (List Unicode.CharSet)
  | set s => some [s]
  | alt a b => do return (← a.choices?) ++ (← b.choices?)
  | _ => none

/-- The texts that an expression stands for, the preferred ones first; none if they are too many,
    or if it has conditions or groups. A choice between sets is taken for one set, unless it
    stands `beside` other alternatives. -/
def texts? (beside : Bool) : Expr → Option (List (List UInt8))
  | empty => some [[]]
  | set s => textsOfSet? s
  | look _ | capture _ _ _ => none
  | seq a b => do joinTexts? (← a.texts? false) (← b.texts? false)
  | alt a b =>
    match if beside then none else (alt a b).choices? with
    | some sets => textsOfSet? (.unionAll sets)
    | none => do addTexts? (← a.texts? false) (← b.texts? true)
  | repeated min max greedy body => do
    let once ← body.texts? false
    if min = 0 then
      if max ≠ some 1 then none
      else if greedy then addTexts? once [[]]
      else addTexts? [[]] once
    else if max = some min ∧ min ≤ 10 then
      (List.range min).foldlM (fun found _ => joinTexts? found once) [[]]
    else none

/-- Is the expression nothing but a few short texts, none of them empty, so that a search for
    their openings finds whole matches? -/
def isFewTexts (e : Expr) : Bool :=
  (e.texts? false).any fun texts =>
    !texts.isEmpty && texts.all (!·.isEmpty) && (Opening.ofTexts texts).all (·.whole)

end Expr

end LogSift.Regex
