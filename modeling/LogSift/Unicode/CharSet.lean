/-!
Sets of characters, kept as ascending ranges of scalar values, with the algebra that bracketed
classes and Unicode properties need. Large sets are written down as numbers: `ofBlocks` reads them.
-/

namespace LogSift.Unicode

/-- A set of characters: inclusive ranges of scalar values, ascending and apart. -/
structure CharSet where
  ranges : List (Nat × Nat)
  deriving DecidableEq, Repr, Inhabited

namespace CharSet

/-- The largest scalar value. -/
def maxScalar : Nat := 0x10FFFF

def empty : CharSet := ⟨[]⟩

/-- Every scalar value. -/
def all : CharSet := ⟨[(0, 0xD7FF), (0xE000, maxScalar)]⟩

/-- Does one of ascending ranges hold the code point? The search ends at the first range beyond it. -/
def holds (n : Nat) : List (Nat × Nat) → Bool
  | [] => false
  | (low, high) :: rest => if n < low then false else if n ≤ high then true else holds n rest

/-- Membership of a code point. -/
def containsNat (s : CharSet) (n : Nat) : Bool := holds n s.ranges

def contains (s : CharSet) (c : Char) : Bool := s.containsNat c.toNat

def isEmpty (s : CharSet) : Bool := s.ranges.isEmpty

/-- Joins a range to the ranges after it, in ascending order of their lower ends, where they
    touch or overlap. -/
def join (low high : Nat) : List (Nat × Nat) → List (Nat × Nat)
  | [] => [(low, high)]
  | (low', high') :: rest =>
    if low' ≤ high + 1 then join low (max high high') rest else (low, high) :: join low' high' rest

/-- The set of the code points of any ranges. -/
def ofRanges (ranges : List (Nat × Nat)) : CharSet :=
  match ranges.mergeSort fun a b => a.1 ≤ b.1 with
  | [] => empty
  | (low, high) :: rest => ⟨join low high rest⟩

def ofRange (low high : Char) : CharSet := ⟨[(low.toNat, high.toNat)]⟩

def singleton (c : Char) : CharSet := ofRange c c

def ofChars (cs : List Char) : CharSet := ofRanges (cs.map fun c => (c.toNat, c.toNat))

def union (s t : CharSet) : CharSet :=
  if s.isEmpty then t else if t.isEmpty then s else ofRanges (s.ranges ++ t.ranges)

def unionAll (sets : List CharSet) : CharSet := ofRanges (sets.flatMap (·.ranges))

/-- The part of a range inside another, if there is any. -/
def overlap (a b : Nat × Nat) : Option (Nat × Nat) :=
  if max a.1 b.1 ≤ min a.2 b.2 then some (max a.1 b.1, min a.2 b.2) else none

def inter (s t : CharSet) : CharSet :=
  ⟨s.ranges.flatMap fun a => t.ranges.filterMap (overlap a)⟩

/-- The ranges that ascending ranges leave free, from a code point upward. -/
def gaps (start : Nat) : List (Nat × Nat) → List (Nat × Nat)
  | [] => if start ≤ maxScalar then [(start, maxScalar)] else []
  | (low, high) :: rest =>
    if start < low then (start, low - 1) :: gaps (high + 1) rest else gaps (high + 1) rest

/-- The scalar values outside the set. -/
def complement (s : CharSet) : CharSet := all.inter ⟨gaps 0 s.ranges⟩

def diff (s t : CharSet) : CharSet := s.inter t.complement

/-- What belongs to exactly one of two sets. -/
def symmDiff (s t : CharSet) : CharSet := (s.diff t).union (t.diff s)

/-- Reads numbers from the hexadecimal digits of a block, last digit first. A digit carries three
    bits of its number, least first, and its high bit says that the number goes on. The block
    ends at its first digit, which is a 1. -/
def readNumbers (fuel scale sum block : Nat) : List Nat :=
  match fuel with
  | 0 => []
  | fuel + 1 =>
    if block ≤ 1 then []
    else if block % 16 < 8 then (sum + scale * (block % 16)) :: readNumbers fuel 1 0 (block / 16)
    else readNumbers fuel (scale * 8) (sum + scale * (block % 16 - 8)) (block / 16)

/-- The numbers of blocks of at most a hundred digits. -/
def numbers (blocks : List Nat) : List Nat := blocks.flatMap (readNumbers 100 1 0)

/-- Reads ranges from pairs of numbers: what lies between a range and the one before it, and
    how far the range reaches beyond its first code point. -/
def readRanges (start : Nat) : List Nat → List (Nat × Nat)
  | gap :: extent :: rest =>
    (start + gap, start + gap + extent) :: readRanges (start + gap + extent + 1) rest
  | _ => []

/-- The set that blocks of numbers stand for (`readNumbers`, `readRanges`). -/
def ofBlocks (blocks : List Nat) : CharSet := ⟨readRanges 0 (numbers blocks)⟩

end CharSet

end LogSift.Unicode
