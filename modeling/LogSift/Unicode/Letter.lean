import LogSift.Unicode.Category
import LogSift.Unicode.Property

/-!
The classes of single characters that names, tokens and pattern listings are made of. ASCII
characters are decided without the tables. Tokens, like sets in expressions, follow version 16 of
Unicode; the names of groups and of patterns in listings follow version 17.
-/

namespace LogSift.Unicode

/-- The alphabetic characters that version 17 of Unicode added. -/
def newAlphabetic : CharSet := .ofBlocks
  [0x11ea1c92d2c9971c88944be3823858b8c5b1998769cc16a22ddb3968d9e03c0102119dbe901ff01f9c04a9f,
   0x118b995ac8a1b1bdca51d88fa1182d13e5cb9d]

/-- The numbers that version 17 of Unicode added. -/
def newNumbers : CharSet := ⟨[(0x11DE0, 0x11DE9), (0x16FF4, 0x16FF6)]⟩

/-- Is the character of the property Alphabetic? -/
def isAlphabetic (c : Char) : Bool :=
  if c.toNat < 128 then c.isAlpha else Property.alphabetic.contains c || newAlphabetic.contains c

/-- Does the character have one of the categories of numbers? -/
def isNumeric (c : Char) : Bool :=
  if c.toNat < 128 then c.isDigit
  else Category.decimalNumber.contains c || Category.letterNumber.contains c ||
    Category.otherNumber.contains c || newNumbers.contains c

def isAlphanumeric (c : Char) : Bool := isAlphabetic c || isNumeric c

/-- Is the character part of words: alphabetic, a mark, a decimal digit, connector punctuation
    or a join control? -/
def isWord (c : Char) : Bool :=
  if c.toNat < 128 then c.isAlphanum || c == '_'
  else Property.alphabetic.contains c || Category.nonspacingMark.contains c ||
    Category.spacingMark.contains c || Category.enclosingMark.contains c ||
    Category.decimalNumber.contains c || Category.connectorPunctuation.contains c ||
    Property.joinControl.contains c

/-- The set of the characters that are part of words. -/
def wordSet : CharSet :=
  .unionAll [Property.alphabetic, Category.mark, Category.decimalNumber,
    Category.connectorPunctuation, Property.joinControl]

/-- Is the character white space? -/
def isBlank (c : Char) : Bool :=
  let n := c.toNat
  (9 ≤ n && n ≤ 13) || n == 32 || n == 0x85 || n == 0xA0 || n == 0x1680 ||
    (0x2000 ≤ n && n ≤ 0x200A) || n == 0x2028 || n == 0x2029 || n == 0x202F || n == 0x205F ||
    n == 0x3000

/-- The numbers of the characters that are white space. -/
def blanks : List Nat :=
  List.range' 9 5 ++ [32, 0x85, 0xA0, 0x1680] ++ List.range' 0x2000 11 ++
    [0x2028, 0x2029, 0x202F, 0x205F, 0x3000]

theorem mem_blanks {c : Char} (blank : isBlank c = true) : c.toNat ∈ blanks := by
  simp only [blanks, List.mem_append, List.mem_range'_1, List.mem_cons, List.not_mem_nil, or_false]
  simp only [isBlank, Bool.or_eq_true, Bool.and_eq_true, decide_eq_true_eq, beq_iff_eq] at blank
  omega

end LogSift.Unicode
