import LogSift.Error
import LogSift.Unicode.Letter

/-!
Listings of definitions: a name and a body on each line, with blank between them. Blank lines
and lines that start with a number sign are skipped, and one bad line refuses the listing.
-/

namespace LogSift.Listing

open Unicode (isBlank isAlphanumeric)

/-- What a line of a listing says. -/
inductive Line where
  | skipped
  | definition (name body : String)
  | malformed
  deriving DecidableEq, Repr

/-- The lines of a text, parted by newlines. -/
def lines : List Char → List (List Char)
  | [] => [[]]
  | c :: rest =>
    if c = '\n' then [] :: lines rest
    else
      match lines rest with
      | [] => [[c]]
      | first :: more => (c :: first) :: more

/-- A line without the carriage returns it ends with. -/
def trimReturns (line : List Char) : List Char :=
  (line.reverse.dropWhile (· == '\r')).reverse

/-- May the character stand in the name of a definition? -/
def isNameChar (c : Char) : Bool := isAlphanumeric c || c == '_'

/-- Reads a line without leading blank and trailing carriage returns. -/
def readTrimmed (line : List Char) : Line :=
  match line with
  | [] => .skipped
  | '#' :: _ => .skipped
  | _ =>
    let name := line.takeWhile fun c => !isBlank c
    let body := (line.dropWhile fun c => !isBlank c).dropWhile isBlank
    if body.isEmpty || !name.all isNameChar then .malformed
    else .definition (.ofList name) (.ofList body)

def readLine (line : List Char) : Line := readTrimmed ((trimReturns line).dropWhile isBlank)

/-- Reads lines, the first of which has the given number. -/
def readLines (number : Nat) : List (List Char) → Except Error (List (String × String))
  | [] => .ok []
  | line :: rest =>
    match readLine line with
    | .skipped => readLines (number + 1) rest
    | .definition name body => (readLines (number + 1) rest).map ((name, body) :: ·)
    | .malformed => .error (.invalidDefinition number (.ofList (trimReturns line)))

/-- The definitions of a listing in order; the first bad line is the error. -/
def read (text : String) : Except Error (List (String × String)) := readLines 1 (lines text.toList)

end LogSift.Listing
