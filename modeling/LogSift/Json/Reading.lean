import LogSift.Json.Number
import LogSift.Json.Quoted

/-!
JSON documents. Reading keeps what the text says, objects with their members in order; whether a
string or number makes up a proper value is asked only where the value is wanted.
-/

namespace LogSift

/-- A JSON value as it is written. -/
inductive Json where
  | null
  | bool (b : Bool)
  | number (n : Json.Number)
  /-- A string by its code points, which may hold halves of surrogate pairs. -/
  | string (codes : List Nat)
  | array (items : List Json)
  | object (members : List (List Nat × Json))
  deriving Repr, Inhabited

namespace Json

/-- Leaves out blank. -/
def skipBlank (cs : List Char) : List Char :=
  cs.dropWhile fun c => c == ' ' || c == '\n' || c == '\t' || c == '\r'

/-- Reads a word that stands for a value. -/
def readWord (word : String) (value : Json) (cs : List Char) : Option (Json × List Char) :=
  if word.toList.isPrefixOf cs then some (value, cs.drop word.length) else none

mutual

/-- Reads a value; `fuel` bounds the number of steps. -/
def readValue (fuel : Nat) (cs : List Char) : Option (Json × List Char) :=
  match fuel with
  | 0 => none
  | fuel + 1 =>
    match skipBlank cs with
    | [] => none
    | '"' :: rest => (Quoted.read rest).map fun (codes, rest) => (string codes, rest)
    | '[' :: rest =>
      match skipBlank rest with
      | ']' :: rest => some (array [], rest)
      | rest => (readItems fuel rest).map fun (items, rest) => (array items, rest)
    | '\x7b' :: rest =>
      match skipBlank rest with
      | '\x7d' :: rest => some (object [], rest)
      | rest => (readMembers fuel rest).map fun (members, rest) => (object members, rest)
    | 'n' :: rest => readWord "null" null ('n' :: rest)
    | 't' :: rest => readWord "true" (bool true) ('t' :: rest)
    | 'f' :: rest => readWord "false" (bool false) ('f' :: rest)
    | cs => (Number.read cs).map fun (n, rest) => (number n, rest)

/-- Reads the items of an array and its closing bracket. -/
def readItems (fuel : Nat) (cs : List Char) : Option (List Json × List Char) :=
  match fuel with
  | 0 => none
  | fuel + 1 => do
    let (item, rest) ← readValue fuel cs
    match skipBlank rest with
    | ',' :: rest =>
      let (items, rest) ← readItems fuel rest
      return (item :: items, rest)
    | ']' :: rest => return ([item], rest)
    | _ => none

/-- Reads the members of an object and its closing brace. -/
def readMembers (fuel : Nat) (cs : List Char) : Option (List (List Nat × Json) × List Char) :=
  match fuel with
  | 0 => none
  | fuel + 1 =>
    match skipBlank cs with
    | '"' :: rest => do
      let (name, rest) ← Quoted.read rest
      match skipBlank rest with
      | ':' :: rest =>
        let (value, rest) ← readValue fuel rest
        match skipBlank rest with
        | ',' :: rest =>
          let (members, rest) ← readMembers fuel rest
          return ((name, value) :: members, rest)
        | '\x7d' :: rest => return ([(name, value)], rest)
        | _ => none
      | _ => none
    | _ => none

end

/-- The document of a text. -/
def ofChars? (cs : List Char) : Option Json := do
  let (value, rest) ← readValue (2 * cs.length + 2) cs
  if (skipBlank rest).isEmpty then some value else none

def ofString? (text : String) : Option Json := ofChars? text.toList

/-- The text of a string. -/
def textOf? (codes : List Nat) : Option String := (Quoted.join codes).map String.ofList

def asText? : Json → Option String
  | string codes => textOf? codes
  | _ => none

def asBool? : Json → Option Bool
  | bool b => some b
  | _ => none

/-- A natural number of 64 bits. -/
def asNat? : Json → Option Nat
  | number n => n.asNat?
  | _ => none

/-- The members of an object whose values are all strings. -/
def asTexts? : Json → Option (List (String × String))
  | object members => members.mapM fun (name, value) => do return (← textOf? name, ← value.asText?)
  | _ => none

end Json

end LogSift
