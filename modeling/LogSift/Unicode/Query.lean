import LogSift.Unicode.Age
import LogSift.Unicode.Break
import LogSift.Unicode.Script

/-!
Sets of characters by name: \p{Lu}, \p{Greek}, \p{scx=Deva}, \p{Age=6.0}. Names are compared
loosely, without case, blanks, hyphens, underscores and a leading "is". The sets are those of
version 16 of Unicode.
-/

namespace LogSift.Unicode

/-- What a class escape asks for: a property or value by its bare name, or a property and one of
    its values. -/
inductive Query where
  | bare (name : String)
  | value (property value : String)
  deriving DecidableEq, Repr

namespace Query

/-- The loose form of a name: small ASCII letters without separators and without a leading
    "is". The name "isc" keeps its own, since it abbreviates another property than "c". -/
def loose (name : String) : String :=
  let keep (c : Char) : Bool := c != ' ' && c != '_' && c != '-' && c.toNat < 128
  let plain (cs : List Char) : List Char := (cs.filter keep).map Char.toLower
  match name.toList with
  | a :: b :: rest =>
    if a.toLower = 'i' ∧ b.toLower = 's' then
      let short := plain rest
      if short = ['c'] then "isc" else .ofList short
    else .ofList (plain name.toList)
  | cs => .ofList (plain cs)

/-- The general categories and their groups, each under the names it goes by. -/
def categories : List (List String × CharSet) :=
  [(["any"], .all),
   (["ascii"], ⟨[(0, 127)]⟩),
   (["assigned"], Category.assigned),
   (["lu", "uppercaseletter"], Category.uppercaseLetter),
   (["ll", "lowercaseletter"], Category.lowercaseLetter),
   (["lt", "titlecaseletter"], Category.titlecaseLetter),
   (["lc", "casedletter"], Category.casedLetter),
   (["lm", "modifierletter"], Category.modifierLetter),
   (["lo", "otherletter"], Category.otherLetter),
   (["l", "letter"], Category.letter),
   (["mn", "nonspacingmark"], Category.nonspacingMark),
   (["mc", "spacingmark"], Category.spacingMark),
   (["me", "enclosingmark"], Category.enclosingMark),
   (["m", "mark", "combiningmark"], Category.mark),
   (["nd", "decimalnumber", "digit"], Category.decimalNumber),
   (["nl", "letternumber"], Category.letterNumber),
   (["no", "othernumber"], Category.otherNumber),
   (["n", "number"], Category.number),
   (["pc", "connectorpunctuation"], Category.connectorPunctuation),
   (["pd", "dashpunctuation"], Category.dashPunctuation),
   (["ps", "openpunctuation"], Category.openPunctuation),
   (["pe", "closepunctuation"], Category.closePunctuation),
   (["pi", "initialpunctuation"], Category.initialPunctuation),
   (["pf", "finalpunctuation"], Category.finalPunctuation),
   (["po", "otherpunctuation"], Category.otherPunctuation),
   (["p", "punctuation", "punct"], Category.punctuation),
   (["sm", "mathsymbol"], Category.mathSymbol),
   (["sc", "currencysymbol"], Category.currencySymbol),
   (["sk", "modifiersymbol"], Category.modifierSymbol),
   (["so", "othersymbol"], Category.otherSymbol),
   (["s", "symbol"], Category.symbol),
   (["zs", "spaceseparator"], Category.spaceSeparator),
   (["zl", "lineseparator"], Category.lineSeparator),
   (["zp", "paragraphseparator"], Category.paragraphSeparator),
   (["z", "separator"], Category.separator),
   (["cc", "control", "cntrl"], Category.control),
   (["cf", "format"], Category.format),
   (["co", "privateuse"], Category.privateUse),
   (["cn", "unassigned"], Category.unassigned),
   (["c", "other"], Category.other)]

/-- The entry that goes by a loose name. -/
def named? (table : List (List String × CharSet)) (name : String) : Option CharSet :=
  (table.find? fun entry => entry.1.contains name).map (·.2)

def script? (name : String) : Option Script.Entry :=
  Script.all.find? fun entry => entry.names.contains name

/-- A bare name is a binary property, else a general category, else a script. -/
def bare? (name : String) : Option CharSet :=
  (named? Property.named name).or ((named? categories name).or ((script? name).map (·.own)))

/-- The set that a query stands for; none for names that no property, category or script has. -/
def resolve : Query → Option CharSet
  | .bare name => bare? (loose name)
  | .value property text =>
    let wanted := loose text
    match loose property with
    | "gc" | "generalcategory" => named? categories wanted
    | "sc" | "script" => (script? wanted).map (·.own)
    | "scx" | "scriptextensions" => (script? wanted).map (·.extended)
    | "age" => Age.named? wanted
    | "gcb" | "graphemeclusterbreak" => named? Break.clusters wanted
    | "wb" | "wordbreak" => named? Break.words wanted
    | "sb" | "sentencebreak" => named? Break.sentences wanted
    | _ => none

end Query

end LogSift.Unicode
