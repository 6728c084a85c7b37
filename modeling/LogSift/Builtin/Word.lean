import LogSift.Builtin.Table

/-!
Patterns for words, quoted text, identifiers and numbers.
-/

namespace LogSift.Builtin

/-- Words, identifiers and quoted text. -/
def words : Table :=
  [("USERNAME", r"[a-zA-Z0-9._-]+"),
   ("USER", r"%{USERNAME}"),
   ("EMAILLOCALPART", r"[a-zA-Z0-9][a-zA-Z0-9_.+\-]*"),
   ("EMAILADDRESS", r"%{EMAILLOCALPART}@%{HOSTNAME}"),
   ("WORD", r"\b\w+\b"),
   ("NOTSPACE", r"\S+"),
   ("SPACE", r"\s*"),
   ("DATA", r".*?"),
   ("GREEDYDATA", r".*"),
   ("QUOTEDSTRING", r#"(?:"(?:\\.|[^\\"]+)+"|""|'(?:\\.|[^\\']+)+'|''|`(?:\\.|[^\\`]+)+`|``)"#),
   ("UUID", r"[A-Fa-f0-9]{8}-(?:[A-Fa-f0-9]{4}-){3}[A-Fa-f0-9]{12}"),
   ("URN",
    r"urn:[0-9A-Za-z][0-9A-Za-z-]{0,31}:(?:%[0-9a-fA-F]{2}|[0-9A-Za-z()+,.:=@;$_!*'/?#-])+")]

/-- Whole numbers, decimal numbers, hexadecimal numbers and truth values. -/
def numbers : Table :=
  [("INT", r"(?:[+-]?(?:[0-9]+))"),
   ("BASE10NUM", r"(?:[+-]?(?:[0-9]+(?:\.[0-9]+)?)|\.[0-9]+)"),
   ("NUMBER", r"(?:%{BASE10NUM})"),
   ("BASE16NUM", r"(?:[+-]?(?:0x)?(?:[0-9A-Fa-f]+))"),
   ("BASE16FLOAT",
    r"(?:[+-]?(?:0x)?(?:(?:[0-9A-Fa-f]+(?:\.[0-9A-Fa-f]*)?)|(?:\.[0-9A-Fa-f]+)))"),
   ("POSINT", r"\b(?:[1-9][0-9]*)\b"),
   ("NONNEGINT", r"\b(?:[0-9]+)\b"),
   ("BOOL", r"(?:true|false)")]

end LogSift.Builtin
