/-!
Why a text is no regular expression, or one that is not accepted.
-/

namespace LogSift.Regex

inductive Error where
  | unclosedGroup
  | unopenedGroup
  | emptyGroupName
  | invalidGroupName
  | duplicateGroupName
  | invalidFlag
  | lookAround
  | nothingToRepeat
  | invalidRepetition
  | unfinishedEscape
  | unknownEscape
  | invalidHex
  | unknownProperty
  | unclosedClass
  | invalidClass
  | invalidRange
  /-- Without Unicode, the expression could match part of a character. -/
  | brokenCharacter
  | tooDeep
  | tooLarge (limit : Nat)
  deriving DecidableEq, Repr, Inhabited

end LogSift.Regex
