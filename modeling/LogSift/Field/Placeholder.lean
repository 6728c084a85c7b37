import LogSift.Error
import LogSift.Field.Name
import LogSift.Regex

/-!
Which texts could stand for the dots of field names in group names.
-/

namespace LogSift.FieldName

variable [Regex.Engine]

/-- A group name with a placeholder in it. -/
def probe (placeholder : String) : String := "a" ++ placeholder ++ "b"

/-- Is the text the name of a group in a regular expression that puts it there? -/
def isGroupName (name : String) : Bool :=
  match Regex.ofString? ("(?P<" ++ name ++ ">)") with
  | .ok regex => regex.groups.contains (some name)
  | .error _ => false

/-- A placeholder must not be empty, must not hold a dot itself, and must be allowed inside the
    name of a group. -/
def checkPlaceholder (placeholder : String) : Except Error Unit :=
  if placeholder.isEmpty || placeholder.toList.contains '.' || !isGroupName (probe placeholder) then
    .error (.invalidPlaceholder placeholder)
  else .ok ()

/-- The placeholder of the library passes the check. -/
theorem checkPlaceholder_placeholder : checkPlaceholder placeholder = .ok () := by
  have read : Regex.Reader.read "(?P<a___b>)".toList =
      .ok (.capture 1 (some "a___b") .empty) := by rfl
  have names : Regex.groupNames (Regex.Expr.capture 1 (some "a___b") .empty).groups =
      #[none, some (probe placeholder)] := rfl
  have named : isGroupName (probe placeholder) = true := by
    have source : "(?P<" ++ probe placeholder ++ ">)" = "(?P<a___b>)" := rfl
    rw [isGroupName, source, Regex.ofString?, read]
    simp [bind, Except.bind, Regex.Engine.fits_group, names]
  simp only [checkPlaceholder, named]
  rfl

end LogSift.FieldName
