import LogSift.Builtin.Word
import LogSift.Builtin.Network
import LogSift.Builtin.Calendar
import LogSift.Builtin.Log

/-!
The base table: the definitions that are looked up when no definition of the user answers.
-/

namespace LogSift.Builtin

/-- Every built-in definition. -/
def base : Table := words ++ numbers ++ addresses ++ paths ++ dates ++ syslogParts ++ levels

/-- The body of a built-in definition. -/
def body? (name : String) : Option String := base.body? name

theorem nodup_base : (base.map (·.1)).Nodup := by decide +kernel

end LogSift.Builtin
