/-!
Tables of pattern definitions that come with the library.
-/

namespace LogSift.Builtin

/-- Names with the expressions they stand for, each name once. -/
abbrev Table := List (String × String)

/-- The body that a table has for a name. -/
def Table.body? (table : Table) (name : String) : Option String :=
  (table.find? fun entry => entry.1 == name).map (·.2)

/-- In a table that has each name once, an entry is the one that is found by its name. -/
theorem Table.body?_of_mem {table : Table} {name body : String}
    (distinct : (table.map (·.1)).Nodup) (member : (name, body) ∈ table) :
    table.body? name = some body := by
  unfold Table.body?
  induction table with
  | nil => cases member
  | cons entry rest ih =>
    obtain ⟨absent, distinct⟩ := List.nodup_cons.1 distinct
    rcases List.mem_cons.1 member with rfl | member
    · simp
    · have differs : entry.1 ≠ name := by
        rintro rfl
        exact absent (List.mem_map.2 ⟨_, member, rfl⟩)
      rw [List.find?_cons_of_neg (by simpa using differs)]
      exact ih distinct member

end LogSift.Builtin
