import LogSift.Regex.Program
import LogSift.Regex.Subject

/-!
The search for the first match. Ways are tried in order of preference, and no instruction is
tried twice at one position: what has failed there once would fail again, and a way that comes
back without having moved gains nothing.
-/

namespace LogSift.Regex

/-- Where each slot was set last. -/
abbrev Slots := Array (Option Nat)

namespace Search

/-- What is still to be done: an instruction to be tried at a position, or a slot that gets its
    old value back when a way has failed. -/
inductive Job where
  | attempt (pc position : Nat)
  | restore (slot : Nat) (old : Option Nat)

/-- Which instructions have been tried at which positions, one byte for each pair. -/
structure Tried where
  columns : Nat
  marks : ByteArray

namespace Tried

def none (rows columns : Nat) : Tried := ⟨columns, ⟨Array.replicate (rows * columns) 0⟩⟩

def contains (tried : Tried) (pc position : Nat) : Bool :=
  if h : pc * tried.columns + position < tried.marks.size then
    tried.marks[pc * tried.columns + position] != 0
  else true

def insert (tried : Tried) (pc position : Nat) : Tried :=
  { tried with marks := tried.marks.set! (pc * tried.columns + position) 1 }

end Tried

/-- Does jobs, the first one first, until an instruction accepts or no job is left. -/
def run (code : Array Instr) (s : Subject) (fuel : Nat) (jobs : List Job) (slots : Slots)
    (tried : Tried) : Option Slots × Tried :=
  match fuel, jobs with
  | 0, _ | _, [] => (none, tried)
  | fuel + 1, .restore slot old :: jobs => run code s fuel jobs (slots.set! slot old) tried
  | fuel + 1, .attempt pc p :: jobs =>
    if tried.contains pc p then run code s fuel jobs slots tried
    else
      let tried := tried.insert pc p
      match code[pc]? with
      | none => run code s fuel jobs slots tried
      | some (.set chars) =>
        match s.next? p with
        | some (c, q) =>
          if chars.contains c then run code s fuel (.attempt (pc + 1) q :: jobs) slots tried
          else run code s fuel jobs slots tried
        | none => run code s fuel jobs slots tried
      | some (.look look) =>
        if look.holds s p then run code s fuel (.attempt (pc + 1) p :: jobs) slots tried
        else run code s fuel jobs slots tried
      | some (.jump target) => run code s fuel (.attempt target p :: jobs) slots tried
      | some (.fork first second) =>
        run code s fuel (.attempt first p :: .attempt second p :: jobs) slots tried
      | some (.save slot) =>
        let old := slots[slot]?.join
        run code s fuel (.attempt (pc + 1) p :: .restore slot old :: jobs) (slots.set! slot (some p))
          tried
      | some .accept => (some slots, tried)

/-- Looks for a match that begins at one of `count` positions, the first one first. -/
def scan (code : Array Instr) (s : Subject) (fuel slotCount start count : Nat) (tried : Tried) :
    Option Slots :=
  match count with
  | 0 => none
  | count + 1 =>
    match run code s fuel [.attempt 0 start] (.replicate slotCount none) tried with
    | (some slots, _) => some slots
    | (none, tried) => scan code s fuel slotCount (start + 1) count tried

/-- The slots of the first match in a subject. A pair of instruction and position is tried at
    most once and leads to at most two jobs. -/
def first? (code : Array Instr) (slotCount : Nat) (s : Subject) : Option Slots :=
  let columns := s.size + 1
  scan code s (2 * (code.size * columns) + 2) slotCount 0 columns (.none code.size columns)

end Search

end LogSift.Regex
