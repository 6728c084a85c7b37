import LogSift.Regex.Expr

/-!
Programs: expressions as instructions for a search. Instructions are tried in order of
preference, so the first way to the end is the match.
-/

namespace LogSift.Regex

open Unicode (CharSet)

inductive Instr where
  /-- Takes a character of the set and goes on to the next instruction. -/
  | set (chars : CharSet)
  /-- Goes on to the next instruction if the condition holds. -/
  | look (look : Look)
  | jump (target : Nat)
  /-- Tries the first way, and the second one if that fails. -/
  | fork (first second : Nat)
  /-- Notes the position in a slot and goes on to the next instruction. -/
  | save (slot : Nat)
  | accept
  deriving DecidableEq, Repr, Inhabited

namespace Program

/-- The number of instructions of an expression. -/
def width : Expr → Nat
  | .empty => 0
  | .set _ | .look _ => 1
  | .seq a b => width a + width b
  | .alt a b => width a + width b + 2
  | .repeated min none _ body =>
    if min = 0 then width body + 2 else min * width body + 1
  | .repeated min (some max) _ body => min * width body + (max - min) * (width body + 1)
  | .capture _ _ body => width body + 2

/-- A fork that prefers to go on if `greedy`, and to leave otherwise. -/
def choice (greedy : Bool) (on leave : Nat) : Instr :=
  if greedy then .fork on leave else .fork leave on

/-- Does something `n` times. -/
def times (f : Array Instr → Array Instr) : Nat → Array Instr → Array Instr
  | 0, code => code
  | n + 1, code => times f n (f code)

/-- Adds the instructions of an expression, which end by going on to what is added next.
    An open repetition of what can be empty is entered at most once before it has matched, so
    that the order of preference is kept. -/
def emit : Expr → Array Instr → Array Instr
  | .empty, code => code
  | .set s, code => code.push (.set s)
  | .look l, code => code.push (.look l)
  | .seq a b, code => emit b (emit a code)
  | .alt a b, code =>
    let second := code.size + width a + 2
    let code := emit a (code.push (.fork (code.size + 1) second))
    emit b (code.push (.jump (second + width b)))
  | .repeated min none greedy body, code =>
    if min = 0 then
      let start := code.size
      let leave := start + width body + 2
      let code := emit body (code.push (choice greedy (start + 1) leave))
      if body.canBeEmpty then code.push (choice greedy (start + 1) leave)
      else code.push (.jump start)
    else
      let code := times (emit body) (min - 1) code
      let start := code.size
      let code := emit body code
      code.push (choice greedy start (code.size + 1))
  | .repeated min (some max) greedy body, code =>
    let code := times (emit body) min code
    let leave := code.size + (max - min) * (width body + 1)
    times (fun code => emit body (code.push (choice greedy (code.size + 1) leave))) (max - min) code
  | .capture index _ body, code =>
    (emit body (code.push (.save (2 * index)))).push (.save (2 * index + 1))

end Program

/-- The instructions of an expression: the whole match is the group with the number 0. -/
def Expr.program (e : Expr) : Array Instr := (Program.emit (.capture 0 none e) #[]).push .accept

end LogSift.Regex
