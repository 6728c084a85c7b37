import LogSift.Proofs.Heads
import Mathlib.Data.List.Nodup

/-!
Readings that fail for a name that is given twice. A reading fails so only where it opens a group with a
name that a group before has (`step_duplicate`), which is where it has come to a head with that name again
(`whole_eq_duplicate_iff`). So a text is refused for a name that is given twice if and only if two of its
heads have the same name (`ofString?_eq_duplicate_iff`).
-/

namespace LogSift.Regex

/-- A reading does not fail for a name that is given twice. -/
structure Unnamed {α : Type} (x : Except Error α) : Prop where
  ne : x ≠ .error .duplicateGroupName

variable {α β : Type}

@[simp] theorem unnamed_ok (a : α) : Unnamed (.ok a : Except Error α) := ⟨nofun⟩

@[simp] theorem unnamed_error {e : Error} :
    Unnamed (.error e : Except Error α) ↔ e ≠ .duplicateGroupName :=
  ⟨fun other same => other.ne (congrArg _ same),
    fun other => ⟨fun same => other (Except.error.inj same)⟩⟩

theorem Unnamed.bind {x : Except Error α} {f : α → Except Error β} (first : Unnamed x)
    (later : ∀ a, Unnamed (f a)) : Unnamed (x >>= f) := by
  cases x with
  | error e => exact unnamed_error.2 (unnamed_error.1 first)
  | ok a => exact later a

theorem Unnamed.map {x : Except Error α} {f : α → β} (first : Unnamed x) : Unnamed (x.map f) := by
  cases x with
  | error e => exact unnamed_error.2 (unnamed_error.1 first)
  | ok a => exact unnamed_ok _

theorem Flags.unnamed_read (flags : Flags) (seen cs : List Char) : Unnamed (flags.read seen cs) := by
  fun_induction Flags.read flags seen cs <;> simp_all

namespace Escape

theorem unnamed_ofHexDigits (digits : List Char) : Unnamed (ofHexDigits digits) := by
  unfold ofHexDigits
  split <;> simp

theorem unnamed_readHex (flags : Flags) (count sum : Nat) (cs : List Char) :
    Unnamed (readHex flags count sum cs) := by
  fun_induction readHex flags count sum cs <;> simp_all

theorem unnamed_readCode (flags : Flags) (count : Nat) (cs : List Char) :
    Unnamed (readCode flags count cs) := by
  unfold readCode
  split
  · simp
  · split
    · simp
    · exact (unnamed_ofHexDigits _).map
  · refine (unnamed_readHex ..).bind fun (n, rest) => ?_
    dsimp only
    split <;> simp

theorem unnamed_readProperty (flags : Flags) (negated : Bool) (cs : List Char) :
    Unnamed (readProperty flags negated cs) := by
  unfold readProperty
  split
  · simp
  · split <;> simp
  · simp
  · simp

theorem unnamed_readBoundary (flags : Flags) (cs : List Char) :
    Unnamed (readBoundary flags cs) := by
  unfold readBoundary
  dsimp only
  repeat' split
  all_goals simp

theorem unnamed_read (flags : Flags) (cs : List Char) : Unnamed (read flags cs) := by
  unfold read
  split
  · simp
  dsimp only
  split
  all_goals first
    | simp; done
    | exact unnamed_readCode ..
    | exact unnamed_readProperty ..
    | exact unnamed_readBoundary ..
    | (split <;> simp)

end Escape

namespace Flags

theorem unnamed_negate (flags : Flags) (negated : Bool) (s : Unicode.CharSet) :
    Unnamed (flags.negate negated s) := by
  unfold negate
  repeat' split
  all_goals simp

theorem unnamed_literal (flags : Flags) (c : Char) (asByte : Bool) :
    Unnamed (flags.literal c asByte) := by
  unfold literal
  split <;> simp

theorem unnamed_property (flags : Flags) (query : Unicode.Query) (negated : Bool) :
    Unnamed (flags.property query negated) := by
  unfold property
  split
  · simp
  · split
    · simp
    · exact unnamed_negate ..

theorem unnamed_dot (flags : Flags) : Unnamed flags.dot := by
  unfold dot
  repeat' split
  all_goals simp

end Flags

namespace Class

theorem unnamed_readPrimitive (flags : Flags) (cs : List Char) :
    Unnamed (readPrimitive flags cs) := by
  unfold readPrimitive
  split
  · simp
  · exact Escape.unnamed_read ..
  · simp

theorem unnamed_endOf (primitive : Primitive) : Unnamed (endOf primitive) := by
  cases primitive <;> simp [endOf]

theorem unnamed_literal (flags : Flags) (c : Char) (asByte : Bool) :
    Unnamed (literal flags c asByte) := by
  unfold literal
  refine (Flags.unnamed_literal ..).bind fun c => ?_
  split <;> simp

theorem unnamed_setOf (flags : Flags) (primitive : Primitive) : Unnamed (setOf flags primitive) := by
  cases primitive with
  | literal c asByte => exact (unnamed_literal ..).map
  | digits | spaces | words => exact Flags.unnamed_negate ..
  | property => exact Flags.unnamed_property ..
  | dot | look => simp [setOf]

theorem unnamed_readItem (flags : Flags) (cs : List Char) : Unnamed (readItem flags cs) := by
  unfold readItem
  refine (unnamed_readPrimitive ..).bind fun (first, rest) => ?_
  dsimp only
  split
  · simp
  · split
    · exact (unnamed_setOf ..).map
    · refine (unnamed_readPrimitive ..).bind fun (last, rest) => ?_
      refine (unnamed_endOf _).bind fun (low, lowByte) => ?_
      refine (unnamed_endOf _).bind fun (high, highByte) => ?_
      dsimp only
      split
      · simp
      · exact (unnamed_literal ..).bind fun _ => (unnamed_literal ..).bind fun _ => by simp
  · exact (unnamed_setOf ..).map

/-- A class is read through classes inside it, with less fuel. -/
theorem unnamed_class (fuel : Nat) : (∀ flags cs, Unnamed (read flags fuel cs)) ∧
    ∀ flags before operand cs, Unnamed (readItems flags fuel before operand cs) := by
  induction fuel with
  | zero => exact ⟨fun _ _ => by simp [read], fun _ _ _ _ => by simp [readItems]⟩
  | succ fuel ih =>
    obtain ⟨class', items⟩ := ih
    constructor
    · intro flags cs
      rw [read]
      refine (items ..).bind fun found => ?_
      exact (Flags.unnamed_negate ..).bind fun _ => unnamed_ok _
    · intro flags before operand cs
      rw [readItems]
      split
      · simp
      · simp
      · split
        · exact (Flags.unnamed_negate ..).bind fun _ => items ..
        · exact (class' ..).bind fun _ => items ..
      · split
        · exact items ..
        · exact (unnamed_readItem ..).bind fun _ => items ..

theorem unnamed_read (flags : Flags) (fuel : Nat) (cs : List Char) :
    Unnamed (read flags fuel cs) :=
  (unnamed_class fuel).1 flags cs

end Class

namespace Reader

variable {r r' : Reader} {cs rest : List Char} {c : Char}

theorem unnamed_readCounts (flags : Flags) (cs : List Char) : Unnamed (readCounts flags cs) := by
  unfold readCounts
  repeat' split
  all_goals simp

theorem unnamed_literalItem (flags : Flags) (c : Char) (asByte : Bool) :
    Unnamed (literalItem flags c asByte) := by
  unfold literalItem
  refine (Flags.unnamed_literal ..).bind fun c => ?_
  repeat' split
  all_goals simp

theorem unnamed_primitiveItem (flags : Flags) (primitive : Primitive) :
    Unnamed (primitiveItem flags primitive) := by
  cases primitive with
  | literal c asByte => exact unnamed_literalItem ..
  | dot => exact (Flags.unnamed_dot _).map
  | look look => simp [primitiveItem]
  | digits | spaces | words => exact (Flags.unnamed_negate ..).map
  | property => exact (Flags.unnamed_property ..).map

theorem unnamed_closeGroup (r : Reader) (cs : List Char) : Unnamed (r.closeGroup cs) := by
  unfold closeGroup
  split <;> simp

theorem unnamed_repeatLast (r : Reader) (min : Nat) (max : Option Nat) (greedy : Bool)
    (cs : List Char) : Unnamed (r.repeatLast min max greedy cs) := by
  unfold repeatLast
  split
  · simp
  · dsimp only
    split <;> simp

theorem unnamed_readRepeat (r : Reader) (min : Nat) (max : Option Nat) (cs : List Char) :
    Unnamed (r.readRepeat min max cs) := by
  unfold readRepeat
  split <;> exact unnamed_repeatLast ..

theorem unnamed_readCounted (r : Reader) (cs : List Char) : Unnamed (r.readCounted cs) := by
  unfold readCounted
  split
  · simp
  · exact (unnamed_readCounts ..).bind fun (min, max, rest) => unnamed_readRepeat ..

theorem enterNamed_duplicate (failed : r.enterNamed cs = .error .duplicateGroupName) :
    ∃ name ∈ r.names, isName name.toList = true ∧ ∃ rest, cs = name.toList ++ '>' :: rest := by
  unfold enterNamed at failed
  dsimp only at failed
  split at failed
  · cases failed
  · next bracket rest closes =>
    by_cases empty : (cs.takeWhile (· != '>')).isEmpty = true
    · rw [if_pos empty] at failed
      cases failed
    by_cases proper : isName (cs.takeWhile (· != '>')) = true
    · by_cases used : r.names.contains (.ofList (cs.takeWhile (· != '>'))) = true
      · refine ⟨_, List.contains_iff_mem.1 used, ?_, rest, ?_⟩
        · rwa [String.toList_ofList]
        · rw [String.toList_ofList]
          exact (eq_of_dropWhile closes).1
      · simp only [empty, proper, used] at failed
        cases failed
    · rw [if_neg empty, if_pos (by simpa using proper)] at failed
      cases failed

/-- A name is refused for being given twice behind the sign of a group, where it is one of the names
    before it. -/
theorem openGroup_duplicate (failed : r.openGroup cs = .error .duplicateGroupName) :
    ∃ name ∈ r.names, headName? (r.flags.skip cs) = some name := by
  have refused {sign : String} (known : sign ∈ signs) {behind : List Char}
      (begun : r.flags.skip cs = sign.toList ++ behind)
      (failed : r.enterNamed behind = .error .duplicateGroupName) :
      ∃ name ∈ r.names, headName? (r.flags.skip cs) = some name := by
    obtain ⟨name, used, proper, rest, rfl⟩ := enterNamed_duplicate failed
    exact ⟨name, used, headName?_eq_some_iff.2 ⟨proper, sign, known, rest, begun⟩⟩
  unfold openGroup at failed
  split at failed
  · cases failed
  · cases failed
  · cases failed
  · cases failed
  · next begun => exact refused (by decide : "?P<" ∈ signs) begun failed
  · next begun => exact refused (by decide : "?<" ∈ signs) begun failed
  · refine absurd failed (Unnamed.bind (Flags.unnamed_read ..) fun (found, any, rest) => ?_).ne
    dsimp only
    split
    · simp
    · split <;> simp
    · simp
  · cases failed

theorem step_duplicate (failed : r.step c cs = .error .duplicateGroupName) :
    c = '(' ∧ r.openGroup cs = .error .duplicateGroupName := by
  by_cases parenthesis : c = '('
  · subst parenthesis
    exact ⟨rfl, failed⟩
  refine absurd failed (?_ : Unnamed _).ne
  unfold step
  split
  · exact absurd rfl parenthesis
  · apply unnamed_closeGroup
  · apply unnamed_ok
  · exact (Class.unnamed_read ..).bind fun (s, height, rest) => by simp
  · apply unnamed_readRepeat
  · apply unnamed_readRepeat
  · apply unnamed_readRepeat
  · apply unnamed_readCounted
  · exact (Escape.unnamed_read ..).bind fun (primitive, rest) => (unnamed_primitiveItem ..).map
  · exact (unnamed_primitiveItem ..).map
  · apply unnamed_ok
  · apply unnamed_ok
  · exact (unnamed_literalItem ..).map

theorem unnamed_finish (r : Reader) : Unnamed r.finish := by
  unfold finish
  split
  · split <;> simp
  · simp

/-! ### Names that are added -/

theorem names_repeatLast {min : Nat} {max : Option Nat} {greedy : Bool}
    (read : r.repeatLast min max greedy cs = .ok r') : r'.names = r.names := by
  unfold repeatLast at read
  split at read
  · cases read
  · dsimp only at read
    split at read
    · cases read
    · cases read
      rfl

theorem names_readRepeat {min : Nat} {max : Option Nat} (read : r.readRepeat min max cs = .ok r') :
    r'.names = r.names := by
  unfold readRepeat at read
  split at read <;> exact names_repeatLast read

theorem names_readCounted (read : r.readCounted cs = .ok r') : r'.names = r.names := by
  unfold readCounted at read
  split at read
  · cases read
  · obtain ⟨⟨min, max, after⟩, _, read⟩ := bind_eq_ok read
    exact names_readRepeat read

theorem names_push {item : Except Error Item}
    (read : (item.map fun item => r.push item cs) = .ok r') : r'.names = r.names := by
  cases item with
  | error e => cases read
  | ok item =>
    cases read
    rfl

theorem names_closeGroup (read : r.closeGroup cs = .ok r') : r'.names = r.names := by
  unfold closeGroup at read
  split at read <;> cases read
  rfl

theorem names_withFlags {flags : Flags} {any : Bool} (read : r.withFlags flags any cs = .ok r') :
    r'.names = r.names := by
  unfold withFlags at read
  split at read
  · cases read
    rfl
  · split at read
    · cases read
      rfl
    · cases read
  · cases read

/-- Besides an opening parenthesis, no step adds a name. -/
theorem names_step (opening : c ≠ '(') (read : r.step c cs = .ok r') : r'.names = r.names := by
  unfold step at read
  split at read
  · exact absurd rfl opening
  · exact names_closeGroup read
  · cases read
    rfl
  · obtain ⟨⟨set, height, after⟩, _, read⟩ := bind_eq_ok read
    cases read
    rfl
  · exact names_readRepeat read
  · exact names_readRepeat read
  · exact names_readRepeat read
  · exact names_readCounted read
  · obtain ⟨⟨primitive, after⟩, _, read⟩ := bind_eq_ok read
    exact names_push read
  · exact names_push read
  · cases read
    rfl
  · cases read
    rfl
  · exact names_push read

/-- A step adds the name of the head that it comes to. -/
theorem names_of_step (read : r.step c cs = .ok r') :
    r'.names = (r.here c cs).map (·.name) ++ r.names ∧
      ∀ head ∈ r.here c cs, head.name ∉ r.names := by
  by_cases opening : c = '('
  · subst opening
    have opened : r.openGroup cs = .ok r' := read
    cases told : r.head? cs with
    | none =>
      have none : r.here '(' cs = [] := by simp [here, told]
      rw [none]
      refine ⟨?_, nofun⟩
      rcases openGroup_cases opened with
        ⟨_, _, _, named⟩ | ⟨_, _, _, _, _, _, _, _, read⟩ | ⟨_, rfl⟩
      · cases told.symm.trans named.head?
      · exact names_withFlags read
      · rfl
    | some head =>
      have single : r.here '(' cs = [head] := by simp [here, told]
      rw [single]
      rcases openGroup_of_head told with ⟨_, refused⟩ | ⟨fresh, sign, rest, r'', named⟩
      · cases refused.symm.trans opened
      · obtain rfl := Except.ok.inj (named.read.symm.trans opened)
        rw [named.opened]
        exact ⟨by simp [Reader.named], by simpa using fresh⟩
  · have none : r.here c cs = [] := by simp [here, opening]
    rw [none]
    exact ⟨names_step opening read, nofun⟩

/-- Where a step fails, it has come to a name that is given twice, or not come to a name. -/
theorem here_of_error {e : Error} (failed : r.step c cs = .error e) :
    if e = .duplicateGroupName then ∃ head ∈ r.here c cs, head.name ∈ r.names
    else r.here c cs = [] := by
  split
  · next twice =>
    subst twice
    obtain ⟨rfl, refused⟩ := step_duplicate failed
    obtain ⟨name, used, named⟩ := openGroup_duplicate refused
    refine ⟨⟨name, r.flags.skip cs⟩, ?_, used⟩
    have told : r.head? cs = some ⟨name, r.flags.skip cs⟩ := head?_eq_some_iff.2 ⟨named, rfl⟩
    simp [here, told]
  · next other =>
    refine List.eq_nil_iff_forall_not_mem.2 fun head member => ?_
    obtain ⟨rfl, told⟩ := mem_here member
    have failed : r.openGroup cs = .error e := failed
    rcases openGroup_of_head told with ⟨_, refused⟩ | ⟨_, _, _, _, named⟩
    · exact other (Except.error.inj (failed.symm.trans refused))
    · cases failed.symm.trans named.read

/-! ### Whole texts -/

/-- A reading is refused for a name that is given twice if and only if it comes to a head whose name has
    been given before. -/
theorem whole_eq_duplicate_iff (distinct : r.names.Nodup) :
    r.whole = .error .duplicateGroupName ↔ ¬ (r.found.map (·.name) ++ r.names).Nodup := by
  induction r using reading_induction with
  | ends r begun =>
    rw [whole_of_skip_eq_nil begun, found_of_skip_eq_nil begun]
    simpa using distinct
  | fails r c rest e begun failed =>
    rw [whole_of_skip_eq_cons begun, found_of_error begun failed, failed]
    have told := here_of_error failed
    split at told
    · next twice =>
      obtain ⟨head, member, used⟩ := told
      refine iff_of_true (congrArg _ twice) fun none => ?_
      exact List.disjoint_of_nodup_append none (List.mem_map_of_mem member) used
    · next other =>
      refine iff_of_false (fun same => other (Except.error.inj same)) ?_
      simpa [told] using distinct
  | goes r c rest r' begun stepped ih =>
    obtain ⟨names, fresh⟩ := names_of_step stepped
    have onward : r'.names.Nodup := by
      rw [names]
      refine List.nodup_append'.2 ⟨?_, distinct, ?_⟩
      · rcases r.here_cases c rest with none | ⟨head, single⟩
        · simp [none]
        · simp [single]
      · intro name member used
        obtain ⟨head, first, rfl⟩ := List.mem_map.1 member
        exact fresh head first used
    have whole : r.whole = r'.whole := by
      rw [whole_of_skip_eq_cons begun, stepped]
      rfl
    rw [whole, ih onward, names, found_of_ok begun stepped, List.map_append]
    -- The names are the same, in another order.
    have order : (r'.found.map (·.name) ++ ((r.here c rest).map (·.name) ++ r.names)).Perm
        ((r.here c rest).map (·.name) ++ r'.found.map (·.name) ++ r.names) := by
      rw [← List.append_assoc]
      exact List.perm_append_comm.append_right _
    rw [order.nodup_iff]

end Reader

/-- A text is refused for a name that is given twice if and only if it declares one twice. -/
theorem ofString?_eq_duplicate_iff [Regex.Engine] (source : String) (limit : Nat) :
    ofString? source limit = .error .duplicateGroupName ↔ ¬ (declared source.toList).Nodup := by
  have whole := Reader.whole_eq_duplicate_iff (r := { rest := source.toList }) List.nodup_nil
  rw [List.append_nil] at whole
  rw [declared, show headsOf source.toList = Reader.found { rest := source.toList } from rfl, ← whole]
  unfold ofString?
  rw [Reader.read_eq]
  cases read : Reader.whole { rest := source.toList } with
  | error e => simp [bind, Except.bind]
  | ok r =>
    have onward : Unnamed (r.finish >>= fun expr =>
        if Engine.fits expr limit then
          Except.ok (⟨source, groupNames expr.groups, expr.program⟩ : Regex)
        else .error (.tooLarge limit)) :=
      r.unnamed_finish.bind fun expr => by split <;> simp
    exact iff_of_false onward.ne (by simp)

end LogSift.Regex
