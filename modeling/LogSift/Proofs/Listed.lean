import LogSift.Library.Loading
import LogSift.Proofs.Scanning
import LogSift.Proofs.Tokenless
import LogSift.Proofs.Validation
import LogSift.Regex.Footprint

/-!
References to the definitions of listings. The names in listings may hold characters that are not
part of words: numbers that are no digits, and letters of the later version of Unicode. Tokens
cannot name such definitions, and what is written like a token of one is ordinary text
(`first?_reference_none`). All other definitions are found by the tokens that name them
(`loadListing_referable`).
-/

namespace LogSift

open Unicode (isWord isNumeric newAlphabetic isBlank)

namespace Listing

variable {c : Char} {line : List Char} {lines : List (List Char)} {number : Nat}
  {name body : String} {definitions : List (String × String)}

/-- A character of names that is not part of words is a number, or a letter of the later version
    of Unicode. -/
theorem foreign_of_isNameChar (allowed : isNameChar c = true) (foreign : isWord c = false) :
    isNumeric c = true ∨ newAlphabetic.contains c = true := by
  by_cases ascii : c.toNat < 128
  · simp_all [isNameChar, Unicode.isAlphanumeric, Unicode.isAlphabetic, isNumeric, isWord,
      Char.isAlphanum]
  · -- The tables of both versions share the letters and the decimal digits that words have.
    have notLine : c ≠ '_' := by
      rintro rfl
      exact ascii (by decide)
    simp_all [isNameChar, Unicode.isAlphanumeric, Unicode.isAlphabetic, isWord, or_comm]

/-- The name on a line is read up to the first blank, and each of its characters is looked at. -/
theorem isRun_of_readTrimmed (visible : ∀ c ∈ line.head?, isBlank c = false)
    (read : readTrimmed line = .definition name body) : Token.IsRun isNameChar name := by
  unfold readTrimmed at read
  split at read
  · cases read
  · cases read
  · next nonempty _ =>
    dsimp only at read
    split at read
    · cases read
    · next kept =>
      cases read
      obtain ⟨c, rest, rfl⟩ := List.exists_cons_of_ne_nil nonempty
      have first : isBlank c = false := visible c rfl
      simp only [Bool.or_eq_true, not_or, Bool.not_eq_true, Bool.not_eq_false'] at kept
      exact Token.isRun_ofList (by simp [first]) (List.all_eq_true.1 kept.2)

theorem isRun_of_readLine (read : readLine line = .definition name body) :
    Token.IsRun isNameChar name := by
  refine isRun_of_readTrimmed (fun c first => ?_) read
  have visible := List.head?_dropWhile_not isBlank (trimReturns line)
  rw [Option.mem_def.1 first] at visible
  exact visible

/-- The definitions of a listing are those of its lines. -/
theorem mem_of_readLines (read : readLines number lines = .ok definitions)
    (member : (name, body) ∈ definitions) : ∃ line ∈ lines, readLine line = .definition name body := by
  induction lines generalizing number definitions with
  | nil =>
    cases read
    cases member
  | cons line rest ih =>
    rw [readLines] at read
    split at read
    · obtain ⟨line, found, defines⟩ := ih read member
      exact ⟨line, List.mem_cons_of_mem _ found, defines⟩
    · next first text defines =>
      cases later : readLines (number + 1) rest with
      | error e =>
        rw [later] at read
        cases read
      | ok others =>
        rw [later] at read
        cases read
        rcases List.mem_cons.1 member with same | member
        · cases same
          exact ⟨line, List.mem_cons_self, defines⟩
        · obtain ⟨line, found, defines⟩ := ih later member
          exact ⟨line, List.mem_cons_of_mem _ found, defines⟩
    · cases read

/-- The names of a listing are not empty, and hold the characters of names only. -/
theorem isRun_of_read {text : String} (read : Listing.read text = .ok definitions)
    (member : (name, body) ∈ definitions) : Token.IsRun isNameChar name := by
  obtain ⟨line, _, defines⟩ := mem_of_readLines read member
  exact isRun_of_readLine defines

end Listing

namespace Library

open Std (TreeMap)

variable {library : Library} {name : String} {definitions : List (String × String)}

/-- A definition of the user answers for its name, and for no other. -/
theorem lookup?_insert (library : Library) (name body other : String) :
    (library.insert name body).lookup? other =
      if name = other then some body else library.lookup? other := by
  by_cases same : name = other
  · simp [lookup?, insert, same]
  · have own : (library.insert name body).own[other]? = library.own[other]? := by
      simp [insert, TreeMap.getElem?_insert, same]
    rw [if_neg same, lookup?, lookup?, own]
    rfl

/-- Of definitions that are added in order, the last one of a name is kept. -/
theorem own_defineAll (library : Library) (definitions : List (String × String)) (name : String) :
    (library.defineAll definitions).own[name]? =
      (definitions.reverse.lookup name).or library.own[name]? := by
  induction definitions generalizing library with
  | nil => rfl
  | cons entry rest ih =>
    obtain ⟨key, body⟩ := entry
    rw [defineAll, List.foldl_cons]
    change (defineAll _ rest).own[name]? = _
    rw [ih, List.reverse_cons, List.lookup_append, Option.or_assoc]
    congr 1
    by_cases same : key = name
    · simp [insert, same]
    · have other : (name == key) = false := beq_eq_false_iff_ne.2 (Ne.symm same)
      simp [insert, TreeMap.getElem?_insert, List.lookup_cons, same, other]

theorem builtin_defineAll (library : Library) (definitions : List (String × String)) :
    (library.defineAll definitions).builtin = library.builtin := by
  induction definitions generalizing library with
  | nil => rfl
  | cons entry rest ih => exact ih _

theorem lookup?_eq_or (library : Library) (name : String) : library.lookup? name =
    library.own[name]?.or (if library.builtin then Builtin.body? name else none) := by
  rw [lookup?]
  cases library.own[name]? <;> rfl

/-- Of definitions that are added in order, the last one of a name answers for it. -/
theorem lookup?_defineAll (library : Library) (definitions : List (String × String))
    (name : String) : (library.defineAll definitions).lookup? name =
      (definitions.reverse.lookup name).or (library.lookup? name) := by
  rw [lookup?_eq_or, lookup?_eq_or, own_defineAll, builtin_defineAll, Option.or_assoc]

end Library

namespace Token

variable {name : String}

/-- What is written like a token of a name holds no token if the name is not a word, and no
    character that begins a token or ends a name stands in it. -/
theorem first?_reference_none (foreign : ¬ IsName name)
    (allowed : ∀ c ∈ name.toList, c ∉ ['%', ':', '\x7d']) :
    first? (reference name).toList = none := by
  have text : (reference name).toList = '%' :: '\x7b' :: (name.toList ++ ['\x7d']) := by
    simp [reference, chars]
  have noPercent : '%' ∉ '\x7b' :: (name.toList ++ ['\x7d']) := by
    have inside : '%' ∉ name.toList := fun member => allowed '%' member (by simp)
    simp [inside]
  have behind : first? ('\x7b' :: (name.toList ++ ['\x7d']) ++ []) = none :=
    first?_append_of_ne rfl noPercent
  rw [List.append_nil] at behind
  rw [text]
  refine first?_cons_eq_none.2 ⟨?_, behind⟩
  cases read : read? ('%' :: '\x7b' :: (name.toList ++ ['\x7d'])) with
  | none => rfl
  | some found =>
    obtain ⟨pattern, after, word, readField, spelled⟩ := read?_iff_readField?.1 read
    obtain ⟨d, tail, mark, rfl⟩ : ∃ d tail, d ∈ ['%', ':', '\x7d'] ∧ after = d :: tail := by
      rcases readField?_eq_some_iff.1 readField with ⟨_, rfl⟩ | ⟨_, _, _, _, rfl⟩
      · exact ⟨_, _, by simp, rfl⟩
      · exact ⟨_, _, by simp, rfl⟩
    have meet : name.toList ++ ['\x7d'] = pattern.toList ++ d :: tail := by
      simpa using spelled
    have different : pattern.toList ≠ name.toList := fun same =>
      foreign (String.toList_inj.1 same ▸ word)
    -- The name of the pattern ends inside the name, at a mark, which the name does not hold.
    rcases List.append_eq_append_iff.1 meet with ⟨beyond, inside, rest⟩ | ⟨between, inside, rest⟩
    · cases beyond with
      | nil => exact absurd (by simpa using inside) different
      | cons e beyond => simp at rest
    · cases between with
      | nil => exact absurd (by simpa using inside.symm) different
      | cons e between =>
        obtain ⟨rfl, _⟩ := List.cons_eq_cons.1 rest
        exact absurd mark (allowed d (by simp [inside]))

end Token

namespace Library

open Expansion (Output Reached turn_of_some)

variable {library loaded : Library} {name body text : String} {count : Nat}

/-- A token that has a name only refers to the name, and its expansion enters the body, unless the
    token captures a field that no group name can carry. -/
structure Referable (library : Library) (name body : String) : Prop where
  read : Token.ofString? (Token.reference name) = some ⟨name, none, none⟩
  enters : ∀ namedOnly maxDepth, 0 < maxDepth →
    (namedOnly = false → FieldName.isReserved name = false) →
    ∃ out, Reached library (Token.reference name) namedOnly maxDepth
      [⟨some name, body.toList⟩, ⟨none, []⟩] out

/-- No token refers to a name, and what is written like one is left as it is. The name holds a
    character that is not part of words. -/
structure Stranded [Regex.Engine] (library : Library) (name : String) : Prop where
  foreign : ∃ c ∈ name.toList, isWord c = false ∧
    (isNumeric c = true ∨ newAlphabetic.contains c = true)
  unread : Token.ofString? (Token.reference name) = none
  stays : ∀ namedOnly maxDepth, ∃ result : Expansion,
    library.expand (Token.reference name) namedOnly maxDepth = .ok result ∧
      result.source = Token.reference name

theorem referable_of_isName (word : Token.IsName name) (defined : library.lookup? name = some body) :
    library.Referable name body := by
  refine ⟨?_, fun namedOnly maxDepth deep carried => ?_⟩
  · exact Token.ofChars?_eq_some_iff.2
      ⟨⟨word, by simp, by simp, by simp⟩, by simp [Token.reference]⟩
  · have answered : Expansion.body library maxDepth
        (Expansion.openNamesOf [⟨none, (Token.reference name).toList⟩]) 0 ⟨name, none, none⟩ =
        .ok body := by
      simp [Expansion.body, Expansion.openNamesOf, defined, Nat.pos_iff_ne_zero.1 deep]
    obtain ⟨out, opened⟩ : ∃ out, (({} : Output).emit (.text [])).openToken ⟨name, none, none⟩
        namedOnly = .ok out := by
      cases namedOnly with
      | true => exact ⟨_, rfl⟩
      | false => simp [Output.openToken, Token.fieldName?, carried rfl]
    exact ⟨out, .turn .start (turn_of_some (Token.first?_reference word) answered opened)⟩

theorem stranded_of_isRun [Regex.Engine] (run : Token.IsRun Listing.isNameChar name)
    (unnamed : ¬ Token.IsName name) : library.Stranded name := by
  have noMark : ∀ c ∈ ['%', ':', '\x7d'], Listing.isNameChar c = false := by
    simp only [List.forall_mem_cons, List.not_mem_nil, false_imp_iff, implies_true, and_true]
    decide
  have tokenless : Token.first? (Token.reference name).toList = none :=
    Token.first?_reference_none unnamed fun c member mark =>
      Bool.false_ne_true ((noMark c mark).symm.trans (run.2 c member))
  obtain ⟨c, member, foreign⟩ : ∃ c ∈ name.toList, isWord c = false := by
    by_contra none
    exact unnamed ⟨run.1, by simpa using none⟩
  refine ⟨⟨c, member, foreign, Listing.foreign_of_isNameChar (run.2 c member) foreign⟩, ?_,
    fun namedOnly maxDepth => ⟨_, Expansion.expand_of_tokenless library namedOnly maxDepth tokenless,
      by simp [Expansion.source]⟩⟩
  refine Option.eq_none_iff_forall_ne_some.2 fun token read => ?_
  obtain ⟨formed, spelled⟩ := Token.ofChars?_eq_some_iff.1 read
  have stands : (Token.reference name).toList = [] ++ token.chars ++ [] := by simpa using spelled
  exact Token.first?_ne_none formed stands tokenless

/-- A listing installs the last body that it has for a name. Tokens refer to the names that are
    words, and to no others. -/
theorem loadListing_referable [Regex.Engine] (library : Library) (text : String)
    (accepted : library.loadListing text = .ok (count, loaded)) :
    ∃ definitions, Listing.read text = .ok definitions ∧ count = definitions.length ∧
      ∀ name ∈ definitions.map (·.1), ∃ body, definitions.reverse.lookup name = some body ∧
        loaded.lookup? name = some body ∧
        (Token.IsName name → loaded.Referable name body) ∧
        (¬ Token.IsName name → loaded.Stranded name) := by
  cases read : Listing.read text with
  | error e => simp [loadListing, read, Except.map] at accepted
  | ok definitions =>
    obtain ⟨rfl, rfl⟩ : count = definitions.length ∧ loaded = library.defineAll definitions := by
      simpa [loadListing, read, Except.map, install, eq_comm] using accepted
    refine ⟨definitions, rfl, rfl, fun name member => ?_⟩
    obtain ⟨entry, listed, rfl⟩ := List.mem_map.1 member
    obtain ⟨body, last⟩ : ∃ body, definitions.reverse.lookup entry.1 = some body :=
      Option.isSome_iff_exists.1 <|
        List.lookup_isSome_iff.2 ⟨entry, List.mem_reverse.2 listed, beq_self_eq_true _⟩
    have defined : (library.defineAll definitions).lookup? entry.1 = some body := by
      rw [lookup?_defineAll, last, Option.some_or]
    exact ⟨body, last, defined, fun word => referable_of_isName word defined,
      fun unnamed => stranded_of_isRun (Listing.isRun_of_read read listed) unnamed⟩

/-- A listing that names one definition by a word, and one by a letter with an exponent. -/
def powers : String := "SIDE [0-9]+\nM² %\x7bSIDE\x7d x %\x7bSIDE\x7d\n"

/-- What the listing installs. -/
def squares : Library := (withBuiltin false).defineAll
  [("SIDE", "[0-9]+"), ("M²", "%\x7bSIDE\x7d x %\x7bSIDE\x7d")]

theorem read_powers : Listing.read powers =
    .ok [("SIDE", "[0-9]+"), ("M²", "%\x7bSIDE\x7d x %\x7bSIDE\x7d")] := by
  decide +kernel

theorem loadListing_powers : (withBuiltin false).loadListing powers = .ok (2, squares) := by
  rw [loadListing, read_powers]
  rfl

theorem loadListing_referable_powers :
    (withBuiltin false).loadListing powers = .ok (2, squares) ∧
      squares.Referable "SIDE" "[0-9]+" ∧ squares.Stranded "M²" := by
  obtain ⟨definitions, read, _, names⟩ := loadListing_referable _ _ loadListing_powers
  cases read_powers.symm.trans read
  obtain ⟨side, last, _, refers, _⟩ := names "SIDE" (by simp)
  obtain ⟨_, _, _, _, stranded⟩ := names "M²" (by simp)
  cases last
  have letters : "SIDE".toList.all isWord = true := by decide +kernel
  have foreign : isWord '²' = false := by decide +kernel
  exact ⟨loadListing_powers, refers ⟨by decide, List.all_eq_true.1 letters⟩,
    stranded fun word => Bool.false_ne_true (foreign.symm.trans (word.2 '²' (by simp)))⟩

/-- A listing is accepted and installs a definition that no token refers to. -/
theorem squared_unread : (withBuiltin false).loadListing powers = .ok (2, squares) ∧
    squares.lookup? "M²" = some "%\x7bSIDE\x7d x %\x7bSIDE\x7d" ∧
    Token.ofString? (Token.reference "M²") = none :=
  ⟨loadListing_powers, by decide +kernel, by decide +kernel⟩

end Library
end LogSift
