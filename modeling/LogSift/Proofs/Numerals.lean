import LogSift.Proofs.Alias
import LogSift.Proofs.Classified
import Mathlib.Data.Nat.Digits.Defs

/-!
Whole numbers as text. The hint of whole numbers takes a text exactly if it is a numeral whose
number fits 64 bits with a sign, and makes that number of it; what values are shown as is read back
by the hint of their own kind (`Hint.convert_exact`).
-/

namespace LogSift

namespace Decimal

/-- Decimal digits, and at least one of them. -/
structure Digital (cs : List Char) : Prop where
  nonempty : cs ≠ []
  digits : ∀ c ∈ cs, '0' ≤ c ∧ c ≤ '9'

/-- What digits are worth: the last one counts ones, and every other one ten times as much as the
    one after it. -/
def worth (cs : List Char) : Nat := Nat.ofDigits 10 (cs.reverse.map fun c => c.toNat - '0'.toNat)

/-- A numeral and its number: digits, and at most one sign before them. -/
inductive Denotes : List Char → Int → Prop where
  | plain {cs : List Char} (digital : Digital cs) : Denotes cs (worth cs)
  | plus {cs : List Char} (digital : Digital cs) : Denotes ('+' :: cs) (worth cs)
  | minus {cs : List Char} (digital : Digital cs) : Denotes ('-' :: cs) (-worth cs)

/-- The numbers of 64 bits with a sign. -/
def Fits (n : Int) : Prop := -2 ^ 63 ≤ n ∧ n ≤ 2 ^ 63 - 1

variable {c : Char} {cs : List Char} {d n sum limit : Nat} {overflow : ReadError} {z : Int}

/-! ### Digits -/

theorem worth_cons (c : Char) (cs : List Char) :
    worth (c :: cs) = (c.toNat - '0'.toNat) * 10 ^ cs.length + worth cs := by
  simp only [worth, List.reverse_cons, List.map_append, List.map_cons, List.map_nil,
    Nat.ofDigits_append, Nat.ofDigits_singleton, List.length_map, List.length_reverse]
  ring

theorem decimal_cons (sum : Nat) (c : Char) (cs : List Char) :
    Digits.decimal sum (c :: cs) = Digits.decimal (sum * 10 + (c.toNat - '0'.toNat)) cs := by
  -- Asked for equality as it stands, Lean compares the sums by counting.
  delta Digits.decimal
  rfl

/-- Digits after a number raise it by as many places as they are. -/
theorem decimal_eq (sum : Nat) (cs : List Char) :
    Digits.decimal sum cs = sum * 10 ^ cs.length + worth cs := by
  induction cs generalizing sum with
  | nil => exact (Nat.mul_one sum).symm
  | cons c cs ih =>
    rw [decimal_cons, ih, worth_cons, List.length_cons, pow_succ]
    ring

theorem decimal_of_zero (cs : List Char) : Digits.decimal 0 cs = worth cs := by
  rw [decimal_eq, Nat.zero_mul, Nat.zero_add]

theorem le_decimal (sum : Nat) (cs : List Char) : sum ≤ Digits.decimal sum cs := by
  rw [decimal_eq]
  exact (Nat.le_mul_of_pos_right sum (by positivity)).trans (Nat.le_add_right _ _)

theorem digital_cons :
    Digital (c :: cs) ↔ ('0' ≤ c ∧ c ≤ '9') ∧ ∀ c ∈ cs, '0' ≤ c ∧ c ≤ '9' := by
  refine ⟨fun digital => List.forall_mem_cons.1 digital.digits, fun digits => ⟨by simp, ?_⟩⟩
  exact List.forall_mem_cons.2 digits

/-! ### Reading -/

theorem readDigits_eq_ok (within : sum ≤ limit) :
    readDigits limit overflow sum cs = .ok n ↔
      (∀ c ∈ cs, '0' ≤ c ∧ c ≤ '9') ∧ Digits.decimal sum cs = n ∧ n ≤ limit := by
  induction cs generalizing sum with
  | nil =>
    have shown : Digits.decimal sum [] = sum := rfl
    simp only [readDigits, shown, Except.ok.injEq, List.not_mem_nil, false_implies,
      implies_true, true_and]
    exact ⟨fun same => ⟨same, same ▸ within⟩, And.left⟩
  | cons c cs ih =>
    rw [readDigits, digitValue?, List.forall_mem_cons, decimal_cons]
    by_cases digit : '0' ≤ c ∧ c ≤ '9'
    · rw [if_pos digit]
      by_cases beyond : limit < sum * 10 + (c.toNat - '0'.toNat)
      · -- More digits only make the number greater.
        have grown := le_decimal (sum * 10 + (c.toNat - '0'.toNat)) cs
        simp only [if_pos beyond, reduceCtorEq, false_iff]
        rintro ⟨-, rfl, fits⟩
        omega
      · simp only [if_neg beyond, ih (Nat.not_lt.1 beyond), digit, true_and]
    · rw [if_neg digit]
      exact ⟨nofun, fun digits => (digit digits.1.1).elim⟩

theorem readMagnitude_eq_ok :
    readMagnitude limit overflow cs = .ok n ↔ Digital cs ∧ worth cs = n ∧ n ≤ limit := by
  cases cs with
  | nil => exact ⟨nofun, fun ⟨digital, _⟩ => (digital.nonempty rfl).elim⟩
  | cons c cs =>
    rw [readMagnitude, readDigits_eq_ok (Nat.zero_le _), decimal_of_zero, digital_cons,
      List.forall_mem_cons]
    exact nofun

theorem denotes_plus : Denotes ('+' :: cs) z ↔ Digital cs ∧ z = worth cs := by
  refine ⟨?_, fun ⟨digital, same⟩ => same ▸ .plus digital⟩
  rintro (digital | digital)
  · exact absurd (digital_cons.1 digital).1 (by decide)
  · exact ⟨digital, rfl⟩

theorem denotes_minus : Denotes ('-' :: cs) z ↔ Digital cs ∧ z = -worth cs := by
  refine ⟨?_, fun ⟨digital, same⟩ => same ▸ .minus digital⟩
  rintro (digital | _ | digital)
  · exact absurd (digital_cons.1 digital).1 (by decide)
  · exact ⟨digital, rfl⟩

theorem denotes_unsigned (minus : ∀ rest, cs ≠ '-' :: rest) (plus : ∀ rest, cs ≠ '+' :: rest) :
    Denotes cs z ↔ Digital cs ∧ z = worth cs := by
  refine ⟨?_, fun ⟨digital, same⟩ => same ▸ .plain digital⟩
  rintro (digital | digital | digital)
  · exact ⟨digital, rfl⟩
  · exact (plus _ rfl).elim
  · exact (minus _ rfl).elim

theorem fits_natCast : Fits n ↔ n ≤ Nat.pow 2 63 - 1 := by
  have limit : Nat.pow 2 63 = 2 ^ 63 := rfl
  rw [Fits, limit]
  omega

theorem fits_neg_natCast : Fits (-n) ↔ n ≤ Nat.pow 2 63 := by
  have limit : Nat.pow 2 63 = 2 ^ 63 := rfl
  rw [Fits, limit]
  omega

theorem map_eq_ok {α β ε : Type} {read : Except ε α} {make : α → β} {b : β} :
    read.map make = .ok b ↔ ∃ a, read = .ok a ∧ make a = b := by
  cases read with
  | error e => exact ⟨nofun, nofun⟩
  | ok a => exact ⟨fun made => ⟨a, rfl, by cases made; rfl⟩, by rintro ⟨_, ⟨⟩, rfl⟩; rfl⟩

theorem mapError_eq_ok {α ε ε' : Type} {read : Except ε α} {refuse : ε → ε'} {a : α} :
    read.mapError refuse = .ok a ↔ read = .ok a := by
  cases read with
  | error e => exact ⟨nofun, nofun⟩
  | ok b => exact ⟨fun same => congrArg Except.ok (Except.ok.inj same), fun same => by rw [same]; rfl⟩

/-- A text is read as a whole number exactly if it is a numeral whose number fits. -/
theorem readInteger_eq_ok : readInteger cs = .ok z ↔ Denotes cs z ∧ Fits z := by
  -- Digits are within the limit of their sign exactly if the number with its sign fits.
  have signed {value : Nat → Int} {limit : Nat} {overflow : ReadError}
      (within : ∀ n, Fits (value n) ↔ n ≤ limit) (cs : List Char) :
      (readMagnitude limit overflow cs).map value = .ok z ↔
        (Digital cs ∧ z = value (worth cs)) ∧ Fits z := by
    simp only [map_eq_ok, readMagnitude_eq_ok]
    constructor
    · rintro ⟨_, ⟨digital, rfl, fits⟩, rfl⟩
      exact ⟨⟨digital, rfl⟩, (within _).2 fits⟩
    · rintro ⟨⟨digital, rfl⟩, fits⟩
      exact ⟨_, ⟨digital, rfl, (within _).1 fits⟩, rfl⟩
  unfold readInteger
  split
  · refine ⟨nofun, fun ⟨numeral, _⟩ => ?_⟩
    obtain ⟨digital, -⟩ := (denotes_unsigned (by simp) (by simp)).1 numeral
    exact (digital.nonempty rfl).elim
  · rw [signed fun _ => fits_neg_natCast, denotes_minus]
  · rw [signed fun _ => fits_natCast, denotes_plus]
  · next minus plus => rw [signed fun _ => fits_natCast, denotes_unsigned minus plus]

/-! ### Writing -/

theorem digital_natDigits (n : Nat) : Digital (natDigits n) where
  nonempty := by
    rw [natDigits]
    split
    · exact List.cons_ne_nil _ _
    · exact List.append_ne_nil_of_right_ne_nil _ (List.cons_ne_nil _ _)
  digits c member := by
    obtain ⟨d, small, rfl⟩ := mem_natDigits member
    exact (by decide : ∀ d < 10, '0' ≤ digitChar d ∧ digitChar d ≤ '9') d small

theorem worth_natDigits (n : Nat) : worth (natDigits n) = n := by
  rw [← decimal_of_zero, decimal_natDigits]

/-- What a whole number is shown as is a numeral of it. -/
theorem denotes_intDigits (z : Int) : Denotes (intDigits z) z := by
  rw [intDigits]
  split
  · next negative =>
    have numeral := Denotes.minus (digital_natDigits z.natAbs)
    rwa [worth_natDigits, Int.ofNat_natAbs_of_nonpos negative.le, neg_neg] at numeral
  · next natural =>
    have numeral := Denotes.plain (digital_natDigits z.natAbs)
    rwa [worth_natDigits, Int.natAbs_of_nonneg (Int.not_lt.1 natural)] at numeral

/-- The numbers that fit are those of the fields. -/
theorem fits_iff : Fits z ↔ ∃ n : Int64, n.toInt = z := by
  constructor
  · rintro ⟨low, high⟩
    exact ⟨.ofInt z, Int64.toInt_ofInt_of_le low (by omega)⟩
  · rintro ⟨n, rfl⟩
    have high := n.toInt_lt
    exact ⟨n.le_toInt, by omega⟩

end Decimal

/-! ### Conversion -/

namespace Hint

open Decimal (Denotes Fits)

/-- Conversion for a field is exact on whole numbers, and undoes how values are shown. -/
structure Exact (field : String) : Prop where
  /-- The texts that are taken are the numerals of numbers of 64 bits with a sign. -/
  taken : ∀ raw : String, (∃ value, int.convert field raw = .ok value) ↔
    ∃ z, Denotes raw.toList z ∧ Fits z
  /-- A text that is taken becomes the number that it denotes. -/
  number : ∀ raw value, int.convert field raw = .ok value ↔
    ∃ n : Int64, value = .int n ∧ Denotes raw.toList n.toInt
  /-- All other texts are reported with the field, the type and the text. -/
  refused : ∀ raw : String,
    (∃ reason, int.convert field raw = .error (.conversion field "int" raw reason)) ↔
      ¬ ∃ z, Denotes raw.toList z ∧ Fits z
  shownInt : ∀ n, int.convert field (Value.int n).display = .ok (.int n)
  shownBool : ∀ b, bool.convert field (Value.bool b).display = .ok (.bool b)
  shownText : ∀ s, text.convert field (Value.text s).display = .ok (.text s)

variable {field raw : String} {value : Value}

theorem int_convert_eq_ok : int.convert field raw = .ok value ↔
    ∃ n : Int64, value = .int n ∧ Denotes raw.toList n.toInt := by
  simp only [convert, Decimal.mapError_eq_ok, Decimal.map_eq_ok, Decimal.readInteger_eq_ok,
    Decimal.fits_iff]
  constructor
  · rintro ⟨_, ⟨numeral, n, rfl⟩, rfl⟩
    exact ⟨n, by rw [Int64.ofInt_toInt], numeral⟩
  · rintro ⟨n, rfl, numeral⟩
    exact ⟨n.toInt, ⟨numeral, n, rfl⟩, by rw [Int64.ofInt_toInt]⟩

theorem int_convert_succeeds : (∃ value, int.convert field raw = .ok value) ↔
    ∃ z, Denotes raw.toList z ∧ Fits z := by
  simp only [int_convert_eq_ok, Decimal.fits_iff]
  constructor
  · rintro ⟨_, n, -, numeral⟩
    exact ⟨n.toInt, numeral, n, rfl⟩
  · rintro ⟨_, numeral, n, rfl⟩
    exact ⟨_, n, rfl, numeral⟩

/-- The hint of whole numbers takes exactly the numerals of numbers of 64 bits with a sign, each as
    its number, and all that values are shown as is converted back. -/
theorem convert_exact (field : String) : Exact field where
  taken _ := int_convert_succeeds
  number _ _ := int_convert_eq_ok
  refused raw := by
    rw [← @int_convert_succeeds field]
    cases converted : int.convert field raw with
    | ok value => exact ⟨nofun, fun none => (none ⟨value, rfl⟩).elim⟩
    | error e =>
      rcases convert_eq_error converted with ⟨_, ⟨⟩, _⟩ | ⟨reason, -, rfl⟩
      exact ⟨fun _ => nofun, fun _ => ⟨reason, rfl⟩⟩
  shownInt n := by
    refine int_convert_eq_ok.2 ⟨n, rfl, ?_⟩
    simpa [Value.display, Decimal.showInt] using Decimal.denotes_intDigits n.toInt
  shownBool b := by cases b <;> rfl
  shownText _ := rfl

/-- Zeros in front do not count, and only the least number reaches past the greatest. -/
example : int.convert "n" "-009223372036854775808" = .ok (.int Int64.minValue) ∧
    int.convert "n" "+9223372036854775808" = .error (.conversion "n" "int" "+9223372036854775808"
      "number too large to fit in target type") := by
  decide

end Hint

end LogSift
