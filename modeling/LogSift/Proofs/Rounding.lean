import LogSift.Decimal.Binary64
import Mathlib.Algebra.Order.Ring.Nat
import Mathlib.Tactic.Ring

/-!
How rounding orders numbers. A finite number counts units of `2 ^ -1074`, more of them the larger its
bits are; whole numbers keep their order when they are rounded (`magnitude_ofInt_mono`), and what is
not more than one is not more than one afterwards (`magnitude_ofRatio_le`). So the quotient of two
whole numbers, the second not less than the first, lies between zero and one (`isFraction_div`).
-/

namespace LogSift.Decimal.Binary64

variable {num den other : Nat} {x y : Binary64}

/-- A finite number between zero and one. -/
structure IsFraction (x : Binary64) : Prop where
  sign : x.isNegative = false
  number : x.isNaN = false
  finite : x.isInfinite = false
  atMostOne : x.ratio.1 ≤ x.ratio.2

/-- How often a finite number holds the smallest one that is not zero. -/
def units (x : Binary64) : Nat := x.significand * 2 ^ x.raisedExponent

/-! ### Bits and units -/

theorem toNat_ofParts {magnitude : Nat} (small : magnitude ≤ infinityBits) :
    (ofParts false magnitude).bits.toNat = magnitude ∧ magnitude < 2 ^ 63 := by
  have bound : infinityBits < 2 ^ 63 := by decide
  refine ⟨?_, by omega⟩
  change (magnitude + 0) % 2 ^ 64 = magnitude
  omega

theorem magnitude_ofParts {magnitude : Nat} (small : magnitude ≤ infinityBits) :
    (ofParts false magnitude).magnitude = magnitude := by
  obtain ⟨bits, fits⟩ := toNat_ofParts small
  rw [Binary64.magnitude, bits, Nat.pow_eq, Nat.mod_eq_of_lt fits]

theorem isNegative_ofParts {magnitude : Nat} (small : magnitude ≤ infinityBits) :
    (ofParts false magnitude).isNegative = false := by
  obtain ⟨bits, fits⟩ := toNat_ofParts small
  rw [isNegative, bits, decide_eq_false_iff_not, Nat.pow_eq]
  omega

theorem ratio_units (x : Binary64) {least : Nat} (scale : least = 52 + 1022) :
    x.ratio.1 * 2 ^ least = x.units * x.ratio.2 := by
  have split : 2 ^ (x.raisedExponent - 1074) * 2 ^ least =
      2 ^ x.raisedExponent * 2 ^ (1074 - x.raisedExponent) := by
    have exponents :
        x.raisedExponent - 1074 + least = x.raisedExponent + (1074 - x.raisedExponent) := by
      omega
    rw [← Nat.pow_add, ← Nat.pow_add, exponents]
  simp only [ratio, units, Nat.pow_eq, Nat.mul_assoc, split]

theorem units_one : (ofParts false (1023 * 2 ^ 52)).units = 2 ^ 52 * 2 ^ 1022 := by
  have bits : (ofParts false (1023 * 2 ^ 52)).magnitude = 1023 * 2 ^ 52 :=
    magnitude_ofParts (by decide)
  have least : ¬ 1023 * 2 ^ 52 < Nat.pow 2 52 := by decide
  have significand : 1023 * 2 ^ 52 % Nat.pow 2 52 + Nat.pow 2 52 = 2 ^ 52 := by decide
  have raised : 1023 * 2 ^ 52 / Nat.pow 2 52 - 1 = 1022 := by decide
  rw [units, Binary64.significand, raisedExponent, bits, if_neg least, significand, raised]

/-- All numbers are counted in units of one size, and these are the units of one. -/
theorem exists_scale : ∃ scale, 0 < scale ∧ (ofParts false (1023 * 2 ^ 52)).units = scale ∧
    ∀ x : Binary64, x.ratio.1 * scale = x.units * x.ratio.2 := by
  obtain ⟨least, told⟩ : ∃ least, least = 52 + 1022 := ⟨_, rfl⟩
  refine ⟨2 ^ least, Nat.two_pow_pos _, ?_, fun x => ratio_units x told⟩
  rw [units_one, told, Nat.pow_add]

/-- Larger bits are more units. -/
theorem units_mono (ordered : x.magnitude ≤ y.magnitude) : x.units ≤ y.units := by
  simp only [units, significand, raisedExponent, Nat.pow_eq]
  generalize x.magnitude = m at *
  generalize y.magnitude = n at *
  have bound : n % 2 ^ 52 < 2 ^ 52 := Nat.mod_lt _ (by decide)
  by_cases small : n < 2 ^ 52
  · have smaller : m < 2 ^ 52 := by omega
    rw [if_pos small, if_pos smaller, Nat.div_eq_of_lt small, Nat.div_eq_of_lt smaller]
    exact Nat.mul_le_mul_right _ ordered
  · rw [if_neg small]
    have least : 2 ^ 52 ≤ (n % 2 ^ 52 + 2 ^ 52) * 2 ^ (n / 2 ^ 52 - 1) :=
      Nat.le_mul_of_pos_right _ (Nat.two_pow_pos _) |>.trans' (by omega)
    by_cases smaller : m < 2 ^ 52
    · rw [if_pos smaller, Nat.div_eq_of_lt smaller]
      omega
    · rw [if_neg smaller]
      rcases (Nat.div_le_div_right ordered : m / 2 ^ 52 ≤ n / 2 ^ 52).eq_or_lt with same | less
      · rw [same]
        exact Nat.mul_le_mul_right _ (by omega)
      · -- The significand is below the next power of two, which the larger exponent makes up for.
        have below : m % 2 ^ 52 + 2 ^ 52 ≤ 2 * 2 ^ 52 := by omega
        calc (m % 2 ^ 52 + 2 ^ 52) * 2 ^ (m / 2 ^ 52 - 1)
            ≤ 2 * 2 ^ 52 * 2 ^ (m / 2 ^ 52 - 1) := Nat.mul_le_mul_right _ below
          _ = 2 ^ 52 * 2 ^ (m / 2 ^ 52 - 1 + 1) := by rw [Nat.pow_succ]; ring
          _ ≤ 2 ^ 52 * 2 ^ (n / 2 ^ 52 - 1) :=
            Nat.mul_le_mul_left _ (Nat.pow_le_pow_right (by decide) (by omega))
          _ ≤ (n % 2 ^ 52 + 2 ^ 52) * 2 ^ (n / 2 ^ 52 - 1) := Nat.mul_le_mul_right _ (by omega)

/-- A quotient of numbers whose bits are in order is not more than one. -/
theorem ratio_le_ratio (ordered : x.magnitude ≤ y.magnitude) :
    x.ratio.1 * y.ratio.2 ≤ x.ratio.2 * y.ratio.1 := by
  obtain ⟨scale, positive, -, counted⟩ := exists_scale
  have scaled : x.ratio.1 * y.ratio.2 * scale ≤ x.ratio.2 * y.ratio.1 * scale :=
    calc x.ratio.1 * y.ratio.2 * scale
        = x.ratio.1 * scale * y.ratio.2 := by rw [Nat.mul_right_comm]
      _ = x.units * (x.ratio.2 * y.ratio.2) := by rw [counted, Nat.mul_assoc]
      _ ≤ y.units * (x.ratio.2 * y.ratio.2) := Nat.mul_le_mul_right _ (units_mono ordered)
      _ = x.ratio.2 * (y.units * y.ratio.2) := by ring
      _ = x.ratio.2 * y.ratio.1 * scale := by rw [← counted, Nat.mul_assoc]
  exact Nat.le_of_mul_le_mul_right scaled positive

/-! ### Rounding a ratio -/

theorem roundDiv_le {bound : Nat} (le : num ≤ bound * den) (pos : 0 < den) :
    roundDiv num den ≤ bound := by
  have whole := Nat.div_add_mod num den
  have least : num / den ≤ bound := Nat.div_le_of_le_mul (by rwa [Nat.mul_comm])
  rcases least.eq_or_lt with same | less
  · have none : num % den = 0 := by
      rw [same, Nat.mul_comm] at whole
      omega
    simp only [roundDiv, none]
    rw [if_neg (by omega)]
    exact least
  · simp only [roundDiv]
    split <;> omega

/-- A larger numerator does not round to less. -/
theorem roundDiv_mono (le : num ≤ other) :
    roundDiv num den ≤ roundDiv other den := by
  have ordered : num / den ≤ other / den := Nat.div_le_div_right le
  have whole := Nat.div_add_mod num den
  have whole' := Nat.div_add_mod other den
  rcases ordered.eq_or_lt with same | less
  · rw [← same] at whole'
    simp only [roundDiv, ← same]
    split <;> split <;> omega
  · simp only [roundDiv]
    split <;> split <;> omega

theorem le_roundDiv (num den : Nat) : num / den ≤ roundDiv num den := by
  simp only [roundDiv]
  split <;> omega

theorem log2_mono (pos : 0 < num) (le : num ≤ den) : num.log2 ≤ den.log2 :=
  (Nat.le_log2 (by omega)).2 ((Nat.log2_self_le pos.ne').trans le)

theorem ofRatio_zero (negative : Bool) (den : Nat) : ofRatio negative 0 den = zero negative :=
  if_pos rfl

/-- A ratio of at most one is rounded to a count of units below `2 ^ -52`, at most `2 ^ 53` of them. -/
theorem ofRatio_eq (pos : 0 < num) (le : num ≤ den) : ∃ raised ≤ 1022,
    num * 2 ^ (1074 - raised) ≤ 2 ^ 53 * den ∧
      ofRatio false num den = ofParts false
        (min (raised * 2 ^ 52 + roundDiv (num * 2 ^ (1074 - raised)) den) infinityBits) := by
  have logs : num.log2 ≤ den.log2 := log2_mono pos le
  have upper : num < 2 ^ (num.log2 + 1) := Nat.lt_log2_self
  have lower : 2 ^ den.log2 ≤ den := Nat.log2_self_le (by omega)
  simp only [ofRatio, Nat.pow_eq, if_neg pos.ne']
  generalize scaled : num.log2 + 1126 - den.log2 - 104 = first
  have whole : first - 1074 = 0 := by omega
  have fits : num * 2 ^ (1074 - first) ≤ 2 ^ 53 * den := by
    have shift : num.log2 + 1 + (1074 - first) ≤ 53 + den.log2 := by omega
    calc num * 2 ^ (1074 - first)
        ≤ 2 ^ (num.log2 + 1) * 2 ^ (1074 - first) := Nat.mul_le_mul_right _ upper.le
      _ = 2 ^ (num.log2 + 1 + (1074 - first)) := (Nat.pow_add ..).symm
      _ ≤ 2 ^ (53 + den.log2) := Nat.pow_le_pow_right (by decide) shift
      _ = 2 ^ 53 * 2 ^ den.log2 := Nat.pow_add ..
      _ ≤ 2 ^ 53 * den := Nat.mul_le_mul_left _ lower
  simp only [whole, Nat.pow_zero, Nat.mul_one]
  split
  · next small =>
    rw [Nat.div_lt_iff_lt_mul (pos.trans_le le)] at small
    refine ⟨first - 1, by omega, ?_, ?_⟩
    · rcases Nat.eq_zero_or_pos first with none | some
      · rwa [Nat.sub_eq_zero_of_le (by omega : first ≤ 1), ← none]
      · -- One place more only doubles what was below `2 ^ 52` of the larger units.
        rw [show 1074 - (first - 1) = 1074 - first + 1 by omega, Nat.pow_succ, ← Nat.mul_assoc]
        omega
    · have below : first - 1 - 1074 = 0 := Nat.sub_eq_zero_of_le (by omega)
      rw [below, Nat.pow_zero, Nat.mul_one]
  · exact ⟨first, by omega, fits, by rw [whole, Nat.pow_zero, Nat.mul_one]⟩

/-- What is not more than one is rounded to at most one, whose bits are `1023 * 2 ^ 52`. -/
theorem magnitude_ofRatio_le (le : num ≤ den) :
    (ofRatio false num den).isNegative = false ∧
      (ofRatio false num den).magnitude ≤ 1023 * 2 ^ 52 := by
  rcases Nat.eq_zero_or_pos num with rfl | pos
  · rw [ofRatio_zero, zero]
    exact ⟨isNegative_ofParts (by decide), (magnitude_ofParts (by decide)).le.trans (by decide)⟩
  obtain ⟨raised, least, fits, rounded⟩ := ofRatio_eq pos le
  have significand : roundDiv (num * 2 ^ (1074 - raised)) den ≤ 2 ^ 52 * (1023 - raised) := by
    refine roundDiv_le ?_ (pos.trans_le le)
    rcases least.eq_or_lt with rfl | less
    · omega
    · exact fits.trans (Nat.mul_le_mul_right _ (by omega))
  rw [rounded]
  refine ⟨isNegative_ofParts (Nat.min_le_right ..), ?_⟩
  rw [magnitude_ofParts (Nat.min_le_right ..)]
  refine (Nat.min_le_left ..).trans ?_
  omega

/-! ### Whole numbers -/

/-- Under the exponent of a whole number, its significand takes 53 places. -/
theorem significand_full {n : Nat} (pos : 0 < n) :
    2 ^ 52 ≤ n * 2 ^ (52 - n.log2) / 2 ^ (n.log2 - 52) := by
  rw [Nat.le_div_iff_mul_le (Nat.two_pow_pos _), ← Nat.pow_add]
  calc 2 ^ (52 + (n.log2 - 52))
      = 2 ^ n.log2 * 2 ^ (52 - n.log2) := by
        rw [← Nat.pow_add, show n.log2 + (52 - n.log2) = 52 + (n.log2 - 52) by omega]
    _ ≤ n * 2 ^ (52 - n.log2) := Nat.mul_le_mul_right _ (Nat.log2_self_le pos.ne')

/-- The bits of a whole number: its first 53 places, rounded, under its exponent. -/
theorem ofInt_eq {n : Nat} (pos : 0 < n) : ofInt n = ofParts false
    (min ((n.log2 + 1022) * 2 ^ 52 + roundDiv (n * 2 ^ (52 - n.log2)) (2 ^ (n.log2 - 52)))
      infinityBits) := by
  have single : Nat.log2 1 = 0 := by decide
  have first : n.log2 + 1126 - Nat.log2 1 - 104 = n.log2 + 1022 := by
    rw [single, Nat.sub_zero]
    exact Nat.add_sub_cancel (n.log2 + 1022) 104
  have up : 1074 - (n.log2 + 1022) = 52 - n.log2 := by omega
  have down : n.log2 + 1022 - 1074 = n.log2 - 52 := Nat.add_sub_add_right n.log2 1022 52
  have full := Nat.not_lt.2 (significand_full pos)
  have sign : decide ((n : Int) < 0) = false := decide_eq_false (by omega)
  simp only [ofInt, ofRatio, Int.natAbs_natCast, Nat.pow_eq, if_neg pos.ne', first, up, down,
    Nat.one_mul, if_neg full, sign]

theorem magnitude_ofInt {n : Nat} (pos : 0 < n) : (ofInt n).magnitude =
    min ((n.log2 + 1022) * 2 ^ 52 + roundDiv (n * 2 ^ (52 - n.log2)) (2 ^ (n.log2 - 52)))
      infinityBits := by
  rw [ofInt_eq pos, magnitude_ofParts (Nat.min_le_right ..)]

theorem ofInt_zero : ofInt (0 : Nat) = zero false := ofRatio_zero ..

/-- Whole numbers keep their order. -/
theorem magnitude_ofInt_mono {m n : Nat} (le : m ≤ n) :
    (ofInt m).magnitude ≤ (ofInt n).magnitude := by
  rcases Nat.eq_zero_or_pos m with rfl | pos
  · rw [ofInt_zero, zero, magnitude_ofParts (by decide)]
    exact Nat.zero_le _
  rw [magnitude_ofInt pos, magnitude_ofInt (pos.trans_le le)]
  refine min_le_min_right _ ?_
  rcases (log2_mono pos le).eq_or_lt with same | less
  · rw [same]
    exact Nat.add_le_add_left (roundDiv_mono (Nat.mul_le_mul_right _ le)) _
  · -- The significand and its carry stay below what the next exponent begins with.
    have upper : m * 2 ^ (52 - m.log2) ≤ 2 ^ 53 * 2 ^ (m.log2 - 52) :=
      calc m * 2 ^ (52 - m.log2)
          ≤ 2 ^ (m.log2 + 1) * 2 ^ (52 - m.log2) := Nat.mul_le_mul_right _ Nat.lt_log2_self.le
        _ = 2 ^ 53 * 2 ^ (m.log2 - 52) := by
          rw [← Nat.pow_add, ← Nat.pow_add,
            show m.log2 + 1 + (52 - m.log2) = 53 + (m.log2 - 52) by omega]
    have carried := roundDiv_le upper (Nat.two_pow_pos _)
    have begun := (significand_full (pos.trans_le le)).trans (le_roundDiv ..)
    omega

/-! ### Quotients -/

theorem ratio_ofInt_ne_zero {n : Nat} (pos : 0 < n) : (ofInt n).ratio.1 ≠ 0 := by
  have large : ¬ (ofInt n).magnitude < 2 ^ 52 := by
    rw [magnitude_ofInt pos, Nat.not_lt, Nat.le_min]
    have unit : 2 ^ 52 ≤ infinityBits := by decide
    omega
  simp only [ratio, significand, Nat.pow_eq, if_neg large]
  exact Nat.mul_ne_zero (by omega) (Nat.two_pow_pos _).ne'

/-- At most one are the numbers whose bits are at most those of one. -/
theorem isFraction_of_magnitude_le (sign : x.isNegative = false)
    (small : x.magnitude ≤ 1023 * 2 ^ 52) : x.IsFraction := by
  have below : x.magnitude < infinityBits := small.trans_lt (by decide)
  have least : x.units ≤ (ofParts false (1023 * 2 ^ 52)).units :=
    units_mono (small.trans_eq (magnitude_ofParts (by decide)).symm)
  refine ⟨sign, decide_eq_false (by omega), beq_eq_false_iff_ne.2 (by omega), ?_⟩
  obtain ⟨scale, positive, one, counted⟩ := exists_scale
  have scaled : x.ratio.1 * scale ≤ x.ratio.2 * scale :=
    calc x.ratio.1 * scale
        = x.units * x.ratio.2 := counted x
      _ ≤ scale * x.ratio.2 := Nat.mul_le_mul_right _ (one ▸ least)
      _ = x.ratio.2 * scale := Nat.mul_comm ..
  exact Nat.le_of_mul_le_mul_right scaled positive

/-- The quotient of two numbers in order lies between zero and one. -/
theorem isFraction_div (ordered : x.magnitude ≤ y.magnitude) : (x.div y).IsFraction := by
  obtain ⟨sign, small⟩ := magnitude_ofRatio_le (ratio_le_ratio ordered)
  exact isFraction_of_magnitude_le sign small

theorem isFraction_zero : (zero false).IsFraction :=
  isFraction_of_magnitude_le (by decide) (by decide)

end LogSift.Decimal.Binary64
