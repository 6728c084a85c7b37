import LogSift.Expansion
import Mathlib.Data.List.Nodup
import Mathlib.Data.List.Range
import Mathlib.Data.Nat.Find
import Mathlib.Logic.Function.Basic

/-!
Group names for one more capture. A number can be read back from its digits, so the candidates for a
name are distinct (`candidate_injective`); as there are more of them than names in use, the search
for a free one finds the first (`freshGroup_cases`).
-/

namespace LogSift

namespace Decimal

theorem toNat_digitChar : ∀ d < 10, (digitChar d).toNat = d + 48 := by decide

theorem mem_natDigits {n : Nat} {c : Char} (member : c ∈ natDigits n) :
    ∃ d < 10, c = digitChar d := by
  induction n using natDigits.induct with
  | case1 n small =>
    rw [natDigits, if_pos small, List.mem_singleton] at member
    exact ⟨n, small, member⟩
  | case2 n large ih =>
    rw [natDigits, if_neg large, List.mem_append, List.mem_singleton] at member
    rcases member with early | rfl
    · exact ih early
    · exact ⟨n % 10, Nat.mod_lt _ (by decide), rfl⟩

theorem decimal_append (sum : Nat) (left right : List Char) :
    Digits.decimal sum (left ++ right) = Digits.decimal (Digits.decimal sum left) right := by
  induction left generalizing sum with
  | nil => rfl
  | cons c left ih => exact ih _

/-- A whole number can be read back from its digits. -/
theorem decimal_natDigits (n : Nat) : Digits.decimal 0 (natDigits n) = n := by
  have digit : ∀ sum d, d < 10 → Digits.decimal sum [digitChar d] = sum * 10 + d := by
    intro sum d small
    change sum * 10 + ((digitChar d).toNat - 48) = _
    rw [toNat_digitChar d small, Nat.add_sub_cancel]
  induction n using natDigits.induct with
  | case1 n small => rw [natDigits, if_pos small, digit 0 n small, Nat.zero_mul, Nat.zero_add]
  | case2 n large ih =>
    rw [natDigits, if_neg large, decimal_append, ih, digit _ _ (Nat.mod_lt _ (by decide))]
    omega

theorem natDigits_injective : Function.Injective natDigits := by
  intro m n same
  rw [← decimal_natDigits m, same, decimal_natDigits]

theorem dash_not_mem_natDigits (n : Nat) : '-' ∉ natDigits n := by
  intro member
  obtain ⟨d, small, same⟩ := mem_natDigits member
  exact (by decide : ∀ d < 10, '-' ≠ digitChar d) d small same

theorem showInt_injective : Function.Injective showInt := by
  intro m n same
  have digits : intDigits m = intDigits n := by simpa [showInt] using congrArg String.toList same
  unfold intDigits at digits
  by_cases negative : m < 0 <;> by_cases negative' : n < 0
  · rw [if_pos negative, if_pos negative'] at digits
    have := natDigits_injective (List.cons.inj digits).2
    omega
  · rw [if_pos negative, if_neg negative'] at digits
    exact absurd (digits ▸ List.mem_cons_self) (dash_not_mem_natDigits n.natAbs)
  · rw [if_neg negative, if_pos negative'] at digits
    exact absurd (digits ▸ List.mem_cons_self) (dash_not_mem_natDigits m.natAbs)
  · rw [if_neg negative, if_neg negative'] at digits
    have := natDigits_injective digits
    omega

end Decimal

namespace Expansion

open Std (TreeSet)

/-- The names that a capture may get, in the order in which they are tried: the encoded field, and
    then its aliases, which count from 2. -/
def candidate (encoded : String) : Nat → String
  | 0 => encoded
  | k + 1 => numbered encoded (k + 2)

variable {used : TreeSet String} {encoded : String} {k : Nat}

/-- No number comes twice, not even after the largest. -/
theorem counter_inj {m n : Nat} (from2 : 2 ≤ m) (from2' : 2 ≤ n)
    (same : counter m = counter n) : m = n := by
  have wraps (k : Nat) : (Int32.ofNat k).toInt = Int.bmod k (2 ^ 32) := Int32.toInt_ofNat'
  have := Int32.toInt_lt (Int32.ofNat m)
  have := Int32.toInt_lt (Int32.ofNat n)
  unfold counter Int32.size at same
  split at same <;> split at same
  · rw [wraps, wraps] at same
    have remainders := congrArg (· % ((2 ^ 32 : Nat) : Int)) same
    simp only [Int.bmod_emod] at remainders
    omega
  all_goals omega

theorem numbered_inj {m n : Nat} (from2 : 2 ≤ m) (from2' : 2 ≤ n)
    (same : numbered encoded m = numbered encoded n) : m = n :=
  counter_inj from2 from2' (Decimal.showInt_injective ((String.append_right_inj _).1 same))

/-- No alias of a name is the name itself. -/
theorem numbered_ne (encoded : String) (n : Nat) : numbered encoded n ≠ encoded := by
  intro same
  have lengths := congrArg String.length same
  have separator : "__".length = 2 := rfl
  simp only [numbered, String.length_append, separator] at lengths
  omega

theorem candidate_injective (encoded : String) : Function.Injective (candidate encoded) := by
  intro j k same
  cases j with
  | zero =>
    cases k with
    | zero => rfl
    | succ k => exact absurd same.symm (numbered_ne encoded (k + 2))
  | succ j =>
    cases k with
    | zero => exact absurd same (numbered_ne encoded (j + 2))
    | succ k =>
      have := numbered_inj (by omega) (by omega) same
      omega

/-- There are no more candidates in use than names, as they are distinct. -/
theorem le_size_of_inUse (inUse : ∀ j < k, candidate encoded j ∈ used) : k ≤ used.size := by
  have distinct : ((List.range k).map (candidate encoded)).Nodup :=
    List.nodup_range.map (candidate_injective encoded)
  have among : (List.range k).map (candidate encoded) ⊆ used.toList := by
    intro name member
    obtain ⟨j, below, rfl⟩ := List.mem_map.1 member
    exact TreeSet.mem_toList.2 (inUse j (List.mem_range.1 below))
  simpa using distinct.length_le_of_subset among

/-- Where a name is in use, not all its aliases can be: the name and as many aliases as there are
    names in use are one too many. -/
theorem exists_free_alias (inUse : used.contains encoded = true) :
    ∃ n, 2 ≤ n ∧ n < 2 + used.size ∧ used.contains (numbered encoded n) = false := by
  by_contra none
  push Not at none
  have taken : ∀ j < used.size + 1, candidate encoded j ∈ used := by
    intro j below
    rw [← TreeSet.contains_iff_mem]
    cases j with
    | zero => exact inUse
    | succ j => simpa [candidate] using none (j + 2) (by omega) (by omega)
  have few := le_size_of_inUse taken
  omega

/-- A search for an alias from a number on ends at the first free one, if it has the fuel to get
    there. -/
theorem freshAlias_eq {n m fuel : Nat} (start : n ≤ m) (within : m ≤ n + fuel)
    (free : used.contains (numbered encoded m) = false)
    (first : ∀ k, n ≤ k → k < m → used.contains (numbered encoded k) = true) :
    freshAlias used encoded fuel n = numbered encoded m := by
  induction fuel generalizing n with
  | zero =>
    obtain rfl : n = m := by omega
    rfl
  | succ fuel ih =>
    rw [freshAlias]
    by_cases here : n = m
    · rw [if_neg (by simp [here, free]), here]
    · rw [if_pos (first n le_rfl (by omega))]
      exact ih (by omega) (by omega) fun k low high => first k (by omega) high

/-- A group name for one more capture is the encoded field if that is free, else its first free
    alias. -/
theorem freshGroup_cases (used : TreeSet String) (encoded : String) :
    (used.contains encoded = false ∧ freshGroup used encoded = encoded) ∨
    (used.contains encoded = true ∧ ∃ n, 2 ≤ n ∧ freshGroup used encoded = numbered encoded n ∧
      used.contains (numbered encoded n) = false ∧
      ∀ k, 2 ≤ k → k < n → used.contains (numbered encoded k) = true) := by
  unfold freshGroup
  cases inUse : used.contains encoded with
  | false => exact .inl ⟨rfl, rfl⟩
  | true =>
    have free := exists_free_alias inUse
    -- The least free number is where the search ends.
    classical
    obtain ⟨start, within, unused⟩ := Nat.find_spec free
    have first : ∀ k, 2 ≤ k → k < Nat.find free → used.contains (numbered encoded k) = true := by
      intro k low below
      have := Nat.find_min free below
      simp only [not_and] at this
      simpa using this low (by omega)
    refine .inr ⟨rfl, Nat.find free, start, ?_, unused, first⟩
    exact freshAlias_eq start (by omega) unused first

/-- A group name for one more capture is the first of its candidates that is not in use. -/
theorem exists_candidate (used : TreeSet String) (encoded : String) :
    ∃ n, freshGroup used encoded = candidate encoded n ∧ candidate encoded n ∉ used ∧
      ∀ j < n, candidate encoded j ∈ used := by
  have absent {name : String} (free : used.contains name = false) : name ∉ used := by
    rw [← TreeSet.contains_iff_mem, free]
    exact Bool.false_ne_true
  rcases freshGroup_cases used encoded with ⟨free, same⟩ | ⟨inUse, n, start, same, free, first⟩
  · exact ⟨0, same, absent free, fun j below => absurd below j.not_lt_zero⟩
  · obtain ⟨k, rfl⟩ := Nat.exists_eq_add_of_le' start
    refine ⟨k + 1, same, absent free, fun j below => ?_⟩
    cases j with
    | zero => exact inUse
    | succ j => exact first (j + 2) (by omega) (by omega)

/-- Only which names are in use matters for a group name, not how they are kept. -/
theorem freshGroup_congr {other : TreeSet String} (same : ∀ name, name ∈ used ↔ name ∈ other)
    (encoded : String) : freshGroup used encoded = freshGroup other encoded := by
  obtain ⟨m, found, unused, first⟩ := exists_candidate used encoded
  obtain ⟨n, found', unused', first'⟩ := exists_candidate other encoded
  rcases Nat.lt_trichotomy m n with below | rfl | above
  · exact absurd ((same _).2 (first' m below)) unused
  · rw [found, found']
  · exact absurd ((same _).1 (first n above)) unused'

/-- A group name for one more capture is not in use. -/
theorem freshGroup_free (used : TreeSet String) (encoded : String) :
    used.contains (freshGroup used encoded) = false := by
  rcases freshGroup_cases used encoded with ⟨free, same⟩ | ⟨_, _, _, same, free, _⟩
  · rw [same, free]
  · rw [same, free]

end Expansion

end LogSift
