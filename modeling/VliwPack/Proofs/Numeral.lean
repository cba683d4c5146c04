import Mathlib.Data.List.Basic
import Mathlib.Data.List.Induction
import VliwPack.Numeral

/-! # What numerals spell

A numeral spells a number if it writes it in decimal without a leading zero
(`Numeral.Spells`). Reading a text gives exactly the number it spells
(`Numeral.read?_eq_some_iff`), and a number is spelled by its own numeral alone
(`Numeral.Spells.eq_digits`).
-/

namespace VliwPack.Numeral

variable {text : List Char} {c : Char} {n : Nat}

/-- The text writes the number in decimal, without sign and without a leading zero. -/
structure Spells (text : List Char) (n : Nat) : Prop where
  nonempty : text ≠ []
  decimal : ∀ c ∈ text, c.isDigit = true
  /-- The only numeral that begins with a zero is that of zero. -/
  unpadded : text.head? = some '0' → text = ['0']
  value_eq : value text = n

/-- A canonical numeral has digits, and a zero in front of no others. -/
theorem isCanonical_iff :
    isCanonical text = true ↔
      text ≠ [] ∧ (∀ c ∈ text, c.isDigit = true) ∧ (text.head? = some '0' → text = ['0']) := by
  match text with
  | [] => simp [isCanonical]
  | [c] => simp [isCanonical]
  | c :: d :: rest => simp [isCanonical, and_assoc, and_comm, and_left_comm]

/-- The number read is the one spelled. -/
theorem read?_eq_some_iff : read? text = some n ↔ Spells text n := by
  unfold read?
  constructor
  · intro read
    split at read <;> cases read
    next canonical =>
      obtain ⟨nonempty, decimal, unpadded⟩ := isCanonical_iff.mp canonical
      exact ⟨nonempty, decimal, unpadded, rfl⟩
  · intro spelled
    rw [if_pos (isCanonical_iff.mpr ⟨spelled.nonempty, spelled.decimal, spelled.unpadded⟩),
      spelled.value_eq]

/-! ### The numeral of a number -/

/-- A positive number's numeral has no leading zero. -/
theorem digits_of_pos (positive : 0 < n) : ∃ c rest, digits n = c :: rest ∧ c ≠ '0' := by
  induction n using Nat.strongRecOn with
  | ind n ih =>
      by_cases small : n < 10
      · have first : ∀ d < 10, 0 < d → Nat.digitChar d ≠ '0' := by decide
        exact ⟨_, [], Nat.toDigits_of_lt_base small, first n small positive⟩
      · obtain ⟨c, rest, same, nonzero⟩ := ih (n / 10) (by omega) (by omega)
        refine ⟨c, rest ++ [(n % 10).digitChar], ?_, nonzero⟩
        rw [digits, Nat.toDigits_of_base_le (by decide) (by omega), ← digits, same,
          List.cons_append]

private theorem isDigit_of_mem_digits (member : c ∈ digits n) : c.isDigit = true :=
  Nat.isDigit_of_mem_toDigits (by decide) (by decide) member

/-- A numeral has letters and digits alone. -/
theorem isAlphanum_of_mem_digits (member : c ∈ digits n) : c.isAlphanum = true := by
  simp [Char.isAlphanum, isDigit_of_mem_digits member]

/-- What is no digit is not in a numeral. -/
theorem not_mem_digits (sign : c.isDigit = false) : c ∉ digits n := by
  intro member
  cases sign.symm.trans (isDigit_of_mem_digits member)

/-- A number is spelled by its numeral. -/
theorem spells_digits (n : Nat) : Spells (digits n) n := by
  rcases Nat.eq_zero_or_pos n with rfl | positive
  · exact ⟨List.cons_ne_nil _ _, fun c => isDigit_of_mem_digits, fun _ => rfl, rfl⟩
  · obtain ⟨c, rest, same, nonzero⟩ := digits_of_pos positive
    refine ⟨?_, fun d => isDigit_of_mem_digits, ?_, value_digits n⟩
    · rw [same]
      exact List.cons_ne_nil c rest
    · rw [same]
      rintro ⟨⟩
      exact absurd rfl nonzero

/-- A number is written as its numeral. -/
theorem ofList_digits (n : Nat) : String.ofList (digits n) = toString n := by
  rw [Nat.toString_eq_repr, Nat.repr_eq_ofList_toDigits, digits]

/-- Numerals are canonical. -/
theorem isCanonical_digits (n : Nat) : isCanonical (digits n) = true := by
  have spelled := spells_digits n
  exact isCanonical_iff.mpr ⟨spelled.nonempty, spelled.decimal, spelled.unpadded⟩

/-- A number is read back from its numeral. -/
theorem read?_digits (n : Nat) : read? (digits n) = some n :=
  read?_eq_some_iff.mpr (spells_digits n)

/-! ### Numerals are unique -/

private theorem exists_digitChar_of_isDigit (digit : c.isDigit = true) :
    ∃ d < 10, c = d.digitChar := by
  obtain ⟨low, high⟩ := Char.isDigit_iff_toNat.mp digit
  have zero : '0'.toNat = 48 := rfl
  have nine : '9'.toNat = 57 := rfl
  refine ⟨c.toNat - 48, by omega, ?_⟩
  rw [← Char.toNat_inj, Nat.toNat_digitChar_of_lt_ten (by omega)]
  omega

/-- One more digit makes a number ten times as large, and adds its weight. -/
theorem value_append_singleton (text : List Char) {d : Nat} (small : d < 10) :
    value (text ++ [d.digitChar]) = 10 * value text + d := by
  rw [value, Nat.ofDigitChars_append, Nat.ofDigitChars_cons_digitChar_of_lt_ten small,
    Nat.ofDigitChars_nil, value]

/-- One more digit is written after the others. -/
theorem digits_append_singleton (positive : 0 < n) {d : Nat} (small : d < 10) :
    digits (10 * n + d) = digits n ++ [d.digitChar] := by
  rw [digits, ← Nat.toDigits_append_toDigits (by decide) positive small,
    Nat.toDigits_of_lt_base small, digits]

/-- A numeral is that of the number it spells: the last digit is the number's, and the digits
before it spell the rest. -/
theorem Spells.eq_digits (spelled : Spells text n) : text = digits n := by
  induction text using List.reverseRecOn generalizing n with
  | nil => exact absurd rfl spelled.nonempty
  | append_singleton front last ih =>
      obtain ⟨nonempty, decimal, unpadded, rfl⟩ := spelled
      obtain ⟨fronts, lasts⟩ := List.forall_mem_append.mp decimal
      obtain ⟨d, small, rfl⟩ := exists_digitChar_of_isDigit (lasts last List.mem_cons_self)
      rw [value_append_singleton front small]
      by_cases alone : front = []
      · have single : 10 * value [] + d = d := by simp [value]
        rw [alone, single, List.nil_append, digits, Nat.toDigits_of_lt_base small]
      · have head : (front ++ [d.digitChar]).head? = front.head? :=
          List.head?_append_of_ne_nil _ alone
        -- More digits than one do not begin with a zero, so the front is no zero.
        have unzeroed : front.head? ≠ some '0' := by
          intro zero
          have short := congrArg List.length (unpadded (head.trans zero))
          have long := List.length_pos_iff.mpr alone
          simp only [List.length_append, List.length_singleton] at short
          omega
        have fronted := ih ⟨alone, fronts, fun zero => absurd zero unzeroed, rfl⟩
        have positive : 0 < value front := by
          rcases Nat.eq_zero_or_pos (value front) with zero | positive
          · rw [fronted, zero] at unzeroed
            exact absurd rfl unzeroed
          · exact positive
        rw [digits_append_singleton positive small, ← fronted]

end VliwPack.Numeral
