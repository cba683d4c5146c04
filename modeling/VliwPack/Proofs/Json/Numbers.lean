import Mathlib.Data.List.TakeWhile
import Mathlib.Tactic.FinCases
import VliwPack.Proofs.Json.Grammar
import VliwPack.Proofs.Numeral

/-! # Bare words

The test for numbers holds of exactly the numbers of the grammar (`isNumber_eq_true_iff`), and
the token of a bare word is the one that the word spells (`Token.ofWord_eq_iff`).
-/

namespace VliwPack.Json

/-! ### Runs of digits -/

section

variable {digits rest : List Char}

private theorem takeWhile_isDigit_append (all : digits.all Char.isDigit = true)
    (ends : ∀ c ∈ rest.head?, c.isDigit = false) :
    (digits ++ rest).takeWhile Char.isDigit = digits := by
  rw [List.takeWhile_append_of_pos (List.all_eq_true.mp all)]
  cases rest with
  | nil => simp
  | cons c rest => simp [ends c rfl]

private theorem dropWhile_isDigit_append (all : digits.all Char.isDigit = true)
    (ends : ∀ c ∈ rest.head?, c.isDigit = false) :
    (digits ++ rest).dropWhile Char.isDigit = rest := by
  rw [List.dropWhile_append_of_pos (List.all_eq_true.mp all)]
  cases rest with
  | nil => rfl
  | cons c rest => simp [ends c rfl]

end

/-- A canonical numeral is a run of digits. -/
theorem IsDigits.of_isCanonical {digits : List Char}
    (canonical : Numeral.isCanonical digits = true) : IsDigits digits := by
  obtain ⟨nonempty, decimal, -⟩ := Numeral.isCanonical_iff.mp canonical
  exact ⟨nonempty, List.all_eq_true.mpr decimal⟩

private theorem IsDigits.isDigit_head {digits : List Char} (given : IsDigits digits)
    (rest : List Char) :
    ∀ c ∈ (digits ++ rest).head?, c.isDigit = true := by
  obtain ⟨nonempty, all⟩ := given
  match digits, nonempty with
  | d :: others, _ =>
      rintro c ⟨⟩
      exact List.all_eq_true.mp all d List.mem_cons_self

/-! ### Numbers -/

private theorem IsExponent.not_isDigit_head {exponent : List Char} (given : IsExponent exponent) :
    ∀ c ∈ exponent.head?, c.isDigit = false := by
  cases given with
  | none => simp
  | some sign marked signed given =>
      rintro c ⟨⟩
      rcases List.mem_pair.mp marked with rfl | rfl <;> rfl

/-- The test for exponents holds of exactly the exponents of the grammar. -/
theorem isExponent_eq_true_iff (chars : List Char) :
    Token.isExponent chars = true ↔ IsExponent chars := by
  constructor
  · intro test
    match chars, test with
    | [], _ => exact .none
    | mark :: rest, test =>
        unfold Token.isExponent at test
        dsimp only at test
        split at test <;>
          simp only [Bool.and_eq_true, Bool.or_eq_true, beq_iff_eq, Bool.not_eq_true',
            List.isEmpty_eq_false_iff] at test
        · exact .some ['+'] (by simp [test]) (by simp) ⟨test.1.2, test.2⟩
        · exact .some ['-'] (by simp [test]) (by simp) ⟨test.1.2, test.2⟩
        · exact .some [] (by simp [test]) (by simp) ⟨test.1.2, test.2⟩
  · rintro (_ | @⟨mark, sign, digits, marked, signed, given⟩)
    · rfl
    · have marks : (mark == 'e' || mark == 'E') = true := by simpa using marked
      have digital : (!digits.isEmpty && digits.all Char.isDigit) = true := by
        simpa using ⟨given.1, by simpa using given.2⟩
      -- A digit is not a sign, so no digit is lost to the sign.
      have unsigned : ∀ c ∈ digits.head?, c ≠ '+' ∧ c ≠ '-' := by
        intro c first
        have digit := given.isDigit_head [] c (by simpa using first)
        constructor <;> rintro rfl <;> cases digit
      simp only [List.mem_cons, List.not_mem_nil, or_false] at signed
      rcases signed with rfl | rfl | rfl
      · unfold Token.isExponent
        dsimp only
        split
        · exact absurd rfl (unsigned '+' (by simp_all)).1
        · exact absurd rfl (unsigned '-' (by simp_all)).2
        · simpa [marks] using digital
      · simpa [Token.isExponent, marks] using digital
      · simpa [Token.isExponent, marks] using digital

/-- The test for what follows the whole part holds of a fraction and an exponent, either of which
may be missing. -/
theorem isFraction_eq_true_iff (chars : List Char) :
    Token.isFraction chars = true ↔
      ∃ fraction exponent, IsFraction fraction ∧ IsExponent exponent ∧
        chars = fraction ++ exponent := by
  constructor
  · intro test
    unfold Token.isFraction at test
    split at test
    · rename_i rest
      simp only [Bool.and_eq_true, Bool.not_eq_true', List.isEmpty_eq_false_iff] at test
      refine ⟨'.' :: rest.takeWhile Char.isDigit, rest.dropWhile Char.isDigit,
        .some ⟨test.1, List.all_takeWhile⟩, (isExponent_eq_true_iff _).mp test.2, ?_⟩
      rw [List.cons_append, List.takeWhile_append_dropWhile]
    · exact ⟨[], chars, .none, (isExponent_eq_true_iff _).mp test, rfl⟩
  · rintro ⟨fraction, exponent, fractional, scaled, rfl⟩
    have test := (isExponent_eq_true_iff exponent).mpr scaled
    cases fractional with
    | none =>
        rw [List.nil_append]
        unfold Token.isFraction
        split
        · cases test
        · exact test
    | some given =>
        have ends := scaled.not_isDigit_head
        rw [List.cons_append, Token.isFraction, takeWhile_isDigit_append given.2 ends,
          dropWhile_isDigit_append given.2 ends, test]
        simpa using given.1

private theorem not_isDigit_head_fraction {fraction exponent : List Char}
    (fractional : IsFraction fraction)
    (scaled : IsExponent exponent) : ∀ c ∈ (fraction ++ exponent).head?, c.isDigit = false := by
  cases fractional with
  | none => exact scaled.not_isDigit_head
  | some given =>
      rintro c ⟨⟩
      rfl

/-- The test for numbers holds of exactly the numbers of the grammar. -/
theorem isNumber_eq_true_iff (chars : List Char) :
    Token.isNumber chars = true ↔ IsNumber chars := by
  constructor
  · intro test
    have unsigned : ∀ rest, (Numeral.isCanonical (rest.takeWhile Char.isDigit) &&
        Token.isFraction (rest.dropWhile Char.isDigit)) = true →
        ∀ sign ∈ [[], ['-']], IsNumber (sign ++ rest) := by
      intro rest both sign signed
      rw [Bool.and_eq_true] at both
      obtain ⟨fraction, exponent, fractional, scaled, split⟩ := (isFraction_eq_true_iff _).mp both.2
      rw [← List.takeWhile_append_dropWhile (p := Char.isDigit) (l := rest), split]
      exact .mk sign signed both.1 fractional scaled
    unfold Token.isNumber at test
    split at test
    · exact unsigned _ test ['-'] (by simp)
    · exact unsigned _ test [] (by simp)
  · rintro @⟨sign, whole, fraction, exponent, signed, canonical, fractional, scaled⟩
    have ends := not_isDigit_head_fraction fractional scaled
    have digital := IsDigits.of_isCanonical canonical
    have rest : Token.isFraction (fraction ++ exponent) = true :=
      (isFraction_eq_true_iff _).mpr ⟨fraction, exponent, fractional, scaled, rfl⟩
    have both : (Numeral.isCanonical ((whole ++ (fraction ++ exponent)).takeWhile Char.isDigit) &&
        Token.isFraction ((whole ++ (fraction ++ exponent)).dropWhile Char.isDigit)) = true := by
      rw [takeWhile_isDigit_append digital.2 ends, dropWhile_isDigit_append digital.2 ends,
        canonical, rest]
      rfl
    rcases List.mem_pair.mp signed with rfl | rfl
    · unfold Token.isNumber
      split
      · rename_i same
        have digit := digital.isDigit_head (fraction ++ exponent) '-'
          (by simpa using congrArg List.head? same)
        cases digit
      · exact both
    · exact both

/-! ### The tokens of bare words -/

/-- Bare words spell these tokens. -/
def Token.isBare : Token → Bool
  | null | boolean _ | number _ => true
  | _ => false

private theorem IsNumber.isDigit_or_minus_head {number : List Char} (given : IsNumber number) :
    ∃ c rest, number = c :: rest ∧ (c = '-' ∨ c.isDigit = true) := by
  obtain @⟨sign, whole, fraction, exponent, signed, canonical, -, -⟩ := given
  obtain ⟨nonempty, all⟩ := IsDigits.of_isCanonical canonical
  rcases List.mem_pair.mp signed with rfl | rfl
  · match whole, nonempty with
    | c :: others, _ => exact ⟨c, _, rfl, .inr (List.all_eq_true.mp all c List.mem_cons_self)⟩
  · exact ⟨'-', _, rfl, .inl rfl⟩

private theorem isWordChar_of_isDigit {c : Char} (digit : c.isDigit = true) :
    Scan.isWordChar c = true := by
  simp [Scan.isWordChar, Char.isAlphanum, digit]

/-- A number is a bare word. -/
theorem IsNumber.all_isWordChar {number : List Char} (given : IsNumber number) :
    ∀ c ∈ number, Scan.isWordChar c = true := by
  have digits : ∀ {chars}, IsDigits chars → ∀ c ∈ chars, Scan.isWordChar c = true :=
    fun run c member => isWordChar_of_isDigit (List.all_eq_true.mp run.2 c member)
  have signs : ∀ sign ∈ [[], ['+'], ['-']], ∀ c ∈ sign, Scan.isWordChar c = true := by
    simp only [← List.all_eq_true]
    decide
  obtain @⟨sign, whole, fraction, exponent, signed, canonical, fractional, scaled⟩ := given
  simp only [List.forall_mem_append]
  have sign_signs : sign ∈ [[], ['+'], ['-']] := by
    rcases List.mem_pair.mp signed with rfl | rfl <;> simp
  refine ⟨signs sign sign_signs, digits (.of_isCanonical canonical), ?_, ?_⟩
  · cases fractional with
    | none => simp
    | some run => exact List.forall_mem_cons.mpr ⟨rfl, digits run⟩
  · cases scaled with
    | none => simp
    | some mark marked signed run =>
        rw [List.forall_mem_cons, List.forall_mem_append]
        exact ⟨by rcases List.mem_pair.mp marked with rfl | rfl <;> rfl, signs _ signed, digits run⟩

/-- A bare token is spelled by word characters. -/
theorem Token.SpelledBy.all_isWordChar {token : Token} {word : List Char}
    (spelled : token.SpelledBy word) (bare : token.isBare = true) :
    word ≠ [] ∧ ∀ c ∈ word, Scan.isWordChar c = true := by
  cases spelled with
  | number given =>
      obtain ⟨c, rest, rfl, -⟩ := given.isDigit_or_minus_head
      exact ⟨by simp, given.all_isWordChar⟩
  | null | boolTrue | boolFalse => exact ⟨by simp, List.all_eq_true.mp (by decide)⟩
  | _ => cases bare

/-- The token of a bare word is the token that the word spells. -/
theorem Token.ofWord_eq_iff {token : Token} (valid : token ≠ .invalid) (word : List Char) :
    Token.ofWord word = token ↔ token.isBare = true ∧ token.SpelledBy word := by
  constructor
  · rintro rfl
    unfold Token.ofWord at valid ⊢
    split_ifs at valid ⊢ with null yes no number
    · subst null
      exact ⟨rfl, .null⟩
    · subst yes
      exact ⟨rfl, .boolTrue⟩
    · subst no
      exact ⟨rfl, .boolFalse⟩
    · exact ⟨rfl, .number ((isNumber_eq_true_iff word).mp number)⟩
    · exact absurd rfl valid
  · rintro ⟨bare, spelled⟩
    cases spelled with
    | number given =>
        obtain ⟨c, rest, same, first⟩ := given.isDigit_or_minus_head
        have other : ∀ d others, d ∈ ['n', 't', 'f'] → word ≠ d :: others := by
          rintro d others letter rfl
          obtain ⟨rfl, -⟩ := List.cons.inj same
          revert first
          fin_cases letter <;> decide
        rw [Token.ofWord, if_neg (other _ _ (by simp)), if_neg (other _ _ (by simp)),
          if_neg (other _ _ (by simp)), if_pos ((isNumber_eq_true_iff word).mpr given)]
    | null | boolTrue | boolFalse => rfl
    | _ => cases bare

end VliwPack.Json
