import Mathlib.Data.List.Chain
import Mathlib.Data.List.Induction
import VliwPack.Proofs.Json.Numbers

/-! # Scanning

Cutting a text into tokens finds exactly the tokens that the text is a layout of, as long as no
two bare words stand side by side among them (`Token.ofChars_eq_iff`).
-/

namespace VliwPack.Json

open Scan (isBlank isWordChar)

private theorem isBlank_eq_true_iff (c : Char) :
    isBlank c = true ↔ c = ' ' ∨ c = '\t' ∨ c = '\n' ∨ c = '\r' := by
  simp [isBlank, or_assoc]

private theorem isWordChar_of_isBlank {c : Char} (blank : isBlank c = true) :
    isWordChar c = false := by
  rcases (isBlank_eq_true_iff c).mp blank with rfl | rfl | rfl | rfl <;> rfl

private theorem isBlank_of_isWordChar {c : Char} (word : isWordChar c = true) :
    isBlank c = false := by
  by_contra blank
  rw [isWordChar_of_isBlank (Bool.eq_true_of_not_eq_false blank)] at word
  cases word

/-- Two tokens may stand side by side, with nothing between them. -/
def Separate (left right : Token) : Prop := ¬ (left.isBare = true ∧ right.isBare = true)

/-! ### Every layout is cut into its tokens -/

namespace Scan

variable {found : List Token} {units : Text}

private theorem foldl_plain {c : Char} (printable : ' ' ≤ c) (quote : c ≠ '"')
    (backslash : c ≠ '\\') :
    [c].foldl step ⟨found, .text units⟩ = ⟨found, .text (.char c :: units)⟩ := by
  simp [step, quote, backslash, Char.not_lt.mpr printable, within]

private theorem foldl_escape {mark c : Char} (means : escaped? mark = some c) :
    ['\\', mark].foldl step ⟨found, .text units⟩ = ⟨found, .text (.char c :: units)⟩ := by
  have other : mark ≠ 'u' := by
    rintro rfl
    cases means
  simp [step, other, means, within]

/-- Hexadecimal digits are scanned as the unit with their value. -/
private theorem foldl_digits {digits : List Char} {values : List Nat}
    (reads : List.Forall₂ (fun c value => hexValue? c = some value) digits values)
    (given : digits ≠ []) (value : Nat) :
    digits.foldl step ⟨found, .unit units digits.length value⟩ =
      ⟨found, .text (.code (UInt16.ofNat
        (values.foldl (fun value digit => 16 * value + digit) value)) :: units)⟩ := by
  induction reads generalizing value with
  | nil => exact absurd rfl given
  | @cons c digit digits values read rest ih =>
      by_cases last : digits = []
      · subst last
        cases rest
        simp [step, read, within]
      · have takes : step ⟨found, .unit units (c :: digits).length value⟩ c =
            ⟨found, .unit units digits.length (16 * value + digit)⟩ := by
          simp [step, read, within, last]
        rw [List.foldl_cons, takes, ih last]
        rfl

/-- A piece of a string is scanned as its unit. -/
theorem foldl_piece {unit : TextUnit} {piece : List Char} (spelled : unit.SpelledBy piece) :
    piece.foldl step ⟨found, .text units⟩ = ⟨found, .text (unit :: units)⟩ := by
  cases spelled with
  | plain printable quote backslash => exact foldl_plain printable quote backslash
  | escape means => exact foldl_escape means
  | @code digits values reads four =>
      have given : digits ≠ [] := by
        rintro rfl
        cases four
      change digits.foldl step ⟨found, .unit units 4 0⟩ = _
      rw [← four]
      exact foldl_digits reads given 0

private theorem foldl_pieces {text : Text} {pieces : List (List Char)}
    (spelled : List.Forall₂ TextUnit.SpelledBy text pieces) (units : Text) :
    pieces.flatten.foldl step ⟨found, .text units⟩ = ⟨found, .text (text.reverse ++ units)⟩ := by
  induction spelled generalizing units with
  | nil => rfl
  | cons first rest ih =>
      rw [List.flatten_cons, List.foldl_append, foldl_piece first, ih, List.reverse_cons,
        List.append_assoc, List.singleton_append]

/-- A string is scanned as its token. -/
theorem foldl_text {text : Text} {chars : List Char} (spelled : text.SpelledBy chars) :
    chars.foldl step ⟨found, .between⟩ = ⟨.text text :: found, .between⟩ := by
  obtain ⟨pieces, spelled, rfl⟩ := spelled
  rw [List.foldl_append, List.foldl_cons]
  change ['"'].foldl step (pieces.flatten.foldl step ⟨found, .text []⟩) = _
  rw [foldl_pieces spelled, List.append_nil]
  simp [step, emit]

private theorem foldl_word {chars : List Char} (all : ∀ c ∈ chars, isWordChar c = true)
    (spelled : List Char) :
    chars.foldl step ⟨found, .word spelled⟩ = ⟨found, .word (chars.reverse ++ spelled)⟩ := by
  induction chars generalizing spelled with
  | nil => rfl
  | cons c rest ih =>
      obtain ⟨first, others⟩ := List.forall_mem_cons.mp all
      have takes : step ⟨found, .word spelled⟩ c = ⟨found, .word (c :: spelled)⟩ := if_pos first
      rw [List.foldl_cons, takes, ih others, List.reverse_cons, List.append_assoc,
        List.singleton_append]

/-- A bare word is scanned as the word that it is. -/
theorem foldl_bare {word : List Char} (nonempty : word ≠ [])
    (all : ∀ c ∈ word, isWordChar c = true) :
    word.foldl step ⟨found, .between⟩ = ⟨found, .word word.reverse⟩ := by
  match word, nonempty with
  | c :: rest, _ =>
      obtain ⟨first, others⟩ := List.forall_mem_cons.mp all
      have enters : step ⟨found, .between⟩ c = ⟨found, .word [c]⟩ := by
        simp [step, start, isBlank_of_isWordChar first, first, within]
      rw [List.foldl_cons, enters, foldl_word others, List.reverse_cons]

/-- What is not bare is scanned as its token at once. -/
theorem foldl_token {token : Token} {word : List Char} (spelled : token.SpelledBy word)
    (full : token.isBare = false) :
    word.foldl step ⟨found, .between⟩ = ⟨token :: found, .between⟩ := by
  cases spelled with
  | text spelled => exact foldl_text spelled
  | openBrace | closeBrace | openBracket | closeBracket | comma | colon => rfl
  | _ => cases full

/-- What ends a bare word is taken as if it stood between tokens. -/
theorem step_word {c : Char} (ends : isWordChar c = false) (spelled : List Char) :
    step ⟨found, .word spelled⟩ c = step ⟨.ofWord spelled.reverse :: found, .between⟩ c := by
  simp [step, ends, emit]

end Scan

/-- A token that is no bare word starts with a character that ends bare words. -/
theorem Token.SpelledBy.not_isWordChar_head {token : Token} {word : List Char}
    (spelled : token.SpelledBy word) (full : token.isBare = false) :
    ∃ c rest, word = c :: rest ∧ isWordChar c = false := by
  cases spelled with
  | text spelled =>
      obtain ⟨pieces, -, rfl⟩ := spelled
      exact ⟨_, _, rfl, rfl⟩
  | openBrace | closeBrace | openBracket | closeBracket | comma | colon => exact ⟨_, _, rfl, rfl⟩
  | _ => cases full

/-- The scan has taken characters that spell the tokens. -/
inductive Scan.Reached : List Token → Scan → Prop
  | between (found : List Token) : Reached found.reverse ⟨found, .between⟩
  | word (found : List Token) {token : Token} {spelled : List Char} (bare : token.isBare = true)
      (spells : Token.ofWord spelled.reverse = token) :
      Reached (found.reverse ++ [token]) ⟨found, .word spelled⟩

private theorem Token.SpelledBy.ofWord {token : Token} {word : List Char}
    (spelled : token.SpelledBy word) (bare : token.isBare = true) : Token.ofWord word = token := by
  have valid : token ≠ .invalid := by
    rintro rfl
    cases bare
  exact (Token.ofWord_eq_iff valid word).mpr ⟨bare, spelled⟩

/-- A layout of tokens is scanned as these tokens. -/
theorem Scan.Reached.of_layout {tokens : List Token} {chars : List Char}
    (layout : Layout tokens chars) (separate : tokens.IsChain Separate) :
    Reached tokens (chars.foldl step {}) := by
  induction layout with
  | nil => exact .between []
  | @blank tokens chars c before blank ih =>
      have stays : ∀ found, step ⟨found, .between⟩ c = ⟨found, .between⟩ := by
        intro found
        simp [step, start, blank, within]
      rw [List.foldl_append, List.foldl_cons, List.foldl_nil]
      generalize chars.foldl step {} = scan at ih
      cases ih separate with
      | between found =>
          rw [stays]
          exact .between found
      | word found bare spells =>
          rw [step_word (isWordChar_of_isBlank blank), stays, spells, ← List.reverse_cons]
          exact .between _
  | @token tokens chars word token before spelled ih =>
      obtain ⟨separate, -, last⟩ := List.isChain_append.mp separate
      rw [List.foldl_append]
      generalize chars.foldl step {} = scan at ih
      cases ih separate with
      | between found =>
          cases bare : token.isBare with
          | true =>
              obtain ⟨nonempty, all⟩ := spelled.all_isWordChar bare
              rw [foldl_bare nonempty all]
              exact .word found bare (by rw [List.reverse_reverse, spelled.ofWord bare])
          | false =>
              rw [foldl_token spelled bare, ← List.reverse_cons]
              exact .between _
      | @word found previous written bare spells =>
          have full : token.isBare = false := by
            by_contra also
            exact last previous (by simp) token (by simp) ⟨bare, by simpa using also⟩
          obtain ⟨c, rest, rfl, ends⟩ := spelled.not_isWordChar_head full
          rw [List.foldl_cons, step_word ends, ← List.foldl_cons, foldl_token spelled full, spells]
          have same : found.reverse ++ [previous] ++ [token] =
              (token :: previous :: found).reverse := by simp
          rw [same]
          exact .between _

private theorem Scan.Reached.finish_eq {tokens : List Token} {scan : Scan}
    (reached : Reached tokens scan) :
    scan.finish = tokens := by
  cases reached with
  | between found => rfl
  | word found bare spells => simp [finish, spells]

/-! ### What is cut into tokens is a layout of them -/

/-- The characters taken so far are a layout of the tokens found, followed by the part of a
token where the scan stands. -/
inductive Scan.Covers : Scan → List Char → Prop
  | between {found : List Token} {chars : List Char} (layout : Layout found.reverse chars) :
      Covers ⟨found, .between⟩ chars
  | word {found : List Token} {chars : List Char} (layout : Layout found.reverse chars)
      (spelled : List Char) : Covers ⟨found, .word spelled⟩ (chars ++ spelled.reverse)
  | text {found : List Token} {chars : List Char} {units : Text} (pieces : List (List Char))
      (layout : Layout found.reverse chars)
      (spelled : List.Forall₂ TextUnit.SpelledBy units.reverse pieces) :
      Covers ⟨found, .text units⟩ (chars ++ '"' :: pieces.flatten)
  | escape {found : List Token} {chars : List Char} {units : Text} (pieces : List (List Char))
      (layout : Layout found.reverse chars)
      (spelled : List.Forall₂ TextUnit.SpelledBy units.reverse pieces) :
      Covers ⟨found, .escape units⟩ (chars ++ '"' :: pieces.flatten ++ ['\\'])
  | unit {found : List Token} {chars : List Char} {units : Text} (pieces : List (List Char))
      {digits : List Char} {values : List Nat} {missing : Nat}
      (layout : Layout found.reverse chars)
      (spelled : List.Forall₂ TextUnit.SpelledBy units.reverse pieces)
      (reads : List.Forall₂ (fun c value => hexValue? c = some value) digits values)
      (four : digits.length + missing = 4) (more : missing ≠ 0) :
      Covers ⟨found, .unit units missing (hexValue values)⟩
        (chars ++ '"' :: pieces.flatten ++ '\\' :: 'u' :: digits)

namespace Scan

variable {scan : Scan} {c : Char} {found : List Token} {chars : List Char}

private theorem mem_found_start (scan : Scan) (c : Char) {token : Token}
    (member : token ∈ scan.found) :
    token ∈ (scan.start c).found := by
  have emitted : ∀ other, token ∈ (scan.emit other).found := fun _ => List.mem_cons_of_mem _ member
  unfold start
  split_ifs
  · exact member
  · exact member
  · split
    case h_7 => exact member
    all_goals exact emitted _

/-- A token that was found stays found. -/
private theorem mem_found_step (scan : Scan) (c : Char) {token : Token}
    (member : token ∈ scan.found) :
    token ∈ (scan.step c).found := by
  have emitted : ∀ other, token ∈ (scan.emit other).found := fun _ => List.mem_cons_of_mem _ member
  have stayed : ∀ mode, token ∈ (scan.within mode).found := fun _ => member
  unfold step
  split
  · exact mem_found_start scan c member
  · split_ifs
    · exact stayed _
    · exact mem_found_start _ c (emitted _)
  · split_ifs
    · exact emitted _
    · exact stayed _
    · exact emitted _
    · exact stayed _
  · split_ifs
    · exact stayed _
    · split
      · exact stayed _
      · exact emitted _
  · split
    · dsimp only
      split_ifs
      · exact stayed _
      · exact stayed _
    · exact emitted _

namespace Covers

private theorem emit {token : Token} {word : List Char} (layout : Layout found.reverse chars)
    (spelled : token.SpelledBy word) : Covers ⟨token :: found, .between⟩ (chars ++ word) := by
  apply Covers.between
  rw [List.reverse_cons]
  exact layout.token spelled

/-- Between tokens, a character is covered as a blank, a token or the beginning of one. -/
private theorem start (layout : Layout found.reverse chars)
    (valid : .invalid ∉ (Scan.start ⟨found, .between⟩ c).found) :
    Covers (Scan.start ⟨found, .between⟩ c) (chars ++ [c]) := by
  unfold Scan.start at valid ⊢
  split_ifs at valid ⊢ with blank word
  · exact .between (layout.blank blank)
  · exact .word layout [c]
  · split at valid
    · exact emit layout .openBrace
    · exact emit layout .closeBrace
    · exact emit layout .openBracket
    · exact emit layout .closeBracket
    · exact emit layout .comma
    · exact emit layout .colon
    · exact .text [] layout .nil
    · exact absurd List.mem_cons_self valid

/-- One more piece of a string. -/
theorem piece {units : Text} {pieces : List (List Char)} {unit : TextUnit} {piece : List Char}
    (layout : Layout found.reverse chars)
    (spelled : List.Forall₂ TextUnit.SpelledBy units.reverse pieces)
    (next : unit.SpelledBy piece) :
    Covers ⟨found, .text (unit :: units)⟩ (chars ++ '"' :: pieces.flatten ++ piece) := by
  have all : List.Forall₂ TextUnit.SpelledBy (unit :: units).reverse (pieces ++ [piece]) := by
    rw [List.reverse_cons]
    exact List.rel_append spelled (.cons next .nil)
  have covers := Covers.text (pieces ++ [piece]) layout all
  rwa [List.flatten_append, List.flatten_singleton, ← List.cons_append, ← List.append_assoc]
    at covers

/-- One more character is covered, unless it makes no token. -/
theorem step (covers : Covers scan chars) (valid : .invalid ∉ (scan.step c).found) :
    Covers (scan.step c) (chars ++ [c]) := by
  cases covers with
  | between layout => exact start layout valid
  | @word found before layout spelled =>
      by_cases more : isWordChar c = true
      · have takes : Scan.step ⟨found, .word spelled⟩ c = ⟨found, .word (c :: spelled)⟩ :=
          if_pos more
        rw [takes, List.append_assoc, ← List.reverse_cons]
        exact .word layout (c :: spelled)
      · rw [step_word (by simpa using more)] at valid ⊢
        have token : Token.ofWord spelled.reverse ≠ .invalid := by
          intro invalid
          rw [invalid] at valid
          exact valid (mem_found_step _ c List.mem_cons_self)
        have spells := ((Token.ofWord_eq_iff token _).mp rfl).2
        exact start (by simpa using layout.token spells) valid
  | @text found before units pieces layout spelled =>
      unfold Scan.step at valid ⊢
      dsimp only at valid ⊢
      split_ifs at valid ⊢ with quote backslash control
      · subst quote
        rw [List.append_assoc]
        exact emit layout (.text ⟨pieces, spelled, rfl⟩)
      · subst backslash
        exact .escape pieces layout spelled
      · exact absurd List.mem_cons_self valid
      · exact piece layout spelled (.plain (Char.not_lt.mp control) quote backslash)
  | @escape found before units pieces layout spelled =>
      unfold Scan.step at valid ⊢
      dsimp only at valid ⊢
      rw [List.append_assoc]
      split_ifs at valid ⊢ with code
      · subst code
        exact .unit pieces layout spelled .nil rfl (by simp)
      · split at valid
        · rename_i meant means
          exact piece layout spelled (.escape means)
        · exact absurd List.mem_cons_self valid
  | @unit found before units pieces digits values missing layout spelled reads four more =>
      unfold Scan.step at valid ⊢
      dsimp only at valid ⊢
      split at valid
      · rename_i digit read
        have reads : List.Forall₂ (fun c value => hexValue? c = some value) (digits ++ [c])
            (values ++ [digit]) := List.rel_append reads (.cons read .nil)
        have value : 16 * hexValue values + digit = hexValue (values ++ [digit]) := by
          simp [hexValue]
        have length : (digits ++ [c]).length = digits.length + 1 := by simp
        rw [value, List.append_assoc, List.cons_append, List.cons_append]
        split_ifs with last
        · exact piece layout spelled (.code reads (by omega))
        · exact .unit pieces layout spelled reads (by omega) (by omega)
      · exact absurd List.mem_cons_self valid

end Covers

private theorem mem_finish (scan : Scan) {token : Token} (member : token ∈ scan.found) :
    token ∈ scan.finish := by
  unfold finish
  split <;> simp [member]

/-- What is scanned covers the text, unless there is an invalid token in it. -/
theorem covers_foldl (valid : .invalid ∉ (chars.foldl step {}).found) :
    Covers (chars.foldl step {}) chars := by
  induction chars using List.reverseRecOn with
  | nil => exact .between .nil
  | append_singleton chars c ih =>
      rw [List.foldl_append] at valid ⊢
      refine (ih fun invalid => valid ?_).step valid
      exact mem_found_step _ c invalid

end Scan

/-- The tokens of a text are those it is a layout of, whatever stands between them. -/
theorem Token.ofChars_eq_iff {tokens : List Token} (valid : .invalid ∉ tokens)
    (separate : tokens.IsChain Separate) (chars : List Char) :
    Token.ofChars chars = tokens ↔ Layout tokens chars := by
  constructor
  · rintro rfl
    unfold Token.ofChars at valid ⊢
    have covers := Scan.covers_foldl fun member => valid (Scan.mem_finish _ member)
    generalize chars.foldl Scan.step {} = scan at valid covers
    cases covers with
    | between layout => exact layout
    | @word found before layout spelled =>
        have bare : Token.ofWord spelled.reverse ≠ .invalid := by
          intro invalid
          exact valid (by simp [Scan.finish, invalid])
        have spells := ((Token.ofWord_eq_iff bare _).mp rfl).2
        simpa [Scan.finish] using layout.token spells
    | text | escape | unit => exact absurd (by simp [Scan.finish]) valid
  · intro layout
    exact (Scan.Reached.of_layout layout separate).finish_eq

end VliwPack.Json
