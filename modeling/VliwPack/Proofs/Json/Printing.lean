import VliwPack.Proofs.Json.Documents
import VliwPack.Proofs.Numeral

/-! # Writing values

The text of a value spells the value (`Value.Printable.spelledBy_toText`), as long as each of its
tokens is written as one. Values made of strings, whole numbers, lists and records are.
-/

namespace VliwPack

namespace Json

/-- A natural number is written as a number of the grammar. -/
theorem isNumber_digits (n : Nat) : IsNumber (Numeral.digits n) := by
  have number := IsNumber.mk [] (by simp) (Numeral.isCanonical_digits n) .none .none
  simpa using number

/-- A whole number is written as a number of the grammar. -/
theorem isNumber_signed (n : Int) : IsNumber (Numeral.signed n) := by
  unfold Numeral.signed
  split
  · have number := IsNumber.mk ['-'] (by simp) (Numeral.isCanonical_digits n.natAbs) .none .none
    simpa using number
  · exact isNumber_digits n.natAbs

/-! ### Strings -/

private theorem hexValue?_hexDigit (n : Nat) : Scan.hexValue? (hexDigit n) = some (n % 16) := by
  have table : ∀ d < 16, Scan.hexValue? (Nat.digitChar d) = some d := by decide
  exact table (n % 16) (Nat.mod_lt n (by decide))

/-- A unit is written as its four hexadecimal digits. -/
theorem TextUnit.spelledBy_render_code (unit : UInt16) :
    SpelledBy (.code unit) (render (.code unit)) := by
  have digits : List.Forall₂ (fun c value => Scan.hexValue? c = some value)
      ([unit.toNat / 0x1000, unit.toNat / 0x100, unit.toNat / 0x10, unit.toNat].map hexDigit)
      ([unit.toNat / 0x1000, unit.toNat / 0x100, unit.toNat / 0x10, unit.toNat].map (· % 16)) := by
    simp [hexValue?_hexDigit]
  have value : UInt16.ofNat (hexValue ([unit.toNat / 0x1000, unit.toNat / 0x100,
      unit.toNat / 0x10, unit.toNat].map (· % 16))) = unit := by
    have bound := unit.toNat_lt
    have sum : hexValue ([unit.toNat / 0x1000, unit.toNat / 0x100, unit.toNat / 0x10,
        unit.toNat].map (· % 16)) = unit.toNat := by
      simp only [hexValue, List.map_cons, List.map_nil, List.foldl_cons, List.foldl_nil]
      omega
    rw [sum, UInt16.ofNat_toNat]
  have spelled := SpelledBy.code digits rfl
  rwa [value] at spelled

private theorem TextUnit.spelledBy_render_char {c : Char} (printable : ' ' ≤ c) :
    SpelledBy (.char c) (render (.char c)) := by
  by_cases special : c = '"' ∨ c = '\\'
  · have means : Scan.escaped? c = some c := by rcases special with rfl | rfl <;> rfl
    have written : render (.char c) = ['\\', c] := by
      rcases special with rfl | rfl <;> rfl
    rw [written]
    exact .escape means
  · obtain ⟨quote, backslash⟩ := not_or.mp special
    have written : render (.char c) = [c] := by simp [render, quote, backslash]
    rw [written]
    exact .plain printable quote backslash

/-- A string is spelled by what is written for it. -/
theorem Text.spelledBy_render_ofString (s : String) :
    (Text.ofString s).SpelledBy (Text.ofString s).render := by
  refine ⟨(Text.ofString s).map TextUnit.render, ?_, ?_⟩
  · rw [List.forall₂_map_right_iff, List.forall₂_same]
    intro unit member
    obtain ⟨c, -, rfl⟩ := List.mem_map.mp member
    unfold Text.ofChar
    split_ifs with control
    · exact TextUnit.spelledBy_render_code _
    · exact TextUnit.spelledBy_render_char (Char.not_lt.mp control)
  · rw [Text.render, List.flatMap_def]

/-- A unit that is no surrogate stands for its character. -/
theorem Text.chars?_code {unit : UInt16} (lead : isLead unit = false)
    (trail : isTrail unit = false) (rest : Text) :
    chars? (.code unit :: rest) = (chars? rest).map (Char.ofNat unit.toNat :: ·) := by
  match rest with
  | [] => simp [chars?, lead, trail]
  | .char c :: rest => simp [chars?, lead, trail]
  | .code next :: rest =>
      rw [chars?, if_neg (by simp [lead]), if_neg (by simp [trail])]

/-- A string is the string of its text. -/
theorem Text.string?_ofString (s : String) : (ofString s).string? = some s := by
  have chars : ∀ list : List Char, chars? (list.map ofChar) = some list := by
    intro list
    induction list with
    | nil => rfl
    | cons c rest ih =>
        rw [List.map_cons]
        by_cases control : c < ' '
        · have code : ofChar c = .code (UInt16.ofNat c.toNat) := if_pos control
          have small : c.toNat < 32 := control
          have same : (UInt16.ofNat c.toNat).toNat = c.toNat :=
            UInt16.toNat_ofNat_of_lt' (show c.toNat < 65536 by omega)
          have lead : isLead (UInt16.ofNat c.toNat) = false := by
            simp [isLead, UInt16.le_iff_toNat_le, same]
            omega
          have trail : isTrail (UInt16.ofNat c.toNat) = false := by
            simp [isTrail, UInt16.le_iff_toNat_le, same]
            omega
          rw [code, chars?_code lead trail, ih, same, Char.ofNat_toNat, Option.map_some]
        · have plain : ofChar c = .char c := if_neg control
          rw [plain, chars?, ih, Option.map_some]
  rw [string?, ofString, chars, Option.map_some, String.ofList_toList]

/-! ### Values -/

/-- Tokens that are written as themselves are laid out side by side. -/
theorem Layout.render {tokens : List Token}
    (spelled : ∀ token ∈ tokens, token.SpelledBy token.render) :
    Layout tokens (tokens.flatMap Token.render) := by
  induction tokens using List.reverseRecOn with
  | nil => exact .nil
  | append_singleton before token ih =>
      rw [List.forall_mem_append] at spelled
      rw [List.flatMap_append, List.flatMap_singleton]
      exact (ih spelled.1).token (spelled.2 token List.mem_cons_self)

namespace Value

/-- The value is whole, and each of its tokens can be written. -/
structure Printable (value : Value) : Prop where
  whole : value.Whole
  spelled : ∀ token ∈ value.tokens, token.SpelledBy token.render

/-- A printable value is spelled by its text. -/
theorem Printable.spelledBy_toText {value : Value} (printable : value.Printable) :
    value.SpelledBy value.toText := by
  refine ⟨printable.whole, ?_⟩
  rw [toText, String.toList_ofList]
  exact .render printable.spelled

private theorem Printable.of_token {value : Value} {token : Token} (whole : value.Whole)
    (tokens : value.tokens = [token]) (spelled : token.SpelledBy token.render) :
    value.Printable :=
  ⟨whole, by rw [tokens]; exact List.forall_mem_singleton.mpr spelled⟩

/-- The null value is printable. -/
theorem printable_null : Printable .null := .of_token .null rfl .null

/-- The truth values are printable. -/
theorem printable_boolean (value : Bool) : Printable (.boolean value) := by
  cases value
  · exact .of_token (.boolean _) rfl .boolFalse
  · exact .of_token (.boolean _) rfl .boolTrue

/-- Strings are printable. -/
theorem printable_ofString (s : String) : Printable (.ofString s) :=
  .of_token (.text _) rfl (.text (Text.spelledBy_render_ofString s))

/-- Natural numbers are printable. -/
theorem printable_ofNat (n : Nat) : Printable (.ofNat n) :=
  .of_token (.number _) rfl (.number (isNumber_digits n))

/-- Whole numbers are printable. -/
theorem printable_ofInt (n : Int) : Printable (.ofInt n) :=
  .of_token (.number _) rfl (.number (isNumber_signed n))

/-- Lists of printable values are printable. -/
theorem printable_list {items : List Value} (inner : ∀ item ∈ items, item.Printable) :
    Printable (.list items) := by
  refine ⟨.array fun item member => (inner item member).whole, ?_⟩
  change ∀ token ∈ .openBracket :: itemTokens items, token.SpelledBy token.render
  refine List.forall_mem_cons.mpr ⟨.openBracket, ?_⟩
  induction items with
  | nil => exact List.forall_mem_singleton.mpr .closeBracket
  | cons item rest ih =>
      obtain ⟨first, others⟩ := List.forall_mem_cons.mp inner
      cases rest with
      | nil =>
          exact List.forall_mem_append.mpr
            ⟨first.spelled, List.forall_mem_singleton.mpr .closeBracket⟩
      | cons next rest =>
          rw [itemTokens_cons_cons, List.forall_mem_append, List.forall_mem_cons]
          exact ⟨first.spelled, .comma, ih others⟩

/-- Records of printable values are printable. -/
theorem printable_record {members : List (String × Value)}
    (inner : ∀ member ∈ members, member.2.Printable) : Printable (.record members) := by
  refine ⟨.object ?_, ?_⟩
  · intro entry member
    obtain ⟨given, present, rfl⟩ := List.mem_map.mp member
    exact (inner given present).whole
  change ∀ token ∈ .openBrace :: memberTokens (members.map fun member =>
    (Text.ofString member.1, member.2)), token.SpelledBy token.render
  refine List.forall_mem_cons.mpr ⟨.openBrace, ?_⟩
  induction members with
  | nil => exact List.forall_mem_singleton.mpr .closeBrace
  | cons member rest ih =>
      obtain ⟨first, others⟩ := List.forall_mem_cons.mp inner
      have entry : ∀ token ∈ entryTokens (Text.ofString member.1, member.2),
          token.SpelledBy token.render := by
        rw [entryTokens, List.forall_mem_cons, List.forall_mem_cons]
        exact ⟨.text (Text.spelledBy_render_ofString member.1), .colon, first.spelled⟩
      cases rest with
      | nil => exact List.forall_mem_append.mpr ⟨entry, List.forall_mem_singleton.mpr .closeBrace⟩
      | cons next rest =>
          rw [List.map_cons, List.map_cons, memberTokens_cons_cons, List.forall_mem_append,
            List.forall_mem_cons]
          exact ⟨entry, .comma, ih others⟩

end Value

end Json

end VliwPack
