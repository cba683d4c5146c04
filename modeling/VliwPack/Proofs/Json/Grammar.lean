import Mathlib.Data.List.Forall2
import VliwPack.Json.Printer
import VliwPack.Json.Reader

/-! # The grammar of JSON text

What it means that characters spell a piece of a string, a number, a token or a value is
said here without the machines that read text. A token may be spelled in several ways:
characters of strings may be escaped or not, and hexadecimal digits may have either case.
Blanks may stand before, between and after tokens. A value is spelled by any layout of its
tokens (`Value.SpelledBy`).
-/

namespace VliwPack.Json

/-! ### Strings -/

/-- The value of hexadecimal digits. -/
def hexValue (digits : List Nat) : Nat := digits.foldl (fun value digit => 16 * value + digit) 0

/-- The characters spell the piece of a string. -/
inductive TextUnit.SpelledBy : TextUnit → List Char → Prop
  /-- The character itself. -/
  | plain {c : Char} (printable : ' ' ≤ c) (quote : c ≠ '"') (backslash : c ≠ '\\') :
      SpelledBy (.char c) [c]
  /-- Its two-character escape. -/
  | escape {mark c : Char} (means : Scan.escaped? mark = some c) : SpelledBy (.char c) ['\\', mark]
  /-- Four hexadecimal digits. -/
  | code {digits : List Char} {values : List Nat}
      (reads : List.Forall₂ (fun c value => Scan.hexValue? c = some value) digits values)
      (four : digits.length = 4) :
      SpelledBy (.code (UInt16.ofNat (hexValue values))) ('\\' :: 'u' :: digits)

/-- The characters spell the string, with its quotes. -/
def Text.SpelledBy (text : Text) (chars : List Char) : Prop :=
  ∃ pieces, List.Forall₂ TextUnit.SpelledBy text pieces ∧ chars = '"' :: pieces.flatten ++ ['"']

/-! ### Numbers -/

/-- One or more decimal digits. -/
def IsDigits (chars : List Char) : Prop := chars ≠ [] ∧ chars.all Char.isDigit = true

/-- The part of a number after its point, with the point. -/
inductive IsFraction : List Char → Prop
  | none : IsFraction []
  | some {digits : List Char} (given : IsDigits digits) : IsFraction ('.' :: digits)

/-- The exponent of a number. -/
inductive IsExponent : List Char → Prop
  | none : IsExponent []
  | some {mark : Char} (sign : List Char) {digits : List Char} (marked : mark ∈ ['e', 'E'])
      (signed : sign ∈ [[], ['+'], ['-']]) (given : IsDigits digits) :
      IsExponent (mark :: (sign ++ digits))

/-- A number: an optional sign, a canonical numeral, and perhaps a fraction and an
exponent. -/
inductive IsNumber : List Char → Prop
  | mk (sign : List Char) {whole fraction exponent : List Char} (signed : sign ∈ [[], ['-']])
      (canonical : Numeral.isCanonical whole = true) (fractional : IsFraction fraction)
      (scaled : IsExponent exponent) : IsNumber (sign ++ (whole ++ (fraction ++ exponent)))

/-! ### Tokens -/

/-- The characters spell the token. -/
inductive Token.SpelledBy : Token → List Char → Prop
  | openBrace : SpelledBy .openBrace ['{']
  | closeBrace : SpelledBy .closeBrace ['}']
  | openBracket : SpelledBy .openBracket ['[']
  | closeBracket : SpelledBy .closeBracket [']']
  | comma : SpelledBy .comma [',']
  | colon : SpelledBy .colon [':']
  | null : SpelledBy .null ['n', 'u', 'l', 'l']
  | boolTrue : SpelledBy (.boolean true) ['t', 'r', 'u', 'e']
  | boolFalse : SpelledBy (.boolean false) ['f', 'a', 'l', 's', 'e']
  | number {spelling : List Char} (number : IsNumber spelling) :
      SpelledBy (.number spelling) spelling
  | text {text : Text} {chars : List Char} (spelled : text.SpelledBy chars) :
      SpelledBy (.text text) chars

/-- The characters spell the tokens, one after another, with blanks anywhere around
them. -/
inductive Layout : List Token → List Char → Prop
  | nil : Layout [] []
  | blank {tokens : List Token} {chars : List Char} {c : Char} (before : Layout tokens chars)
      (blank : Scan.isBlank c = true) : Layout tokens (chars ++ [c])
  | token {tokens : List Token} {chars word : List Char} {token : Token}
      (before : Layout tokens chars) (spelled : token.SpelledBy word) :
      Layout (tokens ++ [token]) (chars ++ word)

/-! ### Values -/

/-- The value is given to its end: no container in it is left open, and nothing is
missing. -/
inductive Value.Whole : Value → Prop
  | null : Whole .null
  | boolean (value : Bool) : Whole (.boolean value)
  | number (spelling : List Char) : Whole (.number spelling)
  | text (text : Text) : Whole (.text text)
  | array {items : List Value} (inner : ∀ item ∈ items, Whole item) : Whole (.array items true)
  | object {members : List Member} (inner : ∀ member ∈ members, Whole member.2) :
      Whole (.object members true)

/-- The text is a JSON text of the value. -/
def Value.SpelledBy (value : Value) (text : String) : Prop :=
  value.Whole ∧ Layout value.tokens text.toList

end VliwPack.Json
