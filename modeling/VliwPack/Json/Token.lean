import VliwPack.Json.Text
import VliwPack.Numeral

/-! # Tokens of JSON text

JSON text is cut into tokens in one pass, one character at a time. Blanks separate
tokens and are dropped. What is no token becomes `invalid`; what follows it in the
text has no meaning.

Bare words are taken whole: the longest run of letters, digits, signs and points is
a number, a constant or no token at all. A well-formed text never has two bare
words side by side.
-/

namespace VliwPack.Json

/-- A token. -/
inductive Token where
  | openBrace
  | closeBrace
  | openBracket
  | closeBracket
  | comma
  | colon
  | null
  | boolean (value : Bool)
  | number (spelling : List Char)
  | text (text : Text)
  | invalid
  deriving DecidableEq

namespace Token

/-- Holds of what may follow the digits of a number: nothing, or an exponent. -/
def isExponent : List Char → Bool
  | [] => true
  | mark :: rest =>
      let digits := match rest with
        | '+' :: digits | '-' :: digits => digits
        | digits => digits
      (mark == 'e' || mark == 'E') && !digits.isEmpty && digits.all Char.isDigit

/-- Holds of what may follow the whole digits of a number: a fraction, then
perhaps an exponent. -/
def isFraction : List Char → Bool
  | '.' :: rest =>
      let digits := rest.takeWhile Char.isDigit
      !digits.isEmpty && isExponent (rest.dropWhile Char.isDigit)
  | rest => isExponent rest

/-- Holds of the spellings of numbers. -/
def isNumber (spelling : List Char) : Bool :=
  let unsigned := match spelling with
    | '-' :: rest => rest
    | rest => rest
  Numeral.isCanonical (unsigned.takeWhile Char.isDigit) &&
    isFraction (unsigned.dropWhile Char.isDigit)

/-- The token of a bare word. -/
def ofWord (word : List Char) : Token :=
  if word = ['n', 'u', 'l', 'l'] then null
  else if word = ['t', 'r', 'u', 'e'] then boolean true
  else if word = ['f', 'a', 'l', 's', 'e'] then boolean false
  else if isNumber word then number word
  else invalid

end Token

/-- Where in the text a scan stands. -/
inductive ScanMode where
  /-- Between tokens. -/
  | between
  /-- In a bare word, whose characters these are, the latest first. -/
  | word (spelled : List Char)
  /-- In a string, whose pieces these are, the latest first. -/
  | text (units : Text)
  /-- After the backslash of an escape. -/
  | escape (units : Text)
  /-- In the digits of an escaped unit: how many are to come, and their value. -/
  | unit (units : Text) (missing : Nat) (value : Nat)
  deriving DecidableEq

/-- A scan: the tokens found, the latest first, and where it stands. -/
structure Scan where
  found : List Token := []
  mode : ScanMode := .between
  deriving DecidableEq

namespace Scan

/-- A blank separates tokens. -/
def isBlank (c : Char) : Bool := c == ' ' || c == '\t' || c == '\n' || c == '\r'

/-- A bare word is made of these. -/
def isWordChar (c : Char) : Bool := c.isAlphanum || c == '+' || c == '-' || c == '.'

/-- The value of a hexadecimal digit. -/
def hexValue? (c : Char) : Option Nat :=
  if c.isDigit then some (c.toNat - '0'.toNat)
  else if 'a' ≤ c && c ≤ 'f' then some (c.toNat - 'a'.toNat + 10)
  else if 'A' ≤ c && c ≤ 'F' then some (c.toNat - 'A'.toNat + 10)
  else none

/-- The character a two-character escape stands for. -/
def escaped? : Char → Option Char
  | '"' => some '"'
  | '\\' => some '\\'
  | '/' => some '/'
  | 'b' => some '\x08'
  | 'f' => some '\x0c'
  | 'n' => some '\n'
  | 'r' => some '\r'
  | 't' => some '\t'
  | _ => none

/-- Adds a token and stands between tokens. -/
def emit (scan : Scan) (token : Token) : Scan := ⟨token :: scan.found, .between⟩

/-- Goes on within a token. -/
def within (scan : Scan) (mode : ScanMode) : Scan := { scan with mode }

/-- Takes a character between tokens. -/
def start (scan : Scan) (c : Char) : Scan :=
  if isBlank c then scan.within .between
  else if isWordChar c then scan.within (.word [c])
  else match c with
    | '{' => scan.emit .openBrace
    | '}' => scan.emit .closeBrace
    | '[' => scan.emit .openBracket
    | ']' => scan.emit .closeBracket
    | ',' => scan.emit .comma
    | ':' => scan.emit .colon
    | '"' => scan.within (.text [])
    | _ => scan.emit .invalid

/-- Takes a character. -/
def step (scan : Scan) (c : Char) : Scan :=
  match scan.mode with
  | .between => scan.start c
  | .word spelled =>
      if isWordChar c then scan.within (.word (c :: spelled))
      else (scan.emit (.ofWord spelled.reverse)).start c
  | .text units =>
      if c = '"' then scan.emit (.text units.reverse)
      else if c = '\\' then scan.within (.escape units)
      else if c < ' ' then scan.emit .invalid
      else scan.within (.text (.char c :: units))
  | .escape units =>
      if c = 'u' then scan.within (.unit units 4 0)
      else match escaped? c with
        | some meant => scan.within (.text (.char meant :: units))
        | none => scan.emit .invalid
  | .unit units missing value =>
      match hexValue? c with
      | some digit =>
          let value := 16 * value + digit
          if missing = 1 then scan.within (.text (.code (UInt16.ofNat value) :: units))
          else scan.within (.unit units (missing - 1) value)
      | none => scan.emit .invalid

/-- The tokens found when the text ends here. -/
def finish (scan : Scan) : List Token :=
  match scan.mode with
  | .between => scan.found.reverse
  | .word spelled => (Token.ofWord spelled.reverse :: scan.found).reverse
  | .text _ | .escape _ | .unit _ _ _ => (.invalid :: scan.found).reverse

end Scan

/-- The tokens of a text. -/
def Token.ofChars (chars : List Char) : List Token := (chars.foldl Scan.step {}).finish

end VliwPack.Json
