import VliwPack.Json.Value

/-! # Writing values

A value is written as its tokens, without blanks between them. In a string quotes
and backslashes are escaped, and units are written as four hexadecimal digits.
-/

namespace VliwPack.Json

/-- A hexadecimal digit, in lower case. -/
def hexDigit (n : Nat) : Char := Nat.digitChar (n % 16)

/-- A piece of a string, as it is written. -/
def TextUnit.render : TextUnit → List Char
  | char c => if c = '"' || c = '\\' then ['\\', c] else [c]
  | code unit =>
      let n := unit.toNat
      ['\\', 'u', hexDigit (n / 0x1000), hexDigit (n / 0x100), hexDigit (n / 0x10), hexDigit n]

/-- A string between its quotes. -/
def Text.render (text : Text) : List Char := '"' :: text.flatMap TextUnit.render ++ ['"']

/-- A token, as it is written. Nothing is written for what is no token. -/
def Token.render : Token → List Char
  | openBrace => ['{']
  | closeBrace => ['}']
  | openBracket => ['[']
  | closeBracket => [']']
  | comma => [',']
  | colon => [':']
  | null => ['n', 'u', 'l', 'l']
  | boolean true => ['t', 'r', 'u', 'e']
  | boolean false => ['f', 'a', 'l', 's', 'e']
  | number spelling => spelling
  | text written => written.render
  | invalid => []

namespace Value

mutual

/-- The tokens of a value. -/
def tokens : Value → List Token
  | null => [.null]
  | boolean value => [.boolean value]
  | number spelling => [.number spelling]
  | text written => [.text written]
  | array items _ => .openBracket :: itemTokens items
  | object members _ => .openBrace :: memberTokens members
  | absent => [.invalid]

/-- The tokens of an array's items and its end. -/
def itemTokens : List Value → List Token
  | [] => [.closeBracket]
  | [item] => item.tokens ++ [.closeBracket]
  | item :: rest => item.tokens ++ .comma :: itemTokens rest

/-- The tokens of an object's members and its end. -/
def memberTokens : List (Text × Value) → List Token
  | [] => [.closeBrace]
  | [(key, value)] => .text key :: .colon :: value.tokens ++ [.closeBrace]
  | (key, value) :: rest => .text key :: .colon :: value.tokens ++ .comma :: memberTokens rest

end

/-- The characters of a value. -/
def render (value : Value) : List Char := value.tokens.flatMap Token.render

/-- The text of a value. -/
def toText (value : Value) : String := String.ofList value.render

end Value

end VliwPack.Json
