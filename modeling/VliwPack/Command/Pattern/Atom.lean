import VliwPack.Character.Blank

/-! # Atoms of a pattern

An atom is a character of a pattern or an escape. Flags of the pattern switch the
modes in which it is read; one of them makes blanks and comments count for nothing.

A pattern matches whole characters, and there are no tables of cases, of Unicode sets
or of words. So Unicode mode refuses what needs such a table, and byte mode refuses
what would match a part of a character.
-/

namespace VliwPack.Command.Pattern

/-- The modes in which a pattern is read. -/
structure Modes where
  /-- A letter stands for both cases. -/
  ignoresCase : Bool := false
  /-- Sets hold characters and not bytes. -/
  isUnicode : Bool := true
  /-- Blanks and comments count for nothing. -/
  skipsBlanks : Bool := false
  deriving DecidableEq

namespace Modes

/-- Turns the mode of a flag on or off. Other flags change only what a pattern
matches. -/
def switch (modes : Modes) (isOn : Bool) (flag : Char) : Modes :=
  if flag = 'i' then { modes with ignoresCase := isOn }
  else if flag = 'u' then { modes with isUnicode := isOn }
  else if flag = 'x' then { modes with skipsBlanks := isOn }
  else modes

/-- Turns the flags before a dash on and those after it off. -/
def withFlags (modes : Modes) (flags : List Char) : Modes :=
  (flags.dropWhile (· != '-')).foldl (switch · false)
    ((flags.takeWhile (· != '-')).foldl (switch · true) modes)

end Modes

/-- What follows the blanks and comments at the start of a text. A comment goes from a
number sign to the end of the line. -/
def dropBlanks (isComment : Bool) : List Char → List Char
  | [] => []
  | c :: rest =>
      if isComment then dropBlanks (c != '\n') rest
      else if c = '#' then dropBlanks true rest
      else if Character.isBlank c then dropBlanks false rest
      else c :: rest

/-- The first character that is neither a blank nor the first number sign. -/
def firstVisible? (isAfterSign : Bool) : List Char → Option Char
  | [] => none
  | c :: rest =>
      if Character.isBlank c then firstVisible? isAfterSign rest
      else if c = '#' && !isAfterSign then firstVisible? true rest
      else some c

namespace Modes

/-- What counts of a text. -/
def skip (modes : Modes) (text : List Char) : List Char :=
  if modes.skipsBlanks then dropBlanks false text else text

/-- The character that tells whether the dash before the text makes a range. In a
comment, it is the first visible character of the comment. -/
def afterDash? (modes : Modes) (text : List Char) : Option Char :=
  if modes.skipsBlanks then firstVisible? false text else text.head?

end Modes

/-- An element of a pattern that has no parts. -/
inductive Atom where
  /-- A character, or the byte that two hexadecimal digits give. -/
  | char (c : Char) (isByte : Bool)
  /-- A named set of characters. -/
  | set (isNegated : Bool)
  /-- The start or the end of the text. -/
  | edge
  /-- The start or the end of a word, or a place where there is neither. -/
  | boundary
  deriving DecidableEq

namespace Modes

/-- The atom may stand outside of classes. -/
def permits (modes : Modes) : Atom → Bool
  | .char c isByte => if modes.isUnicode then !modes.ignoresCase else !isByte || c.toNat < 0x80
  | .set isNegated => !modes.isUnicode && !isNegated
  | .edge => true
  | .boundary => !modes.isUnicode

/-- The atom may be an item of a class. -/
def permitsInClass (modes : Modes) : Atom → Bool
  | .char c _ => if modes.isUnicode then !modes.ignoresCase else c.toNat < 0x80
  | .set isNegated => !modes.isUnicode && !isNegated
  | .edge | .boundary => false

/-- A set that is known by its name in brackets may be an item of a class. -/
def permitsNamedSet (modes : Modes) (isNegated : Bool) : Bool :=
  if modes.isUnicode then !modes.ignoresCase else !isNegated

end Modes

/-- The value of a hexadecimal digit. -/
def hexDigit? (c : Char) : Option Nat :=
  if c.isDigit then some (c.toNat - '0'.toNat)
  else if 'a' ≤ c && c ≤ 'f' then some (c.toNat - 'a'.toNat + 10)
  else if 'A' ≤ c && c ≤ 'F' then some (c.toNat - 'A'.toNat + 10)
  else none

/-- Reads a number of hexadecimal digits after those whose value is given. -/
def readHex? (modes : Modes) (value : Nat) (text : List Char) : Nat → Option (Nat × List Char)
  | 0 => some (value, text)
  | count + 1 =>
      match modes.skip text with
      | [] => none
      | c :: rest => do readHex? modes (value * 16 + (← hexDigit? c)) rest count

/-- Reads a character whose code has a number of hexadecimal digits. -/
def readCode? (modes : Modes) (text : List Char) (count : Nat) : Option (Char × List Char) := do
  let (code, rest) ← readHex? modes 0 text count
  if code.isValidChar then some (Char.ofNat code, rest) else none

/-- The atom of a one-character escape. -/
def Atom.ofEscape? (c : Char) : Option Atom :=
  if c ∈ ['d', 's', 'w'] then some (.set false)
  else if c ∈ ['D', 'S', 'W'] then some (.set true)
  else if c ∈ ['A', 'z'] then some .edge
  else if c ∈ ['b', 'B', '<', '>'] then some .boundary
  else if c.toNat < 0x80 && !c.isAlphanum then some (.char c false)
  else
    ([('a', '\x07'), ('f', '\x0c'), ('t', '\t'), ('n', '\n'), ('r', '\r'),
      ('v', '\x0b')].lookup c).map (.char · false)

/-- Reads an atom. -/
def readAtom? (modes : Modes) : List Char → Option (Atom × List Char)
  | [] | ['\\'] => none
  | '\\' :: 'x' :: rest => do
      let (c, rest) ← readCode? modes rest 2
      return (.char c true, rest)
  | '\\' :: 'u' :: rest => do
      let (c, rest) ← readCode? modes rest 4
      return (.char c false, rest)
  | '\\' :: 'U' :: rest => do
      let (c, rest) ← readCode? modes rest 8
      return (.char c false, rest)
  | '\\' :: c :: rest => (Atom.ofEscape? c).map (·, rest)
  | c :: rest => some (.char c false, rest)

end VliwPack.Command.Pattern
