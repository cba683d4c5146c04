/-! # Strings in JSON text

A string is written as characters and as escaped 16-bit units. Two units that form
a surrogate pair stand for one character. A surrogate without its partner stands
for none, so a string with one can be skipped but not read.
-/

namespace VliwPack.Json

/-- A piece of a string as it is written. -/
inductive TextUnit where
  /-- A character, written as it is or by a two-character escape. -/
  | char (c : Char)
  /-- A 16-bit unit, written as four hexadecimal digits. -/
  | code (unit : UInt16)
  deriving DecidableEq

/-- A string as it is written. -/
abbrev Text : Type := List TextUnit

namespace Text

/-- The first unit of a surrogate pair. -/
def isLead (unit : UInt16) : Bool := 0xD800 ≤ unit && unit < 0xDC00

/-- The second unit of a surrogate pair. -/
def isTrail (unit : UInt16) : Bool := 0xDC00 ≤ unit && unit < 0xE000

/-- The character a surrogate pair stands for. -/
def paired (lead trail : UInt16) : Char :=
  Char.ofNat (0x10000 + (lead.toNat - 0xD800) * 0x400 + (trail.toNat - 0xDC00))

/-- The characters a string stands for. -/
def chars? : Text → Option (List Char)
  | [] => some []
  | .char c :: rest => (chars? rest).map (c :: ·)
  | .code lead :: .code trail :: rest =>
      if isLead lead then
        if isTrail trail then (chars? rest).map (paired lead trail :: ·) else none
      else if isTrail lead then
        none
      else
        (chars? (.code trail :: rest)).map (Char.ofNat lead.toNat :: ·)
  | .code unit :: rest =>
      if isLead unit || isTrail unit then none
      else (chars? rest).map (Char.ofNat unit.toNat :: ·)

/-- The string that a written string stands for. -/
def string? (text : Text) : Option String := text.chars?.map String.ofList

/-- How a character is written: a control character as a unit. -/
def ofChar (c : Char) : TextUnit := if c < ' ' then .code (UInt16.ofNat c.toNat) else .char c

/-- How a string is written. -/
def ofString (s : String) : Text := s.toList.map ofChar

end Text

end VliwPack.Json
