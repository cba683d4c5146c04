import VliwPack.Character.Blank
import VliwPack.Command.Pattern
import VliwPack.Event
import VliwPack.Numeral

/-! # Directives of a log filter

A directive is a level by itself, or a target, then perhaps a span in square
brackets, then perhaps an equals sign and a level. A span is a name, a field in
braces, or a name and a field; a field is a name, perhaps with an equals sign and a
value. Without a level, all levels pass.

Blanks around a directive do not count as a part of it, but a part is measured from
the first character of the directive and cut out of the text as it stands. So blanks
before a directive become a part of its target, and blanks after it a part of its
level.
-/

namespace VliwPack.Command

/-- The least urgent level that passes; `none` lets nothing pass. -/
abbrev Threshold : Type := Option Level

namespace Threshold

/-- A threshold by its number: the higher, the more detail. -/
def ofNumber? : Nat → Option Threshold
  | 0 => some none
  | 1 => some (some .error)
  | 2 => some (some .warn)
  | 3 => some (some .info)
  | 4 => some (some .debug)
  | 5 => some (some .trace)
  | _ => none

/-- A threshold by its name in small letters. -/
def ofName? (name : String) : Option Threshold :=
  [("off", none), ("error", some .error), ("warn", some .warn), ("info", some .info),
    ("debug", some .debug), ("trace", some Level.trace)].lookup name

/-- Reads a threshold: a name in any case, or a number, which may have a plus sign and
leading zeros. -/
def read? (text : List Char) : Option Threshold :=
  let digits := if text.head? = some '+' then text.tail else text
  if !digits.isEmpty && digits.all Char.isDigit then
    ofNumber? (Numeral.value digits)
  else
    ofName? (String.ofList (text.map Char.toLower))

/-- Reads what follows an equals sign. Nothing lets all levels pass. -/
def readAfterEquals? (text : List Char) : Option Threshold :=
  if text.isEmpty then some (some .trace) else read? text

end Threshold

/-- A field that a directive asks for. -/
structure FieldTest where
  name : String
  /-- The number or pattern that the value of the field is compared with. -/
  value : Option (List Char) := none
  deriving DecidableEq

namespace FieldTest

/-- The text is a number with a plus sign: an infinity, no number at all, or digits
with a point among them or not and perhaps an exponent of ten. -/
def isPlusNumber : List Char → Bool
  | '+' :: text =>
      let isExponent : List Char → Bool
        | [] => true
        | mark :: text =>
            let digits := match text with
              | '+' :: digits | '-' :: digits => digits
              | _ => text
            (mark = 'e' || mark = 'E') && !digits.isEmpty && digits.all Char.isDigit
      let whole := text.takeWhile Char.isDigit
      let (places, exponent) := match text.dropWhile Char.isDigit with
        | '.' :: rest => (rest.takeWhile Char.isDigit, rest.dropWhile Char.isDigit)
        | rest => ([], rest)
      String.ofList (text.map Char.toLower) ∈ ["inf", "infinity", "nan"]
        || (!(whole ++ places).isEmpty && isExponent exponent)
  | _ => false

/-- Reads a field. What follows a second equals sign does not count. A value that is no
pattern can still be a number; a number without a plus sign is a pattern, too. -/
def read? (text : List Char) : Option FieldTest :=
  let name := String.ofList (text.takeWhile (· != '='))
  match text.dropWhile (· != '=') with
  | [] => if text.isEmpty then none else some { name }
  | _ :: rest =>
      let value := rest.takeWhile (· != '=')
      if isPlusNumber value || Pattern.isWellFormed value then some { name, value } else none

end FieldTest

/-- A rule for the events that its parts describe. -/
structure Directive where
  /-- How the source of an event starts. -/
  target : String := ""
  /-- The name of a span that an event is reported in. -/
  span : Option String := none
  field : Option FieldTest := none
  threshold : Threshold := some .trace
  deriving DecidableEq

/-- How many bytes a text has in UTF-8. -/
def byteLength : List Char → Nat
  | [] => 0
  | c :: rest => c.utf8Size + byteLength rest

/-- Splits a text after a number of UTF-8 bytes. A character that is cut goes to the
first part. -/
def splitAtByte (text : List Char) (count : Nat) : List Char × List Char :=
  match text with
  | [] => ([], [])
  | c :: rest =>
      if count = 0 then ([], text)
      else
        let (before, after) := splitAtByte rest (count - c.utf8Size)
        (c :: before, after)

/-- A place in a text. -/
structure TextCursor where
  /-- What is still to be read, without blanks at the end. -/
  seen : List Char
  /-- What parts are cut out of. -/
  rest : List Char

namespace TextCursor

/-- The start of a text: reading begins after the blanks, cutting does not. -/
def ofText (text : List Char) : TextCursor := ⟨Character.trimBlanks text, text⟩

/-- Goes on by a number of characters and gives the part that is cut out meanwhile. -/
def advance (cursor : TextCursor) (count : Nat) : List Char × TextCursor :=
  let (part, rest) := splitAtByte cursor.rest (byteLength (cursor.seen.take count))
  (part, ⟨cursor.seen.drop count, rest⟩)

/-- Goes on up to the first of some characters. -/
def upTo (cursor : TextCursor) (stops : List Char) : List Char × TextCursor :=
  cursor.advance (cursor.seen.takeWhile fun c => !stops.contains c).length

/-- Goes on after a number of characters. -/
def skip (cursor : TextCursor) (count : Nat) : TextCursor := (cursor.advance count).2

end TextCursor

namespace Directive

/-- Reads what follows a span. -/
def readLevel? (directive : Directive) (cursor : TextCursor) : Option Directive :=
  match cursor.seen with
  | [] => some directive
  | '=' :: _ => do
      let threshold ← Threshold.readAfterEquals? (cursor.skip 1).rest
      return { directive with threshold }
  | _ => none

/-- Reads a span after its opening bracket. -/
def readSpan? (directive : Directive) (cursor : TextCursor) : Option Directive :=
  let (name, cursor) := cursor.upTo [']', '\x7b']
  let name := String.ofList name
  match cursor.seen with
  | ']' :: _ => { directive with span := some name }.readLevel? (cursor.skip 1)
  | '\x7b' :: _ =>
      let (field, cursor) := (cursor.skip 1).upTo ['\x7d']
      match cursor.seen with
      | '\x7d' :: ']' :: _ => do
          let field ← FieldTest.read? field
          { directive with span := if name.isEmpty then none else some name, field }.readLevel?
            (cursor.skip 2)
      | _ => none
  | _ => none

/-- The character can start a directive. -/
def isFirst (c : Char) : Bool := c ∈ ['[', '-', ':', '_'] || Character.isAlphanumeric c

/-- Reads a directive. -/
def read? (text : List Char) : Option Directive :=
  let start := TextCursor.ofText text
  if start.seen.head?.any isFirst then
    let (target, cursor) := start.upTo ['=', '[']
    let directive : Directive := { target := String.ofList target }
    match cursor.seen with
    | [] =>
        match Threshold.read? text with
        | some threshold => some { threshold }
        | none => some { target := String.ofList text }
    | '[' :: _ => directive.readSpan? (cursor.skip 1)
    | _ => directive.readLevel? cursor
  else
    none

end Directive

end VliwPack.Command
