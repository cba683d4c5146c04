import VliwPack.Character.Alphanumeric
import VliwPack.Command.Pattern.Atom

/-! # Well-formed patterns

A directive may give a pattern for the value of a field. Patterns are regular
expressions with groups, alternatives, the repetitions `*`, `+` and `?`, character
classes and escapes. Values are never compared with them here, so all that counts is
whether a pattern is well formed, and not nested too deeply.

A pattern is read from left to right. Of the groups and classes that are open, only
the depth of their parts is kept.
-/

namespace VliwPack.Command.Pattern

/-- Elements side by side. -/
structure Row where
  count : Nat := 0
  /-- The depth of the deepest element. -/
  depth : Nat := 0
  /-- The depth of the last element, if it can be repeated. -/
  last : Option Nat := none

namespace Row

/-- A row with one more element. -/
def add (row : Row) (depth : Nat) : Row := ⟨row.count + 1, max row.depth depth, some depth⟩

/-- A row with flags at its end, which cannot be repeated. -/
def addFlags (row : Row) : Row := { row with count := row.count + 1, last := none }

/-- A row whose last element is repeated. -/
def repeatLast? (row : Row) : Option Row :=
  row.last.map fun depth =>
    { row with depth := max row.depth (depth + 1), last := some (depth + 1) }

/-- The depth of a row: one element stands for itself. -/
def height (row : Row) : Nat := if row.count ≤ 1 then row.depth else row.depth + 1

end Row

/-- What was read of a group or class. -/
structure Part where
  row : Row := {}
  /-- The depth of what stands before the row: other alternatives, or the first operand
  of an operator. -/
  before : Option Nat := none

namespace Part

/-- The depth of a part. -/
def height (part : Part) : Nat :=
  match part.before with
  | none => part.row.height
  | some before => max before part.row.height + 1

/-- Adds an element. -/
def add (part : Part) (depth : Nat) : Part := { part with row := part.row.add depth }

/-- Begins another alternative. All alternatives lie side by side. -/
def nextAlternative (part : Part) : Part :=
  { before := some (max (part.before.getD 0) part.row.height) }

/-- Begins the second operand of an operator. The first one is all that was read. -/
def nextOperand (part : Part) : Part := { before := some part.height }

end Part

/-- An open group or class, with what was read before it. -/
inductive Frame where
  /-- A group ends the modes that were set in it. -/
  | group (outer : Part) (modes : Modes)
  | class (outer : Part)

/-- What was read of a pattern. -/
structure Progress where
  modes : Modes := {}
  part : Part := {}
  /-- The open groups and classes, from the innermost to the outermost. -/
  frames : List Frame := []
  /-- The names of groups. -/
  names : List (List Char) := []
  /-- Only the head of a class and dashes were read of it. -/
  isClassStart : Bool := false

/-- A step: the progress after it, and what is still to be read. -/
abbrev Step : Type := Option (Progress × List Char)

namespace Progress

/-- The progress after an element. -/
def add (progress : Progress) (depth : Nat) : Progress :=
  { progress with part := progress.part.add depth, isClassStart := false }

/-- The progress after the head of a group. -/
def openGroup (progress : Progress) (modes : Modes) : Progress :=
  { progress with
    modes, part := {}, frames := .group progress.part progress.modes :: progress.frames }

/-- The progress after the end of a group. -/
def closeGroup? (progress : Progress) : Option Progress :=
  match progress.frames with
  | .group outer modes :: frames =>
      some { progress with modes, frames, part := outer.add (progress.part.height + 1) }
  | _ => none

/-- The progress after the end of a class. -/
def closeClass? (progress : Progress) : Option Progress :=
  match progress.frames with
  | .class outer :: frames =>
      some { progress with
        frames, part := outer.add (progress.part.height + 1), isClassStart := false }
  | _ => none

/-- Reads the name of a group. Two groups do not have the same name. -/
def readGroupName (progress : Progress) (text : List Char) : Step :=
  let isFirst (c : Char) := c = '_' || Character.isAlphabetic c
  let isOther (c : Char) := c ∈ ['_', '.', '[', ']'] || Character.isAlphanumeric c
  let name := text.takeWhile (· != '>')
  match text.dropWhile (· != '>') with
  | _ :: rest =>
      if name.head?.any isFirst && name.all isOther && name ∉ progress.names then
        some ({ progress.openGroup progress.modes with names := name :: progress.names }, rest)
      else
        none
  | [] => none

/-- Reads the flags of a group. No flag is given twice, and a dash is followed by a
flag. Flags without a group hold for the rest of the group around them. -/
def readGroupFlags (progress : Progress) (text : List Char) : Step :=
  let isFlag (c : Char) := c != ':' && c != ')'
  let flags := text.takeWhile isFlag
  if flags.all (['i', 'm', 's', 'U', 'u', 'R', 'x', '-'].contains ·) && decide flags.Nodup
      && flags.getLast? != some '-' then
    let modes := progress.modes.withFlags flags
    match text.dropWhile isFlag with
    | ':' :: rest => some (progress.openGroup modes, rest)
    | ')' :: rest =>
        if flags.isEmpty then none
        else
          some ({ progress with
            modes, part := { progress.part with row := progress.part.row.addFlags } }, rest)
    | _ => none
  else
    none

/-- Reads a group after its opening parenthesis. -/
def readGroup (progress : Progress) (text : List Char) : Step :=
  match progress.modes.skip text with
  | '?' :: 'P' :: '<' :: rest | '?' :: '<' :: rest => progress.readGroupName rest
  | '?' :: rest => progress.readGroupFlags rest
  | rest => some (progress.openGroup progress.modes, rest)

/-- Reads the head of a class after its opening bracket. In byte mode no class is
negated. -/
def readClass (progress : Progress) (text : List Char) : Step :=
  let opened := { progress with
    part := {}, frames := .class progress.part :: progress.frames, isClassStart := true }
  match progress.modes.skip text with
  | '^' :: rest => if progress.modes.isUnicode then some (opened, rest) else none
  | rest => some (opened, rest)

/-- Reads a repetition after its sign. Another question mark makes it a lazy one. -/
def readRepetition (progress : Progress) (text : List Char) : Step := do
  let row ← progress.part.row.repeatLast?
  return ({ progress with part := { progress.part with row } },
    if text.head? = some '?' then text.tail else text)

/-- Reads an element outside of classes. The dot stands for a character. -/
def readElement (progress : Progress) (text : List Char) : Step :=
  match text with
  | '(' :: rest => progress.readGroup rest
  | ')' :: rest => progress.closeGroup?.map (·, rest)
  | '|' :: rest => some ({ progress with part := progress.part.nextAlternative }, rest)
  | '[' :: rest => progress.readClass rest
  | '{' :: _ => none
  | '*' :: rest | '+' :: rest | '?' :: rest => progress.readRepetition rest
  | '^' :: rest | '$' :: rest => some (progress.add 0, rest)
  | '.' :: rest => if progress.modes.isUnicode then some (progress.add 0, rest) else none
  | _ => do
      let (atom, rest) ← readAtom? progress.modes text
      if progress.modes.permits atom then some (progress.add 0, rest) else none

/-- The names of sets in brackets. -/
def setNames : List String :=
  ["alnum", "alpha", "ascii", "blank", "cntrl", "digit", "graph", "lower", "print", "punct",
    "space", "upper", "word", "xdigit"]

/-- Reads a named set after its opening bracket; tells whether it is negated. -/
def readNamedSet? : List Char → Option (Bool × List Char)
  | ':' :: text =>
      let isNegated := text.head? = some '^'
      let text := if isNegated then text.tail else text
      match text.dropWhile (· != ':') with
      | ':' :: ']' :: rest =>
          if String.ofList (text.takeWhile (· != ':')) ∈ setNames then some (isNegated, rest)
          else none
      | _ => none
  | _ => none

/-- Reads an atom or a range in a class. A dash does not make a range if a bracket or a
dash follows it. -/
def readRange (progress : Progress) (text : List Char) : Step := do
  let modes := progress.modes
  let (first, rest) ← readAtom? modes text
  let rest := modes.skip rest
  let isRange := rest.head? = some '-' && modes.afterDash? rest.tail ∉ [some ']', some '-']
  if isRange then
    let (last, rest) ← readAtom? modes (modes.skip rest.tail)
    match first, last with
    | .char low _, .char high _ =>
        if low ≤ high && modes.permitsInClass first && modes.permitsInClass last then
          some (progress.add 0, rest)
        else
          none
    | _, _ => none
  else if modes.permitsInClass first then
    some (progress.add 0, rest)
  else
    none

/-- Reads an item of a class, an operator or the end of the class. Dashes at the start
are characters, and so is a bracket there. -/
def readItem (progress : Progress) (text : List Char) : Step :=
  match text with
  | [] => none
  | c :: rest =>
      if progress.isClassStart && (c = '-' || (c = ']' && progress.part.row.count = 0)) then
        if progress.modes.permitsInClass (.char c false) then
          some ({ progress.add 0 with isClassStart := c = '-' }, rest)
        else
          none
      else if c = ']' then
        progress.closeClass?.map (·, rest)
      else if c = '[' then
        match readNamedSet? rest with
        | some (isNegated, rest) =>
            if progress.modes.permitsNamedSet isNegated then some (progress.add 0, rest) else none
        | none => progress.readClass rest
      else if c ∈ ['&', '-', '~'] && rest.head? = some c then
        some ({ progress with part := progress.part.nextOperand, isClassStart := false }, rest.tail)
      else
        progress.readRange text

/-- Reads the next part of a pattern, which begins at something that counts. -/
def step (progress : Progress) (text : List Char) : Step :=
  match progress.frames with
  | .class _ :: _ => progress.readItem text
  | _ => progress.readElement text

/-- All groups and classes are closed, and none lies too deep. -/
def isComplete (progress : Progress) : Bool :=
  progress.frames.isEmpty && progress.part.height ≤ 250

/-- Reads the rest of a pattern in at most a number of steps. -/
def accepts (progress : Progress) (text : List Char) : Nat → Bool
  | 0 => text.isEmpty && progress.isComplete
  | steps + 1 =>
      match progress.modes.skip text with
      | [] => progress.isComplete
      | text =>
          match progress.step text with
          | some (progress, rest) => progress.accepts rest steps
          | none => false

end Progress

/-- The text is a well-formed pattern. Every step reads a character at least. -/
def isWellFormed (text : List Char) : Bool := Progress.accepts {} text text.length

end VliwPack.Command.Pattern
