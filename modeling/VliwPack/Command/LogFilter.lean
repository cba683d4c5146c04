import VliwPack.Command.Directive

/-! # Log filters

A filter is a list of directives separated by commas. A directive applies to the
events whose source starts with its target, and if it asks for a field, to those
that have the field. A directive with the name of a span or the value of a field
applies within spans only; there are no spans here, so it lets nothing pass.

For an event, the most specific of the directives that apply counts: the one with
the longest target, then one that asks for a field, then the one whose field comes
last in the alphabet. Of directives with the same target and field, the last counts.
-/

namespace VliwPack

namespace Event

/-- The part of the program that reports an event. -/
def source : Event → String
  | operandSideDiffers .. | dataPathNeeded .. | moveSides .. => "c64x_sched_core::hazard::classify"
  | pathBitRefused .. | pathBitSet .. => "c64x_sched_core::hazard::resolve"
  | checked .. | classified .. | booked .. | advanced => "c64x_sched_core::hazard::recognizer"
  | pseudoPlaced .. | widthReached .. | placed .. => "c64x_sched_core::sched::packer"
  | printing .. => "c64x_sched_core::asm::printer"
  | scheduled .. => "c64x_sched"

/-- The names of all fields of an event; the message is one of them. -/
def fieldNames (event : Event) : List String := "message" :: event.fields.map Prod.fst

end Event

namespace Command

namespace Directive

/-- The directive applies within spans only. -/
def needsSpan (directive : Directive) : Bool :=
  directive.span.isSome || directive.field.any (·.value.isSome)

/-- The directive applies to the event. -/
def applies (directive : Directive) (event : Event) : Bool :=
  !directive.needsSpan && event.source.startsWith directive.target
    && directive.field.all (event.fieldNames.contains ·.name)

/-- A directive without a field comes before one with a field; fields come in
alphabetical order. -/
def fieldPrecedes (directive other : Directive) : Bool :=
  match directive.field, other.field with
  | none, other => other.isSome
  | some field, some other => field.name < other.name
  | some _, none => false

/-- A directive is more specific than another one that applies to the same event. -/
def outranks (directive other : Directive) : Bool :=
  if directive.target.length = other.target.length then other.fieldPrecedes directive
  else other.target.length < directive.target.length

end Directive

/-- A filter. -/
structure LogFilter where
  directives : List Directive

namespace LogFilter

/-- The filter that lets events of a level and the more urgent ones pass. -/
def atLevel (level : Level) : LogFilter := ⟨[{ threshold := some level }]⟩

/-- The filter that a text spells. A text without directives lets errors pass. -/
def read? (text : String) : Option LogFilter := do
  let pieces := (text.splitOn ",").filter (· != "")
  let directives ← pieces.mapM fun piece => Directive.read? piece.toList
  if directives.isEmpty then return .atLevel .error else return ⟨directives⟩

/-- The more specific of two directives; of equally specific ones, the later. -/
def moreSpecific (earlier : Option Directive) (later : Directive) : Option Directive :=
  match earlier with
  | some best => if best.outranks later then some best else some later
  | none => some later

/-- The directive that counts for an event. -/
def directiveFor (filter : LogFilter) (event : Event) : Option Directive :=
  (filter.directives.filter (·.applies event)).foldl moreSpecific none

/-- The event passes the filter. -/
def passes (filter : LogFilter) (event : Event) : Bool :=
  match (filter.directiveFor event).bind Directive.threshold with
  | some level => level.rank ≤ event.level.rank
  | none => false

end LogFilter

end Command

end VliwPack
