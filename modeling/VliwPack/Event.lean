import VliwPack.Claim
import VliwPack.Fault

/-! # Events

Every decision of the scheduler and the printer is reported as an event. An event
has a level, a message and named fields; the constructors say what happened.
-/

namespace VliwPack

/-- How much detail an event belongs to, from the finest to the most urgent. -/
inductive Level where
  | trace
  | debug
  | info
  | warn
  | error
  deriving DecidableEq

namespace Level

/-- Rank of a level: the more urgent, the higher. -/
def rank : Level → Nat
  | trace => 0
  | debug => 1
  | info => 2
  | warn => 3
  | error => 4

/-- A level's name. -/
def text : Level → String
  | trace => "TRACE"
  | debug => "DEBUG"
  | info => "INFO"
  | warn => "WARN"
  | error => "ERROR"

end Level

/-- Something that happened to the instruction with the given mnemonic, to a
claim or to a bundle. -/
inductive Event where
  /-- The register at this operand lies on another side than the ones before it. -/
  | operandSideDiffers (mnemonic : String) (operand : Nat)
  /-- The operands of a fixed instruction need a data path. -/
  | dataPathNeeded (mnemonic : String) (path : CrossPath)
  /-- The sides a move reads and writes. -/
  | moveSides (mnemonic : String) (source destination : Side)
  /-- A fixed instruction has no path bit to write. -/
  | pathBitRefused (mnemonic : String)
  /-- The path bit was changed to this value. -/
  | pathBitSet (mnemonic : String) (bit : Bool)
  /-- A claim was checked against the cycle. -/
  | checked (verdict : Option Conflict)
  /-- An instruction was resolved to be checked. -/
  | classified (mnemonic : String) (claim : Claim)
  /-- A claim was booked. -/
  | booked (claim : Claim)
  /-- A new cycle was begun. -/
  | advanced
  /-- A pseudo instruction joined the current bundle. -/
  | pseudoPlaced (mnemonic : String) (claim : Claim)
  /-- The current bundle holds as many instructions as may issue together. -/
  | widthReached (width : Nat)
  /-- An instruction was placed in a cycle. -/
  | placed (mnemonic : String) (claim : Claim) (cycle : Nat)
  /-- A bundle is about to be printed. -/
  | printing (cycle length : Nat)
  /-- A function was packed. -/
  | scheduled (function : String) (cycles : Nat)
  deriving DecidableEq

namespace Event

/-- The level an event is reported at. -/
def level : Event → Level
  | operandSideDiffers .. | dataPathNeeded .. | moveSides .. | pseudoPlaced .. | placed ..
  | printing .. => .trace
  | pathBitRefused .. | pathBitSet .. | checked .. | classified .. | booked .. | advanced
  | widthReached .. => .debug
  | scheduled .. => .info

/-- The message of an event. -/
def message : Event → String
  | operandSideDiffers .. => "operand side differs from previous"
  | dataPathNeeded .. => "x-resource use for fixed op"
  | moveSides .. => "mv sides"
  | pathBitRefused .. => "cannot set XPATH, fixed instruction"
  | pathBitSet _ bit => "XPATH set to: " ++ (if bit then "1" else "0")
  | checked (some conflict) => conflict.message
  | checked none => "--no hazard"
  | classified .. => "classify"
  | booked .. => "--emit"
  | advanced => "--advance"
  | pseudoPlaced .. => "pseudo"
  | widthReached .. => "issue width reached"
  | placed .. => "booked"
  | printing .. => "print bundle"
  | scheduled .. => "scheduled"

/-- The named fields of an event. -/
def fields : Event → List (String × String)
  | operandSideDiffers mnemonic operand => [("inst", mnemonic), ("operand", toString operand)]
  | dataPathNeeded mnemonic path => [("inst", mnemonic), ("xuse", path.text)]
  | moveSides mnemonic source destination =>
      [("inst", mnemonic), ("src", source.text), ("dst", destination.text)]
  | pathBitRefused mnemonic | pathBitSet mnemonic _ => [("inst", mnemonic)]
  | checked _ | advanced => []
  | classified mnemonic claim | pseudoPlaced mnemonic claim =>
      [("inst", mnemonic), ("claim", claim.detail)]
  | booked claim => [("claim", claim.detail)]
  | widthReached width => [("width", toString width)]
  | placed mnemonic claim cycle =>
      [("inst", mnemonic), ("claim", claim.detail), ("cycle", toString cycle)]
  | printing cycle length => [("cycle", toString cycle), ("len", toString length)]
  | scheduled function cycles => [("function", function), ("cycles", toString cycles)]

end Event

end VliwPack
