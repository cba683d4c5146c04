/-! # Lines of assembly

An assembly text is a list of lines. A line of code either starts a bundle or
joins the line before it; in bundle mode a joining line carries the parallel
marker, otherwise all lines of code look alike.
-/

namespace VliwPack.Assembly

/-- How a schedule is printed. -/
structure Layout where
  /-- Mark the instructions that issue together with the one before. -/
  bundleMode : Bool := true
  /-- Begin a function with the number of its cycles. -/
  cycleComment : Bool := true
  deriving DecidableEq

/-- A line. -/
inductive Line where
  /-- A comment. -/
  | note (text : String)
  /-- A label. -/
  | label (name : String)
  /-- Code; it `joins` the bundle of the line before. -/
  | code (joins : Bool) (text : String)
  deriving DecidableEq

namespace Line

/-- What stands before code that starts a bundle. -/
def startMark : String := "\t"

/-- What stands before code that joins a bundle. -/
def joinMark : String := "\t||"

/-- The text of a line, without its line end. -/
def text (bundleMode : Bool) : Line → String
  | note text => "\t; " ++ text
  | label name => name ++ ":"
  | code joins text => (if bundleMode && joins then joinMark else startMark) ++ text

/-- The text of lines, each with its line end. -/
def textAll (bundleMode : Bool) (lines : List Line) : String :=
  String.join (lines.map fun line => line.text bundleMode ++ "\n")

end Line

end VliwPack.Assembly
