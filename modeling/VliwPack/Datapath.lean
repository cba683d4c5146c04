/-! # The datapath

The machine has two symmetric sides. Each side has a register file and four
functional units, one of each kind, so there are eight units. Four cross paths
join the sides: two carry memory traffic and two carry register operands read
from the opposite file.
-/

namespace VliwPack

/-- One of the two halves of the datapath. -/
inductive Side where
  | a
  | b
  deriving DecidableEq, Inhabited

namespace Side

/-- Both sides, in index order. -/
def all : List Side := [a, b]

/-- Position of a side in index order. -/
def index : Side → Nat
  | a => 0
  | b => 1

/-- The side a bit selects: a set bit selects side B. -/
def ofBit (bit : Bool) : Side := if bit then b else a

/-- The other side. -/
def opposite : Side → Side
  | a => b
  | b => a

/-- The letter of a side's register file. -/
def letter : Side → Char
  | a => 'A'
  | b => 'B'

/-- The digit that ends the names of a side's units. -/
def number : Side → Nat
  | a => 1
  | b => 2

/-- A side is written as its register file's letter. -/
def text (side : Side) : String := side.letter.toString

/-- Every side is listed. -/
theorem mem_all (side : Side) : side ∈ all := by cases side <;> decide

/-- Two changes of side lead back. -/
@[simp] theorem opposite_opposite (side : Side) : side.opposite.opposite = side := by
  cases side <;> rfl

end Side

/-- What a functional unit does, in encoding order. -/
inductive UnitKind where
  | l
  | s
  | m
  | d
  deriving DecidableEq, Inhabited

namespace UnitKind

/-- All kinds, in encoding order. -/
def all : List UnitKind := [l, s, m, d]

/-- The number that encodes a kind. -/
def index : UnitKind → Nat
  | l => 0
  | s => 1
  | m => 2
  | d => 3

/-- The kind a number encodes. -/
def ofIndex? : Int → Option UnitKind
  | 0 => some l
  | 1 => some s
  | 2 => some m
  | 3 => some d
  | _ => none

/-- The kinds that share their issue slots with register moves: all but the
multiplier. -/
def sharesMoveBudget : UnitKind → Bool
  | m => false
  | _ => true

/-- A kind's letter. -/
def letter : UnitKind → Char
  | l => 'L'
  | s => 'S'
  | m => 'M'
  | d => 'D'

/-- A kind is written as its letter. -/
def text (kind : UnitKind) : String := kind.letter.toString

/-- Every kind is listed. -/
theorem mem_all (kind : UnitKind) : kind ∈ all := by cases kind <;> decide

/-- A kind is found at its own position. -/
theorem ofIndex?_index (kind : UnitKind) : ofIndex? kind.index = some kind := by
  cases kind <;> rfl

end UnitKind

/-- A functional unit: one kind on one side. -/
structure FunctionalUnit where
  kind : UnitKind
  side : Side
  deriving DecidableEq, Inhabited

namespace FunctionalUnit

/-- All units, kind by kind and side A before side B. -/
def all : List FunctionalUnit :=
  UnitKind.all.flatMap fun kind => Side.all.map fun side => ⟨kind, side⟩

/-- All units, side by side and within a side by kind. -/
def allBySide : List FunctionalUnit :=
  Side.all.flatMap fun side => UnitKind.all.map fun kind => ⟨kind, side⟩

/-- Position of a unit in the order of `all`. -/
def index (unit : FunctionalUnit) : Nat := 2 * unit.kind.index + unit.side.index

/-- The unit at a position in the order of `all`. -/
def ofIndex? (index : Nat) : Option FunctionalUnit :=
  (UnitKind.ofIndex? (index / 2 : Nat)).map fun kind => ⟨kind, Side.ofBit (index % 2 == 1)⟩

/-- A unit is written as its kind's letter and its side's number. -/
def text (unit : FunctionalUnit) : String := unit.kind.text ++ toString unit.side.number

/-- Every unit is listed kind by kind. -/
theorem mem_all (unit : FunctionalUnit) : unit ∈ all :=
  List.mem_flatMap.mpr ⟨unit.kind, unit.kind.mem_all, List.mem_map_of_mem unit.side.mem_all⟩

/-- Every unit is listed side by side. -/
theorem mem_allBySide (unit : FunctionalUnit) : unit ∈ allBySide :=
  List.mem_flatMap.mpr ⟨unit.side, unit.side.mem_all, List.mem_map_of_mem unit.kind.mem_all⟩

end FunctionalUnit

/-- A path between the sides. Each carries one transfer a cycle. -/
inductive CrossPath where
  | t1
  | t2
  | x1
  | x2
  deriving DecidableEq, Inhabited

namespace CrossPath

/-- All paths, in index order. -/
def all : List CrossPath := [t1, t2, x1, x2]

/-- Position of a path in index order. -/
def index : CrossPath → Nat
  | t1 => 0
  | t2 => 1
  | x1 => 2
  | x2 => 3

/-- The path at a position in index order. -/
def ofIndex? (index : Nat) : Option CrossPath := all[index]?

/-- The path that brings operands to the units of a side. -/
def data : Side → CrossPath
  | .a => x1
  | .b => x2

/-- The memory path a bit selects. -/
def address (bit : Bool) : CrossPath := if bit then t2 else t1

/-- Holds of the two memory paths. -/
def isAddress : CrossPath → Bool
  | t1 | t2 => true
  | x1 | x2 => false

/-- A path's name. -/
def text : CrossPath → String
  | t1 => "T1"
  | t2 => "T2"
  | x1 => "X1"
  | x2 => "X2"

/-- Every path is listed. -/
theorem mem_all (path : CrossPath) : path ∈ all := by cases path <;> decide

end CrossPath

/-! ### Size limits of the machine -/

namespace Machine

/-- Functional units on a side. -/
def unitsPerSide : Nat := UnitKind.all.length

/-- Sides. -/
def sides : Nat := Side.all.length

/-- Cross paths. -/
def crossPaths : Nat := CrossPath.all.length

/-- Instructions that can issue in one cycle. -/
def maxIssueWidth : Nat := FunctionalUnit.all.length

/-- Registers in the file of a side. -/
abbrev registersPerSide : Nat := 32

/-- Register moves and move-sharing units that can issue together on a side. -/
def moveBudget : Nat := unitsPerSide - 1

end Machine

end VliwPack
