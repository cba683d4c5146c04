import VliwPack.Datapath

/-! # Claims and conflicts

A claim is what one instruction occupies in the cycle it issues in. A conflict is
the reason a claim does not fit into a cycle.

A list of claims can issue together when it is `Claim.Legal`: no unit twice, no
cross path twice, and on each side no more moves and move-sharing units than the
move budget allows.
-/

namespace VliwPack

/-- What an instruction occupies in its cycle. -/
inductive Claim where
  /-- A pseudo instruction occupies nothing. -/
  | pseudo
  /-- A unit, and the cross path its operands need. -/
  | unit (claimed : FunctionalUnit) (path : Option CrossPath)
  /-- One of the moves of the destination side, and the cross path it needs. -/
  | move (side : Side) (path : Option CrossPath)
  deriving DecidableEq

namespace Claim

/-- The cross path claimed. -/
def path? : Claim → Option CrossPath
  | pseudo => none
  | unit _ path | move _ path => path

/-- The unit claimed. -/
def unit? : Claim → Option FunctionalUnit
  | unit claimed _ => some claimed
  | pseudo | move _ _ => none

/-- The side on whose move budget the claim draws: a move's destination side, or
the side of a unit that shares its slots with moves. -/
def budgetSide? : Claim → Option Side
  | pseudo => none
  | unit claimed _ => if claimed.kind.sharesMoveBudget then some claimed.side else none
  | move side _ => some side

/-- The claims can issue in one cycle. -/
structure Legal (claims : List Claim) : Prop where
  /-- No unit issues twice. -/
  units : (claims.filterMap unit?).Nodup
  /-- No cross path carries two transfers. -/
  paths : (claims.filterMap path?).Nodup
  /-- No side's move budget is exceeded. -/
  budget : ∀ side, (claims.filterMap budgetSide?).count side ≤ Machine.moveBudget

/-- The name of an optional path in a detailed description. -/
def pathDetail : Option CrossPath → String
  | some path => "Some(" ++ path.text ++ ")"
  | none => "None"

/-- The detailed description of a claim that events carry. -/
def detail : Claim → String
  | pseudo => "Pseudo"
  | unit claimed path =>
      "Unit \x7b unit: FunctionalUnit \x7b kind: " ++ claimed.kind.text ++ ", side: " ++
        claimed.side.text ++ " \x7d, path: " ++ pathDetail path ++ " \x7d"
  | move side path => "Move \x7b side: " ++ side.text ++ ", path: " ++ pathDetail path ++ " \x7d"

end Claim

/-- Why a claim does not fit into a cycle. -/
inductive Conflict where
  /-- The unit has already issued. -/
  | unitBusy (unit : FunctionalUnit)
  /-- The unit is idle, but its side's move budget is used up. -/
  | movePressure (unit : FunctionalUnit)
  /-- The destination side's move budget is used up. -/
  | moveBudget (side : Side)
  /-- The cross path is taken. -/
  | crossPathBusy (path : CrossPath)
  deriving DecidableEq

/-- The one-line report of a conflict. -/
def Conflict.message : Conflict → String
  | unitBusy unit | movePressure unit => unit.text ++ " conflict"
  | moveBudget _ => "mv conflict: no units left"
  | crossPathBusy path => path.text ++ " conflict"

end VliwPack
