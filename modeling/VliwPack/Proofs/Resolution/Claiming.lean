import VliwPack.Proofs.Resolution.Equations

/-! # What a claim says about its instruction

An instruction that has a claim is pseudo, a move, fixed, or flexible with a format field
that names a unit, and `Instruction.Claiming` says for each what the claim is read off and
what resolving leaves behind. It follows that an instruction that has been resolved names
the unit and the cross path of its claim (`Instruction.unit_and_path_of_claim`), and that
a claim names no data path but the one into its own side (`Instruction.routed_of_claim`).
-/

namespace VliwPack

/-- The cross path that the claim names, if any, is one that its side can use: a memory
path for a unit, or the data path into the side. -/
def Claim.Routed : Claim → Prop
  | .pseudo => True
  | .unit claimed path => ∀ other ∈ path, other.isAddress = true ∨ other = .data claimed.side
  | .move side path => ∀ other ∈ path, other = .data side

private theorem Descriptor.routed_pathOfBit (descriptor : Descriptor) (kind : UnitKind)
    (bit : Bool) :
    (Claim.unit ⟨kind, descriptor.side⟩ (descriptor.pathOfBit bit)).Routed := by
  intro other written
  unfold pathOfBit at written
  split at written
  · cases written
    cases bit <;> exact Or.inl rfl
  · split at written <;> cases written
    exact Or.inr rfl

namespace Instruction

variable {instruction : Instruction} {unit : FunctionalUnit} {path : Option CrossPath}
  {side : Side} {claim : Claim}

/-- How the instruction comes to its claim, and what resolving leaves behind. -/
inductive Claiming (instruction : Instruction) : Claim → Prop
  | pseudo (pseudo : instruction.descriptor.isPseudo = true)
      (kept : instruction.resolved = instruction) : Claiming instruction .pseudo
  | move {side : Side} {path : Option CrossPath} (real : instruction.descriptor.isPseudo = false)
      (move : instruction.descriptor.isMove = true)
      (route : instruction.moveRoute.outcome = .ok (side, path))
      (kept : instruction.resolved = instruction) : Claiming instruction (.move side path)
  | fixed {path : Option CrossPath} (real : instruction.descriptor.isPseudo = false)
      (unmoved : instruction.descriptor.isMove = false)
      (fixed : instruction.isFlexible = false) (crosses : instruction.crossPath.outcome = .ok path)
      (kept : instruction.resolved = instruction) :
      Claiming instruction
        (.unit ⟨instruction.descriptor.unit, instruction.descriptor.side⟩ path)
  | written {bit : Bool} {field : Int64} {kind : UnitKind}
      (real : instruction.descriptor.isPseudo = false)
      (unmoved : instruction.descriptor.isMove = false)
      (flexible : instruction.isFlexible = true)
      (needed : instruction.neededPathBit.outcome = .ok bit)
      (format : instruction.formatField? = some field)
      (named : UnitKind.ofIndex (FormatField.kindIndex field) = .ok kind)
      (kept : instruction.resolved =
        instruction.withFormatField (FormatField.withPathBit field bit)) :
      Claiming instruction
        (.unit ⟨kind, instruction.descriptor.side⟩ (instruction.descriptor.pathOfBit bit))

/-- A claim is made in one of these ways. -/
theorem claiming_of_claim (claims : instruction.claim = .ok claim) :
    instruction.Claiming claim := by
  have way := instruction.resolution
  generalize run : resolve instruction = trail at way
  have outcome : trail.outcome = .ok claim := run ▸ claims
  have kept : instruction.resolved = trail.state := congrArg Trail.state run
  cases way with
  | pseudo pseudo =>
      cases outcome
      exact .pseudo pseudo kept
  | move real move =>
      rcases route : instruction.moveRoute with ⟨_ | ⟨side, path⟩, events⟩ <;>
        rw [route] at outcome <;> cases outcome
      exact .move real move (congrArg Traced.outcome route) kept
  | fixed real unmoved fixed =>
      rcases crosses : instruction.crossPath with ⟨_ | path, events⟩ <;>
        rw [crosses] at outcome <;> cases outcome
      exact .fixed real unmoved fixed (congrArg Traced.outcome crosses) kept
  | unneeded => cases outcome
  | formatless => cases outcome
  | @written bit events field real unmoved flexible needed format =>
      rcases named : UnitKind.ofIndex (FormatField.kindIndex field) with fault | kind <;>
        rw [flexibleClaim, named] at outcome <;> cases outcome
      exact .written real unmoved flexible (congrArg Traced.outcome needed) format named kept

/-- An instruction claims nothing exactly if it is pseudo. -/
theorem eq_pseudo_iff_of_claim (claims : instruction.claim = .ok claim) :
    claim = .pseudo ↔ instruction.descriptor.isPseudo = true := by
  cases claiming_of_claim claims with
  | pseudo pseudo => simp [pseudo]
  | move real | fixed real | written real => simp [real]

/-! ### The cross path of a claim -/

/-- A fixed instruction claims the data path into its side or none. -/
theorem eq_data_of_crossPath (fixed : instruction.isFlexible = false) {other : CrossPath}
    (found : instruction.crossPath.outcome = .ok (some other)) :
    other = .data instruction.descriptor.side := by
  unfold crossPath at found
  simp only [fixed, Bool.false_eq_true, ↓reduceIte] at found
  split at found
  · cases found
  · split at found
    · cases found
    · rcases scanned : instruction.operandSides with ⟨fault | sides, events⟩
      · rw [scanned] at found
        cases found
      · rw [scanned, Traced.ok_bind] at found
        split at found <;> cases found
        rfl

/-- The side of the register at a position among the operands. -/
def registerSide? (instruction : Instruction) (position : Nat) : Option Side :=
  (instruction.operands[position]?.bind Operand.register?).bind Register.side?

/-- A move goes from the side of its operand 1 to that of its operand 0, and claims the
data path there if they differ. -/
theorem registerSides_of_moveRoute (route : instruction.moveRoute.outcome = .ok (side, path)) :
    ∃ source, instruction.registerSide? 0 = some side ∧
      instruction.registerSide? 1 = some source ∧
        path = if source = side then none else some (.data side) := by
  unfold moveRoute at route
  split at route
  next destination _ source _ _ rest operands =>
      unfold registerSide?
      rw [operands]
      rcases destination with ⟨destinationSide, _⟩ | _
      · rcases source with ⟨sourceSide, _⟩ | _ <;> cases route
        exact ⟨sourceSide, rfl, rfl, rfl⟩
      · cases route
  next => cases route

/-- Every claim names a cross path that its side can use. -/
theorem routed_of_claim (claims : instruction.claim = .ok claim) : claim.Routed := by
  cases claiming_of_claim claims with
  | pseudo => trivial
  | move _ _ route =>
      obtain ⟨source, -, -, path⟩ := registerSides_of_moveRoute route
      intro other named
      rw [path] at named
      split at named <;> cases named
      rfl
  | fixed _ _ fixed crosses =>
      rintro other ⟨⟩
      exact Or.inr (eq_data_of_crossPath fixed crosses)
  | @written bit _ kind => exact instruction.descriptor.routed_pathOfBit kind bit

/-- The unit and the cross path that a resolved instruction names are those it claims. -/
theorem unit_and_path_of_claim (claims : instruction.claim = .ok (.unit unit path)) :
    instruction.resolved.functionalUnit = .ok unit ∧
      instruction.resolved.crossPath.outcome = .ok path := by
  cases claiming_of_claim claims with
  | fixed _ _ fixed crosses kept =>
      rw [kept]
      refine ⟨?_, crosses⟩
      rw [functionalUnit, fixed]
      rfl
  | @written bit field kind _ _ flexible _ _ named kept =>
      -- The field that has been written names the unit as before, and the path by its bit.
      let written := instruction.withFormatField (FormatField.withPathBit field bit)
      have writtenFlexible : written.isFlexible = true := flexible
      have format := formatField?_withFormatField instruction (FormatField.withPathBit field bit)
      have unit := functionalUnit_of_flexible writtenFlexible format
      have path := crossPath_of_flexible writtenFlexible format
      rw [FormatField.kindIndex_withPathBit, named] at unit
      rw [FormatField.pathBit_withPathBit] at path
      rw [kept]
      exact ⟨unit, congrArg Traced.outcome path⟩

end Instruction

end VliwPack
