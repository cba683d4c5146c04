import VliwPack.Proofs.Resolution.Claiming
import VliwPack.Proofs.Resolution.OperandScan

/-! # The claim that an instruction describes

`Instruction.Describes` reads the claim of an instruction off its descriptor, its format
field and the sides of its registers. `Instruction.Defect` lists what can be wrong with an
instruction, each with the fault that tells so and with what must then be right.

Resolving ends with a fault exactly if that is the fault of a defect, and with a claim
exactly if there is no defect and the claim is the one described
(`Instruction.resolve_described`).
-/

namespace VliwPack

/-- A kind is found at its own number alone. -/
theorem UnitKind.ofIndex?_eq_some_iff {index : Int} {kind : UnitKind} :
    ofIndex? index = some kind ↔ index = kind.index := by
  constructor
  · intro found
    unfold ofIndex? at found
    split at found <;> cases found <;> rfl
  · rintro rfl
    exact ofIndex?_index kind

/-- No kind is found beyond the numbers 0 to 3. -/
theorem UnitKind.ofIndex?_eq_none_iff {index : Int} :
    ofIndex? index = none ↔ ¬ (0 ≤ index ∧ index ≤ 3) := by
  constructor
  · intro missing within
    obtain rfl | rfl | rfl | rfl : index = 0 ∨ index = 1 ∨ index = 2 ∨ index = 3 := by omega
    all_goals cases missing
  · intro outside
    unfold ofIndex?
    split <;> simp at outside ⊢

/-- A number names the kind whose number it is. -/
theorem UnitKind.ofIndex_eq_ok_iff {index : Int} {kind : UnitKind} :
    ofIndex index = .ok kind ↔ index = kind.index := by
  rw [← ofIndex?_eq_some_iff]
  unfold ofIndex
  split <;> simp [*]

/-- A number that names no kind is reported. -/
theorem UnitKind.ofIndex_eq_error_iff {index : Int} {fault : Fault} :
    ofIndex index = .error fault ↔
      ¬ (0 ≤ index ∧ index ≤ 3) ∧ fault = .unknownUnitIndex index := by
  rw [← ofIndex?_eq_none_iff]
  unfold ofIndex
  split <;> simp [*, eq_comm]

/-! ### Descriptions and defects -/

/-- The memory path of a side. -/
def Side.memoryPath : Side → CrossPath
  | a => .t1
  | b => .t2

namespace Operand

/-- The register of an operand that is written. -/
def written? : Operand → Option Register
  | register reg true _ => some reg
  | _ => none

/-- The register of an operand that is read. -/
def read? : Operand → Option Register
  | register reg false _ => some reg
  | _ => none

/-- The register of an operand that is written and encoded. -/
def loaded? : Operand → Option Register
  | register reg true false => some reg
  | _ => none

end Operand

namespace Instruction

/-- The registers among the operands whose sides are looked at. -/
def leadingRegisters (instruction : Instruction) : List Register :=
  (instruction.operands.take sideOperands).filterMap Operand.register?

/-- One of these registers lies on the side on which the instruction does not issue. -/
def ReadsAcross (instruction : Instruction) : Prop :=
  ∃ reg ∈ instruction.leadingRegisters, reg.side? = some instruction.descriptor.side.opposite

instance (instruction : Instruction) : Decidable instruction.ReadsAcross :=
  inferInstanceAs (Decidable (∃ reg ∈ instruction.leadingRegisters, _))

/-- The instruction is a call whose unit the opcode names. -/
def IsFixedCall (instruction : Instruction) : Prop :=
  instruction.isFlexible = false ∧ instruction.descriptor.isCall = true

/-- The register that a move writes. -/
def destination? (instruction : Instruction) : Option Register :=
  instruction.operands[0]?.bind Operand.written?

/-- The register that a move reads. -/
def source? (instruction : Instruction) : Option Register :=
  instruction.operands[1]?.bind Operand.register?

/-- The register that a load writes or a store reads. -/
def dataRegister? (instruction : Instruction) : Option Register :=
  if instruction.descriptor.isStore then instruction.operands[2]?.bind Operand.read?
  else instruction.operands[0]?.bind Operand.loaded?

/-- The claim of an instruction other than a move, on a unit and perhaps a cross path. -/
structure DescribesUnit (instruction : Instruction) (unit : FunctionalUnit)
    (path : Option CrossPath) : Prop where
  side : unit.side = instruction.descriptor.side
  kind_of_fixed : instruction.isFlexible = false → unit.kind = instruction.descriptor.unit
  /-- The kind has as its number half the format field, rounded down. -/
  kind_of_flexible : instruction.isFlexible = true →
    ∃ field, instruction.formatField? = some field ∧ field.toInt / 2 = unit.kind.index
  path_of_load : instruction.descriptor.isMemoryAccess = true →
    instruction.descriptor.isStore = false →
      ∃ side, instruction.registerSide? 0 = some side ∧ path = some side.memoryPath
  path_of_store : instruction.descriptor.isMemoryAccess = true →
    instruction.descriptor.isStore = true →
      ∃ side, instruction.registerSide? 2 = some side ∧ path = some side.memoryPath
  path_of_call : instruction.descriptor.isMemoryAccess = false → instruction.IsFixedCall →
    path = none
  path_of_other : instruction.descriptor.isMemoryAccess = false → ¬ instruction.IsFixedCall →
    path = if instruction.ReadsAcross then some (.data instruction.descriptor.side) else none

/-- The claim of an instruction. -/
inductive Describes (instruction : Instruction) : Claim → Prop
  | pseudo (pseudo : instruction.descriptor.isPseudo = true) : Describes instruction .pseudo
  | move {side origin : Side} (real : instruction.descriptor.isPseudo = false)
      (move : instruction.descriptor.isMove = true)
      (destination : instruction.registerSide? 0 = some side)
      (source : instruction.registerSide? 1 = some origin) :
      Describes instruction (.move side (if origin = side then none else some (.data side)))
  | unit {unit : FunctionalUnit} {path : Option CrossPath}
      (real : instruction.descriptor.isPseudo = false)
      (unmoved : instruction.descriptor.isMove = false)
      (described : instruction.DescribesUnit unit path) : Describes instruction (.unit unit path)

/-- The registers that decide the path bit of a flexible instruction have sides. -/
structure Sided (instruction : Instruction) : Prop where
  data : instruction.descriptor.isMemoryAccess = true →
    ∃ side number, instruction.dataRegister? = some (.physical side number)
  leading : instruction.descriptor.isMemoryAccess = false →
    ∀ number, ¬ Register.Meets instruction.leadingRegisters number

/-- What is wrong with an instruction, and the fault that tells so. -/
inductive Defect (instruction : Instruction) : Fault → Prop
  | moveShape (real : instruction.descriptor.isPseudo = false)
      (move : instruction.descriptor.isMove = true)
      (missing : instruction.destination? = none ∨ instruction.source? = none) :
      Defect instruction (.malformedMove instruction.name)
  | moveDestination {number : UInt32} {source : Register}
      (real : instruction.descriptor.isPseudo = false)
      (move : instruction.descriptor.isMove = true)
      (destination : instruction.destination? = some (.virtual number))
      (source : instruction.source? = some source) :
      Defect instruction (.virtualRegister instruction.name number)
  | moveSource {side : Side} {number : Fin Machine.registersPerSide} {other : UInt32}
      (real : instruction.descriptor.isPseudo = false)
      (move : instruction.descriptor.isMove = true)
      (destination : instruction.destination? = some (.physical side number))
      (source : instruction.source? = some (.virtual other)) :
      Defect instruction (.virtualRegister instruction.name other)
  | fixedMemory (real : instruction.descriptor.isPseudo = false)
      (unmoved : instruction.descriptor.isMove = false)
      (fixed : instruction.isFlexible = false)
      (memory : instruction.descriptor.isMemoryAccess = true) :
      Defect instruction (.fixedMemoryAccess instruction.name)
  | dataShape (real : instruction.descriptor.isPseudo = false)
      (unmoved : instruction.descriptor.isMove = false)
      (flexible : instruction.isFlexible = true)
      (memory : instruction.descriptor.isMemoryAccess = true)
      (missing : instruction.dataRegister? = none) :
      Defect instruction (.malformedMemoryAccess instruction.name
        (if instruction.descriptor.isStore then .storeData else .loadDestination))
  | dataRegister {number : UInt32} (real : instruction.descriptor.isPseudo = false)
      (unmoved : instruction.descriptor.isMove = false)
      (flexible : instruction.isFlexible = true)
      (memory : instruction.descriptor.isMemoryAccess = true)
      (unallocated : instruction.dataRegister? = some (.virtual number)) :
      Defect instruction (.virtualRegister instruction.name number)
  | leadingRegister {number : UInt32} (real : instruction.descriptor.isPseudo = false)
      (unmoved : instruction.descriptor.isMove = false)
      (plain : instruction.descriptor.isMemoryAccess = false)
      (scanned : ¬ instruction.IsFixedCall)
      (unallocated : Register.Meets instruction.leadingRegisters number) :
      Defect instruction (.virtualRegister instruction.name number)
  | formatField (real : instruction.descriptor.isPseudo = false)
      (unmoved : instruction.descriptor.isMove = false)
      (flexible : instruction.isFlexible = true) (sided : instruction.Sided)
      (missing : instruction.formatField? = none) :
      Defect instruction (.missingFormatField instruction.name)
  | unitIndex {field : Int64} (real : instruction.descriptor.isPseudo = false)
      (unmoved : instruction.descriptor.isMove = false)
      (flexible : instruction.isFlexible = true) (sided : instruction.Sided)
      (format : instruction.formatField? = some field)
      (unknown : ¬ (0 ≤ field.toInt / 2 ∧ field.toInt / 2 ≤ 3)) :
      Defect instruction (.unknownUnitIndex (field.toInt / 2))

variable {instruction : Instruction} {claim other : Claim} {fault : Fault} {side : Side}

/-! ### Reading the operands -/

/-- A move takes the data path of its destination's side if it comes from the other side. -/
theorem outcome_moveRoute (instruction : Instruction) :
    instruction.moveRoute.outcome =
      match instruction.destination?, instruction.source? with
      | some destination, some source => do
          let side ← destination.requireSide instruction.name
          let origin ← source.requireSide instruction.name
          return (side, if origin = side then none else some (.data side))
      | _, _ => .error (.malformedMove instruction.name) := by
  unfold moveRoute destination? source?
  rcases instruction.operands with _ | ⟨first, _ | ⟨second, rest⟩⟩
  · rfl
  · rcases first with ⟨_, _ | _, _⟩ | _ <;> rfl
  · rcases first with ⟨destination, _ | _, _⟩ | _ <;> try rfl
    rcases second with ⟨source, _, _⟩ | _ <;> try rfl
    rcases destination with _ | _ <;> rcases source with _ | _ <;> rfl

private theorem memoryRegister_eq (instruction : Instruction) :
    instruction.memoryRegister =
      match instruction.dataRegister? with
      | some reg => .ok reg
      | none => .error (.malformedMemoryAccess instruction.name
          (if instruction.descriptor.isStore then .storeData else .loadDestination)) := by
  unfold memoryRegister dataRegister?
  split
  · rcases instruction.operands with _ | ⟨_, _ | ⟨_, _ | ⟨data, _⟩⟩⟩
    · rfl
    · rfl
    · rfl
    · rcases data with ⟨_, _ | _, _⟩ | _ <;> rfl
  · rcases instruction.operands with _ | ⟨destination, _⟩
    · rfl
    · rcases destination with ⟨_, _ | _, _ | _⟩ | _ <;> rfl

/-- The operands fail on the first virtual register that is met. -/
theorem operandSides_eq_error_iff :
    instruction.operandSides.outcome = .error fault ↔
      ∃ number, Register.Meets instruction.leadingRegisters number ∧
        fault = .virtualRegister instruction.name number :=
  OperandSides.outcome_scan_eq_error_iff

/-- A data path is needed exactly if an operand is read across. -/
theorem needsDataPath_iff_readsAcross {sides : OperandSides}
    (scanned : instruction.operandSides.outcome = .ok sides) :
    sides.needsDataPath instruction.descriptor.side = true ↔ instruction.ReadsAcross :=
  OperandSides.needsDataPath_iff_of_scan scanned

/-- A fixed load or store has no cross path, a fixed call needs none, and all else follows
its leading registers. -/
theorem outcome_crossPath_of_fixed (fixed : instruction.isFlexible = false) :
    instruction.crossPath.outcome =
      if instruction.descriptor.isMemoryAccess then .error (.fixedMemoryAccess instruction.name)
      else if instruction.descriptor.isCall then .ok none
      else instruction.operandSides.outcome.map fun sides =>
        if sides.needsDataPath instruction.descriptor.side then
          some (.data instruction.descriptor.side)
        else none := by
  unfold crossPath
  simp only [fixed, Bool.false_eq_true, ↓reduceIte]
  split
  · rfl
  · split
    · rfl
    · rcases instruction.operandSides with ⟨_ | sides, events⟩
      · rfl
      · by_cases needs : sides.needsDataPath instruction.descriptor.side = true <;>
          simp [needs, Except.map]

/-- The path bit is the side of the data register for a memory access, and whether an operand is
read across for anything else. -/
theorem outcome_neededPathBit (instruction : Instruction) :
    instruction.neededPathBit.outcome =
      if instruction.descriptor.isMemoryAccess then do
        let reg ← instruction.memoryRegister
        let side ← reg.requireSide instruction.name
        return decide (side = .b)
      else
        instruction.operandSides.outcome.map (·.needsDataPath instruction.descriptor.side) := by
  unfold neededPathBit
  split
  · rcases instruction.memoryRegister with _ | _ | _ <;> rfl
  · rcases instruction.operandSides with ⟨_ | sides, events⟩ <;> rfl

/-- A move claims the route that it takes. -/
theorem claim_of_isMove (real : instruction.descriptor.isPseudo = false)
    (move : instruction.descriptor.isMove = true) :
    instruction.claim =
      instruction.moveRoute.outcome.map fun route => .move route.1 route.2 := by
  rw [Instruction.claim, resolve_of_isMove real move, Traced.outcome_map]

/-- On a fixed unit the claim is for that unit and the path that the operands need. -/
theorem claim_of_fixed (real : instruction.descriptor.isPseudo = false)
    (unmoved : instruction.descriptor.isMove = false) (fixed : instruction.isFlexible = false) :
    instruction.claim = instruction.crossPath.outcome.map
      (.unit ⟨instruction.descriptor.unit, instruction.descriptor.side⟩) := by
  rw [Instruction.claim, resolve_of_fixed real unmoved fixed, Traced.outcome_map]

/-- The claim of a flexible instruction is told by its path bit and its format field. -/
theorem claim_of_flexible (real : instruction.descriptor.isPseudo = false)
    (unmoved : instruction.descriptor.isMove = false) (flexible : instruction.isFlexible = true) :
    instruction.claim = instruction.neededPathBit.outcome >>= fun bit =>
      instruction.formatField >>= fun field => flexibleClaim instruction.descriptor field bit := by
  rcases needed : instruction.neededPathBit with ⟨fault | bit, events⟩
  · rw [Instruction.claim, resolve_of_neededPathBit_error real unmoved flexible needed]
    rfl
  · cases format : instruction.formatField? with
    | none =>
        rw [Instruction.claim, resolve_of_formatField?_none real unmoved flexible needed format,
          formatField_of_none format]
        rfl
    | some field =>
        rw [Instruction.claim, resolve_of_flexible real unmoved flexible needed format,
          formatField_of_formatField? format]
        rfl

/-! ### The path bit of a flexible instruction -/

private theorem neededPathBit_of_data (memory : instruction.descriptor.isMemoryAccess = true)
    {number : Fin Machine.registersPerSide}
    (data : instruction.dataRegister? = some (.physical side number)) :
    instruction.neededPathBit.outcome = .ok (decide (side = .b)) := by
  rw [outcome_neededPathBit, if_pos memory, memoryRegister_eq, data]
  rfl

private theorem neededPathBit_of_virtual (memory : instruction.descriptor.isMemoryAccess = true)
    {number : UInt32} (data : instruction.dataRegister? = some (.virtual number)) :
    instruction.neededPathBit.outcome = .error (.virtualRegister instruction.name number) := by
  rw [outcome_neededPathBit, if_pos memory, memoryRegister_eq, data]
  rfl

private theorem neededPathBit_of_missing (memory : instruction.descriptor.isMemoryAccess = true)
    (missing : instruction.dataRegister? = none) :
    instruction.neededPathBit.outcome = .error (.malformedMemoryAccess instruction.name
      (if instruction.descriptor.isStore then .storeData else .loadDestination)) := by
  rw [outcome_neededPathBit, if_pos memory, memoryRegister_eq, missing]
  rfl

/-- The path bit can be told exactly if the registers that decide it have sides. -/
theorem sided_iff : instruction.Sided ↔ ∃ bit, instruction.neededPathBit.outcome = .ok bit := by
  by_cases memory : instruction.descriptor.isMemoryAccess = true
  · have data_iff : instruction.Sided ↔
        ∃ side number, instruction.dataRegister? = some (.physical side number) :=
      ⟨fun sided => sided.data memory,
        fun data => ⟨fun _ => data, fun plain => absurd memory (by simp [plain])⟩⟩
    rw [data_iff]
    rcases data : instruction.dataRegister? with _ | ⟨side, number⟩ | number
    · simp [neededPathBit_of_missing memory data]
    · simp [neededPathBit_of_data memory data]
    · simp [neededPathBit_of_virtual memory data]
  · have leading_iff : instruction.Sided ↔
        ∀ number, ¬ Register.Meets instruction.leadingRegisters number :=
      ⟨fun sided => sided.leading (by simpa using memory),
        fun leading => ⟨fun access => absurd access memory, fun _ => leading⟩⟩
    rw [leading_iff, outcome_neededPathBit, if_neg memory]
    constructor
    · intro free
      cases scanned : instruction.operandSides.outcome with
      | error fault =>
          obtain ⟨number, meets, -⟩ := operandSides_eq_error_iff.mp scanned
          exact absurd meets (free number)
      | ok sides => exact ⟨_, rfl⟩
    · rintro ⟨bit, needed⟩ number meets
      obtain ⟨sides, scanned, -⟩ := Traced.outcome_map_eq_ok_iff.mp needed
      rw [operandSides_eq_error_iff.mpr ⟨number, meets, rfl⟩] at scanned
      cases scanned

/-! ### Descriptions -/

/-- The data register of a memory access is that of operand 0 or, of a store, operand 2. -/
theorem registerSide?_of_dataRegister? {number : Fin Machine.registersPerSide}
    (data : instruction.dataRegister? = some (.physical side number)) :
    instruction.registerSide? (if instruction.descriptor.isStore then 2 else 0) = some side := by
  unfold dataRegister? at data
  unfold registerSide?
  split at data
  next store =>
    obtain ⟨operand, found, reads⟩ := Option.bind_eq_some_iff.mp data
    rcases operand with ⟨_, _ | _, _⟩ | _ <;> cases reads
    rw [if_pos store, found]
    rfl
  next load =>
    obtain ⟨operand, found, loads⟩ := Option.bind_eq_some_iff.mp data
    rcases operand with ⟨_, _ | _, _ | _⟩ | _ <;> cases loads
    rw [if_neg load, found]
    rfl

/-- A fixed unit is described with the path that is found for it. -/
private theorem describesUnit_of_fixed {path : Option CrossPath}
    (fixed : instruction.isFlexible = false) (crosses : instruction.crossPath.outcome = .ok path) :
    instruction.DescribesUnit ⟨instruction.descriptor.unit, instruction.descriptor.side⟩ path := by
  rw [outcome_crossPath_of_fixed fixed] at crosses
  split at crosses
  · cases crosses
  next plain =>
    refine ⟨rfl, fun _ => rfl, fun flexible => absurd flexible (by simp [fixed]),
      fun memory => absurd memory plain, fun memory => absurd memory plain, ?_, ?_⟩
    · intro _ call
      rw [if_pos call.2] at crosses
      exact (Except.ok.inj crosses).symm
    · intro _ other
      have uncalled : ¬ instruction.descriptor.isCall = true := fun call => other ⟨fixed, call⟩
      rw [if_neg uncalled] at crosses
      obtain ⟨sides, scanned, rfl⟩ := Traced.outcome_map_eq_ok_iff.mp crosses
      simp only [needsDataPath_iff_readsAcross scanned]

/-- A unit that a format field chooses is described with the path of its path bit. -/
private theorem describesUnit_of_flexible {kind : UnitKind} {bit : Bool} {field : Int64}
    (flexible : instruction.isFlexible = true)
    (needed : instruction.neededPathBit.outcome = .ok bit)
    (format : instruction.formatField? = some field)
    (named : UnitKind.ofIndex (FormatField.kindIndex field) = .ok kind) :
    instruction.DescribesUnit ⟨kind, instruction.descriptor.side⟩
      (instruction.descriptor.pathOfBit bit) := by
  have uncalled : ¬ instruction.IsFixedCall := fun call => by
    rw [IsFixedCall, flexible] at call
    cases call.1
  have kind_eq : ∃ field, instruction.formatField? = some field ∧ field.toInt / 2 = kind.index :=
    ⟨field, format, UnitKind.ofIndex_eq_ok_iff.mp named⟩
  by_cases memory : instruction.descriptor.isMemoryAccess = true
  · obtain ⟨side, number, data⟩ := (sided_iff.mpr ⟨bit, needed⟩).data memory
    rw [neededPathBit_of_data memory data] at needed
    have position := registerSide?_of_dataRegister? data
    have path : instruction.descriptor.pathOfBit bit = some side.memoryPath := by
      rw [← Except.ok.inj needed, Descriptor.pathOfBit, if_pos memory]
      cases side <;> rfl
    have access : ¬ instruction.descriptor.isMemoryAccess = false := by simp [memory]
    exact {
      side := rfl
      kind_of_fixed := fun fixed => absurd flexible (by simp [fixed])
      kind_of_flexible := fun _ => kind_eq
      path_of_load := fun _ load => ⟨side, by simpa [load] using position, path⟩
      path_of_store := fun _ store => ⟨side, by simpa [store] using position, path⟩
      path_of_call := fun plain => absurd plain access
      path_of_other := fun plain => absurd plain access }
  · rw [outcome_neededPathBit, if_neg memory] at needed
    obtain ⟨sides, scanned, rfl⟩ := Traced.outcome_map_eq_ok_iff.mp needed
    refine ⟨rfl, fun fixed => absurd flexible (by simp [fixed]), fun _ => kind_eq,
      fun access => absurd access memory, fun access => absurd access memory,
      fun _ call => absurd call uncalled, fun _ _ => ?_⟩
    rw [Descriptor.pathOfBit, if_neg memory]
    simp only [needsDataPath_iff_readsAcross scanned]

/-- What is claimed is described. -/
theorem describes_of_claim (claims : instruction.claim = .ok claim) :
    instruction.Describes claim := by
  cases claiming_of_claim claims with
  | pseudo pseudo => exact .pseudo pseudo
  | move real move route =>
      obtain ⟨origin, destination, source, rfl⟩ := registerSides_of_moveRoute route
      exact .move real move destination source
  | fixed real unmoved fixed crosses =>
      exact .unit real unmoved (describesUnit_of_fixed fixed crosses)
  | written real unmoved flexible needed format named =>
      exact .unit real unmoved (describesUnit_of_flexible flexible needed format named)

/-- At most one unit and one path are described. -/
theorem DescribesUnit.unique {unit unit' : FunctionalUnit} {path path' : Option CrossPath}
    (one : instruction.DescribesUnit unit path) (two : instruction.DescribesUnit unit' path') :
    unit = unit' ∧ path = path' := by
  have kind : unit.kind = unit'.kind := by
    cases flexible : instruction.isFlexible with
    | false => rw [one.kind_of_fixed flexible, two.kind_of_fixed flexible]
    | true =>
        obtain ⟨field, format, first⟩ := one.kind_of_flexible flexible
        obtain ⟨same, again, second⟩ := two.kind_of_flexible flexible
        obtain rfl : field = same := Option.some.inj (format.symm.trans again)
        rw [← UnitKind.ofIndex?_eq_some_iff] at first second
        exact Option.some.inj (first.symm.trans second)
  have unit_eq : unit = unit' := by
    cases unit
    cases unit'
    exact FunctionalUnit.mk.injEq .. ▸ ⟨kind, one.side.trans two.side.symm⟩
  refine ⟨unit_eq, ?_⟩
  cases memory : instruction.descriptor.isMemoryAccess with
  | true =>
      cases store : instruction.descriptor.isStore with
      | true =>
          obtain ⟨side, position, rfl⟩ := one.path_of_store memory store
          obtain ⟨same, again, rfl⟩ := two.path_of_store memory store
          rw [Option.some.inj (position.symm.trans again)]
      | false =>
          obtain ⟨side, position, rfl⟩ := one.path_of_load memory store
          obtain ⟨same, again, rfl⟩ := two.path_of_load memory store
          rw [Option.some.inj (position.symm.trans again)]
  | false =>
      by_cases call : instruction.IsFixedCall
      · rw [one.path_of_call memory call, two.path_of_call memory call]
      · rw [one.path_of_other memory call, two.path_of_other memory call]

/-- An instruction describes one claim at most. -/
theorem Describes.unique (one : instruction.Describes claim) (two : instruction.Describes other) :
    claim = other := by
  cases one with
  | pseudo pseudo =>
      cases two with
      | pseudo => rfl
      | move real | unit real => simp [pseudo] at real
  | move real move destination source =>
      cases two with
      | pseudo pseudo => simp [pseudo] at real
      | move _ _ destination' source' =>
          rw [Option.some.inj (destination.symm.trans destination'),
            Option.some.inj (source.symm.trans source')]
      | unit _ unmoved => simp [unmoved] at move
  | unit real unmoved described =>
      cases two with
      | pseudo pseudo => simp [pseudo] at real
      | move _ move => simp [unmoved] at move
      | unit _ _ described' =>
          obtain ⟨rfl, rfl⟩ := described.unique described'
          rfl

/-! ### Defects -/

/-- The fault of a path bit that cannot be told is that of a defect. -/
theorem defect_of_neededPathBit (real : instruction.descriptor.isPseudo = false)
    (unmoved : instruction.descriptor.isMove = false) (flexible : instruction.isFlexible = true)
    (needed : instruction.neededPathBit.outcome = .error fault) : instruction.Defect fault := by
  by_cases memory : instruction.descriptor.isMemoryAccess = true
  · rcases data : instruction.dataRegister? with _ | ⟨side, number⟩ | number
    · rw [neededPathBit_of_missing memory data] at needed
      cases needed
      exact .dataShape real unmoved flexible memory data
    · rw [neededPathBit_of_data memory data] at needed
      cases needed
    · rw [neededPathBit_of_virtual memory data] at needed
      cases needed
      exact .dataRegister real unmoved flexible memory data
  · rw [outcome_neededPathBit, if_neg memory] at needed
    have scanned := Traced.outcome_map_eq_error_iff.mp needed
    obtain ⟨number, meets, rfl⟩ := operandSides_eq_error_iff.mp scanned
    have uncalled : ¬ instruction.IsFixedCall := fun call => by
      simp [IsFixedCall, flexible] at call
    exact .leadingRegister real unmoved (by simpa using memory) uncalled meets

/-- What stops a move is a defect. -/
private theorem defect_of_moveRoute (real : instruction.descriptor.isPseudo = false)
    (move : instruction.descriptor.isMove = true)
    (stuck : instruction.moveRoute.outcome = .error fault) : instruction.Defect fault := by
  rw [outcome_moveRoute] at stuck
  rcases destination : instruction.destination? with _ | ⟨side, number⟩ | number
  · rw [destination] at stuck
    cases stuck
    exact .moveShape real move (.inl destination)
  all_goals rcases source : instruction.source? with _ | ⟨origin, other⟩ | other
  all_goals rw [destination, source] at stuck
  all_goals cases stuck
  · exact .moveShape real move (.inr source)
  · exact .moveSource real move destination source
  · exact .moveShape real move (.inr source)
  · exact .moveDestination real move destination source
  · exact .moveDestination real move destination source

/-- What stops a fixed instruction is a defect. -/
private theorem defect_of_crossPath (real : instruction.descriptor.isPseudo = false)
    (unmoved : instruction.descriptor.isMove = false) (fixed : instruction.isFlexible = false)
    (stuck : instruction.crossPath.outcome = .error fault) : instruction.Defect fault := by
  rw [outcome_crossPath_of_fixed fixed] at stuck
  split at stuck
  next memory =>
    cases stuck
    exact .fixedMemory real unmoved fixed memory
  next plain =>
    split at stuck
    · cases stuck
    next uncalled =>
      have scanned := Traced.outcome_map_eq_error_iff.mp stuck
      obtain ⟨number, meets, rfl⟩ := operandSides_eq_error_iff.mp scanned
      exact .leadingRegister real unmoved (by simpa using plain)
        (fun call => uncalled call.2) meets

/-- A fault is a defect of the instruction. -/
theorem defect_of_claim (fails : instruction.claim = .error fault) : instruction.Defect fault := by
  have real := isPseudo_eq_false_of_fault fails
  cases unmoved : instruction.descriptor.isMove with
  | true =>
      rw [claim_of_isMove real unmoved] at fails
      exact defect_of_moveRoute real unmoved (Traced.outcome_map_eq_error_iff.mp fails)
  | false =>
  cases flexible : instruction.isFlexible with
  | false =>
      rw [claim_of_fixed real unmoved flexible] at fails
      exact defect_of_crossPath real unmoved flexible (Traced.outcome_map_eq_error_iff.mp fails)
  | true =>
      rw [claim_of_flexible real unmoved flexible] at fails
      cases needed : instruction.neededPathBit.outcome with
      | error other =>
          rw [needed] at fails
          cases fails
          exact defect_of_neededPathBit real unmoved flexible needed
      | ok bit =>
          have sided := sided_iff.mpr ⟨bit, needed⟩
          rw [needed] at fails
          cases format : instruction.formatField? with
          | none =>
              rw [formatField_of_none format] at fails
              cases fails
              exact .formatField real unmoved flexible sided format
          | some field =>
              rw [formatField_of_formatField? format] at fails
              change flexibleClaim instruction.descriptor field bit = .error fault at fails
              cases named : UnitKind.ofIndex (FormatField.kindIndex field) with
              | error other =>
                  rw [flexibleClaim, named] at fails
                  cases fails
                  obtain ⟨unknown, rfl⟩ := UnitKind.ofIndex_eq_error_iff.mp named
                  exact .unitIndex real unmoved flexible sided format unknown
              | ok kind =>
                  rw [flexibleClaim, named] at fails
                  cases fails

/-- A virtual register that comes before two sides disagree stops the scan. -/
theorem operandSides_of_meets {number : UInt32}
    (meets : Register.Meets instruction.leadingRegisters number) :
    instruction.operandSides.outcome = .error (.virtualRegister instruction.name number) :=
  operandSides_eq_error_iff.mpr ⟨number, meets, rfl⟩

/-- A defect of the instruction is its fault. -/
theorem claim_of_defect (defect : instruction.Defect fault) : instruction.claim = .error fault := by
  cases defect with
  | moveShape real move missing =>
      rw [claim_of_isMove real move, outcome_moveRoute]
      rcases missing with missing | missing
      · rw [missing]
        rfl
      · rw [missing]
        cases instruction.destination? <;> rfl
  | moveDestination real move destination source =>
      rw [claim_of_isMove real move, outcome_moveRoute, destination, source]
      rfl
  | moveSource real move destination source =>
      rw [claim_of_isMove real move, outcome_moveRoute, destination, source]
      rfl
  | fixedMemory real unmoved fixed memory =>
      rw [claim_of_fixed real unmoved fixed, outcome_crossPath_of_fixed fixed, if_pos memory]
      rfl
  | dataShape real unmoved flexible memory missing =>
      rw [claim_of_flexible real unmoved flexible, neededPathBit_of_missing memory missing]
      rfl
  | dataRegister real unmoved flexible memory unallocated =>
      rw [claim_of_flexible real unmoved flexible, neededPathBit_of_virtual memory unallocated]
      rfl
  | leadingRegister real unmoved plain scanned unallocated =>
      have access : ¬ instruction.descriptor.isMemoryAccess = true := by simp [plain]
      cases flexible : instruction.isFlexible with
      | false =>
          have uncalled : ¬ instruction.descriptor.isCall = true :=
            fun call => scanned ⟨flexible, call⟩
          rw [claim_of_fixed real unmoved flexible, outcome_crossPath_of_fixed flexible,
            if_neg access, if_neg uncalled, operandSides_of_meets unallocated]
          rfl
      | true =>
          rw [claim_of_flexible real unmoved flexible, outcome_neededPathBit, if_neg access,
            operandSides_of_meets unallocated]
          rfl
  | formatField real unmoved flexible sided missing =>
      obtain ⟨bit, needed⟩ := sided_iff.mp sided
      rw [claim_of_flexible real unmoved flexible, needed, formatField_of_none missing]
      rfl
  | @unitIndex field real unmoved flexible sided format unknown =>
      obtain ⟨bit, needed⟩ := sided_iff.mp sided
      have unnamed : UnitKind.ofIndex (FormatField.kindIndex field) =
          .error (.unknownUnitIndex (field.toInt / 2)) :=
        UnitKind.ofIndex_eq_error_iff.mpr ⟨unknown, rfl⟩
      rw [claim_of_flexible real unmoved flexible, needed, formatField_of_formatField? format]
      change flexibleClaim instruction.descriptor field bit = _
      rw [flexibleClaim, unnamed]
      rfl

/-- Resolving ends with a fault exactly if something is wrong with the instruction that this
fault tells, and with a claim exactly if nothing is wrong and the instruction describes
that claim. -/
theorem resolve_described (instruction : Instruction) :
    (∀ fault, instruction.claim = .error fault ↔ instruction.Defect fault) ∧
      ∀ claim, instruction.claim = .ok claim ↔
        instruction.Describes claim ∧ ∀ fault, ¬ instruction.Defect fault := by
  refine ⟨fun fault => ⟨defect_of_claim, claim_of_defect⟩, fun claim => ⟨fun claims => ?_, ?_⟩⟩
  · refine ⟨describes_of_claim claims, fun fault defect => ?_⟩
    rw [claim_of_defect defect] at claims
    cases claims
  · rintro ⟨described, sound⟩
    cases claims : instruction.claim with
    | error fault => exact absurd (defect_of_claim claims) (sound fault)
    | ok other => rw [(describes_of_claim claims).unique described]

end Instruction

end VliwPack
