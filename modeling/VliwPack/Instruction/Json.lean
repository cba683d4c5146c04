import VliwPack.Instruction
import VliwPack.Json.Decoder

/-! # Instructions as JSON

Every part of an instruction has a JSON form. Side and unit kind are their
letters, a register is its name, an operand is an object with one member that
tells its kind, and the rest are records. What is missing takes its default; only
an instruction's descriptor and the registers of operands and predicates must be
given.
-/

namespace VliwPack

open Json (Value Decoder)

/-! ### Reading -/

/-- A side's letter. -/
def Side.decoder : Decoder Side := .named (Side.all.map fun side => (side.text, side))

/-- A unit kind's letter. -/
def UnitKind.decoder : Decoder UnitKind :=
  .named (UnitKind.all.map fun kind => (kind.text, kind))

/-- A register's name. -/
def Register.decoder : Decoder Register := fun value => do
  match Register.ofName (← Decoder.string value) with
  | .ok reg => .ok reg
  | .error fault => .error (.refused fault)

namespace Operand

/-- A register operand whose register may still be missing. -/
structure RegisterDraft where
  reg : Option Register := none
  isDef : Bool := false
  isImplicit : Bool := false

/-- The fields of a register operand. -/
def registerFields : List (Json.Decoder.Field RegisterDraft) :=
  [.of "reg" Register.decoder fun reg draft => { draft with reg := some reg },
    .of "def" .boolean fun isDef draft => { draft with isDef },
    .of "implicit" .boolean fun isImplicit draft => { draft with isImplicit }]

/-- A register operand. -/
def registerDecoder : Decoder Operand :=
  .record registerFields {} fun draft =>
    draft.reg.map fun reg => .register reg draft.isDef draft.isImplicit

/-- An operand. -/
def decoder : Decoder Operand :=
  .tagged
    [("register", registerDecoder),
      ("immediate", fun value => immediate <$> Decoder.int64 value),
      ("basic_block", fun value => basicBlock <$> Decoder.string value),
      ("global_address", fun value => globalAddress <$> Decoder.string value),
      ("external_symbol", fun value => externalSymbol <$> Decoder.string value),
      ("jump_table_index", fun value =>
        (jumpTableIndex ∘ UInt32.ofNat) <$> Decoder.natBelow UInt32.size value)]

end Operand

/-- The fields of a descriptor. -/
def Descriptor.fields : List (Json.Decoder.Field Descriptor) :=
  [.of "name" .string fun name draft => { draft with name },
    .of "unit" UnitKind.decoder fun unit draft => { draft with unit },
    .of "unit_fixed" .boolean fun isUnitFixed draft => { draft with isUnitFixed },
    .of "side" Side.decoder fun side draft => { draft with side },
    .of "side_inst" .boolean fun isSideSelectable draft => { draft with isSideSelectable },
    .of "mem_access" .boolean fun isMemoryAccess draft => { draft with isMemoryAccess },
    .of "store" .boolean fun isStore draft => { draft with isStore },
    .of "call" .boolean fun isCall draft => { draft with isCall },
    .of "predicable" .boolean fun isPredicable draft => { draft with isPredicable },
    .of "is_move" .boolean fun isMove draft => { draft with isMove },
    .of "pseudo" .boolean fun isPseudo draft => { draft with isPseudo }]

/-- A descriptor. -/
def Descriptor.decoder : Decoder Descriptor := .overlay fields {}

/-- A predicate whose register may still be missing. -/
structure Predicate.Draft where
  reg : Option Register := none
  isNegated : Bool := false

/-- The fields of a predicate. -/
def Predicate.fields : List (Json.Decoder.Field Predicate.Draft) :=
  [.of "reg" Register.decoder fun reg draft => { draft with reg := some reg },
    .of "negated" .boolean fun isNegated draft => { draft with isNegated }]

/-- A predicate. -/
def Predicate.decoder : Decoder Predicate :=
  .record fields {} fun draft => draft.reg.map fun reg => ⟨reg, draft.isNegated⟩

/-- An instruction whose descriptor may still be missing. -/
structure Instruction.Draft where
  descriptor : Option Descriptor := none
  operands : List Operand := []
  predicate : Option Predicate := none

/-- The fields of an instruction. -/
def Instruction.fields : List (Json.Decoder.Field Instruction.Draft) :=
  [.of "desc" Descriptor.decoder fun descriptor draft =>
      { draft with descriptor := some descriptor },
    .of "operands" (.list Operand.decoder) fun operands draft => { draft with operands },
    .of "predicate" (.optional Predicate.decoder) fun predicate draft => { draft with predicate }]

/-- An instruction. -/
def Instruction.decoder : Decoder Instruction :=
  .record fields {} fun draft => draft.descriptor.map fun descriptor =>
    ⟨descriptor, draft.operands, draft.predicate⟩

/-! ### Writing -/

/-- The JSON form of a register. -/
def Register.toJson (reg : Register) : Value := .ofString reg.text

/-- The JSON form of an operand. -/
def Operand.toJson : Operand → Value
  | register reg isDef isImplicit =>
      .record [("register", .record
        [("reg", reg.toJson), ("def", .boolean isDef), ("implicit", .boolean isImplicit)])]
  | immediate value => .record [("immediate", .ofInt value.toInt)]
  | basicBlock label => .record [("basic_block", .ofString label)]
  | globalAddress symbol => .record [("global_address", .ofString symbol)]
  | externalSymbol symbol => .record [("external_symbol", .ofString symbol)]
  | jumpTableIndex index => .record [("jump_table_index", .ofNat index.toNat)]

/-- The JSON form of a descriptor. -/
def Descriptor.toJson (descriptor : Descriptor) : Value :=
  .record
    [("name", .ofString descriptor.name),
      ("unit", .ofString descriptor.unit.text),
      ("unit_fixed", .boolean descriptor.isUnitFixed),
      ("side", .ofString descriptor.side.text),
      ("side_inst", .boolean descriptor.isSideSelectable),
      ("mem_access", .boolean descriptor.isMemoryAccess),
      ("store", .boolean descriptor.isStore),
      ("call", .boolean descriptor.isCall),
      ("predicable", .boolean descriptor.isPredicable),
      ("is_move", .boolean descriptor.isMove),
      ("pseudo", .boolean descriptor.isPseudo)]

/-- The JSON form of a predicate. -/
def Predicate.toJson (predicate : Predicate) : Value :=
  .record [("reg", predicate.reg.toJson), ("negated", .boolean predicate.isNegated)]

/-- The JSON form of an instruction. -/
def Instruction.toJson (instruction : Instruction) : Value :=
  .record
    [("desc", instruction.descriptor.toJson),
      ("operands", .list (instruction.operands.map Operand.toJson)),
      ("predicate", (instruction.predicate.map Predicate.toJson).getD .null)]

end VliwPack
