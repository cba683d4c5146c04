import Mathlib.Data.List.Basic
import Mathlib.Data.List.TakeWhile
import VliwPack.Proofs.Assembly.Parts
import VliwPack.Proofs.RegisterNames

/-! # Addresses

An address is written as its base register, an offset in parentheses after it, and before it
the sign of an offset that is a constant; the constant zero is left out. Constants, registers
and entries of a jump table are told apart by the sign and by the letter of a register, so the
address can be read back from its text (`Address.read?_characters`). A load or store writes
its address and one register more, and as neither has a comma in it, both can be told from the
operand field (`Access.eq_of_operandField`). So what is written determines base, offset and
register (`Instruction.addresses_determined`).
-/

namespace VliwPack

/-- A register that has been allocated. -/
structure PhysicalRegister where
  side : Side
  number : Fin Machine.registersPerSide
  deriving DecidableEq

/-- What an offset adds to a base. -/
inductive Offset where
  | constant (value : Int64)
  | register (reg : PhysicalRegister)
  | tableEntry (index : UInt32)
  deriving DecidableEq

/-- What a load or store adds up to find its place in memory. -/
structure Address where
  base : PhysicalRegister
  offset : Offset
  deriving DecidableEq

/-- What a load or store says about its place in memory and the register it fills or reads. -/
structure Access where
  isStore : Bool
  address : Address
  data : PhysicalRegister
  deriving DecidableEq

/-- The register, if it has been allocated. -/
def Register.physical? : Register → Option PhysicalRegister
  | .physical side number => some ⟨side, number⟩
  | .virtual _ => none

namespace Operand

/-- The allocated register of a register operand. -/
def physical? (operand : Operand) : Option PhysicalRegister :=
  operand.register?.bind Register.physical?

/-- What the operand adds to a base as its offset. -/
def offset? : Operand → Option Offset
  | .immediate value => some (.constant value)
  | .jumpTableIndex index => some (.tableEntry index)
  | operand => operand.physical?.map .register

/-- The address that two operands make. -/
def address? (base offset : Operand) : Option Address := do
  return ⟨← base.physical?, ← offset.offset?⟩

private theorem address?_eq_some_iff {base offset : Operand} {address : Address} :
    address? base offset = some address ↔
      base.physical? = some address.base ∧ offset.offset? = some address.offset := by
  cases address
  simp [address?, Option.bind_eq_some_iff]

end Operand

/-- The access that three operands make. -/
def Access.ofOperands? (isStore : Bool) (base offset data : Operand) : Option Access := do
  return ⟨isStore, ← Operand.address? base offset, ← data.physical?⟩

private theorem Access.ofOperands?_eq_some_iff {isStore : Bool} {base offset data : Operand}
    {access : Access} :
    Access.ofOperands? isStore base offset data = some access ↔
      isStore = access.isStore ∧ Operand.address? base offset = some access.address ∧
        data.physical? = some access.data := by
  cases access
  simp [Access.ofOperands?, Option.bind_eq_some_iff, and_left_comm]

/-- The access of a load or store, if its registers are allocated and its offset is no label. -/
def Instruction.access? (instruction : Instruction) : Option Access :=
  if instruction.descriptor.isMemoryAccess then
    if instruction.descriptor.isStore then
      match instruction.encodedOperands with
      | base :: offset :: data :: _ => Access.ofOperands? true base offset data
      | _ => none
    else
      match instruction.encodedOperands with
      | data :: base :: offset :: _ => Access.ofOperands? false base offset data
      | _ => none
  else none

/-! ### Allocated registers -/

namespace PhysicalRegister

variable {reg : PhysicalRegister} {c : Char}

/-- The characters of the register's name. -/
def name (reg : PhysicalRegister) : List Char := (Register.physical reg.side reg.number).name

/-- The allocated register with a given name. -/
def read? (text : List Char) : Option PhysicalRegister :=
  (Register.read? text).bind Register.physical?

/-- A register is read back from its name. -/
theorem read?_name (reg : PhysicalRegister) : read? reg.name = some reg := by
  rw [read?, name, Register.read?_name]
  rfl

/-- Registers with one name are one register. -/
theorem name_injective : Function.Injective name := by
  intro first second same
  have read := congrArg read? same
  rw [read?_name, read?_name] at read
  exact Option.some.inj read

/-- A numeral is no name of a register. -/
theorem read?_digits (n : Nat) : read? (Numeral.digits n) = none := by
  rw [read?, Register.read?_digits]
  rfl

private theorem isAlphanum_of_mem_name (member : c ∈ reg.name) : c.isAlphanum = true := by
  rcases List.mem_cons.mp member with rfl | digit
  · cases reg.side <;> rfl
  · exact Numeral.isAlphanum_of_mem_digits digit

private theorem not_mem_name (sign : c.isAlphanum = false) : c ∉ reg.name := by
  intro member
  cases sign.symm.trans (isAlphanum_of_mem_name member)

end PhysicalRegister

/-! ### The text of an address -/

namespace Offset

/-- What stands before the base: the sign of a constant that is not zero. -/
def sign : Offset → List Char
  | constant value => if value = 0 then [] else if value.toInt < 0 then ['-'] else ['+']
  | register _ | tableEntry _ => []

/-- What stands in the parentheses, if there are any. -/
def inside : Offset → List Char
  | constant value => if value = 0 then [] else Numeral.digits value.toInt.natAbs
  | register reg => reg.name
  | tableEntry index => Numeral.digits index.toNat

end Offset

namespace Address

/-- The text in parentheses, and nothing for no text. -/
def parenthesized : List Char → List Char
  | [] => []
  | inside => '(' :: inside ++ [')']

/-- The characters of the address. -/
def characters (address : Address) : List Char :=
  '*' :: address.offset.sign ++ address.base.name ++ parenthesized address.offset.inside

/-- What stands before the parentheses and what in them. -/
def pieces (text : List Char) : List Char × List Char :=
  (text.takeWhile (· ≠ '('), ((text.dropWhile (· ≠ '(')).drop 1).dropLast)

/-- The address that the characters spell. -/
def read? : List Char → Option Address
  | '*' :: '+' :: text => signed 1 (pieces text)
  | '*' :: '-' :: text => signed (-1) (pieces text)
  | '*' :: text => unsigned (pieces text)
  | _ => none
where
  /-- The address with a constant offset of this sign. -/
  signed (sign : Int) : List Char × List Char → Option Address := fun (base, inside) => do
    let base ← PhysicalRegister.read? base
    let magnitude ← Numeral.read? inside
    return ⟨base, .constant (Int64.ofInt (sign * magnitude))⟩
  /-- The address without a sign. -/
  unsigned : List Char × List Char → Option Address := fun (base, inside) => do
    let base ← PhysicalRegister.read? base
    if inside = [] then
      return ⟨base, .constant 0⟩
    else
      match PhysicalRegister.read? inside with
      | some reg => return ⟨base, .register reg⟩
      | none => do
          let index ← Numeral.read? inside
          return ⟨base, .tableEntry (UInt32.ofNat index)⟩

private theorem pieces_append {before : List Char} (inside : List Char) (plain : '(' ∉ before) :
    pieces (before ++ parenthesized inside) = (before, inside) := by
  have unopened : ∀ c ∈ before, decide (c ≠ '(') = true := by
    intro c member
    rw [decide_eq_true_eq]
    rintro rfl
    exact plain member
  rw [pieces, List.takeWhile_append_of_pos unopened, List.dropWhile_append_of_pos unopened]
  cases inside with
  | nil => simp [parenthesized]
  | cons c rest =>
      change (before ++ [], (c :: rest ++ [')']).dropLast) = _
      rw [List.append_nil, List.dropLast_concat]

private theorem parenthesized_of_ne_nil {inside : List Char} (nonempty : inside ≠ []) :
    parenthesized inside = '(' :: inside ++ [')'] := by
  cases inside with
  | nil => exact absurd rfl nonempty
  | cons c rest => rfl

private theorem pieces_name (base : PhysicalRegister) (inside : List Char) :
    pieces (base.name ++ parenthesized inside) = (base.name, inside) :=
  pieces_append inside (PhysicalRegister.not_mem_name rfl)

private theorem read?_signed (base : PhysicalRegister) {value : Int64} {sign : Int}
    (same : sign * value.toInt.natAbs = value.toInt) :
    read?.signed sign (base.name, Numeral.digits value.toInt.natAbs) =
      some ⟨base, .constant value⟩ := by
  rw [read?.signed, PhysicalRegister.read?_name, Numeral.read?_digits]
  simp only [Option.pure_def, Option.bind_eq_bind, Option.bind_some, same, Int64.ofInt_toInt]

/-- The letter of the base is no sign. -/
theorem read?_unsigned (base : PhysicalRegister) (inside : List Char) :
    read? ('*' :: (base.name ++ parenthesized inside)) = read?.unsigned (base.name, inside) := by
  have unsigned (after : List Char) :
      read? ('*' :: (base.name ++ after)) = read?.unsigned (pieces (base.name ++ after)) := by
    obtain ⟨side, number⟩ := base
    cases side <;> rfl
  rw [unsigned, pieces_name]

/-- A register with a constant offset is read back from its characters. -/
theorem read?_constant (base : PhysicalRegister) (value : Int64) :
    read? (characters ⟨base, .constant value⟩) = some ⟨base, .constant value⟩ := by
  by_cases zero : value = 0
  · subst zero
    refine (read?_unsigned base []).trans ?_
    rw [read?.unsigned, PhysicalRegister.read?_name]
    rfl
  · have magnitude : Offset.inside (.constant value) = Numeral.digits value.toInt.natAbs :=
      if_neg zero
    by_cases negative : value.toInt < 0
    · have sign : Offset.sign (.constant value) = ['-'] := by
        rw [Offset.sign, if_neg zero, if_pos negative]
      rw [characters, sign, magnitude]
      change read?.signed (-1) (pieces (base.name ++ parenthesized _)) = _
      rw [pieces_name, read?_signed base (by omega)]
    · have sign : Offset.sign (.constant value) = ['+'] := by
        rw [Offset.sign, if_neg zero, if_neg negative]
      rw [characters, sign, magnitude]
      change read?.signed 1 (pieces (base.name ++ parenthesized _)) = _
      rw [pieces_name, read?_signed base (by omega)]

/-- An address is read back from its text. -/
theorem read?_characters (address : Address) : read? address.characters = some address := by
  obtain ⟨base, offset⟩ := address
  cases offset with
  | constant value => exact read?_constant base value
  | register reg =>
      have nonempty : reg.name ≠ [] := List.cons_ne_nil _ _
      refine (read?_unsigned base reg.name).trans ?_
      rw [read?.unsigned, PhysicalRegister.read?_name]
      simp [nonempty, PhysicalRegister.read?_name]
  | tableEntry index =>
      have nonempty := (Numeral.spells_digits index.toNat).nonempty
      refine (read?_unsigned base (Numeral.digits index.toNat)).trans ?_
      rw [read?.unsigned, PhysicalRegister.read?_name]
      simp [nonempty, PhysicalRegister.read?_digits, Numeral.read?_digits]

private theorem characters_injective : Function.Injective characters := by
  intro first second same
  have read := congrArg read? same
  rw [read?_characters, read?_characters] at read
  exact Option.some.inj read

/-- The text of the address. -/
def text (address : Address) : String := String.ofList address.characters

/-- Addresses with one text are one address. -/
theorem text_injective : Function.Injective text :=
  fun _ _ same => characters_injective (String.ofList_injective same)

end Address

/-! ### The address of a load or store -/

namespace PhysicalRegister

/-- The register is written as its name. -/
def text (reg : PhysicalRegister) : String := String.ofList reg.name

end PhysicalRegister

namespace Instruction

variable {instruction first second : Instruction} {operand base offset : Operand}
  {reg : PhysicalRegister} {address : Address} {access : Access}

private theorem operandText_of_physical? (named : operand.physical? = some reg) :
    instruction.operandText operand = .ok reg.text := by
  cases operand with
  | register register isDef isImplicit =>
      cases register with
      | physical side number =>
          cases named
          rfl
      | «virtual» number => cases named
  | _ => cases named

private theorem parenthesized_ofList {inside : List Char} (nonempty : inside ≠ []) :
    "(" ++ String.ofList inside ++ ")" = String.ofList (Address.parenthesized inside) := by
  rw [Address.parenthesized_of_ne_nil nonempty]
  simp [← String.toList_inj]

private theorem parenthesized_numeral (n : Nat) :
    "(" ++ toString n ++ ")" = String.ofList (Address.parenthesized (Numeral.digits n)) := by
  rw [← Numeral.ofList_digits, parenthesized_ofList (Numeral.spells_digits n).nonempty]

/-- An offset is written as its sign and, in parentheses, what follows it. -/
private theorem offsetText_of_offset? {placed : Offset} (named : offset.offset? = some placed) :
    instruction.offsetText offset =
      .ok (String.ofList placed.sign, String.ofList (Address.parenthesized placed.inside)) := by
  cases offset with
  | immediate value =>
      cases named
      have zero_iff : value.toInt = 0 ↔ value = 0 := by
        rw [← Int64.toInt_inj, Int64.toInt_zero]
      simp only [offsetText, Offset.sign, Offset.inside, zero_iff]
      split
      · rfl
      · rw [parenthesized_numeral]
        split <;> rfl
  | register register isDef isImplicit =>
      cases register with
      | physical side number =>
          cases named
          have nonempty : (Register.physical side number).name ≠ [] := List.cons_ne_nil _ _
          change Except.ok ("", "(" ++ String.ofList _ ++ ")") = _
          rw [parenthesized_ofList nonempty]
          rfl
      | «virtual» number => cases named
  | jumpTableIndex index =>
      cases named
      change Except.ok ("", "(" ++ toString index.toNat ++ ")") = _
      rw [parenthesized_numeral]
      rfl
  | _ => cases named

/-- The text of an address with an allocated base, and a constant, an allocated register or an
entry of a jump table as its offset. -/
theorem addressText_eq (addressed : Operand.address? base offset = some address) :
    instruction.addressText base offset = .ok address.text := by
  obtain ⟨based, placed⟩ := Operand.address?_eq_some_iff.mp addressed
  rw [addressText, operandText_of_physical? based, offsetText_of_offset? placed]
  change Except.ok ("*" ++ _ ++ _ ++ _) = _
  rw [Address.text, Address.characters, PhysicalRegister.text]
  simp [← String.toList_inj]

end Instruction

/-! ### The operands of a load or store -/

namespace Offset

variable {offset : Offset} {c : Char}

/-- A sign is a minus or a plus. -/
private theorem eq_of_mem_sign (member : c ∈ offset.sign) : c = '-' ∨ c = '+' := by
  unfold sign at member
  split at member
  · split at member
    · cases member
    · split at member
      · exact .inl (List.mem_singleton.mp member)
      · exact .inr (List.mem_singleton.mp member)
  · cases member
  · cases member

private theorem isAlphanum_of_mem_inside (member : c ∈ offset.inside) : c.isAlphanum = true := by
  unfold inside at member
  split at member
  · split at member
    · cases member
    · exact Numeral.isAlphanum_of_mem_digits member
  · exact PhysicalRegister.isAlphanum_of_mem_name member
  · exact Numeral.isAlphanum_of_mem_digits member

end Offset

namespace Address

private theorem mem_parenthesized {inside : List Char} {c : Char}
    (member : c ∈ parenthesized inside) :
    c = '(' ∨ c ∈ inside ∨ c = ')' := by
  cases inside with
  | nil => cases member
  | cons first rest => simpa [parenthesized, or_assoc] using member

/-- The operands are told apart by the comma between them. -/
theorem comma_not_mem_characters (address : Address) : ',' ∉ address.characters := by
  intro member
  simp only [characters, List.cons_append, List.mem_cons, List.mem_append] at member
  rcases member with star | (before | base) | after
  · cases star
  · rcases Offset.eq_of_mem_sign before with minus | plus
    · cases minus
    · cases plus
  · cases PhysicalRegister.isAlphanum_of_mem_name base
  · rcases mem_parenthesized after with opened | inside | closed
    · cases opened
    · cases Offset.isAlphanum_of_mem_inside inside
    · cases closed

/-- No register's name starts like an address. -/
theorem characters_ne_name (address : Address) (reg : PhysicalRegister) :
    address.characters ≠ reg.name := by
  intro same
  have starred : '*' ∈ reg.name := same ▸ List.mem_cons_self
  cases PhysicalRegister.isAlphanum_of_mem_name starred

end Address

namespace Access

variable {first second access : Access}

/-- What is written first: the place or the register that is read. -/
def source (access : Access) : List Char :=
  if access.isStore then access.data.name else access.address.characters

/-- What is written second: the register or the place that is filled. -/
def target (access : Access) : List Char :=
  if access.isStore then access.address.characters else access.data.name

/-- The texts of the operands. -/
def texts (access : Access) : List String :=
  [String.ofList access.source, String.ofList access.target]

/-- There is no comma in an operand. -/
theorem comma_not_mem (access : Access) : ',' ∉ access.source ∧ ',' ∉ access.target := by
  have address := access.address.comma_not_mem_characters
  have data : ',' ∉ access.data.name := PhysicalRegister.not_mem_name rfl
  unfold source target
  split
  · exact ⟨data, address⟩
  · exact ⟨address, data⟩

private theorem operandField_texts (access : Access) :
    Instruction.operandField access.texts =
      String.ofList ('\t' :: (access.source ++ ',' :: (' ' :: access.target))) := by
  simp [Instruction.operandField, texts, ← String.toList_inj]

/-- What is written first and second determines the access. -/
theorem eq_of_source_eq_of_target_eq (sources : first.source = second.source)
    (targets : first.target = second.target) : first = second := by
  obtain ⟨firstStores, firstAddress, firstData⟩ := first
  obtain ⟨secondStores, secondAddress, secondData⟩ := second
  cases firstStores <;> cases secondStores
  case false.false =>
    cases Address.characters_injective sources
    cases PhysicalRegister.name_injective targets
    rfl
  case false.true => exact absurd sources (Address.characters_ne_name _ _)
  case true.false => exact absurd targets (Address.characters_ne_name _ _)
  case true.true =>
    cases Address.characters_injective targets
    cases PhysicalRegister.name_injective sources
    rfl

/-- The operand field of a load or store determines its access. -/
theorem eq_of_operandField
    (same : Instruction.operandField first.texts = Instruction.operandField second.texts) :
    first = second := by
  rw [operandField_texts, operandField_texts] at same
  have fields := (List.cons.inj (String.ofList_injective same)).2
  have plain : ',' ∉ ' ' :: first.target := by simpa using first.comma_not_mem.2
  obtain ⟨sources, -, separated⟩ :=
    (List.append_cons_inj_of_notMem first.comma_not_mem.1 plain).mp fields
  exact eq_of_source_eq_of_target_eq sources (List.cons.inj separated).2

end Access

namespace Instruction

variable {instruction first second : Instruction} {base : Operand} {reg : PhysicalRegister}
  {value : Int64} {access : Access}

/-- A load or store with an access writes the operands of that access. -/
theorem operandTexts_of_access? (accesses : instruction.access? = some access) :
    instruction.operandTexts = .ok access.texts := by
  unfold access? at accesses
  split at accesses
  case isTrue isAccess =>
    split at accesses
    case isTrue stores =>
      split at accesses
      case h_1 base offset data rest encoded =>
        obtain ⟨storing, addressed, named⟩ := Access.ofOperands?_eq_some_iff.mp accesses
        rw [operandTexts, if_pos isAccess, memoryOperandTexts, if_pos stores, encoded,
          Access.texts, Access.source, Access.target, ← storing]
        simp only [operandText_of_physical? named, addressText_eq addressed]
        rfl
      case h_2 => cases accesses
    case isFalse loads =>
      split at accesses
      case h_1 data base offset rest encoded =>
        obtain ⟨loading, addressed, named⟩ := Access.ofOperands?_eq_some_iff.mp accesses
        rw [operandTexts, if_pos isAccess, memoryOperandTexts, if_neg loads, encoded,
          Access.texts, Access.source, Access.target, ← loading]
        simp only [operandText_of_physical? named, addressText_eq addressed]
        rfl
      case h_2 => cases accesses
  case isFalse => cases accesses

/-- Only the constant zero is left out. -/
theorem addressText_eq_base_iff (based : base.physical? = some reg) :
    instruction.addressText base (.immediate value) = .ok ("*" ++ reg.text) ↔ value = 0 := by
  have addressed : Operand.address? base (.immediate value) = some ⟨reg, .constant value⟩ :=
    Operand.address?_eq_some_iff.mpr ⟨based, rfl⟩
  have bare : "*" ++ reg.text = Address.text ⟨reg, .constant 0⟩ := by
    simp [Address.text, Address.characters, Offset.sign, Offset.inside, Address.parenthesized,
      PhysicalRegister.text]
  rw [addressText_eq addressed, bare, Except.ok.injEq, Address.text_injective.eq_iff]
  simp

/-- Any other constant is written as its sign and its magnitude. -/
theorem addressText_of_ne_zero (based : base.physical? = some reg) (nonzero : value ≠ 0) :
    instruction.addressText base (.immediate value) =
      .ok ("*" ++ (if value.toInt < 0 then "-" else "+") ++ reg.text ++
        ("(" ++ toString value.toInt.natAbs ++ ")")) := by
  have unequal : value.toInt ≠ 0 := by
    rwa [ne_eq, ← Int64.toInt_zero, Int64.toInt_inj]
  rw [addressText, operandText_of_physical? based, offsetText, if_neg unequal]
  rfl

/-- Loads and stores whose operand fields agree have the same access. -/
theorem operandField_eq_iff {firstAccess secondAccess : Access}
    (firstAccesses : first.access? = some firstAccess)
    (secondAccesses : second.access? = some secondAccess) :
    first.operandTexts.map operandField = second.operandTexts.map operandField ↔
      firstAccess = secondAccess := by
  rw [operandTexts_of_access? firstAccesses, operandTexts_of_access? secondAccesses]
  constructor
  · intro same
    exact Access.eq_of_operandField (Except.ok.inj same)
  · rintro rfl
    rfl

/-- The text of an address determines the base and the offset, and can be read back; the text
of a load's or store's operands determines them and the register besides. -/
theorem addresses_determined :
    (∀ (instruction : Instruction) (base offset : Operand) (address : Address),
      Operand.address? base offset = some address →
        ∃ text, instruction.addressText base offset = .ok text ∧
          Address.read? text.toList = some address) ∧
    (∀ (first second : Instruction) (base offset base' offset' : Operand)
        (address address' : Address),
      Operand.address? base offset = some address →
        Operand.address? base' offset' = some address' →
          (first.addressText base offset = second.addressText base' offset' ↔
            address = address')) ∧
    (∀ (instruction : Instruction) (base : Operand) (reg : PhysicalRegister) (value : Int64),
      base.physical? = some reg →
        (instruction.addressText base (.immediate value) = .ok ("*" ++ reg.text) ↔ value = 0) ∧
        (value ≠ 0 → instruction.addressText base (.immediate value) =
          .ok ("*" ++ (if value.toInt < 0 then "-" else "+") ++ reg.text ++
            ("(" ++ toString value.toInt.natAbs ++ ")")))) ∧
    ∀ (first second : Instruction) (access access' : Access),
      first.access? = some access → second.access? = some access' →
        (∃ texts, first.operandTexts = .ok texts) ∧
        (first.operandTexts.map operandField = second.operandTexts.map operandField ↔
          access = access') := by
  refine ⟨?_, ?_, ?_, ?_⟩
  · intro instruction base offset address addressed
    refine ⟨address.text, addressText_eq addressed, ?_⟩
    rw [Address.text, String.toList_ofList, Address.read?_characters]
  · intro first second base offset base' offset' address address' addressed addressed'
    rw [addressText_eq addressed, addressText_eq addressed', Except.ok.injEq,
      Address.text_injective.eq_iff]
  · intro instruction base reg value based
    exact ⟨addressText_eq_base_iff based, addressText_of_ne_zero based⟩
  · intro first second access access' accesses accesses'
    exact ⟨⟨_, operandTexts_of_access? accesses⟩, operandField_eq_iff accesses accesses'⟩

/-- A load of `B3` from `A4` and this offset. -/
def loadAt (offset : Operand) : Instruction :=
  { loadAcross with operands := loadAcross.operands.set 2 offset }

/-- The magnitude of the least constant is no 64-bit number. -/
theorem addresses_determined_loadAt :
    (∃ text, (loadAt (.jumpTableIndex 7)).addressText (.use (.physical .a 4))
        (.jumpTableIndex 7) = .ok text ∧
      Address.read? text.toList = some ⟨⟨.a, 4⟩, .tableEntry 7⟩) ∧
    (loadAt (.immediate 7)).addressText (.use (.physical .a 4)) (.immediate 7) ≠
      (loadAt (.jumpTableIndex 7)).addressText (.use (.physical .a 4)) (.jumpTableIndex 7) ∧
    (loadAt (.immediate Int64.minValue)).addressText (.use (.physical .a 4))
      (.immediate Int64.minValue) = .ok "*-A4(9223372036854775808)" ∧
    (loadAt (.immediate Int64.minValue)).operandTexts.map operandField ≠
      (loadAt (.use (.physical .b 3))).operandTexts.map operandField := by
  obtain ⟨readable, injective, immediates, fields⟩ := addresses_determined
  refine ⟨readable _ _ _ _ rfl, ?_, ?_, ?_⟩
  · rw [ne_eq, injective _ _ _ _ _ _ _ _ rfl rfl]
    decide
  · rw [(immediates _ _ _ _ rfl).2 (by decide)]
    decide
  · rw [ne_eq, (fields _ _ _ _ rfl rfl).2]
    decide

end Instruction

end VliwPack
