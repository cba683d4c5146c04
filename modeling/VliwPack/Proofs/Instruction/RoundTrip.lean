import VliwPack.Instruction.Json
import VliwPack.Proofs.Json.Writing
import VliwPack.Proofs.RegisterNames

/-! # Writing instructions and reading them back

An instruction that is written as JSON text is read back, whether fields that hold their default
are written or left out (`Instruction.decodeString_toJson`).
-/

namespace VliwPack

open Json (Value Text Entry IsText IsList IsRecord Decoder decodeString exists_isText)
open Json.Decoder (Separable record_of_isRecord string_of_isText tagged_single int64_ofInt
  natBelow_ofNat list_of_isList)
open Json.Value (printable_null printable_boolean printable_ofString printable_ofInt
  printable_ofNat printable_list printable_record)

/-! ### The fields can be read in any order -/

/-- What describes a register operand is read in any order. -/
theorem Operand.separable_registerFields : Separable Operand.registerFields :=
  ⟨by decide, by simp [registerFields]⟩

/-- The fields of a descriptor are read in any order. -/
theorem Descriptor.separable_fields : Separable Descriptor.fields :=
  ⟨by decide, by simp [fields]⟩

/-- The fields of a predicate are read in any order. -/
theorem Predicate.separable_fields : Separable Predicate.fields :=
  ⟨by decide, by simp [fields]⟩

/-- The fields of an instruction are read in any order. -/
theorem Instruction.separable_fields : Separable Instruction.fields :=
  ⟨by decide, by simp [fields]⟩

/-! ### The JSON forms of the parts of an instruction -/

/-- The fields of a descriptor; each has a default. -/
def Descriptor.entries (descriptor : Descriptor) : List Entry :=
  [⟨"name", IsText descriptor.name, descriptor.name = ""⟩,
    ⟨"unit", IsText descriptor.unit.text, descriptor.unit = .l⟩,
    .flag "unit_fixed" descriptor.isUnitFixed,
    ⟨"side", IsText descriptor.side.text, descriptor.side = .a⟩,
    .flag "side_inst" descriptor.isSideSelectable,
    .flag "mem_access" descriptor.isMemoryAccess,
    .flag "store" descriptor.isStore,
    .flag "call" descriptor.isCall,
    .flag "predicable" descriptor.isPredicable,
    .flag "is_move" descriptor.isMove,
    .flag "pseudo" descriptor.isPseudo]

/-- The fields of a predicate. -/
def Predicate.entries (predicate : Predicate) : List Entry :=
  [⟨"reg", IsText predicate.reg.text, False⟩, .flag "negated" predicate.isNegated]

/-- An operand is a record with one field, which tells its kind. -/
def Operand.entry : Operand → Entry
  | register reg isDef isImplicit =>
      ⟨"register", IsRecord [⟨"reg", IsText reg.text, False⟩, .flag "def" isDef,
        .flag "implicit" isImplicit], False⟩
  | immediate value => ⟨"immediate", (· = .ofInt value.toInt), False⟩
  | basicBlock label => ⟨"basic_block", IsText label, False⟩
  | globalAddress symbol => ⟨"global_address", IsText symbol, False⟩
  | externalSymbol symbol => ⟨"external_symbol", IsText symbol, False⟩
  | jumpTableIndex index => ⟨"jump_table_index", (· = .ofNat index.toNat), False⟩

/-- The value is the predicate, or `null` where there is none. -/
def Predicate.IsOptional : Option Predicate → Value → Prop
  | none, value => value = .null
  | some predicate, value => IsRecord predicate.entries value

/-- The fields of an instruction. Without operands and without a predicate these fields may be
left out. -/
def Instruction.entries (instruction : Instruction) : List Entry :=
  [⟨"desc", IsRecord instruction.descriptor.entries, False⟩,
    ⟨"operands", IsList (fun operand => IsRecord [operand.entry]) instruction.operands,
      instruction.operands = []⟩,
    ⟨"predicate", Predicate.IsOptional instruction.predicate, instruction.predicate = none⟩]

/-! ### The forms that are written -/

private theorem Descriptor.isRecord_toJson (descriptor : Descriptor) :
    IsRecord descriptor.entries descriptor.toJson := by
  apply Json.isRecord_record
  simp [entries, List.forall₂_cons, Json.Entry.flag, Json.isText_ofString]

private theorem Predicate.isRecord_toJson (predicate : Predicate) :
    IsRecord predicate.entries predicate.toJson := by
  apply Json.isRecord_record
  simp [entries, List.forall₂_cons, Json.Entry.flag, Register.toJson, Json.isText_ofString]

private theorem Operand.isRecord_toJson (operand : Operand) :
    IsRecord [operand.entry] operand.toJson := by
  cases operand with
  | register reg isDef isImplicit =>
      apply Json.isRecord_record
      refine .cons ⟨rfl, ?_⟩ .nil
      apply Json.isRecord_record
      simp [List.forall₂_cons, Json.Entry.flag, Register.toJson, Json.isText_ofString]
  | _ =>
      apply Json.isRecord_record
      simp [entry, Json.isText_ofString]

private theorem Predicate.isOptional_toJson (predicate : Option Predicate) :
    IsOptional predicate ((predicate.map toJson).getD .null) := by
  cases predicate with
  | none => rfl
  | some predicate => exact predicate.isRecord_toJson

/-- The JSON form of an instruction gives its entries. -/
theorem Instruction.isRecord_toJson (instruction : Instruction) :
    IsRecord instruction.entries instruction.toJson :=
  Json.isRecord_record <| .cons ⟨rfl, instruction.descriptor.isRecord_toJson⟩ <|
    .cons ⟨rfl, Json.isList_list Operand.isRecord_toJson instruction.operands⟩ <|
    .cons ⟨rfl, Predicate.isOptional_toJson instruction.predicate⟩ .nil

/-! ### Forms are read back -/

private theorem Side.decoder_of_isText {side : Side} {value : Value}
    (form : IsText side.text value) :
    decoder value = .ok side := by
  obtain ⟨text, named, rfl⟩ := form
  have name := (Json.Decoder.textString_eq_ok_iff text side.text).mpr named
  change Json.Decoder.named.find _ text = _
  rw [Json.Decoder.named.find, name]
  cases side <;> rfl

private theorem UnitKind.decoder_of_isText {kind : UnitKind} {value : Value}
    (form : IsText kind.text value) : decoder value = .ok kind := by
  obtain ⟨text, named, rfl⟩ := form
  have name := (Json.Decoder.textString_eq_ok_iff text kind.text).mpr named
  change Json.Decoder.named.find _ text = _
  rw [Json.Decoder.named.find, name]
  cases kind <;> rfl

private theorem Register.decoder_of_isText {reg : Register} {value : Value}
    (form : IsText reg.text value) :
    decoder value = .ok reg := by
  unfold decoder
  rw [string_of_isText form]
  simp [bind, Except.bind, reg.ofName_text]

/-- A descriptor is read from every object that gives its entries. -/
theorem Descriptor.decoder_of_isRecord {descriptor : Descriptor} {value : Value}
    (written : IsRecord descriptor.entries value) : decoder value = .ok descriptor := by
  unfold decoder Decoder.overlay
  refine record_of_isRecord separable_fields
    (.of descriptor.name (exists_isText _) (fun _ => string_of_isText) (fun same => ?_) <|
      .of descriptor.unit (exists_isText _) (fun _ => UnitKind.decoder_of_isText)
        (fun same => ?_) <|
      .flag descriptor.isUnitFixed rfl <|
      .of descriptor.side (exists_isText _) (fun _ => Side.decoder_of_isText) (fun same => ?_) <|
      .flag descriptor.isSideSelectable rfl <| .flag descriptor.isMemoryAccess rfl <|
      .flag descriptor.isStore rfl <| .flag descriptor.isCall rfl <|
      .flag descriptor.isPredicable rfl <| .flag descriptor.isMove rfl <|
      .flag descriptor.isPseudo rfl .nil) (by rfl) written
  all_goals rw [same]

/-- A predicate is read from every object that gives its entries. -/
theorem Predicate.decoder_of_isRecord {predicate : Predicate} {value : Value}
    (written : IsRecord predicate.entries value) : decoder value = .ok predicate := by
  unfold decoder
  exact record_of_isRecord separable_fields
    (.of predicate.reg (exists_isText _) (fun _ => Register.decoder_of_isText) False.elim <|
      .flag predicate.isNegated rfl .nil) (by rfl) written

private theorem Operand.registerDecoder_of_isRecord {reg : Register} {isDef isImplicit : Bool}
    {value : Value} (written : IsRecord [⟨"reg", IsText reg.text, False⟩, .flag "def" isDef,
      .flag "implicit" isImplicit] value) :
    registerDecoder value = .ok (.register reg isDef isImplicit) := by
  unfold registerDecoder
  exact record_of_isRecord separable_registerFields
    (.of reg (exists_isText _) (fun _ => Register.decoder_of_isText) False.elim <|
      .flag isDef rfl <| .flag isImplicit rfl .nil) (by rfl) written

/-- An operand is read from every object that gives its entry. -/
theorem Operand.decoder_of_isRecord {operand : Operand} {value : Value}
    (written : IsRecord [operand.entry] value) : decoder value = .ok operand := by
  cases operand with
  | register reg isDef isImplicit =>
      obtain ⟨text, inner, named, form, rfl⟩ := Json.IsRecord.single written
      exact (tagged_single named rfl inner).trans (registerDecoder_of_isRecord form)
  | immediate n =>
      obtain ⟨text, inner, named, rfl, rfl⟩ := Json.IsRecord.single written
      exact (tagged_single named rfl _).trans (congrArg (immediate <$> ·) (int64_ofInt n))
  | basicBlock name | globalAddress name | externalSymbol name =>
      obtain ⟨text, inner, named, form, rfl⟩ := Json.IsRecord.single written
      refine (tagged_single named rfl inner).trans ?_
      rw [string_of_isText form]
      rfl
  | jumpTableIndex index =>
      obtain ⟨text, inner, named, rfl, rfl⟩ := Json.IsRecord.single written
      refine (tagged_single named rfl _).trans ?_
      rw [natBelow_ofNat index.toNat_lt_size]
      exact congrArg (Except.ok ∘ jumpTableIndex) UInt32.ofNat_toNat

private theorem Predicate.optional_of_isOptional {predicate : Option Predicate} {value : Value}
    (form : IsOptional predicate value) : Decoder.optional decoder value = .ok predicate := by
  cases predicate with
  | none =>
      cases form
      rfl
  | some predicate =>
      have read := decoder_of_isRecord form
      obtain ⟨members, -, rfl⟩ := form
      exact congrArg (some <$> ·) read

/-- An instruction is read from every object that gives its entries. -/
theorem Instruction.decoder_of_isRecord {instruction : Instruction} {value : Value}
    (written : IsRecord instruction.entries value) : decoder value = .ok instruction := by
  unfold decoder
  refine record_of_isRecord separable_fields
    (.of instruction.descriptor ⟨_, instruction.descriptor.isRecord_toJson⟩
        (fun _ => Descriptor.decoder_of_isRecord) False.elim <|
      .of instruction.operands ⟨_, Json.isList_list Operand.isRecord_toJson _⟩
        (fun _ => list_of_isList Operand.decoder fun _ _ => Operand.decoder_of_isRecord)
        (fun none => ?_) <|
      .of instruction.predicate ⟨_, Predicate.isOptional_toJson instruction.predicate⟩
        (fun _ => Predicate.optional_of_isOptional) (fun none => ?_) .nil) (by rfl) written
  · rw [none]
  · rw [none]

/-! ### The text of an instruction -/

private theorem Register.printable_toJson (reg : Register) : reg.toJson.Printable :=
  printable_ofString reg.text

/-- The JSON form of a descriptor has a text. -/
theorem Descriptor.printable_toJson (descriptor : Descriptor) : descriptor.toJson.Printable := by
  apply printable_record
  simp [printable_ofString, printable_boolean]

private theorem Operand.printable_toJson (operand : Operand) : operand.toJson.Printable := by
  cases operand with
  | register reg isDef isImplicit =>
      have inner : (Value.record [("reg", reg.toJson), ("def", .boolean isDef),
          ("implicit", .boolean isImplicit)]).Printable := by
        apply printable_record
        simp [reg.printable_toJson, printable_boolean]
      exact printable_record (by simpa using inner)
  | _ =>
      apply printable_record
      simp [printable_ofString, printable_ofInt, printable_ofNat]

private theorem Predicate.printable_toJson (predicate : Predicate) :
    predicate.toJson.Printable := by
  apply printable_record
  simp [predicate.reg.printable_toJson, printable_boolean]

/-- The JSON form of an instruction has a text. -/
theorem Instruction.printable_toJson (instruction : Instruction) :
    instruction.toJson.Printable := by
  have operands : (Value.list (instruction.operands.map Operand.toJson)).Printable := by
    apply printable_list
    simpa using fun operand _ => operand.printable_toJson
  have predicate : ((instruction.predicate.map Predicate.toJson).getD .null).Printable := by
    cases instruction.predicate with
    | none => exact printable_null
    | some predicate => exact predicate.printable_toJson
  apply printable_record
  simp [instruction.descriptor.printable_toJson, operands, predicate]

/-- An instruction is read back from every JSON text of it in which fields that hold their default
are written or left out. -/
theorem Instruction.decodeString_of_isRecord {instruction : Instruction} {value : Value}
    (written : IsRecord instruction.entries value) {text : String}
    (spelled : value.SpelledBy text) : decodeString decoder text = .ok instruction :=
  (spelled.decodeString_eq_ok_iff decoder instruction).mpr (decoder_of_isRecord written)

/-- An instruction is read back from its own JSON text, and from every JSON text of it in which
fields that hold their default are left out. -/
theorem Instruction.decodeString_toJson (instruction : Instruction) :
    decodeString decoder instruction.toJson.toText = .ok instruction ∧
      ∀ value : Value, IsRecord instruction.entries value → ∀ text, value.SpelledBy text →
        decodeString decoder text = .ok instruction :=
  ⟨decodeString_of_isRecord instruction.isRecord_toJson
    instruction.printable_toJson.spelledBy_toText,
    fun _ written _ spelled => decodeString_of_isRecord written spelled⟩

/-- With all its fields or with its name alone, the instruction is read. -/
theorem Instruction.decodeString_toJson_nop :
    let instruction : Instruction := ⟨{ name := "nop" }, [], none⟩
    let short : Value := .record [("desc", .record [("name", .ofString "nop")])]
    decodeString decoder instruction.toJson.toText = .ok instruction ∧
      decodeString decoder short.toText = .ok instruction := by
  intro instruction short
  have descriptor : IsRecord instruction.descriptor.entries
      (.record [("name", .ofString "nop")]) := by
    refine ⟨_, .given (Text.string?_ofString "name") (Json.isText_ofString "nop") ?_, rfl⟩
    repeat' first | exact .nil | refine .missing rfl ?_
  have written : IsRecord instruction.entries short :=
    ⟨_, .given (Text.string?_ofString "desc") descriptor (.missing rfl (.missing rfl .nil)), rfl⟩
  have printable : short.Printable :=
    printable_record (by simpa using printable_record (by simpa using printable_ofString "nop"))
  exact ⟨(decodeString_toJson instruction).1,
    (decodeString_toJson instruction).2 short written _ printable.spelledBy_toText⟩

end VliwPack
