import VliwPack.Program
import VliwPack.Proofs.Instruction.RoundTrip

/-! # Writing programs and reading them back

Every program has a text that gives it (`Program.ofString_toJson`).
-/

namespace VliwPack

open Json (Value Entry IsText IsList IsRecord exists_isText isText_ofString isList_list)
open Json.Decoder (Separable record_of_isRecord string_of_isText list_of_isList)
open Json.Value (printable_ofString printable_list printable_record)

/-- The JSON form of a function. -/
def Function.toJson (function : Function) : Value :=
  .record [("name", .ofString function.name),
    ("insts", .list (function.body.map Instruction.toJson))]

/-- The JSON form of a program. -/
def Program.toJson (program : Program) : Value :=
  .record [("functions", .list (program.functions.map Function.toJson))]

/-- The fields of a function. Those of an empty body may be left out. -/
def Function.entries (function : Function) : List Entry :=
  [⟨"name", IsText function.name, False⟩,
    ⟨"insts", IsList (fun instruction => IsRecord instruction.entries) function.body,
      function.body = []⟩]

/-- The fields of a program. -/
def Program.entries (program : Program) : List Entry :=
  [⟨"functions", IsList (fun function => IsRecord function.entries) program.functions, False⟩]

private theorem Function.isRecord_toJson (function : Function) :
    IsRecord function.entries function.toJson :=
  Json.isRecord_record <| .cons ⟨rfl, isText_ofString function.name⟩ <|
    .cons ⟨rfl, isList_list Instruction.isRecord_toJson function.body⟩ .nil

private theorem Program.isRecord_toJson (program : Program) :
    IsRecord program.entries program.toJson :=
  Json.isRecord_record <|
    .cons ⟨rfl, isList_list Function.isRecord_toJson program.functions⟩ .nil

private theorem Function.separable_fields : Separable Function.fields :=
  ⟨by decide, by simp [fields]⟩

private theorem Program.separable_fields : Separable Program.fields :=
  ⟨by decide, by simp [fields]⟩

private theorem Function.decoder_of_isRecord {function : Function} {value : Value}
    (written : IsRecord function.entries value) : decoder value = .ok function := by
  unfold decoder
  refine record_of_isRecord separable_fields
    (.of function.name (exists_isText _) (fun _ => string_of_isText) False.elim <|
      .of function.body ⟨_, isList_list Instruction.isRecord_toJson _⟩
        (fun _ => list_of_isList Instruction.decoder fun _ _ => Instruction.decoder_of_isRecord)
        (fun none => ?_) .nil) (by rfl) written
  rw [none]

/-- A program is read from every object that has its entries. -/
theorem Program.decoder_of_isRecord {program : Program} {value : Value}
    (written : IsRecord program.entries value) : decoder value = .ok program := by
  unfold decoder
  exact record_of_isRecord separable_fields
    (.of program.functions ⟨_, isList_list Function.isRecord_toJson _⟩
      (fun _ => list_of_isList Function.decoder fun _ _ => Function.decoder_of_isRecord)
      False.elim .nil) (by rfl) written

private theorem Function.printable_toJson (function : Function) : function.toJson.Printable := by
  have body : (Value.list (function.body.map Instruction.toJson)).Printable := by
    apply printable_list
    simpa using fun instruction _ => instruction.printable_toJson
  apply printable_record
  simp [printable_ofString, body]

private theorem Program.printable_toJson (program : Program) : program.toJson.Printable := by
  have functions : (Value.list (program.functions.map Function.toJson)).Printable := by
    apply printable_list
    simpa using fun function _ => function.printable_toJson
  apply printable_record
  simpa using functions

/-- A program is read back from its JSON text. -/
theorem Program.ofString_toJson (program : Program) :
    ofString program.toJson.toText = .ok program := by
  have spelled := program.printable_toJson.spelledBy_toText
  exact (spelled.decodeString_eq_ok_iff decoder program).mpr
    (decoder_of_isRecord program.isRecord_toJson)

end VliwPack
