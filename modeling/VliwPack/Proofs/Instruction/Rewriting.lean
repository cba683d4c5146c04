import Mathlib.Logic.Relation
import Mathlib.Tactic.MkIffOfInductiveProp
import VliwPack.Proofs.Instruction.RoundTrip
import VliwPack.Proofs.Json.Rewriting

/-! # Rewriting instructions

What a text is read as depends only on the values of its fields. The members of the records that an
instruction consists of may change places, unknown members may be added, and a record that gives
all its fields may be turned into an array; but no field may be given twice
(`Instruction.decoder_rewrites`).
-/

namespace VliwPack

open Json (Value Text Gives Rewrites Repeats decodeString)
open Json.Decoder (record_rewrites record_repeats)

/-! ### Rewritings of the parts of an instruction -/

/-- A rewriting of a descriptor. -/
def Descriptor.Rewrites : Value → Value → Prop :=
  Json.Rewrites
    ["name", "unit", "unit_fixed", "side", "side_inst", "mem_access", "store", "call",
      "predicable", "is_move", "pseudo"]
    fun _ _ _ => False

/-- A rewriting of a predicate. -/
def Predicate.Rewrites : Value → Value → Prop :=
  Json.Rewrites ["reg", "negated"] fun _ _ _ => False

/-- A rewriting of an operand: of what describes its register. -/
inductive Operand.Rewrites : Value → Value → Prop
  | register {text : Text} {value other : Value} (named : text.Names "register")
      (rewrites : Json.Rewrites ["reg", "def", "implicit"] (fun _ _ _ => False) value other) :
      Rewrites (.object [(text, value)] true) (.object [(text, other)] true)

/-- A rewriting inside a field of an instruction. -/
@[mk_iff]
inductive Instruction.RewritesField : String → Value → Value → Prop
  | descriptor {value other : Value} (rewrites : Descriptor.Rewrites value other) :
      RewritesField "desc" value other
  | operand (before after : List Value) {value other : Value}
      (rewrites : Operand.Rewrites value other) :
      RewritesField "operands" (.array (before ++ value :: after) true)
        (.array (before ++ other :: after) true)
  | predicate {value other : Value} (rewrites : Predicate.Rewrites value other) :
      RewritesField "predicate" value other

/-- A rewriting of an instruction, or of one of its parts. -/
def Instruction.Rewrites : Value → Value → Prop :=
  Json.Rewrites ["desc", "operands", "predicate"] Instruction.RewritesField

/-! ### Fields given twice -/

/-- A descriptor with a field that is given twice. -/
def Descriptor.Repeats : Value → Prop :=
  Json.Repeats
    ["name", "unit", "unit_fixed", "side", "side_inst", "mem_access", "store", "call",
      "predicable", "is_move", "pseudo"]
    fun _ _ => False

/-- A predicate with a field that is given twice. -/
def Predicate.Repeats : Value → Prop := Json.Repeats ["reg", "negated"] fun _ _ => False

/-- An operand whose register is described with a field that is given twice. -/
inductive Operand.Repeats : Value → Prop
  | register {text : Text} {value : Value} (named : text.Names "register")
      (repeats : Json.Repeats ["reg", "def", "implicit"] (fun _ _ => False) value) :
      Repeats (.object [(text, value)] true)

/-- A field of an instruction in which a field is given twice. -/
@[mk_iff]
inductive Instruction.RepeatsField : String → Value → Prop
  | descriptor {value : Value} (repeats : Descriptor.Repeats value) : RepeatsField "desc" value
  | operand (before after : List Value) {value : Value} (repeats : Operand.Repeats value) :
      RepeatsField "operands" (.array (before ++ value :: after) true)
  | predicate {value : Value} (repeats : Predicate.Repeats value) : RepeatsField "predicate" value

/-- An instruction with a field that is given twice, in it or in one of its parts. -/
def Instruction.Repeats : Value → Prop :=
  Json.Repeats ["desc", "operands", "predicate"] Instruction.RepeatsField

/-! ### What is rewritten is read as before -/

private theorem Descriptor.decoder_rewrites {value other : Value}
    (rewrites : Descriptor.Rewrites value other) {descriptor : Descriptor}
    (accepted : decoder value = .ok descriptor) : decoder other = .ok descriptor := by
  unfold decoder Json.Decoder.overlay at accepted ⊢
  exact record_rewrites separable_fields (fun _ _ _ _ _ inner => inner.elim) rewrites accepted

private theorem Predicate.decoder_rewrites {value other : Value}
    (rewrites : Predicate.Rewrites value other) {predicate : Predicate}
    (accepted : decoder value = .ok predicate) : decoder other = .ok predicate := by
  unfold decoder at accepted ⊢
  exact record_rewrites separable_fields (fun _ _ _ _ _ inner => inner.elim) rewrites accepted

private theorem Operand.registerDecoder_rewrites {value other : Value}
    (rewrites : Json.Rewrites ["reg", "def", "implicit"] (fun _ _ _ => False) value other)
    {operand : Operand} (accepted : registerDecoder value = .ok operand) :
    registerDecoder other = .ok operand := by
  unfold registerDecoder at accepted ⊢
  exact record_rewrites separable_registerFields (fun _ _ _ _ _ inner => inner.elim) rewrites
    accepted

/-- An operand that describes a register is read as the description is. -/
theorem Operand.decoder_register {text : Text} (named : text.Names "register") (value : Value)
    (operand : Operand) :
    decoder (.object [(text, value)] true) = .ok operand ↔ registerDecoder value = .ok operand := by
  rw [decoder, Json.Decoder.tagged_single named rfl]

private theorem Operand.decoder_rewrites {value other : Value}
    (rewrites : Operand.Rewrites value other)
    {operand : Operand} (accepted : decoder value = .ok operand) : decoder other = .ok operand := by
  obtain ⟨named, rewrites⟩ := rewrites
  rw [decoder_register named] at accepted ⊢
  exact registerDecoder_rewrites rewrites accepted

/-- A field is read from what its value is rewritten to. -/
private theorem Instruction.read_rewrites {field : Json.Decoder.Field Draft}
    (known : field ∈ fields)
    {value other : Value} {store : Draft → Draft} (rewrites : RewritesField field.key value other)
    (accepted : field.read value = .ok store) : field.read other = .ok store := by
  simp only [fields, List.mem_cons, List.not_mem_nil, or_false] at known
  rcases known with rfl | rfl | rfl
  · have inside : Descriptor.Rewrites value other := by
      simpa [Json.Decoder.Field.of, rewritesField_iff] using rewrites
    refine Json.Decoder.Field.of_read_congr (fun descriptor => ?_) accepted
    exact Descriptor.decoder_rewrites inside
  · obtain ⟨before, after, value, other, inside, rfl, rfl⟩ :
        ∃ before after value' other', Operand.Rewrites value' other' ∧
          value = .array (before ++ value' :: after) true ∧
          other = .array (before ++ other' :: after) true := by
      simpa [Json.Decoder.Field.of, rewritesField_iff] using rewrites
    refine Json.Decoder.Field.of_read_congr (fun operands => ?_) accepted
    exact Json.Decoder.list_replace (fun _ => Operand.decoder_rewrites inside) before after
  · have inside : Predicate.Rewrites value other := by
      simpa [Json.Decoder.Field.of, rewritesField_iff] using rewrites
    refine Json.Decoder.Field.of_read_congr (fun predicate => ?_) accepted
    exact Json.Rewrites.optional inside fun _ => Predicate.decoder_rewrites inside

/-- An instruction is read from what its value is rewritten to. -/
theorem Instruction.decoder_rewrites {value other : Value}
    (rewrites : Instruction.Rewrites value other) {instruction : Instruction}
    (accepted : decoder value = .ok instruction) : decoder other = .ok instruction := by
  unfold decoder at accepted ⊢
  exact record_rewrites separable_fields
    (fun _ known _ _ _ rewrites => read_rewrites known rewrites) rewrites accepted

/-! ### What gives a field twice is not read -/

private theorem Descriptor.decoder_repeats {value : Value} (repeats : Descriptor.Repeats value)
    (descriptor : Descriptor) : decoder value ≠ .ok descriptor := by
  unfold decoder Json.Decoder.overlay
  exact record_repeats separable_fields (fun _ _ _ _ inner => inner.elim) repeats descriptor

private theorem Predicate.decoder_repeats {value : Value} (repeats : Predicate.Repeats value)
    (predicate : Predicate) : decoder value ≠ .ok predicate := by
  unfold decoder
  exact record_repeats separable_fields (fun _ _ _ _ inner => inner.elim) repeats predicate

/-- No operand is read where a field is given twice. -/
theorem Operand.decoder_repeats {value : Value} (repeats : Operand.Repeats value)
    (operand : Operand) : decoder value ≠ .ok operand := by
  obtain ⟨named, repeats⟩ := repeats
  rw [Ne, decoder_register named]
  unfold registerDecoder
  exact record_repeats separable_registerFields (fun _ _ _ _ inner => inner.elim) repeats operand

/-- No field is read from a value that gives a field twice. -/
private theorem Instruction.read_repeats {field : Json.Decoder.Field Draft} (known : field ∈ fields)
    {value : Value} {store : Draft → Draft} (repeats : RepeatsField field.key value) :
    field.read value ≠ .ok store := by
  simp only [fields, List.mem_cons, List.not_mem_nil, or_false] at known
  rcases known with rfl | rfl | rfl
  · have inside : Descriptor.Repeats value := by
      simpa [Json.Decoder.Field.of, repeatsField_iff] using repeats
    exact Json.Decoder.Field.of_read_ne_ok (Descriptor.decoder_repeats inside) store
  · obtain ⟨before, after, value, inside, rfl⟩ :
        ∃ before after value', Operand.Repeats value' ∧
          value = .array (before ++ value' :: after) true := by
      simpa [Json.Decoder.Field.of, repeatsField_iff] using repeats
    refine Json.Decoder.Field.of_read_ne_ok (fun operands read => ?_) store
    have given : value ∈ before ++ value :: after := by simp
    obtain ⟨operand, read⟩ := Json.Decoder.exists_of_list read given
    exact Operand.decoder_repeats inside operand read
  · have inside : Predicate.Repeats value := by
      simpa [Json.Decoder.Field.of, repeatsField_iff] using repeats
    refine Json.Decoder.Field.of_read_ne_ok ?_ store
    exact Json.Repeats.optional inside (Predicate.decoder_repeats inside)

private theorem Instruction.decoder_repeats {value : Value} (repeats : Instruction.Repeats value)
    (instruction : Instruction) : decoder value ≠ .ok instruction := by
  unfold decoder
  exact record_repeats separable_fields (fun _ known _ _ repeats => read_repeats known repeats)
    repeats instruction

/-! ### Texts -/

/-- An accepted text is a JSON text. Whatever rewritings its value goes through, every text of the
outcome, with blanks anywhere between its tokens, is read as the same instruction; but no text is
read in which a field is given twice. -/
theorem Instruction.decodeString_rewrites {text : String} {instruction : Instruction}
    (accepted : decodeString decoder text = .ok instruction) :
    (∃ value : Value, value.SpelledBy text) ∧
      (∀ value other : Value, value.SpelledBy text →
        Relation.ReflTransGen Instruction.Rewrites value other →
        ∀ rewritten, other.SpelledBy rewritten →
          decodeString decoder rewritten = .ok instruction) ∧
      ∀ other : Value, Instruction.Repeats other → ∀ rewritten, other.SpelledBy rewritten →
        ∀ result, decodeString decoder rewritten ≠ .ok result := by
  refine ⟨?_, fun value other spelled rewrites rewritten spelledOther => ?_,
    fun other repeats rewritten spelledOther result => ?_⟩
  · obtain ⟨value, spelled, -⟩ :=
      (Json.decodeString_eq_ok_iff decoder text instruction).mp accepted
    exact ⟨value, spelled⟩
  · have read := (spelled.decodeString_eq_ok_iff decoder instruction).mp accepted
    refine (spelledOther.decodeString_eq_ok_iff decoder instruction).mpr ?_
    clear spelledOther
    induction rewrites with
    | refl => exact read
    | tail before step ih => exact decoder_rewrites step ih
  · rw [Ne, spelledOther.decodeString_eq_ok_iff]
    exact decoder_repeats repeats result

/-- An array gives an instruction, and an object with two descriptors does not. -/
theorem Instruction.decodeString_rewrites_nop :
    let descriptor : Descriptor := { name := "nop" }
    let array : Value := .list [descriptor.toJson, .list [], .null]
    let twice : Value := .record [("desc", descriptor.toJson), ("desc", descriptor.toJson)]
    decodeString decoder array.toText = .ok ⟨descriptor, [], none⟩ ∧
      ∀ result, decodeString decoder twice.toText ≠ .ok result := by
  intro descriptor array twice
  let instruction : Instruction := ⟨descriptor, [], none⟩
  have accepted : decodeString decoder instruction.toJson.toText = .ok instruction :=
    decodeString_of_isRecord instruction.isRecord_toJson
      instruction.printable_toJson.spelledBy_toText
  obtain ⟨-, rewritten, rejected⟩ := decodeString_rewrites accepted
  have printable := descriptor.printable_toJson
  have arrayPrintable : array.Printable := by
    apply Json.Value.printable_list
    have none : (Value.list []).Printable := Json.Value.printable_list (by simp)
    simpa using ⟨printable, none, Json.Value.printable_null⟩
  have rewrites : Instruction.Rewrites instruction.toJson array :=
    .list (.cons ⟨_, Text.string?_ofString "desc", .head _⟩
      (.cons ⟨_, Text.string?_ofString "operands", .tail _ (.head _)⟩
        (.cons ⟨_, Text.string?_ofString "predicate", .tail _ (.tail _ (.head _))⟩ .nil)))
  have repeats : Instruction.Repeats twice :=
    .twice [] [] [] (by simp) (Text.string?_ofString "desc") (Text.string?_ofString "desc")
  have twicePrintable : twice.Printable :=
    Json.Value.printable_record (by simpa using printable)
  exact ⟨rewritten _ array instruction.printable_toJson.spelledBy_toText (.single rewrites) _
    arrayPrintable.spelledBy_toText, rejected twice repeats _ twicePrintable.spelledBy_toText⟩

end VliwPack
