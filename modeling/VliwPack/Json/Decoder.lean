import VliwPack.Fault
import VliwPack.Json.Reader

/-! # Reading domain values from documents

A decoder turns a value into what it stands for or rejects it. It takes the parts
of a value in the order of the text, so that of several reasons for a rejection the
first one in the text counts.

A *record* is written as an object or as an array. Of an object, members whose key
names no field are skipped and a repeated field is rejected. An array gives the
fields in their order and may leave out the last ones. Whether a field may be
missing is up to the record's last step.
-/

namespace VliwPack.Json

/-- Why a document is not read. -/
inductive Rejection where
  /-- It is not JSON, or not a value of the expected form. -/
  | malformed
  /-- A string in it names nothing. -/
  | refused (fault : Fault)
  deriving DecidableEq

/-- Turns a value into what it stands for. -/
abbrev Decoder (α : Type) : Type := Value → Except Rejection α

namespace Decoder

/-- A boolean. -/
def boolean : Decoder Bool
  | .boolean value => .ok value
  | _ => .error .malformed

/-- The string that a written string stands for. -/
def textString (text : Text) : Except Rejection String :=
  match text.string? with
  | some s => .ok s
  | none => .error .malformed

/-- A string. -/
def string : Decoder String
  | .text text => textString text
  | _ => .error .malformed

/-- A whole number written as an integer. Minus zero is none. -/
def integer : Decoder Int
  | .number ('-' :: digits) =>
      match Numeral.read? digits with
      | some magnitude => if magnitude = 0 then .error .malformed else .ok (-magnitude)
      | none => .error .malformed
  | .number digits =>
      match Numeral.read? digits with
      | some magnitude => .ok magnitude
      | none => .error .malformed
  | _ => .error .malformed

/-- A whole number that a test accepts. -/
def integerWhere (accepts : Int → Bool) : Decoder Int := fun value => do
  let n ← integer value
  if accepts n then .ok n else .error .malformed

/-- A 64-bit whole number. -/
def int64 : Decoder Int64 := fun value => do
  return Int64.ofInt
    (← integerWhere (fun n => Int64.minValue.toInt ≤ n && n ≤ Int64.maxValue.toInt) value)

/-- A natural number below a bound. -/
def natBelow (bound : Nat) : Decoder Nat := fun value => do
  return (← integerWhere (fun n => 0 ≤ n && n < bound) value).toNat

/-- The items of an array, each read by the same decoder. -/
def listItems {α : Type} (item : Decoder α) (isClosed : Bool) :
    List Value → Except Rejection (List α)
  | [] => if isClosed then .ok [] else .error .malformed
  | value :: rest => do
      let first ← item value
      let others ← listItems item isClosed rest
      return first :: others

/-- An array, each of whose items is read by the same decoder. -/
def list {α : Type} (item : Decoder α) : Decoder (List α)
  | .array items isClosed => listItems item isClosed items
  | _ => .error .malformed

/-- A value or `null`. -/
def optional {α : Type} (decoder : Decoder α) : Decoder (Option α)
  | .null => .ok none
  | value => some <$> decoder value

/-- One of several named values: its name, or an object that gives the name the
value `null`. -/
def named {α : Type} (names : List (String × α)) : Decoder α
  | .text text => find text
  | .object [(key, .null)] true => find key
  | _ => .error .malformed
where
  /-- The value with a name. -/
  find (text : Text) : Except Rejection α := do
    match names.lookup (← textString text) with
    | some value => .ok value
    | none => .error .malformed

/-- A tagged value: an object with one member, whose key tells how its value is
read. -/
def tagged {α : Type} (variants : List (String × Decoder α)) : Decoder α
  | .object ((key, value) :: rest) isClosed => do
      match variants.lookup (← textString key) with
      | none => .error .malformed
      | some decoder =>
          let result ← decoder value
          if rest.isEmpty && isClosed then .ok result else .error .malformed
  | _ => .error .malformed

/-! ### Records -/

/-- A field of a record of type `δ`: its key, and how its value changes the record. -/
structure Field (δ : Type) where
  key : String
  read : Decoder (δ → δ)

/-- A field that stores what a decoder reads. -/
def Field.of {δ α : Type} (key : String) (decoder : Decoder α) (store : α → δ → δ) : Field δ where
  key
  read value := store <$> decoder value

/-- Reads fields from the members of an object. `seen` are the fields read so far. -/
def fromMembers {δ : Type} (fields : List (Field δ)) (isClosed : Bool) (seen : List String)
    (sofar : δ) : List Member → Except Rejection δ
  | [] => if isClosed then .ok sofar else .error .malformed
  | (text, value) :: rest => do
      let key ← textString text
      match fields.find? (·.key = key) with
      | none => fromMembers fields isClosed seen sofar rest
      | some found =>
          if key ∈ seen then
            .error .malformed
          else
            let store ← found.read value
            fromMembers fields isClosed (key :: seen) (store sofar) rest

/-- Reads fields from the items of an array, in the order of the fields. -/
def fromItems {δ : Type} (isClosed : Bool) (sofar : δ) :
    List (Field δ) → List Value → Except Rejection δ
  | _, [] => if isClosed then .ok sofar else .error .malformed
  | [], _ :: _ => .error .malformed
  | next :: fields, value :: rest => do
      let store ← next.read value
      fromItems isClosed (store sofar) fields rest

/-- A record that starts as `start`, gets its fields, and is finished at the end. -/
def record {δ α : Type} (fields : List (Field δ)) (start : δ) (finish : δ → Option α) :
    Decoder α := fun value => do
  let filled ← match value with
    | .object members isClosed => fromMembers fields isClosed [] start members
    | .array items isClosed => fromItems isClosed start fields items
    | _ => .error .malformed
  match finish filled with
  | some result => .ok result
  | none => .error .malformed

/-- A record every field of which may be missing: the given fields, laid over
`start`. -/
def overlay {δ : Type} (fields : List (Field δ)) (start : δ) : Decoder δ :=
  record fields start some

end Decoder

/-- Reads a whole document. -/
def Document.decode {α : Type} (decoder : Decoder α) (document : Document) :
    Except Rejection α := do
  let result ← decoder document.root
  if document.isComplete then .ok result else .error .malformed

/-- Reads a text. -/
def decodeString {α : Type} (decoder : Decoder α) (text : String) : Except Rejection α :=
  (Document.ofString text).decode decoder

end VliwPack.Json
