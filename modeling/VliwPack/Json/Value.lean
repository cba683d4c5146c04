import VliwPack.Json.Token

/-! # Values and documents

A value keeps all that JSON text says: the order of an object's members, repeated
keys, and numbers as they are spelled.

A text may stop being JSON half-way. Its document then holds what was read before
that place: the containers still open there are not *closed*, and `absent` stands
where a value should have come. A document is *complete* when a whole value was
read and nothing follows it.
-/

namespace VliwPack.Json

/-- A value, or what a text gives of one. -/
inductive Value where
  | null
  | boolean (value : Bool)
  | number (spelling : List Char)
  | text (text : Text)
  | array (items : List Value) (isClosed : Bool)
  | object (members : List (Text × Value)) (isClosed : Bool)
  /-- The text breaks off where a value should come. -/
  | absent

/-- A member of an object: its key and its value. -/
abbrev Member : Type := Text × Value

namespace Value

/-- An array that is closed. -/
def list (items : List Value) : Value := .array items true

/-- An object that is closed. -/
def record (members : List (String × Value)) : Value :=
  .object (members.map fun (key, value) => (Text.ofString key, value)) true

/-- A string. -/
def ofString (s : String) : Value := .text (Text.ofString s)

/-- A whole number. -/
def ofInt (n : Int) : Value := .number (Numeral.signed n)

/-- A natural number. -/
def ofNat (n : Nat) : Value := .number (Numeral.digits n)

end Value

/-- What a text gives of a value. -/
structure Document where
  root : Value
  /-- A whole value was read and nothing follows it. -/
  isComplete : Bool

end VliwPack.Json
