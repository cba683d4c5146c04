import VliwPack.Instruction.Json

/-! # Programs

A program is a list of functions, each with a name and the instructions of its
body in the order they are to be packed.
-/

namespace VliwPack

open Json (Decoder)

/-- A function. -/
structure Function where
  name : String
  body : List Instruction := []
  deriving DecidableEq

/-- A program. -/
structure Program where
  functions : List Function
  deriving DecidableEq

/-- A function whose name may still be missing. -/
structure Function.Draft where
  name : Option String := none
  body : List Instruction := []

/-- The fields of a function. -/
def Function.fields : List (Json.Decoder.Field Function.Draft) :=
  [.of "name" .string fun name draft => { draft with name := some name },
    .of "insts" (.list Instruction.decoder) fun body draft => { draft with body }]

/-- A function; its name must be given. -/
def Function.decoder : Decoder Function :=
  .record fields {} fun draft => draft.name.map fun name => ⟨name, draft.body⟩

/-- The fields of a program. -/
def Program.fields : List (Json.Decoder.Field (Option (List Function))) :=
  [.of "functions" (.list Function.decoder) fun functions _ => some functions]

/-- A program; its functions must be given. -/
def Program.decoder : Decoder Program :=
  .record fields none fun functions => functions.map Program.mk

/-- The program that a text gives. -/
def Program.ofString (text : String) : Except Json.Rejection Program :=
  Json.decodeString decoder text

end VliwPack
