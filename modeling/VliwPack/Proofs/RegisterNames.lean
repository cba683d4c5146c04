import VliwPack.Fault
import VliwPack.Proofs.Numeral

/-! # The names of registers

`Register.Named` is the grammar of register names. A text is read as the register it names,
and refused if it names none (`Register.read?_eq_some_iff`). A register is written as its
name with an upper-case letter (`Register.Named.name_eq`), and that name is read back
(`Register.read?_name`). So reading and writing are inverse to each other on the names whose
letter is not in lower case (`Register.names_grammatical`).
-/

namespace VliwPack.Register

variable {text : List Char} {register : Register} {side : Side}

/-- The text is a name of the register. -/
inductive Named : List Char → Register → Prop
  /-- A side's letter, of either case, and a number below 32. -/
  | allocated {side : Side} {letter : Char} {digits : List Char} {number : Nat}
      (lettered : letter = side.letter ∨ letter = side.letter.toLower)
      (spelled : Numeral.Spells digits number) (bound : number < 32) :
      Named (letter :: digits) (.physical side ⟨number, bound⟩)
  /-- The mark of a virtual register and a number of 32 bits. -/
  | unallocated {digits : List Char} {number : Nat} (spelled : Numeral.Spells digits number)
      (bound : number < UInt32.size) :
      Named ('%' :: 'v' :: digits) (.virtual (UInt32.ofNat number))

/-! ### Reading names -/

/-- Digits make a register of a side if they spell a number below 32. -/
theorem numbered_eq_some_iff {digits : List Char} :
    read?.numbered side digits = some register ↔
      ∃ number, ∃ bound : number < 32,
        Numeral.Spells digits number ∧ register = .physical side ⟨number, bound⟩ := by
  constructor
  · intro read
    obtain ⟨number, spelled, read⟩ := Option.bind_eq_some_iff.mp read
    split at read
    next bound =>
      cases read
      exact ⟨number, bound, Numeral.read?_eq_some_iff.mp spelled, rfl⟩
    next => cases read
  · rintro ⟨number, bound, spelled, rfl⟩
    refine Option.bind_eq_some_iff.mpr ⟨number, Numeral.read?_eq_some_iff.mpr spelled, ?_⟩
    exact dif_pos bound

private theorem named_of_numbered {letter : Char} {digits : List Char}
    (read : read?.numbered side digits = some register)
    (lettered : letter = side.letter ∨ letter = side.letter.toLower) :
    Named (letter :: digits) register := by
  obtain ⟨number, bound, spelled, rfl⟩ := numbered_eq_some_iff.mp read
  exact .allocated lettered spelled bound

/-- What is read of a text is the register it names. -/
theorem read?_eq_some_iff : read? text = some register ↔ Named text register := by
  constructor
  · intro read
    unfold read? at read
    split at read
    · obtain ⟨number, spelled, read⟩ := Option.bind_eq_some_iff.mp read
      split at read <;> cases read
      next bound => exact .unallocated (Numeral.read?_eq_some_iff.mp spelled) bound
    · exact named_of_numbered read (.inl rfl)
    · exact named_of_numbered read (.inr rfl)
    · exact named_of_numbered read (.inl rfl)
    · exact named_of_numbered read (.inr rfl)
    · cases read
  · intro named
    cases named with
    | @allocated side letter digits number lettered spelled bound =>
        have numbered : read?.numbered side digits = some (.physical side ⟨number, bound⟩) :=
          numbered_eq_some_iff.mpr ⟨number, bound, spelled, rfl⟩
        cases side <;> rcases lettered with rfl | rfl <;> exact numbered
    | @unallocated digits number spelled bound =>
        refine Option.bind_eq_some_iff.mpr ⟨number, Numeral.read?_eq_some_iff.mpr spelled, ?_⟩
        exact if_pos bound

/-- A name begins with a letter or a mark, so no numeral is a name. -/
theorem Named.isDigit_head (named : Named text register) :
    ∃ first rest, text = first :: rest ∧ first.isDigit = false := by
  cases named with
  | @allocated side letter digits number lettered spelled bound =>
      refine ⟨letter, digits, rfl, ?_⟩
      cases side <;> rcases lettered with rfl | rfl <;> rfl
  | @unallocated digits number spelled bound => exact ⟨'%', 'v' :: digits, rfl, rfl⟩

/-- Digits alone name no register. -/
theorem read?_digits (n : Nat) : read? (Numeral.digits n) = none := by
  cases read : read? (Numeral.digits n) with
  | none => rfl
  | some register =>
      obtain ⟨first, rest, begins, sign⟩ := (read?_eq_some_iff.mp read).isDigit_head
      have leading : first ∈ Numeral.digits n := begins ▸ List.mem_cons_self
      exact absurd leading (Numeral.not_mem_digits sign)

/-! ### Writing names -/

/-- A register is named by its own name. -/
theorem named_name (register : Register) : Named register.name register := by
  cases register with
  | physical side number =>
      exact .allocated (.inl rfl) (Numeral.spells_digits number.val) number.isLt
  | «virtual» number =>
      have named := Named.unallocated (Numeral.spells_digits number.toNat) number.toNat_lt
      rwa [UInt32.ofNat_toNat] at named

/-- A register is written as any name of it with the letter in upper case. -/
theorem Named.name_eq (named : Named text register) :
    register.name = text.modifyHead Char.toUpper := by
  cases named with
  | @allocated side letter digits number lettered spelled bound =>
      have upper : letter.toUpper = side.letter := by
        cases side <;> rcases lettered with rfl | rfl <;> rfl
      rw [spelled.eq_digits, List.modifyHead_cons, upper, name]
  | @unallocated digits number spelled bound =>
      rw [spelled.eq_digits, name, UInt32.toNat_ofNat_of_lt' bound]
      rfl

/-- A name that is not in lower case is the register's own. -/
theorem Named.eq_name (named : Named text register)
    (upper : ∀ letter ∈ text.head?, letter.isLower = false) : text = register.name := by
  cases named with
  | @allocated side letter digits number lettered spelled bound =>
      rw [spelled.eq_digits, name]
      rcases lettered with rfl | rfl
      · rfl
      · have lower : side.letter.toLower.isLower = true := by cases side <;> rfl
        cases lower.symm.trans (upper _ rfl)
  | @unallocated digits number spelled bound =>
      rw [spelled.eq_digits, name, UInt32.toNat_ofNat_of_lt' bound]

private theorem isLower_head_name (register : Register) :
    ∀ letter ∈ register.name.head?, letter.isLower = false := by
  cases register with
  | physical side number => cases side <;> (rintro letter ⟨⟩; rfl)
  | «virtual» number =>
      rintro letter ⟨⟩
      rfl

/-- A register is read back from its name. -/
theorem read?_name (register : Register) : read? register.name = some register :=
  read?_eq_some_iff.mpr register.named_name

/-! ### Names and registers -/

/-- A register is found by exactly the names for it. -/
theorem ofName_eq_ok_iff {name : String} :
    ofName name = .ok register ↔ Named name.toList register := by
  rw [← read?_eq_some_iff, ofName, ofName?]
  cases read? name.toList <;> simp

/-- A register is found by its text. -/
theorem ofName_text (register : Register) : ofName register.text = .ok register := by
  rw [ofName_eq_ok_iff, text, String.toList_ofList]
  exact register.named_name

/-- Exactly the names of a register are read as it, and all else is refused with the text
itself. The register read is written as the text with its letter in upper case. Every register
is read back from what it is written as, and that is its one name without a lower-case
letter. -/
theorem names_grammatical :
    (∀ name register, ofName name = .ok register ↔ Named name.toList register) ∧
      (∀ name, (∀ register, ¬ Named name.toList register) →
        ofName name = .error (.invalidRegister name)) ∧
      (∀ name register, ofName name = .ok register →
        register.text.toList = name.toList.modifyHead Char.toUpper) ∧
      (∀ register : Register, ofName register.text = .ok register) ∧
      (∀ name register, register.text = name ↔
        ofName name = .ok register ∧ ∀ letter ∈ name.toList.head?, letter.isLower = false) := by
  refine ⟨fun _ _ => ofName_eq_ok_iff, ?_, ?_, ofName_text, ?_⟩
  · intro name unnamed
    have unread : ofName? name = none := by
      cases read : ofName? name with
      | none => rfl
      | some register => exact absurd (read?_eq_some_iff.mp read) (unnamed register)
    rw [ofName, unread]
  · intro name register read
    rw [text, String.toList_ofList]
    exact (ofName_eq_ok_iff.mp read).name_eq
  · intro name register
    constructor
    · rintro rfl
      refine ⟨register.ofName_text, ?_⟩
      rw [text, String.toList_ofList]
      exact register.isLower_head_name
    · rintro ⟨read, upper⟩
      rw [text, ← (ofName_eq_ok_iff.mp read).eq_name upper, String.ofList_toList]

end VliwPack.Register
