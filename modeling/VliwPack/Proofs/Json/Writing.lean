import VliwPack.Proofs.Json.Records

/-! # Written records

A record may be written with or without the fields that hold their default. Whichever are left
out, the record is read back (`Decoder.record_of_isRecord`).
-/

namespace VliwPack.Json

/-- The value is a string, however its characters are written. -/
def IsText (s : String) (value : Value) : Prop := ∃ text : Text, text.Names s ∧ value = .text text

/-- A field of a record that is to be written. -/
structure Entry where
  key : String
  /-- The value is a JSON form of what the field holds. -/
  IsForm : Value → Prop
  /-- The field holds its default. -/
  IsDefault : Prop

/-- A flag of a record. It may be left out when it is not set. -/
def Entry.flag (key : String) (isSet : Bool) : Entry where
  key
  IsForm value := value = .boolean isSet
  IsDefault := isSet = false

/-- The members give the entries in their order. Entries that hold their default may be
missing. -/
inductive Lists : List Entry → List Member → Prop
  | nil : Lists [] []
  | given {entry : Entry} {entries : List Entry} {text : Text} {value : Value}
      {members : List Member} (named : text.Names entry.key) (form : entry.IsForm value)
      (rest : Lists entries members) : Lists (entry :: entries) ((text, value) :: members)
  | missing {entry : Entry} {entries : List Entry} {members : List Member}
      (default : entry.IsDefault) (rest : Lists entries members) :
      Lists (entry :: entries) members

/-- The value is an object that gives the entries. -/
def IsRecord (entries : List Entry) (value : Value) : Prop :=
  ∃ members, Lists entries members ∧ value = .object members true

/-- The value is an array of forms of the things in the list. -/
def IsList {α : Type} (IsForm : α → Value → Prop) (things : List α) (value : Value) : Prop :=
  ∃ items, List.Forall₂ IsForm things items ∧ value = .list items

/-- A list of forms is a form of the list. -/
theorem isList_list {α : Type} {IsForm : α → Value → Prop} {form : α → Value}
    (written : ∀ thing, IsForm thing (form thing)) (things : List α) :
    IsList IsForm things (.list (things.map form)) := by
  refine ⟨_, ?_, rfl⟩
  rw [List.forall₂_map_right_iff, List.forall₂_same]
  exact fun thing _ => written thing

/-- The text of a string is a form of it. -/
theorem isText_ofString (s : String) : IsText s (.ofString s) :=
  ⟨Text.ofString s, Text.string?_ofString s, rfl⟩

/-- Every string has a form. -/
theorem exists_isText (s : String) : ∃ value, IsText s value := ⟨_, isText_ofString s⟩

/-- A record that is written in full. -/
theorem isRecord_record {entries : List Entry} {members : List (String × Value)}
    (given : List.Forall₂ (fun entry member => member.1 = entry.key ∧ entry.IsForm member.2)
      entries members) : IsRecord entries (.record members) := by
  refine ⟨_, ?_, rfl⟩
  induction given with
  | nil => exact .nil
  | @cons entry member entries members first rest ih =>
      obtain ⟨named, form⟩ := first
      refine .given ?_ form ih
      rw [← named]
      exact Text.string?_ofString member.1

/-- A record of one entry, which may not be left out, is an object with one member. -/
theorem IsRecord.single {key : String} {IsForm : Value → Prop} {value : Value}
    (written : IsRecord [⟨key, IsForm, False⟩] value) :
    ∃ (text : Text) (inner : Value), text.Names key ∧ IsForm inner ∧
      value = .object [(text, inner)] true := by
  obtain ⟨members, lists, rfl⟩ := written
  cases lists with
  | given named form rest =>
      cases rest
      exact ⟨_, _, named, form, rfl⟩
  | missing default rest => exact default.elim

namespace Decoder

variable {δ α : Type} {start : δ}

/-- Reading the entries' forms as these fields makes these changes. -/
inductive Stores (start : δ) : List Entry → List (Field δ) → List (String × (δ → δ)) → Prop
  | nil : Stores start [] [] []
  | of {key : String} {IsForm : Value → Prop} {IsDefault : Prop} {β : Type} {decoder : Decoder β}
      {store : β → δ → δ} {entries : List Entry} {fields : List (Field δ)}
      {made : List (String × (δ → δ))} (content : β) (given : ∃ value, IsForm value)
      (reads : ∀ value, IsForm value → decoder value = .ok content)
      (default : IsDefault → store content start = start)
      (rest : Stores start entries fields made) :
      Stores start (⟨key, IsForm, IsDefault⟩ :: entries) (.of key decoder store :: fields)
        ((key, store content) :: made)

variable {entries : List Entry} {fields all : List (Field δ)} {made : List (String × (δ → δ))}
  {members : List Member}

/-- A flag is stored as it is, also where it is left out because it is not set. -/
theorem Stores.flag {key : String} {store : Bool → δ → δ} (isSet : Bool)
    (default : store false start = start) (rest : Stores start entries fields made) :
    Stores start (.flag key isSet :: entries) (.of key boolean store :: fields)
      ((key, store isSet) :: made) := by
  refine .of isSet ⟨_, rfl⟩ (fun value form => ?_) (fun unset => ?_) rest
  · rw [form]
    rfl
  · rw [unset, default]

/-- The changes that are stored have the keys of the fields. -/
theorem Stores.map_fst (stores : Stores start entries fields made) :
    made.map Prod.fst = fields.map Field.key := by
  induction stores with
  | nil => rfl
  | of content given reads default rest ih => exact congrArg (_ :: ·) ih

private theorem Stores.isRead (stores : Stores start entries fields made)
    (known : ∀ field ∈ fields, field ∈ all) : ∀ change ∈ made, IsRead all change := by
  induction stores with
  | nil => simp
  | of content given reads default rest ih =>
      obtain ⟨first, others⟩ := List.forall_mem_cons.mp known
      obtain ⟨value, form⟩ := given
      refine List.forall_mem_cons.mpr ⟨⟨_, first, rfl, value, ?_⟩, ih others⟩
      exact (Field.of_read_eq_ok_iff ..).mpr ⟨content, reads value form, rfl⟩

/-- The changes that the members make, and those that are missing, which do nothing, are
together the changes that all entries make. -/
theorem Stores.exists_missing (stores : Stores start entries fields made)
    (keys : (all.map Field.key).Nodup) (known : ∀ field ∈ fields, field ∈ all)
    (lists : Lists entries members) :
    ∃ missing : List (String × (δ → δ)), (∀ change ∈ missing, change.2 start = start) ∧
      made.Perm (missing ++ changes all members) ∧
        ∀ member ∈ members, ∃ change, Decoder.change all member = .ok change := by
  induction stores generalizing members with
  | nil =>
      cases lists
      exact ⟨[], by simp, .nil, by simp⟩
  | @of key IsForm IsDefault β decoder store entries fields made content _ reads default _ ih =>
      obtain ⟨first, others⟩ := List.forall_mem_cons.mp known
      cases lists with
      | @given _ _ text value members named form lists =>
          obtain ⟨missing, idle, perm, readable⟩ := ih others lists
          have makes : change all (text, value) = .ok (some (key, store content)) := by
            rw [change_of_field keys first named, (Field.of_read_eq_ok_iff ..).mpr
              ⟨content, reads value form, rfl⟩]
            rfl
          refine ⟨missing, idle, ?_, List.forall_mem_cons.mpr ⟨⟨_, makes⟩, readable⟩⟩
          rw [changes_cons_of_some makes]
          exact (perm.cons _).trans List.perm_middle.symm
      | missing holds lists =>
          obtain ⟨missing, idle, perm, readable⟩ := ih others lists
          exact ⟨(key, store content) :: missing,
            List.forall_mem_cons.mpr ⟨default holds, idle⟩, perm.cons _, readable⟩

private theorem apply_eq_of_idle {missing : List (String × (δ → δ))}
    (idle : ∀ change ∈ missing, change.2 start = start) : apply missing start = start := by
  induction missing with
  | nil => rfl
  | cons change rest ih =>
      obtain ⟨first, others⟩ := List.forall_mem_cons.mp idle
      rw [apply_cons, first, ih others]

/-- A record that is written with or without its defaults is read back. -/
theorem record_of_isRecord (separable : Separable fields)
    (stores : Stores start entries fields made) {finish : δ → Option α} {result : α}
    (finished : finish (apply made start) = some result) {value : Value}
    (written : IsRecord entries value) : record fields start finish value = .ok result := by
  obtain ⟨members, lists, rfl⟩ := written
  obtain ⟨missing, idle, perm, readable⟩ :=
    stores.exists_missing separable.keys (fun _ known => known) lists
  have once : (made.map Prod.fst).Nodup := by
    rw [stores.map_fst]
    exact separable.keys
  have onceGiven : ((changes fields members).map Prod.fst).Nodup := by
    have all := (perm.map Prod.fst).nodup_iff.mp once
    rw [List.map_append] at all
    exact all.of_append_right
  have same : apply made start = apply (changes fields members) start := by
    rw [apply_perm separable (stores.isRead fun _ known => known) once perm start, apply_append,
      apply_eq_of_idle idle]
  rw [record_eq_ok_iff separable]
  exact ⟨members, rfl, ⟨readable, onceGiven⟩, by rw [← same, finished]⟩

/-! ### Lists, strings and numbers -/

/-- A list is read from every form of it. -/
theorem list_of_isList {IsForm : α → Value → Prop} (item : Decoder α)
    (reads : ∀ thing value, IsForm thing value → item value = .ok thing) {things : List α}
    {value : Value} (form : IsList IsForm things value) : list item value = .ok things := by
  obtain ⟨items, forms, rfl⟩ := form
  exact (list_eq_ok_iff item items things).mpr (forms.imp reads).flip

/-- A string is read from every form of it. -/
theorem string_of_isText {s : String} {value : Value} (form : IsText s value) :
    string value = .ok s := by
  obtain ⟨text, named, rfl⟩ := form
  exact (textString_eq_ok_iff text s).mpr named

/-- A natural number is read back. -/
private theorem integer_ofNat (n : Nat) : integer (.ofNat n) = .ok n := by
  have unsigned : ∀ rest, Numeral.digits n ≠ '-' :: rest := by
    intro rest same
    have member : '-' ∈ Numeral.digits n := same ▸ List.mem_cons_self
    exact absurd member (Numeral.not_mem_digits rfl)
  have read := Numeral.read?_digits n
  unfold Value.ofNat
  generalize Numeral.digits n = digits at unsigned read
  unfold integer
  split
  · rename_i rest same
    exact absurd (Value.number.inj same) (unsigned rest)
  · rename_i spelling _ same
    rw [← Value.number.inj same, read]
  · rename_i other
    exact absurd rfl (other digits)

private theorem integer_ofInt (n : Int) : integer (.ofInt n) = .ok n := by
  unfold Value.ofInt Numeral.signed
  by_cases negative : n < 0
  · have magnitude : n.natAbs ≠ 0 := by omega
    rw [if_pos negative]
    simp only [integer, Numeral.read?_digits, magnitude, if_false, Except.ok.injEq]
    omega
  · have same : (n.natAbs : Int) = n := by omega
    rw [if_neg negative]
    exact (integer_ofNat n.natAbs).trans (by rw [same])

private theorem integerWhere_eq_ok {accepts : Int → Bool} {value : Value} {n : Int}
    (read : integer value = .ok n) (accepted : accepts n = true) :
    integerWhere accepts value = .ok n := by
  simp [integerWhere, read, accepted, bind, Except.bind]

/-- A 64-bit number is read back. -/
theorem int64_ofInt (n : Int64) : int64 (.ofInt n.toInt) = .ok n := by
  have within : (Int64.minValue.toInt ≤ n.toInt && n.toInt ≤ Int64.maxValue.toInt) = true := by
    simpa using ⟨Int64.minValue_le_toInt n, Int64.toInt_le n⟩
  unfold int64
  rw [integerWhere_eq_ok (integer_ofInt n.toInt) within]
  simp [bind, Except.bind, pure, Except.pure]

/-- A natural number below the bound is read back. -/
theorem natBelow_ofNat {n bound : Nat} (small : n < bound) :
    natBelow bound (.ofNat n) = .ok n := by
  have within : (0 ≤ (n : Int) && (n : Int) < bound) = true := by simpa using small
  unfold natBelow
  rw [integerWhere_eq_ok (integer_ofNat n) within]
  simp [bind, Except.bind, pure, Except.pure]

end Decoder

end VliwPack.Json
