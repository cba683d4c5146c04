import VliwPack.Proofs.Json.Records

/-! # Rewriting records

A value that is read as a record may be rewritten without changing what is read: its members may
change places, members with other keys may be added, and when all fields are given it may be
turned into an array (`Decoder.record_rewrites`). A field that is given twice is rejected
(`Decoder.record_repeats`). What `inner` says of a field's value is carried to the record, so that
records in records are covered.
-/

namespace VliwPack.Json

/-- A member gives the key the value. -/
def Gives (members : List Member) (key : String) (value : Value) : Prop :=
  ∃ text : Text, text.Names key ∧ (text, value) ∈ members

/-- The second value is a rewriting of the first, which is to be read as a record with these
keys. -/
inductive Rewrites (keys : List String) (inner : String → Value → Value → Prop) :
    Value → Value → Prop
  /-- The members change places. -/
  | permute {members others : List Member} (perm : members.Perm others) :
      Rewrites keys inner (.object members true) (.object others true)
  /-- A member is added whose key is none of the record's. -/
  | insert (before after : List Member) {text : Text} {key : String} (named : text.Names key)
      (unknown : key ∉ keys) (value : Value) :
      Rewrites keys inner (.object (before ++ after) true)
        (.object (before ++ (text, value) :: after) true)
  /-- An object that gives all keys becomes the array of their values. -/
  | list {members : List Member} {values : List Value}
      (gives : List.Forall₂ (Gives members) keys values) :
      Rewrites keys inner (.object members true) (.array values true)
  /-- The value of a member is rewritten. -/
  | member (before after : List Member) {text : Text} {key : String} {value other : Value}
      (named : text.Names key) (rewrites : inner key value other) :
      Rewrites keys inner (.object (before ++ (text, value) :: after) true)
        (.object (before ++ (text, other) :: after) true)
  /-- The value of a key in an array is rewritten. -/
  | item (before after : List Value) {key : String} {value other : Value}
      (placed : keys[before.length]? = some key) (rewrites : inner key value other) :
      Rewrites keys inner (.array (before ++ value :: after) true)
        (.array (before ++ other :: after) true)

/-- The value, which is to be read as a record with these keys, gives one of them twice. -/
inductive Repeats (keys : List String) (inner : String → Value → Prop) : Value → Prop
  /-- Two members have the same key. -/
  | twice (before between after : List Member) {first second : Member} {key : String}
      (known : key ∈ keys) (named : first.1.Names key) (again : second.1.Names key) :
      Repeats keys inner (.object (before ++ first :: (between ++ second :: after)) true)
  /-- The value of a member gives a key twice. -/
  | member (before after : List Member) {text : Text} {key : String} {value : Value}
      (known : key ∈ keys) (named : text.Names key) (repeats : inner key value) :
      Repeats keys inner (.object (before ++ (text, value) :: after) true)
  /-- The value of a key in an array gives a key twice. -/
  | item (before after : List Value) {key : String} {value : Value}
      (placed : keys[before.length]? = some key) (repeats : inner key value) :
      Repeats keys inner (.array (before ++ value :: after) true)

/-- What may be null is read from its rewriting as before. -/
theorem Rewrites.optional {keys : List String} {inner : String → Value → Value → Prop}
    {value other : Value} (rewrites : Rewrites keys inner value other) {α : Type}
    {decoder : Decoder α} (same : ∀ result, decoder value = .ok result → decoder other = .ok result)
    {result : Option α} (accepted : Decoder.optional decoder value = .ok result) :
    Decoder.optional decoder other = .ok result := by
  -- Neither value is `null`, so that both are read as they are without the option.
  have given : some <$> decoder value = .ok result ∧
      Decoder.optional decoder other = some <$> decoder other := by
    cases rewrites <;> exact ⟨accepted, rfl⟩
  obtain ⟨given, unfolded⟩ := given
  rw [unfolded]
  cases read : decoder value with
  | error rejection =>
      rw [read] at given
      cases given
  | ok found =>
      rw [same found read]
      rwa [read] at given

/-- What may be null is not read where it gives a field twice. -/
theorem Repeats.optional {keys : List String} {inner : String → Value → Prop} {value : Value}
    (repeats : Repeats keys inner value) {α : Type} {decoder : Decoder α}
    (rejected : ∀ result, decoder value ≠ .ok result) (result : Option α) :
    Decoder.optional decoder value ≠ .ok result := by
  have unfolded : Decoder.optional decoder value = some <$> decoder value := by
    cases repeats <;> rfl
  rw [unfolded]
  cases read : decoder value with
  | error rejection => exact nofun
  | ok found => exact absurd read (rejected found)

/-! ### Labelled items -/

private theorem labelled_append {keys : List String} {before : List Value} {key : String}
    (placed : keys[before.length]? = some key) (value : Value) (after : List Value) :
    labelled keys (before ++ value :: after) =
      labelled (keys.take before.length) before ++
        (Text.ofString key, value) :: labelled (keys.drop (before.length + 1)) after := by
  induction before generalizing keys with
  | nil =>
      cases keys with
      | nil => cases placed
      | cons first rest =>
          cases placed
          rfl
  | cons item rest ih =>
      cases keys with
      | nil => cases placed
      | cons first keys => exact congrArg (_ :: ·) (ih placed)

private theorem exists_gives_of_mem_labelled {members : List Member} {keys : List String}
    {values : List Value} (gives : List.Forall₂ (Gives members) keys values) {member : Member}
    (given : member ∈ labelled keys values) :
    ∃ key ∈ keys, member.1.Names key ∧ Gives members key member.2 := by
  induction gives with
  | nil => cases given
  | @cons key value keys values first rest ih =>
      rcases List.mem_cons.mp given with rfl | given
      · exact ⟨key, List.mem_cons_self, Text.string?_ofString key, first⟩
      · obtain ⟨other, known, named, gives⟩ := ih given
        exact ⟨other, List.mem_cons_of_mem _ known, named, gives⟩

private theorem exists_mem_labelled_of_mem {members : List Member} {keys : List String}
    {values : List Value} (gives : List.Forall₂ (Gives members) keys values) {key : String}
    (known : key ∈ keys) :
    ∃ value, (Text.ofString key, value) ∈ labelled keys values ∧ Gives members key value := by
  induction gives with
  | nil => cases known
  | @cons first value keys values gives rest ih =>
      rcases List.mem_cons.mp known with rfl | known
      · exact ⟨value, List.mem_cons_self, gives⟩
      · obtain ⟨other, given, gives⟩ := ih known
        exact ⟨other, List.mem_cons_of_mem _ given, gives⟩

namespace Decoder

variable {δ α : Type} {fields : List (Field δ)} {members others : List Member}

/-- A member makes the change that its key and its value tell, however the key is spelled. -/
theorem change_congr {text other : Text} {key : String} (named : text.Names key)
    (also : other.Names key) (value : Value) :
    change fields (text, value) = change fields (other, value) := by
  simp only [change, (textString_eq_ok_iff text key).mpr named,
    (textString_eq_ok_iff other key).mpr also]

/-- The changes that labelled items make stand in the order of the labels. -/
private theorem map_fst_changes_labelled (keys : List String) (items : List Value) :
    ((changes fields (labelled keys items)).map Prod.fst).Sublist keys := by
  induction keys generalizing items with
  | nil => exact List.Sublist.refl []
  | cons key keys ih =>
      cases items with
      | nil => exact List.nil_sublist _
      | cons item items =>
          have later := (ih items).cons key
          change ((changes fields ((Text.ofString key, item) :: labelled keys items)).map
            Prod.fst).Sublist _
          cases made : change fields (Text.ofString key, item) with
          | error rejection =>
              have none : changes fields ((Text.ofString key, item) :: labelled keys items) =
                  changes fields (labelled keys items) := by
                simp [changes, made, Except.toOption]
              rwa [none]
          | ok given =>
              cases given with
              | none => rwa [changes_cons_of_none made]
              | some pair =>
                  obtain ⟨named, -⟩ := (change_eq_some_iff ..).mp made
                  have same : pair.1 = key :=
                    Option.some.inj (named.symm.trans (Text.string?_ofString key))
                  rw [changes_cons_of_some made, List.map_cons, same]
                  exact (ih items).cons_cons key

/-- A field that an accepted member names is read from the member. -/
theorem Accepts.read (accepts : Accepts fields members) (keys : (fields.map Field.key).Nodup)
    {field : Field δ} (known : field ∈ fields) {member : Member} (given : member ∈ members)
    (named : member.1.Names field.key) :
    ∃ store, field.read member.2 = .ok store ∧
      change fields member = .ok (some (field.key, store)) := by
  obtain ⟨made, reads⟩ := accepts.reads member given
  have makes := change_of_field keys known named member.2
  cases read : field.read member.2 with
  | error rejection =>
      rw [read] at makes
      rw [makes] at reads
      cases reads
  | ok store =>
      rw [read] at makes
      exact ⟨store, rfl, makes⟩

/-- Other members that make the same changes, in whatever order, are accepted as well. -/
theorem Accepts.of_perm (accepts : Accepts fields members)
    (reads : ∀ member ∈ others, ∃ made, change fields member = .ok made)
    (perm : (changes fields members).Perm (changes fields others)) : Accepts fields others :=
  ⟨reads, (perm.map Prod.fst).nodup_iff.mp accepts.once⟩

/-- A member may be replaced by one that makes the same change. -/
theorem Accepts.replace {before after : List Member} {member other : Member}
    (accepts : Accepts fields (before ++ member :: after))
    (same : ∀ made, change fields member = .ok made → change fields other = .ok made) :
    Accepts fields (before ++ other :: after) ∧
      changes fields (before ++ member :: after) = changes fields (before ++ other :: after) := by
  obtain ⟨made, reads⟩ := accepts.reads member (by simp)
  have equal : changes fields (before ++ member :: after) =
      changes fields (before ++ other :: after) := by
    simp only [changes, List.filterMap_append, List.filterMap_cons, reads, same made reads]
  refine ⟨accepts.of_perm (fun given position => ?_) (by rw [equal]), equal⟩
  rw [List.mem_append, List.mem_cons] at position
  rcases position with earlier | rfl | later
  · exact accepts.reads given (by simp [earlier])
  · exact ⟨made, same made reads⟩
  · exact accepts.reads given (by simp [later])

/-- A member that makes no change may be added. -/
theorem Accepts.insert {before after : List Member} {member : Member}
    (accepts : Accepts fields (before ++ after)) (made : change fields member = .ok none) :
    Accepts fields (before ++ member :: after) ∧
      changes fields (before ++ after) = changes fields (before ++ member :: after) := by
  have equal : changes fields (before ++ after) = changes fields (before ++ member :: after) := by
    simp only [changes, List.filterMap_append, List.filterMap_cons, made, Except.toOption,
      Option.join_some]
  refine ⟨accepts.of_perm (fun given position => ?_) (by rw [equal]), equal⟩
  rw [List.mem_append, List.mem_cons] at position
  rcases position with earlier | rfl | later
  · exact accepts.reads given (by simp [earlier])
  · exact ⟨none, made⟩
  · exact accepts.reads given (by simp [later])

/-- The values of all fields may be given in the order of the fields. -/
theorem Accepts.labelled (keys : (fields.map Field.key).Nodup) (accepts : Accepts fields members)
    {values : List Value} (gives : List.Forall₂ (Gives members) (fields.map Field.key) values) :
    Accepts fields (labelled (fields.map Field.key) values) ∧
      (changes fields members).Perm (changes fields (labelled (fields.map Field.key) values)) := by
  have reads : ∀ member ∈ Json.labelled (fields.map Field.key) values,
      ∃ made, change fields member = .ok made := by
    rintro ⟨text, value⟩ given
    obtain ⟨key, -, named, other, also, present⟩ := exists_gives_of_mem_labelled gives given
    rw [change_congr named also]
    exact accepts.reads _ present
  have acceptsLabelled : Accepts fields (Json.labelled (fields.map Field.key) values) :=
    ⟨reads, (map_fst_changes_labelled (fields.map Field.key) values).nodup keys⟩
  have sound : ∀ made ∈ changes fields (Json.labelled (fields.map Field.key) values),
      made ∈ changes fields members := by
    intro made given
    obtain ⟨⟨text, value⟩, position, makes⟩ := (mem_changes_iff made).mp given
    obtain ⟨key, -, named, other, also, present⟩ := exists_gives_of_mem_labelled gives position
    rw [change_congr named also] at makes
    exact (mem_changes_iff made).mpr ⟨_, present, makes⟩
  have perm : (changes fields members).Perm
      (changes fields (Json.labelled (fields.map Field.key) values)) := by
    refine (List.perm_ext_iff_of_nodup accepts.once.of_map acceptsLabelled.once.of_map).mpr
      fun made => ⟨fun given => ?_, sound made⟩
    -- The array gives the key as well, and what it changes there is the same.
    obtain ⟨member, position, makes⟩ := (mem_changes_iff made).mp given
    obtain ⟨-, field, found, -⟩ := (change_eq_some_iff ..).mp makes
    have fieldKey : field.key = made.1 := by simpa using List.find?_some found
    have known : field ∈ fields := List.mem_of_find?_eq_some found
    obtain ⟨value, placed, -⟩ :=
      exists_mem_labelled_of_mem gives (List.mem_map.mpr ⟨field, known, rfl⟩)
    obtain ⟨store, -, makesAgain⟩ :=
      acceptsLabelled.read keys known placed (names_ofString field.key)
    have listed := (mem_changes_iff _).mpr ⟨_, placed, makesAgain⟩
    rwa [← List.inj_on_of_nodup_map accepts.once (sound _ listed) given fieldKey]
  exact ⟨acceptsLabelled, perm⟩

/-- A rewriting of what is read as a record is read as the same record. -/
theorem record_rewrites (separable : Separable fields) {inner : String → Value → Value → Prop}
    (sound : ∀ field ∈ fields, ∀ ⦃value other : Value⦄ ⦃store : δ → δ⦄,
      inner field.key value other → field.read value = .ok store → field.read other = .ok store)
    {start : δ} {finish : δ → Option α} {value other : Value} {result : α}
    (rewrites : Rewrites (fields.map Field.key) inner value other)
    (accepted : record fields start finish value = .ok result) :
    record fields start finish other = .ok result := by
  obtain ⟨members, presents, accepts, finished⟩ :=
    (record_eq_ok_iff separable start finish value result).mp accepted
  suffices rearranged : ∃ others, other.members? (fields.map Field.key) = some others ∧
      Accepts fields others ∧ (changes fields members).Perm (changes fields others) by
    obtain ⟨others, presents, acceptsOthers, perm⟩ := rearranged
    refine (record_eq_ok_iff separable start finish other result).mpr
      ⟨others, presents, acceptsOthers, ?_⟩
    rw [← apply_perm separable (fun _ => isRead_of_mem_changes) accepts.once perm start]
    exact finished
  have replaced : ∀ ⦃text : Text⦄ ⦃key : String⦄ ⦃given rewritten : Value⦄, text.Names key →
      inner key given rewritten → ∀ made, change fields (text, given) = .ok made →
        change fields (text, rewritten) = .ok made := by
    intro text key given rewritten named rewrites made reads
    by_cases known : key ∈ fields.map Field.key
    · obtain ⟨field, member, rfl⟩ := List.mem_map.mp known
      rw [change_of_field separable.keys member named] at reads ⊢
      cases read : field.read given with
      | error rejection =>
          rw [read] at reads
          cases reads
      | ok store =>
          rw [sound field member rewrites read, ← read]
          exact reads
    · rwa [change_of_unknown named known] at reads ⊢
  cases rewrites with
  | @permute given others perm =>
      cases presents
      have permuted : (changes fields members).Perm (changes fields others) := perm.filterMap _
      have reads : ∀ member ∈ others, ∃ made, change fields member = .ok made :=
        fun member present => accepts.reads member (perm.mem_iff.mpr present)
      exact ⟨others, rfl, accepts.of_perm reads permuted, permuted⟩
  | insert before after named unknown value =>
      cases presents
      obtain ⟨acceptsOthers, same⟩ := accepts.insert (change_of_unknown named unknown value)
      exact ⟨_, rfl, acceptsOthers, by rw [same]⟩
  | @list given values gives =>
      cases presents
      obtain ⟨acceptsOthers, perm⟩ := accepts.labelled separable.keys gives
      have fits : values.length ≤ (fields.map Field.key).length := gives.length_eq.ge
      exact ⟨_, if_pos fits, acceptsOthers, perm⟩
  | member before after named rewrites =>
      cases presents
      obtain ⟨acceptsOthers, same⟩ := accepts.replace (replaced named rewrites)
      exact ⟨_, rfl, acceptsOthers, by rw [same]⟩
  | @item before after key value other placed rewrites =>
      have length : (before ++ other :: after).length = (before ++ value :: after).length := by
        simp
      simp only [Value.members?, length, Option.ite_none_right_eq_some, Option.some.injEq]
        at presents ⊢
      obtain ⟨fits, rfl⟩ := presents
      rw [labelled_append placed] at accepts
      obtain ⟨acceptsOthers, same⟩ :=
        accepts.replace (replaced (Text.string?_ofString key) rewrites)
      rw [← labelled_append placed] at acceptsOthers
      rw [← labelled_append placed, ← labelled_append placed] at same
      exact ⟨_, ⟨fits, rfl⟩, acceptsOthers, by rw [same]⟩

/-- What gives a key of a record twice is not read as the record. -/
theorem record_repeats (separable : Separable fields) {inner : String → Value → Prop}
    (sound : ∀ field ∈ fields, ∀ ⦃value : Value⦄ ⦃store : δ → δ⦄,
      inner field.key value → field.read value ≠ .ok store)
    {start : δ} {finish : δ → Option α} {value : Value}
    (repeats : Repeats (fields.map Field.key) inner value) (result : α) :
    record fields start finish value ≠ .ok result := by
  intro accepted
  obtain ⟨members, presents, accepts, -⟩ :=
    (record_eq_ok_iff separable start finish value result).mp accepted
  have rejected : ∀ ⦃text : Text⦄ ⦃key : String⦄ ⦃value : Value⦄,
      key ∈ fields.map Field.key → text.Names key → inner key value →
        (text, value) ∉ members := by
    intro text key value known named repeats present
    obtain ⟨field, member, rfl⟩ := List.mem_map.mp known
    obtain ⟨store, read, -⟩ := accepts.read separable.keys member present named
    exact sound field member repeats read
  cases repeats with
  | @twice before between after first second key known named again =>
      cases presents
      obtain ⟨field, member, rfl⟩ := List.mem_map.mp known
      obtain ⟨store, -, makes⟩ := accepts.read separable.keys member (by simp) named
      obtain ⟨next, -, makesAgain⟩ := accepts.read separable.keys member (by simp) again
      have once := accepts.once
      simp only [changes, List.filterMap_append, List.filterMap_cons, makes, makesAgain,
        Except.toOption, Option.join_some, List.map_append, List.map_cons] at once
      exact (List.nodup_cons.mp (List.nodup_append.mp once).2.1).1 (by simp)
  | member before after known named repeats =>
      cases presents
      exact rejected known named repeats (by simp)
  | @item before after key value placed repeats =>
      simp only [Value.members?, Option.ite_none_right_eq_some, Option.some.injEq] at presents
      obtain ⟨-, rfl⟩ := presents
      refine rejected (List.mem_of_getElem? placed) (Text.string?_ofString key) repeats ?_
      rw [labelled_append placed]
      simp

end Decoder

end VliwPack.Json
