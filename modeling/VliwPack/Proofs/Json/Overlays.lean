import VliwPack.Proofs.Json.Records

/-! # Reading what an object offers

A record every field of which may be missing is read from an object in any order and among any
other members. Reading it makes the changes of the fields that are given (`Decoder.Fills`), as if
they stood in the order of the fields (`Decoder.overlay_of_offers`).
-/

namespace VliwPack.Json

/-- The values that members give a key, in order. -/
def valuesOf (key : String) (members : List Member) : List Value :=
  members.filterMap fun member => if member.1.string? = some key then some member.2 else none

/-- The value is an object that gives each of these keys once the value beside it, or not at all
where there is none. What other keys it has does not matter, as long as they are strings. -/
def Value.Offers (offers : List (String × Option Value)) (value : Value) : Prop :=
  ∃ members, value = .object members true ∧ (∀ member ∈ members, ∃ key, member.1.Names key) ∧
    ∀ offer ∈ offers, valuesOf offer.1 members = offer.2.toList

private theorem mem_valuesOf {member : Member} {members : List Member} {key : String}
    (given : member ∈ members) (named : member.1.Names key) : member.2 ∈ valuesOf key members :=
  List.mem_filterMap.mpr ⟨member, given, if_pos named⟩

/-- A record offers what its members with these keys are. -/
theorem Value.offers_record {offers : List (String × Option Value)}
    {members : List (String × Value)}
    (offered : ∀ offer ∈ offers, (members.filterMap fun member =>
      if member.1 = offer.1 then some member.2 else none) = offer.2.toList) :
    (Value.record members).Offers offers := by
  refine ⟨_, rfl, ?_, fun offer among => ?_⟩
  · intro member given
    obtain ⟨source, -, rfl⟩ := List.mem_map.mp given
    exact ⟨source.1, Text.string?_ofString source.1⟩
  · rw [← offered offer among, valuesOf, List.filterMap_map]
    refine List.filterMap_congr fun member _ => ?_
    simp [Text.string?_ofString]

namespace Decoder

variable {δ : Type} {fields all : List (Field δ)} {offers : List (String × Option Value)}
  {made : List (String × (δ → δ))} {members : List Member}

/-- Reading what is offered of these fields makes these changes. -/
inductive Fills :
    List (Field δ) → List (String × Option Value) → List (String × (δ → δ)) → Prop
  | nil : Fills [] [] []
  | missing {field : Field δ} {fields : List (Field δ)} {offers : List (String × Option Value)}
      {made : List (String × (δ → δ))} (rest : Fills fields offers made) :
      Fills (field :: fields) ((field.key, none) :: offers) made
  | given {field : Field δ} {fields : List (Field δ)} {offers : List (String × Option Value)}
      {made : List (String × (δ → δ))} {value : Value} {store : δ → δ}
      (reads : field.read value = .ok store) (rest : Fills fields offers made) :
      Fills (field :: fields) ((field.key, some value) :: offers) ((field.key, store) :: made)

/-- A field whose value, if it is offered, is read as this content. -/
theorem Fills.of {β : Type} {key : String} {decoder : Decoder β} {store : β → δ → δ}
    {offered : Option Value} (content : β)
    (reads : ∀ value, offered = some value → decoder value = .ok content)
    (rest : Fills fields offers made) :
    Fills (.of key decoder store :: fields) ((key, offered) :: offers)
      (offered.toList.map (fun _ => (key, store content)) ++ made) := by
  cases offered with
  | none => exact .missing rest
  | some value =>
      exact .given ((Field.of_read_eq_ok_iff ..).mpr ⟨content, reads value rfl, rfl⟩) rest

/-- A change that does nothing where it is not offered may be made in any case. -/
theorem apply_offered {offered : Option Value} {change : String × (δ → δ)} {draft : δ}
    (idle : offered = none → change.2 draft = draft) (rest : List (String × (δ → δ))) :
    apply (offered.toList.map (fun _ => change) ++ rest) draft = apply rest (change.2 draft) := by
  cases offered with
  | none => rw [idle rfl]; rfl
  | some value => rfl

/-- The changes that members make to a field are those of the values they give its key. -/
theorem filter_key_changes {field : Field δ} (keys : (all.map Field.key).Nodup)
    (known : field ∈ all) (members : List Member) :
    (changes all members).filter (·.1 = field.key) =
      (valuesOf field.key members).filterMap fun value =>
        (field.read value).toOption.map (field.key, ·) := by
  rw [changes, valuesOf, List.filter_filterMap, List.filterMap_filterMap]
  refine List.filterMap_congr fun member _ => ?_
  by_cases named : member.1.string? = some field.key
  · obtain ⟨text, value⟩ := member
    rw [if_pos named, change_of_field keys known named]
    cases read : field.read value <;> simp [Functor.map, Except.map, Except.toOption, read]
  · rw [if_neg named]
    cases makes : change all member with
    | error rejection => rfl
    | ok given =>
        cases given with
        | none => rfl
        | some change =>
            obtain ⟨own, -⟩ := (change_eq_some_iff ..).mp makes
            have other : change.1 ≠ field.key := fun same => named (same ▸ own)
            simp [Except.toOption, Option.filter, other]

private theorem Fills.map_fst_sublist (fills : Fills fields offers made) :
    (made.map Prod.fst).Sublist (fields.map Field.key) := by
  induction fills with
  | nil => exact .slnil
  | missing rest ih => exact ih.cons _
  | given reads rest ih => exact ih.cons_cons _

/-- What is offered of a field can be read. -/
theorem Fills.exists_offer (fills : Fills fields offers made) :
    ∀ field ∈ fields, ∃ offered, (field.key, offered) ∈ offers ∧
      ∀ value, offered = some value → ∃ store, field.read value = .ok store := by
  induction fills with
  | nil => exact nofun
  | missing rest ih =>
      refine List.forall_mem_cons.mpr ⟨⟨none, List.mem_cons_self, nofun⟩, fun field known => ?_⟩
      obtain ⟨offered, among, readable⟩ := ih field known
      exact ⟨offered, List.mem_cons_of_mem _ among, readable⟩
  | @given next _ _ _ given store reads rest ih =>
      have readable (value : Value) (same : some given = some value) :
          ∃ store, next.read value = .ok store := ⟨store, Option.some.inj same ▸ reads⟩
      refine List.forall_mem_cons.mpr
        ⟨⟨some given, List.mem_cons_self, readable⟩, fun field known => ?_⟩
      obtain ⟨offered, among, readable⟩ := ih field known
      exact ⟨offered, List.mem_cons_of_mem _ among, readable⟩

/-- The changes of one key may be made before those of others. -/
theorem filter_keys_cons_perm {key : String} {keys : List String} (new : key ∉ keys)
    (made : List (String × (δ → δ))) :
    (made.filter (·.1 ∈ key :: keys)).Perm
      (made.filter (·.1 = key) ++ made.filter (·.1 ∈ keys)) := by
  refine (List.filter_append_perm (·.1 = key) _).symm.trans (.of_eq ?_)
  rw [List.filter_filter, List.filter_filter]
  congr 1 <;> refine List.filter_congr fun change _ => ?_
  · by_cases same : change.1 = key <;> simp [same]
  · by_cases same : change.1 = key <;> simp [same, new]

/-- Whatever their order, the changes that members make to the fields are those of what is
offered. -/
theorem Fills.perm_filter_changes (fills : Fills fields offers made)
    (keys : (all.map Field.key).Nodup) (known : ∀ field ∈ fields, field ∈ all)
    (apart : (fields.map Field.key).Nodup)
    (offered : ∀ offer ∈ offers, valuesOf offer.1 members = offer.2.toList) :
    ((changes all members).filter (·.1 ∈ fields.map Field.key)).Perm made := by
  induction fills with
  | nil => simp
  | @missing field fields offers made rest ih =>
      obtain ⟨fieldKnown, known⟩ := List.forall_mem_cons.mp known
      obtain ⟨absent, offered⟩ := List.forall_mem_cons.mp offered
      obtain ⟨new, apart⟩ := List.nodup_cons.mp apart
      refine (filter_keys_cons_perm new _).trans ?_
      rw [filter_key_changes keys fieldKnown, absent]
      exact ih known apart offered
  | @given field fields offers made value store reads rest ih =>
      obtain ⟨fieldKnown, known⟩ := List.forall_mem_cons.mp known
      obtain ⟨present, offered⟩ := List.forall_mem_cons.mp offered
      obtain ⟨new, apart⟩ := List.nodup_cons.mp apart
      refine (filter_keys_cons_perm new _).trans ?_
      rw [filter_key_changes keys fieldKnown, present]
      simp only [Option.toList_some, List.filterMap_cons, reads, Except.toOption]
      exact (ih known apart offered).cons _

/-- An object is read by making the changes of what it offers, in the order of the fields. -/
theorem overlay_of_offers (separable : Separable fields) (fills : Fills fields offers made)
    {value : Value} (gives : value.Offers offers) {start result : δ}
    (filled : apply made start = result) : overlay fields start value = .ok result := by
  obtain ⟨members, rfl, named, offered⟩ := gives
  have reads : ∀ member ∈ members, ∃ made, change fields member = .ok made := by
    rintro ⟨text, value⟩ given
    obtain ⟨key, names⟩ := named _ given
    by_cases known : key ∈ fields.map Field.key
    · obtain ⟨field, member, rfl⟩ := List.mem_map.mp known
      obtain ⟨content, among, readable⟩ := fills.exists_offer field member
      have value_mem := mem_valuesOf given names
      rw [offered _ among, Option.mem_toList] at value_mem
      obtain ⟨store, read⟩ := readable value value_mem
      rw [change_of_field separable.keys member names, read]
      exact ⟨_, rfl⟩
    · exact ⟨none, change_of_unknown names known value⟩
  have perm : (changes fields members).Perm made := by
    have all := fills.perm_filter_changes separable.keys (fun _ known => known) separable.keys
      offered
    rwa [List.filter_eq_self.mpr] at all
    intro change given
    obtain ⟨field, known, key, -⟩ := isRead_of_mem_changes given
    simpa [← key] using ⟨field, known, rfl⟩
  have once : ((changes fields members).map Prod.fst).Nodup :=
    (perm.map Prod.fst).nodup_iff.mpr (fills.map_fst_sublist.nodup separable.keys)
  refine (record_eq_ok_iff separable ..).mpr ⟨members, rfl, ⟨reads, once⟩, ?_⟩
  rw [apply_perm separable (fun _ => isRead_of_mem_changes) once perm start, filled]

end Decoder

end VliwPack.Json
