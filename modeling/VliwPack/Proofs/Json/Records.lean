import Mathlib.Data.List.Forall2
import Mathlib.Data.List.Nodup
import Mathlib.Data.List.Pairwise
import Mathlib.Data.List.Perm.Basic
import VliwPack.Proofs.Json.Printing

/-! # Reading records

What a record is read as depends only on the changes that its members make, each to a field of
its own (`Decoder.fromMembers_eq_ok_iff`). An array counts as an object whose members are named by
the fields (`Decoder.record_eq_ok_iff`).
-/

namespace VliwPack.Json

/-- The text stands for the key. -/
def Text.Names (text : Text) (key : String) : Prop := text.string? = some key

namespace Decoder

section

variable {δ : Type} (fields : List (Field δ))

/-- What a member changes: a field, or nothing when its key names none. -/
def change (member : Member) : Except Rejection (Option (String × (δ → δ))) := do
  let key ← textString member.1
  match fields.find? (·.key = key) with
  | none => return none
  | some field => return some (key, ← field.read member.2)

/-- The changes that members make, one after another. -/
def changes (members : List Member) : List (String × (δ → δ)) :=
  members.filterMap fun member => (change fields member).toOption.join

/-- Makes changes. -/
def apply (changes : List (String × (δ → δ))) (draft : δ) : δ :=
  changes.foldl (fun draft change => change.2 draft) draft

/-- All members can be read, and no field is given twice. -/
structure Accepts (members : List Member) : Prop where
  reads : ∀ member ∈ members, ∃ made, change fields member = .ok made
  once : ((changes fields members).map Prod.fst).Nodup

end

variable {δ α : Type} {fields : List (Field δ)} {member : Member} {members others : List Member}

/-- A member with an unknown key makes no change. -/
theorem changes_cons_of_none (made : change fields member = .ok none) :
    changes fields (member :: members) = changes fields members := by
  simp [changes, made, Except.toOption]

/-- A member with a known key makes its change before the others. -/
theorem changes_cons_of_some {key : String} {store : δ → δ}
    (made : change fields member = .ok (some (key, store))) :
    changes fields (member :: members) = (key, store) :: changes fields members := by
  simp [changes, made, Except.toOption]

/-- The first change is made first. -/
theorem apply_cons (change : String × (δ → δ)) (rest : List (String × (δ → δ))) (draft : δ) :
    apply (change :: rest) draft = apply rest (change.2 draft) :=
  rfl

/-- Changes are made part by part. -/
theorem apply_append (first rest : List (String × (δ → δ))) (draft : δ) :
    apply (first ++ rest) draft = apply rest (apply first draft) :=
  List.foldl_append

private theorem accepts_cons_of_none (made : change fields member = .ok none) :
    Accepts fields (member :: members) ↔ Accepts fields members := by
  constructor
  · rintro ⟨reads, once⟩
    rw [changes_cons_of_none made] at once
    exact ⟨(List.forall_mem_cons.mp reads).2, once⟩
  · rintro ⟨reads, once⟩
    refine ⟨List.forall_mem_cons.mpr ⟨⟨_, made⟩, reads⟩, ?_⟩
    rwa [changes_cons_of_none made]

private theorem accepts_cons_of_some {key : String} {store : δ → δ}
    (made : change fields member = .ok (some (key, store))) :
    Accepts fields (member :: members) ↔
      key ∉ (changes fields members).map Prod.fst ∧ Accepts fields members := by
  constructor
  · rintro ⟨reads, once⟩
    rw [changes_cons_of_some made, List.map_cons, List.nodup_cons] at once
    exact ⟨once.1, (List.forall_mem_cons.mp reads).2, once.2⟩
  · rintro ⟨new, reads, once⟩
    refine ⟨List.forall_mem_cons.mpr ⟨⟨_, made⟩, reads⟩, ?_⟩
    rw [changes_cons_of_some made, List.map_cons, List.nodup_cons]
    exact ⟨new, once⟩

/-! ### Objects -/

/-- A member with an unknown key is passed over. -/
private theorem fromMembers_cons_of_none (made : change fields member = .ok none) (isClosed : Bool)
    (seen : List String) (sofar : δ) :
    fromMembers fields isClosed seen sofar (member :: members) =
      fromMembers fields isClosed seen sofar members := by
  obtain ⟨text, value⟩ := member
  rw [fromMembers]
  unfold change at made
  cases named : textString text with
  | error rejection => simp [named, bind, Except.bind] at made
  | ok key =>
      cases found : fields.find? (·.key = key) with
      | none => simp [found, bind, Except.bind]
      | some field =>
          cases read : field.read value with
          | error rejection => simp [named, found, read, bind, Except.bind] at made
          | ok store => simp [named, found, read, bind, Except.bind, pure, Except.pure] at made

/-- A member with a known key is stored, unless the key was seen before. -/
private theorem fromMembers_cons_of_some {key : String} {store : δ → δ}
    (made : change fields member = .ok (some (key, store))) (isClosed : Bool)
    (seen : List String) (sofar : δ) :
    fromMembers fields isClosed seen sofar (member :: members) =
      if key ∈ seen then .error .malformed
      else fromMembers fields isClosed (key :: seen) (store sofar) members := by
  obtain ⟨text, value⟩ := member
  rw [fromMembers]
  unfold change at made
  cases named : textString text with
  | error rejection => simp [named, bind, Except.bind] at made
  | ok name =>
      cases found : fields.find? (·.key = name) with
      | none => simp [named, found, bind, Except.bind, pure, Except.pure] at made
      | some field =>
          cases read : field.read value with
          | error rejection => simp [named, found, read, bind, Except.bind] at made
          | ok change =>
              simp only [named, found, read, bind, Except.bind, pure, Except.pure,
                Except.ok.injEq, Option.some.injEq, Prod.mk.injEq] at made
              obtain ⟨rfl, rfl⟩ := made
              simp [found, read, bind, Except.bind]

/-- A member that cannot be read ends the reading. -/
private theorem fromMembers_cons_of_error {rejection : Rejection}
    (made : change fields member = .error rejection) (isClosed : Bool)
    (seen : List String) (sofar result : δ) :
    fromMembers fields isClosed seen sofar (member :: members) ≠ .ok result := by
  obtain ⟨text, value⟩ := member
  rw [fromMembers]
  unfold change at made
  cases named : textString text with
  | error rejection => simp [bind, Except.bind]
  | ok name =>
      cases found : fields.find? (·.key = name) with
      | none => simp [named, found, bind, Except.bind, pure, Except.pure] at made
      | some field =>
          cases read : field.read value with
          | error rejection =>
              simp only [found, read, bind, Except.bind]
              split <;> exact nofun
          | ok change => simp [named, found, read, bind, Except.bind, pure, Except.pure] at made

/-- Members are read, when some fields were read before them, exactly if each can be read and
no field is given twice; then their changes are made. -/
theorem fromMembers_eq_ok_iff_of_seen (isClosed : Bool) (seen : List String)
    (sofar result : δ) :
    fromMembers fields isClosed seen sofar members = .ok result ↔
      isClosed = true ∧ Accepts fields members ∧
        (∀ key ∈ (changes fields members).map Prod.fst, key ∉ seen) ∧
          apply (changes fields members) sofar = result := by
  induction members generalizing seen sofar with
  | nil =>
      cases isClosed with
      | false => simp [fromMembers]
      | true =>
          have accepts : Accepts fields [] := ⟨by simp, by simp [changes]⟩
          simp [fromMembers, accepts, changes, apply]
  | cons member rest ih =>
      cases made : change fields member with
      | error rejection =>
          refine ⟨fun read => absurd read (fromMembers_cons_of_error made _ _ _ _), ?_⟩
          rintro ⟨-, accepts, -⟩
          obtain ⟨other, same⟩ := accepts.reads member List.mem_cons_self
          rw [made] at same
          cases same
      | ok given =>
          cases given with
          | none =>
              rw [fromMembers_cons_of_none made, ih, accepts_cons_of_none made,
                changes_cons_of_none made]
          | some pair =>
              obtain ⟨key, store⟩ := pair
              rw [fromMembers_cons_of_some made, accepts_cons_of_some made,
                changes_cons_of_some made, List.map_cons, List.forall_mem_cons, apply_cons]
              by_cases again : key ∈ seen
              · simp [again]
              · have apart : (∀ other ∈ (changes fields rest).map Prod.fst,
                      other ∉ key :: seen) ↔
                    key ∉ (changes fields rest).map Prod.fst ∧
                      ∀ other ∈ (changes fields rest).map Prod.fst, other ∉ seen := by
                  constructor
                  · intro apart
                    exact ⟨fun twice => apart key twice List.mem_cons_self,
                      fun other given earlier =>
                        apart other given (List.mem_cons_of_mem _ earlier)⟩
                  · rintro ⟨new, apart⟩ other given (_ | ⟨_, earlier⟩)
                    · exact new given
                    · exact apart other given earlier
                rw [if_neg again, ih, apart]
                tauto

/-- Members are read exactly if each can be read and no field is given twice; then their
changes are made. -/
theorem fromMembers_eq_ok_iff (isClosed : Bool) (start result : δ) :
    fromMembers fields isClosed [] start members = .ok result ↔
      isClosed = true ∧ Accepts fields members ∧ apply (changes fields members) start = result := by
  simp [fromMembers_eq_ok_iff_of_seen]

/-! ### Which changes a member makes -/

/-- A text is read as the string that it names. -/
theorem textString_eq_ok_iff (text : Text) (key : String) :
    textString text = .ok key ↔ text.Names key := by
  unfold textString Text.Names
  cases text.string? <;> simp

/-- A change is made by a field that has the member's key and reads its value. -/
theorem change_eq_some_iff (key : String) (store : δ → δ) :
    change fields member = .ok (some (key, store)) ↔
      member.1.Names key ∧
        ∃ field, fields.find? (·.key = key) = some field ∧ field.read member.2 = .ok store := by
  constructor
  · intro made
    unfold change at made
    cases named : textString member.1 with
    | error rejection => simp [named, bind, Except.bind] at made
    | ok name =>
        cases found : fields.find? (·.key = name) with
        | none => simp [named, found, bind, Except.bind, pure, Except.pure] at made
        | some field =>
            cases read : field.read member.2 with
            | error rejection => simp [named, found, read, bind, Except.bind] at made
            | ok stored =>
                simp only [named, found, read, bind, Except.bind, pure, Except.pure,
                  Except.ok.injEq, Option.some.injEq, Prod.mk.injEq] at made
                obtain ⟨rfl, rfl⟩ := made
                exact ⟨(textString_eq_ok_iff _ _).mp named, field, found, read⟩
  · rintro ⟨named, field, found, read⟩
    simp [change, (textString_eq_ok_iff _ _).mpr named, found, read, bind, Except.bind, pure,
      Except.pure]

/-- A member whose key no field has makes no change. -/
theorem change_of_unknown {text : Text} {key : String} (named : text.Names key)
    (unknown : key ∉ fields.map Field.key) (value : Value) :
    change fields (text, value) = .ok none := by
  have absent : fields.find? (·.key = key) = none := by
    rw [List.find?_eq_none]
    intro field given same
    exact unknown (List.mem_map.mpr ⟨field, given, of_decide_eq_true same⟩)
  simp [change, (textString_eq_ok_iff text key).mpr named, absent, bind, Except.bind, pure,
    Except.pure]

private theorem find?_key {field : Field δ} (keys : (fields.map Field.key).Nodup)
    (given : field ∈ fields) : fields.find? (·.key = field.key) = some field := by
  cases found : fields.find? (·.key = field.key) with
  | none => simpa using List.find?_eq_none.mp found field given
  | some other =>
      have same : other.key = field.key := by simpa using List.find?_some found
      rw [List.inj_on_of_nodup_map keys (List.mem_of_find?_eq_some found) given same]

/-- A member named by a field is read as that field. -/
theorem change_of_field {field : Field δ} {text : Text} (keys : (fields.map Field.key).Nodup)
    (given : field ∈ fields) (named : text.Names field.key) (value : Value) :
    change fields (text, value) = (fun store => some (field.key, store)) <$> field.read value := by
  have found := find?_key keys given
  cases read : field.read value <;>
    simp [change, (textString_eq_ok_iff _ _).mpr named, found, read, bind, Except.bind, pure,
      Except.pure, Functor.map, Except.map]

/-- The changes are those that the members make. -/
theorem mem_changes_iff (made : String × (δ → δ)) :
    made ∈ changes fields members ↔ ∃ member ∈ members, change fields member = .ok (some made) := by
  unfold changes
  rw [List.mem_filterMap]
  refine exists_congr fun member => and_congr_right fun _ => ?_
  cases change fields member <;> simp [Except.toOption]

/-! ### Changes to different fields -/

/-- The two fields can be changed in either order. -/
def Field.Commutes (left right : Field δ) : Prop :=
  ∀ ⦃value other : Value⦄ ⦃store next : δ → δ⦄, left.read value = .ok store →
    right.read other = .ok next → ∀ draft, store (next draft) = next (store draft)

instance : Std.Symm (Field.Commutes (δ := δ)) :=
  ⟨fun _ _ commutes _ _ _ _ read other draft => (commutes other read draft).symm⟩

/-- A field stores what its decoder reads. -/
theorem Field.of_read_eq_ok_iff {β : Type} (key : String) (decoder : Decoder β)
    (store : β → δ → δ) (value : Value) (made : δ → δ) :
    (Field.of key decoder store).read value = .ok made ↔
      ∃ read, decoder value = .ok read ∧ store read = made := by
  change store <$> decoder value = .ok made ↔ _
  cases decoder value <;> simp [Functor.map, Except.map]

/-- A field reads what its decoder reads alike. -/
theorem Field.of_read_congr {β : Type} {key : String} {decoder : Decoder β} {store : β → δ → δ}
    {value other : Value} {made : δ → δ}
    (same : ∀ read, decoder value = .ok read → decoder other = .ok read)
    (accepted : (Field.of key decoder store).read value = .ok made) :
    (Field.of key decoder store).read other = .ok made := by
  rw [of_read_eq_ok_iff] at accepted ⊢
  obtain ⟨read, reads, makes⟩ := accepted
  exact ⟨read, same read reads, makes⟩

/-- A field does not read what its decoder rejects. -/
theorem Field.of_read_ne_ok {β : Type} {key : String} {decoder : Decoder β} {store : β → δ → δ}
    {value : Value} (rejected : ∀ read, decoder value ≠ .ok read) (made : δ → δ) :
    (Field.of key decoder store).read value ≠ .ok made := by
  rw [Ne, of_read_eq_ok_iff]
  rintro ⟨read, reads, -⟩
  exact rejected read reads

/-- Fields commute if what they store does. -/
@[simp]
theorem Field.Commutes.of {β γ : Type} (key name : String) (decoder : Decoder β)
    (other : Decoder γ) {store : β → δ → δ} {next : γ → δ → δ}
    (commutes : ∀ b c draft, store b (next c draft) = next c (store b draft)) :
    (Field.of key decoder store).Commutes (Field.of name other next) := by
  intro value otherValue made makes read reads draft
  obtain ⟨b, -, rfl⟩ := (Field.of_read_eq_ok_iff ..).mp read
  obtain ⟨c, -, rfl⟩ := (Field.of_read_eq_ok_iff ..).mp reads
  exact commutes b c draft

/-- Each field has a key of its own, and the fields can be changed in any order. -/
structure Separable (fields : List (Field δ)) : Prop where
  keys : (fields.map Field.key).Nodup
  commute : fields.Pairwise Field.Commutes

/-- The change is one that reading a field makes. -/
def IsRead (fields : List (Field δ)) (made : String × (δ → δ)) : Prop :=
  ∃ field ∈ fields, field.key = made.1 ∧ ∃ value, field.read value = .ok made.2

/-- A change is read by the field that it is made for. -/
theorem isRead_of_mem_changes {made : String × (δ → δ)} (given : made ∈ changes fields members) :
    IsRead fields made := by
  obtain ⟨member, -, makes⟩ := (mem_changes_iff _).mp given
  obtain ⟨-, field, found, read⟩ := (change_eq_some_iff ..).mp makes
  exact ⟨field, List.mem_of_find?_eq_some found, by simpa using List.find?_some found,
    member.2, read⟩

/-- The order in which fields are changed does not matter. -/
theorem apply_perm (separable : Separable fields) {left right : List (String × (δ → δ))}
    (read : ∀ made ∈ left, IsRead fields made) (once : (left.map Prod.fst).Nodup)
    (perm : left.Perm right) (start : δ) : apply left start = apply right start := by
  refine perm.foldl_eq' ?_ start
  intro first givenFirst second givenSecond draft
  by_cases same : first.1 = second.1
  · rw [List.inj_on_of_nodup_map once givenFirst givenSecond same]
  · obtain ⟨field, known, key, value, reads⟩ := read first givenFirst
    obtain ⟨other, otherKnown, otherKey, otherValue, otherReads⟩ := read second givenSecond
    have apart : other ≠ field := by
      rintro rfl
      exact same (key.symm.trans otherKey)
    exact separable.commute.forall otherKnown known apart otherReads reads draft

/-! ### Arrays -/

end Decoder

/-- The items of an array as members named by the keys. -/
def labelled (keys : List String) (items : List Value) : List Member :=
  List.zipWith (fun key item => (Text.ofString key, item)) keys items

/-- The members that a value gives a record with these keys. -/
def Value.members? (keys : List String) : Value → Option (List Member)
  | .object members true => some members
  | .array items true => if items.length ≤ keys.length then some (labelled keys items) else none
  | _ => none

namespace Decoder

variable {δ α : Type} {fields : List (Field δ)}

/-- The text of a key names it. -/
theorem names_ofString (key : String) : (Text.ofString key).Names key := Text.string?_ofString key

/-- Items are read as the members that the remaining fields label them with. -/
private theorem fromItems_eq_ok_iff (keys : (fields.map Field.key).Nodup) {rest : List (Field δ)}
    (known : ∀ field ∈ rest, field ∈ fields) (apart : (rest.map Field.key).Nodup)
    {seen : List String} (new : ∀ field ∈ rest, field.key ∉ seen) (isClosed : Bool)
    (items : List Value) (sofar result : δ) :
    fromItems isClosed sofar rest items = .ok result ↔
      items.length ≤ rest.length ∧
        fromMembers fields isClosed seen sofar (labelled (rest.map Field.key) items) =
          .ok result := by
  induction items generalizing rest seen sofar with
  | nil => simp [fromItems, labelled, fromMembers]
  | cons item items ih =>
      cases rest with
      | nil => simp [fromItems]
      | cons field rest =>
          obtain ⟨fieldKnown, known⟩ := List.forall_mem_cons.mp known
          obtain ⟨fieldNew, new⟩ := List.forall_mem_cons.mp new
          rw [List.map_cons, List.nodup_cons] at apart
          obtain ⟨single, apart⟩ := apart
          have makes := change_of_field keys fieldKnown (names_ofString field.key) item
          have later : ∀ other ∈ rest, other.key ∉ field.key :: seen := by
            intro other given earlier
            rcases List.mem_cons.mp earlier with same | earlier
            · exact single (List.mem_map.mpr ⟨other, given, same⟩)
            · exact new other given earlier
          change fromItems isClosed sofar (field :: rest) (item :: items) = _ ↔
            items.length + 1 ≤ rest.length + 1 ∧ fromMembers fields isClosed seen sofar
              ((Text.ofString field.key, item) :: labelled (rest.map Field.key) items) = _
          rw [Nat.add_le_add_iff_right]
          cases read : field.read item with
          | error rejection =>
              rw [read] at makes
              simp [fromItems, read, bind, Except.bind, fromMembers_cons_of_error makes]
          | ok store =>
              rw [read] at makes
              rw [fromMembers_cons_of_some makes, if_neg fieldNew,
                ← ih known apart later]
              simp [fromItems, read, bind, Except.bind]

/-- What the fields that a value gives make of a start. -/
def filled (fields : List (Field δ)) (start : δ) : Decoder δ
  | .object members isClosed => fromMembers fields isClosed [] start members
  | .array items isClosed => fromItems isClosed start fields items
  | _ => .error .malformed

/-- A record is read if its fields are and what they fill can be finished. -/
theorem record_eq_ok_iff_filled (start : δ) (finish : δ → Option α) (value : Value) (result : α) :
    record fields start finish value = .ok result ↔
      ∃ draft, filled fields start value = .ok draft ∧ finish draft = some result := by
  have finishes : record fields start finish value =
      (filled fields start value).bind fun draft =>
        (finish draft).elim (.error .malformed) .ok := by
    cases value with
    | object | array =>
        refine congrArg (Except.bind _) (funext fun draft => ?_)
        beta_reduce
        cases finish draft <;> rfl
    | _ => rfl
  rw [finishes]
  cases filled fields start value with
  | error rejection => simp [Except.bind]
  | ok draft => cases finished : finish draft <;> simp [Except.bind, finished]

/-- A record is read from the members that its value gives it. -/
theorem record_eq_ok_iff (separable : Separable fields) (start : δ) (finish : δ → Option α)
    (value : Value) (result : α) :
    record fields start finish value = .ok result ↔
      ∃ members, value.members? (fields.map Field.key) = some members ∧ Accepts fields members ∧
        finish (apply (changes fields members) start) = some result := by
  rw [record_eq_ok_iff_filled]
  cases value with
  | object members isClosed =>
      cases isClosed <;> simp [filled, Value.members?, fromMembers_eq_ok_iff, and_assoc]
  | array items isClosed =>
      have items_iff : ∀ draft, fromItems isClosed start fields items = .ok draft ↔
          items.length ≤ fields.length ∧
            fromMembers fields isClosed [] start (labelled (fields.map Field.key) items) =
              .ok draft :=
        fun draft => fromItems_eq_ok_iff separable.keys (fun _ given => given) separable.keys
          (fun _ _ => List.not_mem_nil) isClosed items start draft
      by_cases fits : items.length ≤ fields.length
      · cases isClosed <;>
          simp [filled, Value.members?, items_iff, fits, fromMembers_eq_ok_iff, and_assoc]
      · cases isClosed <;> simp [filled, Value.members?, items_iff, fits]
  | _ => simp [filled, Value.members?]

/-! ### Tagged values -/

/-- A tagged value is read as its tag tells. -/
theorem tagged_single {variants : List (String × Decoder α)} {text : Text} {key : String}
    {decoder : Decoder α} (named : text.Names key) (found : variants.lookup key = some decoder)
    (inner : Value) : tagged variants (.object [(text, inner)] true) = decoder inner := by
  simp only [tagged, (textString_eq_ok_iff text key).mpr named, found, bind, Except.bind]
  cases decoder inner <;> rfl

/-! ### Lists -/

/-- The items of a list are read one after another. -/
theorem listItems_cons_eq_ok_iff (item : Decoder α) (isClosed : Bool) (value : Value)
    (rest : List Value) (results : List α) :
    listItems item isClosed (value :: rest) = .ok results ↔
      ∃ first others, item value = .ok first ∧ listItems item isClosed rest = .ok others ∧
        results = first :: others := by
  rw [listItems]
  cases item value with
  | error rejection => simp [bind, Except.bind]
  | ok first =>
      cases listItems item isClosed rest with
      | error rejection => simp [bind, Except.bind]
      | ok others => simp [bind, Except.bind, pure, Except.pure, eq_comm]

/-- The items of a list are read one by one. -/
theorem list_eq_ok_iff (item : Decoder α) (items : List Value) (results : List α) :
    list item (.array items true) = .ok results ↔
      List.Forall₂ (fun value result => item value = .ok result) items results := by
  change listItems item true items = .ok results ↔ _
  induction items generalizing results with
  | nil => simp [listItems, eq_comm]
  | cons value rest ih =>
      rw [listItems_cons_eq_ok_iff, List.forall₂_cons_left_iff]
      simp only [ih]

/-- The items of a list that is read are read. -/
theorem exists_of_list {item : Decoder α} {items : List Value} {results : List α}
    (accepted : list item (.array items true) = .ok results) {value : Value}
    (given : value ∈ items) : ∃ result, item value = .ok result := by
  rw [list_eq_ok_iff] at accepted
  induction accepted with
  | nil => cases given
  | cons read rest ih =>
      rcases List.mem_cons.mp given with rfl | given
      · exact ⟨_, read⟩
      · exact ih given

/-- An item may be replaced by one that is read as the same. -/
theorem list_replace {item : Decoder α} {value other : Value}
    (same : ∀ result, item value = .ok result → item other = .ok result)
    (before after : List Value) {results : List α}
    (accepted : list item (.array (before ++ value :: after) true) = .ok results) :
    list item (.array (before ++ other :: after) true) = .ok results := by
  rw [list_eq_ok_iff] at accepted ⊢
  induction before generalizing results with
  | nil =>
      obtain ⟨first, others, read, rest, rfl⟩ := List.forall₂_cons_left_iff.mp accepted
      exact .cons (same first read) rest
  | cons first before ih =>
      obtain ⟨found, others, read, rest, rfl⟩ := List.forall₂_cons_left_iff.mp accepted
      exact .cons read (ih rest)

end Decoder

end VliwPack.Json
