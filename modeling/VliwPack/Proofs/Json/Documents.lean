import VliwPack.Json.Decoder
import VliwPack.Proofs.Json.Scanning

/-! # Reading documents

A text is read as a whole document exactly if it is a JSON text, and what is read is the value
that it spells (`Document.ofString_eq_iff`). So a text is accepted exactly if the value that it
spells is (`decodeString_eq_ok_iff`).
-/

namespace VliwPack.Json

namespace Value

/-! ### The tokens of a value -/

/-- The tokens of a member of an object. -/
def entryTokens (member : Member) : List Token := .text member.1 :: .colon :: member.2.tokens

/-- A comma stands between two items. -/
theorem itemTokens_cons_cons (item next : Value) (rest : List Value) :
    itemTokens (item :: next :: rest) = item.tokens ++ .comma :: itemTokens (next :: rest) :=
  itemTokens.eq_3 item (next :: rest) (by simp)

/-- A comma stands between two members. -/
theorem memberTokens_cons_cons (member next : Member) (rest : List Member) :
    memberTokens (member :: next :: rest) =
      entryTokens member ++ .comma :: memberTokens (next :: rest) :=
  memberTokens.eq_3 member.1 member.2 (next :: rest) (by simp)

private theorem memberTokens_singleton (member : Member) :
    memberTokens [member] = entryTokens member ++ [.closeBrace] :=
  rfl

private theorem itemTokens_append_singleton (before : List Value) (item : Value) :
    itemTokens (before ++ [item]) =
      before.flatMap (fun value => value.tokens ++ [.comma]) ++ item.tokens ++ [.closeBracket] := by
  induction before with
  | nil => rfl
  | cons first rest ih =>
      have more : itemTokens (first :: (rest ++ [item])) =
          first.tokens ++ .comma :: itemTokens (rest ++ [item]) := by
        cases rest <;> exact itemTokens_cons_cons ..
      rw [List.cons_append, more, ih]
      simp

private theorem memberTokens_append_singleton (before : List Member) (member : Member) :
    memberTokens (before ++ [member]) =
      before.flatMap (fun member => entryTokens member ++ [.comma]) ++ entryTokens member ++
        [.closeBrace] := by
  induction before with
  | nil => rfl
  | cons first rest ih =>
      have more : memberTokens (first :: (rest ++ [member])) =
          entryTokens first ++ .comma :: memberTokens (rest ++ [member]) := by
        cases rest <;> exact memberTokens_cons_cons ..
      rw [List.cons_append, more, ih]
      simp

/-- The tokens of a whole value start with one that a value can start with. -/
theorem Whole.head_tokens {value : Value} (whole : value.Whole) :
    ∃ first rest, value.tokens = first :: rest ∧ first ≠ .closeBracket := by
  cases whole <;> exact ⟨_, _, rfl, by simp⟩

private theorem head_itemTokens {item : Value} (whole : item.Whole) (rest : List Value) :
    ∃ first others, itemTokens (item :: rest) = first :: others ∧ first ≠ .closeBracket := by
  obtain ⟨first, others, same, opens⟩ := whole.head_tokens
  cases rest with
  | nil => exact ⟨first, others ++ [.closeBracket], by rw [itemTokens, same]; rfl, opens⟩
  | cons next rest =>
      rw [itemTokens_cons_cons, same]
      exact ⟨first, _, rfl, opens⟩

end Value

/-- None of the tokens is invalid, and no two bare words stand side by side. -/
structure Readable (tokens : List Token) : Prop where
  valid : .invalid ∉ tokens
  separate : tokens.IsChain Separate

namespace Readable

variable {token : Token} {left right : List Token}

private theorem singleton (valid : token ≠ .invalid) : Readable [token] :=
  ⟨by simpa using valid.symm, .singleton token⟩

private theorem cons (valid : token ≠ .invalid) (full : token.isBare = false)
    (rest : Readable right) :
    Readable (token :: right) := by
  refine ⟨by simpa using ⟨valid.symm, rest.valid⟩, List.isChain_cons.mpr ⟨?_, rest.separate⟩⟩
  intro next _ ⟨bare, _⟩
  rw [full] at bare
  cases bare

private theorem join (before : Readable left) (full : token.isBare = false)
    (rest : Readable (token :: right)) : Readable (left ++ token :: right) := by
  refine ⟨by simpa using ⟨before.valid, by simpa using rest.valid⟩,
    List.isChain_append.mpr ⟨before.separate, rest.separate, ?_⟩⟩
  rintro last _ next ⟨⟩ ⟨_, bare⟩
  rw [full] at bare
  cases bare

end Readable

namespace Value

private theorem readable_itemTokens (items : List Value)
    (inner : ∀ item ∈ items, Readable item.tokens) :
    Readable (itemTokens items) := by
  induction items with
  | nil => exact .singleton (by simp)
  | cons item rest ih =>
      obtain ⟨first, others⟩ := List.forall_mem_cons.mp inner
      cases rest with
      | nil => exact first.join rfl (.singleton (by simp))
      | cons next rest =>
          rw [itemTokens_cons_cons]
          exact first.join rfl (.cons (by simp) rfl (ih others))

private theorem readable_memberTokens (members : List Member)
    (inner : ∀ member ∈ members, Readable member.2.tokens) : Readable (memberTokens members) := by
  induction members with
  | nil => exact .singleton (by simp)
  | cons member rest ih =>
      obtain ⟨first, others⟩ := List.forall_mem_cons.mp inner
      have entry : Readable (entryTokens member) := .cons (by simp) rfl (.cons (by simp) rfl first)
      cases rest with
      | nil => exact entry.join rfl (.singleton (by simp))
      | cons next rest =>
          rw [memberTokens_cons_cons]
          exact entry.join rfl (.cons (by simp) rfl (ih others))

/-- The tokens of a whole value can be told apart. -/
theorem Whole.readable {value : Value} (whole : value.Whole) : Readable value.tokens := by
  induction whole with
  | array inner ih => exact .cons (by simp) rfl (readable_itemTokens _ ih)
  | object inner ih => exact .cons (by simp) rfl (readable_memberTokens _ ih)
  | _ => exact .singleton (by simp)

end Value

/-! ### A value's tokens are read as the value -/

namespace Reader

open Value (itemTokens memberTokens entryTokens)

/-- The value can be read wherever one is expected. -/
def Takes (value : Value) : Prop :=
  ∀ outer, value.tokens.foldl step (.atValue outer) = .afterValue value outer

/-- The first item of an array is read like any other. -/
theorem foldl_atItem {first : Token} (opens : first ≠ .closeBracket) (rest : List Token)
    (outer : List Container) :
    (first :: rest).foldl step (.atItem outer) =
      (first :: rest).foldl step (.atValue (.array [] :: outer)) := by
  have begins : step (.atItem outer) first = step (.atValue (.array [] :: outer)) first := by
    cases first <;> first | rfl | exact absurd rfl opens
  rw [List.foldl_cons, begins, List.foldl_cons]

/-- Items are read one after another, up to the bracket that closes them. -/
theorem foldl_itemTokens (item : Value) (rest : List Value)
    (takes : ∀ value ∈ item :: rest, Takes value) (before : List Value) (outer : List Container) :
    (itemTokens (item :: rest)).foldl step (.atValue (.array before :: outer)) =
      .afterValue (.array (before.reverse ++ item :: rest) true) outer := by
  induction rest generalizing item before with
  | nil =>
      have tokens : itemTokens [item] = item.tokens ++ [.closeBracket] := rfl
      rw [tokens, List.foldl_append, takes item List.mem_cons_self]
      simp [step]
  | cons next rest ih =>
      obtain ⟨takesFirst, takesRest⟩ := List.forall_mem_cons.mp takes
      have comma : step (.afterValue item (.array before :: outer)) .comma =
          .atValue (.array (item :: before) :: outer) := rfl
      rw [Value.itemTokens_cons_cons, List.foldl_append, takesFirst, List.foldl_cons, comma,
        ih next takesRest, List.reverse_cons, List.append_assoc, List.singleton_append]

private theorem foldl_entryTokens {member : Member} (takes : Takes member.2) (before : List Member)
    (outer : List Container) :
    (entryTokens member).foldl step (.atKey before outer) =
      .afterValue member.2 (.object before member.1 :: outer) :=
  takes (.object before member.1 :: outer)

/-- Members are read one after another, up to the brace that closes them. -/
theorem foldl_memberTokens (member : Member) (rest : List Member)
    (takes : ∀ entry ∈ member :: rest, Takes entry.2) (before : List Member)
    (outer : List Container) :
    (memberTokens (member :: rest)).foldl step (.atKey before outer) =
      .afterValue (.object (before.reverse ++ member :: rest) true) outer := by
  induction rest generalizing member before with
  | nil =>
      rw [Value.memberTokens_singleton, List.foldl_append,
        foldl_entryTokens (takes member List.mem_cons_self)]
      simp [step]
  | cons next rest ih =>
      obtain ⟨takesFirst, takesRest⟩ := List.forall_mem_cons.mp takes
      have comma : step (.afterValue member.2 (.object before member.1 :: outer)) .comma =
          .atKey (member :: before) outer := rfl
      rw [Value.memberTokens_cons_cons, List.foldl_append, foldl_entryTokens takesFirst,
        List.foldl_cons, comma, ih next takesRest, List.reverse_cons, List.append_assoc,
        List.singleton_append]

/-- A whole value is read from its tokens wherever it stands. -/
theorem takes_of_whole {value : Value} (whole : value.Whole) : Takes value := by
  induction whole with
  | null | boolean | number | text => exact fun _ => rfl
  | @array items inner ih =>
      intro outer
      change (itemTokens items).foldl step (.atItem outer) = _
      cases items with
      | nil => rfl
      | cons item rest =>
          obtain ⟨first, others, same, opens⟩ :=
            Value.head_itemTokens (inner item List.mem_cons_self) rest
          rw [same, foldl_atItem opens, ← same]
          exact foldl_itemTokens item rest ih [] outer
  | @object members inner ih =>
      intro outer
      change (memberTokens members).foldl step (.atKey [] outer) = _
      cases members with
      | nil => rfl
      | cons member rest => exact foldl_memberTokens member rest ih [] outer

end Reader

/-! ### What is read as a value are its tokens -/

/-- The tokens of the open containers, up to the place of the value that is read next. -/
def Container.opening : List Container → List Token
  | [] => []
  | .array items :: outer =>
      opening outer ++ .openBracket :: items.reverse.flatMap fun item => item.tokens ++ [.comma]
  | .object members key :: outer =>
      opening outer ++ .openBrace ::
        members.reverse.flatMap (fun member => Value.entryTokens member ++ [.comma]) ++
          [.text key, .colon]

/-- The values in the container are whole. -/
def Container.Sound : Container → Prop
  | .array items => ∀ item ∈ items, item.Whole
  | .object members _ => ∀ member ∈ members, member.2.Whole

namespace Reader

open Container (opening)
open Value (entryTokens)

/-- The reader has taken these tokens. -/
inductive Consumed : Reader → List Token → Prop
  | atValue {outer : List Container} (sound : ∀ container ∈ outer, container.Sound) :
      Consumed (.atValue outer) (opening outer)
  | atItem {outer : List Container} (sound : ∀ container ∈ outer, container.Sound) :
      Consumed (.atItem outer) (opening outer ++ [.openBracket])
  | atKey {outer : List Container} {members : List Member}
      (sound : ∀ container ∈ outer, container.Sound)
      (whole : ∀ member ∈ members, member.2.Whole) :
      Consumed (.atKey members outer) (opening outer ++ .openBrace ::
        members.reverse.flatMap (fun member => entryTokens member ++ [.comma]))
  | atColon {outer : List Container} {members : List Member}
      (sound : ∀ container ∈ outer, container.Sound)
      (whole : ∀ member ∈ members, member.2.Whole) (key : Text) :
      Consumed (.atColon members key outer) (opening outer ++ .openBrace ::
        members.reverse.flatMap (fun member => entryTokens member ++ [.comma]) ++ [.text key])
  | afterValue {outer : List Container} {value : Value}
      (sound : ∀ container ∈ outer, container.Sound) (whole : value.Whole) :
      Consumed (.afterValue value outer) (opening outer ++ value.tokens)
  | stopped (root : Value) (tokens : List Token) : Consumed (.stopped root) tokens

namespace Consumed

variable {outer : List Container} {reader : Reader} {tokens : List Token}

private theorem beginValue (sound : ∀ container ∈ outer, container.Sound) (token : Token) :
    Consumed (Reader.beginValue outer token) (opening outer ++ [token]) := by
  cases token with
  | null => exact .afterValue sound .null
  | boolean value => exact .afterValue sound (.boolean value)
  | number spelling => exact .afterValue sound (.number spelling)
  | text text => exact .afterValue sound (.text text)
  | openBracket => exact .atItem sound
  | openBrace => exact .atKey sound (by simp)
  | _ => exact .stopped _ _

/-- What a reader has consumed grows by each token. -/
theorem step (consumed : Consumed reader tokens) (token : Token) :
    Consumed (reader.step token) (tokens ++ [token]) := by
  cases consumed with
  | stopped root tokens => exact .stopped _ _
  | atValue sound => exact beginValue sound token
  | @atItem outer sound =>
      by_cases closes : token = .closeBracket
      · subst closes
        rw [List.append_assoc]
        exact .afterValue sound (.array (by simp))
      · have begins : Reader.step (.atItem outer) token =
            Reader.beginValue (.array [] :: outer) token := by
          cases token <;> first | rfl | exact absurd rfl closes
        rw [begins]
        exact beginValue (List.forall_mem_cons.mpr ⟨by simp [Container.Sound], sound⟩) token
  | @atKey outer members sound whole =>
      cases token with
      | text key => exact .atColon sound whole key
      | closeBrace =>
          cases members with
          | nil =>
              rw [List.append_assoc]
              exact .afterValue sound (.object (by simp))
          | cons member rest => exact .stopped _ _
      | _ => cases members <;> exact .stopped _ _
  | @atColon outer members sound whole key =>
      cases token with
      | colon =>
          have next := Consumed.atValue (List.forall_mem_cons.mpr
            ⟨show (Container.object members key).Sound from whole, sound⟩)
          simpa [Reader.step, opening] using next
      | _ => exact .stopped _ _
  | @afterValue outer value sound whole =>
      match outer with
      | [] => exact .stopped _ _
      | .array items :: outer =>
          obtain ⟨inner, sound⟩ := List.forall_mem_cons.mp sound
          have all : ∀ item ∈ value :: items, item.Whole := List.forall_mem_cons.mpr ⟨whole, inner⟩
          cases token with
          | comma =>
              have next := Consumed.atValue (List.forall_mem_cons.mpr
                ⟨show (Container.array (value :: items)).Sound from all, sound⟩)
              simpa [Reader.step, opening] using next
          | closeBracket =>
              have whole : (Value.array (value :: items).reverse true).Whole :=
                .array fun item member => all item (List.mem_reverse.mp member)
              have next := Consumed.afterValue sound whole
              simpa [Reader.step, opening, Value.tokens, Value.itemTokens_append_singleton]
                using next
          | _ => exact .stopped _ _
      | .object members key :: outer =>
          obtain ⟨inner, sound⟩ := List.forall_mem_cons.mp sound
          have all : ∀ member ∈ (key, value) :: members, member.2.Whole :=
            List.forall_mem_cons.mpr ⟨whole, inner⟩
          cases token with
          | comma =>
              have next := Consumed.atKey sound all
              simpa [Reader.step, opening, entryTokens] using next
          | closeBrace =>
              have whole : (Value.object ((key, value) :: members).reverse true).Whole :=
                .object fun member given => all member (List.mem_reverse.mp given)
              have next := Consumed.afterValue sound whole
              simpa [Reader.step, opening, Value.tokens, Value.memberTokens_append_singleton,
                entryTokens] using next
          | _ => exact .stopped _ _

/-- Whatever its tokens, a reader accounts for all of them. -/
theorem foldl (tokens : List Token) : Consumed (tokens.foldl Reader.step (.atValue [])) tokens := by
  induction tokens using List.reverseRecOn with
  | nil => exact .atValue (by simp)
  | append_singleton before token ih =>
      rw [List.foldl_append]
      exact ih.step token

end Consumed

end Reader

/-! ### Documents -/

namespace Document

/-- Tokens are read as a whole document exactly if they are those of a whole value. -/
theorem ofTokens_eq_iff (tokens : List Token) (value : Value) :
    ofTokens tokens = ⟨value, true⟩ ↔ value.Whole ∧ tokens = value.tokens := by
  constructor
  · intro read
    have consumed := Reader.Consumed.foldl tokens
    unfold ofTokens at read
    generalize tokens.foldl Reader.step (.atValue []) = reader at read consumed
    cases consumed with
    | @afterValue outer value sound whole =>
        cases outer with
        | nil =>
            cases read
            exact ⟨whole, rfl⟩
        | cons container outer => simp [Reader.finish] at read
    | _ => simp [Reader.finish] at read
  · rintro ⟨whole, rfl⟩
    rw [ofTokens, Reader.takes_of_whole whole]
    rfl

/-- A text is read as a value exactly if it is a JSON text of that value. -/
theorem ofString_eq_iff (text : String) (value : Value) :
    ofString text = ⟨value, true⟩ ↔ value.SpelledBy text := by
  rw [ofString, ofTokens_eq_iff, Value.SpelledBy]
  refine and_congr_right fun whole => ?_
  exact Token.ofChars_eq_iff whole.readable.valid whole.readable.separate text.toList

end Document

/-- A text is accepted exactly if it is a JSON text of a value that is accepted. -/
theorem decodeString_eq_ok_iff {α : Type} (decoder : Decoder α) (text : String) (result : α) :
    decodeString decoder text = .ok result ↔
      ∃ value, value.SpelledBy text ∧ decoder value = .ok result := by
  simp only [← Document.ofString_eq_iff, decodeString, Document.decode]
  obtain ⟨root, complete⟩ := Document.ofString text
  cases decoded : decoder root with
  | error rejection =>
      refine ⟨nofun, fun ⟨value, same, accepted⟩ => ?_⟩
      cases same
      rw [decoded] at accepted
      cases accepted
  | ok found =>
      cases complete with
      | false => exact ⟨nofun, fun ⟨value, same, _⟩ => nomatch same⟩
      | true =>
          refine ⟨fun accepted => ⟨root, rfl, decoded.trans accepted⟩, ?_⟩
          rintro ⟨value, same, given⟩
          cases same
          exact decoded.symm.trans given

/-- A JSON text is accepted exactly if its value is. -/
theorem Value.SpelledBy.decodeString_eq_ok_iff {value : Value} {text : String}
    (spelled : value.SpelledBy text) {α : Type} (decoder : Decoder α) (result : α) :
    decodeString decoder text = .ok result ↔ decoder value = .ok result := by
  rw [Json.decodeString_eq_ok_iff]
  refine ⟨fun ⟨other, same, accepted⟩ => ?_, fun accepted => ⟨value, spelled, accepted⟩⟩
  have read := (Document.ofString_eq_iff text value).mpr spelled
  rw [(Document.ofString_eq_iff text other).mpr same] at read
  cases read
  exact accepted

end VliwPack.Json
