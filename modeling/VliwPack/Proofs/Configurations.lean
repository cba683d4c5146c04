import VliwPack.Config
import VliwPack.Proofs.Json.Overlays
import VliwPack.Proofs.Json.Writing

/-! # The default configuration with choices laid over it

A text makes some of the choices of a configuration, in sections and within them in any order. It
is read as the default configuration with these choices in place of its own
(`Config.decoder_of_isGivenBy`), and then the issue width is checked. A text that cannot be read is
refused before its issue width is looked at (`Config.ofString_overlays`).
-/

namespace VliwPack.Config

open Json (Value Decoder decodeString)
open Json.Value (printable_null printable_boolean printable_ofString printable_ofNat printable_list
  printable_record)
open Json.Decoder (Fills overlay_of_offers apply_offered)

/-- Some of the choices of a configuration. -/
structure Choices where
  tracesHazards : Option Bool := none
  issueWidth : Option UInt64 := none
  bundleMode : Option Bool := none
  cycleComment : Option Bool := none

/-- The configuration with the choices that are made in place of its own. -/
def Choices.over (choices : Choices) (config : Config) : Config where
  tracesHazards := choices.tracesHazards.getD config.tracesHazards
  issueWidth := (choices.issueWidth.map UInt64.toNat).getD config.issueWidth
  layout :=
    { bundleMode := choices.bundleMode.getD config.layout.bundleMode
      cycleComment := choices.cycleComment.getD config.layout.cycleComment }

/-- A section, which may be missing, offers these values for its keys. -/
inductive IsSection (offers : List (String × Option Value)) : Option Value → Prop
  | missing (nothing : ∀ offer ∈ offers, offer.2 = none) : IsSection offers none
  | given {value : Value} (gives : value.Offers offers) : IsSection offers (some value)

/-- The value is an object that makes these choices and no others: in sections that may be missing,
where its keys may stand in any order and among any other keys. -/
def Choices.IsGivenBy (choices : Choices) (value : Value) : Prop :=
  ∃ general sched printer : Option Value,
    value.Offers [("general", general), ("sched", sched), ("printer", printer)] ∧
      IsSection [("trace_hazards", choices.tracesHazards.map .boolean)] general ∧
      IsSection [("issue_width", choices.issueWidth.map fun width => .ofNat width.toNat)] sched ∧
      IsSection [("bundle_mode", choices.bundleMode.map .boolean),
        ("cycle_comment", choices.cycleComment.map .boolean)] printer

/-! ### Reading sections -/

private theorem boolean_of_map {choice : Option Bool} {value : Value} (default : Bool)
    (offered : choice.map .boolean = some value) :
    Decoder.boolean value = .ok (choice.getD default) := by
  obtain ⟨isSet, rfl, rfl⟩ := Option.map_eq_some_iff.mp offered
  rfl

private theorem generalDecoder_of_offers {traces : Option Bool} {value : Value}
    (gives : value.Offers [("trace_hazards", traces.map .boolean)]) :
    generalDecoder value = .ok (traces.getD false) := by
  unfold generalDecoder
  refine overlay_of_offers ⟨by decide, by simp⟩
    (.of (traces.getD false) (fun _ => boolean_of_map false) .nil) gives ?_
  cases traces <;> rfl

private theorem packingDecoder_of_offers {width : Option UInt64} {value : Value}
    (gives : value.Offers [("issue_width", width.map fun width => .ofNat width.toNat)]) :
    packingDecoder value = .ok ((width.map UInt64.toNat).getD Machine.maxIssueWidth) := by
  have number (value : Value)
      (offered : (width.map fun width => .ofNat width.toNat) = some value) :
      Decoder.natBelow UInt64.size value =
        .ok ((width.map UInt64.toNat).getD Machine.maxIssueWidth) := by
    obtain ⟨width, rfl, rfl⟩ := Option.map_eq_some_iff.mp offered
    exact Decoder.natBelow_ofNat width.toNat_lt_size
  unfold packingDecoder
  refine overlay_of_offers ⟨by decide, by simp⟩ (.of _ number .nil) gives ?_
  cases width <;> rfl

private theorem layoutDecoder_of_offers {bundleMode cycleComment : Option Bool} {value : Value}
    (gives : value.Offers [("bundle_mode", bundleMode.map .boolean),
      ("cycle_comment", cycleComment.map .boolean)]) :
    layoutDecoder value = .ok ⟨bundleMode.getD true, cycleComment.getD true⟩ := by
  unfold layoutDecoder
  refine overlay_of_offers ⟨by decide, by simp⟩
    (.of (bundleMode.getD true) (fun _ => boolean_of_map true) <|
      .of (cycleComment.getD true) (fun _ => boolean_of_map true) .nil) gives ?_
  cases bundleMode <;> cases cycleComment <;> rfl

/-! ### Reading configurations -/

private theorem IsSection.offers {offers : List (String × Option Value)} {given : Option Value}
    (isSection : IsSection offers given) {value : Value} (present : given = some value) :
    value.Offers offers := by
  cases isSection with
  | missing => cases present
  | given gives => exact Option.some.inj present ▸ gives

private theorem IsSection.eq_none {offers : List (String × Option Value)} {given : Option Value}
    (isSection : IsSection offers given) (absent : given = none) {α : Type} {key : String}
    {choice : Option α} {form : α → Value} (among : (key, choice.map form) ∈ offers) :
    choice = none := by
  cases isSection with
  | missing nothing => exact Option.map_eq_none_iff.mp (nothing _ among)
  | given => cases absent

/-- A text's choices are laid over the default configuration. -/
theorem decoder_of_isGivenBy {choices : Choices} {value : Value}
    (given : choices.IsGivenBy value) : decoder value = .ok (choices.over {}) := by
  obtain ⟨general, sched, printer, offers, isGeneral, isSched, isPrinter⟩ := given
  unfold decoder
  refine overlay_of_offers ⟨by decide, by simp⟩
    (.of _ (fun _ present => generalDecoder_of_offers (isGeneral.offers present)) <|
      .of _ (fun _ present => packingDecoder_of_offers (isSched.offers present)) <|
      .of _ (fun _ present => layoutDecoder_of_offers (isPrinter.offers present)) .nil) offers ?_
  -- A section that is missing leaves its choices at their defaults.
  rw [apply_offered, apply_offered, apply_offered]
  · rfl
  · intro absent
    rw [isPrinter.eq_none absent List.mem_cons_self,
      isPrinter.eq_none absent (List.mem_cons_of_mem _ List.mem_cons_self)]
    rfl
  · intro absent
    rw [isSched.eq_none absent List.mem_cons_self]
    rfl
  · intro absent
    rw [isGeneral.eq_none absent List.mem_cons_self]
    rfl

/-! ### Reading texts -/

/-- A configuration is accepted if its issue width is one of 1 to 8, and its issue width is reported
if not. -/
theorem validate_eq (config : Config) :
    config.validate =
      if 1 ≤ config.issueWidth ∧ config.issueWidth ≤ 8 then .ok config
      else .error (.issueWidth config.issueWidth) := by
  have widest : Machine.maxIssueWidth = 8 := rfl
  rw [validate, widest]
  by_cases possible : 1 ≤ config.issueWidth ∧ config.issueWidth ≤ 8
  · rw [if_pos possible, if_neg]
    simp
    omega
  · rw [if_neg possible, if_pos]
    simp
    omega

private theorem ofString_of_decoded {text : String} {config : Config}
    (decoded : decodeString decoder text = .ok config) : ofString text = config.validate := by
  rw [ofString, decoded]

private theorem issueWidth_of_validate {config checked : Config}
    (valid : config.validate = .ok checked) :
    1 ≤ checked.issueWidth ∧ checked.issueWidth ≤ 8 := by
  rw [validate_eq] at valid
  split at valid
  · next possible =>
      cases valid
      exact possible
  · cases valid

private theorem validate_ne_malformed (config : Config) (rejection : Json.Rejection) :
    config.validate ≠ .error (.malformed rejection) := by
  rw [validate_eq]
  split <;> simp

/-- An accepted configuration has a possible issue width. -/
theorem issueWidth_of_ofString {text : String} {config : Config}
    (accepted : ofString text = .ok config) :
    1 ≤ config.issueWidth ∧ config.issueWidth ≤ 8 := by
  cases decoded : decodeString decoder text with
  | ok read => exact issueWidth_of_validate ((ofString_of_decoded decoded).symm.trans accepted)
  | error rejection =>
      rw [ofString, decoded] at accepted
      cases accepted

/-- A text is malformed exactly if no configuration is read from it. -/
theorem ofString_eq_malformed_iff (text : String) :
    (∃ rejection, ofString text = .error (.malformed rejection)) ↔
      ¬ ∃ config, decodeString decoder text = .ok config := by
  cases decoded : decodeString decoder text with
  | ok config =>
      rw [ofString_of_decoded decoded]
      exact ⟨fun ⟨_, malformed⟩ => absurd malformed (validate_ne_malformed _ _),
        fun unread => absurd ⟨config, rfl⟩ unread⟩
  | error rejection =>
      rw [ofString, decoded]
      exact ⟨fun _ => nofun, fun _ => ⟨rejection, rfl⟩⟩

/-- A configuration is the default one with the choices of a text laid over it, and its issue width
is checked last. Choices may be made in any order and among any other keys. No configuration has an
issue width of zero or more than eight. A text that gives no configuration is malformed, whatever
issue width stands in it. -/
theorem ofString_overlays (text : String) :
    (∀ (choices : Choices) (value : Value), choices.IsGivenBy value → value.SpelledBy text →
      let config := choices.over {}
      ofString text =
        if 1 ≤ config.issueWidth ∧ config.issueWidth ≤ 8 then .ok config
        else .error (.issueWidth config.issueWidth)) ∧
    (∀ config, ofString text = .ok config → 1 ≤ config.issueWidth ∧ config.issueWidth ≤ 8) ∧
    ((∃ rejection, ofString text = .error (.malformed rejection)) ↔
      ¬ ∃ value config, value.SpelledBy text ∧ decoder value = .ok config) := by
  refine ⟨fun choices value given spelled => ?_, fun _ => issueWidth_of_ofString, ?_⟩
  · have decoded : decodeString decoder text = .ok (choices.over {}) :=
      (spelled.decodeString_eq_ok_iff decoder _).mpr (decoder_of_isGivenBy given)
    rw [ofString_of_decoded decoded, validate_eq]
  · simp only [ofString_eq_malformed_iff, Json.decodeString_eq_ok_iff]
    rw [exists_comm]

/-- Sections and keys out of order and among unknown ones, with a possible width and another. -/
theorem ofString_overlays_reordered :
    let printer : Value := .record [("cycle_comment", .boolean false)]
    let sched (width : UInt64) : Value :=
      .record [("note", .ofString "wide"), ("issue_width", .ofNat width.toNat)]
    let value (width : UInt64) : Value :=
      .record [("printer", printer), ("version", .list [.null]), ("sched", sched width)]
    ofString (value 4).toText = .ok { issueWidth := 4, layout := { cycleComment := false } } ∧
      ofString (value 99).toText = .error (.issueWidth 99) := by
  intro printer sched value
  have given (width : UInt64) :
      Choices.IsGivenBy { issueWidth := some width, cycleComment := some false } (value width) :=
    ⟨none, some (sched width), some printer, Value.offers_record (by simp),
      .missing (by simp), .given (Value.offers_record (by simp)),
      .given (Value.offers_record (by simp))⟩
  have printable (width : UInt64) : (value width).Printable := by
    have layout : printer.Printable := printable_record (by simpa using printable_boolean false)
    have version : Value.Printable (.list [.null]) := printable_list (by simpa using printable_null)
    have packing : (sched width).Printable :=
      printable_record (by simpa using ⟨printable_ofString "wide", printable_ofNat width.toNat⟩)
    exact printable_record (by simpa using ⟨layout, version, packing⟩)
  exact ⟨(ofString_overlays _).1 _ _ (given 4) (printable 4).spelledBy_toText,
    (ofString_overlays _).1 _ _ (given 99) (printable 99).spelledBy_toText⟩

end VliwPack.Config
