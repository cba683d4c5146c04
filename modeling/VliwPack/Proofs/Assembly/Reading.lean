import Mathlib.Data.List.Forall2
import Mathlib.Data.List.SplitBy
import VliwPack.Assembly.Function
import VliwPack.Proofs.Assembly.SingleLine
import VliwPack.Proofs.Packing.Bundles

/-! # Reading a function's text

After its label, the text of a packed function has one line for each instruction (`Shows`):
a comment for a pseudo instruction, otherwise code, which joins if an earlier instruction of
the bundle takes a slot (`marked`). So the bundles can be read off the text: its lines of
code, cut at those that do not join, are the packets that issue
(`Recognizer.functionText_shows_bundles`).
-/

namespace VliwPack

open Instruction

namespace Assembly

/-- The line is a comment. -/
def isNote (line : List Char) : Bool := "\t;".toList.isPrefixOf line

/-- The line carries the parallel marker. -/
def isJoining (line : List Char) : Bool := "\t||".toList.isPrefixOf line

/-- The lines of code, cut before each line that does not carry the parallel marker. -/
def packetsOfLines (lines : List (List Char)) : List (List (List Char)) :=
  (lines.filter fun line => !isNote line).splitBy fun _ line => isJoining line

/-- Each instruction, marked if it takes a slot after another that does; `begun` tells whether
a slot was taken before. -/
def marked (begun : Bool) : List Instruction → List (Bool × Instruction)
  | [] => []
  | instruction :: rest =>
      (begun && instruction.takesSlot, instruction) ::
        marked (begun || instruction.takesSlot) rest

/-- The characters of a line in bundle mode, without its line end. -/
def Line.characters (line : Line) : List Char := (line.text true).toList

/-- The line shows the instruction, which joins if it is marked. -/
inductive Shows : Bool × Instruction → List Char → Prop
  | note {instruction : Instruction} (pseudo : instruction.descriptor.isPseudo = true) :
      Shows (false, instruction) (Line.note instruction.name).characters
  | code (joins : Bool) {instruction : Instruction} {text : String}
      (real : instruction.descriptor.isPseudo = false)
      (spelled : instruction.text.outcome = .ok text) :
      Shows (joins, instruction) (Line.code joins text).characters

/-- The lines show the instructions of one bundle, in order. -/
def ShowsBundle (group : List Instruction) (part : List (List Char)) : Prop :=
  List.Forall₂ Shows (marked false group) part

variable {begun : Bool} {group : List Instruction} {mark : Bool × Instruction} {line : List Char}
  {lines : List Line}

/-! ### The lines of a text -/

/-- Lines without line ends of their own are read back from their text. -/
theorem splitOn_textAll {bundleMode : Bool}
    (plain : ∀ line ∈ lines, SingleLine (line.text bundleMode)) :
    (Line.textAll bundleMode lines).toList.splitOn '\n' =
      lines.map (fun line => (line.text bundleMode).toList) ++ [[]] := by
  rw [List.splitOn_eq_splitOnP]
  induction lines with
  | nil => rfl
  | cons line rest ih =>
      obtain ⟨here, there⟩ := List.forall_mem_cons.mp plain
      have text : (Line.textAll bundleMode (line :: rest)).toList =
          (line.text bundleMode).toList ++ '\n' :: (Line.textAll bundleMode rest).toList := by
        simp [Line.textAll]
      have unbroken : ∀ character ∈ (line.text bundleMode).toList, (character == '\n') = false := by
        intro character member
        rw [beq_eq_false_iff_ne]
        rintro rfl
        exact here member
      rw [text, List.splitOnP_append_cons_of_forall_mem unbroken '\n' rfl, ih there, List.map_cons,
        List.cons_append]

/-- Groups are read back from their elements if an element starts a group exactly where it
does not join. -/
theorem splitBy_flatten_of_starts {α : Type} {joins : α → Bool} {groups : List (List α)}
    (starts : ∀ group ∈ groups, ∃ first rest, group = first :: rest ∧ joins first = false ∧
      ∀ element ∈ rest, joins element = true) :
    (groups.flatten.splitBy fun _ element => joins element) = groups := by
  apply List.splitBy_flatten
  · intro member
    obtain ⟨_, _, empty, -⟩ := starts [] member
    cases empty
  · intro group member
    obtain ⟨first, rest, rfl, -, joining⟩ := starts group member
    apply List.Pairwise.isChain
    refine List.pairwise_cons.mpr ⟨joining, ?_⟩
    exact List.pairwise_of_forall_mem_list fun _ _ => joining
  · apply List.Pairwise.isChain
    refine List.pairwise_of_forall_mem_list fun before earlier after later => ?_
    obtain ⟨_, _, rfl, -⟩ := starts before earlier
    obtain ⟨_, _, rfl, first, -⟩ := starts after later
    exact ⟨List.cons_ne_nil _ _, List.cons_ne_nil _ _, first⟩

/-! ### What a line shows -/

/-- What holds of the elements on one side holds of those related to them. -/
theorem forall_mem_of_forall₂ {α β : Type} {related : α → β → Prop} {here : α → Prop}
    {there : β → Prop} {first : List α} {second : List β}
    (transfers : ∀ element other, related element other → here element → there other)
    (all : List.Forall₂ related first second) (holds : ∀ element ∈ first, here element) :
    ∀ other ∈ second, there other := by
  induction all with
  | nil => exact fun _ member => nomatch member
  | cons head _ ih =>
      obtain ⟨this, rest⟩ := List.forall_mem_cons.mp holds
      exact List.forall_mem_cons.mpr ⟨transfers _ _ head this, ih rest⟩

/-- A predicate is written in brackets, if there is one. -/
private theorem eq_empty_or_exists_of_predicateText {instruction : Instruction} {text : String}
    (written : instruction.predicateText = .ok text) :
    text = "" ∨ ∃ rest, text.toList = '[' :: rest := by
  unfold predicateText at written
  split at written
  next predicate _ =>
    split at written
    · obtain ⟨name, -, written⟩ := exists_of_bind_ok written
      cases written
      right
      refine ⟨((if predicate.isNegated then "!" else " ") ++ name ++ "]").toList, ?_⟩
      simp only [String.append_assoc, String.toList_append]
      rfl
    · cases written
      exact .inl rfl
  next =>
    cases written
    exact .inl rfl

/-- An instruction's text begins with its predicate or, without one, with a tab. -/
theorem exists_first_of_text {instruction : Instruction} {text : String}
    (spelled : instruction.text.outcome = .ok text) :
    ∃ first rest, text.toList = first :: rest ∧ (first = '[' ∨ first = '\t') := by
  obtain ⟨predicate, unit, operands, condition, -, -, rfl⟩ := exists_parts_of_text spelled
  simp only [assembled, String.toList_append]
  rcases eq_empty_or_exists_of_predicateText condition with rfl | ⟨rest, begins⟩
  · exact ⟨'\t', _, rfl, .inr rfl⟩
  · rw [begins]
    exact ⟨'[', _, rfl, .inl rfl⟩

/-- The comments are the lines of pseudo instructions, and the lines with the parallel marker
those of instructions that join. -/
theorem Shows.isNote_and_isJoining (shows : Shows mark line) :
    isNote line = mark.2.descriptor.isPseudo ∧ isJoining line = mark.1 := by
  cases shows with
  | @note instruction pseudo =>
      rw [pseudo]
      simp [isNote, isJoining, Line.characters, Line.text, List.isPrefixOf]
  | @code joins instruction text real spelled =>
      obtain ⟨first, rest, begins, head⟩ := exists_first_of_text spelled
      rw [real]
      cases joins <;> rcases head with rfl | rfl <;>
        simp [isNote, isJoining, Line.characters, Line.text, Line.startMark, Line.joinMark,
          begins, List.isPrefixOf]

private theorem Shows.not_mem (shows : Shows mark line) (plain : mark.2.Plain) : '\n' ∉ line := by
  cases shows with
  | note pseudo => exact SingleLine.append (by decide) plain.name
  | code joins real spelled =>
      refine SingleLine.append ?_ (singleLine_text plain spelled)
      cases joins <;> decide

/-! ### Marks -/

/-- Marks stand before instructions of the group alone. -/
theorem mem_of_mem_marked (member : mark ∈ marked begun group) : mark.2 ∈ group := by
  induction group generalizing begun with
  | nil => cases member
  | cons instruction rest ih =>
      rcases List.mem_cons.mp member with rfl | later
      · exact List.mem_cons_self
      · exact List.mem_cons_of_mem instruction (ih later)

/-- Instructions that take no slot change no marks. -/
theorem filter_marked (begun : Bool) (group : List Instruction) :
    (marked begun group).filter (fun mark => mark.2.takesSlot) =
      marked begun (group.filter takesSlot) := by
  induction group generalizing begun with
  | nil => rfl
  | cons instruction rest ih =>
      rw [marked, List.filter_cons, List.filter_cons, ih]
      cases slot : instruction.takesSlot with
      | false => simp
      | true => simp [marked, slot]

/-- Once a slot is taken, instructions that take slots all join. -/
theorem marked_true (slots : ∀ instruction ∈ group, instruction.takesSlot = true) :
    ∀ mark ∈ marked true group, mark.1 = true := by
  induction group with
  | nil => exact fun _ member => nomatch member
  | cons instruction rest ih =>
      obtain ⟨here, there⟩ := List.forall_mem_cons.mp slots
      refine List.forall_mem_cons.mpr ⟨?_, ih there⟩
      rw [here]
      rfl

end Assembly

/-! ### Instructions with one line each -/

namespace Instruction

/-- The instruction is no pseudo instruction that stands for the code of a frame. -/
def Frameless (instruction : Instruction) : Prop :=
  instruction.descriptor.isPseudo = true →
    instruction.name ≠ "prolog" ∧ instruction.name ≠ "epilog"

instance : DecidablePred Frameless := fun instruction =>
  inferInstanceAs (Decidable (instruction.descriptor.isPseudo = true →
    instruction.name ≠ "prolog" ∧ instruction.name ≠ "epilog"))

variable {instruction : Instruction}

private theorem Frameless.frame?_eq (frameless : instruction.Frameless)
    (pseudo : instruction.descriptor.isPseudo = true) :
    Assembly.frame? instruction = .ok none := by
  obtain ⟨sets, takes⟩ := frameless pseudo
  rw [Assembly.frame?, if_neg sets, if_neg takes]

private theorem Frameless.resolved (frameless : instruction.Frameless) :
    instruction.resolved.Frameless := by
  unfold Frameless
  rwa [descriptor_resolved, name_resolved]

/-- Resolving writes no labels. -/
theorem Plain.resolved (plain : instruction.Plain) : instruction.resolved.Plain := by
  refine ⟨?_, ?_⟩
  · rw [name_resolved]
    exact plain.name
  · intro operand member
    rcases instruction.resolved_eq_self_or_written with
      same | ⟨_, _, _, field, bit, _, _, _, written⟩
    · rw [same] at member
      exact plain.labels operand member
    · rw [written, operands_withFormatField] at member
      rcases List.mem_append.mp member with kept | last
      · exact plain.labels operand ((List.dropLast_sublist _).subset kept)
      · rw [List.mem_singleton.mp last]
        exact fun _ none => nomatch none

end Instruction

/-! ### The lines of bundles -/

namespace Assembly

variable {begun : Bool} {group : List Instruction} {lines : List Line} {bundles : List Bundle}
  {part : List (List Char)} {parts : List (List (List Char))}

/-- Each line of a group shows its instruction and its mark. -/
theorem shows_of_instructionLines (frameless : ∀ instruction ∈ group, instruction.Frameless)
    (written : (instructionLines begun group).outcome = .ok lines) :
    List.Forall₂ Shows (marked begun group) (lines.map Line.characters) := by
  induction group generalizing begun lines with
  | nil =>
      cases written
      exact .nil
  | cons instruction rest ih =>
      obtain ⟨here, there⟩ := List.forall_mem_cons.mp frameless
      rw [instructionLines] at written
      split at written
      next pseudo =>
        have slot : instruction.takesSlot = false := by simp [takesSlot, pseudo]
        rw [here.frame?_eq pseudo] at written
        obtain ⟨_, ⟨⟩, written⟩ := Traced.exists_of_bind_ok written
        obtain ⟨after, remaining, written⟩ := Traced.exists_of_bind_ok written
        cases written
        rw [marked, slot, Bool.and_false, Bool.or_false]
        exact .cons (.note pseudo) (ih there remaining)
      next real =>
        rw [Bool.not_eq_true] at real
        have slot : instruction.takesSlot = true := by simp [takesSlot, real]
        obtain ⟨text, spelled, written⟩ := Traced.exists_of_bind_ok written
        obtain ⟨after, remaining, written⟩ := Traced.exists_of_bind_ok written
        cases written
        rw [marked, slot, Bool.and_true, Bool.or_true]
        exact .cons (.code begun real spelled) (ih there remaining)

/-- The lines of bundles are those of each bundle, in order. -/
theorem exists_parts_of_bundleLines
    (frameless : ∀ bundle ∈ bundles, ∀ instruction ∈ bundle.instructions, instruction.Frameless)
    (written : (bundleLines bundles).outcome = .ok lines) :
    ∃ parts : List (List (List Char)), lines.map Line.characters = parts.flatten ∧
      List.Forall₂ (fun bundle part => ShowsBundle bundle.instructions part) bundles parts := by
  induction bundles generalizing lines with
  | nil =>
      cases written
      exact ⟨[], rfl, .nil⟩
  | cons bundle rest ih =>
      obtain ⟨here, there⟩ := List.forall_mem_cons.mp frameless
      obtain ⟨_, -, written⟩ := Traced.exists_of_bind_ok written
      obtain ⟨first, shown, written⟩ := Traced.exists_of_bind_ok written
      obtain ⟨after, remaining, written⟩ := Traced.exists_of_bind_ok written
      cases written
      obtain ⟨parts, covers, all⟩ := ih there remaining
      refine ⟨first.map Line.characters :: parts, ?_, ?_⟩
      · rw [List.map_append, covers, List.flatten_cons]
      · exact .cons (shows_of_instructionLines here shown) all

private theorem shows_flatten
    (shown : List.Forall₂ (fun bundle part => ShowsBundle bundle.instructions part) bundles parts) :
    List.Forall₂ Shows (bundles.flatMap fun bundle => marked false bundle.instructions)
      parts.flatten := by
  rw [List.flatMap_def]
  exact List.rel_flatten (List.forall₂_map_left_iff.mpr shown)

/-- The lines of a function's text: the number of its cycles, its label and what shows its
bundles. -/
theorem exists_parts_of_functionText {schedule : Schedule} {name text : String}
    (frameless : ∀ bundle ∈ schedule.bundles, ∀ instruction ∈ bundle.instructions,
      instruction.Frameless)
    (plain : ∀ bundle ∈ schedule.bundles, ∀ instruction ∈ bundle.instructions, instruction.Plain)
    (titled : SingleLine name)
    (prints : (functionText { bundleMode := true, cycleComment := true } name schedule).outcome =
      .ok text) :
    ∃ parts : List (List (List Char)),
      text.toList.splitOn '\n' =
          ("\t; SCHEDULED CYCLES: " ++ toString schedule.cycles).toList :: (name ++ ":").toList ::
            (parts.flatten ++ [[]]) ∧
        List.Forall₂ (fun bundle part => ShowsBundle bundle.instructions part)
          schedule.bundles parts := by
  obtain ⟨lines, listed, prints⟩ := Traced.exists_of_bind_ok prints
  cases prints
  obtain ⟨parts, covers, shown⟩ := exists_parts_of_bundleLines frameless listed
  refine ⟨parts, ?_, shown⟩
  have plainMarks : ∀ mark ∈ schedule.bundles.flatMap fun bundle =>
      marked false bundle.instructions, mark.2.Plain := by
    intro mark listed
    obtain ⟨bundle, member, among⟩ := List.mem_flatMap.mp listed
    exact plain bundle member mark.2 (mem_of_mem_marked among)
  have unbroken : ∀ line ∈ lines, '\n' ∉ line.characters := by
    have transfers : ∀ mark line, Shows mark line → mark.2.Plain → '\n' ∉ line :=
      fun _ _ shows => shows.not_mem
    have body := forall_mem_of_forall₂ transfers (shows_flatten shown) plainMarks
    rw [← covers] at body
    exact fun line member => body _ (List.mem_map_of_mem member)
  have head : headLines true name schedule.cycles =
      [.note ("SCHEDULED CYCLES: " ++ toString schedule.cycles), .label name] := if_pos rfl
  dsimp only
  rw [head, splitOn_textAll]
  · change List.map Line.characters (_ ++ lines) ++ _ = _
    rw [List.map_append, covers]
    simp [Line.characters, Line.text]
  · refine List.forall_mem_append.mpr ⟨List.forall_mem_cons.mpr ⟨?_, ?_⟩, unbroken⟩
    · exact SingleLine.append (by decide) (.append (by decide) (.natural schedule.cycles))
    · exact List.forall_mem_singleton.mpr (SingleLine.append titled (by decide))

/-! ### Packets of lines -/

private theorem ShowsBundle.isEmpty_eq (shown : ShowsBundle group part) :
    part.isEmpty = group.isEmpty := by
  cases group with
  | nil =>
      cases shown
      rfl
  | cons instruction rest =>
      rw [ShowsBundle, marked] at shown
      cases shown
      rfl

/-- The lines of code show the instructions that take a slot. -/
theorem ShowsBundle.filter (shown : ShowsBundle group part) :
    ShowsBundle (group.filter takesSlot) (part.filter fun line => !isNote line) := by
  rw [ShowsBundle, ← filter_marked]
  refine List.rel_filter (fun mark line shows => ?_) shown
  dsimp only
  rw [shows.isNote_and_isJoining.1, takesSlot]

/-- Of the lines that show instructions taking slots, the first alone does not join. -/
theorem ShowsBundle.exists_start (shown : ShowsBundle group part)
    (slots : ∀ instruction ∈ group, instruction.takesSlot = true) (nonempty : group ≠ []) :
    ∃ first rest, part = first :: rest ∧ isJoining first = false ∧
      ∀ line ∈ rest, isJoining line = true := by
  cases group with
  | nil => exact absurd rfl nonempty
  | cons instruction later =>
      obtain ⟨here, there⟩ := List.forall_mem_cons.mp slots
      rw [ShowsBundle, marked, Bool.false_and, here, Bool.or_true] at shown
      cases shown with
      | @cons _ first _ rest start joining =>
          refine ⟨first, rest, rfl, start.isNote_and_isJoining.2, ?_⟩
          refine forall_mem_of_forall₂ (fun mark line shows marks => ?_) joining (marked_true there)
          rw [shows.isNote_and_isJoining.2, marks]

/-- The packets of the lines of bundles are the lines of the instructions that each bundle
issues, if it issues any. -/
theorem shows_packetsOfLines
    (shown : List.Forall₂ (fun bundle part => ShowsBundle bundle.instructions part) bundles parts) :
    List.Forall₂ (fun bundle packet => ShowsBundle bundle.issued packet)
      (bundles.filter fun bundle => !bundle.issued.isEmpty) (packetsOfLines parts.flatten) := by
  have codes : List.Forall₂ (fun bundle packet => ShowsBundle bundle.issued packet)
      bundles (parts.map (List.filter fun line => !isNote line)) :=
    List.forall₂_map_right_iff.mpr (shown.imp fun _ _ => ShowsBundle.filter)
  have kept : List.Forall₂ (fun bundle packet => ShowsBundle bundle.issued packet)
      (bundles.filter fun bundle => !bundle.issued.isEmpty)
      ((parts.map (List.filter fun line => !isNote line)).filter (!·.isEmpty)) := by
    refine List.rel_filter (fun bundle packet shows => ?_) codes
    dsimp only
    rw [shows.isEmpty_eq]
  have read : packetsOfLines parts.flatten =
      (parts.map (List.filter fun line => !isNote line)).filter (!·.isEmpty) := by
    rw [packetsOfLines, List.filter_flatten, ← List.flatten_filter_not_isEmpty]
    apply splitBy_flatten_of_starts
    refine forall_mem_of_forall₂ (fun bundle packet shows issues => ?_) kept
      fun bundle member => (List.mem_filter.mp member).2
    apply shows.exists_start
    · exact fun instruction member => (List.mem_filter.mp member).2
    · simpa using issues
  rw [read]
  exact kept

end Assembly

namespace Recognizer

open Assembly

variable {width : Nat} {region : List Instruction}

/-- The text of a packed region gives its number of cycles and its label, and then one line
for each instruction. The comments are the lines of pseudo instructions, and the lines with
the parallel marker those of instructions that issue after another of their bundle. The
packets read off the text are what the bundles issue, and where something issues, there are
as many as cycles. -/
theorem functionText_shows_bundles (positive : 0 < width) (recognizer : Recognizer)
    {cycles : Nat} {name text : String}
    (packs : (recognizer.pack width region).outcome = .ok cycles)
    (frameless : ∀ instruction ∈ region, instruction.Frameless)
    (plain : ∀ instruction ∈ region, instruction.Plain) (titled : SingleLine name)
    (prints : (functionText { bundleMode := true, cycleComment := true } name
      (recognizer.pack width region).schedule).outcome = .ok text) :
    let bundles := (recognizer.pack width region).schedule.bundles
    ∃ body,
      text.toList.splitOn '\n' =
          ("\t; SCHEDULED CYCLES: " ++ toString cycles).toList :: (name ++ ":").toList ::
            (body ++ [[]]) ∧
        List.Forall₂
          (fun mark line => Shows mark line ∧
            isNote line = mark.2.descriptor.isPseudo ∧ isJoining line = mark.1)
          (bundles.flatMap fun bundle => marked false bundle.instructions) body ∧
        List.Forall₂ (fun bundle packet => ShowsBundle bundle.issued packet)
          (bundles.filter fun bundle => !bundle.issued.isEmpty) (packetsOfLines body) ∧
        ((∃ instruction ∈ region, instruction.descriptor.isPseudo = false) →
          (∀ bundle ∈ bundles, bundle.issued ≠ []) ∧ (packetsOfLines body).length = cycles) := by
  intro bundles
  have same : bundles = (packed width region).bundles := by
    rw [← pack_schedule positive recognizer region]
  rw [pack_schedule positive] at prints
  rw [same]
  obtain ⟨whole, count⟩ := resolvable_and_length_of_pack positive packs
  have spanned : (packed width region).cycles = cycles := by
    rw [packed, Schedule.cycles_ofGroups, List.length_map, count]
  have numbered : (packed width region).bundles.length = cycles := by
    rw [packed, Schedule.ofGroups, Bundle.length_numbered, List.length_map, count]
  have framelessAll := forall_of_mem_packed positive frameless fun _ => Frameless.resolved
  have plainAll := forall_of_mem_packed positive plain fun _ => Plain.resolved
  obtain ⟨parts, reads, shown⟩ :=
    exists_parts_of_functionText framelessAll plainAll titled prints
  rw [spanned] at reads
  have packets := shows_packetsOfLines shown
  refine ⟨parts.flatten, reads, ?_, packets, ?_⟩
  · refine (shows_flatten shown).imp fun mark line shows => ?_
    exact ⟨shows, shows.isNote_and_isJoining⟩
  · rintro ⟨instruction, known, real⟩
    have issues : ∀ bundle ∈ (packed width region).bundles, bundle.issued ≠ [] := by
      have slot : instruction.takesSlot = true := by simp [takesSlot, real]
      rw [← whole] at known
      exact fun bundle => issued_ne_nil_of_mem_packed positive ⟨instruction, known, slot⟩
    -- So no bundle is missing among those that the packets show.
    have all : ((packed width region).bundles.filter fun bundle => !bundle.issued.isEmpty) =
        (packed width region).bundles :=
      List.filter_eq_self.mpr fun bundle member => by simpa using issues bundle member
    refine ⟨issues, ?_⟩
    rw [← packets.length_eq, all, numbered]

/-- The label stays with the first addition, and the second addition is a bundle of its own. -/
theorem functionText_shows_bundles_twoAdditions :
    0 < 4 ∧ (Recognizer.pack {} 4 twoAdditions).outcome = .ok 2 ∧
      ∃ text, (functionText { bundleMode := true, cycleComment := true } "sum"
          (Recognizer.pack {} 4 twoAdditions).schedule).outcome = .ok text ∧
        ∃ body, text.toList.splitOn '\n' =
            ("\t; SCHEDULED CYCLES: " ++ toString 2).toList :: ("sum" ++ ":").toList ::
              (body ++ [[]]) ∧
          (packetsOfLines body).length = 2 := by
  have positive : 0 < 4 := by decide
  have packs : (Recognizer.pack {} 4 twoAdditions).outcome = .ok 2 := rfl
  obtain ⟨text, prints⟩ : ∃ text,
      (functionText { bundleMode := true, cycleComment := true } "sum"
        (Recognizer.pack {} 4 twoAdditions).schedule).outcome = .ok text := ⟨_, rfl⟩
  obtain ⟨body, reads, -, -, groups⟩ :=
    functionText_shows_bundles positive {} packs (by decide) (by decide) (by decide) prints
  exact ⟨positive, packs, text, prints, body, reads, (groups ⟨.addition .a, by decide, rfl⟩).2⟩

end Recognizer

end VliwPack
