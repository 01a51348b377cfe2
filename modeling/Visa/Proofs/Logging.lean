import Visa.Proofs.Outcome
import Visa.Proofs.Trim
import Visa.Run

namespace Visa

/-! When a run has a logger. The filter of the logger is made from texts that some reader is handed,
and there is no logger only where the reader stops at one of them. The directives are read without a
stop if blanks in front of them do not move the positions of their marks into a character. -/

open Outcome (FailsWith)

/-! ## Positions between characters -/

namespace Text

variable {text : List Char} {start stop : Nat}

/-- The position is between two characters of the text, or at one of its ends. -/
def Cuts (text : List Char) (position : Nat) : Prop :=
  ∃ front behind, text = front ++ behind ∧ byteSize front = position

theorem byteSize_eq_zero_iff : byteSize text = 0 ↔ text = [] := by
  cases text with
  | nil => simp [byteSize]
  | cons letter rest => simp [byteSize, letter.utf8Size_pos.ne']

theorem exists_sliceFrom? (cuts : Cuts text start) :
    ∃ behind, sliceFrom? start text = some behind := by
  obtain ⟨front, behind, rfl, rfl⟩ := cuts
  exact ⟨behind, sliceFrom?_append front behind⟩

theorem exists_slice? (first : Cuts text start) (last : Cuts text stop) (order : start ≤ stop) :
    ∃ inside, slice? start stop text = some inside := by
  obtain ⟨before, behind, rfl, rfl⟩ := first
  obtain ⟨front, after, same, rfl⟩ := last
  -- the front of the later position goes on behind that of the earlier one
  rcases List.append_eq_append_iff.mp same with ⟨inside, rfl, rfl⟩ | ⟨excess, rfl, rfl⟩
  · rw [byteSize_append]
    exact ⟨inside, slice?_append before inside after⟩
  · have none : excess = [] := by
      rw [byteSize_append] at order
      exact byteSize_eq_zero_iff.mp (by omega)
    subst none
    rw [List.append_nil]
    exact ⟨[], slice?_append front [] behind⟩

/-- Every position in the text without its blanks cuts the text as it is. -/
def IsAligned (text : List Char) : Prop :=
  ∀ front behind, trim text = front ++ behind → Cuts text (byteSize front)

theorem aligned_of_solid (solid : ∀ letter, text.head? = some letter → isBlank letter = false) :
    IsAligned text := by
  intro front behind parts
  obtain ⟨lead, trail, whole, blank, _⟩ := exists_append_trim text
  cases lead with
  | nil =>
      rw [List.nil_append, parts, List.append_assoc] at whole
      exact ⟨front, behind ++ trail, whole, rfl⟩
  | cons first rest =>
      have isBlank := blank first List.mem_cons_self
      rw [solid first (by rw [whole, List.cons_append, List.head?_cons])] at isBlank
      contradiction

theorem byteSize_of_narrow (narrow : ∀ letter ∈ text, letter.utf8Size = 1) :
    byteSize text = text.length := by
  induction text with
  | nil => rfl
  | cons letter rest ih =>
      obtain ⟨here, later⟩ := List.forall_mem_cons.mp narrow
      rw [byteSize, here, ih later, List.length_cons, Nat.add_comm]

theorem aligned_of_narrow (narrow : ∀ letter ∈ text, letter.utf8Size = 1) : IsAligned text := by
  intro front behind parts
  obtain ⟨lead, trail, whole, _⟩ := exists_append_trim text
  rw [parts] at whole
  have within : front.length ≤ text.length := by
    rw [whole]
    simp only [List.length_append]
    omega
  have ofFront : byteSize front = front.length :=
    byteSize_of_narrow fun letter inside => narrow letter (by rw [whole]; simp [inside])
  refine ⟨text.take front.length, text.drop front.length, (List.take_append_drop _ _).symm, ?_⟩
  rw [byteSize_of_narrow fun letter inside => narrow letter (List.mem_of_mem_take inside),
    List.length_take, ofFront, Nat.min_eq_left within]

end Text

/-! ## Reading without a stop -/

namespace Directive

open Text (Cuts IsAligned byteSize)

/-- The text is no directive, which is found out without a stop. -/
def Flaw.IsRefusal (flaw : Flaw) : Prop := flaw = .unreadable

variable {text marked : List Char} {position start stop : Nat} {mark : Char}

theorem failsWith_readable {α : Type} (found : Option α) :
    FailsWith Flaw.IsRefusal (readable found) := by
  cases found with
  | none =>
      rintro _ ⟨⟩
      rfl
  | some value => nofun

theorem failsWith_taken {part : Option (List Char)} (found : ∃ letters, part = some letters) :
    FailsWith Flaw.IsRefusal (taken part) := by
  obtain ⟨letters, rfl⟩ := found
  nofun

theorem failsWith_refusal {α : Type} :
    FailsWith Flaw.IsRefusal (.error .unreadable : Except Flaw α) := by
  rintro _ ⟨⟩
  rfl

theorem failsWith_thresholdBehind (cuts : Cuts text (position + 1)) :
    FailsWith Flaw.IsRefusal (thresholdBehind text position) :=
  (failsWith_taken (Text.exists_sliceFrom? cuts)).bind fun _ => failsWith_readable _

/-- The marks that are left start at a position of the text without its blanks. -/
def LeftAt (text : List Char) (position : Nat) (marked : List Char) : Prop :=
  ∃ front, Text.trim text = front ++ marked ∧ byteSize front = position

theorem LeftAt.cuts (aligned : IsAligned text) (left : LeftAt text position marked) :
    Cuts text position := by
  obtain ⟨front, whole, rfl⟩ := left
  exact aligned front marked whole

theorem LeftAt.append {name : List Char} (left : LeftAt text position (name ++ marked)) :
    LeftAt text (position + byteSize name) marked := by
  obtain ⟨front, whole, rfl⟩ := left
  exact ⟨front ++ name, by rw [whole, List.append_assoc], Text.byteSize_append front name⟩

theorem LeftAt.cons (narrow : mark.utf8Size = 1)
    (left : LeftAt text position (mark :: marked)) : LeftAt text (position + 1) marked := by
  have behind : LeftAt text (position + byteSize [mark]) marked := left.append
  rwa [byteSize, narrow, byteSize] at behind

theorem failsWith_afterSpan (aligned : IsAligned text) (left : LeftAt text position marked) :
    FailsWith Flaw.IsRefusal (afterSpan text position marked) := by
  unfold afterSpan
  split
  · nofun
  · exact failsWith_thresholdBehind ((left.cons rfl).cuts aligned)
  · exact failsWith_refusal

/-- Behind what stands in front of the first mark come the mark and then the marks that are left. -/
theorem LeftAt.at_mark {isMark : Char → Bool} {rest : List Char}
    (narrow : ∀ {mark : Char}, isMark mark → mark.utf8Size = 1)
    (left : LeftAt text position marked)
    (found : marked.dropWhile (fun letter => !isMark letter) = mark :: rest) :
    LeftAt text (position + byteSize (marked.takeWhile fun letter => !isMark letter))
        (mark :: rest) ∧
      LeftAt text (position + byteSize (marked.takeWhile fun letter => !isMark letter) + 1) rest := by
  have stops := List.head?_dropWhile_not (fun letter => !isMark letter) marked
  rw [found, List.head?_cons] at stops
  rw [← List.takeWhile_append_dropWhile (p := fun letter => !isMark letter) (l := marked),
    found] at left
  exact ⟨left.append, left.append.cons (narrow (by simpa using stops))⟩

theorem utf8Size_of_eq_or_eq {first second : Char} (narrow : first.utf8Size = 1)
    (narrowOther : second.utf8Size = 1) (isMark : (mark == first || mark == second) = true) :
    mark.utf8Size = 1 := by
  rcases Bool.or_eq_true_iff.mp isMark with same | same
  · rw [beq_iff_eq.mp same, narrow]
  · rw [beq_iff_eq.mp same, narrowOther]

theorem utf8Size_of_isFieldMark (isMark : isFieldMark mark) : mark.utf8Size = 1 := by
  rw [beq_iff_eq.mp isMark]
  rfl

theorem utf8Size_of_isSpanMark (isMark : isSpanMark mark) : mark.utf8Size = 1 :=
  utf8Size_of_eq_or_eq rfl rfl isMark

theorem utf8Size_of_isNameMark (isMark : isNameMark mark) : mark.utf8Size = 1 :=
  utf8Size_of_eq_or_eq rfl rfl isMark

theorem failsWith_slice (aligned : IsAligned text) (first : Cuts text start)
    (last : LeftAt text stop marked) (order : start ≤ stop) :
    FailsWith Flaw.IsRefusal (taken (Text.slice? start stop text)) :=
  failsWith_taken (Text.exists_slice? first (last.cuts aligned) order)

theorem failsWith_spanField (aligned : IsAligned text) (target : Option String) (named : Bool)
    (left : LeftAt text position marked) :
    FailsWith Flaw.IsRefusal (spanField target named text position marked) := by
  unfold spanField
  dsimp only
  split
  · exact failsWith_refusal
  · rename_i mark rest found
    obtain ⟨last, behind⟩ := left.at_mark utf8Size_of_isFieldMark found
    refine (failsWith_slice aligned (left.cuts aligned) last (Nat.le_add_right _ _)).bind
      fun field => ?_
    split
    · exact (failsWith_afterSpan aligned (behind.cons rfl)).bind fun _ => nofun
    · exact failsWith_refusal

theorem failsWith_span (aligned : IsAligned text) (target : Option String)
    (left : LeftAt text position marked) :
    FailsWith Flaw.IsRefusal (span target text position marked) := by
  unfold span
  dsimp only
  split
  · exact failsWith_refusal
  · rename_i mark rest found
    obtain ⟨last, behind⟩ := left.at_mark utf8Size_of_isSpanMark found
    refine (failsWith_slice aligned (left.cuts aligned) last (Nat.le_add_right _ _)).bind
      fun name => ?_
    split
    · exact (failsWith_afterSpan aligned behind).bind fun _ => nofun
    · exact failsWith_spanField aligned target _ behind

theorem failsWith_namedDirective (aligned : IsAligned text) :
    FailsWith Flaw.IsRefusal (namedDirective text (Text.trim text)) := by
  have left : LeftAt text 0 (Text.trim text) := ⟨[], rfl, rfl⟩
  unfold namedDirective
  dsimp only
  split
  · nofun
  · rename_i mark rest found
    obtain ⟨last, behind⟩ := left.at_mark utf8Size_of_isNameMark found
    rw [Nat.zero_add] at last behind
    refine (failsWith_slice aligned (left.cuts aligned) last (Nat.zero_le _)).bind fun name => ?_
    split
    · exact (failsWith_thresholdBehind (behind.cuts aligned)).bind fun _ => nofun
    · exact failsWith_span aligned _ behind

theorem failsWith_ofText (aligned : IsAligned text) : FailsWith Flaw.IsRefusal (ofText text) := by
  unfold ofText
  split
  · exact failsWith_refusal
  · rename_i rest opened
    exact failsWith_span aligned none ⟨['['], opened, rfl⟩
  · rename_i first rest other started
    rw [← started]
    split
    · exact failsWith_namedDirective aligned
    · exact failsWith_refusal

end Directive

namespace LogFilter

open Directive (Flaw)

variable {read : Reader} {text : List Char}

/-- No directive of the text has a blank in front of it, unless all of its letters are of one byte. -/
def IsPlain (text : List Char) : Prop :=
  ∀ piece ∈ pieces text,
    (∀ letter, piece.head? = some letter → Text.isBlank letter = false) ∨
      ∀ letter ∈ piece, letter.utf8Size = 1

theorem ofText_ne_stopped (plain : IsPlain text) : ofText text ≠ .error .stopped := by
  intro stopped
  have fails : FailsWith Flaw.IsRefusal (ofText text) := by
    unfold IsPlain at plain
    unfold ofText
    generalize pieces text = pieces at plain
    induction pieces with
    | nil => nofun
    | cons piece rest ih =>
        obtain ⟨here, later⟩ := List.forall_mem_cons.mp plain
        have aligned : Text.IsAligned piece := here.elim Text.aligned_of_solid Text.aligned_of_narrow
        rw [List.mapM_cons]
        exact (Directive.failsWith_ofText aligned).bind fun _ => (ih later).bind fun _ => nofun
  cases fails _ stopped

/-! ## Choosing without a stop -/

/-- The texts that a filter may be read from, in their order. -/
def candidates (fromEnvironment : Option String) (verbose : Bool) (level : Option String) :
    List String :=
  fromEnvironment.toList ++
    if verbose then [verboseText] else [levelText (level.getD defaultLevel), levelText defaultLevel]

end LogFilter

/-! ## The logger of a run -/

namespace Run

variable {read : LogFilter.Reader} {line : CommandLine} {world : World}

/-- The texts that the filter of a run may be read from. -/
def filterTexts (line : CommandLine) (settings : Settings) (world : World) : List String :=
  LogFilter.candidates (world.environment filterVariable) line.verbose (logging line settings).1

/-- The reader does what it is there for with the texts that the run has for its logger: each of them
is read or refused. -/
def Returns (read : LogFilter.Reader) (line : CommandLine) (world : World) : Prop :=
  ∀ settings, Run.settings line world = .ok settings →
    ∀ text ∈ filterTexts line settings world, read text.toList ≠ .error .stopped

theorem returns_of_plain (plain : ∀ settings, Run.settings line world = .ok settings →
    ∀ text ∈ filterTexts line settings world, LogFilter.IsPlain text.toList) :
    Returns LogFilter.ofText line world :=
  fun settings found text inside => LogFilter.ofText_ne_stopped (plain settings found text inside)

/-- The settings of the run can be read, but no logger can be set up for them. -/
def Stopped (read : LogFilter.Reader) (line : CommandLine) (world : World) : Prop :=
  ∃ settings, Run.settings line world = .ok settings ∧ logger? read line settings world = none

end Run

end Visa
