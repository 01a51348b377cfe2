import Visa.Proofs.Trim
import Visa.Record.Cut

namespace Visa.Record

/-! What the records of a text depend on. A scan reads the text from the left and looks at braces
alone, so the blanks and brackets that are taken off a whole text never reach a record, and what
stands in front of the first opening brace might as well be missing. -/

namespace Scan

def outside (finished : List (List Char)) : Scan := ⟨finished, [], 0⟩

theorem step_finished (scan : Scan) (earlier : List (List Char)) (letter : Char) :
    Scan.step { scan with finished := scan.finished ++ earlier } letter =
      { scan.step letter with finished := (scan.step letter).finished ++ earlier } := by
  obtain ⟨finished, held, depth⟩ := scan
  unfold step
  split <;> simp_all

/-- Records that were finished earlier play no part in the rest of a scan. -/
theorem foldl_step_finished (scan : Scan) (earlier : List (List Char)) (text : List Char) :
    text.foldl step { scan with finished := scan.finished ++ earlier } =
      { text.foldl step scan with finished := (text.foldl step scan).finished ++ earlier } := by
  induction text generalizing scan with
  | nil => rfl
  | cons letter rest ih =>
      rw [List.foldl_cons, step_finished, ih (scan.step letter)]
      rfl

theorem held_step {scan : Scan} (letter : Char) (empty : scan.depth = 0 → scan.held = []) :
    (scan.step letter).depth = 0 → (scan.step letter).held = [] := by
  obtain ⟨finished, held, depth⟩ := scan
  unfold step
  split <;> simp_all

theorem held_foldl_step (scan : Scan) (text : List Char) (empty : scan.depth = 0 → scan.held = []) :
    (text.foldl step scan).depth = 0 → (text.foldl step scan).held = [] := by
  induction text generalizing scan with
  | nil => exact empty
  | cons letter rest ih => exact ih (scan.step letter) (held_step letter empty)

theorem eq_outside_of_depth {text : List Char} (closed : (text.foldl step start).depth = 0) :
    text.foldl step start = outside (text.foldl step start).finished := by
  have held := held_foldl_step start text (fun _ => rfl) closed
  generalize text.foldl step start = scan at closed held
  obtain ⟨finished, rest, depth⟩ := scan
  cases closed
  cases held
  rfl

theorem step_plain (scan : Scan) {letter : Char} (notOpen : letter ≠ '{')
    (notClose : letter ≠ '}') :
    (scan.step letter).finished = scan.finished ∧ (scan.step letter).depth = scan.depth := by
  obtain ⟨finished, held, depth⟩ := scan
  unfold step
  split <;> simp_all

theorem foldl_step_plain (scan : Scan) {text : List Char} (noOpen : '{' ∉ text)
    (noClose : '}' ∉ text) :
    (text.foldl step scan).finished = scan.finished ∧
      (text.foldl step scan).depth = scan.depth := by
  induction text generalizing scan with
  | nil => exact ⟨rfl, rfl⟩
  | cons letter rest ih =>
      simp only [List.mem_cons, not_or] at noOpen noClose
      obtain ⟨finished, depth⟩ := step_plain scan (Ne.symm noOpen.1) (Ne.symm noClose.1)
      obtain ⟨laterFinished, laterDepth⟩ := ih (scan.step letter) noOpen.2 noClose.2
      exact ⟨laterFinished.trans finished, laterDepth.trans depth⟩

theorem step_inside (finished : List (List Char)) (held : List Char) (depth : Nat) {letter : Char}
    (notOpen : letter ≠ '{') (notClose : letter ≠ '}') :
    step ⟨finished, held, depth + 1⟩ letter = ⟨finished, letter :: held, depth + 1⟩ := by
  unfold step
  split <;> simp_all

/-- Inside a record, a text without braces is held as it stands. -/
theorem foldl_step_inside (finished : List (List Char)) (held : List Char) (depth : Nat)
    {text : List Char} (noOpen : '{' ∉ text) (noClose : '}' ∉ text) :
    text.foldl step ⟨finished, held, depth + 1⟩ =
      ⟨finished, text.reverse ++ held, depth + 1⟩ := by
  induction text generalizing held with
  | nil => rfl
  | cons letter rest ih =>
      simp only [List.mem_cons, not_or] at noOpen noClose
      rw [List.foldl_cons, step_inside finished held depth (Ne.symm noOpen.1) (Ne.symm noClose.1),
        ih (letter :: held) noOpen.2 noClose.2]
      simp

end Scan

/-! ## Closed texts -/

/-- Scanning the text finishes these records and ends between records. -/
def Yields (text : List Char) (records : List (List Char)) : Prop :=
  text.foldl Scan.step Scan.start = Scan.outside records.reverse

theorem Yields.foldl_step {text : List Char} {records : List (List Char)}
    (yields : Yields text records) (finished : List (List Char)) :
    text.foldl Scan.step (Scan.outside finished) = Scan.outside (records.reverse ++ finished) := by
  have framed := Scan.foldl_step_finished Scan.start finished text
  rw [yields] at framed
  exact framed

theorem Yields.append {first second : List Char} {earlier later : List (List Char)}
    (yieldsFirst : Yields first earlier) (yieldsSecond : Yields second later) :
    Yields (first ++ second) (earlier ++ later) := by
  unfold Yields
  rw [List.foldl_append, yieldsFirst, yieldsSecond.foldl_step, List.reverse_append]

theorem yields_of_not_mem {text : List Char} (other : '{' ∉ text) : Yields text [] :=
  Scan.foldl_step_outside rfl other

theorem yields_object {inside : List Char} (noOpen : '{' ∉ inside) (noClose : '}' ∉ inside) :
    Yields ('{' :: inside ++ ['}']) ['{' :: inside ++ ['}']] := by
  have opened : Scan.step Scan.start '{' = ⟨[], ['{'], 0 + 1⟩ := rfl
  unfold Yields
  rw [List.cons_append, List.foldl_cons, opened, List.foldl_append,
    Scan.foldl_step_inside [] ['{'] 0 noOpen noClose]
  simp [Scan.step, Scan.outside]

/-! ## Whole texts -/

def withoutOpening (text : List Char) : List Char :=
  if text.head? = some '[' then text.tail else text

def withoutClosing (text : List Char) : List Char :=
  if text.getLast? = some ']' then text.dropLast else text

theorem body_eq (text : List Char) :
    body text = withoutClosing (withoutOpening (Text.trim text)) := rfl

theorem withoutClosing_append (before : List Char) {text : List Char} (nonempty : text ≠ []) :
    withoutClosing (before ++ text) = before ++ withoutClosing text := by
  simp only [withoutClosing, List.getLast?_append_of_ne_nil _ nonempty,
    List.dropLast_append_of_ne_nil nonempty]
  split <;> rfl

/-- The text without the blanks and the closing bracket that may end it. -/
def openEnd (text : List Char) : List Char := withoutClosing (Text.trimEnd text)

theorem openEnd_append (before : List Char) {text : List Char} (solid : ¬Text.allBlank text) :
    openEnd (before ++ text) = before ++ openEnd text := by
  rw [openEnd, Text.trimEnd_append before solid,
    withoutClosing_append before (Text.trimEnd_ne_nil solid), openEnd]

theorem exists_append_openEnd (text : List Char) :
    ∃ trail, text = openEnd text ++ trail ∧ '{' ∉ trail ∧ '}' ∉ trail := by
  obtain ⟨blanks, same, blank⟩ := Text.exists_append_trimEnd text
  have noOpen : '{' ∉ blanks := fun member => absurd (blank '{' member) (by decide)
  have noClose : '}' ∉ blanks := fun member => absurd (blank '}' member) (by decide)
  by_cases bracket : (Text.trimEnd text).getLast? = some ']'
  · refine ⟨']' :: blanks, ?_, by simp [noOpen], by simp [noClose]⟩
    rw [openEnd, withoutClosing, if_pos bracket]
    obtain ⟨front, last⟩ := List.getLast?_eq_some_iff.mp bracket
    rw [last] at same ⊢
    simpa using same
  · refine ⟨blanks, ?_, noOpen, noClose⟩
    rw [openEnd, withoutClosing, if_neg bracket]
    exact same

theorem body_subset (text : List Char) : body text ⊆ text := by
  have trimmed : Text.trim text ⊆ text :=
    List.Subset.trans (Text.trimEnd_subset _) (List.dropWhile_suffix _).subset
  have opened : withoutOpening (Text.trim text) ⊆ text := by
    unfold withoutOpening
    split
    · exact List.Subset.trans (List.tail_sublist _).subset trimmed
    · exact trimmed
  rw [body_eq, withoutClosing]
  split
  · exact List.Subset.trans (List.dropLast_subset _) opened
  · exact opened

theorem not_allBlank_of_mem {text : List Char} (opening : '{' ∈ text) : ¬Text.allBlank text := by
  intro blank
  exact absurd (List.all_eq_true.mp blank '{' opening) (by decide)

/-- All that goes at the start of a text with a record in it stands in front of the first opening
brace. -/
theorem exists_body_eq_append {lead : List Char} (noOpen : '{' ∉ lead) (rest : List Char) :
    ∃ kept, body (lead ++ '{' :: rest) = kept ++ openEnd ('{' :: rest) ∧ '{' ∉ kept := by
  have solid : ¬Text.allBlank ('{' :: rest) := not_allBlank_of_mem List.mem_cons_self
  have noOpenKept : '{' ∉ lead.dropWhile Text.isBlank := fun member =>
    noOpen ((List.dropWhile_suffix _).subset member)
  have trimmed : Text.trim (lead ++ '{' :: rest) =
      lead.dropWhile Text.isBlank ++ Text.trimEnd ('{' :: rest) := by
    rw [Text.trim, Text.trimStart_append_cons lead rest (by decide),
      Text.trimEnd_append _ solid]
  have closing (before : List Char) :
      withoutClosing (before ++ Text.trimEnd ('{' :: rest)) = before ++ openEnd ('{' :: rest) :=
    withoutClosing_append before (Text.trimEnd_ne_nil solid)
  rw [body_eq, trimmed]
  cases start : lead.dropWhile Text.isBlank with
  | nil =>
      obtain ⟨tail, ended⟩ := Text.exists_trimEnd_cons '{' rest (by decide)
      refine ⟨[], ?_, List.not_mem_nil⟩
      rw [withoutOpening, if_neg (by simp [ended])]
      exact closing []
  | cons letter more =>
      rw [start] at noOpenKept
      by_cases bracket : letter = '['
      · refine ⟨more, ?_, fun member => noOpenKept (List.mem_cons_of_mem _ member)⟩
        rw [withoutOpening, List.cons_append, if_pos (by simp [bracket]), List.tail_cons]
        exact closing more
      · refine ⟨letter :: more, ?_, noOpenKept⟩
        rw [withoutOpening, List.cons_append, if_neg (by simp [bracket])]
        exact closing (letter :: more)

/-- A cut only depends on what the text holds from its first opening brace on; of the end of the
text it never sees the blanks and the bracket. -/
theorem ofText_eq_cut (text : List Char) : Cut.ofText text = cut (openEnd text) := by
  by_cases opening : '{' ∈ text
  · obtain ⟨lead, rest, rfl, noOpen⟩ := List.eq_append_cons_of_mem opening
    obtain ⟨kept, same, noOpenKept⟩ := exists_body_eq_append noOpen rest
    rw [Cut.ofText, same, openEnd_append lead (not_allBlank_of_mem List.mem_cons_self), cut, cut,
      List.foldl_append, List.foldl_append, Scan.foldl_step_outside rfl noOpenKept,
      Scan.foldl_step_outside rfl noOpen]
  · have noOpenBody : '{' ∉ body text := fun member => opening (body_subset text member)
    have noOpenEnd : '{' ∉ openEnd text := by
      obtain ⟨trail, same, _⟩ := exists_append_openEnd text
      intro member
      exact opening (by rw [same]; exact List.mem_append_left _ member)
    rw [Cut.ofText, cut, cut, Scan.foldl_step_outside rfl noOpenBody,
      Scan.foldl_step_outside rfl noOpenEnd]

theorem records_ofText (text : List Char) :
    (Cut.ofText text).records = (text.foldl Scan.step Scan.start).finished.reverse := by
  obtain ⟨trail, same, noOpen, noClose⟩ := exists_append_openEnd text
  have whole : text.foldl Scan.step Scan.start =
      trail.foldl Scan.step ((openEnd text).foldl Scan.step Scan.start) := by
    rw [← List.foldl_append, ← same]
  rw [whole, (Scan.foldl_step_plain _ noOpen noClose).1, ofText_eq_cut]
  rfl

theorem ofText_eq_iff_yields {text : List Char} {records : List (List Char)} :
    Cut.ofText text = ⟨records, none⟩ ↔ Yields text records := by
  obtain ⟨trail, same, noOpen, noClose⟩ := exists_append_openEnd text
  rw [ofText_eq_cut, Yields, same, List.foldl_append, ← same]
  generalize openEnd text = kept
  constructor
  · intro found
    simp only [cut, Scan.finish, Cut.mk.injEq] at found
    have closed : (kept.foldl Scan.step Scan.start).depth = 0 := by
      by_cases depth : (kept.foldl Scan.step Scan.start).depth = 0
      · exact depth
      · rw [if_neg depth] at found
        exact absurd found.2 (Option.some_ne_none _)
    rw [Scan.foldl_step_outside closed noOpen, Scan.eq_outside_of_depth closed, ← found.1,
      List.reverse_reverse]
  · intro yields
    obtain ⟨finished, depth⟩ :=
      Scan.foldl_step_plain (kept.foldl Scan.step Scan.start) noOpen noClose
    rw [yields] at finished depth
    have closed : (kept.foldl Scan.step Scan.start).depth = 0 := depth.symm
    rw [cut, Scan.finish, if_pos closed, ← finished]
    simp [Scan.outside]

theorem yields_of_tail_eq_none {text : List Char} (closed : (Cut.ofText text).tail = none) :
    Yields text (Cut.ofText text).records :=
  ofText_eq_iff_yields.mp (by rw [← closed])

theorem ofText_eq_of_not_mem {text : List Char} (other : '{' ∉ text) :
    Cut.ofText text = ⟨[], none⟩ :=
  ofText_eq_iff_yields.mpr (yields_of_not_mem other)

/-- Behind a text that ends between records, a text is cut as it is on its own. -/
theorem ofText_append {first : List Char} (second : List Char)
    (closed : (Cut.ofText first).tail = none) :
    Cut.ofText (first ++ second) =
      ⟨(Cut.ofText first).records ++ (Cut.ofText second).records, (Cut.ofText second).tail⟩ := by
  have yieldsFirst := yields_of_tail_eq_none closed
  by_cases opening : '{' ∈ second
  · rw [ofText_eq_cut (first ++ second), openEnd_append first (not_allBlank_of_mem opening),
      ofText_eq_cut second, cut, List.foldl_append, yieldsFirst]
    -- The second scan starts behind the records of the first instead of behind none.
    have framed := Scan.foldl_step_finished Scan.start (Cut.ofText first).records.reverse
      (openEnd second)
    have behind : { Scan.start with
        finished := Scan.start.finished ++ (Cut.ofText first).records.reverse } =
        Scan.outside (Cut.ofText first).records.reverse := rfl
    rw [behind] at framed
    rw [framed]
    simp [cut, Scan.finish]
  · have yields := yieldsFirst.append (yields_of_not_mem opening)
    rw [ofText_eq_iff_yields.mpr yields, ofText_eq_of_not_mem opening]

end Visa.Record
