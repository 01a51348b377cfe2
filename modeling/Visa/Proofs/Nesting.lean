import Mathlib.Data.List.Induction
import Mathlib.Data.List.Infix
import Visa.Proofs.Cut

namespace Visa.Record

/-! The nesting of braces in a scan for records. How deep a scan is behind a text, and whether a
record ends within the text, follows from the numbers of braces at the start and at the end of the
text. -/

/-! ## Surplus braces -/

/-- A start of the text closes more braces than the text opens there and `depth` that were open
before. -/
def Closes (text : List Char) (depth : Nat) : Prop :=
  ∃ front, front <+: text ∧ front.count '{' + depth < front.count '}'

/-- An end of the text opens more than `depth` braces beyond those that are closed there. -/
def Opens (text : List Char) (depth : Nat) : Prop :=
  ∃ back, back <:+ text ∧ back.count '}' + depth < back.count '{'

instance (text : List Char) (depth : Nat) : Decidable (Closes text depth) :=
  decidable_of_iff (∃ front ∈ text.inits, front.count '{' + depth < front.count '}')
    (by simp only [List.mem_inits, Closes])

instance (text : List Char) (depth : Nat) : Decidable (Opens text depth) :=
  decidable_of_iff (∃ back ∈ text.tails, back.count '}' + depth < back.count '{')
    (by simp only [List.mem_tails, Opens])

variable {text front back rest head gap : List Char} {letter : Char} {depth : Nat}

theorem not_closes_nil (depth : Nat) : ¬Closes [] depth := by
  rintro ⟨front, isStart, more⟩
  simp [List.prefix_nil.mp isStart] at more

theorem closes_cons_iff :
    Closes (letter :: rest) depth ↔
      ∃ front, front <+: rest ∧
        (letter :: front).count '{' + depth < (letter :: front).count '}' := by
  constructor
  · rintro ⟨front, isStart, more⟩
    rcases List.prefix_cons_iff.mp isStart with rfl | ⟨later, rfl, within⟩
    · simp at more
    · exact ⟨later, within, more⟩
  · rintro ⟨front, within, more⟩
    exact ⟨letter :: front, List.cons_prefix_cons.mpr ⟨rfl, within⟩, more⟩

theorem closes_open_iff : Closes ('{' :: rest) depth ↔ Closes rest (depth + 1) := by
  rw [closes_cons_iff]
  refine exists_congr fun front => and_congr_right fun _ => ?_
  simp only [List.count_cons_self, List.count_cons_of_ne (by decide : '{' ≠ '}')]
  omega

theorem closes_close_zero (rest : List Char) : Closes ('}' :: rest) 0 :=
  closes_cons_iff.mpr ⟨[], List.nil_prefix, by decide⟩

theorem closes_close_succ_iff : Closes ('}' :: rest) (depth + 1) ↔ Closes rest depth := by
  rw [closes_cons_iff]
  refine exists_congr fun front => and_congr_right fun _ => ?_
  simp only [List.count_cons_self, List.count_cons_of_ne (by decide : '}' ≠ '{')]
  omega

theorem closes_plain_iff (notOpen : letter ≠ '{') (notClose : letter ≠ '}') :
    Closes (letter :: rest) depth ↔ Closes rest depth := by
  rw [closes_cons_iff]
  simp only [List.count_cons_of_ne notOpen, List.count_cons_of_ne notClose, Closes]

/-- A text that closes more braces than it opens gets out of whatever depth an end of it leaves. -/
theorem closes_of_suffix (fewer : text.count '{' < text.count '}') (isEnd : back <:+ text)
    (deep : back.count '{' = back.count '}' + depth) : Closes text depth := by
  obtain ⟨front, rfl⟩ := isEnd
  rw [List.count_append, List.count_append] at fewer
  exact ⟨front, List.prefix_append _ _, by omega⟩

/-- A text that opens as many braces as it closes stays within a depth that no end of it exceeds. -/
theorem not_closes_of_suffixes (enough : text.count '}' ≤ text.count '{')
    (deep : ∀ back, back <:+ text → back.count '{' ≤ back.count '}' + depth) :
    ¬Closes text depth := by
  rintro ⟨front, ⟨back, rfl⟩, more⟩
  have within := deep back (List.suffix_append _ _)
  rw [List.count_append, List.count_append] at enough
  omega

namespace Scan

/-! ## One record -/

theorem finished_foldl_of_not_closes (finished : List (List Char)) (held : List Char)
    (kept : ¬Closes text depth) :
    (text.foldl step ⟨finished, held, depth + 1⟩).finished = finished := by
  induction text generalizing held depth with
  | nil => rfl
  | cons letter rest ih =>
      rw [List.foldl_cons]
      by_cases isOpen : letter = '{'
      · subst isOpen
        exact ih ('{' :: held) (mt closes_open_iff.mpr kept)
      by_cases isClose : letter = '}'
      · subst isClose
        cases depth with
        | zero => exact absurd (closes_close_zero rest) kept
        | succ depth => exact ih ('}' :: held) (mt closes_close_succ_iff.mpr kept)
      · rw [step_inside finished held depth isOpen isClose]
        exact ih (letter :: held) (mt (closes_plain_iff isOpen isClose).mpr kept)

theorem exists_front_of_closes (closes : Closes text depth) :
    ∃ front back, text = front ++ back ∧ ∀ finished held,
      front.foldl step ⟨finished, held, depth + 1⟩ =
        outside ((held.reverse ++ front) :: finished) := by
  induction text generalizing depth with
  | nil => exact absurd closes (not_closes_nil depth)
  | cons letter rest ih =>
      by_cases isOpen : letter = '{'
      · subst isOpen
        obtain ⟨front, back, rfl, ends⟩ := ih (closes_open_iff.mp closes)
        refine ⟨'{' :: front, back, rfl, fun finished held => ?_⟩
        have opened := ends finished ('{' :: held)
        rwa [List.reverse_cons, List.append_assoc] at opened
      by_cases isClose : letter = '}'
      · subst isClose
        cases depth with
        | zero =>
            refine ⟨['}'], rest, rfl, fun finished held => ?_⟩
            simp [step, outside]
        | succ depth =>
            obtain ⟨front, back, rfl, ends⟩ := ih (closes_close_succ_iff.mp closes)
            refine ⟨'}' :: front, back, rfl, fun finished held => ?_⟩
            have closed := ends finished ('}' :: held)
            rwa [List.reverse_cons, List.append_assoc] at closed
      · obtain ⟨front, back, rfl, ends⟩ := ih ((closes_plain_iff isOpen isClose).mp closes)
        refine ⟨letter :: front, back, rfl, fun finished held => ?_⟩
        have passed := ends finished (letter :: held)
        rw [List.reverse_cons, List.append_assoc] at passed
        rw [List.foldl_cons, step_inside finished held depth isOpen isClose]
        exact passed

/-! ## Steps -/

/-- All that a letter can do: nothing outside a record, unless it opens one; or it ends the record;
or it is held, and a brace changes how deep the record is. -/
theorem step_cases (scan : Scan) (letter : Char) :
    (scan.depth = 0 ∧ letter ≠ '{' ∧ scan.step letter = scan) ∨
    (scan.depth = 0 ∧ letter = '{' ∧ scan.step letter = ⟨scan.finished, ['{'], 1⟩) ∨
    (scan.depth = 1 ∧ letter = '}' ∧
      scan.step letter = ⟨(letter :: scan.held).reverse :: scan.finished, [], 0⟩) ∨
    (scan.depth ≠ 0 ∧ ∃ depth, scan.step letter = ⟨scan.finished, letter :: scan.held, depth⟩ ∧
      depth ≠ 0 ∧ depth + [letter].count '}' = scan.depth + [letter].count '{') := by
  obtain ⟨finished, held, depth⟩ := scan
  cases depth with
  | zero =>
      by_cases isOpen : letter = '{'
      · subst isOpen
        exact .inr (.inl ⟨rfl, rfl, rfl⟩)
      · exact .inl ⟨rfl, isOpen, step_outside rfl isOpen⟩
  | succ depth =>
      by_cases isOpen : letter = '{'
      · subst isOpen
        exact .inr (.inr (.inr ⟨by simp, depth + 2, rfl, by simp, by simp⟩))
      by_cases isClose : letter = '}'
      · subst isClose
        cases depth with
        | zero => exact .inr (.inr (.inl ⟨rfl, rfl, rfl⟩))
        | succ depth => exact .inr (.inr (.inr ⟨by simp, depth + 1, rfl, by simp, by simp⟩))
      · refine .inr (.inr (.inr ⟨by simp, depth + 1, ?_, by simp, ?_⟩))
        · exact step_inside finished held depth isOpen isClose
        · simp [isOpen, isClose]

/-! ## The depth behind a text -/

theorem depth_step (scan : Scan) (letter : Char) :
    scan.depth + [letter].count '{' ≤ (scan.step letter).depth + [letter].count '}' := by
  rcases step_cases scan letter with
    ⟨outside, other, same⟩ | ⟨outside, rfl, same⟩ | ⟨last, rfl, same⟩ | ⟨_, depth, same, _, deep⟩
  · simp [same, other]
  · simp [same, outside]
  · simp [same, last]
  · simp only [same]
    omega

theorem depth_foldl_step (scan : Scan) (text : List Char) :
    scan.depth + text.count '{' ≤ (text.foldl step scan).depth + text.count '}' := by
  induction text generalizing scan with
  | nil => exact Nat.le_refl _
  | cons letter rest ih =>
      have first := depth_step scan letter
      have later := ih (scan.step letter)
      have parts (brace : Char) :
          (letter :: rest).count brace = [letter].count brace + rest.count brace := by
        rw [← List.count_append, List.singleton_append]
      have opened := parts '{'
      have closed := parts '}'
      rw [List.foldl_cons]
      omega

/-- A scan is at least as deep as any end of the text leaves it. -/
theorem count_le_depth (scan : Scan) (isEnd : back <:+ text) :
    back.count '{' ≤ back.count '}' + (text.foldl step scan).depth := by
  obtain ⟨front, rfl⟩ := isEnd
  have deep := depth_foldl_step (front.foldl step scan) back
  rw [List.foldl_append]
  omega

/-! ## What a scan holds -/

/-- The scan holds an end of the text that lacks as many closing braces as the scan is deep. -/
structure Holds (text : List Char) (scan : Scan) : Prop where
  held : scan.held.reverse <:+ text
  deep : scan.held.count '{' = scan.held.count '}' + scan.depth
  free : scan.depth = 0 → scan.held = []

theorem holds_start (text : List Char) : Holds text start where
  held := List.nil_suffix
  deep := rfl
  free _ := rfl

theorem Holds.of_suffix {scan : Scan} (holds : Holds back scan) (isEnd : back <:+ text) :
    Holds text scan := { holds with held := holds.held.trans isEnd }

theorem Holds.balance {scan : Scan} (holds : Holds text scan) :
    scan.held.reverse.count '{' = scan.held.reverse.count '}' + scan.depth := by
  rw [List.count_reverse, List.count_reverse]
  exact holds.deep

theorem Holds.open_mem {scan : Scan} (holds : Holds text scan) (inside : scan.depth ≠ 0) :
    '{' ∈ scan.held.reverse := by
  have balance := holds.balance
  exact List.count_pos_iff.mp (by omega)

theorem suffix_concat (isEnd : back <:+ text) : back ++ [letter] <:+ text ++ [letter] := by
  obtain ⟨front, rfl⟩ := isEnd
  exact ⟨front, by simp⟩

theorem Holds.step {scan : Scan} (holds : Holds text scan) (letter : Char) :
    Holds (text ++ [letter]) (scan.step letter) := by
  have longer : (letter :: scan.held).reverse <:+ text ++ [letter] := by
    rw [List.reverse_cons]
    exact suffix_concat holds.held
  rcases step_cases scan letter with
    ⟨outside, _, same⟩ | ⟨outside, rfl, same⟩ | ⟨_, _, same⟩ | ⟨_, depth, same, inside, deep⟩
  · rw [same]
    have nothing := holds.free outside
    exact ⟨by simp [nothing], by simp [nothing, outside], fun _ => nothing⟩
  · rw [same]
    exact ⟨List.suffix_append _ _, by simp, nofun⟩
  · rw [same]
    exact ⟨List.nil_suffix, rfl, fun _ => rfl⟩
  · rw [same]
    refine ⟨longer, ?_, fun outside => absurd outside inside⟩
    have balance := holds.deep
    rw [List.count_singleton, List.count_singleton] at deep
    simp only [List.count_cons]
    omega

theorem holds_foldl_step (text : List Char) : Holds text (text.foldl Scan.step start) := by
  induction text using List.reverseRecOn with
  | nil => exact holds_start []
  | append_singleton text letter ih =>
      rw [List.foldl_append]
      exact ih.step letter

/-- The records that are found in a text are pieces of it. -/
theorem infix_of_mem_finished (text : List Char) :
    ∀ record ∈ (text.foldl Scan.step start).finished, record <:+: text := by
  induction text using List.reverseRecOn with
  | nil => exact fun _ inside => absurd inside List.not_mem_nil
  | append_singleton text letter ih =>
      have isEnd := (holds_foldl_step text).held
      rw [List.foldl_append, List.foldl_cons, List.foldl_nil]
      generalize text.foldl Scan.step start = scan at ih isEnd
      have earlier : ∀ record ∈ scan.finished, record <:+: text ++ [letter] :=
        fun record inside => (ih record inside).trans (List.prefix_append _ _).isInfix
      rcases step_cases scan letter with
        ⟨_, _, same⟩ | ⟨_, _, same⟩ | ⟨_, _, same⟩ | ⟨_, depth, same, _⟩
      · rwa [same]
      · rwa [same]
      · rw [same]
        refine List.forall_mem_cons.mpr ⟨?_, earlier⟩
        rw [List.reverse_cons]
        exact (suffix_concat isEnd).isInfix
      · rwa [same]

/-! ## Records in a row

Between two records a scan may still hold an end of the one before; the next record is then read as
its continuation. -/

/-- What a record starts with that is found behind a gap. -/
def carried (scan : Scan) (gap : List Char) : List Char :=
  if scan.depth = 0 then [] else scan.held.reverse ++ gap

theorem foldl_step_heading {scan : Scan} (free : scan.depth = 0 → scan.held = [])
    (gapOpen : '{' ∉ gap) (gapClose : '}' ∉ gap) (headOpen : '{' ∉ head) (headClose : '}' ∉ head) :
    (gap ++ '{' :: head).foldl step scan =
      ⟨scan.finished, (scan.carried gap ++ '{' :: head).reverse, scan.depth + 1⟩ := by
  obtain ⟨finished, held, depth⟩ := scan
  rw [List.foldl_append, List.foldl_cons]
  cases depth with
  | zero =>
      have outside : gap.foldl step ⟨finished, held, 0⟩ = ⟨finished, held, 0⟩ :=
        foldl_step_outside rfl gapOpen
      have opened : step ⟨finished, held, 0⟩ '{' = ⟨finished, ['{'], 0 + 1⟩ := rfl
      rw [outside, opened, foldl_step_inside finished ['{'] 0 headOpen headClose]
      simp [carried]
  | succ depth =>
      have opened : step ⟨finished, gap.reverse ++ held, depth + 1⟩ '{' =
          ⟨finished, '{' :: (gap.reverse ++ held), depth + 1 + 1⟩ := rfl
      rw [foldl_step_inside finished held depth gapOpen gapClose, opened,
        foldl_step_inside finished _ (depth + 1) headOpen headClose]
      simp [carried]

/-- A record whose rest closes it is found, and then pieces of the rest; the scan goes on to hold an
end of the rest. -/
theorem exists_record_of_closes {scan : Scan} (free : scan.depth = 0 → scan.held = [])
    (gapOpen : '{' ∉ gap) (gapClose : '}' ∉ gap) (headOpen : '{' ∉ head) (headClose : '}' ∉ head)
    (closes : Closes rest scan.depth) :
    ∃ front pieces,
      ((gap ++ '{' :: head ++ rest).foldl step scan).finished =
        pieces ++ (scan.carried gap ++ '{' :: (head ++ front)) :: scan.finished ∧
      (∀ piece ∈ pieces, piece <:+: rest) ∧
      Holds rest ((gap ++ '{' :: head ++ rest).foldl step scan) := by
  obtain ⟨front, back, rfl, ends⟩ := exists_front_of_closes closes
  rw [List.foldl_append, foldl_step_heading free gapOpen gapClose headOpen headClose,
    List.foldl_append, ends, List.reverse_reverse]
  have framed := foldl_step_finished start
    ((scan.carried gap ++ '{' :: head ++ front) :: scan.finished) back
  rw [show outside ((scan.carried gap ++ '{' :: head ++ front) :: scan.finished) =
    { start with finished :=
      start.finished ++ (scan.carried gap ++ '{' :: head ++ front) :: scan.finished } from rfl,
    framed]
  have isEnd : back <:+ front ++ back := List.suffix_append _ _
  have holds := (holds_foldl_step back).of_suffix isEnd
  refine ⟨front, (back.foldl step start).finished, by simp, fun piece inside => ?_,
    holds.held, holds.deep, holds.free⟩
  exact (infix_of_mem_finished back piece inside).trans isEnd.isInfix

/-- A record whose rest does not close it is never found. -/
theorem finished_of_not_closes {scan : Scan} (free : scan.depth = 0 → scan.held = [])
    (gapOpen : '{' ∉ gap) (gapClose : '}' ∉ gap) (headOpen : '{' ∉ head) (headClose : '}' ∉ head)
    (kept : ¬Closes rest scan.depth) :
    ((gap ++ '{' :: head ++ rest).foldl step scan).finished = scan.finished := by
  rw [List.foldl_append, foldl_step_heading free gapOpen gapClose headOpen headClose]
  exact finished_foldl_of_not_closes _ _ kept

end Scan

end Visa.Record
