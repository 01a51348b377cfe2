import Visa.Text.Search

namespace Visa.Text

/-! How a search for a quoted name goes over text that is made of literals. The search does not
know which quotes open a literal and which close one, so between two literals there has to be a
mark that no name holds. -/

variable {mark : Char} {before rest : List Char}

theorem cutAt_mark (rest : List Char) (free : mark ∉ before) :
    cutAt [mark] (before ++ mark :: rest) = some (before, rest) := by
  induction before with
  | nil => simp [cutAt]
  | cons letter before ih =>
      simp only [List.mem_cons, not_or] at free
      simp [cutAt, free.1, ih free.2]

theorem after?_mark (rest : List Char) (free : mark ∉ before) :
    after? [mark] (before ++ mark :: rest) = some rest := by
  rw [after?, cutAt_mark rest free, Option.map_some]

theorem cutAt_mark_eq_none {text : List Char} (free : mark ∉ text) : cutAt [mark] text = none :=
  cutAt_eq_none_iff.mpr fun inside => free (inside.subset List.mem_cons_self)

theorem after?_mark_eq_none {text : List Char} (free : mark ∉ text) :
    after? [mark] text = none := by
  rw [after?, cutAt_mark_eq_none free, Option.map_none]

theorem before?_mark_eq_none {text : List Char} (free : mark ∉ text) :
    before? [mark] text = none := by
  rw [before?, cutAt_mark_eq_none free, Option.map_none]

theorem before?_mark (rest : List Char) (free : mark ∉ before) :
    before? [mark] (before ++ mark :: rest) = some before := by
  rw [before?, cutAt_mark rest free, Option.map_some]

theorem exists_of_before?_mark {text : List Char} (found : before? [mark] text = some before) :
    ∃ rest, text = before ++ mark :: rest := by
  obtain ⟨⟨front, rest⟩, cut, rfl⟩ := Option.map_eq_some_iff.mp found
  exact ⟨rest, by simpa using eq_append_of_cutAt cut⟩

/-! ## Keys -/

variable {first : Char} {key : List Char}

theorem after?_append (rest : List Char) :
    after? (first :: key) (first :: key ++ rest) = some rest := by
  have here : (first :: key).isPrefixOf (first :: (key ++ rest)) = true :=
    List.isPrefixOf_iff_prefix.mpr (List.prefix_append _ _)
  rw [after?, List.cons_append, cutAt, if_pos here]
  simp

theorem after?_cons_of_not_prefix {letter : Char} (absent : ¬first :: key <+: letter :: rest) :
    after? (first :: key) (letter :: rest) = after? (first :: key) rest := by
  have elsewhere : ¬(first :: key).isPrefixOf (letter :: rest) = true := fun here =>
    absent (List.isPrefixOf_iff_prefix.mp here)
  rw [after?, cutAt, if_neg elsewhere, Option.map_map]
  rfl

theorem after?_append_of_not_mem (rest : List Char) (free : first ∉ before) :
    after? (first :: key) (before ++ rest) = after? (first :: key) rest := by
  induction before with
  | nil => rfl
  | cons letter before ih =>
      simp only [List.mem_cons, not_or] at free
      rw [List.cons_append, after?_cons_of_not_prefix, ih free.2]
      intro here
      exact free.1 (List.cons_prefix_cons.mp here).1

theorem cutAt_append {after text : List Char} (rest : List Char)
    (found : cutAt (first :: key) text = some (before, after)) :
    cutAt (first :: key) (text ++ rest) = some (before, after ++ rest) := by
  induction text generalizing before with
  | nil => cases found
  | cons letter text ih =>
      have whole := eq_append_of_cutAt found
      rw [cutAt] at found
      rw [List.cons_append, cutAt]
      by_cases here : (first :: key).isPrefixOf (letter :: text)
      · have longer : (first :: key).isPrefixOf (letter :: (text ++ rest)) := by
          rw [List.isPrefixOf_iff_prefix] at here ⊢
          exact here.trans (List.prefix_append (letter :: text) rest)
        rw [if_pos here] at found
        cases found
        rw [if_pos longer, ← List.cons_append, List.drop_append_of_le_length
          (List.isPrefixOf_iff_prefix.mp here).length_le]
      · -- The key fits into what is left of the text, so it cannot reach beyond it.
        have elsewhere : ¬(first :: key).isPrefixOf (letter :: (text ++ rest)) := by
          intro longer
          refine here (List.isPrefixOf_iff_prefix.mpr (List.prefix_of_prefix_length_le
            (List.isPrefixOf_iff_prefix.mp longer)
            (List.prefix_append (letter :: text) rest) ?_))
          have lengths := congrArg List.length whole
          simp only [List.length_append] at lengths
          omega
        rw [if_neg here] at found
        obtain ⟨⟨start, stop⟩, later, same⟩ := Option.map_eq_some_iff.mp found
        cases same
        rw [if_neg elsewhere, ih later, Option.map_some]

/-! ## Quoted names -/

theorem eq_of_append_cons {left right leftRest rightRest : List Char} (leftFree : mark ∉ left)
    (rightFree : mark ∉ right) (same : left ++ mark :: leftRest = right ++ mark :: rightRest) :
    left = right := by
  induction left generalizing right with
  | nil =>
      cases right with
      | nil => rfl
      | cons letter right =>
          simp only [List.nil_append, List.cons_append, List.cons.injEq] at same
          exact absurd (same.1 ▸ List.mem_cons_self) rightFree
  | cons letter left ih =>
      cases right with
      | nil =>
          simp only [List.nil_append, List.cons_append, List.cons.injEq] at same
          exact absurd (same.1 ▸ List.mem_cons_self) leftFree
      | cons other right =>
          simp only [List.cons_append, List.cons.injEq] at same
          simp only [List.mem_cons, not_or] at leftFree rightFree
          rw [same.1, ih leftFree.2 rightFree.2 same.2]

def quotedName (name : List Char) : List Char := '"' :: (name ++ ['"'])

variable {name : List Char}

/-- Another literal is passed up to its closing quote, which might open the name. -/
theorem after?_quotedName_of_ne {literal : List Char} (rest : List Char) (nameFree : '"' ∉ name)
    (literalFree : '"' ∉ literal) (different : literal ≠ name) :
    after? (quotedName name) ('"' :: (literal ++ '"' :: rest)) =
      after? (quotedName name) ('"' :: rest) := by
  rw [quotedName, after?_cons_of_not_prefix, after?_append_of_not_mem _ literalFree]
  intro here
  obtain ⟨more, same⟩ := (List.cons_prefix_cons.mp here).2
  rw [List.append_assoc, List.singleton_append] at same
  exact different (eq_of_append_cons nameFree literalFree same).symm

/-- A quote that a mark follows does not open the name. -/
theorem after?_quotedName_of_mark {gap : List Char} (rest : List Char) (gapFree : '"' ∉ gap)
    (notQuote : mark ≠ '"') (foreign : mark ∉ name) :
    after? (quotedName name) ('"' :: (gap ++ mark :: rest)) = after? (quotedName name) rest := by
  have free : '"' ∉ gap ++ [mark] := by simp [gapFree, Ne.symm notQuote]
  rw [quotedName, after?_cons_of_not_prefix, List.append_cons gap mark rest,
    after?_append_of_not_mem _ free]
  intro here
  obtain ⟨more, same⟩ := (List.cons_prefix_cons.mp here).2
  rw [List.append_assoc, List.singleton_append] at same
  rcases List.append_eq_append_iff.mp same with ⟨middle, longer, tail⟩ | ⟨middle, shorter, tail⟩
  · cases middle with
    | nil =>
        simp only [List.nil_append, List.cons.injEq] at tail
        exact notQuote tail.1.symm
    | cons letter middle =>
        simp only [List.cons_append, List.cons.injEq] at tail
        exact gapFree (by rw [longer, ← tail.1]; simp)
  · cases middle with
    | nil =>
        simp only [List.nil_append, List.cons.injEq] at tail
        exact notQuote tail.1
    | cons letter middle =>
        simp only [List.cons_append, List.cons.injEq] at tail
        exact foreign (by rw [shorter, ← tail.1]; simp)

def PassedBy (key text : List Char) : Prop :=
  ∀ rest, after? key (text ++ rest) = after? key rest

theorem PassedBy.append {key first second : List Char} (passedFirst : PassedBy key first)
    (passedSecond : PassedBy key second) : PassedBy key (first ++ second) := by
  intro rest
  rw [List.append_assoc, passedFirst, passedSecond]

/-- A quote opens a name only if the first letter of the name is next to it. -/
theorem passedBy_concat {first last : Char} {name text : List Char} (free : first ∉ text)
    (plain : last ∉ quotedName (first :: name)) :
    PassedBy (quotedName (first :: name)) (text ++ [last]) := by
  intro rest
  simp only [quotedName, List.mem_cons, List.cons_append, not_or] at plain
  induction text with
  | nil =>
      apply after?_cons_of_not_prefix
      intro here
      exact plain.1 (List.cons_prefix_cons.mp here).1.symm
  | cons letter text ih =>
      simp only [List.mem_cons, not_or] at free
      rw [List.cons_append, List.cons_append, quotedName, after?_cons_of_not_prefix]
      · exact ih free.2
      · intro here
        have next := (List.cons_prefix_cons.mp here).2
        cases text with
        | nil => exact plain.2.1 (List.cons_prefix_cons.mp next).1.symm
        | cons other text =>
            exact free.2 ((List.cons_prefix_cons.mp next).1 ▸ List.mem_cons_self)

/-- A key is not found across a letter that it does not hold. -/
theorem passedBy_of_cutAt_eq_none {first last : Char} {key text : List Char}
    (absent : cutAt (first :: key) (text ++ [last]) = none) (foreign : last ∉ first :: key) :
    PassedBy (first :: key) (text ++ [last]) := by
  intro rest
  induction text with
  | nil =>
      apply after?_cons_of_not_prefix
      intro here
      exact foreign ((List.cons_prefix_cons.mp here).1 ▸ List.mem_cons_self)
  | cons letter text ih =>
      rw [cutAt_eq_none_iff, List.cons_append, List.infix_cons_iff, not_or] at absent
      rw [List.cons_append, List.cons_append, after?_cons_of_not_prefix,
        ih (cutAt_eq_none_iff.mpr absent.2)]
      intro here
      rcases List.prefix_or_prefix_of_prefix here
        (List.prefix_append (letter :: (text ++ [last])) rest) with within | beyond
      · exact absent.1 within
      · exact foreign (beyond.subset (by simp))

theorem passedBy_of_not_mem (name : List Char) {text : List Char} (free : '"' ∉ text) :
    PassedBy (quotedName name) text := fun rest => after?_append_of_not_mem rest free

end Visa.Text
