import Visa.Proofs.Search
import Visa.Text.Blank

namespace Visa.Text

/-! Texts that are put together from pieces with a separator between them, and texts that are taken
apart into such pieces. -/

variable {letter mark : Char} {separator more : List Char} {pieces left right : List (List Char)}

theorem intercalate_append (separator : List Char) (nonempty : pieces ≠ []) :
    separator.intercalate pieces ++ separator = pieces.flatMap fun piece => piece ++ separator := by
  induction pieces with
  | nil => contradiction
  | cons piece pieces ih =>
      cases pieces with
      | nil => simp
      | cons next pieces =>
          rw [List.intercalate_cons_cons, List.append_assoc, ih (List.cons_ne_nil _ _)]
          simp only [List.flatMap_cons]

theorem mem_of_mem_intercalate (inside : letter ∈ separator.intercalate pieces) :
    letter ∈ separator ∨ ∃ piece ∈ pieces, letter ∈ piece := by
  have nonempty : pieces ≠ [] := by
    rintro rfl
    simp at inside
  have longer : letter ∈ separator.intercalate pieces ++ separator := List.mem_append_left _ inside
  rw [intercalate_append separator nonempty] at longer
  obtain ⟨piece, listed, here⟩ := List.mem_flatMap.mp longer
  rcases List.mem_append.mp here with inPiece | between
  · exact .inr ⟨piece, listed, inPiece⟩
  · exact .inl between

theorem not_mem_intercalate (between : letter ∉ separator)
    (within : ∀ piece ∈ pieces, letter ∉ piece) : letter ∉ separator.intercalate pieces := by
  intro inside
  rcases mem_of_mem_intercalate inside with inSeparator | ⟨piece, listed, here⟩
  · exact between inSeparator
  · exact within piece listed here

theorem intercalate_eq_nil_iff (solid : ∀ piece ∈ pieces, piece ≠ []) :
    separator.intercalate pieces = [] ↔ pieces = [] := by
  cases pieces with
  | nil => simp
  | cons piece pieces =>
      have nonempty : piece ≠ [] := solid piece List.mem_cons_self
      cases pieces with
      | nil => simp [nonempty]
      | cons next pieces => simp [List.intercalate_cons_cons, nonempty]

theorem eq_of_flatMap_append (leftFree : ∀ piece ∈ left, mark ∉ piece)
    (rightFree : ∀ piece ∈ right, mark ∉ piece)
    (same : (left.flatMap fun piece => piece ++ mark :: more) =
      right.flatMap fun piece => piece ++ mark :: more) : left = right := by
  induction left generalizing right with
  | nil =>
      cases right with
      | nil => rfl
      | cons other right => simp at same
  | cons piece left ih =>
      cases right with
      | nil => simp at same
      | cons other right =>
          obtain ⟨free, leftFree⟩ := List.forall_mem_cons.mp leftFree
          obtain ⟨otherFree, rightFree⟩ := List.forall_mem_cons.mp rightFree
          simp only [List.flatMap_cons, List.append_assoc, List.cons_append] at same
          have first : piece = other := eq_of_append_cons free otherFree same
          rw [first] at same
          simp only [List.append_cancel_left_eq, List.cons.injEq, true_and] at same
          rw [first, ih leftFree rightFree same]

/-- Pieces can be told apart if none of them holds the first letter of the separator. -/
theorem eq_of_intercalate (leftFree : ∀ piece ∈ left, mark ∉ piece)
    (rightFree : ∀ piece ∈ right, mark ∉ piece) (empty : left = [] ↔ right = [])
    (same : (mark :: more).intercalate left = (mark :: more).intercalate right) : left = right := by
  by_cases none : left = []
  · rw [none, empty.mp none]
  · have closed := congrArg (· ++ mark :: more) same
    simp only [intercalate_append _ none, intercalate_append _ (mt empty.mpr none)] at closed
    exact eq_of_flatMap_append leftFree rightFree closed

theorem eq_of_intercalate_strings {separator : String} {left right : List String}
    (begins : separator.toList = mark :: more) (leftFree : ∀ piece ∈ left, mark ∉ piece.toList)
    (rightFree : ∀ piece ∈ right, mark ∉ piece.toList) (empty : left = [] ↔ right = [])
    (same : separator.intercalate left = separator.intercalate right) : left = right := by
  have letters := congrArg String.toList same
  rw [String.toList_intercalate, String.toList_intercalate, begins] at letters
  have pieces := eq_of_intercalate (by simpa using leftFree) (by simpa using rightFree)
    (by simpa using empty) letters
  exact (List.map_inj_right fun _ _ => String.toList_injective).mp pieces

/-! ## Splitting -/

theorem refused_of_mem_splitOnP {splits : Char → Bool} {text : List Char} :
    ∀ piece ∈ text.splitOnP splits, ∀ letter ∈ piece, splits letter = false := by
  induction text with
  | nil => simp
  | cons first rest ih =>
      rw [List.splitOnP_cons_eq_if_modifyHead]
      split
      · exact List.forall_mem_cons.mpr ⟨nofun, ih⟩
      · rename_i kept
        cases later : rest.splitOnP splits with
        | nil => exact absurd later (List.splitOnP_ne_nil splits rest)
        | cons piece pieces =>
            rw [later] at ih
            obtain ⟨refused, others⟩ := List.forall_mem_cons.mp ih
            rw [List.modifyHead_cons]
            exact List.forall_mem_cons.mpr
              ⟨List.forall_mem_cons.mpr ⟨by simpa using kept, refused⟩, others⟩

theorem solid_of_mem_words {text : List Char} :
    ∀ word ∈ words text, ∀ letter ∈ word, isBlank letter = false := fun word listed =>
  refused_of_mem_splitOnP word (List.mem_filter.mp listed).1

end Visa.Text
